import DeviceAllocation.Text.CaseContext
import DeviceAllocation.Text.LetterCase
import DeviceAllocation.Text.Space

namespace DeviceAllocation.Text

def meetsLetter (text : List Char) : Bool :=
  ((text.dropWhile isCaseIgnorable).head?.map isCased).getD false

/-- The small sigma between what comes before it, latest character first, and what comes after. It
is final when it ends a word of at least two letters. -/
def smallSigma (before after : List Char) : Char :=
  if meetsLetter before && !meetsLetter after then '\u03c2' else '\u03c3'

/-- The lower-case form of a character between what comes before it, latest character first, and
what comes after. -/
def lowerChar (before : List Char) (c : Char) (after : List Char) : List Char :=
  if c.toNat < 0x80 then [c.toLower]
  else if c = '\u03a3' then [smallSigma before after]
  else if c = '\u0130' then ['i', '\u0307']
  else [Char.ofNat (lowerPoint c.toNat)]

def lowerAfter (before : List Char) : List Char → List Char
  | [] => []
  | c :: after => lowerChar before c after ++ lowerAfter (c :: before) after

def lowerCase (text : String) : String :=
  String.ofList (lowerAfter [] text.toList)

def normalized (text : String) : String :=
  String.ofList (trimBy isSeparator (lowerCase text).toList)

end DeviceAllocation.Text
