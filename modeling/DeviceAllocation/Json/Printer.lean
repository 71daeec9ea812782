import DeviceAllocation.Binary64.Digits
import DeviceAllocation.Json
import DeviceAllocation.Text.Quoted

namespace DeviceAllocation.Json

/-- The parts in which the two notations differ. -/
structure Spelling where
  text : String → String
  brokenText : List Nat → String
  null : String
  true : String
  false : String
  infinity : String
  notANumber : String

def escapeUnit (unit : Nat) : List Char :=
  '\\' :: 'u' :: Text.hexadecimal 4 unit

/-- One character inside a JSON text. Only printing ASCII characters stand for themselves. -/
def escapeChar (c : Char) : List Char :=
  if c = '"' then ['\\', '"']
  else if c = '\\' then ['\\', '\\']
  else if c = '\n' then ['\\', 'n']
  else if c = '\r' then ['\\', 'r']
  else if c = '\t' then ['\\', 't']
  else if c = '\x08' then ['\\', 'b']
  else if c = '\x0c' then ['\\', 'f']
  else
    let n := c.toNat
    if 0x20 ≤ n ∧ n < 0x7f then [c]
    else if n < 0x10000 then escapeUnit n
    else
      escapeUnit (0xd800 + (n - 0x10000) / 0x400) ++ escapeUnit (0xdc00 + (n - 0x10000) % 0x400)

def writeText (text : String) : String :=
  String.ofList ('"' :: text.toList.flatMap escapeChar ++ ['"'])

/-- One code point inside a JSON text. Half of a character is written as the unit that it is. -/
def escapePoint (point : Nat) : List Char :=
  if point.isValidChar then escapeChar (Char.ofNat point) else escapeUnit point

def writeBrokenText (points : List Nat) : String :=
  String.ofList ('"' :: points.flatMap escapePoint ++ ['"'])

def jsonSpelling : Spelling where
  text := writeText
  brokenText := writeBrokenText
  null := "null"
  true := "true"
  false := "false"
  infinity := "Infinity"
  notANumber := "NaN"

def messageSpelling : Spelling where
  text := Text.quote
  brokenText := fun points => Text.quote (withoutHalves points)
  null := "None"
  true := "True"
  false := "False"
  infinity := "inf"
  notANumber := "nan"

mutual

def print (spelling : Spelling) : Json → String
  | .null => spelling.null
  | .bool value => if value then spelling.true else spelling.false
  | .int value => toString value
  | .real value => value.signed Binary64.shortestText spelling.infinity spelling.notANumber
  | .text value => spelling.text value
  | .brokenText points => spelling.brokenText points
  | .list items => "[" ++ ", ".intercalate (printItems spelling items) ++ "]"
  | .object fields => "\x7b" ++ ", ".intercalate (printFields spelling fields) ++ "\x7d"

def printItems (spelling : Spelling) : List Json → List String
  | [] => []
  | item :: items => print spelling item :: printItems spelling items

def printFields (spelling : Spelling) : List (String × Json) → List String
  | [] => []
  | (name, value) :: fields =>
    (spelling.text name ++ ": " ++ print spelling value) :: printFields spelling fields

end

def write (value : Json) : String := print jsonSpelling value

def describe (value : Json) : String := print messageSpelling value

end DeviceAllocation.Json
