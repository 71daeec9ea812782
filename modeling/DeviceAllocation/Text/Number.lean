import DeviceAllocation.Binary64
import DeviceAllocation.Text.DecimalDigit
import DeviceAllocation.Text.Numeral

namespace DeviceAllocation.Text

/-- The digits of a text in which single underscores may stand between two digits. -/
def groupedDigits? : List Char → Option (List Char)
  | [] => none
  | [d] => if d.isDigit then some [d] else none
  | d :: '_' :: rest => if d.isDigit then (groupedDigits? rest).map (d :: ·) else none
  | d :: rest => if d.isDigit then (groupedDigits? rest).map (d :: ·) else none

def takeSign : List Char → Bool × List Char
  | '-' :: rest => (true, rest)
  | '+' :: rest => (false, rest)
  | rest => (false, rest)

def plainInteger? (text : List Char) : Option Int :=
  let (negative, rest) := takeSign text
  (groupedDigits? rest).map fun digits => Binary64.withSign negative (digitsValue digits)

/-- The integer that a text denotes. Texts of too many digits denote none. -/
def integer? (text : List Char) : Option Int :=
  let plain := trimBy isPlainSpace (text.map plainChar)
  if maxDigits < (plain.filter Char.isDigit).length then none else plainInteger? plain

def powerOfTen? : List Char → Option Int
  | [] => some 0
  | mark :: rest => if mark = 'e' then plainInteger? rest else none

def digitsOrNone? (text : List Char) : Option (List Char) :=
  if text.isEmpty then some [] else groupedDigits? text

def real? (text : List Char) : Option Binary64 := do
  let plain := trimBy isPlainSpace (text.map fun c => (plainChar c).toLower)
  let (negative, rest) := takeSign plain
  if String.ofList rest ∈ ["inf", "infinity"] then return .infinite negative
  if String.ofList rest = "nan" then return .notANumber
  let mantissa := rest.takeWhile (· ≠ 'e')
  let power ← powerOfTen? (rest.dropWhile (· ≠ 'e'))
  let whole ← digitsOrNone? (mantissa.takeWhile (· ≠ '.'))
  let fraction ← digitsOrNone? ((mantissa.dropWhile (· ≠ '.')).drop 1)
  let digits := whole ++ fraction
  if digits.isEmpty then none
  else some (.ofDecimal negative (digitsValue digits) (power - fraction.length))

end DeviceAllocation.Text
