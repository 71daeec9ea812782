import DeviceAllocation.Text.Space

namespace DeviceAllocation.Text

inductive NumeralFault where
  | unreadable
  | oversized
  deriving DecidableEq, Repr

/-- Numbers of more digits than this are refused. -/
def maxDigits : Nat := 4300

def digitsValue (digits : List Char) : Nat :=
  digits.foldl (fun n d => 10 * n + (d.toNat - '0'.toNat)) 0

def startsNumber (c : Char) : Bool :=
  (c.isDigit && c ≠ '0') || c = '-'

/-- What is left after the zeros and underscores in front of a number, the last of which was `last`.
It stays if there is nothing else before the end or a point. -/
def afterZeros? (last : Char) : List Char → Option (List Char)
  | [] => some [last]
  | c :: rest =>
    if c = '0' || c = '_' then afterZeros? c rest
    else if startsNumber c then some (c :: rest)
    else if c = '.' then some (last :: c :: rest)
    else none

def dropZeros? : List Char → Option (List Char)
  | '0' :: rest => afterZeros? '0' rest
  | c :: rest => if startsNumber c then some (c :: rest) else none
  | [] => none

/-- A number without a fraction of zeros, of which there is at least one. -/
def dropZeroFraction (text : List Char) : List Char :=
  match text.dropWhile (· ≠ '.') with
  | _ :: d :: zeros => if (d :: zeros).all (· = '0') then text.takeWhile (· ≠ '.') else text
  | _ => text

def hasDoubleUnderscore : List Char → Bool
  | '_' :: '_' :: _ => true
  | _ :: rest => hasDoubleUnderscore rest
  | [] => false

/-- A number without the underscores in it, provided that they stand one by one inside. -/
def dropUnderscores (text : List Char) : List Char :=
  if text.head? = some '_' || text.getLast? = some '_' || hasDoubleUnderscore text then text
  else text.filter (· ≠ '_')

def plainInteger (text : List Char) : Except NumeralFault Int :=
  let negative := text.head? = some '-'
  let rest := if negative then text.drop 1 else text
  let digits := rest.takeWhile Char.isDigit
  if digits.isEmpty || (digits.head? = some '0' && 1 < digits.length) then .error .unreadable
  else if maxDigits < digits.length then .error .oversized
  else if digits.length < rest.length then .error .unreadable
  else .ok (if negative then -(digitsValue digits : Int) else digitsValue digits)

def cleaned? (text : List Char) : Option (List Char) :=
  let trimmed := trim text
  let negative := trimmed.head? = some '-'
  let unsigned :=
    match trimmed with
    | '-' :: rest => some rest
    | '+' :: rest => if rest.head? = some '-' then none else some rest
    | rest => some rest
  (unsigned.bind dropZeros?).map fun number =>
    let number := dropUnderscores (dropZeroFraction number)
    if negative then '-' :: number else number

/-- The integer that a text denotes. A text that has to be cleaned before it can be read is never
found to have too many digits, but then it is not read either. -/
def readInteger (text : List Char) : Except NumeralFault Int :=
  match plainInteger text with
  | .ok n => .ok n
  | .error .oversized => .error .oversized
  | .error .unreadable =>
    match (cleaned? text).map plainInteger with
    | some (.ok n) => .ok n
    | _ => .error .unreadable

end DeviceAllocation.Text
