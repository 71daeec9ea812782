import DeviceAllocation.Json.Printer
import DeviceAllocation.Log.Template

/-! The directives of a template take their arguments from a single value: one with a name takes a
field of it, and the first one without a name takes the value itself. -/

namespace DeviceAllocation.Template

def kindOf : Json → String
  | .null => "NoneType"
  | .bool _ => "bool"
  | .int _ => "int"
  | .real _ => "float"
  | .text _ => "str"
  | .brokenText _ => "str"
  | .list _ => "list"
  | .object _ => "dict"

inductive Problem where
  | noArguments (kind : String)
  | noFirstArgument
  | tooManyArguments
  | tooFewArguments
  | noNames
  | numbered
  | missingArgument (name : String)
  | unclosedName
  | unfinished
  | widthTooBig
  | precisionTooBig
  -- a width that is given as an argument takes more than 64 bits
  | widthOverflow
  -- a precision that is given as an argument takes more than 32 bits
  | precisionOverflow
  | tooManyDigits
  -- a text of such a width cannot be stored
  | outOfMemory
  | amountNotInteger
  | unknownConversion (letter : Char) (position : Nat)
  | notNumber (letter : Char) (kind : String)
  | notInteger (letter : Char) (kind : String)
  | notReal (kind : String)
  | tooLargeForReal
  | infiniteInteger
  | undefinedInteger
  | notCharacter
  | characterOutOfRange
  deriving DecidableEq, Repr

namespace Problem

def kind : Problem → String
  | noFirstArgument => "KeyError"
  | missingArgument _ => "KeyError"
  | unclosedName => "ValueError"
  | unfinished => "ValueError"
  | widthTooBig => "ValueError"
  | precisionTooBig => "ValueError"
  | unknownConversion _ _ => "ValueError"
  | undefinedInteger => "ValueError"
  | outOfMemory => "MemoryError"
  | widthOverflow => "OverflowError"
  | precisionOverflow => "OverflowError"
  | tooManyDigits => "OverflowError"
  | tooLargeForReal => "OverflowError"
  | infiniteInteger => "OverflowError"
  | characterOutOfRange => "OverflowError"
  | _ => "TypeError"

def message : Problem → String
  | noArguments kind => "object of type '" ++ kind ++ "' has no len()"
  | noFirstArgument => "0"
  | tooManyArguments => "not all arguments converted during string formatting"
  | tooFewArguments => "not enough arguments for format string"
  | noNames => "format requires a mapping"
  | numbered => "list indices must be integers or slices, not str"
  | missingArgument name => Text.quote name
  | unclosedName => "incomplete format key"
  | unfinished => "incomplete format"
  | widthTooBig => "width too big"
  | precisionTooBig => "precision too big"
  | widthOverflow => "Python int too large to convert to C ssize_t"
  | precisionOverflow => "Python int too large to convert to C int"
  | tooManyDigits => "precision too large"
  | outOfMemory => ""
  | amountNotInteger => "* wants int"
  | unknownConversion letter position =>
    let shown := if 31 ≤ letter.toNat ∧ letter.toNat ≤ 126 then letter else '?'
    "unsupported format character '" ++ String.ofList [shown] ++ "' (0x" ++
      String.ofList (Nat.toDigits 16 letter.toNat) ++ ") at index " ++ toString position
  | notNumber letter kind =>
    "%" ++ String.ofList [letter] ++ " format: a real number is required, not " ++ kind
  | notInteger letter kind =>
    "%" ++ String.ofList [letter] ++ " format: an integer is required, not " ++ kind
  | notReal kind => "must be real number, not " ++ kind
  | tooLargeForReal => "int too large to convert to float"
  | infiniteInteger => "cannot convert float infinity to integer"
  | undefinedInteger => "cannot convert float NaN to integer"
  | notCharacter => "%c requires int or char"
  | characterOutOfRange => "%c arg not in range(0x110000)"

end Problem

/-! ### Texts of arguments -/

/-- Parts of a text that is to be laid out: a sign, a mark of the base and the rest. -/
structure Parts where
  sign : List Char
  mark : List Char
  body : List Char

def signOf (flags : List Char) (negative : Bool) : List Char :=
  if negative then ['-']
  else if '+' ∈ flags then ['+']
  else if ' ' ∈ flags then [' ']
  else []

def align {α : Type} (flags : List Char) (width : Nat) (blank : α) (text : List α) : List α :=
  let blanks := List.replicate (width - text.length) blank
  if '-' ∈ flags then text ++ blanks else blanks ++ text

/-- The parts of a number filled up to a width. Zeros stand behind the sign and the mark when they
are wanted. -/
def layOut (flags : List Char) (width : Nat) (parts : Parts) : List Char :=
  let text := parts.sign ++ parts.mark ++ parts.body
  if '0' ∈ flags ∧ '-' ∉ flags then
    parts.sign ++ parts.mark ++ List.replicate (width - text.length) '0' ++ parts.body
  else align flags width ' ' text

def escapeForeign (c : Char) : List Char :=
  if c.toNat < 0x80 then [c]
  else if c.toNat < 0x100 then Text.backslash :: 'x' :: Text.hexadecimal 2 c.toNat
  else if c.toNat < 0x10000 then Text.backslash :: 'u' :: Text.hexadecimal 4 c.toNat
  else Text.backslash :: 'U' :: Text.hexadecimal 8 c.toNat

def plainText : Json → List Char
  | .text text => text.toList
  | .brokenText points => (Json.withoutHalves points).toList
  | value => value.describe.toList

def integerParts (flags : List Char) (letter : Char) (digits : Nat) (n : Int) : Parts :=
  let base := if letter = 'o' then 8 else if letter = 'x' ∨ letter = 'X' then 16 else 10
  let body := Nat.toDigits base n.natAbs
  let body := List.replicate (digits - body.length) '0' ++ body
  { sign := signOf flags (n < 0)
    mark := if '#' ∈ flags ∧ base ≠ 10 then ['0', letter] else []
    body := if letter = 'X' then body.map Char.toUpper else body }

def realParts (flags : List Char) (letter : Char) (places : Nat) (x : Binary64) : Parts :=
  let always := '#' ∈ flags
  let (negative, body) :=
    match x with
    | .finite negative mantissa exponent =>
      (negative,
        match letter.toLower with
        | 'f' => Binary64.fixedText places always mantissa exponent
        | 'e' => Binary64.exponentForm 'e' places always mantissa exponent
        | _ => Binary64.generalText 'e' places always mantissa exponent)
    | .infinite negative => (negative, ['i', 'n', 'f'])
    | .notANumber => (false, ['n', 'a', 'n'])
  ⟨signOf flags negative, [], if letter.isUpper then body.map Char.toUpper else body⟩

def wholeOf (letter : Char) : Json → Except Problem Int
  | .int n => .ok n
  | .bool value => .ok (if value then 1 else 0)
  | .real x =>
    if letter ∈ ['o', 'x', 'X'] then .error (.notInteger letter "float")
    else
      match x.truncate?, x with
      | some n, _ => .ok n
      | none, .notANumber => .error .undefinedInteger
      | none, _ => .error .infiniteInteger
  | value =>
    if letter ∈ ['o', 'x', 'X'] then .error (.notInteger letter (kindOf value))
    else .error (.notNumber letter (kindOf value))

def realOf : Json → Except Problem Binary64
  | .real x => .ok x
  | .bool value => .ok (Binary64.ofInt (if value then 1 else 0))
  | .int n =>
    match Binary64.ofInt n with
    | .infinite _ => .error .tooLargeForReal
    | x => .ok x
  | value => .error (.notReal (kindOf value))

/-- The code point that a value stands for, which may be half of a character. -/
def pointOf : Json → Except Problem Nat
  | .text text =>
    match text.toList with
    | [c] => .ok c.toNat
    | _ => .error .notCharacter
  | .int n => if 0 ≤ n ∧ n < 0x110000 then .ok n.toNat else .error .characterOutOfRange
  | .bool value => .ok (if value then 1 else 0)
  | _ => .error .notCharacter

def isConversion (letter : Char) : Bool :=
  letter ∈ "sradiuoxXeEfFgGc".toList

def convert (flags : List Char) (width : Nat) (precision : Option Nat) (letter : Char)
    (value : Json) : Except Problem (List Nat) :=
  let words (text : List Char) : List Nat :=
    (align flags width ' ' ((precision.map text.take).getD text)).map Char.toNat
  let number (parts : Parts) : List Nat := (layOut flags width parts).map Char.toNat
  if letter = 's' then .ok (words (plainText value))
  else if letter = 'r' then .ok (words value.describe.toList)
  else if letter = 'a' then .ok (words (value.describe.toList.flatMap escapeForeign))
  else if letter = 'c' then
    (pointOf value).map fun point => align flags width ' '.toNat [point]
  else if letter ∈ ['d', 'i', 'u', 'o', 'x', 'X'] then
    (wholeOf letter value).bind fun n =>
      if 0x7ffffffc < precision.getD 0 then .error .tooManyDigits
      else .ok (number (integerParts flags letter (precision.getD 0) n))
  else (realOf value).map fun x => number (realParts flags letter (precision.getD 6) x)

/-! ### Directives -/

structure Supply where
  value : Json
  fresh : Bool

def hasParts : Json → Bool
  | .list _ => true
  | .object _ => true
  | _ => false

def Supply.take (supply : Supply) : Except Problem (Json × Supply) :=
  if supply.fresh then .ok (supply.value, { supply with fresh := false })
  else .error .tooFewArguments

/-- The supply after the name of a directive has been looked up in the whole value. -/
def Supply.named (supply : Supply) (whole : Json) : Option Name → Except Problem Supply
  | none => .ok supply
  | some name =>
    match whole, name with
    | .list _, .unclosed => .error .unclosedName
    | .list _, .closed _ => .error .numbered
    | .object _, .unclosed => .error .unclosedName
    | .object fields, .closed name =>
      match Json.field? name fields with
      | some value => .ok ⟨value, true⟩
      | none => .error (.missingArgument name)
    | _, _ => .error .noNames

/-- An amount, which may be the next argument. Numbers greater than `limit` are a problem, and
another one in a template than in an argument, where they may go as far below zero and one more. -/
def Supply.amount (supply : Supply) (limit : Nat) (tooBig overflow : Problem) :
    Option Amount → Except Problem (Option Int × Supply)
  | none => .ok (none, supply)
  | some (.fixed n) => if limit < n then .error tooBig else .ok (some n, supply)
  | some .argument => do
    let (value, supply) ← supply.take
    match value with
    | .int n =>
      if n < -(limit : Int) - 1 ∨ limit < n then .error overflow else .ok (some n, supply)
    | .bool value => .ok (some (if value then 1 else 0), supply)
    | _ => .error .amountNotInteger

/-- Texts of this length and longer ones cannot be stored. -/
def addressable : Nat := 0x800000000000

def store (flags : List Char) (width : Nat) (precision : Option Nat) (letter : Char)
    (value : Json) : Except Problem (List Nat) :=
  if width < addressable then convert flags width precision letter value
  else (convert flags 0 precision letter value).bind fun _ => .error .outOfMemory

def fillDirective (whole : Json) (length : Nat) (supply : Supply) (directive : Directive) :
    Except Problem (List Nat × Supply) := do
  let supply ← supply.named whole directive.name
  let (width, supply) ←
    supply.amount 0x7fffffffffffffff .widthTooBig .widthOverflow directive.width
  let (precision, supply) ←
    supply.amount 0x7fffffff .precisionTooBig .precisionOverflow directive.precision
  let width := width.getD 0
  let flags := if width < 0 then '-' :: directive.flags else directive.flags
  match directive.conversion with
  | none => .error .unfinished
  | some letter =>
    let (value, supply) ← supply.take
    if isConversion letter then
      let text ← store flags width.natAbs (precision.map Int.toNat) letter value
      return (text, supply)
    else .error (.unknownConversion letter (length - directive.after - 1))

def fillPieces (whole : Json) (length : Nat) : Supply → List Piece → Except Problem (List Nat)
  | supply, [] =>
    if supply.fresh ∧ !hasParts whole then .error .tooManyArguments else .ok []
  | supply, .literal c :: rest => do return c.toNat :: (← fillPieces whole length supply rest)
  | supply, .directive directive :: rest => do
    let (text, supply) ← fillDirective whole length supply directive
    if supply.fresh ∧ hasParts whole then .error .tooManyArguments
    else return text ++ (← fillPieces whole length supply rest)

def fill (template : String) (whole : Json) : Except Problem Json := do
  let text := template.toList
  return .ofPoints (← fillPieces whole text.length ⟨whole, true⟩ (pieces text))

/-- The value that a list of arguments hands to a template. An only argument that is an object with
fields stands for all. -/
def argumentsOf : Json → Except Problem Json
  | .list [.object (field :: fields)] => .ok (.object (field :: fields))
  | .list items => .ok (.list items)
  | .text text => .ok (.text text)
  | .brokenText points => .ok (.brokenText points)
  | .object [_] => .error .noFirstArgument
  | .object fields => .ok (.object fields)
  | value => .error (.noArguments (kindOf value))

end DeviceAllocation.Template
