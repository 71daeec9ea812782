import DeviceAllocation.Json
import DeviceAllocation.Text.Hexadecimal
import DeviceAllocation.Text.Numeral

/-! The tokens of a JSON text. A word is a longest run of characters that are neither blank nor a
mark nor a quote. -/

namespace DeviceAllocation.Json

inductive Token where
  -- a brace, a bracket, a colon or a comma
  | mark (char : Char)
  | atom (value : Json)
  -- what stands where no token can be made out
  | stray

def isBlank (c : Char) : Bool :=
  c = ' ' || c = '\t' || c = '\n' || c = '\r'

def isMark (c : Char) : Bool :=
  c = '\x7b' || c = '\x7d' || c = '[' || c = ']' || c = ':' || c = ','

def fraction? : List Char → Option (List Char × List Char)
  | '.' :: rest =>
    if (rest.takeWhile Char.isDigit).isEmpty then none
    else some (rest.takeWhile Char.isDigit, rest.dropWhile Char.isDigit)
  | rest => some ([], rest)

def exponent? : List Char → Option Int
  | [] => some 0
  | mark :: rest =>
    let (negative, digits) :=
      match rest with
      | '-' :: ds => (true, ds)
      | '+' :: ds => (false, ds)
      | ds => (false, ds)
    if (mark = 'e' ∨ mark = 'E') ∧ !digits.isEmpty ∧ digits.all Char.isDigit then
      let n : Int := Text.digitsValue digits
      some (if negative then -n else n)
    else none

def unsigned? (negative : Bool) (word : List Char) : Option Json := do
  let whole := word.takeWhile Char.isDigit
  guard (!whole.isEmpty && (whole.length = 1 || whole.head? != some '0'))
  let after := word.dropWhile Char.isDigit
  let (fraction, tail) ← fraction? after
  let exponent ← exponent? tail
  let n := Text.digitsValue (whole ++ fraction)
  if after.isEmpty then
    guard (whole.length ≤ Text.maxDigits)
    some (.int (Binary64.withSign negative n))
  else some (.real (.ofDecimal negative n (exponent - fraction.length)))

def word? (word : List Char) : Option Json :=
  match String.ofList word with
  | "null" => some .null
  | "true" => some (.bool true)
  | "false" => some (.bool false)
  | "NaN" => some (.real .notANumber)
  | "Infinity" => some (.real (.infinite false))
  | "-Infinity" => some (.real (.infinite true))
  | _ =>
    match word with
    | '-' :: rest => unsigned? true rest
    | rest => unsigned? false rest

/-- Joins the two halves of a character that is written as a pair of 16-bit units. -/
def joinHalves : List Nat → List Nat
  | [] => []
  | [n] => [n]
  | n :: m :: rest =>
    if 0xd800 ≤ n ∧ n < 0xdc00 ∧ 0xdc00 ≤ m ∧ m < 0xe000 then
      (0x10000 + (n - 0xd800) * 0x400 + (m - 0xdc00)) :: joinHalves rest
    else n :: joinHalves (m :: rest)

def escaped? : Char → Option Char
  | '"' => some '"'
  | '\\' => some '\\'
  | '/' => some '/'
  | 'b' => some '\x08'
  | 'f' => some '\x0c'
  | 'n' => some '\n'
  | 'r' => some '\r'
  | 't' => some '\t'
  | _ => none

/-- Where in a text the pass stands. Characters and units read so far come latest first. -/
inductive Place where
  | between
  | word (chars : List Char)
  | text (units : List Nat)
  | escape (units : List Nat)
  | hex (units : List Nat) (missing value : Nat)

structure Scan where
  place : Place
  found : List Token

def wordToken (word : List Char) : Token :=
  match word? word with
  | some value => .atom value
  | none => .stray

def Scan.push (scan : Scan) (token : Token) (place : Place) : Scan where
  place
  found := token :: scan.found

def Scan.outside (scan : Scan) (c : Char) (begun : List Char) : Scan :=
  if c = '"' then
    if begun.isEmpty then { scan with place := .text [] } else scan.push .stray (.text [])
  else if isBlank c || isMark c then
    let ended := if begun.isEmpty then { scan with place := .between }
      else scan.push (wordToken begun.reverse) .between
    if isMark c then ended.push (.mark c) .between else ended
  else { scan with place := .word (c :: begun) }

/-- Takes one character. What cannot stand where it does leaves a stray token, after which only the
tokens before it matter. -/
def Scan.step (scan : Scan) (c : Char) : Scan :=
  match scan.place with
  | .between => scan.outside c []
  | .word begun => scan.outside c begun
  | .text units =>
    if c = '"' then scan.push (.atom (ofPoints (joinHalves units.reverse))) .between
    else if c = '\\' then { scan with place := .escape units }
    else if c.toNat < 0x20 then scan.push .stray (.text units)
    else { scan with place := .text (c.toNat :: units) }
  | .escape units =>
    if c = 'u' then { scan with place := .hex units 4 0 }
    else
      match escaped? c with
      | some e => { scan with place := .text (e.toNat :: units) }
      | none => scan.push .stray (.text units)
  | .hex units missing value =>
    match Text.hexValue? c with
    | none => scan.push .stray (.text units)
    | some digit =>
      let value := 16 * value + digit
      { scan with
        place := if missing ≤ 1 then .text (value :: units) else .hex units (missing - 1) value }

def tokens (chars : List Char) : List Token :=
  let scan := chars.foldl Scan.step ⟨.between, []⟩
  match scan.place with
  | .between => scan.found.reverse
  | .word begun => (wordToken begun.reverse :: scan.found).reverse
  | _ => (.stray :: scan.found).reverse

end DeviceAllocation.Json
