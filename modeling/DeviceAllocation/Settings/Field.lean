import DeviceAllocation.Settings
import DeviceAllocation.Text.Numeral

namespace DeviceAllocation.Settings

inductive IssueKind where
  | notSection (model : String)
  | notStrategy
  | notListed (words : List String)
  | notTruth
  | unreadableTruth
  | notInteger
  | unreadableInteger
  | oversizedInteger
  | fractional
  | notFinite
  | notText
  | notUnicode
  | unknownSection
  deriving DecidableEq, Repr

def alternatives : List String → String
  | [] => ""
  | [word] => Text.quote word
  | [word, last] => Text.quote word ++ " or " ++ Text.quote last
  | word :: words => Text.quote word ++ ", " ++ alternatives words

namespace IssueKind

def code : IssueKind → String
  | notSection _ => "model_type"
  | notStrategy => "enum"
  | notListed _ => "literal_error"
  | notTruth => "bool_type"
  | unreadableTruth => "bool_parsing"
  | notInteger => "int_type"
  | unreadableInteger => "int_parsing"
  | oversizedInteger => "int_parsing_size"
  | fractional => "int_from_float"
  | notFinite => "finite_number"
  | notText => "string_type"
  | notUnicode => "string_unicode"
  | unknownSection => "extra_forbidden"

def message : IssueKind → String
  | notSection model => "Input should be a valid dictionary or instance of " ++ model
  | notStrategy =>
    "Input should be " ++
      alternatives [Strategy.none.name, Strategy.packed.name, Strategy.distributed.name]
  | notListed words => "Input should be " ++ alternatives words
  | notTruth => "Input should be a valid boolean"
  | unreadableTruth => "Input should be a valid boolean, unable to interpret input"
  | notInteger => "Input should be a valid integer"
  | unreadableInteger => "Input should be a valid integer, unable to parse string as an integer"
  | oversizedInteger => "Unable to parse input string as an integer, exceeded maximum size"
  | fractional => "Input should be a valid integer, got a number with a fractional part"
  | notFinite => "Input should be a finite number"
  | notText => "Input should be a valid string"
  | notUnicode =>
    "Input should be a valid string, unable to parse raw data as a unicode string"
  | unknownSection => "Extra inputs are not permitted"

end IssueKind

def wordBound : Int := 0x8000000000000000

/-- The integer that a number equals, which must lie strictly between `-2^63` and `2^63`. -/
def integerOfReal (x : Binary64) : Except IssueKind Int :=
  match x with
  | .finite .. =>
    match x.toInt? with
    | none => .error .fractional
    | some n => if -wordBound < n ∧ n < wordBound then .ok n else .error .oversizedInteger
  | _ => .error .notFinite

/-- Zero and one as truth values. Integers that take more than 64 bits are none at all. -/
def truthOfInt (n : Int) : Except IssueKind Bool :=
  if n = 0 then .ok false
  else if n = 1 then .ok true
  else if -wordBound ≤ n ∧ n < wordBound then .error .unreadableTruth
  else .error .notTruth

def truthOfText (text : String) : Except IssueKind Bool :=
  let word := text.toLower
  if word ∈ ["0", "off", "f", "false", "n", "no"] then .ok false
  else if word ∈ ["1", "on", "t", "true", "y", "yes"] then .ok true
  else .error .unreadableTruth

def readTruth : Json → Except IssueKind Bool
  | .bool value => .ok value
  | .int n => truthOfInt n
  | .real x =>
    match integerOfReal x with
    | .ok n => truthOfInt n
    | .error _ => .error .notTruth
  | .text text => truthOfText text
  | .brokenText _ => .error .notUnicode
  | _ => .error .notTruth

def ofNumeralFault : Text.NumeralFault → IssueKind
  | .unreadable => .unreadableInteger
  | .oversized => .oversizedInteger

def readInteger : Json → Except IssueKind Int
  | .bool value => .ok (if value then 1 else 0)
  | .int n => .ok n
  | .real x => integerOfReal x
  | .text text => (Text.readInteger text.toList).mapError ofNumeralFault
  | .brokenText _ => .error .notUnicode
  | _ => .error .notInteger

/-- Reads a text. Halves of characters are let through as replacement characters. -/
def readText : Json → Except IssueKind String
  | .text text => .ok text
  | .brokenText points => .ok (Json.withoutHalves points)
  | _ => .error .notText

def readText? : Json → Except IssueKind (Option String)
  | .null => .ok none
  | json => (readText json).map some

def readStrategy : Json → Except IssueKind Strategy
  | .text text =>
    match Strategy.ofName? text with
    | some strategy => .ok strategy
    | none => .error .notStrategy
  | .brokenText _ => .error .notUnicode
  | _ => .error .notStrategy

def readChoice {α : Type} (name : α → String) (choices : List α) : Json → Except IssueKind α
  | .text text =>
    match choices.find? fun choice => name choice = text with
    | some choice => .ok choice
    | none => .error (.notListed (choices.map name))
  | .brokenText _ => .error .notUnicode
  | _ => .error (.notListed (choices.map name))

def readThreshold : Json → Except IssueKind Threshold :=
  readChoice Threshold.name Threshold.all

def readFormat : Json → Except IssueKind LogFormat :=
  readChoice LogFormat.name LogFormat.all

theorem readThreshold_name (threshold : Threshold) :
    readThreshold (.text threshold.name) = .ok threshold := by
  cases threshold <;> rfl

theorem readFormat_name (format : LogFormat) : readFormat (.text format.name) = .ok format := by
  cases format <;> rfl

end DeviceAllocation.Settings
