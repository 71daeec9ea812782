import DeviceAllocation.Log.Template.Filling
import DeviceAllocation.Settings.CommandLine.Reading

/-! A name that starts with an underscore may change the rules of reading, or hold a command line or
other sources. Anything else is a section. -/

namespace DeviceAllocation.Settings

/-- The names that change the rules of reading. Not all of them have an effect on settings. -/
def ruleNames : List String :=
  ["_case_sensitive", "_nested_model_default_partial_update", "_env_prefix",
    "_env_prefix_target", "_env_file", "_env_file_depth", "_env_file_encoding",
    "_env_ignore_empty", "_env_nested_delimiter", "_env_nested_max_split", "_env_parse_none_str",
    "_env_parse_enums", "_cli_prog_name", "_cli_parse_args", "_cli_settings_source",
    "_cli_parse_none_str", "_cli_hide_none_type", "_cli_avoid_json", "_cli_enforce_required",
    "_cli_use_class_docs_for_groups", "_cli_exit_on_error", "_cli_prefix",
    "_cli_flag_prefix_char", "_cli_implicit_flags", "_cli_ignore_unknown_args",
    "_cli_kebab_case", "_cli_shortcuts", "_cli_show_env_vars", "_secrets_dir", "_build_sources"]

def VariableRules.change (rules : VariableRules) : String × Json → VariableRules
  | ("_env_prefix", .text text) => { rules with stem := text }
  | ("_env_prefix_target", .text text) => { rules with stemmed := text ∈ ["variable", "all"] }
  | ("_env_nested_delimiter", .text text) => { rules with separator := text }
  | ("_env_nested_max_split", .int n) => { rules with parts := .ofInt n }
  | ("_env_nested_max_split", .bool limited) =>
    { rules with parts := .ofInt (if limited then 1 else 0) }
  | ("_env_parse_none_str", .text text) => { rules with nullText := some text }
  | (_, .null) => rules
  | ("_case_sensitive", value) => { rules with exactCase := value.isTruthy }
  | ("_env_ignore_empty", value) => { rules with skipEmpty := value.isTruthy }
  | ("_env_parse_enums", value) => { rules with upperStrategies := value.isTruthy }
  | _ => rules

def rulesOf (nesting : Nat) (given : List (String × Json)) : VariableRules :=
  given.foldl VariableRules.change (.standard nesting)

def valueGiven (given : List (String × Json)) (name : String) : Json :=
  (Json.field? name given).getD .null

def stemOf (value : Json) : Except CommandLineError String :=
  match value with
  | .text text => if isStem text then .ok text else .error (.badStem text)
  | value =>
    if value.isTruthy then .error (.misused .stem (Template.kindOf value)) else .ok ""

def marksOf (value : Json) : Except CommandLineError (List Char) :=
  match value with
  | .text text => .ok text.toList
  | .bool _ => .error (.misused .marks "bool")
  | .int _ => .error (.misused .marks "int")
  | .real _ => .error (.misused .marks "float")
  | _ => .ok CommandLineRules.standard.marks

def switchingOf (value : Json) : Switching :=
  match value with
  | .text "toggle" => .on
  | value => if value.isTruthy then .onAndOff else .never

/-- The text that stands for null on a command line, if one does. The one for the environment comes
before the one for the command line. -/
def commandLineNull (given : List (String × Json)) : Option String :=
  match (["_env_parse_none_str", "_cli_parse_none_str"].map (valueGiven given)).find?
      Json.isTruthy with
  | some (.text text) => some text
  | some _ => none
  | none =>
    match valueGiven given "_cli_avoid_json" with
    | .bool true => some "None"
    | _ => CommandLineRules.standard.nullText

def commandLineRulesOf (given : List (String × Json)) :
    Except CommandLineError CommandLineRules := do
  let value := valueGiven given
  let exact := value "_case_sensitive"
  return {
    stem := ← stemOf (value "_cli_prefix")
    marks := ← marksOf (value "_cli_flag_prefix_char")
    hyphens := (value "_cli_kebab_case").isTruthy
    switching := switchingOf (value "_cli_implicit_flags")
    exactCase := exact.isTruthy
    exactFlags := match exact with
      | .null => false
      | .bool exact => exact
      | _ => true
    nullText := commandLineNull given
    lenient := (value "_cli_ignore_unknown_args").isTruthy
    exits := match value "_cli_exit_on_error" with
      | .null => true
      | exits => exits.isTruthy
    shortcuts := value "_cli_shortcuts" }

/-- An argument of a command line. Whatever counts as false is an empty one. -/
def argumentText (rules : CommandLineRules) (value : Json) : Except CommandLineError String :=
  match value with
  | .text text => .ok text
  | _ =>
    let misuse : Misuse := if rules.exactFlags then .start else .argument
    if value.isTruthy then .error (.misused misuse (Template.kindOf value)) else .ok ""

/-- The arguments of a command line. Truth values and zero stand for none. -/
def argumentTexts (rules : CommandLineRules) (value : Json) :
    Except CommandLineError (List String) :=
  match value with
  | .list items => items.mapM (argumentText rules)
  | .bool _ => .ok []
  | .int 0 => .ok []
  | .real number => if number.isZero then .ok [] else .error (.noList "float")
  | value => .error (.noList (Template.kindOf value))

def commandLineOf (nesting : Nat) (given : List (String × Json)) :
    Except CommandLineError (VariableRules × Environment) := do
  match valueGiven given "_cli_parse_args" with
  | .null => return (CommandLineRules.standard.variableRules nesting, [])
  | value =>
    let rules ← commandLineRulesOf given
    let options ← rules.options
    return (rules.variableRules nesting, ← argumentsSet rules options (← argumentTexts rules value))

inductive SourcesError where
  | noPair (valueKind : String)
  | tooFew (parts : Nat)
  | tooMany
  | noList (valueKind : String)
  | noSource (valueKind : String)
  deriving DecidableEq, Repr

namespace SourcesError

def kind : SourcesError → String
  | tooFew _ => "ValueError"
  | tooMany => "ValueError"
  | _ => "TypeError"

def message : SourcesError → String
  | noPair valueKind => "cannot unpack non-iterable " ++ valueKind ++ " object"
  | tooFew parts => "not enough values to unpack (expected 2, got " ++ Nat.repr parts ++ ")"
  | tooMany => "too many values to unpack (expected 2)"
  | noList valueKind => "'" ++ valueKind ++ "' object is not iterable"
  | noSource valueKind => "'" ++ valueKind ++ "' object is not callable"

end SourcesError

def partsOf? : Json → Option (List Json)
  | .list items => some items
  | .object fields => some (fields.map fun field => .text field.1)
  | .text text => some (text.toList.map fun c => .text c.toString)
  | _ => none

/-- Whether sources are given instead of the usual ones. They can only be none at all. -/
def givesSources (given : List (String × Json)) : Except SourcesError Bool :=
  match valueGiven given "_build_sources" with
  | .null => .ok false
  | value =>
    match partsOf? value with
    | none => .error (.noPair (Template.kindOf value))
    | some [sources, _] =>
      match partsOf? sources with
      | none =>
        if sources.isTruthy then .error (.noList (Template.kindOf sources)) else .ok true
      | some [] => .ok true
      | some (source :: _) => .error (.noSource (Template.kindOf source))
    | some parts => .error (if parts.length < 2 then .tooFew parts.length else .tooMany)

/-- The sections that are given, under their own names. Of several spellings of one name the first
one counts. Sections that do not exist come last, as they are. -/
def sectionsGiven (given : List (String × Json)) : List (String × Json) :=
  let given := given.filter fun entry => entry.1 ∉ ruleNames
  let names := sectionShapes.map SectionShape.name
  let known := names.filterMap fun name =>
    (given.find? fun entry => Text.lowerCase entry.1 = name).map fun entry => (name, entry.2)
  known ++ given.filter fun entry => Text.lowerCase entry.1 ∉ names

end DeviceAllocation.Settings
