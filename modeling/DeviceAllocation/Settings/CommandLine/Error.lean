import DeviceAllocation.Text.Quoted

namespace DeviceAllocation.Settings

/-- What a value is used for whose kind does not allow it. -/
inductive Misuse where
  | argument
  | start
  | names
  -- to name names
  | shortcuts
  | length
  | marks
  | stem
  deriving DecidableEq, Repr

namespace Misuse

def kind : Misuse → String
  | shortcuts => "AttributeError"
  | stem => "AttributeError"
  | _ => "TypeError"

def message (valueKind : String) : Misuse → String
  | argument => "expected string or bytes-like object, got '" ++ valueKind ++ "'"
  | start => "'" ++ valueKind ++ "' object is not subscriptable"
  | names => "'" ++ valueKind ++ "' object is not iterable"
  | shortcuts => "'" ++ valueKind ++ "' object has no attribute 'items'"
  | length => "object of type '" ++ valueKind ++ "' has no len()"
  | marks => "argument of type '" ++ valueKind ++ "' is not iterable"
  | stem => "'" ++ valueKind ++ "' object has no attribute 'startswith'"

end Misuse

inductive CommandLineError where
  | misused (misuse : Misuse) (valueKind : String)
  | badStem (stem : String)
  -- there is no first character where one is needed: no mark, or a name that is empty
  | noCharacter
  | badPattern (fault : String) (position : Nat)
  | conflict (flags : List String) (taken : List String)
  | noList (valueKind : String)
  | unrecognized (arguments : List String)
  | missingValue (flags : List String)
  | needlessValue (flags : List String) (value : String)
  | exit (code : Nat)
  deriving DecidableEq, Repr

namespace CommandLineError

def kind : CommandLineError → String
  | misused misuse _ => misuse.kind
  | noCharacter => "IndexError"
  | badPattern _ _ => "error"
  | conflict _ _ => "ArgumentError"
  | exit _ => "SystemExit"
  | _ => "SettingsError"

def ofOption (flags : List String) (text : String) : String :=
  "argument " ++ "/".intercalate flags ++ ": " ++ text

def message : CommandLineError → String
  | misused misuse valueKind => misuse.message valueKind
  | badStem stem => "CLI settings source prefix is invalid: " ++ stem
  | noCharacter => "string index out of range"
  | badPattern fault position => fault ++ " at position " ++ Nat.repr position
  | conflict flags taken =>
    let strings := if taken.length = 1 then "string" else "strings"
    ofOption flags ("conflicting option " ++ strings ++ ": " ++ ", ".intercalate taken)
  | noList valueKind =>
    "cli_parse_args must be a list or tuple of strings, received <class '" ++ valueKind ++ "'>"
  | unrecognized arguments =>
    "error parsing CLI: unrecognized arguments: " ++ " ".intercalate arguments
  | missingValue flags => "error parsing CLI: " ++ ofOption flags "expected one argument"
  | needlessValue flags value =>
    "error parsing CLI: " ++ ofOption flags ("ignored explicit argument " ++ Text.quote value)
  | exit code => Nat.repr code

end CommandLineError

end DeviceAllocation.Settings
