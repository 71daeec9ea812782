import DeviceAllocation.Settings.CommandLine.Error
import DeviceAllocation.Settings.Environment
import DeviceAllocation.Text.Word

/-! What options say is read like variables that bear the paths of what is set as names. -/

namespace DeviceAllocation.Settings

inductive Switching where
  | never
  | onAndOff
  -- by options without values, which switch on what is off otherwise
  | on
  deriving DecidableEq, Repr

structure CommandLineRules where
  -- the first part of each path, if it is not empty
  stem : String
  -- the characters that options begin with, all of them twice
  marks : List Char
  hyphens : Bool
  switching : Switching
  exactCase : Bool
  exactFlags : Bool
  -- the value of an option that stands for null, if one does
  nullText : Option String
  lenient : Bool
  exits : Bool
  -- further names of options, by a name that each has already
  shortcuts : Json

namespace CommandLineRules

def standard : CommandLineRules where
  stem := ""
  marks := ['-']
  hyphens := false
  switching := .never
  exactCase := false
  exactFlags := false
  nullText := some "null"
  lenient := false
  exits := true
  shortcuts := .null

def root (rules : CommandLineRules) : String :=
  if rules.stem = "" then "" else rules.stem ++ "."

def variableRules (rules : CommandLineRules) (nesting : Nat) : VariableRules where
  stem := rules.root
  stemmed := true
  separator := "."
  parts := .none
  exactCase := rules.exactCase
  skipEmpty := false
  nullText := rules.nullText
  upperStrategies := true
  nesting := nesting

/-- The text for a truth value, one that does not stand for null. -/
def truthText (rules : CommandLineRules) (value : Bool) : String :=
  match value, rules.nullText with
  | true, some "true" => "yes"
  | true, _ => "true"
  | false, some "false" => "no"
  | false, _ => "false"

end CommandLineRules

/-- Whether paths can start with a text: with nothing, or with a word, which may have points inside.
-/
def isStem (stem : String) : Bool :=
  let chars := stem.toList
  stem = "" ||
    (chars.head? ≠ some '.' && chars.getLast? ≠ some '.' && Text.isWord (chars.filter (· ≠ '.')))

end DeviceAllocation.Settings
