import DeviceAllocation.Log.Report
import DeviceAllocation.Settings.Given
import DeviceAllocation.Settings.Reading

/-! Where the settings come from: the environment, given sections, which are laid over it, and a
command line, which is laid over both. -/

namespace DeviceAllocation.Settings

inductive TextSource where
  | environment
  | commandLine
  deriving DecidableEq, Repr

def TextSource.name : TextSource → String
  | environment => "EnvSettingsSource"
  | commandLine => "CliSettingsSource"

inductive ReadError where
  | unreadable (error : CommandLineError)
  | undecodable (source : TextSource) (sectionName : String) (fault : VariableFault)
  | unusable (error : SourcesError)
  | invalid (issues : List Issue)
  deriving DecidableEq, Repr

namespace ReadError

def kind : ReadError → String
  | unreadable error => error.kind
  | undecodable _ _ (.text .malformed) => "SettingsError"
  | undecodable _ _ (.text _) => "RecursionError"
  | undecodable _ _ .uncountableParts => "OverflowError"
  | unusable error => error.kind
  | invalid _ => "ValidationError"

def message : ReadError → String
  | unreadable error => error.message
  | undecodable source sectionName (.text .malformed) =>
    "error parsing value for field \"" ++ sectionName ++ "\" from source \"" ++ source.name ++ "\""
  | undecodable _ _ (.text .deepList) =>
    "maximum recursion depth exceeded while decoding a JSON array from a unicode string"
  | undecodable _ _ (.text .deepObject) =>
    "maximum recursion depth exceeded while decoding a JSON object from a unicode string"
  | undecodable _ _ .uncountableParts => "Python int too large to convert to C ssize_t"
  | unusable error => error.message
  | invalid issues => toString issues.length ++ " for Config"

end ReadError

structure Sources where
  line : List (String × Json)
  given : List (String × Json)
  environment : List (String × Json)

namespace Sources

def none : Sources := ⟨[], [], []⟩

def sectionsFrom (source : TextSource) (rules : VariableRules) (found : Environment) :
    Except ReadError (List (String × Json)) :=
  (sectionsOf rules (rules.visible found) sectionShapes).mapError fun (sectionName, fault) =>
    .undecodable source sectionName fault

def consult (nesting : Nat) (environment : Environment) (given : List (String × Json)) :
    Except ReadError Sources := do
  if ← (givesSources given).mapError .unusable then return none
  let (rules, line) ← (commandLineOf nesting given).mapError .unreadable
  return {
    line := ← sectionsFrom .commandLine rules line
    given := sectionsGiven given
    environment := ← sectionsFrom .environment (rulesOf nesting given) environment }

/-- The sections of all sources, laid over each other. -/
def sections (sources : Sources) : List (String × Json) :=
  overlayFields sources.environment (overlayFields sources.given sources.line)

def settings (sources : Sources) : Except ReadError Settings :=
  (ofSections sources.sections).mapError .invalid

def areReported (environment : Environment) : Bool :=
  ((environment.value? "PYDANTIC_SETTINGS_DEBUG").map Text.normalized).any fun text =>
    text ∈ ["1", "true", "yes", "on"]

/-- The report of what the sources of a process say. There is no command line then. -/
def report (sources : Sources) : Report :=
  let found : List (String × List (String × Json)) :=
    [("InitSettingsSource", sources.given), ("EnvSettingsSource", sources.environment),
      ("DotEnvSettingsSource", []), ("SecretsSettingsSource", []), ("DefaultSettingsSource", [])]
  .plain "pydantic_settings" .debug
    ("Resolving settings for 'Config' (sources in priority order, highest first):" ++
      String.join (found.map fun (name, sections) =>
        "\n  " ++ name ++ ": " ++ (Json.object sections).describe))

end Sources

def read (nesting : Nat) (environment : Environment) (given : List (String × Json)) :
    Except ReadError Settings :=
  Sources.consult nesting environment given >>= Sources.settings

end DeviceAllocation.Settings
