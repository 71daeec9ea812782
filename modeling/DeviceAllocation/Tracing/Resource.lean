import DeviceAllocation.Environment
import DeviceAllocation.Log.Report
import DeviceAllocation.Text.Percent
import DeviceAllocation.Text.Space

namespace DeviceAllocation

structure Resource where
  serviceName : String
  environment : String
  deriving DecidableEq, Repr

namespace Tracing

def listedAttributes (environment : Environment) : List String :=
  let text := (environment.value? "OTEL_RESOURCE_ATTRIBUTES").getD ""
  if text = "" then [] else text.splitOn ","

def pairOf? (item : String) : Option (String × String) :=
  let trimmed (text : List Char) : List Char := Text.trimBy Text.isSeparator text
  match item.toList.dropWhile (· ≠ '=') with
  | [] => none
  | _ :: value =>
    some (String.ofList (trimmed (item.toList.takeWhile (· ≠ '='))),
      String.ofList (Text.decodePercent (trimmed value)))

def setAttributes (environment : Environment) : List (String × String) :=
  Keyed.ofList Prod.fst ((listedAttributes environment).filterMap pairOf?)

def valuelessReport (item : String) : Report :=
  .plain "opentelemetry.sdk.resources" .warning
    ("Invalid key value resource attribute pair " ++ item ++
      ": not enough values to unpack (expected 2, got 1)")

/-- The report of an attribute without a name, in which the name stands between backticks. -/
def namelessReport : Report :=
  .plain "opentelemetry.attributes" .warning
    "invalid attribute key \x60\x60. must be non-empty string. Dropping key from attributes."

/-- What is reported of the attributes in the environment. Of those without a name only one counts,
and so it is reported once. -/
def resourceReports (environment : Environment) : List Report :=
  ((listedAttributes environment).filter fun item => (pairOf? item).isNone).map valuelessReport ++
    ((setAttributes environment).filter fun entry => entry.1 = "").map fun _ => namelessReport

/-- The name by which a service is known. Without one it is known by its program. -/
def knownService (environment : Environment) (name : String) : String :=
  if name ≠ "" then name
  else
    match Keyed.find? Prod.fst "process.executable.name" (setAttributes environment) with
    | some (_, program) => if program = "" then "unknown_service" else "unknown_service:" ++ program
    | none => "unknown_service"

end Tracing

end DeviceAllocation
