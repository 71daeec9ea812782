import DeviceAllocation.Settings.Environment
import DeviceAllocation.Settings.Field

namespace DeviceAllocation.Settings

structure Issue where
  path : List String
  kind : IssueKind
  deriving DecidableEq, Repr

/-- A value, or all issues that prevent it. -/
abbrev Checked (α : Type) := Except (List Issue) α

namespace Checked

def and {α β : Type} : Checked α → Checked β → Checked (α × β)
  | .ok a, .ok b => .ok (a, b)
  | .ok _, .error issues => .error issues
  | .error issues, .ok _ => .error issues
  | .error issues, .error more => .error (issues ++ more)

end Checked

def field {α : Type} (path : List String) (fields : List (String × Json)) (name : String)
    (read : Json → Except IssueKind α) (default : α) : Checked α :=
  match Json.field? name fields with
  | none => .ok default
  | some value => (read value).mapError fun kind => [⟨path ++ [name], kind⟩]

/-- Reads the fields of an object inside the object at a path. It may be absent, and then its fields
are too. -/
def group {α : Type} (path : List String) (fields : List (String × Json)) (name model : String)
    (read : List String → List (String × Json) → Checked α) : Checked α :=
  match Json.field? name fields with
  | none => read (path ++ [name]) []
  | some (.object inner) => read (path ++ [name]) inner
  | some _ => .error [⟨path ++ [name], .notSection model⟩]

def readSharing (path : List String) (fields : List (String × Json)) : Checked Strategy :=
  group path fields "time_slicing" "TimeSlicingConfig" fun path fields =>
    field path fields "strategy" readStrategy default.strategy

def readAllocation (path : List String) (fields : List (String × Json)) : Checked Bool :=
  field path fields "validate_required_subset" readTruth default.strict

def readServer (path : List String) (fields : List (String × Json)) : Checked (String × Int) :=
  (field path fields "host" readText default.host).and
    (field path fields "metrics_port" readInteger default.metricsPort)

structure Observability where
  serviceName : String
  environment : String
  threshold : Threshold
  format : LogFormat
  endpoint : Option String

def readObservability (path : List String) (fields : List (String × Json)) :
    Checked Observability :=
  ((field path fields "service_name" readText default.serviceName).and
    ((field path fields "environment" readText default.environment).and
      ((field path fields "log_level" readThreshold default.threshold).and
        ((field path fields "log_format" readFormat default.format).and
          (field path fields "otlp_endpoint" readText? default.endpoint))))).map
    fun (serviceName, environment, threshold, format, endpoint) =>
      ⟨serviceName, environment, threshold, format, endpoint⟩

def readUnknown (sections : List (String × Json)) : Checked Unit :=
  let unknown := sections.filter fun entry => entry.1 ∉ sectionShapes.map SectionShape.name
  if unknown.isEmpty then .ok ()
  else .error (unknown.map fun entry => ⟨[entry.1], .unknownSection⟩)

def ofSections (sections : List (String × Json)) : Checked Settings :=
  ((group [] sections "sharing" "SharingConfig" readSharing).and
    ((group [] sections "allocation" "AllocationConfig" readAllocation).and
      ((group [] sections "server" "ServerConfig" readServer).and
        ((group [] sections "observability" "ObservabilityConfig" readObservability).and
          (readUnknown sections))))).map
    fun (strategy, strict, (host, metricsPort), reports, ()) =>
      { strategy, strict, host, metricsPort
        serviceName := reports.serviceName
        environment := reports.environment
        threshold := reports.threshold
        format := reports.format
        endpoint := reports.endpoint }

end DeviceAllocation.Settings
