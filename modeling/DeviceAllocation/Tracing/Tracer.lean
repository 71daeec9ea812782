import DeviceAllocation.Tracing.Limits
import DeviceAllocation.Tracing.Resource
import DeviceAllocation.Tracing.Sampling

namespace DeviceAllocation

structure Tracer where
  resource : Resource
  enabled : Bool
  share : Nat
  -- whether spans are sent to where they can be seen
  exporting : Bool
  limits : SpanLimits
  names : List String
  deriving DecidableEq, Repr

/-- What a span meets with that is not of its own making: the trace that was drawn for it, and for
each failure on it the calls that have led to it, in words. -/
structure Circumstances where
  trace : Nat
  stackOf : Nat → String

structure TracedSpan where
  losses : List AttributeLoss
  failureLosses : List (List AttributeLoss)
  kept : List (Span × Resource)

namespace Tracing

def isEnabled (environment : Environment) : Bool :=
  Text.normalized ((environment.value? "OTEL_SDK_DISABLED").getD "") ≠ "true"

/-- The variable that says whether the tracer is measured itself. -/
def measuringVariable : String := "OTEL_PYTHON_SDK_INTERNAL_METRICS_ENABLED"

def measuringReports (environment : Environment) : List Report :=
  match environment.value? measuringVariable with
  | none => []
  | some text =>
    if Text.normalized text ∈ ["true", "false"] then []
    else
      [.plain "opentelemetry.sdk.environment_variables._internal" .warning
        ("Invalid value for " ++ measuringVariable ++ ": " ++ Text.quote text ++
          ". Expected 'true' or 'false'.")]

def setUp (environment : Environment) (resource : Resource) (exporting : Bool) :
    List Report × Except TracingError Tracer :=
  let (share, warnings) := sampling environment
  let reports := resourceReports environment ++ warnings
  match limits environment with
  | .error error => (reports, .error error)
  | .ok limits =>
    (reports ++ if exporting then measuringReports environment else [],
      .ok ⟨resource, isEnabled environment, share, exporting, limits, []⟩)

end Tracing

namespace Tracer

def silent : Tracer where
  resource := ⟨"", ""⟩
  enabled := false
  share := 0
  exporting := false
  limits := ⟨⟨none, none⟩, none, none, ⟨none, none⟩⟩
  names := []

def isRecording (tracer : Tracer) (around : Circumstances) : Bool :=
  tracer.enabled && around.trace % Tracing.traceCount < tracer.share

def namelessReport : Report :=
  .plain "opentelemetry.sdk.trace" .error "get_tracer called with missing module name."

/-- What is reported when a tracer is asked for under a name. Only the first time under a name it
is made ready to be measured. -/
def reportsOn (tracer : Tracer) (environment : Environment) (name : String) : List Report :=
  if tracer.enabled then
    (if name = "" then [namelessReport] else []) ++
      if name ∈ tracer.names then [] else Tracing.measuringReports environment
  else []

def named (tracer : Tracer) (name : String) : Tracer :=
  { tracer with names := tracer.names ++ [name] }

def start (tracer : Tracer) (around : Circumstances) (attributes : List (String × Json)) :
    List AttributeLoss × Except TracingError Unit :=
  if tracer.isRecording around && !tracer.limits.isUsable then
    ((tracer.limits.attributes.keep attributes []).2, .error .limitTooLarge)
  else ([], .ok ())

def trace (tracer : Tracer) (around : Circumstances) (span : Span) : TracedSpan :=
  if tracer.isRecording around then
    { losses := (tracer.limits.attributes.keep span.initial span.later).2
      failureLosses := span.failures.mapIdx fun number failure =>
        (tracer.limits.failureAttributes.keep (failure.attributes (around.stackOf number)) []).2
      kept :=
        if tracer.exporting then [(tracer.limits.keep span around.stackOf, tracer.resource)]
        else [] }
  else ⟨[], [], []⟩

end Tracer

end DeviceAllocation
