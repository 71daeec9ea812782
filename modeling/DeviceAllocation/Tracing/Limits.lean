import DeviceAllocation.Environment
import DeviceAllocation.Span
import DeviceAllocation.Text.LowerCase
import DeviceAllocation.Text.Number
import DeviceAllocation.Tracing.Attributes

namespace DeviceAllocation

/-- What a span may hold at most, none meaning any amount. -/
structure SpanLimits where
  attributes : AttributeLimits
  failures : Option Nat
  -- How many other spans a span may refer to. None ever does.
  links : Option Nat
  failureAttributes : AttributeLimits
  deriving DecidableEq, Repr

inductive TracingError where
  | badLimit (name value : String)
  | limitTooLarge
  | unknownTracer
  deriving DecidableEq, Repr

namespace TracingError

def kind : TracingError → String
  | badLimit _ _ => "ValueError"
  | limitTooLarge => "OverflowError"
  | unknownTracer => "StopIteration"

def message : TracingError → String
  | badLimit name value => name ++ " must be a non-negative integer but got " ++ value
  | limitTooLarge => "Python int too large to convert to C ssize_t"
  | unknownTracer => ""

end TracingError

namespace Tracing

/-- The limit that a variable sets. An empty variable sets none, and a missing one leaves the
limit that holds otherwise. -/
def limit (environment : Environment) (name : String) (otherwise : Option Nat) :
    Except TracingError (Option Nat) :=
  match environment.value? name with
  | none => .ok otherwise
  | some text =>
    let text := (Text.normalized text).toList
    if text.isEmpty then .ok none
    else
      match Text.integer? text with
      | some (.ofNat n) => .ok (some n)
      | some n => .error (.badLimit name (toString n))
      | none => .error (.badLimit name (String.ofList text))

def limits (environment : Environment) : Except TracingError SpanLimits := do
  let failures ← limit environment "OTEL_SPAN_EVENT_COUNT_LIMIT" (some 128)
  let links ← limit environment "OTEL_SPAN_LINK_COUNT_LIMIT" (some 128)
  let general ← limit environment "OTEL_ATTRIBUTE_COUNT_LIMIT" none
  let count ← limit environment "OTEL_SPAN_ATTRIBUTE_COUNT_LIMIT" (general.or (some 128))
  let failureCount ← limit environment "OTEL_EVENT_ATTRIBUTE_COUNT_LIMIT" (general.or (some 128))
  let _ ← limit environment "OTEL_LINK_ATTRIBUTE_COUNT_LIMIT" (general.or (some 128))
  let generalLength ← limit environment "OTEL_ATTRIBUTE_VALUE_LENGTH_LIMIT" none
  let length ← limit environment "OTEL_SPAN_ATTRIBUTE_VALUE_LENGTH_LIMIT" generalLength
  return ⟨⟨count, length⟩, failures, links, ⟨failureCount, generalLength⟩⟩

end Tracing

/-! ### Recorded failures as attributes -/

namespace RecordedFailure

def attributes (failure : RecordedFailure) (stack : String) : List (String × Json) :=
  (failure.kind.map fun kind => ("exception.type", Json.text kind)).toList ++
    (failure.message.map fun message => ("exception.message", Json.text message)).toList ++
    [("exception.stacktrace", .text stack), ("exception.escaped", .text "False")]

def textOf (name : String) (attributes : List (String × Json)) : Option String :=
  match Json.field? name attributes with
  | some (.text text) => some text
  | _ => none

def ofAttributes (attributes : List (String × Json)) : RecordedFailure :=
  ⟨textOf "exception.type" attributes, textOf "exception.message" attributes⟩

end RecordedFailure

namespace SpanLimits

def last {α : Type} (count : Option Nat) (entries : List α) : List α :=
  match count with
  | some n => entries.drop (entries.length - n)
  | none => entries

def keepFailure (limits : SpanLimits) (failure : RecordedFailure) (stack : String) :
    RecordedFailure :=
  .ofAttributes (limits.failureAttributes.keep (failure.attributes stack) []).1

def keep (limits : SpanLimits) (span : Span) (stackOf : Nat → String) : Span :=
  { span with
    initial := (limits.attributes.keep span.initial span.later).1
    later := []
    failures := last limits.failures
      (span.failures.mapIdx fun number failure => limits.keepFailure failure (stackOf number)) }

/-- The numbers of entries beyond which there is no counting. -/
def countable : Nat := 0x7fffffffffffffff

def isUsable (limits : SpanLimits) : Bool :=
  limits.failures.all (· ≤ countable) && limits.links.all (· ≤ countable)

end SpanLimits

end DeviceAllocation
