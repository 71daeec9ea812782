import DeviceAllocation.Json
import DeviceAllocation.Failure

namespace DeviceAllocation

inductive SpanStatus where
  | unset
  | error (description : String)
  deriving DecidableEq, Repr

/-- A failure recorded on a span. What is told of it may be missing. -/
structure RecordedFailure where
  kind : Option String
  message : Option String
  deriving DecidableEq, Repr

structure Span where
  name : String
  initial : List (String × Json)
  -- the attributes that it is given one by one after that
  later : List (String × Json)
  failures : List RecordedFailure
  status : SpanStatus

def Span.attributes (span : Span) : List (String × Json) := span.initial ++ span.later

def Span.tell (span : Span) (name : String) (value : Json) : Span :=
  { span with later := span.later ++ [(name, value)] }

def Failure.recorded (failure : Failure) : RecordedFailure :=
  ⟨some failure.qualifiedKind, some failure.message⟩

def Span.record (span : Span) (failure : Failure) (status : SpanStatus) : Span :=
  { span with failures := span.failures ++ [failure.recorded], status }

def Failure.status (failure : Failure) : SpanStatus :=
  .error (failure.kind ++ ": " ++ failure.message)

end DeviceAllocation
