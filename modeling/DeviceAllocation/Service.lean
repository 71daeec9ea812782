import DeviceAllocation.Metrics
import DeviceAllocation.Selector
import DeviceAllocation.Span

/-! The service that answers requests and reports on them. What has been recorded is carried along
while a request is handled, also past a failure. -/

namespace DeviceAllocation

structure Response where
  outcome : Except Failure (List DeviceId)
  metrics : Metrics
  span : Span
  -- the spans that have ended, as they were then
  ended : List Span
  events : List RequestEvent
  notes : List Note

def Response.event (response : Response) : Option RequestEvent :=
  response.events.head?

namespace Service

def startAttributes (strategy : Strategy) (request : Request) : List (String × Json) :=
  [("allocation.size", .int request.size),
    ("allocation.available", .int request.available.length),
    ("allocation.required", .int request.required.length),
    ("allocation.strategy", .text strategy.name)]

def notes (selector : Selector) (policy : Policy) (request : Request)
    (outcome : Except Failure (List DeviceId)) : List Note :=
  match selector.screen request with
  | .error _ => []
  | .ok () =>
    .running policy request.size request.required.length ::
      match policy, outcome with
      | .aligned, .ok devices => [.aligned devices.length request.available.length]
      | .packed, .ok devices => [.packed (devices.drop request.required.length)]
      | .distributed, .ok devices => (devices.drop request.required.length).map .distributed
      | _, .error _ => []

/-- What is on record while a request is handled. -/
structure Progress where
  policy : Option Policy
  metrics : Metrics
  span : Span
  ended : List Span
  events : List RequestEvent
  notes : List Note

namespace Progress

def start (strategy : Strategy) (request : Request) (metrics : Metrics) : Progress where
  policy := none
  metrics := metrics
  span := ⟨"allocation.preferred", startAttributes strategy request, [], [], .unset⟩
  ended := []
  events := []
  notes := []

variable (progress : Progress)

def choose (policy : Policy) : Progress :=
  { progress with
    policy := some policy
    span := progress.span.tell "allocation.policy" (.text policy.name) }

def note (notes : List Note) : Progress :=
  { progress with notes := progress.notes ++ notes }

def refuse (request : Request) (error : AllocationError) : Progress :=
  { progress with
    metrics := progress.metrics.countRefusal progress.policy error
    span := progress.span.record (.refused error) (.error error.message)
    events := progress.events ++
      [.failed progress.policy request.size request.available.length request.required.length
        error.message] }

def count : Progress :=
  { progress with metrics := progress.metrics.countRequest progress.policy }

def escape (failure : Failure) : Progress :=
  { progress with span := progress.span.record failure failure.status }

def leave : Progress :=
  { progress with ended := progress.ended ++ [progress.span] }

/-- Reports an answer once the span has ended. An empty one is not counted by its length. -/
def answer (request : Request) (devices : List DeviceId) : Progress :=
  match devices with
  | [] =>
    { progress with
      events := progress.events ++
        [.empty progress.policy request.size request.available.length request.required.length] }
  | devices =>
    { progress with
      metrics := progress.metrics.countAnswer devices.length
      events := progress.events ++ [.selected progress.policy request.size devices] }

end Progress

/-- A part of handling a request: it goes on from what is on record and may fail. -/
abbrev Handling := Progress → Except Failure (List DeviceId) × Progress

def attempt (selector : Selector) (inventory : DeviceSet) (strategy : Strategy)
    (request : Request) : Handling := fun progress =>
  match classify inventory request.available strategy with
  | .error error => (.error (.refused error), progress)
  | .ok policy =>
    let outcome := selector.allocate policy inventory request
    (outcome, (progress.choose policy).note (notes selector policy request outcome))

/-- Reports the refusals of some work. Other failures pass. -/
def reportingRefusals (request : Request) (work : Handling) : Handling := fun progress =>
  match work progress with
  | (.error (.refused error), progress) =>
    (.error (.refused error), progress.refuse request error)
  | (outcome, progress) => (outcome, progress)

def counting (work : Handling) : Handling := fun progress =>
  let (outcome, progress) := work progress
  (outcome, progress.count)

/-- Records the failures of some work on the span around it, which ends with the work. -/
def inSpan (work : Handling) : Handling := fun progress =>
  match work progress with
  | (.error failure, progress) => (.error failure, (progress.escape failure).leave)
  | (.ok devices, progress) => (.ok devices, progress.leave)

def handle (selector : Selector) (inventory : DeviceSet) (strategy : Strategy)
    (request : Request) : Handling := fun progress =>
  match inSpan (counting (reportingRefusals request
      (attempt selector inventory strategy request))) progress with
  | (.error failure, progress) => (.error failure, progress)
  | (.ok devices, progress) => (.ok devices, progress.answer request devices)

def respond (selector : Selector) (inventory : DeviceSet) (strategy : Strategy) (request : Request)
    (metrics : Metrics) : Response :=
  let (outcome, progress) :=
    handle selector inventory strategy request (.start strategy request metrics)
  ⟨outcome, progress.metrics, progress.span, progress.ended, progress.events, progress.notes⟩

structure State where
  inventory : DeviceSet
  strategy : Strategy
  metrics : Metrics

inductive Event where
  | request (selector : Selector) (request : Request)
  | newInventory (inventory : DeviceSet)
  | newStrategy (strategy : Strategy)

def step (state : State) : Event → State × Option Response
  | .request selector request =>
    let response := respond selector state.inventory state.strategy request state.metrics
    ({ state with metrics := response.metrics }, some response)
  | .newInventory inventory => ({ state with inventory }, none)
  | .newStrategy strategy => ({ state with strategy }, none)

end Service

end DeviceAllocation
