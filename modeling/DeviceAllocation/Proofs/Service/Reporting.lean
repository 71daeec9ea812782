import DeviceAllocation.Proofs.Service.Counting

namespace DeviceAllocation

/-- The span when work has left it that ended so. A refusal is recorded where it is reported, and
once more where it leaves the span. -/
def Span.closed (span : Span) (outcome : Except Failure (List DeviceId)) : Span :=
  match outcome with
  | .error (.refused error) =>
    (span.record (.refused error) (.error error.message)).record (.refused error)
      (Failure.refused error).status
  | .error (.broken fault) => span.record (.broken fault) (Failure.broken fault).status
  | .ok _ => span

namespace Service

def eventsOf (policy : Option Policy) (request : Request)
    (outcome : Except Failure (List DeviceId)) : List RequestEvent :=
  match outcome with
  | .error (.refused error) =>
    [.failed policy request.size request.available.length request.required.length error.message]
  | .error (.broken _) => []
  | .ok [] => [.empty policy request.size request.available.length request.required.length]
  | .ok devices => [.selected policy request.size devices]

def spanOf (strategy : Strategy) (request : Request) (policy : Option Policy) : Span where
  name := "allocation.preferred"
  initial := startAttributes strategy request
  later := policy.toList.map fun chosen => ("allocation.policy", .text chosen.name)
  failures := []
  status := .unset

/-! ### One request -/

section Request

variable (selector : Selector) (inventory : DeviceSet) (strategy : Strategy) (request : Request)

theorem attempt_span (metrics : Metrics) :
    (attempt selector inventory strategy request (.start strategy request metrics)).2.span =
      spanOf strategy request (classify inventory request.available strategy).toOption := by
  rw [attempt]
  cases classify inventory request.available strategy with
  | error error => rfl
  | ok policy => rfl

/-- Nothing has ended and nothing is written before the attempt is over. -/
theorem attempt_record (metrics : Metrics) :
    (attempt selector inventory strategy request (.start strategy request metrics)).2.ended = [] ∧
      (attempt selector inventory strategy request
        (.start strategy request metrics)).2.events = [] := by
  rw [attempt]
  cases classify inventory request.available strategy with
  | error error => exact ⟨rfl, rfl⟩
  | ok policy => exact ⟨rfl, rfl⟩

theorem handle_record (progress : Progress) :
    (handle selector inventory strategy request progress).2.ended =
        (attempt selector inventory strategy request progress).2.ended ++
          [(attempt selector inventory strategy request progress).2.span.closed
            (attempt selector inventory strategy request progress).1] ∧
      (handle selector inventory strategy request progress).2.events =
        (attempt selector inventory strategy request progress).2.events ++
          eventsOf (attempt selector inventory strategy request progress).2.policy request
            (attempt selector inventory strategy request progress).1 := by
  rw [handle, inSpan, counting, reportingRefusals]
  rcases attempt selector inventory strategy request progress with
    ⟨(error | fault) | (_ | ⟨device, devices⟩), after⟩
  -- a refusal, another failure, an answer without devices and one with devices
  · exact ⟨rfl, rfl⟩
  · exact ⟨rfl, (List.append_nil _).symm⟩
  · exact ⟨rfl, rfl⟩
  · exact ⟨rfl, rfl⟩

theorem respond_record (metrics : Metrics) :
    (respond selector inventory strategy request metrics).ended =
        [(spanOf strategy request (classify inventory request.available strategy).toOption).closed
          (selector.select inventory strategy request)] ∧
      (respond selector inventory strategy request metrics).events =
        eventsOf (classify inventory request.available strategy).toOption request
          (selector.select inventory strategy request) := by
  let start : Progress := .start strategy request metrics
  have hpolicy : (attempt selector inventory strategy request start).2.policy =
      (classify inventory request.available strategy).toOption := (attempt_snd rfl).1
  obtain ⟨hnone, hquiet⟩ := attempt_record selector inventory strategy request metrics
  obtain ⟨hended, hevents⟩ := handle_record selector inventory strategy request start
  rw [hnone, attempt_span, attempt_fst, List.nil_append] at hended
  rw [hquiet, hpolicy, attempt_fst, List.nil_append] at hevents
  exact ⟨hended, hevents⟩

end Request

/-! ### What the record says -/

structure Traces (chosen : Except AllocationError Policy)
    (outcome : Except Failure (List DeviceId)) (span : Span) : Prop where
  name : span.name = "allocation.preferred"
  policy : ∀ value, ("allocation.policy", value) ∈ span.attributes ↔
    ∃ policy, chosen = .ok policy ∧ value = .text policy.name
  status : (∃ description, span.status = .error description) ↔
    ∃ failure, outcome = .error failure
  -- a refusal is on record twice, by its kind and in words
  refusal : ∀ error, outcome = .error (.refused error) →
    span.failures = List.replicate 2
      ⟨some ("gpu_allocator.domain.errors." ++ error.kind), some error.message⟩
  fault : ∀ fault, outcome = .error (.broken fault) →
    span.failures = [⟨some fault.qualifiedKind, some fault.message⟩]
  answer : ∀ devices, outcome = .ok devices → span.failures = []

theorem mem_attributes_spanOf (strategy : Strategy) (request : Request) (policy : Option Policy)
    (value : Json) : ("allocation.policy", value) ∈ (spanOf strategy request policy).attributes ↔
      ∃ chosen, policy = some chosen ∧ value = .text chosen.name := by
  have hinitial : ("allocation.policy", value) ∉ startAttributes strategy request := by
    simp [startAttributes]
  rw [Span.attributes, List.mem_append, spanOf, or_iff_right hinitial]
  cases policy with
  | none => simp
  | some chosen => simp

theorem attributes_closed (span : Span) (outcome : Except Failure (List DeviceId)) :
    (span.closed outcome).attributes = span.attributes := by
  rcases outcome with (error | fault) | devices
  · rfl
  · rfl
  · rfl

theorem traces_spanOf (strategy : Strategy) (request : Request)
    (chosen : Except AllocationError Policy) (outcome : Except Failure (List DeviceId)) :
    Traces chosen outcome ((spanOf strategy request chosen.toOption).closed outcome) where
  name := by rcases outcome with (error | fault) | devices <;> rfl
  policy value := by
    rw [attributes_closed, mem_attributes_spanOf]
    cases chosen with
    | error error => simp [Except.toOption]
    | ok policy => simp [Except.toOption]
  status := by
    rcases outcome with (error | fault) | devices
    · exact iff_of_true ⟨_, rfl⟩ ⟨_, rfl⟩
    · exact iff_of_true ⟨_, rfl⟩ ⟨_, rfl⟩
    · exact iff_of_false nofun nofun
  refusal error h := by
    subst h
    rfl
  fault fault h := by
    subst h
    rfl
  answer devices h := by
    subst h
    rfl

structure Writes (outcome : Except Failure (List DeviceId)) (events : List RequestEvent) :
    Prop where
  selected : ∀ devices, (outcome = .ok devices ∧ devices ≠ []) ↔
    ∃ event, events = [event] ∧ event.level = .info ∧
      event.name = "preferred_allocation_selected" ∧ ("devices", .texts devices) ∈ event.fields
  empty : outcome = .ok [] ↔
    ∃ event, events = [event] ∧ event.level = .warning ∧
      event.name = "preferred_allocation_empty"
  failed : ∀ text, (∃ error, outcome = .error (.refused error) ∧ error.message = text) ↔
    ∃ event, events = [event] ∧ event.level = .warning ∧
      event.name = "preferred_allocation_failed" ∧ ("error", .text text) ∈ event.fields
  silent : (∃ fault, outcome = .error (.broken fault)) ↔ events = []

theorem texts_inj {texts others : List String} : Json.texts texts = Json.texts others ↔
    texts = others := by
  have htext : Function.Injective Json.text := fun _ _ h => Json.text.inj h
  rw [Json.texts, Json.texts, Json.list.injEq]
  exact (List.map_injective_iff.mpr htext).eq_iff

theorem writes_eventsOf (policy : Option Policy) (request : Request)
    (outcome : Except Failure (List DeviceId)) :
    Writes outcome (eventsOf policy request outcome) := by
  -- events of different kinds differ in level or name, so each says how the request ended
  rcases outcome with (error | fault) | (_ | ⟨device, devices⟩)
  · constructor <;>
      simp [eventsOf, RequestEvent.level, RequestEvent.name, RequestEvent.fields, eq_comm]
  · constructor <;> simp [eventsOf]
  · constructor <;>
      simp [eventsOf, RequestEvent.level, RequestEvent.name, RequestEvent.fields]
  · constructor <;>
      simp [eventsOf, RequestEvent.level, RequestEvent.name, RequestEvent.fields, texts_inj,
        eq_comm]

theorem policy_mem_fields {policy : Option Policy} {request : Request}
    {outcome : Except Failure (List DeviceId)} {event : RequestEvent}
    (hevent : event ∈ eventsOf policy request outcome) (value : Json) :
    ("policy", value) ∈ event.fields ↔ value = .text (policyLabel policy) := by
  rcases outcome with (error | fault) | (_ | ⟨device, devices⟩)
  · obtain rfl := List.mem_singleton.mp hevent
    simp [RequestEvent.fields]
  · cases hevent
  · obtain rfl := List.mem_singleton.mp hevent
    simp [RequestEvent.fields]
  · obtain rfl := List.mem_singleton.mp hevent
    simp [RequestEvent.fields]

/-! ### Histories -/

open Metrics in
/-- Reported values that differ by one more request under a policy. -/
def CountedUnder (policy : Option Policy) (before after : List Sample) : Prop :=
  ∀ other, reading after "allocation_requests_total" [("policy", policyLabel other)] =
    reading before "allocation_requests_total" [("policy", policyLabel other)] +
      if policy = other then 1 else 0

theorem countedUnder_respond {metrics : Metrics} (h : (metrics.requests.map Prod.fst).Nodup)
    (selector : Selector) (inventory : DeviceSet) (strategy : Strategy) (request : Request) :
    CountedUnder (classify inventory request.available strategy).toOption metrics.samples
      (respond selector inventory strategy request metrics).metrics.samples := by
  intro other
  have hafter : ((respond selector inventory strategy request metrics).metrics.requests.map
      Prod.fst).Nodup := by
    rw [respond_metrics]
    exact Counters.nodup_increment h _
  rw [Metrics.reading_requests hafter, Metrics.reading_requests h, respond_metrics]
  exact Counters.value_increment _ _ _

/-- After any history a request ends one span, which carries a policy exactly if one was chosen, and
has failed exactly if the request has, with a refusal recorded twice and any other failure once. One
event tells of an answer or a refusal, none of any other failure. The policy that it names is the
one that the request is counted under. -/
theorem record_of_request (inventory : DeviceSet) (strategy : Strategy) (events : List Event)
    (selector : Selector) (request : Request) :
    let before := run ⟨inventory, strategy, .fresh⟩ events
    let chosen := classify before.inventory request.available before.strategy
    ∃ after response, step before (.request selector request) = (after, some response) ∧
      (∃ span, response.ended = [span] ∧ Traces chosen response.outcome span) ∧
      Writes response.outcome response.events ∧
      (∀ event ∈ response.events, ∀ value, ("policy", value) ∈ event.fields ↔
        value = .text (policyLabel chosen.toOption)) ∧
      CountedUnder chosen.toOption before.metrics.samples after.metrics.samples := by
  intro before chosen
  let response :=
    respond selector before.inventory before.strategy request before.metrics
  have houtcome : response.outcome =
      selector.select before.inventory before.strategy request := handle_fst _
  obtain ⟨hended, hevents⟩ :=
    respond_record selector before.inventory before.strategy request before.metrics
  rw [← houtcome] at hended hevents
  have hstart : Counts (⟨inventory, strategy, .fresh⟩ : State).metrics [] := Counts.fresh
  have hcounts := hstart.run events
  refine ⟨_, response, rfl, ⟨_, hended, traces_spanOf _ _ _ _⟩, ?_, ?_, ?_⟩
  · rw [hevents]
    exact writes_eventsOf _ _ _
  · intro event hevent
    rw [hevents] at hevent
    exact policy_mem_fields hevent
  · exact countedUnder_respond hcounts.requests_nodup _ _ _ _

end Service

end DeviceAllocation
