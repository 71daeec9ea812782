import DeviceAllocation.Plugin.Command
import DeviceAllocation.Proofs.Service.History

/-! Requests to the services of a process. Only a span that cannot start gets in the way of an
answer. -/

namespace DeviceAllocation.Plugin

def Reply.ofOutcome : Except Failure (List DeviceId) → Reply
  | .ok answer => .devices answer
  | .error failure => .failed failure

/-- The tracer can start spans, if there is one. -/
def StartsSpans (plugin : Plugin) : Prop :=
  ∀ tracer, plugin.tracer = some tracer → tracer.limits.isUsable = true

variable {plugin : Plugin} {name : String} {service : WiredService} {request : Request}
  {around : Circumstances}

theorem answer_fst (plugin : Plugin) (service : WiredService) (request : Request)
    (around : Circumstances) : (plugin.answer service request around).1 =
      service.selector.select plugin.inventory (plugin.strategyOf service) request :=
  Service.handle_fst _

theorem startSpan_of_startsSpans (h : plugin.StartsSpans) (around : Circumstances)
    (attributes : List (String × Json)) : (plugin.startSpan around attributes).2 = .ok () := by
  rw [startSpan]
  cases htracer : plugin.tracer with
  | none => rfl
  | some tracer =>
    dsimp only
    rw [Tracer.start, h tracer htracer, Bool.not_true, Bool.and_false]
    rfl

theorem step_request
    (hservice : Keyed.find? WiredService.name name plugin.services = some service)
    (hstart : (plugin.startSpan around
      (Service.startAttributes (plugin.strategyOf service) request)).2 = .ok ()) :
    step plugin (.request name request around) =
      ((plugin.answer service request around).2.1,
        .ofOutcome (plugin.answer service request around).1,
        (plugin.answer service request around).2.2) := by
  rw [step, hservice]
  dsimp only
  generalize plugin.startSpan around
    (Service.startAttributes (plugin.strategyOf service) request) = started at hstart ⊢
  obtain ⟨lines, outcome⟩ := started
  obtain rfl : outcome = .ok () := hstart
  dsimp only
  rcases plugin.answer service request around with ⟨failure | devices, after, effects⟩
  · rfl
  · rfl

theorem untraced_of_startSpan
    (hservice : Keyed.find? WiredService.name name plugin.services = some service)
    {error : TracingError} (hstart : (plugin.startSpan around
      (Service.startAttributes (plugin.strategyOf service) request)).2 = .error error) :
    (step plugin (.request name request around)).2.1 = .untraced error := by
  rw [step, hservice]
  dsimp only
  generalize plugin.startSpan around
    (Service.startAttributes (plugin.strategyOf service) request) = started at hstart ⊢
  obtain ⟨lines, outcome⟩ := started
  obtain rfl : outcome = .error error := hstart
  rfl

structure AnswersBy (plugin : Plugin) (name : String) (selector : Selector)
    (strategy : Strategy) : Prop where
  answers : plugin.StartsSpans → ∀ request around,
    (step plugin (.request name request around)).2.1 =
      .ofOutcome (selector.select plugin.inventory strategy request)
  -- where spans cannot start, there may be no answer, but there is no other one
  untraced : ¬plugin.StartsSpans → ∀ request around,
    (step plugin (.request name request around)).2.1 =
        .ofOutcome (selector.select plugin.inventory strategy request) ∨
      ∃ error, (step plugin (.request name request around)).2.1 = .untraced error

theorem reply_of_startSpan
    (hservice : Keyed.find? WiredService.name name plugin.services = some service)
    (hstart : (plugin.startSpan around
      (Service.startAttributes (plugin.strategyOf service) request)).2 = .ok ()) :
    (step plugin (.request name request around)).2.1 =
      .ofOutcome
        (service.selector.select plugin.inventory (plugin.strategyOf service) request) := by
  rw [step_request hservice hstart, answer_fst]

theorem answersBy_of_service
    (hservice : Keyed.find? WiredService.name name plugin.services = some service) :
    AnswersBy plugin name service.selector (plugin.strategyOf service) where
  answers hstarts _ around :=
    reply_of_startSpan hservice (startSpan_of_startsSpans hstarts around _)
  untraced _ request around := by
    cases hstart : (plugin.startSpan around
        (Service.startAttributes (plugin.strategyOf service) request)).2 with
    | ok _ => exact Or.inl (reply_of_startSpan hservice hstart)
    | error error => exact Or.inr ⟨error, untraced_of_startSpan hservice hstart⟩

end DeviceAllocation.Plugin
