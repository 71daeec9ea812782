import DeviceAllocation.Proofs.Placement.Aligned
import DeviceAllocation.Proofs.Placement.Level
import DeviceAllocation.Selector

namespace DeviceAllocation

open Placement

theorem mapError_eq_ok_iff {ε ε' α : Type} {f : ε → ε'} {outcome : Except ε α} {a : α} :
    outcome.mapError f = .ok a ↔ outcome = .ok a := by
  cases outcome with
  | error e => simp [Except.mapError]
  | ok b => simp [Except.mapError]

namespace Selector

variable {selector : Selector} {inventory : DeviceSet} {strategy : Strategy} {request : Request}
  {policy : Policy} {ids : List DeviceId}

theorem select_eq_ok_iff :
    selector.select inventory strategy request = .ok ids ↔
      ∃ policy, classify inventory request.available strategy = .ok policy ∧
        selector.screen request = .ok () ∧ selector.place policy inventory request = .ok ids := by
  rw [select]
  cases classify inventory request.available strategy with
  | error error => simp
  | ok policy =>
    simp only [allocate, Except.ok.injEq, exists_eq_left']
    cases selector.screen request with
    | error error => simp
    | ok _ => simp

theorem place_completes (hsize : (request.required.length : Int) ≤ request.size)
    (hpolicy : policy = .packed ∨ policy = .distributed)
    (hok : selector.place policy inventory request = .ok ids) :
    Completes inventory request ids := by
  obtain rfl | rfl := hpolicy
  · exact handsOut_packed.completes hsize (mapError_eq_ok_iff.mp hok)
  · exact handsOut_distributed.completes hsize (mapError_eq_ok_iff.mp hok)

/-- Answers of a selector, with repeats and unknown devices in either list. A sharing policy answers
with the required devices as they are given and then distinct devices of the inventory that are
available and not required, as many as make up the size. For whole GPUs the greedy choice answers
with nothing, or with as many distinct available GPUs as are wanted, the required ones first. -/
theorem select_answers (selector : Selector) (inventory : DeviceSet) (strategy : Strategy)
    (request : Request) (ids : List DeviceId)
    (hsize : (request.required.length : Int) ≤ request.size)
    (hok : selector.select inventory strategy request = .ok ids) :
    (∀ policy, policy = .packed ∨ policy = .distributed →
      classify inventory request.available strategy = .ok policy →
        Completes inventory request ids) ∧
    (classify inventory request.available strategy = .ok .aligned →
      ∀ gpus links scores, selector.net = .ofGpus gpus links →
        selector.topology = bestEffortAllocator scores →
          ids = [] ∨ Selects request.available request.required request.size ids) := by
  obtain ⟨chosen, hchosen, _, hplace⟩ := select_eq_ok_iff.mp hok
  constructor
  · intro policy hpolicy hclassify
    have hsame : chosen = policy := Except.ok.inj (hchosen.symm.trans hclassify)
    exact place_completes hsize hpolicy (hsame ▸ hplace)
  · intro hclassify gpus links scores hnet htopology
    have hsame : chosen = .aligned := Except.ok.inj (hchosen.symm.trans hclassify)
    have hnamed : selector.net.WellNamed := hnet ▸ Interconnect.wellNamed_ofGpus gpus links
    rw [hsame, place, htopology] at hplace
    exact aligned_selects hnamed hplace

def linkedGpus : List Gpu := [⟨"g0", 0, none⟩, ⟨"g1", 1, none⟩, ⟨"g2", 2, none⟩]

def linkedNet : Interconnect := .ofGpus linkedGpus [⟨"g1", "g2", 12⟩]

def linkedSelector : Selector := ⟨linkedNet, bestEffortAllocator linkedNet, false⟩

def linkedInventory : DeviceSet := .ofList [⟨"g0", "0"⟩, ⟨"g1", "1"⟩, ⟨"g2", "2"⟩]

def linkedRequest : Request := ⟨["g0", "g2", "g1", "g2"], ["g2", "g2"], 2⟩

/-- One answer by each of the three policies. -/
theorem select_answers_by_each_policy :
    Completes unevenInventory unevenRequest ["a::0", "a::1", "b::0", "b::1"] ∧
      Completes unevenInventory unevenRequest ["a::0", "b::1", "c::0", "a::1"] ∧
      Selects linkedRequest.available linkedRequest.required linkedRequest.size ["g2", "g1"] := by
  refine ⟨?_, ?_, ?_⟩
  · exact (select_answers linkedSelector unevenInventory .packed unevenRequest _ (by decide)
      (by decide +kernel)).1 .packed (Or.inl rfl) (by decide +kernel)
  · exact (select_answers linkedSelector unevenInventory .distributed unevenRequest _ (by decide)
      (by decide +kernel)).1 .distributed (Or.inr rfl) (by decide +kernel)
  · have hanswer := (select_answers linkedSelector linkedInventory .none linkedRequest
      ["g2", "g1"] (by decide) (by decide +kernel)).2 (by decide +kernel) linkedGpus _ linkedNet
      rfl rfl
    exact hanswer.resolve_left (by decide)

end Selector

end DeviceAllocation
