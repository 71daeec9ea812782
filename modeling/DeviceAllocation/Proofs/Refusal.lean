import DeviceAllocation.Proofs.Placement.Aligned
import DeviceAllocation.Proofs.Placement.Checked
import DeviceAllocation.Selector

namespace DeviceAllocation

open Placement

/-- The devices that a request is about are shared: the inventory has a hardware partition or a
replica is available. -/
def Shared (inventory : DeviceSet) (available : List DeviceId) : Prop :=
  (∃ device ∈ inventory.devices, device.isPartition) ∨ ∃ id ∈ available, DeviceId.isReplica id

structure Admitted (strict : Bool) (inventory : DeviceSet) (strategy : Strategy)
    (request : Request) : Prop where
  policy : Shared inventory request.available → strategy ≠ .none
  offered : strict = true → ∀ id ∈ request.required, id ∈ request.available

/-- The causes for which a request is refused, each of them where no earlier one applies. -/
inductive Refused (net : Interconnect) (strict : Bool) (inventory : DeviceSet)
    (strategy : Strategy) (request : Request) : AllocationError → Prop
  | noPolicy (hshared : Shared inventory request.available) (hstrategy : strategy = .none) :
    Refused net strict inventory strategy request .noValidPolicy
  | notOffered (hpolicy : Shared inventory request.available → strategy ≠ .none)
    (hstrict : strict = true) (hmissing : ∃ id ∈ request.required, id ∉ request.available) :
    Refused net strict inventory strategy request (.requiredNotAvailable request.missing)
  | unknownAvailable {id : DeviceId} (hadmitted : Admitted strict inventory strategy request)
    (hwhole : ¬ Shared inventory request.available)
    (hunknown : net.FirstUnknown request.available id) :
    Refused net strict inventory strategy request (.invalidDeviceList .available id)
  | unknownRequired {id : DeviceId} (hadmitted : Admitted strict inventory strategy request)
    (hwhole : ¬ Shared inventory request.available)
    (hknown : ∀ id ∈ request.available, net.Knows id)
    (hunknown : net.FirstUnknown request.required id) :
    Refused net strict inventory strategy request (.invalidDeviceList .required id)
  | tooFew (hadmitted : Admitted strict inventory strategy request)
    (hshared : Shared inventory request.available)
    (hfew : (candidates inventory request).length < request.needed) :
    Refused net strict inventory strategy request
      (.insufficientDevices request.needed (candidates inventory request).length)

structure Servable (net : Interconnect) (strict : Bool) (inventory : DeviceSet)
    (strategy : Strategy) (request : Request) : Prop where
  admitted : Admitted strict inventory strategy request
  known : ¬ Shared inventory request.available →
    (∀ id ∈ request.available, net.Knows id) ∧ ∀ id ∈ request.required, net.Knows id
  enough : Shared inventory request.available →
    request.needed ≤ (candidates inventory request).length

namespace Refused

variable {net : Interconnect} {strict : Bool} {inventory : DeviceSet} {strategy : Strategy}
  {request : Request}

theorem noValidPolicy_iff : Refused net strict inventory strategy request .noValidPolicy ↔
    Shared inventory request.available ∧ strategy = .none := by
  constructor
  · intro hrefused
    cases hrefused with
    | noPolicy hshared hstrategy => exact ⟨hshared, hstrategy⟩
  · rintro ⟨hshared, hstrategy⟩
    exact .noPolicy hshared hstrategy

theorem exists_requiredNotAvailable_iff :
    (∃ missing, Refused net strict inventory strategy request (.requiredNotAvailable missing)) ↔
      (Shared inventory request.available → strategy ≠ .none) ∧
        strict = true ∧ ∃ id ∈ request.required, id ∉ request.available := by
  constructor
  · rintro ⟨missing, hrefused⟩
    cases hrefused with
    | notOffered hpolicy hstrict hmissing => exact ⟨hpolicy, hstrict, hmissing⟩
  · rintro ⟨hpolicy, hstrict, hmissing⟩
    exact ⟨request.missing, .notOffered hpolicy hstrict hmissing⟩

theorem exists_invalid_available_iff :
    (∃ id, Refused net strict inventory strategy request (.invalidDeviceList .available id)) ↔
      Admitted strict inventory strategy request ∧ ¬ Shared inventory request.available ∧
        ∃ id ∈ request.available, ¬ net.Knows id := by
  rw [← Interconnect.exists_firstUnknown_iff]
  constructor
  · rintro ⟨id, hrefused⟩
    cases hrefused with
    | unknownAvailable hadmitted hwhole hunknown => exact ⟨hadmitted, hwhole, id, hunknown⟩
  · rintro ⟨hadmitted, hwhole, id, hunknown⟩
    exact ⟨id, .unknownAvailable hadmitted hwhole hunknown⟩

theorem exists_invalid_required_iff :
    (∃ id, Refused net strict inventory strategy request (.invalidDeviceList .required id)) ↔
      Admitted strict inventory strategy request ∧ ¬ Shared inventory request.available ∧
        (∀ id ∈ request.available, net.Knows id) ∧ ∃ id ∈ request.required, ¬ net.Knows id := by
  rw [← Interconnect.exists_firstUnknown_iff]
  constructor
  · rintro ⟨id, hrefused⟩
    cases hrefused with
    | unknownRequired hadmitted hwhole hknown hunknown =>
      exact ⟨hadmitted, hwhole, hknown, id, hunknown⟩
  · rintro ⟨hadmitted, hwhole, hknown, id, hunknown⟩
    exact ⟨id, .unknownRequired hadmitted hwhole hknown hunknown⟩

theorem insufficientDevices_iff {needed : Int} {count : ℕ} :
    Refused net strict inventory strategy request (.insufficientDevices needed count) ↔
      Admitted strict inventory strategy request ∧ Shared inventory request.available ∧
        (count : Int) < needed ∧ needed = request.size - request.required.length ∧
        count = (candidates inventory request).length := by
  constructor
  · intro hrefused
    cases hrefused with
    | tooFew hadmitted hshared hfew => exact ⟨hadmitted, hshared, hfew, rfl, rfl⟩
  · rintro ⟨hadmitted, hshared, hfew, rfl, rfl⟩
    exact .tooFew hadmitted hshared hfew

end Refused

namespace Selector

def greedy (net scores : Interconnect) (strict : Bool) : Selector :=
  ⟨net, bestEffortAllocator scores, strict⟩

variable {net scores : Interconnect} {strict : Bool} {inventory : DeviceSet} {strategy : Strategy}
  {request : Request} {error : AllocationError}

/-! ### The policy and the required devices -/

theorem classify_of_not_shared {available : List DeviceId} (h : ¬ Shared inventory available) :
    classify inventory available strategy = .ok .aligned := by
  simp only [Shared, not_or, not_exists, not_and, Bool.not_eq_true] at h
  have hparts : inventory.hasPartitions = false := List.any_eq_false.mpr (by simpa using h.1)
  have hreplicas : available.any DeviceId.isReplica = false :=
    List.any_eq_false.mpr (by simpa using h.2)
  simp only [classify, hparts, hreplicas]
  rfl

theorem classify_of_shared {available : List DeviceId} (h : Shared inventory available) :
    classify inventory available strategy = match strategy with
      | .packed => .ok .packed
      | .distributed => .ok .distributed
      | .none => .error .noValidPolicy := by
  have hshared : ¬ (!inventory.hasPartitions && !available.any DeviceId.isReplica) := by
    simpa [DeviceSet.hasPartitions, Shared, or_iff_not_imp_left] using h
  exact if_neg hshared

theorem exists_classify (h : Shared inventory request.available → strategy ≠ .none) :
    ∃ policy, classify inventory request.available strategy = .ok policy := by
  by_cases hshared : Shared inventory request.available
  · rw [classify_of_shared hshared]
    cases strategy with
    | none => exact absurd rfl (h hshared)
    | packed => exact ⟨.packed, rfl⟩
    | distributed => exact ⟨.distributed, rfl⟩
  · exact ⟨.aligned, classify_of_not_shared hshared⟩

theorem missing_ne_nil_iff :
    request.missing ≠ [] ↔ ∃ id ∈ request.required, id ∉ request.available := by
  simp [Request.missing, List.filter_eq_nil_iff]

theorem screen_of_admitted (h : Admitted strict inventory strategy request) :
    (greedy net scores strict).screen request = .ok () := by
  rw [screen, if_neg]
  rintro ⟨hstrict, hmissing⟩
  obtain ⟨id, hid, hnot⟩ := missing_ne_nil_iff.mp hmissing
  exact hnot (h.offered hstrict id hid)

/-! ### What an admitted request leads to -/

theorem select_of_whole (h : Admitted strict inventory strategy request)
    (hwhole : ¬ Shared inventory request.available) :
    (greedy net scores strict).select inventory strategy request =
      aligned net (bestEffortAllocator scores) request := by
  rw [select, classify_of_not_shared hwhole]
  simp only [allocate, screen_of_admitted h]
  rfl

theorem mapError_ite {ε ε' α : Type} {p : Prop} [Decidable p] {f : ε → ε'} (e : ε) (a : α) :
    (if p then Except.error e else .ok a).mapError f = if p then .error (f e) else .ok a := by
  split <;> rfl

/-- Both sharing policies refuse for want of candidates, by the same comparison. -/
theorem exists_select_of_shared (net scores : Interconnect)
    (h : Admitted strict inventory strategy request)
    (hshared : Shared inventory request.available) :
    ∃ ids, (greedy net scores strict).select inventory strategy request =
      if (candidates inventory request).length < request.needed then
        .error (.refused
          (.insufficientDevices request.needed (candidates inventory request).length))
      else .ok ids := by
  have hscreen : (greedy net scores strict).screen request = .ok () := screen_of_admitted h
  rw [select, classify_of_shared hshared]
  cases strategy with
  | none => exact absurd rfl (h.policy hshared)
  | packed =>
    simp only [allocate, hscreen, place, packed_eq]
    exact ⟨_, mapError_ite _ _⟩
  | distributed =>
    simp only [allocate, hscreen, place, distributed]
    exact ⟨_, mapError_ite _ _⟩

theorem aligned_of_known (topology : TopologyAllocator)
    (havailable : ∀ id ∈ request.available, net.Knows id)
    (hrequired : ∀ id ∈ request.required, net.Knows id) : ∃ available required,
      aligned net topology request =
        (topology available required request.size).map fun chosen => chosen.map Gpu.uuid := by
  obtain ⟨available, hav⟩ := Interconnect.exists_resolve havailable
  obtain ⟨required, hreq⟩ := Interconnect.exists_resolve hrequired
  exact ⟨available, required, aligned_of_resolve hav hreq topology⟩

/-! ### Refused or answered -/

theorem select_of_refused (h : Refused net strict inventory strategy request error) :
    (greedy net scores strict).select inventory strategy request = .error (.refused error) := by
  cases h with
  | noPolicy hshared hstrategy =>
    rw [select, classify_of_shared hshared, hstrategy]
  | notOffered hpolicy hstrict hmissing =>
    have hscreen : (greedy net scores strict).screen request =
        .error (.requiredNotAvailable request.missing) :=
      if_pos ⟨hstrict, missing_ne_nil_iff.mpr hmissing⟩
    obtain ⟨policy, hclassify⟩ := exists_classify hpolicy
    rw [select, hclassify]
    simp only [allocate, hscreen]
  | unknownAvailable hadmitted hwhole hunknown =>
    rw [select_of_whole hadmitted hwhole]
    exact aligned_of_unknown_available hunknown
  | unknownRequired hadmitted hwhole hknown hunknown =>
    rw [select_of_whole hadmitted hwhole]
    exact aligned_of_unknown_required hknown hunknown
  | tooFew hadmitted hshared hfew =>
    obtain ⟨ids, hselect⟩ := exists_select_of_shared net scores hadmitted hshared
    rw [hselect, if_pos hfew]

theorem select_of_servable (scores : Interconnect)
    (h : Servable net strict inventory strategy request) :
    ∃ ids, (greedy net scores strict).select inventory strategy request = .ok ids := by
  by_cases hshared : Shared inventory request.available
  · obtain ⟨ids, hselect⟩ := exists_select_of_shared net scores h.admitted hshared
    exact ⟨ids, by rw [hselect, if_neg (h.enough hshared).not_gt]⟩
  · obtain ⟨available, required, haligned⟩ :=
      aligned_of_known (bestEffortAllocator scores) (h.known hshared).1 (h.known hshared).2
    rw [select_of_whole h.admitted hshared, haligned]
    exact ⟨_, rfl⟩

theorem refused_or_servable (net : Interconnect) (strict : Bool) (inventory : DeviceSet)
    (strategy : Strategy) (request : Request) :
    (∃ error, Refused net strict inventory strategy request error) ∨
      Servable net strict inventory strategy request := by
  -- the causes are gone through in their order, each under the negations of those before it
  by_cases hpolicy : Shared inventory request.available → strategy ≠ .none
  · by_cases hoffered : strict = true → ∀ id ∈ request.required, id ∈ request.available
    · have hadmitted : Admitted strict inventory strategy request := ⟨hpolicy, hoffered⟩
      by_cases hshared : Shared inventory request.available
      · by_cases hfew : (candidates inventory request).length < request.needed
        · exact Or.inl ⟨_, .tooFew hadmitted hshared hfew⟩
        · exact Or.inr ⟨hadmitted, fun hwhole => absurd hshared hwhole, fun _ => by omega⟩
      · by_cases havailable : ∀ id ∈ request.available, net.Knows id
        · by_cases hrequired : ∀ id ∈ request.required, net.Knows id
          · exact Or.inr ⟨hadmitted, fun _ => ⟨havailable, hrequired⟩,
              fun h => absurd h hshared⟩
          · push Not at hrequired
            obtain ⟨id, hunknown⟩ := Interconnect.exists_firstUnknown_iff.mpr hrequired
            exact Or.inl ⟨_, .unknownRequired hadmitted hshared havailable hunknown⟩
        · push Not at havailable
          obtain ⟨id, hunknown⟩ := Interconnect.exists_firstUnknown_iff.mpr havailable
          exact Or.inl ⟨_, .unknownAvailable hadmitted hshared hunknown⟩
    · push Not at hoffered
      exact Or.inl ⟨_, .notOffered hpolicy hoffered.1 hoffered.2⟩
  · push Not at hpolicy
    exact Or.inl ⟨_, .noPolicy hpolicy.1 hpolicy.2⟩

theorem select_cases (net scores : Interconnect) (strict : Bool) (inventory : DeviceSet)
    (strategy : Strategy) (request : Request) :
    (∃ error, Refused net strict inventory strategy request error ∧
        (greedy net scores strict).select inventory strategy request = .error (.refused error)) ∨
      Servable net strict inventory strategy request ∧
        ∃ ids, (greedy net scores strict).select inventory strategy request = .ok ids := by
  rcases refused_or_servable net strict inventory strategy request with ⟨error, hrefused⟩ | hservable
  · exact Or.inl ⟨error, hrefused, select_of_refused hrefused⟩
  · exact Or.inr ⟨hservable, select_of_servable scores hservable⟩

theorem select_eq_refused_iff :
    (greedy net scores strict).select inventory strategy request = .error (.refused error) ↔
      Refused net strict inventory strategy request error := by
  refine ⟨?_, select_of_refused⟩
  intro hselect
  obtain ⟨cause, hcause, hanswer⟩ | ⟨-, ids, hanswer⟩ :=
    select_cases net scores strict inventory strategy request
  · obtain rfl : error = cause := by simpa using hselect.symm.trans hanswer
    exact hcause
  · cases hselect.symm.trans hanswer

theorem exists_select_eq_ok_iff :
    (∃ ids, (greedy net scores strict).select inventory strategy request = .ok ids) ↔
      Servable net strict inventory strategy request := by
  refine ⟨?_, select_of_servable scores⟩
  rintro ⟨ids, hselect⟩
  obtain ⟨cause, -, hanswer⟩ | ⟨hservable, -⟩ :=
    select_cases net scores strict inventory strategy request
  · cases hselect.symm.trans hanswer
  · exact hservable

theorem select_ne_broken (fault : Fault) :
    (greedy net scores strict).select inventory strategy request ≠ .error (.broken fault) := by
  intro hselect
  obtain ⟨cause, -, hanswer⟩ | ⟨-, ids, hanswer⟩ :=
    select_cases net scores strict inventory strategy request
  · cases hselect.symm.trans hanswer
  · cases hselect.symm.trans hanswer

/-! ### With every look-up checked -/

def select? (net scores : Interconnect) (strict : Bool) (inventory : DeviceSet)
    (strategy : Strategy) (request : Request) : Option (Except Failure (List DeviceId)) :=
  match classify inventory request.available strategy with
  | .error error => some (.error (.refused error))
  | .ok policy =>
    match (greedy net scores strict).screen request with
    | .error error => some (.error (.refused error))
    | .ok () =>
      match policy with
      | .aligned => aligned? net scores request
      | .packed => some ((packed inventory request).mapError .refused)
      | .distributed => (distributed? inventory request).map (Except.mapError .refused)

theorem select?_eq (net scores : Interconnect) (strict : Bool) (inventory : DeviceSet)
    (strategy : Strategy) (request : Request) :
    select? net scores strict inventory strategy request =
      some ((greedy net scores strict).select inventory strategy request) := by
  rw [select?, select]
  cases classify inventory request.available strategy with
  | error error => rfl
  | ok policy =>
    simp only [allocate]
    cases (greedy net scores strict).screen request with
    | error error => rfl
    | ok _ =>
      cases policy with
      | aligned => exact aligned?_eq net scores request
      | packed => rfl
      | distributed =>
        simp only [distributed?_eq, Option.map_some]
        rfl

/-- Requests end, and only for these causes without an answer. A request for shared devices is
refused when no strategy is configured. Else a strict selector refuses one that requires a device
which is not available. Else one for whole GPUs is refused when the interconnect does not know an
available device, and else when it does not know a required one, and one for shared devices when
there are fewer candidates than are needed beside the required devices. No look-up is in vain on the
way, and no fault comes up. -/
theorem select_refuses_for_first_cause (net scores : Interconnect) (strict : Bool)
    (inventory : DeviceSet) (strategy : Strategy) (request : Request) :
    ∃ answer, select? net scores strict inventory strategy request = some answer ∧
      (greedy net scores strict).select inventory strategy request = answer ∧
      (answer = .error (.refused .noValidPolicy) ↔
        Shared inventory request.available ∧ strategy = .none) ∧
      ((∃ missing, answer = .error (.refused (.requiredNotAvailable missing))) ↔
        (Shared inventory request.available → strategy ≠ .none) ∧
          strict = true ∧ ∃ id ∈ request.required, id ∉ request.available) ∧
      ((∃ id, answer = .error (.refused (.invalidDeviceList .available id))) ↔
        Admitted strict inventory strategy request ∧ ¬ Shared inventory request.available ∧
          ∃ id ∈ request.available, ¬ net.Knows id) ∧
      ((∃ id, answer = .error (.refused (.invalidDeviceList .required id))) ↔
        Admitted strict inventory strategy request ∧ ¬ Shared inventory request.available ∧
          (∀ id ∈ request.available, net.Knows id) ∧ ∃ id ∈ request.required, ¬ net.Knows id) ∧
      (∀ needed count, answer = .error (.refused (.insufficientDevices needed count)) ↔
        Admitted strict inventory strategy request ∧ Shared inventory request.available ∧
          (count : Int) < needed ∧ needed = request.size - request.required.length ∧
          count = (candidates inventory request).length) ∧
      (∀ fault, answer ≠ .error (.broken fault)) ∧
      ((∃ ids, answer = .ok ids) ↔ Admitted strict inventory strategy request ∧
        (¬ Shared inventory request.available →
          (∀ id ∈ request.available, net.Knows id) ∧ ∀ id ∈ request.required, net.Knows id) ∧
        (Shared inventory request.available → request.size - request.required.length ≤
          (candidates inventory request).length)) := by
  refine ⟨_, select?_eq net scores strict inventory strategy request, rfl, ?_, ?_, ?_, ?_, ?_,
    select_ne_broken, ?_⟩
  · rw [select_eq_refused_iff, Refused.noValidPolicy_iff]
  · simp only [select_eq_refused_iff, Refused.exists_requiredNotAvailable_iff]
  · simp only [select_eq_refused_iff, Refused.exists_invalid_available_iff]
  · simp only [select_eq_refused_iff, Refused.exists_invalid_required_iff]
  · intro needed count
    rw [select_eq_refused_iff, Refused.insufficientDevices_iff]
  · rw [exists_select_eq_ok_iff]
    constructor
    · intro hservable
      exact ⟨hservable.admitted, hservable.known, hservable.enough⟩
    · rintro ⟨hadmitted, hknown, henough⟩
      exact ⟨hadmitted, hknown, henough⟩

end Selector

end DeviceAllocation
