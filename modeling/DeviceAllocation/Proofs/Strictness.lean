import DeviceAllocation.Proofs.Asking
import DeviceAllocation.Proofs.Placement.NoRoom
import DeviceAllocation.Proofs.Refusal
import DeviceAllocation.Proofs.Selection

namespace DeviceAllocation

open Placement

namespace Placement

variable {inventory : DeviceSet} {request : Request} {ids : List DeviceId}

/-- Behind the required devices a sharing policy hands out available ones, whatever the size. -/
theorem available_of_mem_packed (hoffered : ∀ id ∈ request.required, id ∈ request.available)
    (hok : packed inventory request = .ok ids) : ∀ id ∈ ids, id ∈ request.available := by
  intro id hid
  rw [packed_eq] at hok
  split at hok
  · cases hok
  · obtain rfl := Except.ok.inj hok
    -- a cut keeps entries of the list that it is made from
    rcases List.mem_append.mp (List.mem_of_mem_take hid) with hrequired | hsorted
    · exact hoffered id hrequired
    · have hcandidate := (sortBy_perm _ _).mem_iff.mp hsorted
      exact (mem_candidates.mp hcandidate).2.1

theorem available_of_mem_distributed (hoffered : ∀ id ∈ request.required, id ∈ request.available)
    (hok : distributed inventory request = .ok ids) : ∀ id ∈ ids, id ∈ request.available := by
  intro id hid
  by_cases hsize : (request.required.length : Int) ≤ request.size
  · obtain ⟨-, picks, rfl, -, hpicks⟩ := handsOut_distributed.completes hsize hok
    rcases List.mem_append.mp hid with hrequired | hpick
    · exact hoffered id hrequired
    · exact (hpicks id hpick).1
  · have hnone : distributed inventory request = .ok request.required :=
      distributed_of_no_room (Int.le_of_lt (not_le.mp hsize))
    obtain rfl := Except.ok.inj (hnone.symm.trans hok)
    exact hoffered id hid

end Placement

namespace Selector

def ChoosesGreedily (selector : Selector) : Prop :=
  ∃ gpus links scores, selector.net = .ofGpus gpus links ∧
    selector.topology = bestEffortAllocator scores

variable {selector : Selector} {policy : Policy} {inventory : DeviceSet} {strategy : Strategy}
  {request : Request} {ids : List DeviceId}

/-! ### When all required devices are available -/

theorem missing_eq_nil (hoffered : ∀ id ∈ request.required, id ∈ request.available) :
    request.missing = [] := by
  by_contra hmissing
  obtain ⟨id, hid, hnot⟩ := missing_ne_nil_iff.mp hmissing
  exact hnot (hoffered id hid)

theorem allocate_of_missing_eq_nil (h : request.missing = []) :
    selector.allocate policy inventory request = selector.place policy inventory request := by
  have hscreen : selector.screen request = .ok () := if_neg fun hboth => hboth.2 h
  rw [allocate, hscreen]

theorem place_strict (selector : Selector) (policy : Policy) (inventory : DeviceSet)
    (request : Request) :
    { selector with strict := true }.place policy inventory request =
      { selector with strict := false }.place policy inventory request := by
  cases policy with
  | aligned => rfl
  | packed => rfl
  | distributed => rfl

theorem allocate_strict_eq_lenient
    (hoffered : ∀ id ∈ request.required, id ∈ request.available) :
    { selector with strict := true }.allocate policy inventory request =
      { selector with strict := false }.allocate policy inventory request := by
  have hmissing := missing_eq_nil hoffered
  rw [allocate_of_missing_eq_nil hmissing, allocate_of_missing_eq_nil hmissing, place_strict]

theorem select_strict_eq_lenient
    (hoffered : ∀ id ∈ request.required, id ∈ request.available) :
    { selector with strict := true }.select inventory strategy request =
      { selector with strict := false }.select inventory strategy request := by
  rw [select, select]
  cases classify inventory request.available strategy with
  | error error => rfl
  | ok policy => exact allocate_strict_eq_lenient hoffered

/-! ### When a required device is not available -/

theorem screen_strict (hmissing : ∃ id ∈ request.required, id ∉ request.available) :
    { selector with strict := true }.screen request =
      .error (.requiredNotAvailable request.missing) :=
  if_pos ⟨rfl, missing_ne_nil_iff.mpr hmissing⟩

theorem allocateAsking_strict {m : Type → Type} [Monad m] (ask : Question m)
    (hmissing : ∃ id ∈ request.required, id ∉ request.available) :
    { selector with strict := true }.allocateAsking ask policy inventory request =
      pure (.error (.refused (.requiredNotAvailable request.missing))) := by
  rw [allocateAsking.eq_def, screen_strict hmissing]

/-- A selector that refuses without asking refuses whatever its topology allocator answers. -/
theorem allocate_strict_of_missing (hmissing : ∃ id ∈ request.required, id ∉ request.available) :
    { selector with strict := true }.allocate policy inventory request =
      .error (.refused (.requiredNotAvailable request.missing)) := by
  let strict : Selector := { selector with strict := true }
  let answering : Question Id := fun available required size =>
    pure (selector.topology available required size)
  have hanswered : strict.allocateAsking answering policy inventory request =
      pure (strict.allocate policy inventory request) :=
    allocateAsking_pure strict policy inventory request
  have hrefused : strict.allocateAsking answering policy inventory request =
      pure (.error (.refused (.requiredNotAvailable request.missing))) :=
    allocateAsking_strict answering hmissing
  exact hanswered.symm.trans hrefused

theorem select_strict_of_missing (hmissing : ∃ id ∈ request.required, id ∉ request.available)
    (hpolicy : Shared inventory request.available → strategy ≠ .none) :
    { selector with strict := true }.select inventory strategy request =
      .error (.refused (.requiredNotAvailable request.missing)) := by
  obtain ⟨policy, hclassify⟩ := exists_classify hpolicy
  rw [select, hclassify]
  exact allocate_strict_of_missing hmissing

/-! ### What is handed out -/

theorem available_of_place (hoffered : ∀ id ∈ request.required, id ∈ request.available)
    (hgreedy : policy = .aligned → selector.ChoosesGreedily)
    (hok : selector.place policy inventory request = .ok ids) :
    ∀ id ∈ ids, id ∈ request.available := by
  cases policy with
  | aligned =>
    obtain ⟨gpus, links, scores, hnet, htopology⟩ := hgreedy rfl
    have hnamed : selector.net.WellNamed := hnet ▸ Interconnect.wellNamed_ofGpus gpus links
    rw [place, htopology] at hok
    rcases aligned_selects hnamed hok with rfl | hselects
    · intro id hid
      exact absurd hid List.not_mem_nil
    · exact hselects.available
  | packed => exact available_of_mem_packed hoffered (mapError_eq_ok_iff.mp hok)
  | distributed => exact available_of_mem_distributed hoffered (mapError_eq_ok_iff.mp hok)

theorem available_of_allocate_strict (hgreedy : policy = .aligned → selector.ChoosesGreedily)
    (hok : { selector with strict := true }.allocate policy inventory request = .ok ids) :
    ∀ id ∈ ids, id ∈ request.available := by
  by_cases hmissing : ∃ id ∈ request.required, id ∉ request.available
  · rw [allocate, screen_strict hmissing] at hok
    cases hok
  · push Not at hmissing
    rw [allocate_of_missing_eq_nil (missing_eq_nil hmissing)] at hok
    exact available_of_place hmissing hgreedy hok

theorem available_of_select_strict
    (hgreedy : classify inventory request.available strategy = .ok .aligned →
      selector.ChoosesGreedily)
    (hok : { selector with strict := true }.select inventory strategy request = .ok ids) :
    ∀ id ∈ ids, id ∈ request.available := by
  rw [select] at hok
  cases hclassify : classify inventory request.available strategy with
  | error error =>
    rw [hclassify] at hok
    cases hok
  | ok policy =>
    rw [hclassify] at hok
    apply available_of_allocate_strict _ hok
    intro haligned
    exact hgreedy (hclassify.trans (congrArg _ haligned))

/-- A strict selector and a lenient one end alike on requests whose required devices are all
available. On the others the strict one refuses with the required devices that are not available, in
their order and with repeats. It does so before anything is asked of the topology allocator, but
after it was found that no policy handles the request. Whatever the size, the devices that a strict
selector hands out are available ones, where whole GPUs go by their own identifiers and are chosen
greedily. -/
theorem strict_adds_one_check (selector : Selector) (policy : Policy) (inventory : DeviceSet)
    (strategy : Strategy) (request : Request) :
    ((∀ id ∈ request.required, id ∈ request.available) →
      { selector with strict := true }.allocate policy inventory request =
          { selector with strict := false }.allocate policy inventory request ∧
        { selector with strict := true }.select inventory strategy request =
          { selector with strict := false }.select inventory strategy request) ∧
    ((∃ id ∈ request.required, id ∉ request.available) →
      { selector with strict := true }.allocate policy inventory request =
          .error (.refused (.requiredNotAvailable
            (request.required.filter fun id => id ∉ request.available))) ∧
        (∀ (m : Type → Type) [Monad m] (ask : Question m),
          { selector with strict := true }.allocateAsking ask policy inventory request =
            pure (.error (.refused (.requiredNotAvailable
              (request.required.filter fun id => id ∉ request.available))))) ∧
        (Shared inventory request.available ∧ strategy = .none →
          { selector with strict := true }.select inventory strategy request =
            .error (.refused .noValidPolicy)) ∧
        (¬ (Shared inventory request.available ∧ strategy = .none) →
          { selector with strict := true }.select inventory strategy request =
            .error (.refused (.requiredNotAvailable
              (request.required.filter fun id => id ∉ request.available))))) ∧
    ∀ ids : List DeviceId,
      ((policy = .aligned → selector.ChoosesGreedily) →
        { selector with strict := true }.allocate policy inventory request = .ok ids →
          ∀ id ∈ ids, id ∈ request.available) ∧
      ((classify inventory request.available strategy = .ok .aligned →
          selector.ChoosesGreedily) →
        { selector with strict := true }.select inventory strategy request = .ok ids →
          ∀ id ∈ ids, id ∈ request.available) := by
  refine ⟨?_, ?_, ?_⟩
  · intro hoffered
    exact ⟨allocate_strict_eq_lenient hoffered, select_strict_eq_lenient hoffered⟩
  · intro hmissing
    refine ⟨allocate_strict_of_missing hmissing, ?_, ?_, ?_⟩
    · intro m _ ask
      exact allocateAsking_strict ask hmissing
    · rintro ⟨hshared, rfl⟩
      rw [select, classify_of_shared hshared]
    · intro hpolicy
      exact select_strict_of_missing hmissing (not_and.mp hpolicy)
  · intro ids
    exact ⟨available_of_allocate_strict, available_of_select_strict⟩

def beyondRequest : Request := ⟨["g0", "g1"], ["g2", "g0", "g2"], 2⟩

/-- A strict selector answers the one request as a lenient one does, and refuses the other. -/
theorem strict_linked_adds_one_check :
    (∀ id ∈ linkedRequest.required, id ∈ linkedRequest.available) ∧
    { linkedSelector with strict := true }.select linkedInventory .none linkedRequest =
      { linkedSelector with strict := false }.select linkedInventory .none linkedRequest ∧
    { linkedSelector with strict := true }.select linkedInventory .none linkedRequest =
      .ok ["g2", "g1"] ∧
    (∀ id ∈ ["g2", "g1"], id ∈ linkedRequest.available) ∧
    (∃ id ∈ beyondRequest.required, id ∉ beyondRequest.available) ∧
    { linkedSelector with strict := true }.allocate .aligned linkedInventory beyondRequest =
      .error (.refused (.requiredNotAvailable ["g2", "g2"])) ∧
    Shared unevenInventory ["a::0"] ∧
    { linkedSelector with strict := true }.select unevenInventory .none ⟨["a::0"], ["b::0"], 1⟩ =
      .error (.refused .noValidPolicy) := by
  have hoffered : ∀ id ∈ linkedRequest.required, id ∈ linkedRequest.available := by decide
  have hmissing : ∃ id ∈ beyondRequest.required, id ∉ beyondRequest.available := by decide
  have hgreedy : linkedSelector.ChoosesGreedily := ⟨linkedGpus, _, linkedNet, rfl, rfl⟩
  have hshared : Shared unevenInventory ["a::0"] := Or.inr ⟨"a::0", by simp, by decide +kernel⟩
  obtain ⟨hsame, -, hanswers⟩ :=
    strict_adds_one_check linkedSelector .aligned linkedInventory .none linkedRequest
  obtain ⟨-, hrefuses, -⟩ :=
    strict_adds_one_check linkedSelector .aligned linkedInventory .none beyondRequest
  obtain ⟨-, hfirst, -⟩ :=
    strict_adds_one_check linkedSelector .aligned unevenInventory .none ⟨["a::0"], ["b::0"], 1⟩
  have hok : { linkedSelector with strict := true }.select linkedInventory .none linkedRequest =
      .ok ["g2", "g1"] := by
    decide +kernel
  exact ⟨hoffered, (hsame hoffered).2, hok, (hanswers _).2 (fun _ => hgreedy) hok, hmissing,
    (hrefuses hmissing).1, hshared, (hfirst (by decide)).2.2.1 ⟨hshared, rfl⟩⟩

end Selector

end DeviceAllocation
