import DeviceAllocation.Proofs.Placement.Greedy

namespace DeviceAllocation.Placement

variable {net : Interconnect} {available required selection start part : List Gpu}

/-! ### Growing on -/

/-- Grows a selection to some size by the available GPUs that are not in it. -/
def growTo (net : Interconnect) (available : List Gpu) (size : ℕ) (start : List Gpu) : List Gpu :=
  grow net (size - start.length) start (available.eraseDups.filter (· ∉ start))

theorem grow_add (count more : ℕ) :
    grow net (count + more) selection (available.eraseDups.filter (· ∉ selection)) =
      grow net more (grow net count selection (available.eraseDups.filter (· ∉ selection)))
        (available.eraseDups.filter
          (· ∉ grow net count selection (available.eraseDups.filter (· ∉ selection)))) := by
  induction count generalizing selection with
  | zero =>
    rw [Nat.zero_add]
    rfl
  | succ count ih =>
    rw [Nat.add_right_comm, grow, grow]
    cases hbest : firstMax? (net.scoreAgainst selection)
        (available.eraseDups.filter (· ∉ selection)) with
    | none =>
      -- nothing is left to grow by, neither now nor later
      have hnone : available.eraseDups.filter (· ∉ selection) = [] :=
        firstMax?_eq_none_iff.mp hbest
      dsimp only
      rw [hnone]
      cases more with
      | zero => rfl
      | succ more => rfl
    | some best =>
      dsimp only
      simp only [erase_filter_notMem (nodup_eraseDups available)]
      exact ih

theorem isPrefix_growTo (size : ℕ) : start <+: growTo net available size start :=
  isPrefix_grow net _ _ _

theorem growTo_growTo {size larger : ℕ} (hsize : start.length ≤ size) (hlarger : size ≤ larger)
    (hlength : (growTo net available size start).length = size) :
    growTo net available larger (growTo net available size start) =
      growTo net available larger start := by
  have hcount : larger - start.length = (size - start.length) + (larger - size) := by omega
  have hmore : larger - (growTo net available size start).length = larger - size := by
    rw [hlength]
  calc growTo net available larger (growTo net available size start)
      = grow net (larger - size) (growTo net available size start)
          (available.eraseDups.filter (· ∉ growTo net available size start)) := by
        rw [growTo, hmore]
    _ = grow net ((size - start.length) + (larger - size)) start
          (available.eraseDups.filter (· ∉ start)) := (grow_add _ _).symm
    _ = growTo net available larger start := by rw [growTo, hcount]

theorem isPrefix_growTo_of_le {size larger : ℕ} (hsize : start.length ≤ size)
    (hlarger : size ≤ larger) (hlength : (growTo net available size start).length = size) :
    growTo net available size start <+: growTo net available larger start := by
  rw [← growTo_growTo hsize hlarger hlength]
  exact isPrefix_growTo larger

namespace Growing

variable {size : ℕ}

theorem length_growTo
    (h : Growing available required size start (available.eraseDups.filter (· ∉ start))) :
    (growTo net available size start).length = size := by
  obtain ⟨-, -, hlength⟩ := h.grow net
  exact hlength

theorem of_le {candidates : List Gpu} {smaller : ℕ}
    (h : Growing available required size start candidates) (hroom : start.length ≤ smaller)
    (hsmaller : smaller ≤ size) : Growing available required smaller start candidates where
  perm := h.perm
  required := h.required
  room := hroom
  enough := hsmaller.trans h.enough

theorem growTo_part
    (h : Growing available required size start (available.eraseDups.filter (· ∉ start)))
    (hpart : part <+: growTo net available size start) (hstart : start.length ≤ part.length) :
    growTo net available size part = growTo net available size start := by
  have hfull : (growTo net available size start).length = size := h.length_growTo
  have hsize : part.length ≤ size := by
    have hle := hpart.length_le
    omega
  have hlength : (growTo net available part.length start).length = part.length :=
    (h.of_le hstart hsize).length_growTo
  have hgrown : growTo net available part.length start <+: growTo net available size start :=
    isPrefix_growTo_of_le hstart hsize hlength
  -- the part is what had been grown when its size was reached
  have hsame : part = growTo net available part.length start := by
    apply List.IsPrefix.eq_of_length
    · exact List.prefix_of_prefix_length_le hpart hgrown hlength.ge
    · exact hlength.symm
  have hresumed := growTo_growTo hstart hsize hlength
  rwa [← hsame] at hresumed

end Growing

/-! ### Answers -/

variable {size : Int}

theorem bestEffort_eq_growTo (hreach : ¬ OutOfReach available required size)
    (hrequired : required ≠ []) :
    bestEffort net available required size =
      growTo net available size.toNat required.eraseDups := by
  rw [bestEffort_eq, if_neg hreach, if_neg hrequired]
  rfl

/-- An answer has grown from the required GPUs, or from a single one when none is required. -/
theorem exists_start (hanswer : bestEffort net available required size ≠ []) :
    ∃ start, start.length = max 1 required.toFinset.card ∧
      Growing available required size.toNat start (available.eraseDups.filter (· ∉ start)) ∧
      bestEffort net available required size = growTo net available size.toNat start := by
  have hreach := reach_of_answer hanswer
  by_cases hrequired : required = []
  · subst hrequired
    obtain ⟨seed, hseed, hgrown, -⟩ := exists_seed_of_bestEffort hanswer
    have hothers := erase_eq_filter_notMem (nodup_eraseDups available) seed
    have hgrowing := Growing.of_seed hreach hseed
    rw [hothers] at hgrowing
    refine ⟨[seed], rfl, hgrowing, ?_⟩
    rw [hgrown, growFrom, hothers]
    rfl
  · have hpositive : 0 < required.toFinset.card := by
      rw [Finset.card_pos]
      exact List.toFinset_nonempty_iff required |>.mpr hrequired
    refine ⟨required.eraseDups, ?_, .of_reach hreach, bestEffort_eq_growTo hreach hrequired⟩
    rw [← card_toFinset_eq_length_eraseDups]
    omega

theorem reach_of_part (hanswer : bestEffort net available required size ≠ [])
    (hpart : part <+: bestEffort net available required size) :
    ¬ OutOfReach available part size := by
  have hreach := reach_of_answer hanswer
  have hselects := (bestEffort_selects net available required size).resolve_left hanswer
  have hcard : part.toFinset.card ≤ part.length := List.toFinset_card_le part
  have hlength := hpart.length_le
  have hsize := hselects.length
  rintro (hout | hout | hout | ⟨gpu, hgpu, hout⟩)
  · exact hreach (Or.inl hout)
  · exact hreach (Or.inr (Or.inl hout))
  · omega
  · exact hout (hselects.available gpu (hpart.subset hgpu))

theorem bestEffort_of_part (hanswer : bestEffort net available required size ≠ [])
    (hpart : part <+: bestEffort net available required size) (hne : part ≠ [])
    (hrequired : required.toFinset.card ≤ part.length) :
    bestEffort net available part size = bestEffort net available required size := by
  have hselects := (bestEffort_selects net available required size).resolve_left hanswer
  have hdistinct : part.eraseDups = part :=
    eraseDups_of_nodup (hpart.sublist.nodup hselects.nodup)
  have hpositive := List.length_pos_of_ne_nil hne
  obtain ⟨start, hstart, hgrowing, hgrown⟩ := exists_start hanswer
  rw [bestEffort_eq_growTo (reach_of_part hanswer hpart) hne, hdistinct]
  rw [hgrown] at hpart ⊢
  apply hgrowing.growTo_part hpart
  omega

theorem isPrefix_bestEffort_of_le {larger : Int} (hrequired : required ≠ [])
    (hlarger : size ≤ larger)
    (hanswer : bestEffort net available required size ≠ [])
    (hother : bestEffort net available required larger ≠ []) :
    bestEffort net available required size <+: bestEffort net available required larger := by
  have hreach := reach_of_answer hanswer
  have hgrowing := Growing.of_reach hreach
  rw [bestEffort_eq_growTo hreach hrequired,
    bestEffort_eq_growTo (reach_of_answer hother) hrequired]
  have hsizes : size.toNat ≤ larger.toNat := by omega
  exact isPrefix_growTo_of_le hgrowing.room hsizes hgrowing.length_growTo

/-- An answer of the greedy choice comes about again when a part of it is required that holds the
required GPUs, or the first one when none is. Answers of different sizes begin alike when something
is required. -/
theorem bestEffort_resumes (net : Interconnect) (available required : List Gpu) :
    (∀ (size : Int) (chosen part : List Gpu),
      bestEffort net available required size = chosen → chosen ≠ [] →
      part <+: chosen → part ≠ [] → required.toFinset.card ≤ part.length →
      bestEffort net available part size = chosen) ∧
    (∀ size larger : Int, required ≠ [] → size ≤ larger →
      bestEffort net available required size ≠ [] →
      bestEffort net available required larger ≠ [] →
      bestEffort net available required size <+: bestEffort net available required larger) := by
  constructor
  · rintro size _ part rfl hanswer hpart hne hrequired
    exact bestEffort_of_part hanswer hpart hne hrequired
  · intro size larger hrequired hlarger hanswer hother
    exact isPrefix_bestEffort_of_le hrequired hlarger hanswer hother

/-- A search without required GPUs goes on from its first two, and one from a single required GPU
only adds to the smaller answer. -/
theorem bestEffort_pairs_resumes :
    (bestEffort pairedNet pairedGpus [] 3 =
        [⟨"g2", 2, none⟩, ⟨"g3", 3, none⟩, ⟨"g0", 0, none⟩] ∧
      bestEffort pairedNet pairedGpus [⟨"g2", 2, none⟩, ⟨"g3", 3, none⟩] 3 =
        [⟨"g2", 2, none⟩, ⟨"g3", 3, none⟩, ⟨"g0", 0, none⟩]) ∧
    bestEffort pairedNet pairedGpus [⟨"g1", 1, none⟩] 2 ≠ [] ∧
    bestEffort pairedNet pairedGpus [⟨"g1", 1, none⟩] 4 ≠ [] ∧
    bestEffort pairedNet pairedGpus [⟨"g1", 1, none⟩] 2 <+:
      bestEffort pairedNet pairedGpus [⟨"g1", 1, none⟩] 4 := by
  have hchosen : bestEffort pairedNet pairedGpus [] 3 =
      [⟨"g2", 2, none⟩, ⟨"g3", 3, none⟩, ⟨"g0", 0, none⟩] := by
    decide +kernel
  have htwo : bestEffort pairedNet pairedGpus [⟨"g1", 1, none⟩] 2 ≠ [] := by
    decide +kernel
  have hfour : bestEffort pairedNet pairedGpus [⟨"g1", 1, none⟩] 4 ≠ [] := by
    decide +kernel
  have hpart : [⟨"g2", 2, none⟩, ⟨"g3", 3, none⟩] <+:
      ([⟨"g2", 2, none⟩, ⟨"g3", 3, none⟩, ⟨"g0", 0, none⟩] : List Gpu) := by
    decide
  have hresumed := (bestEffort_resumes pairedNet pairedGpus []).1 3 _ _ hchosen (by decide) hpart
    (by decide) (by decide)
  have hlonger := (bestEffort_resumes pairedNet pairedGpus [⟨"g1", 1, none⟩]).2 2 4 (by decide)
    (by decide) htwo hfour
  exact ⟨⟨hchosen, hresumed⟩, htwo, hfour, hlonger⟩

end DeviceAllocation.Placement
