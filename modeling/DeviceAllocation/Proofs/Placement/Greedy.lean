import DeviceAllocation.Proofs.Placement.Checked

namespace DeviceAllocation.Placement

/-! ### First occurrences -/

theorem pairwise_idxOf_eraseDups (xs : List Gpu) :
    xs.eraseDups.Pairwise fun a b => xs.idxOf a < xs.idxOf b := by
  -- first occurrences are met from the front, so the induction is from the back
  induction xs using List.reverseRecOn with
  | nil => exact List.Pairwise.nil
  | append_singleton xs x ih =>
    have hold {a : Gpu} (ha : a ∈ xs.eraseDups) : (xs ++ [x]).idxOf a = xs.idxOf a :=
      List.idxOf_append_of_mem (List.mem_eraseDups.mp ha)
    rw [List.eraseDups_append]
    apply List.pairwise_append.mpr
    refine ⟨?_, ?_, ?_⟩
    · refine ih.imp_of_mem ?_
      intro a b ha hb hab
      rwa [hold ha, hold hb]
    · by_cases hx : x ∈ xs <;> simp [List.removeAll, hx, List.eraseDups_cons]
    · intro a ha b hb
      have hb' : b = x ∧ b ∉ xs := by
        simpa [List.removeAll, and_comm] using List.mem_eraseDups.mp hb
      have hnew : (xs ++ [x]).idxOf b = xs.length := by
        rw [List.idxOf_append_of_notMem hb'.2, hb'.1, List.idxOf_cons_self, Nat.add_zero]
      rw [hold ha, hnew]
      exact List.idxOf_lt_length_of_mem (List.mem_eraseDups.mp ha)

/-! ### One choice -/

/-- Among the available GPUs outside of a selection, `gpu` has the highest score against it, and it
is the first one in the list that has this score. -/
structure ConnectsBest (net : Interconnect) (available selection : List Gpu) (gpu : Gpu) :
    Prop where
  offered : gpu ∈ available
  unselected : gpu ∉ selection
  best : ∀ other ∈ available, other ∉ selection →
    net.scoreAgainst selection other ≤ net.scoreAgainst selection gpu
  earliest : ∀ other ∈ available, other ∉ selection →
    net.scoreAgainst selection other = net.scoreAgainst selection gpu →
      available.idxOf gpu ≤ available.idxOf other

/-- From the given place on, every GPU of a list connects best to those before it. -/
def ChosenGreedily (net : Interconnect) (available : List Gpu) (start : ℕ) (chosen : List Gpu) :
    Prop :=
  ∀ i (hi : i < chosen.length), start ≤ i → ConnectsBest net available (chosen.take i) chosen[i]

variable {net : Interconnect} {available required selection chosen : List Gpu}

theorem connectsBest_of_firstMax? {best : Gpu}
    (h : firstMax? (net.scoreAgainst selection) (available.eraseDups.filter (· ∉ selection)) =
      some best) : ConnectsBest net available selection best := by
  have hmem {gpu : Gpu} : gpu ∈ available.eraseDups.filter (· ∉ selection) ↔
      gpu ∈ available ∧ gpu ∉ selection := by
    simp only [List.mem_filter, List.mem_eraseDups, decide_eq_true_eq]
  have hbest := hmem.mp (mem_of_firstMax? h)
  refine ⟨hbest.1, hbest.2, ?_, ?_⟩
  · intro other havailable hother
    exact le_of_firstMax? h (hmem.mpr ⟨havailable, hother⟩)
  · intro other havailable hother hscore
    have horder := (pairwise_idxOf_eraseDups available).filter fun gpu => gpu ∉ selection
    have hin := hmem.mpr ⟨havailable, hother⟩
    obtain ⟨front, back, hsplit, hfront, -⟩ := firstMax?_eq_some_iff.mp h
    rw [hsplit] at horder hin
    -- what stands before the best candidate scores less, so `other` stands behind it
    rcases List.mem_append.mp hin with hin | hin
    · have hlt := hfront other hin
      omega
    · rcases List.mem_cons.mp hin with rfl | hin
      · exact Nat.le_refl _
      · exact Nat.le_of_lt ((List.pairwise_cons.mp (List.pairwise_append.mp horder).2.1).1 other hin)

theorem erase_filter_notMem {distinct : List Gpu} (h : distinct.Nodup) (selection : List Gpu)
    (gpu : Gpu) : (distinct.filter (· ∉ selection)).erase gpu =
      distinct.filter (· ∉ selection ++ [gpu]) := by
  rw [(h.filter _).erase_eq_filter, List.filter_filter]
  apply List.filter_congr
  intro other _
  simp [bne, beq_eq_decide, and_comm]

theorem erase_eq_filter_notMem {distinct : List Gpu} (h : distinct.Nodup) (gpu : Gpu) :
    distinct.erase gpu = distinct.filter (· ∉ [gpu]) := by
  have herase := erase_filter_notMem h [] gpu
  simpa using herase

/-! ### A whole selection -/

theorem ChosenGreedily.add {start : ℕ} {gpu : Gpu} (h : ChosenGreedily net available start chosen)
    (hgpu : ConnectsBest net available chosen gpu) :
    ChosenGreedily net available start (chosen ++ [gpu]) := by
  intro i hi hstart
  rw [List.length_append, List.length_singleton] at hi
  by_cases hold : i < chosen.length
  · -- an addition at the end changes nothing before it
    have hbest := h i hold hstart
    rwa [List.take_append_of_le_length (by omega), List.getElem_append_left hold]
  · obtain rfl : i = chosen.length := by omega
    rwa [List.take_left, List.getElem_concat_length rfl]

theorem ChosenGreedily.grow {start : ℕ} (h : ChosenGreedily net available start selection)
    (count : ℕ) : ChosenGreedily net available start
      (grow net count selection (available.eraseDups.filter (· ∉ selection))) := by
  induction count generalizing selection with
  | zero => exact h
  | succ count ih =>
    rw [Placement.grow]
    cases hbest : firstMax? (net.scoreAgainst selection)
        (available.eraseDups.filter (· ∉ selection)) with
    | none => exact h
    | some best =>
      simp only [erase_filter_notMem (nodup_eraseDups available)]
      exact ih (h.add (connectsBest_of_firstMax? hbest))

theorem chosenGreedily_self : ChosenGreedily net available selection.length selection := by
  intro i hi hstart
  omega

theorem chosenGreedily_growFrom (size : ℕ) (seed : Gpu) :
    ChosenGreedily net available 1 (growFrom net size available.eraseDups seed) := by
  rw [growFrom, erase_eq_filter_notMem (nodup_eraseDups available)]
  have hseed : ChosenGreedily net available 1 [seed] := chosenGreedily_self
  exact hseed.grow (size - 1)

theorem head?_growFrom (net : Interconnect) (size : ℕ) (candidates : List Gpu) (seed : Gpu) :
    (growFrom net size candidates seed).head? = some seed := by
  obtain ⟨rest, hrest⟩ := isPrefix_grow net (size - 1) [seed] (candidates.erase seed)
  rw [growFrom, ← hrest]
  rfl

/-! ### The selections grown from each GPU -/

theorem bestFromSeeds_eq_nil_iff {size : ℕ} {candidates : List Gpu} :
    bestFromSeeds net size candidates = [] ↔
      ∀ seed ∈ candidates, net.totalScore (growFrom net size candidates seed) < 0 := by
  rw [bestFromSeeds]
  cases hbest : firstMax? net.totalScore (candidates.map (growFrom net size candidates)) with
  | none =>
    have hnil := List.map_eq_nil_iff.mp (firstMax?_eq_none_iff.mp hbest)
    simp [hnil]
  | some best =>
    obtain ⟨seed, hseed, hgrown⟩ := List.mem_map.mp (mem_of_firstMax? hbest)
    simp only
    constructor
    · intro hnil other hother
      split at hnil
      · rename_i hneg
        have hle := le_of_firstMax? hbest (List.mem_map_of_mem hother)
        omega
      · -- what grows from a seed holds at least this seed
        have hhead := head?_growFrom net size candidates seed
        rw [hgrown, hnil] at hhead
        cases hhead
    · intro hneg
      have hseedneg := hneg seed hseed
      rw [hgrown] at hseedneg
      rw [if_pos hseedneg]

/-- The answer has grown from a seed, and it beats what grows from the seeds before this one. -/
theorem exists_seed_of_bestFromSeeds {size : ℕ} {candidates : List Gpu}
    (h : bestFromSeeds net size candidates ≠ []) :
    ∃ before seed after, candidates = before ++ seed :: after ∧
      bestFromSeeds net size candidates = growFrom net size candidates seed ∧
      (∀ other ∈ before, net.totalScore (growFrom net size candidates other) <
        net.totalScore (growFrom net size candidates seed)) ∧
      ∀ other ∈ after, net.totalScore (growFrom net size candidates other) ≤
        net.totalScore (growFrom net size candidates seed) := by
  rw [bestFromSeeds] at h ⊢
  cases hbest : firstMax? net.totalScore (candidates.map (growFrom net size candidates)) with
  | none =>
    rw [hbest] at h
    exact absurd rfl h
  | some best =>
    rw [hbest] at h
    simp only at h ⊢
    have hpositive : ¬ net.totalScore best < 0 := by
      intro hneg
      rw [if_pos hneg] at h
      exact h rfl
    -- the selections stand in the order of their seeds, so the split carries over to the seeds
    obtain ⟨grownBefore, grownAfter, hsplit, hbefore, hafter⟩ := firstMax?_eq_some_iff.mp hbest
    obtain ⟨before, rest, hcandidates, rfl, hrest⟩ := List.map_eq_append_iff.mp hsplit
    obtain ⟨seed, after, rfl, rfl, rfl⟩ := List.map_eq_cons_iff.mp hrest
    refine ⟨before, seed, after, hcandidates, if_neg hpositive, ?_, ?_⟩
    · intro other hother
      exact hbefore _ (List.mem_map_of_mem hother)
    · intro other hother
      exact hafter _ (List.mem_map_of_mem hother)

/-! ### The greedy choice -/

theorem bestEffort_eq_nil_iff {size : Int} :
    bestEffort net available required size = [] ↔
      OutOfReach available required size ∨ required = [] ∧ ∀ seed ∈ available,
        net.totalScore (growFrom net size.toNat available.eraseDups seed) < 0 := by
  rw [bestEffort_eq]
  by_cases hreach : OutOfReach available required size
  · rw [if_pos hreach]
    exact iff_of_true rfl (Or.inl hreach)
  rw [if_neg hreach, or_iff_right hreach]
  by_cases hempty : required = []
  · rw [if_pos hempty, bestFromSeeds_eq_nil_iff, and_iff_right hempty]
    simp only [List.mem_eraseDups]
  · rw [if_neg hempty]
    refine iff_of_false ?_ fun h => hempty h.1
    intro hnil
    -- what grows from the required GPUs holds them
    have hstart := isPrefix_grow net (size.toNat - required.eraseDups.length) required.eraseDups
      (available.eraseDups.filter (· ∉ required.eraseDups))
    rw [hnil] at hstart
    exact hempty (eraseDups_eq_nil_iff.mp (List.prefix_nil.mp hstart))

theorem reach_of_answer {size : Int}
    (hanswer : bestEffort net available required size ≠ []) :
    ¬ OutOfReach available required size := by
  intro hout
  exact hanswer (bestEffort_eq_nil_iff.mpr (Or.inl hout))

/-- The greedy choice comes to an end without looking up anything in vain. It gives no answer
exactly when the wanted size is out of reach, or nothing is required and every selection that grows
from a seed has a negative score, and any answer is a selection of the wanted size. -/
theorem bestEffort_answers (net : Interconnect) (available required : List Gpu) (size : Int) :
    bestEffort? net available required size = some (bestEffort net available required size) ∧
      (bestEffort net available required size = [] ↔
        size ≤ 0 ∨ (available.toFinset.card : Int) < size ∨ size < required.toFinset.card ∨
          (∃ gpu ∈ required, gpu ∉ available) ∨
          required = [] ∧ ∀ seed ∈ available,
            net.totalScore (growFrom net size.toNat available.eraseDups seed) < 0) ∧
      (bestEffort net available required size = [] ∨
        Selects available required size (bestEffort net available required size)) := by
  refine ⟨bestEffort?_eq net available required size, ?_,
    bestEffort_selects net available required size⟩
  rw [bestEffort_eq_nil_iff]
  simp only [OutOfReach, or_assoc]

/-- A link that counts against its ends leaves no answer, though the size is within reach. -/
example : bestEffort (.ofGpus [⟨"g0", 0, none⟩, ⟨"g1", 1, none⟩] [⟨"g0", "g1", -1⟩])
    [⟨"g0", 0, none⟩, ⟨"g1", 1, none⟩] [] 2 = [] := by
  decide +kernel

/-- The answer from a seed: no selection that grows from another one has a higher score, and those
that grow from an earlier one have a lower score. -/
theorem exists_seed_of_bestEffort {size : Int} (h : bestEffort net available [] size ≠ []) :
    ∃ seed ∈ available,
      bestEffort net available [] size = growFrom net size.toNat available.eraseDups seed ∧
      ∀ other ∈ available,
        net.totalScore (growFrom net size.toNat available.eraseDups other) ≤
          net.totalScore (growFrom net size.toNat available.eraseDups seed) ∧
        (available.idxOf other < available.idxOf seed →
          net.totalScore (growFrom net size.toNat available.eraseDups other) <
            net.totalScore (growFrom net size.toNat available.eraseDups seed)) := by
  have hreach := reach_of_answer h
  rw [bestEffort_eq, if_neg hreach, if_pos rfl] at h ⊢
  obtain ⟨before, seed, after, hsplit, hanswer, hbefore, hafter⟩ :=
    exists_seed_of_bestFromSeeds h
  have horder := pairwise_idxOf_eraseDups available
  have hmem {gpu : Gpu} : gpu ∈ available ↔ gpu ∈ before ++ seed :: after := by
    rw [← hsplit, List.mem_eraseDups]
  rw [hsplit] at horder
  refine ⟨seed, hmem.mpr (by simp), hanswer, ?_⟩
  intro other hother
  rcases List.mem_append.mp (hmem.mp hother) with hother | hother
  · have hlt := hbefore other hother
    exact ⟨hlt.le, fun _ => hlt⟩
  · rcases List.mem_cons.mp hother with rfl | hother
    · exact ⟨le_rfl, fun hlt => absurd hlt (lt_irrefl _)⟩
    · -- a seed behind the chosen one is not earlier than it
      have hlater := (List.pairwise_cons.mp (List.pairwise_append.mp horder).2.1).1 other hother
      exact ⟨hafter other hother, fun hlt => absurd hlt hlater.not_gt⟩

theorem chosenGreedily_bestEffort (net : Interconnect) (available required : List Gpu)
    (size : Int) : ChosenGreedily net available (max 1 required.toFinset.card)
      (bestEffort net available required size) := by
  by_cases hanswer : bestEffort net available required size = []
  · rw [hanswer]
    intro i hi
    exact absurd hi (Nat.not_lt_zero i)
  by_cases hempty : required = []
  · subst hempty
    obtain ⟨seed, -, hseed, -⟩ := exists_seed_of_bestEffort hanswer
    rw [hseed]
    exact chosenGreedily_growFrom size.toNat seed
  · have hreach := reach_of_answer hanswer
    have hpositive : 0 < required.eraseDups.length :=
      List.length_pos_of_ne_nil fun hnil => hempty (eraseDups_eq_nil_iff.mp hnil)
    have hself : ChosenGreedily net available required.eraseDups.length required.eraseDups :=
      chosenGreedily_self
    rw [bestEffort_eq, if_neg hreach, if_neg hempty, card_toFinset_eq_length_eraseDups,
      Nat.max_eq_right hpositive]
    exact hself.grow _

/-- The law of the greedy choice. Behind the required GPUs, or behind the first one when none is
required, every GPU of an answer connects best to those before it. When nothing is required, the
answer has grown from its first GPU, no selection that grows from another one has a higher score,
and those that grow from an earlier one have a lower score. -/
theorem bestEffort_follows_greedy_law (net : Interconnect) (available required : List Gpu)
    (size : Int) (chosen : List Gpu) (hchosen : bestEffort net available required size = chosen)
    (hanswer : chosen ≠ []) :
    ChosenGreedily net available (max 1 required.toFinset.card) chosen ∧
      (required = [] → ∃ seed ∈ available, chosen.head? = some seed ∧
        growFrom net size.toNat available.eraseDups seed = chosen ∧
        ∀ other ∈ available,
          ChosenGreedily net available 1 (growFrom net size.toNat available.eraseDups other) ∧
          net.totalScore (growFrom net size.toNat available.eraseDups other) ≤
            net.totalScore chosen ∧
          (available.idxOf other < available.idxOf seed →
            net.totalScore (growFrom net size.toNat available.eraseDups other) <
              net.totalScore chosen)) := by
  subst hchosen
  refine ⟨chosenGreedily_bestEffort net available required size, ?_⟩
  intro hempty
  subst hempty
  obtain ⟨seed, hseed, hgrown, hbest⟩ := exists_seed_of_bestEffort hanswer
  rw [hgrown]
  refine ⟨seed, hseed, head?_growFrom net _ _ seed, rfl, ?_⟩
  intro other hother
  exact ⟨chosenGreedily_growFrom size.toNat other, hbest other hother⟩

/-- Two pairs of GPUs with equally many lanes within each pair. -/
def pairedNet : Interconnect := .ofGpus
  [⟨"g0", 0, none⟩, ⟨"g1", 1, none⟩, ⟨"g2", 2, none⟩, ⟨"g3", 3, none⟩]
  [⟨"g0", "g1", 4⟩, ⟨"g3", "g2", 4⟩]

def pairedGpus : List Gpu :=
  [⟨"g2", 2, none⟩, ⟨"g0", 0, none⟩, ⟨"g2", 2, none⟩, ⟨"g1", 1, none⟩, ⟨"g3", 3, none⟩]

/-- Every seed grows a selection of the same score, so the GPU that is listed first is the seed, and
the other pair comes in by its first GPU. -/
theorem bestEffort_pairs_follows_greedy_law :
    bestEffort pairedNet pairedGpus [] 3 =
        [⟨"g2", 2, none⟩, ⟨"g3", 3, none⟩, ⟨"g0", 0, none⟩] ∧
      ([⟨"g2", 2, none⟩, ⟨"g3", 3, none⟩, ⟨"g0", 0, none⟩] : List Gpu) ≠ [] ∧
      ChosenGreedily pairedNet pairedGpus 1
        [⟨"g2", 2, none⟩, ⟨"g3", 3, none⟩, ⟨"g0", 0, none⟩] ∧
      ∃ seed ∈ pairedGpus, some ⟨"g2", 2, none⟩ = some seed ∧
        growFrom pairedNet 3 pairedGpus.eraseDups seed =
          [⟨"g2", 2, none⟩, ⟨"g3", 3, none⟩, ⟨"g0", 0, none⟩] ∧
        ∀ other ∈ pairedGpus,
          ChosenGreedily pairedNet pairedGpus 1
            (growFrom pairedNet 3 pairedGpus.eraseDups other) ∧
          pairedNet.totalScore (growFrom pairedNet 3 pairedGpus.eraseDups other) ≤
            pairedNet.totalScore [⟨"g2", 2, none⟩, ⟨"g3", 3, none⟩, ⟨"g0", 0, none⟩] ∧
          (pairedGpus.idxOf other < pairedGpus.idxOf seed →
            pairedNet.totalScore (growFrom pairedNet 3 pairedGpus.eraseDups other) <
              pairedNet.totalScore [⟨"g2", 2, none⟩, ⟨"g3", 3, none⟩, ⟨"g0", 0, none⟩]) := by
  have hchosen : bestEffort pairedNet pairedGpus [] 3 =
      [⟨"g2", 2, none⟩, ⟨"g3", 3, none⟩, ⟨"g0", 0, none⟩] := by
    decide +kernel
  have hanswer : ([⟨"g2", 2, none⟩, ⟨"g3", 3, none⟩, ⟨"g0", 0, none⟩] : List Gpu) ≠ [] := by
    decide
  have hlaw := bestEffort_follows_greedy_law pairedNet pairedGpus [] 3 _ hchosen hanswer
  exact ⟨hchosen, hanswer, hlaw.1, hlaw.2 rfl⟩

end DeviceAllocation.Placement
