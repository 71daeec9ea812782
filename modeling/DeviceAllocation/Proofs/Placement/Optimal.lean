import DeviceAllocation.Proofs.Interconnect
import DeviceAllocation.Proofs.Placement.Greedy

namespace DeviceAllocation.Placement

variable {net : Interconnect} {available required front chosen rival : List Gpu} {gpu : Gpu}

/-- The wanted number of distinct available GPUs, all required ones among them in any place. -/
structure Meets (available required : List Gpu) (size : Int) (gpus : List Gpu) : Prop where
  length : (gpus.length : Int) = size
  nodup : gpus.Nodup
  available : ∀ gpu ∈ gpus, gpu ∈ available
  required : ∀ gpu ∈ required, gpu ∈ gpus

theorem Selects.meets {size : Int} (h : Selects available required size chosen) :
    Meets available required size chosen where
  length := h.length
  nodup := h.nodup
  available := h.available
  required := by
    intro gpu hgpu
    exact h.required.subset (List.mem_eraseDups.mpr hgpu)

/-- What meets a request is, up to its order, the required GPUs and the ones that are added. -/
theorem Meets.perm {size : Int} (h : Meets available required size rival) :
    (required.eraseDups ++ rival.filter (· ∉ required.eraseDups)).Perm rival := by
  apply append_filter_notMem_perm (nodup_eraseDups required) h.nodup
  intro gpu hgpu
  exact h.required gpu (List.mem_eraseDups.mp hgpu)

/-! ### One choice -/

theorem ConnectsBest.totalScore_le (h : ConnectsBest net available front gpu) {other : Gpu}
    (hother : other ∈ available) (hnew : other ∉ front) :
    net.totalScore (front ++ [other]) ≤ net.totalScore (front ++ [gpu]) := by
  have hbest := h.best other hother hnew
  rw [Interconnect.totalScore_concat, Interconnect.totalScore_concat]
  omega

theorem ChosenGreedily.connectsBest {start : ℕ}
    (h : ChosenGreedily net available start (front ++ [gpu])) (hstart : start ≤ front.length) :
    ConnectsBest net available front gpu := by
  have hlast : front.length < (front ++ [gpu]).length := by
    rw [List.length_append, List.length_singleton]
    omega
  have hbest := h front.length hlast hstart
  rwa [List.take_left, List.getElem_concat_length rfl] at hbest

/-! ### At most one GPU besides the required ones -/

theorem totalScore_le_of_nearly_required {size : Int}
    (hselects : Selects available required size chosen)
    (hgreedy : ChosenGreedily net available (max 1 required.toFinset.card) chosen)
    (hsize : size ≤ required.toFinset.card + 1) (hrival : Meets available required size rival) :
    net.totalScore rival ≤ net.totalScore chosen := by
  obtain ⟨added, rfl⟩ := hselects.required
  have hperm := hrival.perm
  have hrivalAdded := hrival.length
  have hadded := hselects.length
  rw [← hperm.length_eq] at hrivalAdded
  rw [← Interconnect.totalScore_perm hperm]
  rw [card_toFinset_eq_length_eraseDups] at hsize hgreedy
  rw [List.length_append] at hrivalAdded hadded
  -- as many GPUs are added here as there, and these are none or one
  have hcount : added.length ≤ 1 := by omega
  rcases Nat.le_one_iff_eq_zero_or_eq_one.mp hcount with hnone | hone
  · obtain rfl := List.length_eq_zero_iff.mp hnone
    have hothers : rival.filter (· ∉ required.eraseDups) = [] := by
      apply List.length_eq_zero_iff.mp
      omega
    rw [hothers]
  · obtain ⟨gpu, rfl⟩ := List.length_eq_one_iff.mp hone
    obtain ⟨other, hother⟩ : ∃ other, rival.filter (· ∉ required.eraseDups) = [other] := by
      apply List.length_eq_one_iff.mp
      omega
    have hmem : other ∈ rival.filter (· ∉ required.eraseDups) := by
      rw [hother]
      exact List.mem_singleton_self other
    obtain ⟨hchosen, hnew⟩ := List.mem_filter.mp hmem
    rw [hother]
    by_cases hempty : required.eraseDups = []
    · -- there are no pairs in either selection
      rw [hempty]
      exact le_rfl
    · have hpositive := List.length_pos_of_ne_nil hempty
      have hbest := hgreedy.connectsBest (by omega)
      exact hbest.totalScore_le (hrival.available other hchosen) (by simpa using hnew)

/-! ### Two GPUs -/

/-- A pair that grows from a seed is this seed and the GPU that connects best to it. -/
theorem exists_growFrom_two (hreach : ¬ OutOfReach available [] 2) {seed : Gpu}
    (hseed : seed ∈ available) :
    ∃ gpu, growFrom net 2 available.eraseDups seed = [seed] ++ [gpu] ∧
      ConnectsBest net available [seed] gpu := by
  obtain ⟨left, -, hlength⟩ := (Growing.of_seed hreach hseed).grow net
  have hgrown : (growFrom net 2 available.eraseDups seed).length = 2 := hlength
  obtain ⟨rest, hrest⟩ := isPrefix_grow net 1 [seed] (available.eraseDups.erase seed)
  have hsplit : growFrom net 2 available.eraseDups seed = [seed] ++ rest := hrest.symm
  have hone : rest.length = 1 := by
    rw [hsplit, List.length_append, List.length_singleton] at hgrown
    omega
  obtain ⟨gpu, rfl⟩ := List.length_eq_one_iff.mp hone
  have hgreedy : ChosenGreedily net available 1 (growFrom net 2 available.eraseDups seed) :=
    chosenGreedily_growFrom 2 seed
  rw [hsplit] at hgreedy
  exact ⟨gpu, hsplit, hgreedy.connectsBest le_rfl⟩

theorem totalScore_le_of_pair (hanswer : bestEffort net available [] 2 ≠ [])
    (hrival : Meets available [] 2 rival) :
    net.totalScore rival ≤ net.totalScore (bestEffort net available [] 2) := by
  have hlength : rival.length = 2 := by
    have hsize := hrival.length
    omega
  obtain ⟨seed, other, rfl⟩ := List.length_eq_two.mp hlength
  have hseed : seed ∈ available := hrival.available seed (by simp)
  have hother : other ∈ available := hrival.available other (by simp)
  have hnew : other ∉ [seed] := by
    have hdistinct := hrival.nodup
    simp only [List.nodup_cons, List.mem_singleton] at hdistinct
    simpa [eq_comm] using hdistinct.1
  obtain ⟨gpu, hgrown, hconnects⟩ :
      ∃ gpu, growFrom net 2 available.eraseDups seed = [seed] ++ [gpu] ∧
        ConnectsBest net available [seed] gpu :=
    exists_growFrom_two (reach_of_answer hanswer) hseed
  obtain ⟨winner, -, hwinner, hbest⟩ := exists_seed_of_bestEffort hanswer
  calc net.totalScore [seed, other]
      ≤ net.totalScore ([seed] ++ [gpu]) := hconnects.totalScore_le hother hnew
    _ = net.totalScore (growFrom net 2 available.eraseDups seed) := by rw [hgrown]
    _ ≤ net.totalScore (growFrom net 2 available.eraseDups winner) := (hbest seed hseed).1
    _ = net.totalScore (bestEffort net available [] 2) := by rw [hwinner]; rfl

/-- Up to one GPU besides the required ones, and for two GPUs when none is required, an answer of
the greedy choice is a best selection that meets the request. -/
theorem bestEffort_scores_highest (net : Interconnect) (available required : List Gpu) (size : Int)
    (chosen : List Gpu) (hchosen : bestEffort net available required size = chosen)
    (hanswer : chosen ≠ [])
    (hfew : size ≤ required.toFinset.card + 1 ∨ required = [] ∧ size = 2) :
    Meets available required size chosen ∧
      ∀ rival, Meets available required size rival →
        net.totalScore rival ≤ net.totalScore chosen := by
  subst hchosen
  have hselects := (bestEffort_selects net available required size).resolve_left hanswer
  refine ⟨hselects.meets, ?_⟩
  intro rival hrival
  rcases hfew with hfew | ⟨rfl, rfl⟩
  · have hgreedy := chosenGreedily_bestEffort net available required size
    exact totalScore_le_of_nearly_required hselects hgreedy hfew hrival
  · exact totalScore_le_of_pair hanswer hrival

/-- Of two pairs that are linked alike the one that is listed first is chosen, and the other one
does not score higher. -/
theorem bestEffort_pairs_scores_highest :
    bestEffort pairedNet pairedGpus [] 2 = [⟨"g2", 2, none⟩, ⟨"g3", 3, none⟩] ∧
      ([⟨"g2", 2, none⟩, ⟨"g3", 3, none⟩] : List Gpu) ≠ [] ∧
      Meets pairedGpus [] 2 [⟨"g2", 2, none⟩, ⟨"g3", 3, none⟩] ∧
      Meets pairedGpus [] 2 [⟨"g1", 1, none⟩, ⟨"g0", 0, none⟩] ∧
      pairedNet.totalScore [⟨"g1", 1, none⟩, ⟨"g0", 0, none⟩] ≤
        pairedNet.totalScore [⟨"g2", 2, none⟩, ⟨"g3", 3, none⟩] := by
  have hchosen : bestEffort pairedNet pairedGpus [] 2 =
      [⟨"g2", 2, none⟩, ⟨"g3", 3, none⟩] := by
    decide +kernel
  have hanswer : ([⟨"g2", 2, none⟩, ⟨"g3", 3, none⟩] : List Gpu) ≠ [] := by
    decide
  have hrival : Meets pairedGpus [] 2 [⟨"g1", 1, none⟩, ⟨"g0", 0, none⟩] :=
    ⟨by decide, by decide, by decide, by decide⟩
  have hbest := bestEffort_scores_highest pairedNet pairedGpus [] 2 _ hchosen hanswer
    (Or.inr ⟨rfl, rfl⟩)
  exact ⟨hchosen, hanswer, hbest.1, hrival, hbest.2 _ hrival⟩

def spikedRing : Interconnect := .ofGpus
  [⟨"a", 0, none⟩, ⟨"b", 1, none⟩, ⟨"c", 2, none⟩, ⟨"x", 3, none⟩, ⟨"y", 4, none⟩, ⟨"z", 5, none⟩]
  [⟨"a", "b", 2⟩, ⟨"b", "c", 2⟩, ⟨"c", "a", 2⟩, ⟨"a", "x", 3⟩, ⟨"b", "y", 3⟩, ⟨"c", "z", 3⟩]

/-- A third GPU is not always chosen for the best: from every seed the stronger link comes first. -/
example :
    spikedRing.totalScore (bestEffort spikedRing (spikedRing.gpus.map Prod.snd) [] 3) = 5 ∧
      spikedRing.totalScore [⟨"a", 0, none⟩, ⟨"b", 1, none⟩, ⟨"c", 2, none⟩] = 6 := by
  decide +kernel

end DeviceAllocation.Placement
