import DeviceAllocation.Placement.BestEffort
import DeviceAllocation.Proofs.Order
import Mathlib.Data.Finset.Card

namespace DeviceAllocation.Placement

/-- A selection on its way to the wanted size, and the candidates that it has left. -/
structure Growing (available required : List Gpu) (size : ℕ) (selection candidates : List Gpu) :
    Prop where
  perm : (selection ++ candidates).Perm available.eraseDups
  required : required.eraseDups <+: selection
  room : selection.length ≤ size
  enough : size ≤ available.eraseDups.length

namespace Growing

variable {available required selection candidates : List Gpu} {size : ℕ}

theorem nodup (h : Growing available required size selection candidates) : selection.Nodup :=
  (List.sublist_append_left selection candidates).nodup
    (h.perm.nodup_iff.mpr (nodup_eraseDups available))

theorem available_of_mem (h : Growing available required size selection candidates) {gpu : Gpu}
    (hgpu : gpu ∈ selection) : gpu ∈ available := by
  have hmem := h.perm.mem_iff.mp (List.mem_append_left candidates hgpu)
  exact List.mem_eraseDups.mp hmem

theorem candidates_ne_nil (h : Growing available required size selection candidates)
    (hroom : selection.length < size) : candidates ≠ [] := by
  have hlen := h.perm.length_eq
  have henough := h.enough
  rw [List.length_append] at hlen
  intro hnil
  rw [hnil, List.length_nil] at hlen
  omega

theorem add (h : Growing available required size selection candidates) {gpu : Gpu}
    (hgpu : gpu ∈ candidates) (hroom : selection.length < size) :
    Growing available required size (selection ++ [gpu]) (candidates.erase gpu) where
  perm := by
    have hmove : (selection ++ [gpu] ++ candidates.erase gpu).Perm (selection ++ candidates) := by
      rw [List.append_assoc, List.singleton_append]
      exact (List.perm_cons_erase hgpu).symm.append_left selection
    exact hmove.trans h.perm
  required := h.required.trans (List.prefix_append selection [gpu])
  room := by
    rw [List.length_append, List.length_singleton]
    omega
  enough := h.enough

/-- Growing on from a selection ends at the wanted size. -/
theorem grow (h : Growing available required size selection candidates) (net : Interconnect) :
    ∃ left, Growing available required size
        (grow net (size - selection.length) selection candidates) left ∧
      (grow net (size - selection.length) selection candidates).length = size := by
  -- the induction is on the room that is left, which every added GPU takes one off
  generalize hcount : size - selection.length = count
  induction count generalizing selection candidates with
  | zero =>
    have hroom := h.room
    exact ⟨candidates, h, by rw [Placement.grow]; omega⟩
  | succ count ih =>
    have hroom : selection.length < size := by omega
    rw [Placement.grow]
    split
    · rename_i hnone
      exact absurd (firstMax?_eq_none_iff.mp hnone) (h.candidates_ne_nil hroom)
    · rename_i best hbest
      have hadd := h.add (mem_of_firstMax? hbest) hroom
      apply ih hadd
      rw [List.length_append, List.length_singleton]
      omega

theorem of_required (hroom : required.eraseDups.length ≤ size)
    (henough : size ≤ available.eraseDups.length)
    (hknown : ∀ gpu ∈ required.eraseDups, gpu ∈ available.eraseDups) :
    Growing available required size required.eraseDups
      (available.eraseDups.filter (· ∉ required.eraseDups)) where
  perm := append_filter_notMem_perm (nodup_eraseDups required) (nodup_eraseDups available) hknown
  required := List.prefix_rfl
  room := hroom
  enough := henough

end Growing

/-- The wanted size is not positive, there are fewer distinct GPUs or more distinct required ones, or
a required GPU is not available. -/
def OutOfReach (available required : List Gpu) (size : Int) : Prop :=
  size ≤ 0 ∨ (available.toFinset.card : Int) < size ∨ size < required.toFinset.card ∨
    ∃ gpu ∈ required, gpu ∉ available

instance (available required : List Gpu) (size : Int) :
    Decidable (OutOfReach available required size) :=
  inferInstanceAs (Decidable (_ ∨ _ ∨ _ ∨ _))

/-- The wanted number of distinct available entries, the required ones in front. -/
structure Selects {α : Type} [DecidableEq α] (available required : List α) (size : Int)
    (chosen : List α) : Prop where
  length : (chosen.length : Int) = size
  nodup : chosen.Nodup
  available : ∀ entry ∈ chosen, entry ∈ available
  required : required.eraseDups <+: chosen

theorem Selects.map {α β : Type} [DecidableEq α] [DecidableEq β]
    {available required chosen : List α} {size : Int} {f : α → β}
    (h : Selects available required size chosen)
    (havailable : ∀ a ∈ available, ∀ b ∈ available, f a = f b → a = b)
    (hrequired : ∀ a ∈ required, ∀ b ∈ required, f a = f b → a = b) :
    Selects (available.map f) (required.map f) size (chosen.map f) where
  length := by rw [List.length_map, h.length]
  nodup := by
    apply h.nodup.map_on
    intro a ha b hb
    exact havailable a (h.available a ha) b (h.available b hb)
  available := by
    intro entry hentry
    obtain ⟨a, ha, rfl⟩ := List.mem_map.mp hentry
    exact List.mem_map_of_mem (h.available a ha)
  required := by
    rw [eraseDups_map required hrequired]
    exact h.required.map f

theorem pos_of_reach {available required : List Gpu} {size : Int}
    (h : ¬ OutOfReach available required size) : 0 < size :=
  not_le.mp fun hle => h (Or.inl hle)

theorem card_toFinset_eq_length_eraseDups (gpus : List Gpu) :
    gpus.toFinset.card = gpus.eraseDups.length := by
  have hsame : gpus.eraseDups.toFinset = gpus.toFinset := by
    ext gpu
    simp only [List.mem_toFinset, List.mem_eraseDups]
  rw [← hsame, List.toFinset_card_of_nodup (nodup_eraseDups gpus)]

theorem eraseDups_eq_nil_iff {gpus : List Gpu} : gpus.eraseDups = [] ↔ gpus = [] := by
  cases gpus <;> simp [List.eraseDups_cons]

theorem outOfReach_iff {available required : List Gpu} {size : Int} :
    OutOfReach available required size ↔
      (size ≤ 0 ∨ (available.eraseDups.length : Int) < size ∨ size < required.eraseDups.length) ∨
        required.eraseDups.any (· ∉ available.eraseDups) := by
  simp only [OutOfReach, card_toFinset_eq_length_eraseDups, List.any_eq_true, List.mem_eraseDups,
    decide_eq_true_eq, or_assoc]

/-- Within reach, the greedy choice takes the best selection from a seed when nothing is required,
and else the one that grows from the required GPUs. -/
theorem bestEffort_eq (net : Interconnect) (available required : List Gpu) (size : Int) :
    bestEffort net available required size =
      if OutOfReach available required size then []
      else if required = [] then bestFromSeeds net size.toNat available.eraseDups
      else grow net (size.toNat - required.eraseDups.length) required.eraseDups
        (available.eraseDups.filter (· ∉ required.eraseDups)) := by
  simp only [bestEffort, outOfReach_iff, ite_or, List.isEmpty_iff, eraseDups_eq_nil_iff]
  by_cases hempty : required = []
  · have hall : available.eraseDups.filter (· ∉ required.eraseDups) = available.eraseDups := by
      simp [hempty]
    simp only [if_pos hempty, hall]
  · simp only [if_neg hempty]

theorem Growing.of_reach {available required : List Gpu} {size : Int}
    (h : ¬ OutOfReach available required size) :
    Growing available required size.toNat required.eraseDups
      (available.eraseDups.filter (· ∉ required.eraseDups)) := by
  rw [outOfReach_iff] at h
  push Not at h
  obtain ⟨⟨hsize, havailable, hrequired⟩, hknown⟩ := h
  apply Growing.of_required (by omega) (by omega)
  simpa using hknown

theorem Growing.of_seed {available : List Gpu} {size : Int} (h : ¬ OutOfReach available [] size)
    {seed : Gpu} (hseed : seed ∈ available) :
    Growing available [] size.toNat [seed] (available.eraseDups.erase seed) := by
  have hgrowing := Growing.of_reach h
  have hsize := pos_of_reach h
  have hall : available.eraseDups.filter (· ∉ ([] : List Gpu).eraseDups) = available.eraseDups := by
    simp
  rw [hall] at hgrowing
  exact hgrowing.add (List.mem_eraseDups.mpr hseed) (by simp; omega)

theorem bestEffort_eq_grow (net : Interconnect) (available required : List Gpu) (size : Int) :
    bestEffort net available required size = [] ∨
      ∃ selection candidates, Growing available required size.toNat selection candidates ∧
        0 < size ∧ bestEffort net available required size =
          grow net (size.toNat - selection.length) selection candidates := by
  rw [bestEffort_eq]
  split
  · exact Or.inl rfl
  rename_i hreach
  have hsize := pos_of_reach hreach
  split
  · rename_i hempty
    subst hempty
    -- nothing is required, so the answer has grown from one of the candidates
    simp only [bestFromSeeds]
    split
    · exact Or.inl rfl
    rename_i best hbest
    obtain ⟨seed, hseed, hgrown⟩ := List.mem_map.mp (mem_of_firstMax? hbest)
    split
    · exact Or.inl rfl
    · exact Or.inr ⟨[seed], _, Growing.of_seed hreach (List.mem_eraseDups.mp hseed), hsize,
        hgrown.symm⟩
  · exact Or.inr ⟨_, _, Growing.of_reach hreach, hsize, rfl⟩

/-- Unless it is empty, the answer of the greedy choice is a selection of the wanted size. -/
theorem bestEffort_selects (net : Interconnect) (available required : List Gpu) (size : Int) :
    bestEffort net available required size = [] ∨
      Selects available required size (bestEffort net available required size) := by
  obtain hempty | ⟨selection, candidates, hgrowing, hsize, hgrow⟩ :=
    bestEffort_eq_grow net available required size
  · exact Or.inl hempty
  · obtain ⟨left, hfull, hlength⟩ := hgrowing.grow net
    rw [← hgrow] at hfull hlength
    right
    exact ⟨by omega, hfull.nodup, fun gpu hgpu => hfull.available_of_mem hgpu, hfull.required⟩

end DeviceAllocation.Placement
