import DeviceAllocation.Sorting
import Mathlib.Data.List.Lex
import Mathlib.Data.List.Nodup
import Mathlib.Data.List.Perm.Basic
import Mathlib.Data.List.Triplewise

namespace DeviceAllocation

section Sorted

variable {α : Type} {le : α → α → Bool}

/-- An arrangement in order is the sorted one when the order tells the entries apart. -/
theorem sortBy_eq_of_pairwise (htotal : ∀ a b, le a b ∨ le b a)
    (htrans : ∀ a b c, le a b → le b c → le a c) {xs ys : List α}
    (hanti : ∀ a ∈ xs, ∀ b ∈ xs, le a b → le b a → a = b)
    (hperm : ys.Perm xs) (hys : ys.Pairwise fun a b => le a b) : sortBy le xs = ys := by
  have hsorted := sortBy_perm le xs
  refine List.Perm.eq_of_pairwise ?_ (pairwise_sortBy htotal htrans xs) hys
    (hsorted.trans hperm.symm)
  intro a b ha hb hab hba
  exact hanti a (hsorted.mem_iff.mp ha) b (hperm.mem_iff.mp hb) hab hba

theorem sortBy_eq_of_perm (htotal : ∀ a b, le a b ∨ le b a)
    (htrans : ∀ a b c, le a b → le b c → le a c) {xs ys : List α}
    (hanti : ∀ a ∈ xs, ∀ b ∈ xs, le a b → le b a → a = b) (hperm : ys.Perm xs) :
    sortBy le xs = sortBy le ys :=
  sortBy_eq_of_pairwise htotal htrans hanti ((sortBy_perm le ys).trans hperm)
    (pairwise_sortBy htotal htrans ys)

theorem sortBy_filter (htotal : ∀ a b, le a b ∨ le b a)
    (htrans : ∀ a b c, le a b → le b c → le a c) {xs : List α}
    (hanti : ∀ a ∈ xs, ∀ b ∈ xs, le a b → le b a → a = b) (p : α → Bool) :
    sortBy le (xs.filter p) = (sortBy le xs).filter p := by
  apply sortBy_eq_of_pairwise htotal htrans
  · intro a ha b hb
    exact hanti a (List.mem_of_mem_filter ha) b (List.mem_of_mem_filter hb)
  · exact (sortBy_perm le xs).filter p
  · exact (pairwise_sortBy htotal htrans xs).filter p

end Sorted

section Grouped

variable {α κ : Type}

theorem triplewise_of_pairwise {r : α → α → Prop} {p : α → α → α → Prop} {xs : List α}
    (h : xs.Pairwise r) (hp : ∀ a ∈ xs, ∀ b ∈ xs, ∀ c ∈ xs, r a b → r b c → p a b c) :
    xs.Triplewise p := by
  induction xs with
  | nil => exact List.Triplewise.nil
  | cons a xs ih =>
    obtain ⟨ha, hxs⟩ := List.pairwise_cons.mp h
    apply List.Triplewise.cons
    · refine hxs.imp_of_mem ?_
      intro b c hb hc hbc
      exact hp a List.mem_cons_self b (List.mem_cons_of_mem a hb) c (List.mem_cons_of_mem a hc)
        (ha b hb) hbc
    · apply ih hxs
      intro b hb c hc d hd
      exact hp b (List.mem_cons_of_mem a hb) c (List.mem_cons_of_mem a hc) d
        (List.mem_cons_of_mem a hd)

/-- Entries with the same key stand next to one another. -/
def Grouped (key : α → κ) (xs : List α) : Prop :=
  xs.Triplewise fun a b c => key a = key c → key b = key a

namespace Grouped

variable {key : α → κ} {front back : List α}

theorem front_of_append (h : Grouped key (front ++ back)) : Grouped key front :=
  (List.triplewise_append.mp h).1

theorem key_eq_last (h : Grouped key (front ++ back)) {last a b : α}
    (hlast : front.getLast? = some last) (ha : a ∈ front) (hb : b ∈ back)
    (hab : key b = key a) : key a = key last := by
  obtain ⟨others, rfl⟩ := List.getLast?_eq_some_iff.mp hlast
  rcases List.mem_append.mp ha with ha | ha
  · rw [Grouped, List.append_assoc, List.singleton_append] at h
    have hbetween := (List.triplewise_append.mp h).2.2.1 a ha
    exact ((List.pairwise_cons.mp hbetween).1 b hb hab.symm).symm
  · rw [List.mem_singleton.mp ha]

end Grouped

end Grouped

theorem isPrefix_of_le_of_le {α : Type} [LinearOrder α] {start xs ys zs : List α}
    (hx : start <+: xs) (hz : start <+: zs) (hxy : xs ≤ ys) (hyz : ys ≤ zs) : start <+: ys := by
  induction start generalizing xs ys zs with
  | nil => exact List.nil_prefix
  | cons a start ih =>
    obtain ⟨xs, rfl⟩ := hx
    obtain ⟨zs, rfl⟩ := hz
    rw [List.cons_append] at hxy hyz
    cases ys with
    | nil => exact absurd (List.nil_lt_cons a (start ++ xs)) hxy.not_gt
    | cons b ys =>
      have hfront := hxy.not_gt
      have hback := hyz.not_gt
      rw [List.cons_lt_cons_iff, not_or] at hfront hback
      -- the first entry lies between `a` and `a`
      obtain rfl : a = b := le_antisymm (not_lt.mp hfront.1) (not_lt.mp hback.1)
      have hys := ih (List.prefix_append start xs) (List.prefix_append start zs)
        (not_lt.mp fun h => hfront.2 ⟨rfl, h⟩) (not_lt.mp fun h => hback.2 ⟨rfl, h⟩)
      exact List.cons_prefix_cons.mpr ⟨rfl, hys⟩

theorem notMem_front_of_nodup {α : Type} {a : α} {front back : List α}
    (h : (front ++ a :: back).Nodup) : a ∉ front := by
  have hothers := (List.nodup_cons.mp (List.nodup_middle.mp h)).1
  exact fun hmem => hothers (List.mem_append_left back hmem)

/-- Blocks that are dropped or kept as a whole. -/
theorem filter_flatMap_of_blocks {α β : Type} {f : α → List β} {p : β → Bool} {q : α → Bool} {xs : List α}
    (h : ∀ a ∈ xs, ∀ b ∈ f a, p b = q a) :
    (xs.flatMap f).filter p = (xs.filter q).flatMap f := by
  induction xs with
  | nil => rfl
  | cons x xs ih =>
    have hrest := ih fun a ha => h a (List.mem_cons_of_mem x ha)
    have hblock (b : β) (hb : b ∈ f x) : p b = q x := h x List.mem_cons_self b hb
    rw [List.flatMap_cons, List.filter_append, hrest]
    by_cases hx : q x
    · have hkept : (f x).filter p = f x :=
        List.filter_eq_self.mpr fun b hb => (hblock b hb).trans hx
      rw [hkept, List.filter_cons_of_pos hx, List.flatMap_cons]
    · have hdropped : (f x).filter p = [] :=
        List.filter_eq_nil_iff.mpr fun b hb => by rwa [hblock b hb]
      rw [hdropped, List.filter_cons_of_neg hx, List.nil_append]

section Occurrences

variable {α β : Type} [DecidableEq α] [DecidableEq β]

theorem idxOf_append_cons {a : α} {front : List α} (h : a ∉ front) (back : List α) :
    (front ++ a :: back).idxOf a = front.length := by
  rw [List.idxOf_append_of_notMem h, List.idxOf_cons_self, Nat.add_zero]

theorem filter_notMem_take {xs : List α} (h : xs.Nodup) (k : ℕ) :
    xs.filter (· ∉ xs.take k) = xs.drop k := by
  -- front and back share no entry, so the front goes entirely and the back stays
  have hsplit := List.take_append_drop k xs
  have hdisjoint : (xs.take k).Disjoint (xs.drop k) := by
    apply List.disjoint_of_nodup_append
    rwa [hsplit]
  have hfront : (xs.take k).filter (· ∉ xs.take k) = [] := by
    simp [List.filter_eq_nil_iff]
  have hback : (xs.drop k).filter (· ∉ xs.take k) = xs.drop k := by
    apply List.filter_eq_self.mpr
    intro a ha
    simpa using fun hfront => hdisjoint hfront ha
  calc xs.filter (· ∉ xs.take k)
      = (xs.take k ++ xs.drop k).filter (· ∉ xs.take k) := by rw [hsplit]
    _ = xs.drop k := by rw [List.filter_append, hfront, hback, List.nil_append]

theorem append_filter_notMem_perm {part whole : List α} (hpart : part.Nodup)
    (hwhole : whole.Nodup) (hsub : ∀ a ∈ part, a ∈ whole) :
    (part ++ whole.filter (· ∉ part)).Perm whole := by
  -- all entries are distinct, so it is enough that they are the same ones
  apply (List.perm_ext_iff_of_nodup ?_ hwhole).mpr
  · intro a
    by_cases ha : a ∈ part
    · simp only [List.mem_append, ha, hsub a ha, true_or]
    · simp only [List.mem_append, List.mem_filter, ha, not_false_eq_true, decide_true, false_or,
        and_true]
  · apply List.nodup_append.mpr
    refine ⟨hpart, hwhole.filter _, ?_⟩
    intro a ha b hb hab
    have hb' := (List.mem_filter.mp hb).2
    exact absurd (hab ▸ ha) (by simpa using hb')

/-- Induction along the first occurrences, where the repeats of the head go before the rest is
looked at. -/
theorem firstOccurrences_induction {P : List α → Prop} (nil : P [])
    (cons : ∀ x xs, P (xs.filter fun b => !b == x) → P (x :: xs)) : ∀ xs, P xs
  | [] => nil
  | x :: xs => cons x xs (firstOccurrences_induction nil cons (xs.filter fun b => !b == x))
termination_by xs => xs.length
decreasing_by exact Nat.lt_succ_of_le (List.length_filter_le _ xs)

theorem nodup_eraseDups (xs : List α) : xs.eraseDups.Nodup := by
  induction xs using firstOccurrences_induction with
  | nil => simp
  | cons x xs ih =>
    rw [List.eraseDups_cons, List.nodup_cons]
    exact ⟨by simp [List.mem_eraseDups], ih⟩

theorem eraseDups_of_nodup {xs : List α} (h : xs.Nodup) : xs.eraseDups = xs := by
  induction xs with
  | nil => rfl
  | cons x xs ih =>
    obtain ⟨hx, hxs⟩ := List.nodup_cons.mp h
    have hnone : xs.filter (fun b => !b == x) = xs := by
      apply List.filter_eq_self.mpr
      intro b hb
      have hbx : b ≠ x := fun e => hx (e ▸ hb)
      simpa using hbx
    rw [List.eraseDups_cons, hnone, ih hxs]

theorem eraseDups_filter (p : α → Bool) (xs : List α) :
    (xs.filter p).eraseDups = xs.eraseDups.filter p := by
  induction xs using firstOccurrences_induction with
  | nil => rfl
  | cons x xs ih =>
    have hswap : (xs.filter p).filter (fun b => !b == x) =
        (xs.filter fun b => !b == x).filter p := by
      simp only [List.filter_filter, Bool.and_comm]
    by_cases hx : p x
    · rw [List.filter_cons_of_pos hx, List.eraseDups_cons, hswap, ih, List.eraseDups_cons,
        List.filter_cons_of_pos hx]
    · -- no entry that is kept equals the head, so dropping its repeats changes nothing
      have hsame : (xs.filter p).filter (fun b => !b == x) = xs.filter p := by
        apply List.filter_eq_self.mpr
        intro b hb
        have hbx : b ≠ x := fun e => hx (e ▸ (List.mem_filter.mp hb).2)
        simpa using hbx
      rw [List.filter_cons_of_neg hx, List.eraseDups_cons, List.filter_cons_of_neg hx, ← ih,
        ← hswap, hsame]

theorem removeAll_cons_of_mem {x : α} {front : List α} (h : x ∈ front) (back : List α) :
    (x :: back).removeAll front = back.removeAll front := by
  rw [List.cons_removeAll, if_neg (by simpa using h)]

theorem eraseDups_removeAll_cons {x : α} {front : List α} (h : x ∉ front) (back : List α) :
    ((x :: back).removeAll front).eraseDups =
      x :: (back.removeAll (front ++ [x])).eraseDups := by
  have hrepeats : (back.removeAll front).filter (fun b => !b == x) =
      back.removeAll (front ++ [x]) := by
    rw [List.removeAll, List.removeAll, List.filter_filter]
    apply List.filter_congr
    intro b _
    by_cases hb : b = x <;> simp [hb]
  rw [List.cons_removeAll, if_pos (by simpa using h), List.eraseDups_cons, hrepeats]

theorem eraseDups_append_cons_of_mem {x : α} {front : List α} (h : x ∈ front) (back : List α) :
    (front ++ x :: back).eraseDups = (front ++ back).eraseDups := by
  rw [List.eraseDups_append, List.eraseDups_append, removeAll_cons_of_mem h]

/-- What does not change when a repeat is dropped sees nothing but the first occurrences. -/
theorem eq_of_eraseDups_eq {γ : Type} {f : List α → γ}
    (hf : ∀ (front back : List α) (x : α), x ∈ front → f (front ++ x :: back) = f (front ++ back))
    {xs ys : List α} (h : xs.eraseDups = ys.eraseDups) : f xs = f ys := by
  -- the front that is passed already keeps its repeats, and the rest is dropped against it
  have hrest (back front : List α) :
      f (front ++ back) = f (front ++ (back.removeAll front).eraseDups) := by
    induction back generalizing front with
    | nil => rfl
    | cons x back ih =>
      by_cases hx : x ∈ front
      · rw [hf front back x hx, removeAll_cons_of_mem hx, ih]
      · rw [List.append_cons, ih, eraseDups_removeAll_cons hx, ← List.append_cons]
  have hall (zs : List α) : f zs = f zs.eraseDups := by
    have hzs := hrest zs []
    rwa [List.removeAll_nil, List.nil_append, List.nil_append] at hzs
  rw [hall xs, hall ys, h]

theorem eraseDups_map {f : α → β} (xs : List α)
    (hf : ∀ a ∈ xs, ∀ b ∈ xs, f a = f b → a = b) :
    (xs.map f).eraseDups = xs.eraseDups.map f := by
  induction xs using firstOccurrences_induction with
  | nil => rfl
  | cons x xs ih =>
    have hmem {a : α} (ha : a ∈ xs.filter fun b => !b == x) : a ∈ x :: xs :=
      List.mem_cons_of_mem _ (List.mem_of_mem_filter ha)
    have hrest := ih fun a ha b hb => hf a (hmem ha) b (hmem hb)
    -- `f` tells the entries apart, so it maps the repeats of the head, and no others, to its image
    have hdrop : (xs.map f).filter (fun b => !b == f x) =
        (xs.filter fun b => !b == x).map f := by
      rw [List.filter_map]
      congr 1
      apply List.filter_congr
      intro a ha
      have hax : f a = f x ↔ a = x :=
        ⟨hf a (List.mem_cons_of_mem _ ha) x List.mem_cons_self, fun e => e ▸ rfl⟩
      simp [beq_eq_decide, hax]
    rw [List.map_cons, List.eraseDups_cons, hdrop, hrest, List.eraseDups_cons, List.map_cons]

/-- Blocks that share no entry are repeated exactly if they are those of an entry that is. -/
theorem eraseDups_flatMap {f : α → List β} (hnodup : ∀ a, (f a).Nodup)
    (hdisjoint : ∀ a b, a ≠ b → (f a).Disjoint (f b)) (xs : List α) :
    (xs.flatMap f).eraseDups = xs.eraseDups.flatMap f := by
  induction xs using firstOccurrences_induction with
  | nil => rfl
  | cons x xs ih =>
    have hremoved : (xs.flatMap f).removeAll (f x) =
        (xs.filter fun b => !b == x).flatMap f := by
      apply filter_flatMap_of_blocks
      intro a _ b hb
      by_cases hax : a = x
      · subst hax
        simp [hb]
      · have hbx : b ∉ f x := fun hmem => hdisjoint a x hax hb hmem
        simp [hax, hbx]
    rw [List.flatMap_cons, List.eraseDups_append, eraseDups_of_nodup (hnodup x), hremoved, ih,
      List.eraseDups_cons, List.flatMap_cons]

end Occurrences

end DeviceAllocation
