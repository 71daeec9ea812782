/-! Insertion sort. Entries that the order does not tell apart keep their order in the list. -/

namespace DeviceAllocation

variable {α : Type}

/-- Puts `x` before the first entry that it does not come after. -/
def insertInOrder (le : α → α → Bool) (x : α) : List α → List α
  | [] => [x]
  | y :: ys => if le x y then x :: y :: ys else y :: insertInOrder le x ys

def sortBy (le : α → α → Bool) (xs : List α) : List α :=
  xs.foldr (insertInOrder le) []

theorem insertInOrder_perm (le : α → α → Bool) (x : α) (xs : List α) :
    (insertInOrder le x xs).Perm (x :: xs) := by
  induction xs with
  | nil => exact List.Perm.refl _
  | cons y ys ih =>
    simp only [insertInOrder]
    split
    · exact List.Perm.refl _
    · exact (ih.cons y).trans (List.Perm.swap x y ys)

theorem sortBy_perm (le : α → α → Bool) (xs : List α) : (sortBy le xs).Perm xs := by
  induction xs with
  | nil => exact List.Perm.refl _
  | cons x xs ih => exact (insertInOrder_perm le x (sortBy le xs)).trans (ih.cons x)

theorem pairwise_insertInOrder {le : α → α → Bool} (htotal : ∀ a b, le a b ∨ le b a)
    (htrans : ∀ a b c, le a b → le b c → le a c) (x : α) {xs : List α}
    (h : xs.Pairwise fun a b => le a b) :
    (insertInOrder le x xs).Pairwise fun a b => le a b := by
  induction xs with
  | nil => simp [insertInOrder]
  | cons y ys ih =>
    obtain ⟨hy, hys⟩ := List.pairwise_cons.1 h
    simp only [insertInOrder]
    split
    · rename_i hxy
      refine List.pairwise_cons.2 ⟨?_, h⟩
      intro z hz
      rcases List.mem_cons.1 hz with rfl | hz
      · exact hxy
      · exact htrans x y z hxy (hy z hz)
    · rename_i hxy
      have hyx : le y x := (htotal x y).resolve_left hxy
      refine List.pairwise_cons.2 ⟨?_, ih hys⟩
      intro z hz
      rcases List.mem_cons.1 ((insertInOrder_perm le x ys).mem_iff.1 hz) with rfl | hz
      · exact hyx
      · exact hy z hz

theorem pairwise_sortBy {le : α → α → Bool} (htotal : ∀ a b, le a b ∨ le b a)
    (htrans : ∀ a b c, le a b → le b c → le a c) (xs : List α) :
    (sortBy le xs).Pairwise fun a b => le a b := by
  induction xs with
  | nil => exact List.Pairwise.nil
  | cons x xs ih => exact pairwise_insertInOrder htotal htrans x ih

end DeviceAllocation
