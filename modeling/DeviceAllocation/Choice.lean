namespace DeviceAllocation

variable {α : Type}

/-- The earliest entry with the largest score. -/
def firstMax? (score : α → Int) : List α → Option α
  | [] => none
  | x :: xs =>
    match firstMax? score xs with
    | none => some x
    | some y => if score x < score y then some y else some x

def firstMin? (score : α → Int) (xs : List α) : Option α :=
  firstMax? (fun x => -score x) xs

theorem firstMax?_eq_none_iff {score : α → Int} {xs : List α} :
    firstMax? score xs = none ↔ xs = [] := by
  cases xs with
  | nil => simp [firstMax?]
  | cons x xs =>
    simp only [firstMax?, reduceCtorEq, iff_false]
    split
    · simp
    · split <;> simp

/-- An entry is chosen exactly when it scores more than all entries before it and no less than those
after it. -/
theorem firstMax?_eq_some_iff {score : α → Int} {xs : List α} {a : α} :
    firstMax? score xs = some a ↔
      ∃ before after, xs = before ++ a :: after ∧ (∀ b ∈ before, score b < score a) ∧
        ∀ b ∈ after, score b ≤ score a := by
  induction xs generalizing a with
  | nil => simp [firstMax?]
  | cons x xs ih =>
    constructor
    · intro h
      simp only [firstMax?] at h
      split at h
      · rename_i hn
        cases firstMax?_eq_none_iff.1 hn
        cases h
        exact ⟨[], [], by simp⟩
      · rename_i y hy
        obtain ⟨before, after, rfl, hb, ha⟩ := ih.1 hy
        split at h
        · rename_i hlt
          cases h
          refine ⟨x :: before, after, rfl, ?_, ha⟩
          intro b hmem
          rcases List.mem_cons.1 hmem with rfl | hmem
          · exact hlt
          · exact hb b hmem
        · rename_i hle
          cases h
          refine ⟨[], before ++ y :: after, rfl, by simp, ?_⟩
          intro b hmem
          rcases List.mem_append.1 hmem with hmem | hmem
          · have := hb b hmem
            omega
          · rcases List.mem_cons.1 hmem with rfl | hmem
            · omega
            · have := ha b hmem
              omega
    · rintro ⟨before, after, hxs, hb, ha⟩
      simp only [firstMax?]
      cases before with
      | nil =>
        obtain ⟨rfl, rfl⟩ := List.cons.inj hxs
        split
        · rfl
        · rename_i y hy
          obtain ⟨front, back, rfl, -, -⟩ := ih.1 hy
          have hle := ha y (by simp)
          rw [if_neg (by omega)]
      | cons b before =>
        obtain ⟨rfl, rfl⟩ := List.cons.inj hxs
        have hchosen : firstMax? score (before.append (a :: after)) = some a :=
          ih.2 ⟨before, after, rfl, fun c hc => hb c (List.mem_cons_of_mem _ hc), ha⟩
        rw [hchosen]
        simp [hb x List.mem_cons_self]

theorem mem_of_firstMax? {score : α → Int} {xs : List α} {a : α}
    (h : firstMax? score xs = some a) : a ∈ xs := by
  obtain ⟨before, after, rfl, -, -⟩ := firstMax?_eq_some_iff.1 h
  simp

theorem le_of_firstMax? {score : α → Int} {xs : List α} {a b : α}
    (h : firstMax? score xs = some a) (hb : b ∈ xs) : score b ≤ score a := by
  obtain ⟨before, after, rfl, hfront, hback⟩ := firstMax?_eq_some_iff.1 h
  rcases List.mem_append.1 hb with hb | hb
  · have := hfront b hb
    omega
  · rcases List.mem_cons.1 hb with rfl | hb
    · exact Int.le_refl _
    · exact hback b hb

theorem firstMax?_congr {score score' : α → Int} {xs : List α}
    (h : ∀ x ∈ xs, score x = score' x) : firstMax? score xs = firstMax? score' xs := by
  induction xs with
  | nil => rfl
  | cons x xs ih =>
    have htail := ih fun y hy => h y (List.mem_cons_of_mem _ hy)
    simp only [firstMax?, htail]
    cases hy : firstMax? score' xs with
    | none => rfl
    | some y =>
      have hmem := List.mem_cons_of_mem x (mem_of_firstMax? hy)
      simp only [h x List.mem_cons_self, h y hmem]

/-- An entry has the smallest score and comes first exactly when it scores less than all entries
before it and no more than those after it. -/
theorem firstMin?_eq_some_iff {score : α → Int} {xs : List α} {a : α} :
    firstMin? score xs = some a ↔
      ∃ before after, xs = before ++ a :: after ∧ (∀ b ∈ before, score a < score b) ∧
        ∀ b ∈ after, score a ≤ score b := by
  simp only [firstMin?, firstMax?_eq_some_iff, Int.neg_lt_neg_iff, Int.neg_le_neg_iff]

end DeviceAllocation
