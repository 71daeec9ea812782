/-! Lists whose entries are told apart by a key. Putting a key again replaces the entry in its
place. -/

namespace DeviceAllocation.Keyed

variable {α κ : Type} [DecidableEq κ]

/-- Stores `x` in the place of the entry with the same key, or at the end when there is none. -/
def put (key : α → κ) (x : α) : List α → List α
  | [] => [x]
  | y :: ys => if key y = key x then x :: ys else y :: put key x ys

/-- The entries of `xs` with each key once: the place of its first entry, the value of its last. -/
def ofList (key : α → κ) (xs : List α) : List α :=
  xs.foldl (fun entries x => put key x entries) []

def find? (key : α → κ) (k : κ) (xs : List α) : Option α :=
  xs.find? fun x => key x = k

theorem map_put (key : α → κ) (x : α) (xs : List α) :
    (put key x xs).map key =
      if key x ∈ xs.map key then xs.map key else xs.map key ++ [key x] := by
  induction xs with
  | nil => simp [put]
  | cons y ys ih =>
    by_cases h : key y = key x
    · simp [put, h]
    · have hne : key x ≠ key y := fun e => h e.symm
      simp only [put, h, if_false, List.map_cons, ih, List.mem_cons, hne, false_or]
      split <;> simp

theorem put_of_notMem {key : α → κ} {x : α} {xs : List α} (h : key x ∉ xs.map key) :
    put key x xs = xs ++ [x] := by
  induction xs with
  | nil => rfl
  | cons y ys ih =>
    rw [List.map_cons, List.mem_cons, not_or] at h
    have hne : key y ≠ key x := fun e => h.1 e.symm
    rw [put, if_neg hne, ih h.2, List.cons_append]

theorem find?_put (key : α → κ) (k : κ) (x : α) (xs : List α) :
    find? key k (put key x xs) = if key x = k then some x else find? key k xs := by
  induction xs with
  | nil => simp [put, find?, List.find?_cons]; split <;> simp_all
  | cons y ys ih =>
    simp only [find?] at ih ⊢
    by_cases h : key y = key x
    · by_cases hk : key x = k <;> simp [put, h, hk]
    · by_cases hk : key y = k
      · have hne : key x ≠ k := fun e => h (hk.trans e.symm)
        rw [put, if_neg h, if_neg hne, List.find?_cons_of_pos (by simpa using hk),
          List.find?_cons_of_pos (by simpa using hk)]
      · simp [put, h, hk, ih]

theorem key_of_find? {key : α → κ} {k : κ} {xs : List α} {x : α} (h : find? key k xs = some x) :
    key x = k := by
  simpa using List.find?_some h

theorem mem_of_find? {key : α → κ} {k : κ} {xs : List α} {x : α} (h : find? key k xs = some x) :
    x ∈ xs :=
  List.mem_of_find?_eq_some h

theorem isSome_find? {key : α → κ} {k : κ} {xs : List α} :
    (find? key k xs).isSome ↔ k ∈ xs.map key := by
  simp [find?, List.find?_isSome]

theorem nodup_put (key : α → κ) (x : α) {xs : List α} (h : (xs.map key).Nodup) :
    ((put key x xs).map key).Nodup := by
  rw [map_put]
  split
  · exact h
  · rename_i hx
    refine List.nodup_append.2 ⟨h, by simp, ?_⟩
    intro a ha b hb hab
    have hbx : b = key x := by simpa using hb
    exact hx (hbx ▸ hab ▸ ha)

theorem nodup_foldl_put (key : α → κ) (xs : List α) {entries : List α}
    (h : (entries.map key).Nodup) :
    ((xs.foldl (fun es x => put key x es) entries).map key).Nodup := by
  induction xs generalizing entries with
  | nil => exact h
  | cons x xs ih => exact ih (nodup_put key x h)

theorem nodup_ofList (key : α → κ) (xs : List α) : ((ofList key xs).map key).Nodup :=
  nodup_foldl_put key xs (by simp)

theorem foldl_put_of_nodup {key : α → κ} {xs entries : List α}
    (h : ((entries ++ xs).map key).Nodup) :
    xs.foldl (fun es x => put key x es) entries = entries ++ xs := by
  induction xs generalizing entries with
  | nil => rw [List.foldl_nil, List.append_nil]
  | cons x xs ih =>
    rw [List.append_cons] at h
    have hfront : ((entries ++ [x]).map key).Nodup := by
      rw [List.map_append] at h
      exact (List.nodup_append.1 h).1
    have hx : key x ∉ entries.map key := by
      rw [List.map_append, List.map_singleton] at hfront
      intro hmem
      exact (List.nodup_append.1 hfront).2.2 _ hmem _ (List.mem_singleton_self _) rfl
    rw [List.foldl_cons, put_of_notMem hx, ih h, ← List.append_cons]

theorem ofList_of_nodup {key : α → κ} {xs : List α} (h : (xs.map key).Nodup) :
    ofList key xs = xs := by
  have hall : (([] ++ xs).map key).Nodup := h
  rw [ofList, foldl_put_of_nodup hall, List.nil_append]

theorem map_foldl_put (key : α → κ) (xs entries : List α) :
    (xs.foldl (fun es x => put key x es) entries).map key =
      entries.map key ++ ((xs.map key).filter (· ∉ entries.map key)).eraseDups := by
  induction xs generalizing entries with
  | nil => simp
  | cons x xs ih =>
    rw [List.foldl_cons, ih, map_put]
    split
    · rename_i hx
      simp only [List.map_cons, List.filter_cons, hx, not_true_eq_false, decide_false]
      rfl
    · rename_i hx
      have hdrop : (xs.map key).filter (· ∉ entries.map key ++ [key x]) =
          ((xs.map key).filter (· ∉ entries.map key)).filter fun b => !b == key x := by
        rw [List.filter_filter]
        apply List.filter_congr
        intro k _
        by_cases hk : k = key x <;> simp [hk]
      rw [hdrop, List.map_cons, List.filter_cons]
      simp only [hx, not_false_eq_true, decide_true, if_true, List.eraseDups_cons,
        List.append_assoc, List.singleton_append]

/-- The keys of a list built entry by entry, in the order of their first occurrences. -/
theorem map_ofList (key : α → κ) (xs : List α) :
    (ofList key xs).map key = (xs.map key).eraseDups := by
  have hall : (xs.map key).filter (fun _ => true) = xs.map key := by simp
  rw [ofList, map_foldl_put]
  simp only [List.map_nil, List.not_mem_nil, not_false_eq_true, decide_true, List.nil_append, hall]

theorem find?_foldl_put (key : α → κ) (k : κ) (xs entries : List α) :
    find? key k (xs.foldl (fun es x => put key x es) entries) =
      (find? key k xs.reverse).or (find? key k entries) := by
  induction xs generalizing entries with
  | nil => simp [find?]
  | cons x xs ih =>
    rw [List.foldl_cons, ih, find?_put, List.reverse_cons]
    simp only [find?, List.find?_append]
    cases List.find? (fun y => decide (key y = k)) xs.reverse with
    | some y => simp
    | none => by_cases hx : key x = k <;> simp [hx]

/-- Under a key stands the last of the given entries with this key. -/
theorem find?_ofList (key : α → κ) (k : κ) (xs : List α) :
    find? key k (ofList key xs) = find? key k xs.reverse := by
  rw [ofList, find?_foldl_put]
  simp [find?]

/-- Entries may be stored under their keys before or after they are turned into other ones. -/
theorem put_map {β : Type} (key : β → κ) (f : α → β) (x : α) (xs : List α) :
    put key (f x) (xs.map f) = (put (fun a => key (f a)) x xs).map f := by
  induction xs with
  | nil => rfl
  | cons y ys ih =>
    by_cases h : key (f y) = key (f x)
    · simp [put, h]
    · simp [put, h, ih]

theorem ofList_map {β : Type} (key : β → κ) (f : α → β) (xs : List α) :
    ofList key (xs.map f) = (ofList (fun a => key (f a)) xs).map f := by
  -- what is stored already is turned as well, so the induction is for any of it
  suffices h : ∀ entries : List α,
      (xs.map f).foldl (fun es x => put key x es) (entries.map f) =
        (xs.foldl (fun es x => put (fun a => key (f a)) x es) entries).map f from h []
  induction xs with
  | nil => exact fun _ => rfl
  | cons x xs ih =>
    intro entries
    rw [List.map_cons, List.foldl_cons, List.foldl_cons, put_map]
    exact ih _

theorem mem_of_mem_put {key : α → κ} {x y : α} {xs : List α} (h : y ∈ put key x xs) :
    y = x ∨ y ∈ xs := by
  induction xs with
  | nil => exact Or.inl (List.mem_singleton.1 h)
  | cons z zs ih =>
    rw [put] at h
    split at h
    · rcases List.mem_cons.1 h with hx | hmem
      · exact Or.inl hx
      · exact Or.inr (List.mem_cons_of_mem z hmem)
    · rcases List.mem_cons.1 h with hz | hmem
      · exact Or.inr (hz ▸ List.mem_cons_self)
      · exact (ih hmem).imp_right (List.mem_cons_of_mem z)

theorem mem_of_mem_foldl_put {key : α → κ} {y : α} {xs entries : List α}
    (h : y ∈ xs.foldl (fun es x => put key x es) entries) : y ∈ xs ∨ y ∈ entries := by
  induction xs generalizing entries with
  | nil => exact Or.inr h
  | cons x xs ih =>
    rcases ih h with hmem | hmem
    · exact Or.inl (List.mem_cons_of_mem x hmem)
    · rcases mem_of_mem_put hmem with hx | hmem
      · exact Or.inl (hx ▸ List.mem_cons_self)
      · exact Or.inr hmem

theorem mem_of_mem_ofList {key : α → κ} {y : α} {xs : List α} (h : y ∈ ofList key xs) : y ∈ xs :=
  (mem_of_mem_foldl_put h).resolve_right (List.not_mem_nil (a := y))

end DeviceAllocation.Keyed
