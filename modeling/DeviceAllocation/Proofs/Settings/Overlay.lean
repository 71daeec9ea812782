import DeviceAllocation.Settings.Sources

/-! What is laid over something is found in the result, since objects are merged and anything else
is replaced. -/

namespace DeviceAllocation.Settings

variable {α : Type} {base top fields : List (String × Json)} {path : List String}
  {name model : String} {value : Json}

/-! ### Objects laid over objects -/

theorem field?_of_notMem (h : name ∉ top.map Prod.fst) : Json.field? name top = none := by
  have hnone := Option.not_isSome_iff_eq_none.mp (mt Keyed.isSome_find?.mp h)
  rw [Json.field?, hnone]
  rfl

theorem field?_overlayFields_of_notMem (h : name ∉ top.map Prod.fst) :
    Json.field? name (overlayFields base top) = Json.field? name base := by
  induction top generalizing base with
  | nil => rw [overlayFields]
  | cons entry top ih =>
    obtain ⟨other, value⟩ := entry
    rw [List.map_cons, List.mem_cons, not_or] at h
    have hother : other ≠ name := fun e => h.1 e.symm
    rw [overlayFields, ih h.2, Json.field?_setField, if_neg hother]

/-- A field that is laid over others is found, laid over the one of its name. -/
theorem field?_overlayFields (hdistinct : (top.map Prod.fst).Nodup)
    (h : Json.field? name top = some value) :
    Json.field? name (overlayFields base top) =
      some (overlay (Json.field? name base) value) := by
  induction top generalizing base with
  | nil => cases h
  | cons entry top ih =>
    obtain ⟨other, first⟩ := entry
    obtain ⟨hother, hrest⟩ := List.nodup_cons.mp hdistinct
    rw [overlayFields]
    by_cases hname : other = name
    · subst hname
      -- the fields behind have other names, so they leave this one as it is laid
      obtain rfl : first = value := by simpa [Json.field?, Keyed.find?] using h
      rw [field?_overlayFields_of_notMem hother, Json.field?_setField, if_pos rfl]
    · have hbehind : Json.field? name top = some value := by
        simpa [Json.field?, Keyed.find?, hname] using h
      rw [ih hrest hbehind, Json.field?_setField, if_neg hname]

theorem names_overlayFields (h : name ∈ (overlayFields base top).map Prod.fst) :
    name ∈ base.map Prod.fst ∨ name ∈ top.map Prod.fst := by
  induction top generalizing base with
  | nil =>
    rw [overlayFields] at h
    exact Or.inl h
  | cons entry top ih =>
    obtain ⟨other, value⟩ := entry
    rw [overlayFields] at h
    rcases ih h with hmem | hmem
    · rw [Json.setField, Keyed.map_put] at hmem
      split at hmem
      · exact Or.inl hmem
      · rcases List.mem_append.mp hmem with hmem | hmem
        · exact Or.inl hmem
        · obtain rfl := List.mem_singleton.mp hmem
          exact Or.inr List.mem_cons_self
    · exact Or.inr (List.mem_cons_of_mem other hmem)

theorem overlay_none (value : Json) : overlay none value = value := by
  cases value <;> rfl

theorem overlayFields_append (h : ((base ++ top).map Prod.fst).Nodup) :
    overlayFields base top = base ++ top := by
  induction top generalizing base with
  | nil => rw [overlayFields, List.append_nil]
  | cons entry top ih =>
    obtain ⟨other, value⟩ := entry
    have hnew : other ∉ base.map Prod.fst := by
      rw [List.map_append, List.map_cons] at h
      exact fun hmem => (List.nodup_append.mp h).2.2 other hmem other List.mem_cons_self rfl
    rw [List.append_cons] at h
    rw [overlayFields, field?_of_notMem hnew, overlay_none, Json.setField,
      Keyed.put_of_notMem hnew, ih h, ← List.append_cons]

theorem exists_overlay_object (hdistinct : (fields.map Prod.fst).Nodup) (below : Option Json) :
    ∃ old, overlay below (.object fields) = .object (overlayFields old fields) := by
  have hplain : ∃ old, Json.object fields = .object (overlayFields old fields) := by
    refine ⟨[], ?_⟩
    rw [overlayFields_append (by simpa using hdistinct), List.nil_append]
  rcases below with _ | below
  · exact hplain
  · cases below with
    | object old => exact ⟨old, rfl⟩
    | _ => exact hplain

/-! ### Reading what is laid over something -/

theorem field_overlayFields {read : Json → Except IssueKind α} {default result : α}
    (hdistinct : (top.map Prod.fst).Nodup) (h : Json.field? name top = some value)
    (hreplaces : ∀ below, overlay below value = value) (hread : read value = .ok result) :
    field path (overlayFields base top) name read default = .ok result := by
  rw [field, field?_overlayFields hdistinct h, hreplaces]
  dsimp only
  rw [hread]
  rfl

theorem group_overlayFields {read : List String → List (String × Json) → Checked α} {result : α}
    (hdistinct : (top.map Prod.fst).Nodup) (h : Json.field? name top = some (.object fields))
    (hfields : (fields.map Prod.fst).Nodup)
    (hread : ∀ path old, read path (overlayFields old fields) = .ok result) :
    group path (overlayFields base top) name model read = .ok result := by
  obtain ⟨old, hlaid⟩ := exists_overlay_object hfields (Json.field? name base)
  rw [group, field?_overlayFields hdistinct h, hlaid]
  exact hread _ old

end DeviceAllocation.Settings
