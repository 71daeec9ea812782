import DeviceAllocation.Proofs.DeviceId

namespace DeviceAllocation.DeviceId

variable {chars front rest : List Char}

/-! ### The first separator -/

theorem separatorCount_eq_zero_iff : separatorCount chars = 0 ↔ ¬ [':', ':'] <:+: chars := by
  constructor
  · rintro hzero ⟨front, rest, rfl⟩
    have hpositive := separatorCount_append_pos front rest
    rw [List.append_assoc] at hzero
    exact absurd hzero hpositive.ne'
  · intro hnone
    by_contra hcount
    obtain ⟨rest, hrest⟩ := exists_eq_beforeSeparator_append (Nat.pos_of_ne_zero hcount)
    apply hnone
    rw [hrest]
    exact List.infix_append' (beforeSeparator chars) [':', ':'] rest

theorem beforeSeparator_isPrefix (chars : List Char) : beforeSeparator chars <+: chars := by
  induction chars with
  | nil => exact List.prefix_rfl
  | cons c chars ih =>
    rw [beforeSeparator_cons]
    split
    · exact List.nil_prefix
    · exact List.cons_prefix_cons.mpr ⟨rfl, ih⟩

/-- The first separator stands no later than any other one. -/
theorem beforeSeparator_isPrefix_of_append (front rest : List Char) :
    beforeSeparator (front ++ ':' :: ':' :: rest) <+: front := by
  induction front with
  | nil => exact List.prefix_rfl
  | cons c front ih =>
    rw [List.cons_append, beforeSeparator_cons]
    split
    · exact List.nil_prefix
    · exact List.cons_prefix_cons.mpr ⟨rfl, ih⟩

theorem separatorCount_of_beforeSeparator
    (h : beforeSeparator (front ++ ':' :: ':' :: rest) = front) :
    separatorCount (front ++ ':' :: ':' :: rest) = separatorCount rest + 1 := by
  induction front with
  | nil => rfl
  | cons c front ih =>
    rw [List.cons_append, beforeSeparator_cons] at h
    rw [List.cons_append, separatorCount_cons]
    -- a separator that began at `c` would be found there, and not behind `front`
    by_cases hc : c = ':' ∧ (front ++ ':' :: ':' :: rest).head? = some ':'
    · rw [if_pos hc] at h
      cases h
    · rw [if_neg hc] at h ⊢
      exact ih (List.cons.inj h).2

theorem separatorCount_beforeSeparator (chars : List Char) :
    separatorCount (beforeSeparator chars) = 0 := by
  apply separatorCount_eq_zero_iff.mpr
  rintro ⟨front, rest, hsplit⟩
  obtain ⟨tail, htail⟩ := beforeSeparator_isPrefix chars
  -- a separator in there would be an earlier one in the whole text
  have hchars : front ++ ':' :: ':' :: (rest ++ tail) = chars := by
    calc front ++ ':' :: ':' :: (rest ++ tail)
        = front ++ [':', ':'] ++ rest ++ tail := by simp
      _ = chars := by rw [hsplit, htail]
  have hprefix := beforeSeparator_isPrefix_of_append front (rest ++ tail)
  rw [hchars, ← hsplit] at hprefix
  have hlength := hprefix.length_le
  simp only [List.length_append, List.length_cons] at hlength
  omega

/-! ### Identifiers that are stripped -/

/-- The identifier is split by a separator in two. No separator begins earlier in the identifier,
and none is left behind this one. -/
structure SplitsOnce (id : DeviceId) (front rest : String) : Prop where
  joined : id = front ++ "::" ++ rest
  first : ∀ front' rest', id = front' ++ "::" ++ rest' → front.length ≤ front'.length
  single : ∀ front' rest', rest ≠ front' ++ "::" ++ rest'

theorem eq_joined_iff {id : DeviceId} {front rest : String} :
    id = front ++ "::" ++ rest ↔ id.toList = front.toList ++ ':' :: ':' :: rest.toList := by
  rw [← String.toList_inj, String.toList_append, String.toList_append, List.append_assoc]
  rfl

theorem forall_ne_joined_iff {text : String} :
    (∀ front rest, text ≠ front ++ "::" ++ rest) ↔ separatorCount text.toList = 0 := by
  rw [separatorCount_eq_zero_iff]
  constructor
  · rintro hnone ⟨front, rest, hsplit⟩
    apply hnone (String.ofList front) (String.ofList rest)
    rw [eq_joined_iff, ← hsplit, String.toList_ofList, String.toList_ofList, List.append_assoc]
    rfl
  · rintro hnone front rest htext
    rw [eq_joined_iff.mp htext] at hnone
    exact hnone (List.infix_append' front.toList [':', ':'] rest.toList)

theorem SplitsOnce.toList_front {id : DeviceId} {front rest : String}
    (h : SplitsOnce id front rest) : beforeSeparator id.toList = front.toList := by
  have hjoined := eq_joined_iff.mp h.joined
  have hpositive : 0 < separatorCount id.toList := by
    rw [hjoined]
    exact separatorCount_append_pos front.toList rest.toList
  obtain ⟨tail, htail⟩ := exists_eq_beforeSeparator_append hpositive
  -- the base ends no later than `front`, and no earlier either
  have hprefix : beforeSeparator id.toList <+: front.toList := by
    rw [hjoined]
    exact beforeSeparator_isPrefix_of_append front.toList rest.toList
  have hlength : front.length ≤ (String.ofList (beforeSeparator id.toList)).length := by
    apply h.first _ (String.ofList tail)
    rw [eq_joined_iff, String.toList_ofList, String.toList_ofList]
    exact htail
  rw [String.length_ofList, ← String.length_toList] at hlength
  exact hprefix.eq_of_length_le hlength

theorem SplitsOnce.isReplica {id : DeviceId} {front rest : String}
    (h : SplitsOnce id front rest) : isReplica id := by
  have hfront := h.toList_front
  have hrest : separatorCount rest.toList = 0 := forall_ne_joined_iff.mp h.single
  have hone : separatorCount id.toList = 1 := by
    rw [eq_joined_iff.mp h.joined] at hfront ⊢
    rw [separatorCount_of_beforeSeparator hfront, hrest]
  simpa [DeviceId.isReplica] using hone

theorem exists_splitsOnce {id : DeviceId} (h : isReplica id) :
    ∃ rest, SplitsOnce id (base id) rest := by
  have hone : separatorCount id.toList = 1 := by simpa [isReplica] using h
  have hbase := toList_base_of_isReplica h
  have hpositive : 0 < separatorCount id.toList := by omega
  obtain ⟨rest, hrest⟩ := exists_eq_beforeSeparator_append hpositive
  refine ⟨String.ofList rest, ?joined, ?first, ?single⟩
  case joined =>
    rw [eq_joined_iff, hbase, String.toList_ofList]
    exact hrest
  case first =>
    intro front' rest' hjoined
    have hprefix := beforeSeparator_isPrefix_of_append front'.toList rest'.toList
    rw [← eq_joined_iff.mp hjoined, ← hbase] at hprefix
    exact hprefix.length_le
  case single =>
    apply forall_ne_joined_iff.mpr
    -- one separator is counted in all, and it is the one that ends the base
    have hbehind : separatorCount id.toList = separatorCount rest + 1 := by
      conv_lhs => rw [hrest]
      apply separatorCount_of_beforeSeparator
      rw [← hrest]
    rw [String.toList_ofList]
    omega

theorem isReplica_base (id : DeviceId) : isReplica (base id) = false := by
  by_cases h : isReplica id
  · rw [isReplica, toList_base_of_isReplica h, separatorCount_beforeSeparator]
    rfl
  · rw [Bool.not_eq_true] at h
    rw [base_of_not_isReplica h, h]

/-- Stripping gives the base of an identifier. What it gives is no replica, so to strip it again
changes nothing. The identifiers that are stripped are just those that a first separator splits in
two without leaving another one behind it, and what stands before it is what is given. No two
replicas have the same name, whatever their devices are called. -/
theorem stripping_gives_base (id : DeviceId) :
    (isReplica (base id) = false ∧ base (base id) = base id) ∧
    (isReplica id ↔ ∃ front rest, SplitsOnce id front rest) ∧
    (∀ front rest, SplitsOnce id front rest → base id = front) ∧
    ∀ (front front' : DeviceId) (share share' : Int),
      replica front share = replica front' share' → front = front' ∧ share = share' := by
  refine ⟨?_, ?_, ?_, ?_⟩
  · have hbase := isReplica_base id
    exact ⟨hbase, base_of_not_isReplica hbase⟩
  · constructor
    · intro h
      exact ⟨base id, exists_splitsOnce h⟩
    · rintro ⟨front, rest, h⟩
      exact h.isReplica
  · intro front rest h
    have hfront := h.toList_front
    rw [← toList_base_of_isReplica h.isReplica] at hfront
    exact String.toList_injective hfront
  · intro front front' share share' hsame
    exact replica_injective hsame

/-- The first of three colons belongs to the separator and the last one to what is stripped. Behind
the separator of a replica of a replica another one begins, so nothing is stripped there. -/
theorem stripping_colons_gives_base :
    (∃ rest, SplitsOnce "gpu:::0" "gpu" rest) ∧ base "gpu:::0" = "gpu" ∧
    isReplica "gpu" = false ∧ (¬ ∃ front rest, SplitsOnce "gpu::0::1" front rest) ∧
    replica "gpu:" 0 = "gpu:::0" ∧ replica "gpu" 0 ≠ replica "gpu:" 0 := by
  obtain ⟨⟨hplain, -⟩, hsplits, hbase, hnames⟩ := stripping_gives_base "gpu:::0"
  obtain ⟨-, hnested, -, -⟩ := stripping_gives_base "gpu::0::1"
  have hreplica : isReplica "gpu:::0" := by decide +kernel
  have hgpu : base "gpu:::0" = "gpu" := by decide +kernel
  obtain ⟨front, rest, hsplit⟩ := hsplits.mp hreplica
  have hfront : front = "gpu" := (hbase front rest hsplit).symm.trans hgpu
  rw [hgpu] at hplain
  refine ⟨⟨rest, hfront ▸ hsplit⟩, hgpu, hplain, ?_, by decide +kernel, ?_⟩
  · intro hsplit
    exact absurd (hnested.mpr hsplit) (by decide +kernel)
  · intro hsame
    exact absurd (hnames "gpu" "gpu:" 0 0 hsame).1 (by decide)

end DeviceAllocation.DeviceId
