import DeviceAllocation.DeviceId
import Mathlib.Data.List.Basic
import Mathlib.Data.List.Infix
import Mathlib.Tactic.MkIffOfInductiveProp

namespace DeviceAllocation.DeviceId

variable {chars front rest other : List Char}

theorem beforeSeparator_cons (c : Char) (rest : List Char) :
    beforeSeparator (c :: rest) =
      if c = ':' ∧ rest.head? = some ':' then [] else c :: beforeSeparator rest := by
  cases rest with
  | nil => simp [beforeSeparator]
  | cons d rest =>
    by_cases h : c = ':' ∧ d = ':'
    · obtain ⟨rfl, rfl⟩ := h
      simp [beforeSeparator]
    · rw [if_neg (by simpa using h), beforeSeparator]
      rintro _ rfl hd
      exact h ⟨rfl, (List.cons.inj hd).1⟩

theorem separatorCount_cons (c : Char) (rest : List Char) :
    separatorCount (c :: rest) =
      if c = ':' ∧ rest.head? = some ':' then separatorCount rest.tail + 1
      else separatorCount rest := by
  cases rest with
  | nil => simp [separatorCount]
  | cons d rest =>
    by_cases h : c = ':' ∧ d = ':'
    · obtain ⟨rfl, rfl⟩ := h
      simp [separatorCount]
    · rw [if_neg (by simpa using h), separatorCount]
      rintro _ rfl hd
      exact h ⟨rfl, (List.cons.inj hd).1⟩

theorem exists_eq_beforeSeparator_append (h : 0 < separatorCount chars) :
    ∃ rest, chars = beforeSeparator chars ++ ':' :: ':' :: rest := by
  induction chars with
  | nil => exact absurd h (Nat.lt_irrefl 0)
  | cons c chars ih =>
    rw [separatorCount_cons] at h
    rw [beforeSeparator_cons]
    by_cases hc : c = ':' ∧ chars.head? = some ':'
    · rw [if_pos hc]
      obtain ⟨rest, rfl⟩ := List.head?_eq_some_iff.mp hc.2
      exact ⟨rest, by rw [hc.1, List.nil_append]⟩
    · rw [if_neg hc] at h ⊢
      obtain ⟨rest, hrest⟩ := ih h
      exact ⟨rest, by rw [List.cons_append, ← hrest]⟩

theorem separatorCount_append_pos (front rest : List Char) :
    0 < separatorCount (front ++ ':' :: ':' :: rest) := by
  induction front with
  | nil => simp [separatorCount]
  | cons c front ih =>
    rw [List.cons_append, separatorCount_cons]
    split
    · exact Nat.succ_pos _
    · exact ih

theorem beforeSeparator_append_congr (rest other : List Char)
    (h : beforeSeparator (front ++ ':' :: ':' :: rest) = front) :
    beforeSeparator (front ++ ':' :: ':' :: other) = front := by
  -- whether the text is split at a place shows in two characters, and these stand before `rest`
  induction front with
  | nil => rfl
  | cons c front ih =>
    have hhead (tail : List Char) : (front ++ ':' :: tail).head? = front.head?.or (some ':') := by
      rw [List.head?_append, List.head?_cons]
    rw [List.cons_append, beforeSeparator_cons, hhead] at h ⊢
    by_cases hc : c = ':' ∧ front.head?.or (some ':') = some ':'
    · rw [if_pos hc] at h
      cases h
    · rw [if_neg hc] at h ⊢
      rw [ih (List.cons.inj h).2]

theorem toList_base_of_isReplica {id : DeviceId} (h : isReplica id) :
    (base id).toList = beforeSeparator id.toList := by
  rw [base, if_pos h, String.toList_ofList]

theorem isPrefix_of_isReplica {id : DeviceId} (h : isReplica id) :
    (base id).toList ++ [':', ':'] <+: id.toList := by
  have hcount : separatorCount id.toList = 1 := by simpa [isReplica] using h
  have hpositive : 0 < separatorCount id.toList := by omega
  obtain ⟨rest, hrest⟩ := exists_eq_beforeSeparator_append hpositive
  refine ⟨rest, ?_⟩
  rw [toList_base_of_isReplica h, List.append_assoc]
  exact hrest.symm

/-- An identifier with at most one separator that begins like a replica up to and with its
separator names a replica of the same device. -/
theorem base_eq_of_isPrefix {id other : DeviceId} (h : isReplica id)
    (hone : separatorCount other.toList ≤ 1)
    (hstart : (base id).toList ++ [':', ':'] <+: other.toList) : base other = base id := by
  obtain ⟨rest, hrest⟩ := isPrefix_of_isReplica h
  obtain ⟨tail, htail⟩ := hstart
  simp only [List.append_assoc, List.cons_append, List.nil_append] at hrest htail
  have hpositive := separatorCount_append_pos (base id).toList tail
  rw [htail] at hpositive
  have hreplica : isReplica other := by
    simp only [isReplica, decide_eq_true_eq]
    omega
  have hbefore : beforeSeparator ((base id).toList ++ ':' :: ':' :: rest) = (base id).toList := by
    rw [hrest, ← toList_base_of_isReplica h]
  have hsame := beforeSeparator_append_congr rest tail hbefore
  rw [htail, ← toList_base_of_isReplica hreplica] at hsame
  exact String.toList_injective hsame

/-! ### Names of replicas -/

/-- The text holds no separator, nor half of one at its end. -/
@[mk_iff]
structure Plain (chars : List Char) : Prop where
  within : ¬ [':', ':'] <:+: chars
  atEnd : chars.getLast? ≠ some ':'

instance (chars : List Char) : Decidable (Plain chars) :=
  decidable_of_iff' _ (plain_iff chars)

theorem plain_cons_iff {c : Char} :
    Plain (c :: rest) ↔ ¬ (c = ':' ∧ rest.head?.or (some ':') = some ':') ∧ Plain rest := by
  -- at the end of the text a colon follows, as it does when a number is attached
  cases rest with
  | nil =>
    constructor
    · intro h
      refine ⟨?_, by simp, by simp⟩
      simpa using h.atEnd
    · rintro ⟨hc, -⟩
      refine ⟨?_, by simpa using hc⟩
      simp [List.infix_cons_iff]
  | cons d rest =>
    have hwithin : [':', ':'] <:+: c :: d :: rest ↔
        (c = ':' ∧ d = ':') ∨ [':', ':'] <:+: d :: rest := by
      rw [List.infix_cons_iff]
      simp [List.cons_prefix_cons, eq_comm]
    have hend : (c :: d :: rest).getLast? = (d :: rest).getLast? := List.getLast?_cons_cons
    have hhead : (d :: rest).head?.or (some ':') = some ':' ↔ d = ':' := by simp
    rw [hhead]
    constructor
    · intro h
      exact ⟨fun hc => h.within (hwithin.mpr (Or.inl hc)),
        fun hin => h.within (hwithin.mpr (Or.inr hin)), hend ▸ h.atEnd⟩
    · rintro ⟨hc, h⟩
      refine ⟨?_, hend ▸ h.atEnd⟩
      intro hin
      exact (hwithin.mp hin).elim hc h.within

theorem Plain.beforeSeparator (h : Plain front) (rest : List Char) :
    beforeSeparator (front ++ ':' :: ':' :: rest) = front := by
  induction front with
  | nil => rfl
  | cons c front ih =>
    obtain ⟨hc, hfront⟩ := plain_cons_iff.mp h
    rw [List.cons_append, beforeSeparator_cons, List.head?_append, List.head?_cons, if_neg hc,
      ih hfront]

theorem Plain.separatorCount (h : Plain front) (rest : List Char) :
    separatorCount (front ++ ':' :: ':' :: rest) = separatorCount rest + 1 := by
  induction front with
  | nil => rfl
  | cons c front ih =>
    obtain ⟨hc, hfront⟩ := plain_cons_iff.mp h
    rw [List.cons_append, separatorCount_cons, List.head?_append, List.head?_cons, if_neg hc,
      ih hfront]

theorem separatorCount_of_notMem (h : ':' ∉ chars) : separatorCount chars = 0 := by
  induction chars with
  | nil => rfl
  | cons c chars ih =>
    have hc : c ≠ ':' := fun e => h (e ▸ List.mem_cons_self)
    have hchars : ':' ∉ chars := fun hmem => h (List.mem_cons_of_mem c hmem)
    rw [separatorCount_cons, if_neg (fun hcolon => hc hcolon.1), ih hchars]

theorem colon_notMem_toDigits (n : ℕ) : ':' ∉ Nat.toDigits 10 n := by
  intro hmem
  have hdigit := Nat.isDigit_of_mem_toDigits (by decide) (by decide) hmem
  exact absurd hdigit (by decide)

theorem toList_toString_int (share : Int) : (toString share).toList =
    if 0 ≤ share then Nat.toDigits 10 share.toNat else '-' :: Nat.toDigits 10 (-share).toNat := by
  rw [Int.toString_eq_repr, Int.repr_eq_if]
  split
  · exact Nat.toList_repr
  · rw [String.toList_append, Nat.toList_repr]
    rfl

theorem colon_notMem_toString (share : Int) : ':' ∉ (toString share).toList := by
  rw [toList_toString_int]
  split
  · exact colon_notMem_toDigits _
  · intro hmem
    rcases List.mem_cons.mp hmem with hsign | hmem
    · exact absurd hsign (by decide)
    · exact colon_notMem_toDigits _ hmem

theorem toList_replica (base : DeviceId) (share : Int) :
    (replica base share).toList = base.toList ++ ':' :: ':' :: (toString share).toList := by
  rw [replica, String.toList_append, String.toList_append]
  simp

theorem isReplica_replica {base : DeviceId} (h : Plain base.toList) (share : Int) :
    isReplica (replica base share) := by
  have hone : separatorCount (replica base share).toList = 1 := by
    rw [toList_replica, h.separatorCount, separatorCount_of_notMem (colon_notMem_toString share)]
  simpa [isReplica] using hone

/-- The replicas of a device with a plain name are told to be its own. -/
theorem base_replica {base : DeviceId} (h : Plain base.toList) (share : Int) :
    DeviceId.base (replica base share) = base := by
  apply String.toList_injective
  rw [toList_base_of_isReplica (isReplica_replica h share), toList_replica, h.beforeSeparator]

theorem toDigits_injective {m n : ℕ} (h : Nat.toDigits 10 m = Nat.toDigits 10 n) : m = n := by
  have hread := congrArg (Nat.ofDigitChars 10 · 0) h
  simpa using hread

theorem toString_int_injective {share other : Int}
    (h : (toString share).toList = (toString other).toList) : share = other := by
  have hsign (m n : ℕ) : Nat.toDigits 10 m ≠ '-' :: Nat.toDigits 10 n := by
    intro heq
    have hmem : '-' ∈ Nat.toDigits 10 m := heq ▸ List.mem_cons_self
    have hdigit := Nat.isDigit_of_mem_toDigits (by decide) (by decide) hmem
    exact absurd hdigit (by decide)
  rw [toList_toString_int, toList_toString_int] at h
  split at h <;> split at h
  · have hsame := toDigits_injective h
    omega
  · exact absurd h (hsign _ _)
  · exact absurd h.symm (hsign _ _)
  · have hsame := toDigits_injective (List.cons.inj h).2
    omega

theorem eq_of_append_colon {back front' back' : List Char} (hback : ':' ∉ back)
    (hback' : ':' ∉ back') (h : front ++ ':' :: back = front' ++ ':' :: back') :
    front = front' ∧ back = back' := by
  rcases List.append_eq_append_iff.mp h with ⟨between, hfront, hrest⟩ | ⟨between, hfront, hrest⟩
  · cases between with
    | nil =>
      rw [List.append_nil] at hfront
      exact ⟨hfront.symm, (List.cons.inj hrest).2⟩
    | cons c between =>
      -- the colon of the second text would stand behind that of the first one
      have hrest' : back = between ++ ':' :: back' := (List.cons.inj hrest).2
      exact absurd (hrest' ▸ List.mem_append_right _ List.mem_cons_self) hback
  · cases between with
    | nil =>
      rw [List.append_nil] at hfront
      exact ⟨hfront, (List.cons.inj hrest).2.symm⟩
    | cons c between =>
      have hrest' : back' = between ++ ':' :: back := (List.cons.inj hrest).2
      exact absurd (hrest' ▸ List.mem_append_right _ List.mem_cons_self) hback'

/-- The name of a replica tells both the device and the number, whatever the device is called. -/
theorem replica_injective {base base' : DeviceId} {share share' : Int}
    (h : replica base share = replica base' share') : base = base' ∧ share = share' := by
  have hchars := congrArg String.toList h
  rw [toList_replica, toList_replica, List.append_cons, List.append_cons base'.toList] at hchars
  obtain ⟨hfront, hnumber⟩ :=
    eq_of_append_colon (colon_notMem_toString share) (colon_notMem_toString share') hchars
  have hbase : base.toList = base'.toList := List.append_cancel_right hfront
  exact ⟨String.toList_injective hbase, toString_int_injective hnumber⟩

end DeviceAllocation.DeviceId
