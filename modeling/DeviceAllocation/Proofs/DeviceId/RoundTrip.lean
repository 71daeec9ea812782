import DeviceAllocation.Proofs.DeviceId

namespace DeviceAllocation.DeviceId

variable {front : List Char} {base : DeviceId}

/-! ### A separator in the name of the device -/

theorem two_le_separatorCount (h : [':', ':'] <:+: front) (rest : List Char) :
    2 ≤ separatorCount (front ++ ':' :: ':' :: rest) := by
  induction front with
  | nil => exact absurd (List.infix_nil.mp h) (List.cons_ne_nil _ _)
  | cons c front ih =>
    rw [List.cons_append, separatorCount_cons]
    by_cases hc : c = ':' ∧ (front ++ ':' :: ':' :: rest).head? = some ':'
    · rw [if_pos hc]
      cases front with
      | nil =>
        have hlength := h.length_le
        simp at hlength
      | cons d front =>
        -- one separator begins here, and the one in front of the number is still to come
        have hjoin := separatorCount_append_pos front rest
        rw [List.cons_append, List.tail_cons]
        omega
    · rw [if_neg hc]
      apply ih
      rcases List.infix_cons_iff.mp h with ⟨tail, htail⟩ | hwithin
      · obtain ⟨rfl, rfl⟩ := List.cons.inj htail
        exact absurd ⟨rfl, rfl⟩ hc
      · exact hwithin

theorem not_isReplica_of_separator (h : [':', ':'] <:+: base.toList) (share : Int) :
    isReplica (replica base share) = false := by
  have hcount := two_le_separatorCount h (toString share).toList
  rw [← toList_replica] at hcount
  rw [isReplica, decide_eq_false_iff_not]
  omega

/-! ### A colon at the end of the name -/

theorem Plain.of_append_colon (h : ¬ [':', ':'] <:+: front ++ [':']) : Plain front where
  within := by
    intro hwithin
    exact h (hwithin.trans (List.prefix_append front [':']).isInfix)
  atEnd := by
    intro hlast
    obtain ⟨start, rfl⟩ := List.getLast?_eq_some_iff.mp hlast
    apply h
    rw [List.append_assoc]
    exact List.infix_append' start [':', ':'] []

/-- The separator is found one place too early, and the colon that is left over goes to the
number. -/
theorem toList_replica_of_colon (hend : base.toList = front ++ [':']) (share : Int) :
    (replica base share).toList = front ++ ':' :: ':' :: ':' :: (toString share).toList := by
  rw [toList_replica, hend, List.append_assoc, List.singleton_append]

theorem separatorCount_colon_number (share : Int) :
    separatorCount (':' :: (toString share).toList) = 0 := by
  have hnone := colon_notMem_toString share
  have hhead : (toString share).toList.head? ≠ some ':' := by
    intro hcolon
    exact hnone (List.mem_of_mem_head? hcolon)
  rw [separatorCount_cons, if_neg (fun h => hhead h.2), separatorCount_of_notMem hnone]

theorem isReplica_replica_of_colon (hend : base.toList = front ++ [':'])
    (hplain : Plain front) (share : Int) : isReplica (replica base share) := by
  have hone : separatorCount (replica base share).toList = 1 := by
    rw [toList_replica_of_colon hend, hplain.separatorCount, separatorCount_colon_number]
  simpa [isReplica] using hone

theorem toList_base_replica_of_colon (hend : base.toList = front ++ [':'])
    (hplain : Plain front) (share : Int) :
    (DeviceId.base (replica base share)).toList = front := by
  rw [toList_base_of_isReplica (isReplica_replica_of_colon hend hplain share),
    toList_replica_of_colon hend, hplain.beforeSeparator]

theorem length_base_replica_of_colon (hwithin : ¬ [':', ':'] <:+: base.toList)
    (hend : base.toList.getLast? = some ':') (share : Int) :
    isReplica (replica base share) ∧
      (DeviceId.base (replica base share)).length + 1 = base.length := by
  obtain ⟨front, hfront⟩ := List.getLast?_eq_some_iff.mp hend
  have hplain : Plain front := by
    rw [hfront] at hwithin
    exact Plain.of_append_colon hwithin
  refine ⟨isReplica_replica_of_colon hfront hplain share, ?_⟩
  rw [← String.length_toList, ← String.length_toList, toList_base_replica_of_colon hfront hplain,
    hfront, List.length_append, List.length_singleton]

/-! ### All names -/

theorem plain_of_base_replica {share : Int} (h : DeviceId.base (replica base share) = base) :
    Plain base.toList := by
  have hwithin : ¬ [':', ':'] <:+: base.toList := by
    intro hwithin
    -- nothing is taken off, though the name of the replica is longer
    rw [base_of_not_isReplica (not_isReplica_of_separator hwithin share)] at h
    have hlength := congrArg (fun id : DeviceId => id.toList.length) h
    simp only [toList_replica, List.length_append, List.length_cons] at hlength
    omega
  refine ⟨hwithin, ?_⟩
  intro hend
  have hlength := (length_base_replica_of_colon hwithin hend share).2
  rw [h] at hlength
  omega

/-- The name of a replica gives back the device exactly when the device has a plain name. If it has
a separator in its name, the name of the replica is not even taken for one. If there is none but the
name ends in a colon, the name of the replica is taken for one of another device, whose name is
shorter. -/
theorem base_replica_eq_iff (base : DeviceId) (share : Int) :
    (DeviceId.base (replica base share) = base ↔
      ¬ [':', ':'] <:+: base.toList ∧ base.toList.getLast? ≠ some ':') ∧
    ([':', ':'] <:+: base.toList → isReplica (replica base share) = false) ∧
    (¬ [':', ':'] <:+: base.toList → base.toList.getLast? = some ':' →
      isReplica (replica base share) = true ∧ DeviceId.base (replica base share) ≠ base ∧
        (DeviceId.base (replica base share)).length < base.length) := by
  refine ⟨?_, ?_, ?_⟩
  · constructor
    · intro h
      have hplain := plain_of_base_replica h
      exact ⟨hplain.within, hplain.atEnd⟩
    · rintro ⟨hwithin, hend⟩
      exact base_replica ⟨hwithin, hend⟩ share
  · intro hwithin
    exact not_isReplica_of_separator hwithin share
  · intro hwithin hend
    obtain ⟨hreplica, hlength⟩ := length_base_replica_of_colon hwithin hend share
    refine ⟨hreplica, ?_, by omega⟩
    intro hsame
    rw [hsame] at hlength
    omega

/-- A name of each kind, with a number below zero for the second one. -/
theorem base_replica_of_each_kind :
    DeviceId.base (replica "gpu:0" 7) = "gpu:0" ∧
    ([':', ':'] <:+: "gpu::0:".toList ∧ isReplica (replica "gpu::0:" (-1)) = false) ∧
    ¬ [':', ':'] <:+: "gpu:".toList ∧ "gpu:".toList.getLast? = some ':' ∧
      replica "gpu:" 0 = "gpu:::0" ∧ DeviceId.base (replica "gpu:" 0) = "gpu" ∧
      isReplica (replica "gpu:" 0) = true ∧ DeviceId.base (replica "gpu:" 0) ≠ "gpu:" ∧
        (DeviceId.base (replica "gpu:" 0)).length < "gpu:".length := by
  have hplain : ¬ [':', ':'] <:+: "gpu:0".toList ∧ "gpu:0".toList.getLast? ≠ some ':' := by
    decide +kernel
  have hwithin : [':', ':'] <:+: "gpu::0:".toList := by decide +kernel
  have hnone : ¬ [':', ':'] <:+: "gpu:".toList := by decide +kernel
  have hend : "gpu:".toList.getLast? = some ':' := by decide +kernel
  exact ⟨(base_replica_eq_iff "gpu:0" 7).1.mpr hplain,
    ⟨hwithin, (base_replica_eq_iff "gpu::0:" (-1)).2.1 hwithin⟩, hnone, hend, by decide +kernel,
    by decide +kernel, (base_replica_eq_iff "gpu:" 0).2.2 hnone hend⟩

end DeviceAllocation.DeviceId
