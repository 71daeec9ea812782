import DeviceAllocation.DeviceSet
import DeviceAllocation.Proofs.DeviceId
import DeviceAllocation.Proofs.Order
import Mathlib.Data.List.Nodup
import Mathlib.Data.List.Perm.Basic

namespace DeviceAllocation

namespace DeviceId

def replicas (count : ℕ) (base : DeviceId) : List DeviceId :=
  (List.range count).map fun (share : ℕ) => replica base share

variable {ids front back : List DeviceId} {id : DeviceId} {count share : ℕ}

@[simp]
theorem length_replicas (count : ℕ) (base : DeviceId) : (replicas count base).length = count := by
  rw [replicas, List.length_map, List.length_range]

theorem mem_replicas {base : DeviceId} :
    id ∈ replicas count base ↔ ∃ share < count, replica base (share : ℕ) = id := by
  simp only [replicas, List.mem_map, List.mem_range]

theorem nodup_replicas (count : ℕ) (base : DeviceId) : (replicas count base).Nodup := by
  apply List.nodup_range.map
  intro share other h
  exact Int.ofNat_inj.mp (replica_injective h).2

theorem length_flatMap_replicas (ids : List DeviceId) (count : ℕ) :
    (ids.flatMap (replicas count)).length = ids.length * count := by
  induction ids with
  | nil => exact (Nat.zero_mul count).symm
  | cons id ids ih =>
    rw [List.flatMap_cons, List.length_append, length_replicas, ih, List.length_cons,
      Nat.succ_mul, Nat.add_comm]

theorem nodup_flatMap_replicas (h : ids.Nodup) (count : ℕ) :
    (ids.flatMap (replicas count)).Nodup := by
  apply List.nodup_flatMap.mpr
  refine ⟨fun id _ => nodup_replicas count id, h.imp ?_⟩
  -- a name that two devices share would make them one
  intro id other hne name hname hother
  obtain ⟨share, -, rfl⟩ := mem_replicas.mp hname
  obtain ⟨number, -, hsame⟩ := mem_replicas.mp hother
  exact hne (replica_injective hsame).1.symm

theorem exists_replicas_eq (base : DeviceId) (h : share < count) :
    ∃ rest, replicas count base = replicas share base ++ replica base share :: rest := by
  obtain ⟨more, rfl⟩ := Nat.exists_eq_add_of_lt h
  refine ⟨(List.range more).map fun (next : ℕ) => replica base ((share + 1 + next : ℕ) : Int), ?_⟩
  have hrange : List.range (share + more + 1) =
      List.range share ++ share :: (List.range more).map (share + 1 + ·) := by
    rw [Nat.add_right_comm, List.range_add, List.range_succ, List.append_assoc]
    rfl
  rw [replicas, hrange, List.map_append, List.map_cons, List.map_map]
  rfl

end DeviceId

namespace DeviceSet

theorem map_id_sharesOf (device : Device) (count : ℕ) :
    (sharesOf device count).map Device.id = DeviceId.replicas count device.id := by
  rw [sharesOf, List.map_map]
  rfl

theorem map_id_shares (devices : List Device) (count : ℕ) :
    (devices.flatMap fun device => sharesOf device count).map Device.id =
      (devices.map Device.id).flatMap (DeviceId.replicas count) := by
  rw [List.map_flatMap, List.flatMap_map]
  simp only [map_id_sharesOf]

theorem devices_replicate (set : DeviceSet) {replicas : Int} (h : 2 ≤ replicas) :
    (set.replicate replicas).devices =
      set.devices.flatMap fun device => sharesOf device replicas.toNat := by
  have hshares : set.shares? replicas =
      some (ofList (set.devices.flatMap fun device => sharesOf device replicas.toNat)) := by
    rw [shares?, if_neg (by omega)]
  have hdistinct : ((set.devices.flatMap fun device => sharesOf device replicas.toNat).map
      Device.id).Nodup := by
    rw [map_id_shares]
    exact DeviceId.nodup_flatMap_replicas set.nodup_ids _
  rw [replicate, hshares, Option.getD_some]
  exact Keyed.ofList_of_nodup hdistinct

/-- A replicated set lists all replicas of one device before those of the next one. -/
theorem ids_replicate (set : DeviceSet) {replicas : Int} (h : 2 ≤ replicas) :
    (set.replicate replicas).ids = set.ids.flatMap (DeviceId.replicas replicas.toNat) := by
  rw [ids, devices_replicate set h, map_id_shares]
  rfl

theorem size_replicate (set : DeviceSet) {replicas : Int} (h : 2 ≤ replicas) :
    ((set.replicate replicas).size : Int) = replicas * set.size := by
  have hsize (other : DeviceSet) : other.ids.length = other.size := List.length_map Device.id
  rw [← hsize, ← hsize, ids_replicate set h, DeviceId.length_flatMap_replicas, Int.natCast_mul,
    Int.toNat_of_nonneg (by omega), Int.mul_comm]

theorem hasPartitions_replicate (set : DeviceSet) {replicas : Int} (h : 2 ≤ replicas) :
    (set.replicate replicas).hasPartitions = set.hasPartitions := by
  have hshares (device : Device) :
      (sharesOf device replicas.toNat).any Device.isPartition = device.isPartition := by
    obtain ⟨more, hmore⟩ := Nat.exists_eq_succ_of_ne_zero (show replicas.toNat ≠ 0 by omega)
    rw [sharesOf, List.any_map, hmore, Bool.eq_iff_iff, List.any_eq_true]
    constructor
    · rintro ⟨share, -, hpart⟩
      exact hpart
    · intro hpart
      exact ⟨0, List.mem_range.mpr (Nat.succ_pos more), hpart⟩
  rw [hasPartitions, devices_replicate set h, List.any_flatMap]
  simp only [hshares]
  rfl

end DeviceSet

end DeviceAllocation
