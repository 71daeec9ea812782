import DeviceAllocation.Proofs.DeviceSet
import DeviceAllocation.Proofs.Placement.Level

namespace DeviceAllocation.Placement

variable {inventory : DeviceSet} {ids : List DeviceId} {id other : DeviceId}
variable {count share number : ℕ}

/-! ### Rounds -/

/-- One replica of each device in turn, and again until each device has given `count` of them. -/
def rounds (ids : List DeviceId) (count : ℕ) : List DeviceId :=
  (List.range count).flatMap fun (share : ℕ) => ids.map fun id => DeviceId.replica id share

theorem rounds_succ (ids : List DeviceId) (count : ℕ) :
    rounds ids (count + 1) = rounds ids count ++ ids.map fun id => DeviceId.replica id count := by
  rw [rounds, List.range_succ, List.flatMap_append, List.flatMap_singleton]
  rfl

theorem length_rounds (ids : List DeviceId) (count : ℕ) :
    (rounds ids count).length = count * ids.length := by
  induction count with
  | zero => rw [Nat.zero_mul]; rfl
  | succ count ih => rw [rounds_succ, List.length_append, List.length_map, ih, Nat.succ_mul]

theorem getElem?_rounds {k : ℕ} (hk : k < count * ids.length) :
    ∃ id, ids[k % ids.length]? = some id ∧
      (rounds ids count)[k]? = some (DeviceId.replica id (k / ids.length : ℕ)) := by
  induction count with
  | zero => omega
  | succ count ih =>
    rw [rounds_succ]
    by_cases hearlier : k < count * ids.length
    · obtain ⟨id, hid, hentry⟩ := ih hearlier
      refine ⟨id, hid, ?_⟩
      rwa [List.getElem?_append_left]
      rwa [length_rounds]
    · -- the entry stands in the last round, `place` behind its start
      obtain ⟨place, rfl⟩ := Nat.exists_eq_add_of_le (Nat.le_of_not_lt hearlier)
      have hplace : place < ids.length := by
        rw [Nat.succ_mul] at hk
        omega
      have hmod : (count * ids.length + place) % ids.length = place := by
        rw [Nat.mul_add_mod_self_right, Nat.mod_eq_of_lt hplace]
      have hdiv : (count * ids.length + place) / ids.length = count := by
        rw [Nat.mul_comm, Nat.mul_add_div (Nat.zero_lt_of_lt hplace), Nat.div_eq_of_lt hplace,
          Nat.add_zero]
      refine ⟨ids[place], ?_, ?_⟩
      · rw [hmod, List.getElem?_eq_getElem hplace]
      · rw [hdiv, ← length_rounds ids count, List.getElem?_append_right (Nat.le_add_right _ _),
          Nat.add_sub_cancel_left, List.getElem?_map, List.getElem?_eq_getElem hplace,
          Option.map_some]

theorem rounds_perm (ids : List DeviceId) (count : ℕ) :
    (rounds ids count).Perm (ids.flatMap (DeviceId.replicas count)) := by
  induction ids with
  | nil =>
    have hnone : rounds [] count = [] := by
      rw [← List.length_eq_zero_iff, length_rounds]
      rfl
    rw [hnone]
    rfl
  | cons id ids ih =>
    have hfirst :
        (rounds (id :: ids) count).Perm (DeviceId.replicas count id ++ rounds ids count) :=
      (List.map_append_flatMap_perm (List.range count)
        (fun (share : ℕ) => DeviceId.replica id share)
        fun (share : ℕ) => ids.map fun id => DeviceId.replica id share).symm
    rw [List.flatMap_cons]
    exact hfirst.trans (ih.append_left _)

/-! ### Levels when nothing is taken -/

/-- The inventory lists `count` replicas of each device, and no other ones. -/
structure SharedAnew (inventory : DeviceSet) (ids : List DeviceId) (count : ℕ) : Prop where
  listed : inventory.ids = ids.flatMap (DeviceId.replicas count)
  distinct : ids.Nodup
  plain : ∀ id ∈ ids, DeviceId.Plain id.toList

theorem load_self (inventory : DeviceSet) (base : DeviceId) :
    load inventory inventory.ids base = 0 := by
  rw [load, List.countP_eq_zero]
  intro id hid
  simp [hid]

theorem sharing_replicas (hplain : DeviceId.Plain id.toList) (share : ℕ) :
    sharing id (DeviceId.replicas share id) = share := by
  have hall : ∀ name ∈ DeviceId.replicas share id, DeviceId.base name = id := by
    intro name hname
    obtain ⟨number, -, rfl⟩ := DeviceId.mem_replicas.mp hname
    exact DeviceId.base_replica hplain number
  rw [sharing, List.countP_eq_length.mpr (by simpa using hall), DeviceId.length_replicas]

theorem sharing_replicas_of_notMem (hplain : ∀ other ∈ ids, DeviceId.Plain other.toList)
    (hid : id ∉ ids) : sharing id (ids.flatMap (DeviceId.replicas count)) = 0 := by
  rw [sharing, List.countP_eq_zero]
  intro name hname
  obtain ⟨other, hother, hname⟩ := List.mem_flatMap.mp hname
  obtain ⟨number, -, rfl⟩ := DeviceId.mem_replicas.mp hname
  rw [DeviceId.base_replica (hplain other hother), decide_eq_true_eq]
  exact fun hsame => hid (hsame ▸ hother)

namespace SharedAnew

/-- What stands before a replica: all replicas of earlier devices, and those of its own device with
lower numbers. -/
theorem exists_before (h : SharedAnew inventory ids count) (hid : id ∈ ids)
    (hshare : share < count) :
    ∃ front, front <+: ids ∧ id ∉ front ∧ front.length = ids.idxOf id ∧
      inventory.ids.take (inventory.ids.idxOf (DeviceId.replica id share)) =
        front.flatMap (DeviceId.replicas count) ++ DeviceId.replicas share id := by
  obtain ⟨front, back, rfl⟩ := List.append_of_mem hid
  have hfront : id ∉ front := notMem_front_of_nodup h.distinct
  obtain ⟨rest, hrest⟩ := DeviceId.exists_replicas_eq id hshare
  have hsplit : inventory.ids =
      (front.flatMap (DeviceId.replicas count) ++ DeviceId.replicas share id) ++
        DeviceId.replica id share :: (rest ++ back.flatMap (DeviceId.replicas count)) := by
    rw [h.listed, List.flatMap_append, List.flatMap_cons, hrest]
    simp only [List.append_assoc, List.cons_append]
  refine ⟨front, List.prefix_append _ _, hfront, (idxOf_append_cons hfront back).symm, ?_⟩
  have hdistinct := inventory.nodup_ids
  rw [hsplit] at hdistinct ⊢
  rw [idxOf_append_cons (notMem_front_of_nodup hdistinct), List.take_left]

theorem idxOf_replica (h : SharedAnew inventory ids count) (hid : id ∈ ids)
    (hshare : share < count) :
    inventory.ids.idxOf (DeviceId.replica id share) = ids.idxOf id * count + share := by
  obtain ⟨front, -, -, hlength, hbefore⟩ := h.exists_before hid hshare
  have hindex := congrArg List.length hbefore
  rwa [List.length_take, Nat.min_eq_left List.idxOf_le_length, List.length_append,
    DeviceId.length_flatMap_replicas, DeviceId.length_replicas, hlength] at hindex

/-- A replica comes after as many others of its device as its number says. -/
theorem level_replica (h : SharedAnew inventory ids count) (hid : id ∈ ids)
    (hshare : share < count) :
    level inventory inventory.ids (DeviceId.replica id share) = share := by
  obtain ⟨front, hpart, hnotMem, -, hbefore⟩ := h.exists_before hid hshare
  have hothers : sharing id (front.flatMap (DeviceId.replicas count)) = 0 := by
    apply sharing_replicas_of_notMem _ hnotMem
    intro other hother
    exact h.plain other (hpart.subset hother)
  calc level inventory inventory.ids (DeviceId.replica id share)
      = 0 + sharing id (front.flatMap (DeviceId.replicas count) ++
          DeviceId.replicas share id) := by
        rw [level, DeviceId.base_replica (h.plain id hid), load_self, hbefore]
    _ = sharing id (front.flatMap (DeviceId.replicas count)) +
          sharing id (DeviceId.replicas share id) := by
        rw [Nat.zero_add, sharing, List.countP_append]
        rfl
    _ = share := by rw [hothers, sharing_replicas (h.plain id hid), Nat.zero_add]

theorem comesFirst_of_lt (h : SharedAnew inventory ids count) (hid : id ∈ ids)
    (hother : other ∈ ids) (hnumber : number < count) (hlt : share < number) :
    comesFirst inventory inventory.ids (DeviceId.replica id share)
      (DeviceId.replica other number) := by
  have hshare : share < count := hlt.trans hnumber
  rw [comesFirst, h.level_replica hid hshare, h.level_replica hother hnumber, decide_eq_true_eq]
  exact Or.inl hlt

theorem comesFirst_of_idxOf_lt (h : SharedAnew inventory ids count) (hid : id ∈ ids)
    (hother : other ∈ ids) (hshare : share < count) (hlt : ids.idxOf id < ids.idxOf other) :
    comesFirst inventory inventory.ids (DeviceId.replica id share)
      (DeviceId.replica other share) := by
  have hplace := Nat.mul_le_mul_right count hlt.le
  rw [comesFirst, h.level_replica hid hshare, h.level_replica hother hshare,
    h.idxOf_replica hid hshare, h.idxOf_replica hother hshare, decide_eq_true_eq]
  omega

theorem pairwise_rounds (h : SharedAnew inventory ids count) :
    (rounds ids count).Pairwise fun a b => comesFirst inventory inventory.ids a b := by
  rw [rounds]
  apply List.pairwise_flatMap.mpr
  constructor
  · -- within a round the devices keep their order
    intro share hshare
    rw [List.pairwise_map]
    refine (pairwise_idxOf h.distinct).imp_of_mem ?_
    intro id other hid hother hlt
    exact h.comesFirst_of_idxOf_lt hid hother (List.mem_range.mp hshare) hlt
  · refine List.pairwise_lt_range.imp_of_mem ?_
    intro share number _ hnumber hlt name hname name' hname'
    obtain ⟨id, hid, rfl⟩ := List.mem_map.mp hname
    obtain ⟨other, hother, rfl⟩ := List.mem_map.mp hname'
    exact h.comesFirst_of_lt hid hother (List.mem_range.mp hnumber) hlt

theorem levelOrder_eq_rounds (h : SharedAnew inventory ids count) :
    levelOrder inventory inventory.ids = rounds ids count := by
  apply sortBy_eq_of_pairwise comesFirst_total comesFirst_trans
  · intro a ha b _
    exact comesFirst_antisymm ha
  · rw [h.listed]
    exact rounds_perm ids count
  · exact h.pairwise_rounds

end SharedAnew

/-! ### Answers -/

theorem candidates_all (inventory : DeviceSet) (size : Int) :
    candidates inventory ⟨inventory.ids, [], size⟩ = inventory.ids := by
  have hkept : (inventory.ids.filter fun id => id ∈ inventory ∧ id ∉ ([] : List DeviceId)) =
      inventory.ids := by
    apply List.filter_eq_self.mpr
    intro id hid
    simpa using DeviceSet.mem_iff.mpr hid
  rw [candidates_eq_eraseDups, hkept, eraseDups_of_nodup inventory.nodup_ids]

theorem SharedAnew.distributed_eq_take_rounds (h : SharedAnew inventory ids count) {size : Int}
    (hsize : 0 ≤ size) (henough : size ≤ (count * ids.length : ℕ)) :
    distributed inventory ⟨inventory.ids, [], size⟩ =
      .ok ((rounds ids count).take size.toNat) := by
  have hpool := candidates_all inventory size
  have hall : inventory.ids.length = count * ids.length := by
    rw [h.listed, ← (rounds_perm ids count).length_eq, length_rounds]
  have hneeded : Request.needed ⟨inventory.ids, [], size⟩ = size := Int.sub_zero size
  have hfits : Request.needed ⟨inventory.ids, [], size⟩ ≤
      (candidates inventory ⟨inventory.ids, [], size⟩).length := by
    rw [hneeded, hpool, hall]
    exact henough
  have hnone : (([] : List DeviceId).length : Int) ≤ size := hsize
  have hanswer := handsOut_distributed.ok_of_needed_le hnone hfits
  rwa [hneeded, hpool, h.levelOrder_eq_rounds] at hanswer

theorem sharedAnew_replicate {set : DeviceSet} {replicas : Int} (hreplicas : 2 ≤ replicas)
    (hplain : ∀ id ∈ set.ids, DeviceId.Plain id.toList) :
    SharedAnew (set.replicate replicas) set.ids replicas.toNat where
  listed := set.ids_replicate hreplicas
  distinct := set.nodup_ids
  plain := hplain

/-- A set of devices that are shared anew is handed out in turn: first one replica of each device in
order, then the next one of each, and so on. -/
theorem distributed_takes_turns (set : DeviceSet) (replicas size : Int)
    (hplain : ∀ id ∈ set.ids, DeviceId.Plain id.toList) (hreplicas : 2 ≤ replicas)
    (hsize : 0 ≤ size) (henough : size ≤ set.size * replicas) :
    ∃ picks, distributed (set.replicate replicas) ⟨(set.replicate replicas).ids, [], size⟩ =
        .ok picks ∧ (picks.length : Int) = size ∧
      ∀ k < picks.length, ∃ id, set.ids[k % set.size]? = some id ∧
        picks[k]? = some (DeviceId.replica id (k / set.size : ℕ)) := by
  have hanew := sharedAnew_replicate hreplicas hplain
  have hdevices : set.ids.length = set.size := List.length_map Device.id
  have hall : ((replicas.toNat * set.ids.length : ℕ) : Int) = set.size * replicas := by
    rw [hdevices, Int.natCast_mul, Int.toNat_of_nonneg (by omega), Int.mul_comm]
  have hfits : size ≤ (replicas.toNat * set.ids.length : ℕ) := hall ▸ henough
  have hlength : ((rounds set.ids replicas.toNat).take size.toNat).length = size.toNat := by
    rw [List.length_take, length_rounds]
    omega
  refine ⟨_, hanew.distributed_eq_take_rounds hsize hfits, ?_, ?_⟩
  · rw [hlength, Int.toNat_of_nonneg hsize]
  · intro k hk
    rw [hlength] at hk
    have hround : k < replicas.toNat * set.ids.length := by omega
    obtain ⟨id, hid, hentry⟩ := getElem?_rounds hround
    rw [← hdevices]
    refine ⟨id, hid, ?_⟩
    rwa [List.getElem?_take_of_lt hk]

def colonDevices : DeviceSet := .ofList [⟨"gpu:0", "0"⟩, ⟨":1", "1"⟩, ⟨"gpu2", "2"⟩]

theorem distributed_colons_takes_turns :
    (∀ id ∈ colonDevices.ids, DeviceId.Plain id.toList) ∧
      (5 : Int) ≤ colonDevices.size * 2 ∧
      distributed (colonDevices.replicate 2) ⟨(colonDevices.replicate 2).ids, [], 5⟩ =
        .ok ["gpu:0::0", ":1::0", "gpu2::0", "gpu:0::1", ":1::1"] ∧
      ∃ picks, distributed (colonDevices.replicate 2) ⟨(colonDevices.replicate 2).ids, [], 5⟩ =
          .ok picks ∧ (picks.length : Int) = 5 ∧
        ∀ k < picks.length, ∃ id, colonDevices.ids[k % colonDevices.size]? = some id ∧
          picks[k]? = some (DeviceId.replica id (k / colonDevices.size : ℕ)) := by
  have hplain : ∀ id ∈ colonDevices.ids, DeviceId.Plain id.toList := by
    decide +kernel
  have henough : (5 : Int) ≤ colonDevices.size * 2 := by decide +kernel
  have hanswer : distributed (colonDevices.replicate 2) ⟨(colonDevices.replicate 2).ids, [], 5⟩ =
      .ok ["gpu:0::0", ":1::0", "gpu2::0", "gpu:0::1", ":1::1"] := by
    decide +kernel
  exact ⟨hplain, henough, hanswer,
    distributed_takes_turns colonDevices 2 5 hplain (by decide) (by decide) henough⟩

end DeviceAllocation.Placement
