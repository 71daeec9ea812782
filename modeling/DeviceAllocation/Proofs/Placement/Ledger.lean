import DeviceAllocation.Placement.Distributed
import DeviceAllocation.Proofs.Placement.Candidates
import Mathlib.Data.List.Induction
import Mathlib.Data.List.Nodup
import Mathlib.Data.List.Perm.Basic

namespace DeviceAllocation

def DeviceSet.sharing (inventory : DeviceSet) (base : DeviceId) : Nat :=
  inventory.devices.countP fun device => device.base = base

namespace Placement

def sharing (base : DeviceId) (ids : List DeviceId) : Nat :=
  ids.countP fun id => DeviceId.base id = base

/-- The number of devices of the inventory that share one physical device and are not left to
pick. -/
def load (inventory : DeviceSet) (rest : List DeviceId) (base : DeviceId) : Nat :=
  inventory.ids.countP fun id => DeviceId.base id = base ∧ id ∉ rest

/-- The counts of the given physical devices while `rest` is left to pick. -/
def ledger (inventory : DeviceSet) (bases rest : List DeviceId) : Accounting :=
  bases.map fun base => ⟨base, inventory.sharing base, sharing base rest⟩

variable {inventory : DeviceSet} {bases rest : List DeviceId}

theorem sharing_ids (inventory : DeviceSet) (base : DeviceId) :
    sharing base inventory.ids = inventory.sharing base := by
  simp only [sharing, DeviceSet.ids, List.countP_map]
  rfl

theorem sharing_erase {pick : DeviceId} (hpick : pick ∈ rest) (base : DeviceId) :
    sharing base (rest.erase pick) + (if base = DeviceId.base pick then 1 else 0) =
      sharing base rest := by
  have hperm := List.perm_cons_erase hpick
  rw [sharing, sharing, hperm.countP_eq, List.countP_cons]
  simp only [decide_eq_true_eq, @eq_comm _ base]

/-- What is left to pick and what is not make up all devices on a physical device. -/
theorem load_add_sharing (h : Pickable inventory rest) (base : DeviceId) :
    load inventory rest base + sharing base rest = inventory.sharing base := by
  have hrest : (inventory.ids.filter (· ∈ rest)).Perm rest := by
    -- both lists are distinct, so it is enough that they hold the same devices
    refine (List.perm_ext_iff_of_nodup (inventory.nodup_ids.filter _) h.nodup).mpr ?_
    intro id
    simp only [List.mem_filter, decide_eq_true_eq, and_iff_right_iff_imp]
    exact h.known id
  have hsplit := List.countP_eq_countP_filter_add inventory.ids
    (fun id => DeviceId.base id = base) (· ∈ rest)
  rw [hrest.countP_eq, List.countP_filter] at hsplit
  rw [← sharing_ids, sharing, sharing, hsplit, load, Nat.add_comm]
  simp only [Bool.decide_and, decide_not]

theorem load_erase {pick : DeviceId} (h : Pickable inventory rest) (hpick : pick ∈ rest)
    (base : DeviceId) :
    load inventory (rest.erase pick) base =
      load inventory rest base + if base = DeviceId.base pick then 1 else 0 := by
  have hbefore := load_add_sharing h base
  have hafter := load_add_sharing (h.erase pick) base
  have hone := sharing_erase hpick base
  omega

theorem load_mono {left : List DeviceId} (h : ∀ id ∈ left, id ∈ rest) (base : DeviceId) :
    load inventory rest base ≤ load inventory left base := by
  apply List.countP_mono_left
  intro id _
  simp only [decide_eq_true_eq]
  rintro ⟨hbase, hrest⟩
  exact ⟨hbase, fun hleft => hrest (h id hleft)⟩

/-! ### The counts -/

theorem change_map {entry : DeviceId → ReplicaCount} (hbase : ∀ base, (entry base).base = base)
    (f : ReplicaCount → ReplicaCount) (target : DeviceId) :
    Accounting.change f target (bases.map entry) =
      bases.map fun base => if base = target then f (entry base) else entry base := by
  simp only [Accounting.change, List.map_map, Function.comp_def, hbase]

theorem count?_ledger {base : DeviceId} (h : base ∈ bases) :
    (ledger inventory bases rest).count? base =
      some ⟨base, inventory.sharing base, sharing base rest⟩ := by
  rw [Accounting.count?, Keyed.find?, ledger, List.find?_map]
  have hfound : bases.find? (fun b => b = base) = some base := by
    cases hb : bases.find? (fun b => b = base) with
    | none => simpa using List.find?_eq_none.mp hb base h
    | some b => simpa using List.find?_some hb
  simp only [Function.comp_def, hfound, Option.map_some]

/-- The count of a physical device says how many of its devices are not left to pick. -/
theorem used_ledger (h : Pickable inventory rest) {base : DeviceId} (hbase : base ∈ bases) :
    (ledger inventory bases rest).used base = load inventory rest base := by
  have hload := load_add_sharing h base
  rw [Accounting.used, count?_ledger hbase]
  simp only [Option.map_some, Option.getD_some, ReplicaCount.used]
  omega

theorem take_ledger {pick : DeviceId} (h : pick ∈ rest) :
    (ledger inventory bases rest).take pick = ledger inventory bases (rest.erase pick) := by
  rw [Accounting.take, ledger, change_map fun _ => rfl, ledger]
  apply List.map_congr_left
  intro base _
  have hone := sharing_erase h base
  split
  · rename_i hbase
    rw [if_pos hbase] at hone
    rw [ReplicaCount.take, ← hone]
    simp
  · rename_i hbase
    rw [if_neg hbase, Nat.add_zero] at hone
    rw [hone]

theorem ledger_perm {other : List DeviceId} (h : rest.Perm other) :
    ledger inventory bases rest = ledger inventory bases other := by
  apply List.map_congr_left
  intro base _
  rw [sharing, sharing, h.countP_eq]

theorem eq_of_mem_ledger {entry : ReplicaCount} (h : entry ∈ ledger inventory bases rest) :
    entry = ⟨entry.base, inventory.sharing entry.base, sharing entry.base rest⟩ := by
  obtain ⟨base, -, rfl⟩ := List.mem_map.mp h
  rfl

theorem map_base_ledger : (ledger inventory bases rest).map ReplicaCount.base = bases := by
  rw [ledger, List.map_map]
  exact List.map_id bases

theorem foldl_offer (pool : List DeviceId) :
    pool.foldl Accounting.offer [] =
      (pool.map DeviceId.base).eraseDups.map fun base => ⟨base, 0, sharing base pool⟩ := by
  -- candidates are entered in order, so the induction is from the back
  induction pool using List.reverseRecOn with
  | nil => rfl
  | append_singleton pool id ih =>
    have hsharing (base : DeviceId) : sharing base (pool ++ [id]) =
        sharing base pool + if base = DeviceId.base id then 1 else 0 := by
      simp only [sharing, List.countP_append, List.countP_singleton, decide_eq_true_eq,
        @eq_comm _ base]
    have hbases : ((pool.map DeviceId.base).eraseDups.map fun base =>
        (⟨base, 0, sharing base pool⟩ : ReplicaCount)).map ReplicaCount.base =
          (pool.map DeviceId.base).eraseDups := by
      simp [Function.comp_def]
    rw [List.foldl_append, ih, List.foldl_cons, List.foldl_nil, Accounting.offer, hbases,
      List.map_append, List.eraseDups_append]
    by_cases hmem : DeviceId.base id ∈ pool.map DeviceId.base
    · -- the device has a count already
      have hnone : List.removeAll [DeviceId.base id] (pool.map DeviceId.base) = [] := by
        simp only [List.removeAll, List.filter_cons, List.filter_nil, List.elem_eq_mem, hmem,
          decide_true, Bool.not_true, Bool.false_eq_true, if_false]
      rw [if_pos (List.mem_eraseDups.mpr hmem), change_map fun _ => rfl, List.map_singleton, hnone,
        List.eraseDups_nil, List.append_nil]
      apply List.map_congr_left
      intro base _
      rw [hsharing]
      split <;> simp [ReplicaCount.offer]
    · -- the device is new, and no earlier candidate belongs to it
      have hone : List.removeAll [DeviceId.base id] (pool.map DeviceId.base) =
          [DeviceId.base id] := by
        simp only [List.removeAll, List.filter_cons, List.filter_nil, List.elem_eq_mem, hmem,
          decide_false, Bool.not_false, if_true]
      have hnew : sharing (DeviceId.base id) pool = 0 := by
        rw [sharing, List.countP_eq_zero]
        intro other hother hbase
        exact hmem (List.mem_map.mpr ⟨other, hother, by simpa using hbase⟩)
      rw [if_neg fun h => hmem (List.mem_eraseDups.mp h), List.map_singleton, hone,
        List.map_append]
      congr 1
      · apply List.map_congr_left
        intro base hbase
        have hne : base ≠ DeviceId.base id :=
          fun e => hmem (e ▸ List.mem_eraseDups.mp hbase)
        rw [hsharing, if_neg hne, Nat.add_zero]
      · simp [hsharing, hnew, List.eraseDups_cons]

theorem foldl_list (devices : List Device) (total : DeviceId → Nat) (available : DeviceId → Int) :
    devices.foldl (fun accounting device => Accounting.change .list device.base accounting)
        (bases.map fun base => ⟨base, total base, available base⟩) =
      bases.map fun base =>
        ⟨base, total base + devices.countP fun device => device.base = base, available base⟩ := by
  -- the totals change under the fold, so the induction is for any of them
  induction devices generalizing total with
  | nil => rfl
  | cons device devices ih =>
    have hstep : Accounting.change .list device.base
        (bases.map fun base => ⟨base, total base, available base⟩) =
          bases.map fun base => ⟨base, total base + if base = device.base then 1 else 0,
            available base⟩ := by
      rw [change_map fun _ => rfl]
      apply List.map_congr_left
      intro base _
      split <;> simp [ReplicaCount.list]
    rw [List.foldl_cons, hstep, ih]
    apply List.map_congr_left
    intro base _
    rw [List.countP_cons, Nat.add_assoc, Nat.add_comm (ite _ _ _)]
    simp only [decide_eq_true_eq, @eq_comm _ base]

/-- The counts that the picking loop starts from, one for each physical device of a candidate in the
order in which the candidates first name them. -/
theorem ofCandidates_eq_ledger (inventory : DeviceSet) (pool : List DeviceId) :
    Accounting.ofCandidates inventory pool =
      ledger inventory (pool.map DeviceId.base).eraseDups pool := by
  rw [Accounting.ofCandidates, foldl_offer, foldl_list inventory.devices (fun _ => 0)]
  simp only [ledger, DeviceSet.sharing, Nat.zero_add]

/-! ### The picks -/

/-- The picks when the devices that are not left are counted anew before each of them. -/
def recounted (inventory : DeviceSet) : Nat → List DeviceId → List DeviceId
  | 0, _ => []
  | count + 1, rest =>
    match firstMin? (fun id => (load inventory rest (DeviceId.base id) : Int)) rest with
    | none => []
    | some pick => pick :: recounted inventory count (rest.erase pick)

theorem spread_ledger {count : Nat} (h : Pickable inventory rest)
    (hbases : ∀ id ∈ rest, DeviceId.base id ∈ bases) :
    spread count (ledger inventory bases rest) rest = recounted inventory count rest := by
  induction count generalizing rest with
  | zero => rfl
  | succ count ih =>
    -- the counts score the remaining candidates as a recount does
    have hscore : firstMin? (fun id => (ledger inventory bases rest).used (DeviceId.base id)) rest =
        firstMin? (fun id => (load inventory rest (DeviceId.base id) : Int)) rest := by
      apply firstMax?_congr
      intro id hid
      simp only [used_ledger h (hbases id hid)]
    rw [spread, recounted, hscore]
    cases hpick : firstMin? (fun id => (load inventory rest (DeviceId.base id) : Int)) rest with
    | none => rfl
    | some pick =>
      have hmem : pick ∈ rest := mem_of_firstMax? hpick
      simp only [take_ledger hmem]
      rw [ih (h.erase pick) fun id hid => hbases id (List.mem_of_mem_erase hid)]

/-- The picking loop counts as if it counted anew before each pick. -/
theorem spread_eq_recounted {pool : List DeviceId} (h : Pickable inventory pool) (count : Nat) :
    spread count (Accounting.ofCandidates inventory pool) pool =
      recounted inventory count pool := by
  rw [ofCandidates_eq_ledger]
  apply spread_ledger h
  intro id hid
  exact List.mem_eraseDups.mpr (List.mem_map_of_mem hid)

end Placement

end DeviceAllocation
