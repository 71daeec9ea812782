import DeviceAllocation.Proofs.Placement.RoundRobin
import DeviceAllocation.Proofs.Refusal

namespace DeviceAllocation

open Placement

namespace Placement.SharedAnew

variable {inventory : DeviceSet} {ids available : List DeviceId} {id name : DeviceId} {count : ℕ}

theorem exists_replica (h : SharedAnew inventory ids count) (hname : name ∈ inventory.ids) :
    ∃ id ∈ ids, ∃ share : ℕ, name = DeviceId.replica id share := by
  rw [h.listed] at hname
  obtain ⟨id, hid, hname⟩ := List.mem_flatMap.mp hname
  obtain ⟨share, -, rfl⟩ := DeviceId.mem_replicas.mp hname
  exact ⟨id, hid, share, rfl⟩

theorem isReplica_of_mem (h : SharedAnew inventory ids count) (hname : name ∈ inventory.ids) :
    DeviceId.isReplica name := by
  obtain ⟨id, hid, share, rfl⟩ := h.exists_replica hname
  exact DeviceId.isReplica_replica (h.plain id hid) share

theorem base_mem (h : SharedAnew inventory ids count) (hname : name ∈ inventory.ids) :
    DeviceId.base name ∈ ids := by
  obtain ⟨id, hid, share, rfl⟩ := h.exists_replica hname
  rwa [DeviceId.base_replica (h.plain id hid)]

theorem sharing_eq (h : SharedAnew inventory ids count) (hid : id ∈ ids) :
    inventory.sharing id = count := by
  have hplain := h.plain
  have hdistinct := h.distinct
  -- the replicas of a device stand together, and those before and behind are of other devices
  obtain ⟨front, back, rfl⟩ := List.append_of_mem hid
  have hfront : id ∉ front := notMem_front_of_nodup hdistinct
  have hback : id ∉ back := by
    have hothers := (List.nodup_cons.mp (List.nodup_middle.mp hdistinct)).1
    exact fun hmem => hothers (List.mem_append_right front hmem)
  have hbefore : sharing id (front.flatMap (DeviceId.replicas count)) = 0 := by
    apply sharing_replicas_of_notMem _ hfront
    intro other hother
    exact hplain other (List.mem_append_left _ hother)
  have hafter : sharing id (back.flatMap (DeviceId.replicas count)) = 0 := by
    apply sharing_replicas_of_notMem _ hback
    intro other hother
    exact hplain other (List.mem_append_right front (List.mem_cons_of_mem id hother))
  calc inventory.sharing id
      = sharing id inventory.ids := (sharing_ids inventory id).symm
    _ = sharing id (front.flatMap (DeviceId.replicas count)) +
          (sharing id (DeviceId.replicas count id) +
            sharing id (back.flatMap (DeviceId.replicas count))) := by
        rw [h.listed, List.flatMap_append, List.flatMap_cons, sharing, List.countP_append,
          List.countP_append]
        rfl
    _ = count := by rw [hbefore, hafter, sharing_replicas (hplain id hid), Nat.zero_add,
          Nat.add_zero]

theorem shared_of_offered (h : SharedAnew inventory ids count)
    (hoffered : ∃ id ∈ available, id ∈ inventory) : Shared inventory available := by
  obtain ⟨id, hid, hknown⟩ := hoffered
  exact Or.inr ⟨id, hid, h.isReplica_of_mem hknown⟩

end Placement.SharedAnew

theorem classify_ne_aligned {inventory : DeviceSet} {available : List DeviceId}
    (h : Shared inventory available) (strategy : Strategy) :
    classify inventory available strategy ≠ .ok .aligned := by
  rw [Selector.classify_of_shared h]
  cases strategy with
  | none => exact nofun
  | packed => exact nofun
  | distributed => exact nofun

/-- Replicating loses no device and merges none. A set of replicas holds so many times as many
devices, listed by device and then by number, all under distinct names and with the index of their
device, so hardware partitions are among them exactly if there were some before. Where the names of
the devices are plain, all names are those of replicas, every device is told to have so many of
them, and no other device is told to have any. So no request that offers one of them is taken for
one for whole GPUs, and without a sharing strategy it is refused. -/
theorem replicate_keeps_devices_apart (set : DeviceSet) (replicas : Int)
    (hreplicas : 2 ≤ replicas) :
    ((set.replicate replicas).size : Int) = replicas * set.size ∧
    (set.replicate replicas).ids = set.ids.flatMap (DeviceId.replicas replicas.toNat) ∧
    (set.ids.flatMap (DeviceId.replicas replicas.toNat)).Nodup ∧
    (set.replicate replicas).devices = (set.devices.flatMap fun device =>
      (List.range replicas.toNat).map fun (share : ℕ) =>
        ⟨DeviceId.replica device.id share, device.index⟩) ∧
    (set.replicate replicas).hasPartitions = set.hasPartitions ∧
    ((∀ id ∈ set.ids, DeviceId.Plain id.toList) →
      (∀ id ∈ (set.replicate replicas).ids, DeviceId.isReplica id) ∧
      (∀ id ∈ set.ids, (set.replicate replicas).devices.countP (fun device => device.base = id) =
        replicas.toNat) ∧
      (∀ device ∈ (set.replicate replicas).devices, device.base ∈ set.ids) ∧
      ∀ available : List DeviceId, (∃ id ∈ available, id ∈ set.replicate replicas) →
        (∀ strategy, classify (set.replicate replicas) available strategy ≠ .ok .aligned) ∧
        classify (set.replicate replicas) available .none = .error .noValidPolicy) := by
  refine ⟨set.size_replicate hreplicas, set.ids_replicate hreplicas,
    DeviceId.nodup_flatMap_replicas set.nodup_ids _, set.devices_replicate hreplicas,
    set.hasPartitions_replicate hreplicas, ?_⟩
  intro hplain
  have hanew := sharedAnew_replicate hreplicas hplain
  refine ⟨fun id hid => hanew.isReplica_of_mem hid, fun id hid => hanew.sharing_eq hid, ?_, ?_⟩
  · intro device hdevice
    exact hanew.base_mem (List.mem_map_of_mem hdevice)
  · intro available hoffered
    have hshared := hanew.shared_of_offered hoffered
    exact ⟨classify_ne_aligned hshared, Selector.classify_of_shared hshared⟩

/-- Three shares of each device whose name has a single colon, one of them offered beside an
unknown device. -/
theorem replicate_colons_keeps_devices_apart :
    (2 : Int) ≤ 3 ∧ (∀ id ∈ colonDevices.ids, DeviceId.Plain id.toList) ∧
    (∃ id ∈ ["x", "gpu2::2"], id ∈ colonDevices.replicate 3) ∧
    ((colonDevices.replicate 3).size : Int) = 3 * colonDevices.size ∧
    (∀ id ∈ (colonDevices.replicate 3).ids, DeviceId.isReplica id) ∧
    (∀ id ∈ colonDevices.ids,
      (colonDevices.replicate 3).devices.countP (fun device => device.base = id) = 3) ∧
    (∀ strategy, classify (colonDevices.replicate 3) ["x", "gpu2::2"] strategy ≠ .ok .aligned) ∧
    classify (colonDevices.replicate 3) ["x", "gpu2::2"] .none = .error .noValidPolicy := by
  have hplain : ∀ id ∈ colonDevices.ids, DeviceId.Plain id.toList := by
    decide +kernel
  have hoffered : ∃ id ∈ ["x", "gpu2::2"], id ∈ colonDevices.replicate 3 := by
    decide +kernel
  obtain ⟨hsize, -, -, -, -, hnames⟩ :=
    replicate_keeps_devices_apart colonDevices 3 (by decide)
  obtain ⟨hreplicas, hcount, -, hclassify⟩ := hnames hplain
  exact ⟨by decide, hplain, hoffered, hsize, hreplicas, hcount, hclassify _ hoffered⟩

example : ((DeviceSet.ofList [⟨"a", "0"⟩, ⟨"a:", "1"⟩, ⟨"a::0", "0:1"⟩]).replicate 2).ids =
    ["a::0", "a::1", "a:::0", "a:::1", "a::0::0", "a::0::1"] := by
  decide +kernel

end DeviceAllocation
