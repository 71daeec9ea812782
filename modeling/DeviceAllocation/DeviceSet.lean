import DeviceAllocation.DeviceId
import DeviceAllocation.Keyed
import DeviceAllocation.Text.Quoted

/-! The inventory. When a list names a device twice, the first place and the last index count. -/

namespace DeviceAllocation

/-- One allocatable device. Its index is `"0"` for a whole device and `"0:1"` for an instance that
was partitioned off in hardware. -/
structure Device where
  id : DeviceId
  index : String
  deriving DecidableEq, Repr

namespace Device

def isPartition (device : Device) : Bool :=
  ':' ∈ device.index.toList

def base (device : Device) : DeviceId :=
  DeviceId.base device.id

end Device

/-- Devices with distinct identifiers, in order. -/
@[ext]
structure DeviceSet where
  devices : List Device
  distinct : (devices.map Device.id).Nodup
  deriving DecidableEq

namespace DeviceSet

def ofList (devices : List Device) : DeviceSet :=
  ⟨Keyed.ofList Device.id devices, Keyed.nodup_ofList Device.id devices⟩

def empty : DeviceSet := ⟨[], by simp⟩

def ids (set : DeviceSet) : List DeviceId :=
  set.devices.map Device.id

def size (set : DeviceSet) : Nat :=
  set.devices.length

def get? (set : DeviceSet) (id : DeviceId) : Option Device :=
  Keyed.find? Device.id id set.devices

instance : Membership DeviceId DeviceSet := ⟨fun set id => id ∈ set.ids⟩

instance (id : DeviceId) (set : DeviceSet) : Decidable (id ∈ set) :=
  inferInstanceAs (Decidable (id ∈ set.ids))

def hasPartitions (set : DeviceSet) : Bool :=
  set.devices.any Device.isPartition

/-- The devices with the given identifiers, in the order of these. Unknown identifiers are skipped
and repeated ones count once. -/
def subset (set : DeviceSet) (ids : List DeviceId) : DeviceSet :=
  ofList (ids.filterMap set.get?)

def difference (set other : DeviceSet) : DeviceSet :=
  ⟨set.devices.filter fun device => device.id ∉ other,
    (List.filter_sublist.map Device.id).nodup set.distinct⟩

def sharesOf (device : Device) (count : Nat) : List Device :=
  (List.range count).map fun (share : Nat) => { device with id := DeviceId.replica device.id share }

/-- The set in which every device is replaced by `replicas` shares of it. There is none when devices
stay whole, for one replica or less. -/
def shares? (set : DeviceSet) (replicas : Int) : Option DeviceSet :=
  if replicas ≤ 1 then none
  else some (ofList (set.devices.flatMap fun device => sharesOf device replicas.toNat))

def replicate (set : DeviceSet) (replicas : Int) : DeviceSet :=
  (set.shares? replicas).getD set

def sameDevices (set other : DeviceSet) : Bool :=
  set.size = other.size && set.devices.all fun device => other.get? device.id = some device

def describe (set : DeviceSet) : String :=
  "DeviceSet(" ++ Text.quoteList set.ids ++ ")"

theorem mem_iff {set : DeviceSet} {id : DeviceId} : id ∈ set ↔ id ∈ set.ids := Iff.rfl

theorem nodup_ids (set : DeviceSet) : set.ids.Nodup := set.distinct

/-- The identifiers of a listed set in the order of their first occurrences. -/
theorem ids_ofList (devices : List Device) :
    (ofList devices).ids = (devices.map Device.id).eraseDups :=
  Keyed.map_ofList Device.id devices

theorem id_of_get? {set : DeviceSet} {id : DeviceId} {device : Device}
    (h : set.get? id = some device) : device.id = id :=
  Keyed.key_of_find? h

theorem isSome_get? {set : DeviceSet} {id : DeviceId} : (set.get? id).isSome ↔ id ∈ set :=
  Keyed.isSome_find?

theorem map_id_filterMap_get? (set : DeviceSet) (ids : List DeviceId) :
    (ids.filterMap set.get?).map Device.id = ids.filter (· ∈ set) := by
  induction ids with
  | nil => rfl
  | cons id rest ih =>
    cases h : set.get? id with
    | none =>
      have hn : id ∉ set := by
        rw [← isSome_get?, h]
        simp
      simp [h, hn, ih]
    | some device =>
      have hm : id ∈ set := isSome_get?.1 (by simp [h])
      simp [h, hm, ih, id_of_get? h]

/-- The identifiers of a subset, each once, in the order in which they are asked for. -/
theorem ids_subset (set : DeviceSet) (ids : List DeviceId) :
    (set.subset ids).ids = (ids.filter (· ∈ set)).eraseDups := by
  rw [subset, ids_ofList, map_id_filterMap_get?]

/-- The difference keeps the order of the identifiers that it does not drop. -/
theorem ids_difference (set other : DeviceSet) :
    (set.difference other).ids = set.ids.filter fun id => id ∉ other := by
  simp [difference, ids, List.filter_map, Function.comp_def]

theorem replicate_of_le_one (set : DeviceSet) {replicas : Int} (h : replicas ≤ 1) :
    set.replicate replicas = set := by
  simp [replicate, shares?, h]

end DeviceSet

end DeviceAllocation
