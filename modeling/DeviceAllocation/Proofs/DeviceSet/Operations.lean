import DeviceAllocation.Proofs.DeviceSet

namespace DeviceAllocation.DeviceSet

variable {whole part other set : DeviceSet} {replicas : Int} {ids : List DeviceId}

/-! ### Parts of a set -/

def IsPart (part whole : DeviceSet) : Prop :=
  ∀ device ∈ part.devices, device ∈ whole.devices

theorem IsPart.eq_of_ids_eq (hpart : IsPart part whole) (hother : IsPart other whole)
    (hids : part.ids = other.ids) : part = other := by
  -- within the whole set a device is told by its identifier
  have htold := List.inj_on_of_nodup_map whole.distinct
  apply DeviceSet.ext
  apply List.ext_getElem?
  intro position
  have hsame := congrArg (·[position]?) hids
  simp only [DeviceSet.ids, List.getElem?_map] at hsame
  cases hleft : part.devices[position]? with
  | none =>
    rw [hleft] at hsame
    exact (Option.map_eq_none_iff.mp hsame.symm).symm
  | some device =>
    rw [hleft] at hsame
    obtain ⟨twin, htwin, hid⟩ := Option.map_eq_some_iff.mp hsame.symm
    have hdevice := hpart device (List.mem_of_getElem? hleft)
    have hmem := hother twin (List.mem_of_getElem? htwin)
    rw [htwin, htold hmem hdevice hid]

theorem isPart_difference (set other : DeviceSet) : IsPart (set.difference other) set :=
  fun _ hdevice => List.mem_of_mem_filter hdevice

theorem isPart_subset (set : DeviceSet) (ids : List DeviceId) : IsPart (set.subset ids) set := by
  intro device hdevice
  obtain ⟨id, -, hfound⟩ := List.mem_filterMap.mp (Keyed.mem_of_mem_ofList hdevice)
  exact Keyed.mem_of_find? hfound

theorem IsPart.replicate (h : IsPart part whole) (hreplicas : 2 ≤ replicas) :
    IsPart (part.replicate replicas) (whole.replicate replicas) := by
  intro share hshare
  rw [devices_replicate part hreplicas] at hshare
  obtain ⟨device, hdevice, hof⟩ := List.mem_flatMap.mp hshare
  rw [devices_replicate whole hreplicas]
  exact List.mem_flatMap.mpr ⟨device, h device hdevice, hof⟩

/-! ### Names in a replicated set -/

theorem mem_replicate_iff (hreplicas : 2 ≤ replicas) {id name : DeviceId}
    (hname : name ∈ DeviceId.replicas replicas.toNat id) :
    name ∈ set.replicate replicas ↔ id ∈ set := by
  rw [mem_iff, mem_iff, ids_replicate set hreplicas, List.mem_flatMap]
  constructor
  · rintro ⟨base, hbase, hof⟩
    obtain ⟨share, -, rfl⟩ := DeviceId.mem_replicas.mp hname
    obtain ⟨number, -, hsame⟩ := DeviceId.mem_replicas.mp hof
    rwa [← (DeviceId.replica_injective hsame).1]
  · exact fun hid => ⟨id, hid, hname⟩

theorem disjoint_replicas (count : ℕ) {base base' : DeviceId} (h : base ≠ base') :
    (DeviceId.replicas count base).Disjoint (DeviceId.replicas count base') := by
  intro name hname hname'
  obtain ⟨share, -, rfl⟩ := DeviceId.mem_replicas.mp hname
  obtain ⟨number, -, hsame⟩ := DeviceId.mem_replicas.mp hname'
  exact h (DeviceId.replica_injective hsame).1.symm

theorem replicate_difference (set other : DeviceSet) (replicas : Int) :
    (set.difference other).replicate replicas =
      (set.replicate replicas).difference (other.replicate replicas) := by
  by_cases hone : replicas ≤ 1
  · rw [replicate_of_le_one _ hone, replicate_of_le_one _ hone, replicate_of_le_one _ hone]
  have htwo : 2 ≤ replicas := by omega
  apply IsPart.eq_of_ids_eq ((isPart_difference set other).replicate htwo)
    (isPart_difference _ _)
  rw [ids_replicate _ htwo, ids_difference, ids_difference, ids_replicate set htwo]
  symm
  apply filter_flatMap_of_blocks
  intro id _ name hname
  rw [decide_eq_decide, mem_replicate_iff htwo hname]

theorem replicate_subset (set : DeviceSet) (ids : List DeviceId) (htwo : 2 ≤ replicas) :
    (set.subset ids).replicate replicas =
      (set.replicate replicas).subset (ids.flatMap (DeviceId.replicas replicas.toNat)) := by
  apply IsPart.eq_of_ids_eq ((isPart_subset set ids).replicate htwo) (isPart_subset _ _)
  have hknown : (ids.flatMap (DeviceId.replicas replicas.toNat)).filter
        (· ∈ set.replicate replicas) =
      (ids.filter (· ∈ set)).flatMap (DeviceId.replicas replicas.toNat) := by
    apply filter_flatMap_of_blocks
    intro id _ name hname
    rw [decide_eq_decide, mem_replicate_iff htwo hname]
  have hrepeats := eraseDups_flatMap (DeviceId.nodup_replicas replicas.toNat)
    (fun _ _ => disjoint_replicas replicas.toNat) (ids.filter (· ∈ set))
  rw [ids_replicate _ htwo, ids_subset, ids_subset, hknown, hrepeats]

/-- Devices may be taken away, or asked for, before the rest is replicated: it comes to the same as
to replicate all of them and to take away, or ask for, their replicas. -/
theorem replicate_commutes_with_parts (set other : DeviceSet) (ids : List DeviceId)
    (replicas : Int) :
    (set.difference other).replicate replicas =
        (set.replicate replicas).difference (other.replicate replicas) ∧
      (2 ≤ replicas → (set.subset ids).replicate replicas =
        (set.replicate replicas).subset
          (ids.flatMap fun id => (List.range replicas.toNat).map fun share =>
            DeviceId.replica id (share : ℕ))) :=
  ⟨replicate_difference set other replicas, fun htwo => replicate_subset set ids htwo⟩

/-- Devices that are called like a replica of another one, and like one that is only half named. -/
def nestedDevices : DeviceSet := .ofList [⟨"a", "0"⟩, ⟨"a::0", "0:1"⟩, ⟨"a:", "1"⟩]

/-- One of the devices is asked for twice, beside an unknown one. -/
theorem nested_replicate_commutes_with_parts :
    (2 : Int) ≤ 2 ∧
    ((nestedDevices.difference (.ofList [⟨"a", "7"⟩])).replicate 2).ids =
      ["a::0::0", "a::0::1", "a:::0", "a:::1"] ∧
    (nestedDevices.difference (.ofList [⟨"a", "7"⟩])).replicate 2 =
      (nestedDevices.replicate 2).difference ((DeviceSet.ofList [⟨"a", "7"⟩]).replicate 2) ∧
    ((nestedDevices.subset ["a:", "b", "a::0", "a:"]).replicate 2).ids =
      ["a:::0", "a:::1", "a::0::0", "a::0::1"] ∧
    (nestedDevices.subset ["a:", "b", "a::0", "a:"]).replicate 2 =
      (nestedDevices.replicate 2).subset
        ["a:::0", "a:::1", "b::0", "b::1", "a::0::0", "a::0::1", "a:::0", "a:::1"] := by
  obtain ⟨hdifference, hsubset⟩ := replicate_commutes_with_parts nestedDevices
    (.ofList [⟨"a", "7"⟩]) ["a:", "b", "a::0", "a:"] 2
  have hnames : (["a:", "b", "a::0", "a:"].flatMap fun id =>
        (List.range (2 : Int).toNat).map fun share => DeviceId.replica id (share : ℕ)) =
      ["a:::0", "a:::1", "b::0", "b::1", "a::0::0", "a::0::1", "a:::0", "a:::1"] := by
    decide +kernel
  have hsubset' := hsubset (by decide)
  rw [hnames] at hsubset'
  exact ⟨by decide, by decide +kernel, hdifference, by decide +kernel, hsubset'⟩

end DeviceAllocation.DeviceSet
