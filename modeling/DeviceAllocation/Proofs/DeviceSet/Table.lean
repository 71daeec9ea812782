import DeviceAllocation.Proofs.DeviceSet.Operations

/-! Nothing in the shape of a table says that a key is the identifier of the device under it, so its
parts are what is asked for only as long as the two agree. -/

namespace DeviceAllocation.DeviceSet

/-- Devices in order, each under a key. -/
abbrev Table := List (DeviceId × Device)

namespace Table

def keys (table : Table) : List DeviceId :=
  table.map Prod.fst

def devices (table : Table) : List Device :=
  table.map Prod.snd

def get? (table : Table) (key : DeviceId) : Option Device :=
  (Keyed.find? Prod.fst key table).map Prod.snd

/-- Stores devices under their identifiers, one after the other. A device takes the place of one
that is stored under the same key. -/
def ofList (devices : List Device) : Table :=
  Keyed.ofList Prod.fst (devices.map fun device => (device.id, device))

def subset (table : Table) (ids : List DeviceId) : Table :=
  ofList (ids.eraseDups.filterMap table.get?)

def difference (table other : Table) : Table :=
  ofList (devices (table.filter fun entry => entry.1 ∉ other.keys))

def replicate (table : Table) (replicas : Int) : Table :=
  if replicas ≤ 1 then table
  else ofList (table.devices.flatMap fun device => sharesOf device replicas.toNat)

end Table

def table (set : DeviceSet) : Table :=
  set.devices.map fun device => (device.id, device)

@[simp]
theorem keys_table (set : DeviceSet) : set.table.keys = set.ids := by
  rw [Table.keys, table, List.map_map]
  rfl

@[simp]
theorem devices_table (set : DeviceSet) : set.table.devices = set.devices := by
  rw [Table.devices, table, List.map_map]
  exact List.map_id set.devices

@[simp]
theorem get?_table (set : DeviceSet) (key : DeviceId) : set.table.get? key = set.get? key := by
  rw [Table.get?, Keyed.find?, table, List.find?_map, Option.map_map]
  exact Option.map_id_apply

/-! ### One step -/

theorem table_ofList (devices : List Device) : Table.ofList devices = (ofList devices).table :=
  Keyed.ofList_map Prod.fst (fun device : Device => (device.id, device)) devices

theorem subset_eraseDups (set : DeviceSet) (ids : List DeviceId) :
    set.subset ids.eraseDups = set.subset ids := by
  apply IsPart.eq_of_ids_eq (isPart_subset set ids.eraseDups) (isPart_subset set ids)
  have honce := eraseDups_of_nodup (nodup_eraseDups ids)
  rw [ids_subset, ids_subset, eraseDups_filter, eraseDups_filter, honce]

theorem subset_table (set : DeviceSet) (ids : List DeviceId) :
    set.table.subset ids = (set.subset ids).table := by
  -- a look-up by key is one by identifier, and repeats may go before it or after it
  have hfound : set.table.get? = set.get? := funext (get?_table set)
  calc set.table.subset ids
      = (ofList (ids.eraseDups.filterMap set.get?)).table := by
        rw [Table.subset, hfound, table_ofList]
    _ = (set.subset ids).table := by
        rw [← subset_eraseDups set ids]
        rfl

theorem difference_table (set other : DeviceSet) :
    set.table.difference other.table = (set.difference other).table := by
  have hkept : Table.devices (set.table.filter fun entry => entry.1 ∉ other.table.keys) =
      (set.difference other).devices := by
    rw [keys_table, table, List.filter_map]
    exact devices_table (set.difference other)
  -- what is kept has distinct identifiers, so nothing moves when it is stored anew
  have hstored : ofList (set.difference other).devices = set.difference other := by
    apply DeviceSet.ext
    exact Keyed.ofList_of_nodup (set.difference other).distinct
  rw [Table.difference, hkept, table_ofList, hstored]

theorem replicate_table (set : DeviceSet) (replicas : Int) :
    set.table.replicate replicas = (set.replicate replicas).table := by
  rw [Table.replicate, replicate, shares?]
  split
  · rfl
  · rw [devices_table, table_ofList]
    rfl

/-! ### Any number of steps -/

inductive Origin where
  | listed (devices : List Device)
  | subset (whole : Origin) (ids : List DeviceId)
  | difference (whole other : Origin)
  | replicate (whole : Origin) (replicas : Int)

namespace Origin

def set : Origin → DeviceSet
  | listed devices => .ofList devices
  | subset whole ids => whole.set.subset ids
  | difference whole other => whole.set.difference other.set
  | replicate whole replicas => whole.set.replicate replicas

/-- The table that comes about by the same steps. -/
def table : Origin → Table
  | listed devices => .ofList devices
  | subset whole ids => whole.table.subset ids
  | difference whole other => whole.table.difference other.table
  | replicate whole replicas => whole.table.replicate replicas

theorem table_eq (origin : Origin) : origin.table = origin.set.table := by
  induction origin with
  | listed devices => exact table_ofList devices
  | subset whole ids ih => rw [table, ih, subset_table, set]
  | difference whole other ih ih' => rw [table, ih, ih', difference_table, set]
  | replicate whole replicas ih => rw [table, ih, replicate_table, set]

end Origin

/-- What is asked for once and taken off again: the rest stands in the order in which it is asked
for, each device once. -/
theorem ids_difference_subset (set : DeviceSet) (wanted unwanted : List DeviceId) :
    ((set.subset wanted).difference (set.subset unwanted)).ids =
      wanted.eraseDups.filter fun id => id ∈ set ∧ id ∉ unwanted := by
  have hunwanted (id : DeviceId) : id ∈ set.subset unwanted ↔ id ∈ unwanted ∧ id ∈ set := by
    rw [mem_iff, ids_subset, List.mem_eraseDups, List.mem_filter, decide_eq_true_eq]
  rw [ids_difference, ids_subset, eraseDups_filter, List.filter_filter]
  apply List.filter_congr
  intro id _
  by_cases hid : id ∈ set <;> simp [hid, hunwanted]

/-- Keys and identifiers agree in every table that comes about by listing, taking parts and
replicating in any order. The keys are distinct, each is the identifier of the device under it, and
the devices are those of the set that comes about in the same way. In a listed table the keys stand
in the order of their first occurrences, each with the last device that is given with this
identifier. What is asked for of such a table, less what is asked for another time, is what is in
the table and not asked for the other time, each device once, in the order of the first question. -/
theorem tables_keep_identifiers (origin : Origin) :
    origin.table.keys.Nodup ∧
    (∀ entry ∈ origin.table, entry.1 = entry.2.id) ∧
    origin.table.keys = origin.set.ids ∧ origin.table.devices = origin.set.devices ∧
    (∀ devices : List Device,
      (Origin.listed devices).table.keys = (devices.map Device.id).eraseDups ∧
      ∀ id, (Origin.listed devices).table.get? id =
        devices.reverse.find? fun device => device.id = id) ∧
    ∀ wanted unwanted : List DeviceId,
      ((origin.table.subset wanted).difference (origin.table.subset unwanted)).keys =
          wanted.eraseDups.filter (fun id => id ∈ origin.table.keys ∧ id ∉ unwanted) ∧
        ((origin.set.subset wanted).difference (origin.set.subset unwanted)).ids =
          wanted.eraseDups.filter fun id => id ∈ origin.set ∧ id ∉ unwanted := by
  have hkeys : origin.table.keys = origin.set.ids := by
    rw [origin.table_eq, keys_table]
  refine ⟨?_, ?_, hkeys, ?_, ?_, ?_⟩
  · rw [hkeys]
    exact origin.set.nodup_ids
  · intro entry hentry
    rw [origin.table_eq] at hentry
    obtain ⟨device, -, rfl⟩ := List.mem_map.mp hentry
    rfl
  · rw [origin.table_eq, devices_table]
  · intro devices
    rw [Origin.table_eq, keys_table, Origin.set]
    refine ⟨ids_ofList devices, ?_⟩
    intro id
    rw [get?_table]
    exact Keyed.find?_ofList Device.id id devices
  · intro wanted unwanted
    have hset := ids_difference_subset origin.set wanted unwanted
    refine ⟨?_, hset⟩
    rw [hkeys, origin.table_eq, subset_table, subset_table, difference_table, keys_table]
    exact hset

/-- The shares of two devices, of which the first is listed again with another index, less one share
of it. -/
def sharesLessOne : Origin :=
  .difference (.replicate (.listed [⟨"a", "0"⟩, ⟨"b", "1"⟩, ⟨"a", "2"⟩]) 2)
    (.listed [⟨"a::0", "7"⟩])

/-- The first device keeps its place and has its last index. A share that is asked for twice is
listed once, and one that was taken off is not listed. -/
theorem shares_less_one_keep_identifiers :
    sharesLessOne.table =
      [("a::1", ⟨"a::1", "2"⟩), ("b::0", ⟨"b::0", "1"⟩), ("b::1", ⟨"b::1", "1"⟩)] ∧
    ("a::1", ⟨"a::1", "2"⟩) ∈ sharesLessOne.table ∧
    ("a::1", (⟨"a::1", "2"⟩ : Device)).1 = ("a::1", (⟨"a::1", "2"⟩ : Device)).2.id ∧
    sharesLessOne.table.keys.Nodup ∧
    sharesLessOne.set.ids = ["a::1", "b::0", "b::1"] ∧
    ((sharesLessOne.set.subset ["b::1", "a::0", "a::1", "b::1"]).difference
      (sharesLessOne.set.subset ["b::0", "a::1"])).ids = ["b::1"] := by
  obtain ⟨hnodup, hsame, hkeys, -, -, hparts⟩ := tables_keep_identifiers sharesLessOne
  have htable : sharesLessOne.table =
      [("a::1", ⟨"a::1", "2"⟩), ("b::0", ⟨"b::0", "1"⟩), ("b::1", ⟨"b::1", "1"⟩)] := by
    decide +kernel
  have hmem : ("a::1", ⟨"a::1", "2"⟩) ∈ sharesLessOne.table := by
    rw [htable]
    exact List.mem_cons_self
  have hids : sharesLessOne.set.ids = ["a::1", "b::0", "b::1"] := by
    rw [← hkeys, htable]
    rfl
  have hleft := (hparts ["b::1", "a::0", "a::1", "b::1"] ["b::0", "a::1"]).2
  refine ⟨htable, hmem, hsame _ hmem, hnodup, hids, ?_⟩
  rw [hleft]
  decide +kernel

end DeviceAllocation.DeviceSet
