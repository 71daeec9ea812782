import DeviceAllocation.Proofs.Placement.Handout
import DeviceAllocation.Proofs.Placement.Ledger

namespace DeviceAllocation.Placement

def firstKnown (inventory : DeviceSet) (available : List DeviceId) : List DeviceId :=
  (available.filter (· ∈ inventory)).eraseDups

variable {inventory other : DeviceSet} {request : Request} {available : List DeviceId}

/-! ### Candidates -/

theorem candidates_eq_filter_firstKnown (inventory : DeviceSet) (request : Request) :
    candidates inventory request =
      (firstKnown inventory request.available).filter (· ∉ request.required) := by
  rw [candidates_eq_eraseDups, firstKnown, ← eraseDups_filter, List.filter_filter]
  congr 1
  apply List.filter_congr
  intro id _
  rw [Bool.decide_and, Bool.and_comm]

theorem mem_iff_of_perm (hids : other.ids.Perm inventory.ids) (id : DeviceId) :
    id ∈ other ↔ id ∈ inventory :=
  hids.mem_iff

theorem firstKnown_of_perm (hids : other.ids.Perm inventory.ids) (available : List DeviceId) :
    firstKnown other available = firstKnown inventory available := by
  simp only [firstKnown, mem_iff_of_perm hids]

theorem firstKnown_insert {id : DeviceId} {front : List DeviceId}
    (h : id ∉ inventory ∨ id ∈ front) (back : List DeviceId) :
    firstKnown inventory (front ++ id :: back) = firstKnown inventory (front ++ back) := by
  rw [firstKnown, firstKnown, List.filter_append, List.filter_append]
  by_cases hid : id ∈ inventory
  · -- a known device counts at its first occurrence, which is in front
    have hfront : id ∈ front.filter (· ∈ inventory) := by
      apply List.mem_filter.mpr
      exact ⟨h.resolve_left (not_not_intro hid), by simpa using hid⟩
    rw [List.filter_cons_of_pos (by simpa using hid), eraseDups_append_cons_of_mem hfront]
  · rw [List.filter_cons_of_neg (by simpa using hid)]

theorem candidates_of_firstKnown (hids : other.ids.Perm inventory.ids)
    (hknown : firstKnown inventory available = firstKnown inventory request.available) :
    candidates other { request with available } = candidates inventory request := by
  rw [candidates_eq_filter_firstKnown, candidates_eq_filter_firstKnown, firstKnown_of_perm hids]
  dsimp only
  rw [hknown]

/-- The candidates of a rearranged list are the same, though in another order. -/
theorem candidates_perm (h : available.Perm request.available) :
    (candidates inventory { request with available }).Perm (candidates inventory request) := by
  have hnodup := nodup_candidates inventory { request with available }
  apply (List.perm_ext_iff_of_nodup hnodup (nodup_candidates inventory request)).mpr
  intro id
  rw [mem_candidates, mem_candidates]
  dsimp only
  rw [h.mem_iff]

/-! ### Outcomes -/

theorem packed_of_perm
    (hpool : (candidates other { request with available }).Perm (candidates inventory request)) :
    packed other { request with available } = packed inventory request := by
  have hsorted : sortBy (fun a b => a ≤ b) (candidates inventory request) =
      sortBy (fun a b => a ≤ b) (candidates other { request with available }) := by
    apply sortBy_eq_of_perm (by simpa using le_total) (by simpa using fun a b c => le_trans) _ hpool
    simpa using fun a _ b _ => le_antisymm
  rw [packed, packed, ← hsorted]
  rfl

theorem ofCandidates_of_perm (hids : other.ids.Perm inventory.ids) (pool : List DeviceId) :
    Accounting.ofCandidates other pool = Accounting.ofCandidates inventory pool := by
  have hsharing (base : DeviceId) : other.sharing base = inventory.sharing base := by
    rw [← sharing_ids, ← sharing_ids]
    exact hids.countP_eq _
  rw [ofCandidates_eq_ledger, ofCandidates_eq_ledger, ledger, ledger]
  simp only [hsharing]

theorem distributed_of_perm (hids : other.ids.Perm inventory.ids)
    (hpool : candidates other { request with available } = candidates inventory request) :
    distributed other { request with available } = distributed inventory request := by
  rw [distributed, distributed, hpool, ofCandidates_of_perm hids]
  rfl

theorem outcome_of_firstKnown {rule : SharingRule} (hrule : rule = packed ∨ rule = distributed)
    (hids : other.ids.Perm inventory.ids)
    (hknown : firstKnown inventory available = firstKnown inventory request.available) :
    rule other { request with available } = rule inventory request := by
  have hpool := candidates_of_firstKnown hids hknown
  rcases hrule with rfl | rfl
  · exact packed_of_perm (hpool ▸ List.Perm.refl _)
  · exact distributed_of_perm hids hpool

/-- Devices that are listed in another order, or with other indexes, make up an inventory of the
same identifiers. -/
theorem ids_ofList_perm {devices listed : List Device}
    (h : (listed.map Device.id).Perm (devices.map Device.id)) :
    (DeviceSet.ofList listed).ids.Perm (DeviceSet.ofList devices).ids := by
  rw [DeviceSet.ids_ofList, DeviceSet.ids_ofList]
  apply (List.perm_ext_iff_of_nodup (nodup_eraseDups _) (nodup_eraseDups _)).mpr
  intro id
  rw [List.mem_eraseDups, List.mem_eraseDups, h.mem_iff]

/-- What the outcome of a sharing policy may depend on. It is the same for any inventory of the same
identifiers and any available list with the same first occurrences of these. So neither the order in
which devices are listed nor their indexes matter, nor do unknown devices or later repeats that are
put into the available list, or dropped from it, at any place. The packed policy does not depend on
the order of the available list either. -/
theorem outcome_depends_on_first_known (rule : SharingRule)
    (hrule : rule = packed ∨ rule = distributed) (inventory : DeviceSet) (request : Request) :
    (∀ (other : DeviceSet) (available : List DeviceId), other.ids.Perm inventory.ids →
      firstKnown inventory available = firstKnown inventory request.available →
      rule other { request with available } = rule inventory request) ∧
    (∀ devices listed : List Device, (listed.map Device.id).Perm (devices.map Device.id) →
      rule (.ofList listed) request = rule (.ofList devices) request) ∧
    (∀ (front back : List DeviceId) (id : DeviceId), id ∉ inventory ∨ id ∈ front →
      rule inventory { request with available := front ++ id :: back } =
        rule inventory { request with available := front ++ back }) ∧
    ∀ available : List DeviceId, available.Perm request.available →
      packed inventory { request with available } = packed inventory request := by
  refine ⟨?_, ?_, ?_, ?_⟩
  · intro other available hids hknown
    exact outcome_of_firstKnown hrule hids hknown
  · intro devices listed h
    exact outcome_of_firstKnown hrule (ids_ofList_perm h) rfl
  · intro front back id hid
    let joined : Request := { request with available := front ++ back }
    have hknown : firstKnown inventory (front ++ id :: back) =
        firstKnown inventory joined.available := firstKnown_insert hid back
    exact outcome_of_firstKnown hrule (List.Perm.refl _) hknown
  · intro available h
    exact packed_of_perm (candidates_perm h)

def turnedDevices : List Device :=
  [⟨"c::0", "7:1"⟩, ⟨"b::2", "0"⟩, ⟨"b::1", ""⟩, ⟨"b::0", "2"⟩, ⟨"a::1", "1"⟩, ⟨"a::0", "0"⟩]

theorem distributed_turned_is_same :
    (distributed = packed ∨ distributed = distributed) ∧
    (turnedDevices.map Device.id).Perm (unevenInventory.devices.map Device.id) ∧
    distributed (.ofList turnedDevices) unevenRequest =
      distributed (.ofList unevenInventory.devices) unevenRequest ∧
    "b::1" ∈ ["b::1", "a::1"] ∧ "y::0" ∉ unevenInventory ∧
    distributed unevenInventory
        { unevenRequest with available := ["b::1", "a::1"] ++ "b::1" :: ["c::0", "b::0"] } =
      distributed unevenInventory
        { unevenRequest with available := ["b::1", "a::1"] ++ ["c::0", "b::0"] } ∧
    distributed unevenInventory
        { unevenRequest with available := ["b::1"] ++ "y::0" :: ["c::0", "b::0"] } =
      distributed unevenInventory
        { unevenRequest with available := ["b::1"] ++ ["c::0", "b::0"] } ∧
    unevenRequest.available.reverse.Perm unevenRequest.available ∧
    packed unevenInventory { unevenRequest with available := unevenRequest.available.reverse } =
      packed unevenInventory unevenRequest := by
  have hlisted : (turnedDevices.map Device.id).Perm (unevenInventory.devices.map Device.id) := by
    decide +kernel
  have hunknown : "y::0" ∉ unevenInventory := by decide +kernel
  have hreversed := List.reverse_perm unevenRequest.available
  obtain ⟨-, hlisting, hinsert, hpacked⟩ := outcome_depends_on_first_known distributed
    (Or.inr rfl) unevenInventory unevenRequest
  exact ⟨Or.inr rfl, hlisted, hlisting _ _ hlisted, by simp, hunknown,
    hinsert _ _ _ (Or.inr (by simp)), hinsert _ _ _ (Or.inl hunknown), hreversed,
    hpacked _ hreversed⟩

/-- The distributed policy does depend on the order of the available list. -/
example : distributed unevenInventory ⟨["b::0", "b::1"], [], 1⟩ ≠
    distributed unevenInventory ⟨["b::1", "b::0"], [], 1⟩ := by
  decide +kernel

end DeviceAllocation.Placement
