import DeviceAllocation.Placement.Candidates
import DeviceAllocation.Proofs.Order

namespace DeviceAllocation.Placement

/-- Distinct devices of the inventory, from which picks are made. -/
structure Pickable (inventory : DeviceSet) (rest : List DeviceId) : Prop where
  nodup : rest.Nodup
  known : ∀ id ∈ rest, id ∈ inventory

namespace Pickable

variable {inventory : DeviceSet} {rest : List DeviceId}

theorem erase (h : Pickable inventory rest) (pick : DeviceId) :
    Pickable inventory (rest.erase pick) :=
  ⟨h.nodup.erase pick, fun id hid => h.known id (List.mem_of_mem_erase hid)⟩

theorem filter (h : Pickable inventory rest) (p : DeviceId → Bool) :
    Pickable inventory (rest.filter p) :=
  ⟨h.nodup.filter p, fun id hid => h.known id (List.mem_of_mem_filter hid)⟩

end Pickable

/-- Candidates are the first occurrences in the available list of what is in the inventory and not
required. -/
theorem candidates_eq_eraseDups (inventory : DeviceSet) (request : Request) :
    candidates inventory request = (request.available.filter fun id =>
      id ∈ inventory ∧ id ∉ request.required).eraseDups := by
  rw [candidates_eq, ← eraseDups_filter, List.filter_filter]
  congr 1
  apply List.filter_congr
  intro id _
  by_cases hid : id ∈ inventory <;> simp [hid]

theorem pickable_candidates (inventory : DeviceSet) (request : Request) :
    Pickable inventory (candidates inventory request) :=
  ⟨nodup_candidates inventory request, fun _ hid => (mem_candidates.mp hid).1⟩

theorem candidates_filter_available (inventory : DeviceSet) (available picked : List DeviceId)
    (size size' : Int) :
    candidates inventory ⟨available.filter (· ∉ picked), [], size⟩ =
      (candidates inventory ⟨available, [], size'⟩).filter (· ∉ picked) := by
  rw [candidates_eq_eraseDups, candidates_eq_eraseDups, ← eraseDups_filter, List.filter_filter,
    List.filter_filter]
  simp only [Bool.and_comm]

theorem candidates_append_required (inventory : DeviceSet)
    (available required picked : List DeviceId) (size size' : Int) :
    candidates inventory ⟨available, required ++ picked, size⟩ =
      (candidates inventory ⟨available, required, size'⟩).filter (· ∉ picked) := by
  rw [candidates_eq_eraseDups, candidates_eq_eraseDups, ← eraseDups_filter, List.filter_filter]
  congr 1
  apply List.filter_congr
  intro id _
  by_cases hpicked : id ∈ picked <;> simp [hpicked]

/-- Three physical devices with two, three and one replicas. -/
def unevenInventory : DeviceSet := .ofList
  [⟨"a::0", "0"⟩, ⟨"a::1", "0"⟩, ⟨"b::0", "1"⟩, ⟨"b::1", "1"⟩, ⟨"b::2", "1"⟩, ⟨"c::0", "2"⟩]

/-- A request that requires one of the replicas and offers the others, one of them twice, beside an
unknown device. -/
def unevenRequest : Request where
  available := ["b::1", "a::1", "b::0", "z::0", "c::0", "b::1", "b::2"]
  required := ["a::0"]
  size := 4

example : candidates unevenInventory unevenRequest =
    ["b::1", "a::1", "b::0", "c::0", "b::2"] := by
  decide +kernel

end DeviceAllocation.Placement
