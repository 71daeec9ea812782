import DeviceAllocation.DeviceSet
import DeviceAllocation.Request

namespace DeviceAllocation.Placement

/-- The devices that may be picked beside the required ones. -/
def candidates (inventory : DeviceSet) (request : Request) : List DeviceId :=
  ((inventory.subset request.available).difference (inventory.subset request.required)).ids

/-- Candidates are the devices of the inventory that are available and not required, each once, in
the order of the available list. -/
theorem candidates_eq (inventory : DeviceSet) (request : Request) :
    candidates inventory request =
      (request.available.filter (· ∈ inventory)).eraseDups.filter fun id =>
        ¬ (id ∈ inventory ∧ id ∈ request.required) := by
  rw [candidates, DeviceSet.ids_difference, DeviceSet.ids_subset]
  apply List.filter_congr
  intro id _
  have hmem : id ∈ inventory.subset request.required ↔
      id ∈ inventory ∧ id ∈ request.required := by
    rw [DeviceSet.mem_iff, DeviceSet.ids_subset, List.mem_eraseDups, List.mem_filter, and_comm]
    simp
  simp [hmem]

theorem mem_candidates {inventory : DeviceSet} {request : Request} {id : DeviceId} :
    id ∈ candidates inventory request ↔
      id ∈ inventory ∧ id ∈ request.available ∧ id ∉ request.required := by
  rw [candidates_eq, List.mem_filter, List.mem_eraseDups, List.mem_filter]
  simp only [decide_eq_true_eq]
  constructor
  · rintro ⟨⟨ha, hi⟩, hn⟩
    exact ⟨hi, ha, fun hr => hn ⟨hi, hr⟩⟩
  · rintro ⟨hi, ha, hn⟩
    exact ⟨⟨ha, hi⟩, fun h => hn h.2⟩

theorem nodup_candidates (inventory : DeviceSet) (request : Request) :
    (candidates inventory request).Nodup :=
  DeviceSet.nodup_ids _

end DeviceAllocation.Placement
