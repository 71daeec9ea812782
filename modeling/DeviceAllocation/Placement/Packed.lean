import DeviceAllocation.Placement.Candidates
import DeviceAllocation.Sorting

namespace DeviceAllocation.Placement

/-- The first `size` entries. A negative size counts from the end and names the entries to drop. -/
def cut {α : Type} (size : Int) (xs : List α) : List α :=
  xs.take (if size < 0 then xs.length + size else size).toNat

def packed (inventory : DeviceSet) (request : Request) : Except AllocationError (List DeviceId) :=
  let sorted := sortBy (fun a b => a ≤ b) (candidates inventory request)
  let selected := request.required ++ sorted
  if selected.length < request.size then
    .error (.insufficientDevices request.needed sorted.length)
  else .ok (cut request.size selected)

end DeviceAllocation.Placement
