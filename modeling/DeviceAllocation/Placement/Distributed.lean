import DeviceAllocation.Choice
import DeviceAllocation.Placement.Accounting
import DeviceAllocation.Placement.Candidates

namespace DeviceAllocation.Placement

/-- Picks `count` candidates one at a time, each time the first of those whose device has the fewest
replicas taken. -/
def spread : Nat → Accounting → List DeviceId → List DeviceId
  | 0, _, _ => []
  | count + 1, accounting, candidates =>
    match firstMin? (fun candidate => accounting.used (DeviceId.base candidate)) candidates with
    | none => []
    | some pick => pick :: spread count (accounting.take pick) (candidates.erase pick)

def distributed (inventory : DeviceSet) (request : Request) :
    Except AllocationError (List DeviceId) :=
  let pool := candidates inventory request
  if pool.length < request.needed then
    .error (.insufficientDevices request.needed pool.length)
  else
    .ok (request.required ++
      spread request.needed.toNat (Accounting.ofCandidates inventory pool) pool)

end DeviceAllocation.Placement
