import DeviceAllocation.Interconnect
import DeviceAllocation.Placement.BestEffort
import DeviceAllocation.Request

namespace DeviceAllocation.Placement

/-- Chooses GPUs by their topology, given the available ones, the required ones and the size. -/
abbrev TopologyAllocator := List Gpu → List Gpu → Int → Except Failure (List Gpu)

def bestEffortAllocator (net : Interconnect) : TopologyAllocator :=
  fun available required size => .ok (bestEffort net available required size)

/-- The GPUs of one list of the request, or a report of the first one that is unknown. -/
def resolveList (net : Interconnect) (which : RequestList) (names : List DeviceId) :
    Except AllocationError (List Gpu) :=
  (net.resolve names).mapError (.invalidDeviceList which)

def aligned (net : Interconnect) (topology : TopologyAllocator) (request : Request) :
    Except Failure (List DeviceId) := do
  let available ← (resolveList net .available request.available).mapError .refused
  let required ← (resolveList net .required request.required).mapError .refused
  let chosen ← topology available required request.size
  return chosen.map Gpu.uuid

end DeviceAllocation.Placement
