import DeviceAllocation.Placement.Aligned
import DeviceAllocation.Placement.Distributed
import DeviceAllocation.Placement.Packed

/-! Whole GPUs are answered by their topology. With hardware partitions or replicas the configured
sharing strategy decides. -/

namespace DeviceAllocation

open Placement

def classify (inventory : DeviceSet) (available : List DeviceId) (strategy : Strategy) :
    Except AllocationError Policy :=
  if !inventory.hasPartitions && !available.any DeviceId.isReplica then .ok .aligned
  else
    match strategy with
    | .packed => .ok .packed
    | .distributed => .ok .distributed
    | .none => .error .noValidPolicy

def Request.missing (request : Request) : List DeviceId :=
  request.required.filter (· ∉ request.available)

/-- What a selector is set up with. A strict one refuses requests whose required devices are not all
available. -/
structure Selector where
  net : Interconnect
  topology : TopologyAllocator
  strict : Bool

namespace Selector

def screen (selector : Selector) (request : Request) : Except AllocationError Unit :=
  if selector.strict ∧ request.missing ≠ [] then .error (.requiredNotAvailable request.missing)
  else .ok ()

def place (selector : Selector) (policy : Policy) (inventory : DeviceSet) (request : Request) :
    Except Failure (List DeviceId) :=
  match policy with
  | .aligned => aligned selector.net selector.topology request
  | .packed => (packed inventory request).mapError .refused
  | .distributed => (distributed inventory request).mapError .refused

def allocate (selector : Selector) (policy : Policy) (inventory : DeviceSet) (request : Request) :
    Except Failure (List DeviceId) :=
  match selector.screen request with
  | .error error => .error (.refused error)
  | .ok () => selector.place policy inventory request

def select (selector : Selector) (inventory : DeviceSet) (strategy : Strategy) (request : Request) :
    Except Failure (List DeviceId) :=
  match classify inventory request.available strategy with
  | .error error => .error (.refused error)
  | .ok policy => selector.allocate policy inventory request

end Selector

end DeviceAllocation
