import DeviceAllocation.DeviceSet

namespace DeviceAllocation.Placement

/-- The replicas of one physical device: all of them, and those that can still be picked. -/
structure ReplicaCount where
  base : DeviceId
  total : Nat
  available : Int
  deriving DecidableEq, Repr

namespace ReplicaCount

def used (count : ReplicaCount) : Int :=
  count.total - count.available

def offer (count : ReplicaCount) : ReplicaCount :=
  { count with available := count.available + 1 }

def take (count : ReplicaCount) : ReplicaCount :=
  { count with available := count.available - 1 }

def list (count : ReplicaCount) : ReplicaCount :=
  { count with total := count.total + 1 }

end ReplicaCount

abbrev Accounting := List ReplicaCount

namespace Accounting

def count? (accounting : Accounting) (base : DeviceId) : Option ReplicaCount :=
  Keyed.find? ReplicaCount.base base accounting

def change (f : ReplicaCount → ReplicaCount) (base : DeviceId) (accounting : Accounting) :
    Accounting :=
  accounting.map fun count => if count.base = base then f count else count

def used (accounting : Accounting) (base : DeviceId) : Int :=
  ((accounting.count? base).map ReplicaCount.used).getD 0

/-- Enters one candidate, opening a count for its device when there is none. -/
def offer (accounting : Accounting) (candidate : DeviceId) : Accounting :=
  let base := DeviceId.base candidate
  if base ∈ accounting.map ReplicaCount.base then accounting.change .offer base
  else accounting ++ [⟨base, 0, 1⟩]

def take (accounting : Accounting) (candidate : DeviceId) : Accounting :=
  accounting.change .take (DeviceId.base candidate)

/-- The counts of every device that a candidate belongs to, over the whole inventory. -/
def ofCandidates (inventory : DeviceSet) (candidates : List DeviceId) : Accounting :=
  let offered := candidates.foldl offer []
  inventory.devices.foldl (fun accounting device => accounting.change .list device.base) offered

end Accounting

end DeviceAllocation.Placement
