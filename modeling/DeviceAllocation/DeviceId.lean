/-! A share of a device is named by the device, the separator `::` and a number. An identifier with
several separators names no share. -/

namespace DeviceAllocation

abbrev DeviceId := String

namespace DeviceId

/-- The number of separators in a text, read from left to right without overlaps. -/
def separatorCount : List Char → Nat
  | ':' :: ':' :: rest => separatorCount rest + 1
  | _ :: rest => separatorCount rest
  | [] => 0

def beforeSeparator : List Char → List Char
  | ':' :: ':' :: _ => []
  | c :: rest => c :: beforeSeparator rest
  | [] => []

/-- The identifier of share number `share` of the device `base`. The number is written out at any
length, though readers know `Text.maxDigits`. -/
def replica (base : DeviceId) (share : Int) : DeviceId :=
  base ++ "::" ++ toString share

def isReplica (id : DeviceId) : Bool :=
  separatorCount id.toList = 1

/-- The identifier of the physical device: of the device that is shared, or of the device itself. -/
def base (id : DeviceId) : DeviceId :=
  if isReplica id then String.ofList (beforeSeparator id.toList) else id

theorem base_of_not_isReplica {id : DeviceId} (h : isReplica id = false) : base id = id := by
  simp [base, h]

end DeviceId

end DeviceAllocation
