import DeviceAllocation.DeviceId
import DeviceAllocation.Text.Quoted

/-! Why a request ends without an answer. Numbers in the texts are written out at any length: a
bound on digits (`Text.maxDigits`) is known to readers only. -/

namespace DeviceAllocation

inductive RequestList where
  | available
  | required
  deriving DecidableEq, Repr

def RequestList.name : RequestList → String
  | .available => "available"
  | .required => "required"

/-- A failure outside of the allocation rules. -/
structure Fault where
  kind : String
  -- the module that defines the kind, unless it is built in
  origin : Option String
  message : String
  deriving DecidableEq, Repr

namespace Fault

def missingKey (key : String) : Fault := ⟨"KeyError", none, Text.quote key⟩

def runtime (text : String) : Fault := ⟨"RuntimeError", none, text⟩

def badValue (text : String) : Fault := ⟨"ValueError", none, text⟩

def unknownDevice (id : DeviceId) : Fault :=
  missingKey ("unknown device " ++ Text.quote id)

def qualifiedKind (fault : Fault) : String :=
  match fault.origin with
  | some origin => origin ++ "." ++ fault.kind
  | none => fault.kind

end Fault

inductive AllocationError where
  -- a topology allocator gave up for a reason of its own
  | unspecified (text : String)
  | invalidDeviceList (which : RequestList) (unknown : DeviceId)
  | insufficientDevices (needed : Int) (candidates : Nat)
  | noValidPolicy
  | requiredNotAvailable (missing : List DeviceId)
  deriving DecidableEq, Repr

namespace AllocationError

def kind : AllocationError → String
  | unspecified _ => "AllocationError"
  | invalidDeviceList _ _ => "InvalidDeviceListError"
  | insufficientDevices _ _ => "InsufficientDevicesError"
  | noValidPolicy => "NoValidPolicyError"
  | requiredNotAvailable _ => "RequiredDeviceNotAvailableError"

def message : AllocationError → String
  | unspecified text => text
  | invalidDeviceList which unknown =>
    "unable to retrieve list of " ++ which.name ++ " devices: " ++
      (Fault.unknownDevice unknown).message
  | insufficientDevices needed candidates =>
    "not enough available devices to satisfy allocation (needed " ++ toString needed ++
      ", have " ++ toString candidates ++ ")"
  | noValidPolicy => "no valid allocation policy selected"
  | requiredNotAvailable missing =>
    "required devices not available: " ++ ", ".intercalate missing

end AllocationError

inductive Failure where
  | refused (error : AllocationError)
  | broken (fault : Fault)
  deriving DecidableEq, Repr

namespace Failure

def kind : Failure → String
  | refused error => error.kind
  | broken fault => fault.kind

/-- The name of the kind in traces, where allocation errors carry their module. -/
def qualifiedKind : Failure → String
  | refused error => "gpu_allocator.domain.errors." ++ error.kind
  | broken fault => fault.qualifiedKind

def message : Failure → String
  | refused error => error.message
  | broken fault => fault.message

end Failure

end DeviceAllocation
