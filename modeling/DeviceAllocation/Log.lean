import DeviceAllocation.Json
import DeviceAllocation.Request

namespace DeviceAllocation

inductive Level where
  | debug
  | info
  | warning
  | error
  | critical
  deriving DecidableEq, Repr

namespace Level

def name : Level → String
  | debug => "debug"
  | info => "info"
  | warning => "warning"
  | error => "error"
  | critical => "critical"

def rank : Level → Nat
  | debug => 0
  | info => 1
  | warning => 2
  | error => 3
  | critical => 4

def ofName? : String → Option Level
  | "debug" => some debug
  | "info" => some info
  | "warning" => some warning
  | "error" => some error
  | "critical" => some critical
  | _ => none

end Level

/-- The name under which a request is counted: its policy, or that there was none. -/
def policyLabel : Option Policy → String
  | some policy => policy.name
  | none => "none"

inductive RequestEvent where
  | failed (policy : Option Policy) (size : Int) (available required : Nat) (error : String)
  | empty (policy : Option Policy) (size : Int) (available required : Nat)
  | selected (policy : Option Policy) (size : Int) (devices : List DeviceId)
  deriving DecidableEq, Repr

namespace RequestEvent

/-- Only a selection is no reason to worry. -/
def level : RequestEvent → Level
  | failed .. => .warning
  | empty .. => .warning
  | selected .. => .info

def name : RequestEvent → String
  | failed .. => "preferred_allocation_failed"
  | empty .. => "preferred_allocation_empty"
  | selected .. => "preferred_allocation_selected"

def fields : RequestEvent → List (String × Json)
  | failed policy size available required error =>
    [("policy", .text (policyLabel policy)), ("size", .int size), ("available", .int available),
      ("required", .int required), ("error", .text error)]
  | empty policy size available required =>
    [("policy", .text (policyLabel policy)), ("size", .int size), ("available", .int available),
      ("required", .int required)]
  | selected policy size devices =>
    [("policy", .text (policyLabel policy)), ("size", .int size), ("devices", .texts devices)]

end RequestEvent

inductive Note where
  | running (policy : Policy) (size : Int) (required : Nat)
  | aligned (chosen available : Nat)
  -- the devices that were packed behind the required ones
  | packed (picks : List DeviceId)
  | distributed (pick : DeviceId)
  deriving DecidableEq, Repr

namespace Note

def source : Note → String
  | running .. => "gpu_allocator.domain.services.policy"
  | aligned .. => "gpu_allocator.domain.services.aligned"
  | packed _ => "gpu_allocator.domain.services.packed"
  | distributed _ => "gpu_allocator.domain.services.distributed"

/-- Numbers are written out at any length, as in errors. -/
def text : Note → String
  | running policy size required =>
    "Running " ++ policy.name ++ " allocation for size=" ++ toString size ++
      " required=" ++ toString required
  | aligned chosen available =>
    "Aligned allocation selected " ++ toString chosen ++ " of " ++ toString available ++ " GPUs"
  | packed picks => "Packed allocation picked " ++ Text.quoteList picks
  | distributed pick => "Distributed allocation picked " ++ pick

end Note

end DeviceAllocation
