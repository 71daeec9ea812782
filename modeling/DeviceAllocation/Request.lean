import DeviceAllocation.Failure

namespace DeviceAllocation

/-- A request for preferred devices: the devices to choose from, those that must be chosen, and how
many are wanted in all. -/
structure Request where
  available : List DeviceId
  required : List DeviceId
  size : Int
  deriving DecidableEq, Repr

def Request.needed (request : Request) : Int :=
  request.size - request.required.length

inductive Strategy where
  | none
  -- one device is used up before the next
  | packed
  -- use is spread evenly
  | distributed
  deriving DecidableEq, Repr

namespace Strategy

def name : Strategy → String
  | none => "none"
  | packed => "packed"
  | distributed => "distributed"

def ofName? : String → Option Strategy
  | "none" => some none
  | "packed" => some packed
  | "distributed" => some distributed
  | _ => Option.none

def ofName (text : String) : Except Fault Strategy :=
  match ofName? text with
  | some strategy => .ok strategy
  | Option.none => .error (.badValue (Text.quote text ++ " is not a valid SharingStrategy"))

theorem ofName?_name (strategy : Strategy) : ofName? strategy.name = some strategy := by
  cases strategy <;> rfl

end Strategy

inductive Policy where
  | aligned
  | packed
  | distributed
  deriving DecidableEq, Repr

namespace Policy

def name : Policy → String
  | aligned => "aligned"
  | packed => "packed"
  | distributed => "distributed"

def ofName : String → Except Fault Policy
  | "aligned" => .ok aligned
  | "packed" => .ok packed
  | "distributed" => .ok distributed
  | text => .error (.badValue (Text.quote text ++ " is not a valid AllocationPolicy"))

end Policy

end DeviceAllocation
