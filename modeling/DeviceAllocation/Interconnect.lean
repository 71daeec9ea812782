import DeviceAllocation.DeviceId
import DeviceAllocation.Keyed

/-! Two GPUs score the lanes of the links that join them, and one more when both are known to hang
on the same memory node. -/

namespace DeviceAllocation

/-- A physical GPU. The memory node is absent when the affinity is unknown. -/
structure Gpu where
  uuid : DeviceId
  index : Int
  numaNode : Option Int
  deriving DecidableEq, Repr

structure Link where
  left : DeviceId
  right : DeviceId
  lanes : Int
  deriving DecidableEq, Repr

namespace Link

def joins (link : Link) (a b : DeviceId) : Bool :=
  (link.left = a && link.right = b) || (link.left = b && link.right = a)

theorem joins_comm (link : Link) (a b : DeviceId) : link.joins a b = link.joins b a := by
  simp [joins, Bool.or_comm]

end Link

/-- GPUs under distinct names and the links between them. -/
structure Interconnect where
  gpus : List (DeviceId × Gpu)
  distinct : (gpus.map Prod.fst).Nodup
  links : List Link

namespace Interconnect

/-- An interconnect whose GPUs are listed with their names. For a name that is listed twice the
first place and the last GPU count. -/
def ofNamed (gpus : List (DeviceId × Gpu)) (links : List Link) : Interconnect :=
  ⟨Keyed.ofList Prod.fst gpus, Keyed.nodup_ofList Prod.fst gpus, links⟩

def ofGpus (gpus : List Gpu) (links : List Link) : Interconnect :=
  ofNamed (gpus.map fun gpu => (gpu.uuid, gpu)) links

def empty : Interconnect := ofNamed [] []

def size (net : Interconnect) : Nat :=
  net.gpus.length

def gpu? (net : Interconnect) (name : DeviceId) : Option Gpu :=
  (Keyed.find? Prod.fst name net.gpus).map Prod.snd

/-- The GPUs with the given names in the same order, or the first name that is unknown. -/
def resolve (net : Interconnect) : List DeviceId → Except DeviceId (List Gpu)
  | [] => .ok []
  | name :: names =>
    match net.gpu? name with
    | none => .error name
    | some gpu => (net.resolve names).map (gpu :: ·)

def lanes (net : Interconnect) (a b : DeviceId) : Int :=
  (net.links.filter fun link => link.joins a b).foldr (fun link lanes => link.lanes + lanes) 0

def linkScore (net : Interconnect) (a b : Gpu) : Int :=
  net.lanes a.uuid b.uuid + if a.numaNode.isSome ∧ a.numaNode = b.numaNode then 1 else 0

def scoreAgainst (net : Interconnect) (selection : List Gpu) (candidate : Gpu) : Int :=
  selection.foldr (fun member score => net.linkScore candidate member + score) 0

def totalScore (net : Interconnect) : List Gpu → Int
  | [] => 0
  | gpu :: rest => net.scoreAgainst rest gpu + net.totalScore rest

theorem lanes_comm (net : Interconnect) (a b : DeviceId) : net.lanes a b = net.lanes b a := by
  simp [lanes, Link.joins_comm _ a b]

theorem linkScore_comm (net : Interconnect) (a b : Gpu) :
    net.linkScore a b = net.linkScore b a := by
  have h : (a.numaNode.isSome ∧ a.numaNode = b.numaNode) ↔
      (b.numaNode.isSome ∧ b.numaNode = a.numaNode) := by
    constructor <;> rintro ⟨h, e⟩ <;> exact ⟨e ▸ h, e.symm⟩
  simp only [linkScore, lanes_comm net a.uuid b.uuid, h]

end Interconnect

end DeviceAllocation
