import DeviceAllocation.Selector

/-! Topology allocators to ask which is an action: it may log, wait, change a state or fail in a way
of its own. -/

namespace DeviceAllocation

/-- To ask a topology allocator, given the available GPUs, the required ones and the size. -/
abbrev Question (m : Type → Type) := List Gpu → List Gpu → Int → m (Except Failure (List Gpu))

open Placement

variable {m : Type → Type} [Monad m]

def alignedAsking (net : Interconnect) (ask : Question m) (request : Request) :
    m (Except Failure (List DeviceId)) :=
  match resolveList net .available request.available with
  | .error error => pure (.error (.refused error))
  | .ok available =>
    match resolveList net .required request.required with
    | .error error => pure (.error (.refused error))
    | .ok required => do
      let answer ← ask available required request.size
      return answer.map fun chosen => chosen.map Gpu.uuid

namespace Selector

def allocateAsking (selector : Selector) (ask : Question m) (policy : Policy)
    (inventory : DeviceSet) (request : Request) : m (Except Failure (List DeviceId)) :=
  match selector.screen request with
  | .error error => pure (.error (.refused error))
  | .ok () =>
    match policy with
    | .aligned => alignedAsking selector.net ask request
    | .packed => pure ((packed inventory request).mapError .refused)
    | .distributed => pure ((distributed inventory request).mapError .refused)

end Selector

/-! ### Asking an allocator that only answers -/

variable [LawfulMonad m]

theorem alignedAsking_pure (net : Interconnect) (topology : TopologyAllocator)
    (request : Request) :
    alignedAsking net (fun available required size =>
        (pure (topology available required size) : m _)) request =
      pure (aligned net topology request) := by
  rw [alignedAsking, aligned]
  cases resolveList net .available request.available with
  | error error => rfl
  | ok available =>
    cases resolveList net .required request.required with
    | error error => rfl
    | ok required =>
      dsimp only
      rw [pure_bind]
      change pure _ = pure (topology available required request.size >>= _)
      cases topology available required request.size with
      | error failure => rfl
      | ok chosen => rfl

theorem Selector.allocateAsking_pure (selector : Selector) (policy : Policy)
    (inventory : DeviceSet) (request : Request) :
    selector.allocateAsking (fun available required size =>
        (pure (selector.topology available required size) : m _)) policy inventory request =
      pure (selector.allocate policy inventory request) := by
  unfold allocateAsking allocate
  cases selector.screen request with
  | error error => rfl
  | ok _ =>
    cases policy with
    | aligned => exact alignedAsking_pure selector.net selector.topology request
    | packed => rfl
    | distributed => rfl

end DeviceAllocation
