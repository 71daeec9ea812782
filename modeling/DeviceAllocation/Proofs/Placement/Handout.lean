import DeviceAllocation.Placement.Packed
import DeviceAllocation.Proofs.Placement.Candidates
import Mathlib.Data.String.Basic

namespace DeviceAllocation.Placement

abbrev SharingRule := DeviceSet → Request → Except AllocationError (List DeviceId)

/-- The rule answers with the required devices and then as many candidates as are still needed, in
the given order. Candidates that are handed out leave the order of the others as it is. -/
structure HandsOut (rule : SharingRule) (order : DeviceSet → List DeviceId → List DeviceId) :
    Prop where
  answer : ∀ inventory (request : Request), (request.required.length : Int) ≤ request.size →
    rule inventory request =
      if (candidates inventory request).length < request.needed then
        .error (.insufficientDevices request.needed (candidates inventory request).length)
      else .ok (request.required ++
        (order inventory (candidates inventory request)).take request.needed.toNat)
  perm : ∀ inventory pool, Pickable inventory pool → (order inventory pool).Perm pool
  rest : ∀ inventory pool count, Pickable inventory pool →
    order inventory (pool.filter (· ∉ (order inventory pool).take count)) =
      (order inventory pool).drop count

/-! ### The packed policy -/

theorem cut_of_nonneg {α : Type} {size : Int} (h : 0 ≤ size) (xs : List α) :
    cut size xs = xs.take size.toNat := by
  rw [cut, if_neg (by omega)]

/-- The packed policy refuses for want of candidates as the other sharing policy does, though it
compares the size with all that there is to select from. -/
theorem packed_eq (inventory : DeviceSet) (request : Request) :
    packed inventory request =
      if (candidates inventory request).length < request.needed then
        .error (.insufficientDevices request.needed (candidates inventory request).length)
      else .ok (cut request.size (request.required ++
        sortBy (fun a b => a ≤ b) (candidates inventory request))) := by
  have hlen := (sortBy_perm (fun a b => decide (a ≤ b)) (candidates inventory request)).length_eq
  have hneeded : request.needed = request.size - request.required.length := rfl
  have hshort : ((candidates inventory request).length : Int) < request.needed ↔
      ((request.required.length + (candidates inventory request).length : Nat) : Int) <
        request.size := by
    omega
  rw [packed]
  simp only [List.length_append, hlen, hshort]

theorem handsOut_packed : HandsOut packed fun _ pool => sortBy (fun a b => a ≤ b) pool where
  answer inventory request hsize := by
    have hneeded : request.needed = request.size - request.required.length := rfl
    have hcut : (request.size).toNat - request.required.length = request.needed.toNat := by
      omega
    rw [packed_eq]
    split
    · rfl
    · -- the required devices are fewer than the size, so the cut goes through the candidates
      rw [cut_of_nonneg (by omega), List.take_append, hcut,
        List.take_of_length_le (by omega)]
  perm _ pool _ := sortBy_perm _ pool
  rest _ pool count hpool := by
    rw [sortBy_filter (by simpa using le_total) (by simpa using fun a b c => le_trans)
      (by simpa using fun a _ b _ => le_antisymm)]
    exact filter_notMem_take ((sortBy_perm _ pool).nodup_iff.mpr hpool.nodup) count

/-! ### Answers -/

variable {rule : SharingRule} {order : DeviceSet → List DeviceId → List DeviceId}

namespace HandsOut

variable {inventory : DeviceSet} {request : Request} {ids : List DeviceId}

theorem length_order (h : HandsOut rule order) (inventory : DeviceSet) (request : Request) :
    (order inventory (candidates inventory request)).length =
      (candidates inventory request).length :=
  (h.perm inventory _ (pickable_candidates inventory request)).length_eq

theorem of_ok (h : HandsOut rule order) (hsize : (request.required.length : Int) ≤ request.size)
    (hok : rule inventory request = .ok ids) :
    request.needed ≤ (candidates inventory request).length ∧
      ids = request.required ++
        (order inventory (candidates inventory request)).take request.needed.toNat := by
  rw [h.answer inventory request hsize] at hok
  split at hok
  · cases hok
  · rename_i henough
    exact ⟨by omega, (Except.ok.inj hok).symm⟩

theorem ok_of_needed_le (h : HandsOut rule order)
    (hsize : (request.required.length : Int) ≤ request.size)
    (henough : request.needed ≤ (candidates inventory request).length) :
    rule inventory request = .ok (request.required ++
      (order inventory (candidates inventory request)).take request.needed.toNat) := by
  rw [h.answer inventory request hsize, if_neg (by omega)]

theorem length_picks (h : HandsOut rule order)
    (hsize : (request.required.length : Int) ≤ request.size)
    (henough : request.needed ≤ (candidates inventory request).length) :
    (((order inventory (candidates inventory request)).take request.needed.toNat).length : Int) =
      request.size - request.required.length := by
  have hlen := h.length_order inventory request
  have hneeded : request.needed = request.size - request.required.length := rfl
  rw [List.length_take]
  omega

end HandsOut

/-- The required devices as they are given, and behind them as many distinct others that the request
offers as make up the wanted number. -/
def Completes (inventory : DeviceSet) (request : Request) (ids : List DeviceId) : Prop :=
  (ids.length : Int) = request.size ∧ ∃ picks, ids = request.required ++ picks ∧ picks.Nodup ∧
    ∀ pick ∈ picks, pick ∈ request.available ∧ pick ∈ inventory ∧ pick ∉ request.required

theorem HandsOut.completes {inventory : DeviceSet} {request : Request} {ids : List DeviceId}
    (h : HandsOut rule order) (hsize : (request.required.length : Int) ≤ request.size)
    (hok : rule inventory request = .ok ids) : Completes inventory request ids := by
  obtain ⟨henough, rfl⟩ := h.of_ok hsize hok
  have hpool := pickable_candidates inventory request
  have hperm := h.perm inventory _ hpool
  refine ⟨?_, _, rfl, ?_, ?_⟩
  · have hpicks := h.length_picks hsize henough
    rw [List.length_append]
    omega
  · exact (List.take_sublist _ _).nodup (hperm.nodup_iff.mpr hpool.nodup)
  · intro pick hpick
    have hcandidate := hperm.mem_iff.mp (List.mem_of_mem_take hpick)
    obtain ⟨hknown, havailable, hother⟩ := mem_candidates.mp hcandidate
    exact ⟨havailable, hknown, hother⟩

end DeviceAllocation.Placement
