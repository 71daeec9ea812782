import DeviceAllocation.Proofs.Placement.Level
import Mathlib.Algebra.GroupWithZero.Nat

namespace DeviceAllocation.Placement

structure Served where
  answers : List (List DeviceId)
  failure : Option AllocationError

/-- Requests of the given sizes one after the other, nothing being required. What has been given is
no longer available, and the first error ends the run. -/
def serve (rule : SharingRule) (inventory : DeviceSet) : List DeviceId → List Nat → Served
  | _, [] => ⟨[], none⟩
  | available, size :: sizes =>
    match rule inventory ⟨available, [], size⟩ with
    | .error error => ⟨[], some error⟩
    | .ok answer =>
      let after := serve rule inventory (available.filter (· ∉ answer)) sizes
      ⟨answer :: after.answers, after.failure⟩

def offered (inventory : DeviceSet) (available : List DeviceId) : List DeviceId :=
  candidates inventory ⟨available, [], 0⟩

theorem offered_filter (inventory : DeviceSet) (available picked : List DeviceId) :
    offered inventory (available.filter (· ∉ picked)) =
      (offered inventory available).filter (· ∉ picked) :=
  candidates_filter_available inventory available picked 0 0

variable {rule : SharingRule} {order : DeviceSet → List DeviceId → List DeviceId}
  {inventory : DeviceSet} {available : List DeviceId}

namespace HandsOut

theorem order_left (h : HandsOut rule order) {pool left : List DeviceId} {count : Nat}
    (hpool : Pickable inventory pool)
    (hleft : left = pool.filter (· ∉ (order inventory pool).take count)) :
    order inventory left = (order inventory pool).drop count :=
  hleft ▸ h.rest inventory pool count hpool

theorem length_left (h : HandsOut rule order) {pool left : List DeviceId} {count : Nat}
    (hpool : Pickable inventory pool)
    (hleft : left = pool.filter (· ∉ (order inventory pool).take count)) :
    left.length = pool.length - count := by
  have hpickable : Pickable inventory left := hleft ▸ hpool.filter _
  rw [← (h.perm inventory left hpickable).length_eq, h.order_left hpool hleft, List.length_drop,
    (h.perm inventory pool hpool).length_eq]

theorem answer_offered (h : HandsOut rule order) (inventory : DeviceSet)
    (available : List DeviceId) (size : Nat) :
    rule inventory ⟨available, [], size⟩ =
      if (offered inventory available).length < size then
        .error (.insufficientDevices size (offered inventory available).length)
      else .ok ((order inventory (offered inventory available)).take size) := by
  have hanswer := h.answer inventory ⟨available, [], size⟩ (Int.natCast_nonneg size)
  have hneeded : Request.needed ⟨available, [], size⟩ = size := by
    simp [Request.needed]
  have hoffered : candidates inventory ⟨available, [], size⟩ = offered inventory available := rfl
  rw [hneeded, hoffered] at hanswer
  simpa only [Int.ofNat_lt, Int.toNat_natCast, List.nil_append] using hanswer

/-! ### One part -/

theorem serve_cons (h : HandsOut rule order) {size : Nat} (sizes : List Nat)
    (henough : size ≤ (offered inventory available).length) {after : Served}
    (hafter : serve rule inventory (available.filter
      (· ∉ (order inventory (offered inventory available)).take size)) sizes = after) :
    serve rule inventory available (size :: sizes) =
      ⟨(order inventory (offered inventory available)).take size :: after.answers,
        after.failure⟩ := by
  rw [serve, h.answer_offered, if_neg (by omega), ← hafter]

theorem serve_cons_of_lt (h : HandsOut rule order) {size : Nat} (sizes : List Nat)
    (hshort : (offered inventory available).length < size) :
    serve rule inventory available (size :: sizes) =
      ⟨[], some (.insufficientDevices size (offered inventory available).length)⟩ := by
  rw [serve, h.answer_offered, if_pos hshort]

/-! ### A run of parts -/

/-- While there are candidates, a run of parts goes through and hands out the front of the order. -/
theorem serve_append (h : HandsOut rule order) {front : List Nat} (sizes : List Nat)
    (henough : front.sum ≤ (offered inventory available).length) :
    ∃ answers rest, serve rule inventory available (front ++ sizes) =
        ⟨answers ++ (serve rule inventory rest sizes).answers,
          (serve rule inventory rest sizes).failure⟩ ∧
      answers.map List.length = front ∧
      answers.flatten = (order inventory (offered inventory available)).take front.sum ∧
      (offered inventory rest).length = (offered inventory available).length - front.sum := by
  -- the other parts are served from what the first one has left, hence for any available list
  induction front generalizing available with
  | nil => exact ⟨[], available, rfl, rfl, by simp, by simp⟩
  | cons size front ih =>
    rw [List.sum_cons] at henough
    have hoffered := offered_filter inventory available
      ((order inventory (offered inventory available)).take size)
    have hpool : Pickable inventory (offered inventory available) :=
      pickable_candidates inventory _
    have hlen := h.length_left hpool hoffered
    obtain ⟨answers, rest, hserve, hsizes, hflatten, hrest⟩ := @ih (available.filter
      (· ∉ (order inventory (offered inventory available)).take size)) (by omega)
    refine ⟨(order inventory (offered inventory available)).take size :: answers, rest, ?_, ?_, ?_,
      ?_⟩
    · rw [List.cons_append, h.serve_cons _ (by omega) hserve, List.cons_append]
    · have hsize := (h.perm inventory _ hpool).length_eq
      rw [List.map_cons, hsizes, List.length_take, Nat.min_eq_left (by omega)]
    · rw [List.flatten_cons, hflatten, h.order_left hpool hoffered, List.sum_cons, List.take_add]
    · rw [hrest, hlen, List.sum_cons, Nat.sub_sub]

/-! ### An answer given back as required -/

/-- An answer that is given back as required is carried on to the answer for a larger size. -/
theorem resume (h : HandsOut rule order) {required ids : List DeviceId} {size total : Int}
    (hsize : (required.length : Int) ≤ size) (htotal : size ≤ total)
    (hok : rule inventory ⟨available, required, total⟩ = .ok ids) :
    ∃ first, rule inventory ⟨available, required, size⟩ = .ok first ∧
      rule inventory ⟨available, first, total⟩ = .ok ids := by
  obtain ⟨henough, hids⟩ := h.of_ok (hsize.trans htotal) hok
  have hsame : candidates inventory ⟨available, required, total⟩ =
      candidates inventory ⟨available, required, size⟩ := rfl
  simp only [hsame, Request.needed] at henough hids
  have henough' : Request.needed ⟨available, required, size⟩ ≤
      (candidates inventory ⟨available, required, size⟩).length := by
    simp only [Request.needed]
    omega
  have hfirst := h.ok_of_needed_le hsize henough'
  have hlen := h.length_order inventory ⟨available, required, size⟩
  simp only [Request.needed] at hfirst
  generalize hpicks : (order inventory (candidates inventory ⟨available, required, size⟩)).take
    (size - required.length).toNat = picks at hfirst
  have hpickslen : (picks.length : Int) = size - required.length := by
    rw [← hpicks, List.length_take]
    omega
  have hpool := pickable_candidates inventory ⟨available, required, size⟩
  -- the first picks are no candidates any more, and what is left keeps its order
  have hrest := candidates_append_required inventory available required picks total size
  rw [← hpicks] at hrest
  have hleft := h.length_left hpool hrest
  have horder := h.order_left hpool hrest
  rw [hpicks] at hleft horder
  have hsplit : (total - required.length).toNat =
      (size - required.length).toNat + (total - size).toNat := by
    omega
  have hneeded : Request.needed ⟨available, required ++ picks, total⟩ = total - size := by
    simp only [Request.needed, List.length_append]
    omega
  refine ⟨required ++ picks, hfirst, ?_⟩
  rw [h.ok_of_needed_le (by simp only [List.length_append]; omega) (by omega), hneeded, horder,
    hids, hsplit, List.take_add, hpicks, List.append_assoc]

end HandsOut

/-- The part at which a demand exceeds a bound. -/
theorem exists_part_exceeding {bound : Nat} {sizes : List Nat} (h : bound < sizes.sum) :
    ∃ before size after, sizes = before ++ size :: after ∧ before.sum ≤ bound ∧
      bound < before.sum + size := by
  induction sizes generalizing bound with
  | nil => simp at h
  | cons size sizes ih =>
    by_cases hsize : bound < size
    · exact ⟨[], size, sizes, rfl, by simp, by simpa using hsize⟩
    · rw [List.sum_cons] at h
      obtain ⟨before, next, after, rfl, hle, hlt⟩ := @ih (bound - size) (by omega)
      refine ⟨size :: before, next, after, rfl, ?_, ?_⟩ <;> rw [List.sum_cons] <;> omega

namespace HandsOut

theorem serve_of_sum_le (h : HandsOut rule order) {sizes : List Nat}
    (henough : sizes.sum ≤ (offered inventory available).length) :
    (serve rule inventory available sizes).failure = none ∧
      (serve rule inventory available sizes).answers.map List.length = sizes ∧
      rule inventory ⟨available, [], sizes.sum⟩ =
        .ok (serve rule inventory available sizes).answers.flatten := by
  obtain ⟨answers, rest, hserve, hsizes, hflatten, -⟩ := h.serve_append [] henough
  rw [List.append_nil] at hserve
  rw [hserve, h.answer_offered, if_neg (by omega), ← hflatten]
  simpa only [serve, List.append_nil, true_and, and_true] using hsizes

theorem serve_of_lt_sum (h : HandsOut rule order) {sizes : List Nat}
    (hshort : (offered inventory available).length < sizes.sum) :
    ∃ before size after, sizes = before ++ size :: after ∧
      before.sum ≤ (offered inventory available).length ∧
      (offered inventory available).length < before.sum + size ∧
      (serve rule inventory available sizes).answers.map List.length = before ∧
      rule inventory ⟨available, [], before.sum⟩ =
        .ok (serve rule inventory available sizes).answers.flatten ∧
      (serve rule inventory available sizes).failure = some
        (.insufficientDevices size ((offered inventory available).length - before.sum)) := by
  obtain ⟨before, size, after, rfl, hle, hlt⟩ := exists_part_exceeding hshort
  obtain ⟨answers, rest, hserve, hsizes, hflatten, hrest⟩ := h.serve_append (size :: after) hle
  rw [h.serve_cons_of_lt after (by omega), hrest] at hserve
  refine ⟨before, size, after, rfl, hle, hlt, ?_⟩
  rw [hserve, h.answer_offered, if_neg (by omega), ← hflatten]
  simpa only [List.append_nil, and_true] using hsizes

end HandsOut

/-- Both sharing policies serve a demand in parts as they serve it at once. A run of parts that asks
for no more devices than are offered goes through, and its answers make up the one for the whole. A
run that asks for more ends at the first part by which it does, for want of devices. An answer that
is given back as required leads to the answer for the original request. -/
theorem sharing_policy_serves_in_parts (rule : SharingRule)
    (hrule : rule = packed ∨ rule = distributed) (inventory : DeviceSet)
    (available : List DeviceId) :
    (∀ sizes : List Nat, sizes.sum ≤ (offered inventory available).length →
      (serve rule inventory available sizes).failure = none ∧
        (serve rule inventory available sizes).answers.map List.length = sizes ∧
        rule inventory ⟨available, [], sizes.sum⟩ =
          .ok (serve rule inventory available sizes).answers.flatten) ∧
    (∀ sizes : List Nat, (offered inventory available).length < sizes.sum →
      ∃ before size after, sizes = before ++ size :: after ∧
        before.sum ≤ (offered inventory available).length ∧
        (offered inventory available).length < before.sum + size ∧
        (serve rule inventory available sizes).answers.map List.length = before ∧
        rule inventory ⟨available, [], before.sum⟩ =
          .ok (serve rule inventory available sizes).answers.flatten ∧
        (serve rule inventory available sizes).failure = some
          (.insufficientDevices size ((offered inventory available).length - before.sum))) ∧
    ∀ (required : List DeviceId) (size total : Int) (ids : List DeviceId),
      (required.length : Int) ≤ size → size ≤ total →
      rule inventory ⟨available, required, total⟩ = .ok ids →
      ∃ first, rule inventory ⟨available, required, size⟩ = .ok first ∧
        rule inventory ⟨available, first, total⟩ = .ok ids := by
  obtain ⟨order, h⟩ : ∃ order, HandsOut rule order := by
    rcases hrule with rfl | rfl
    · exact ⟨_, handsOut_packed⟩
    · exact ⟨_, handsOut_distributed⟩
  exact ⟨fun _ henough => h.serve_of_sum_le henough, fun _ hshort => h.serve_of_lt_sum hshort,
    fun _ _ _ _ hsize htotal hok => h.resume hsize htotal hok⟩

/-- Of five candidates two, none and the other three are asked for, then three and four, and then a
first answer for two devices is given back. -/
theorem distributed_uneven_in_parts :
    (distributed = packed ∨ distributed = distributed) ∧
    ((serve distributed unevenInventory unevenRequest.available [2, 0, 3]).failure = none ∧
      (serve distributed unevenInventory unevenRequest.available [2, 0, 3]).answers.map
        List.length = [2, 0, 3] ∧
      distributed unevenInventory ⟨unevenRequest.available, [], 5⟩ =
        .ok (serve distributed unevenInventory unevenRequest.available [2, 0, 3]).answers.flatten) ∧
    (∃ before size after, [3, 4, 1] = before ++ size :: after ∧
      before.sum ≤ (offered unevenInventory unevenRequest.available).length ∧
      (offered unevenInventory unevenRequest.available).length < before.sum + size ∧
      (serve distributed unevenInventory unevenRequest.available [3, 4, 1]).answers.map
        List.length = before ∧
      distributed unevenInventory ⟨unevenRequest.available, [], before.sum⟩ = .ok
        (serve distributed unevenInventory unevenRequest.available [3, 4, 1]).answers.flatten ∧
      (serve distributed unevenInventory unevenRequest.available [3, 4, 1]).failure = some
        (.insufficientDevices size
          ((offered unevenInventory unevenRequest.available).length - before.sum))) ∧
    ∃ first, distributed unevenInventory ⟨unevenRequest.available, ["a::0"], 2⟩ = .ok first ∧
      distributed unevenInventory ⟨unevenRequest.available, first, 4⟩ =
        .ok ["a::0", "b::1", "c::0", "a::1"] := by
  have h := sharing_policy_serves_in_parts distributed (Or.inr rfl) unevenInventory
    unevenRequest.available
  have hok : distributed unevenInventory ⟨unevenRequest.available, ["a::0"], 4⟩ =
      .ok ["a::0", "b::1", "c::0", "a::1"] := by
    decide +kernel
  exact ⟨Or.inr rfl, h.1 [2, 0, 3] (by decide +kernel), h.2.1 [3, 4, 1] (by decide +kernel),
    h.2.2 ["a::0"] 2 4 _ (by decide) (by decide) hok⟩

end DeviceAllocation.Placement
