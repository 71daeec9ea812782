import DeviceAllocation.Placement.Distributed
import DeviceAllocation.Proofs.Placement.Greedy
import DeviceAllocation.Proofs.Placement.Handout

namespace DeviceAllocation.Placement

variable {inventory : DeviceSet} {request : Request}

def selected (inventory : DeviceSet) (request : Request) : List DeviceId :=
  request.required ++ sortBy (fun a b => a ≤ b) (candidates inventory request)

theorem length_selected (inventory : DeviceSet) (request : Request) :
    (selected inventory request).length =
      request.required.length + (candidates inventory request).length := by
  have hsorted := (sortBy_perm (fun a b => decide (a ≤ b)) (candidates inventory request)).length_eq
  rw [selected, List.length_append, hsorted]

theorem packed_of_no_room (hsize : request.size ≤ request.required.length) :
    packed inventory request = .ok (cut request.size (selected inventory request)) := by
  have hneeded : request.needed = request.size - request.required.length := rfl
  rw [packed_eq, if_neg (by omega)]
  rfl

theorem distributed_of_no_room (hsize : request.size ≤ request.required.length) :
    distributed inventory request = .ok request.required := by
  have hneeded : request.needed = request.size - request.required.length := rfl
  have hnone : request.needed.toNat = 0 := by omega
  simp only [distributed]
  rw [if_neg (by omega), hnone, spread, List.append_nil]

theorem cut_selected_of_nonneg (hsize : request.size ≤ request.required.length)
    (hnonneg : 0 ≤ request.size) :
    cut request.size (selected inventory request) = request.required.take request.size.toNat := by
  rw [cut_of_nonneg hnonneg, selected, List.take_append_of_le_length (by omega)]

/-- A negative size leaves nothing exactly if it drops as much as there is to select from. -/
theorem cut_eq_nil_iff {α : Type} {size : Int} {xs : List α} (hneg : size < 0) :
    cut size xs = [] ↔ xs.length + size ≤ 0 := by
  rw [cut, if_pos hneg, List.take_eq_nil_iff]
  constructor
  · rintro (hdropped | hempty)
    · omega
    · rw [hempty, List.length_nil]
      omega
  · intro hall
    exact Or.inl (by omega)

/-- The greedy choice adds no GPU to required ones that make up the size. -/
theorem bestEffort_of_no_room (net : Interconnect) (available : List Gpu) {required : List Gpu}
    {size : Int} (hsize : size ≤ required.toFinset.card) :
    bestEffort net available required size = [] ∨
      bestEffort net available required size = required.eraseDups := by
  rw [bestEffort_eq]
  split
  · exact Or.inl rfl
  · rename_i hreach
    have hpos := pos_of_reach hreach
    have hfits : ¬ size < required.toFinset.card := fun h => hreach (Or.inr (Or.inr (Or.inl h)))
    rw [card_toFinset_eq_length_eraseDups] at hsize hfits
    have hrequired : required ≠ [] := by
      rintro rfl
      rw [List.eraseDups_nil, List.length_nil] at hsize
      omega
    have hnone : size.toNat - required.eraseDups.length = 0 := by omega
    rw [if_neg hrequired, hnone, grow]
    exact Or.inr rfl

/-- Nothing beyond the required devices is handed out when the size leaves no room for it, apart
from the packed policy under a negative size. That answers with what is left of the required devices
and the candidates behind them once so many have been dropped from the end, which is nothing, as it
should be, only if all of them are dropped. -/
theorem no_room_hands_out_required (inventory : DeviceSet) (request : Request)
    (hsize : request.size ≤ request.required.length) :
    packed inventory request = .ok (cut request.size (selected inventory request)) ∧
    (cut request.size (selected inventory request) = request.required.take request.size.toNat ↔
      0 ≤ request.size ∨
        request.required.length + (candidates inventory request).length + request.size ≤ 0) ∧
    distributed inventory request = .ok request.required ∧
    ∀ (net : Interconnect) (available required : List Gpu) (size : Int),
      size ≤ required.toFinset.card →
        ∀ gpu ∈ bestEffort net available required size, gpu ∈ required := by
  refine ⟨packed_of_no_room hsize, ?_, distributed_of_no_room hsize, ?_⟩
  · by_cases hnonneg : 0 ≤ request.size
    · simp only [cut_selected_of_nonneg hsize hnonneg, hnonneg, true_or]
    · have hzero : request.size.toNat = 0 := by omega
      have hlength := length_selected inventory request
      rw [hzero, List.take_zero, cut_eq_nil_iff (by omega), hlength, Int.natCast_add]
      simp only [hnonneg, false_or]
  · intro net available required size hgpus gpu hgpu
    rcases bestEffort_of_no_room net available hgpus with hnone | hall
    · rw [hnone] at hgpu
      exact absurd hgpu List.not_mem_nil
    · rw [hall] at hgpu
      exact List.mem_eraseDups.mp hgpu

def crowdedRequest : Request where
  available := unevenRequest.available
  required := ["b::0", "a::0", "b::0"]
  size := 2

theorem crowded_hands_out_required : crowdedRequest.size ≤ crowdedRequest.required.length ∧
    packed unevenInventory crowdedRequest = .ok ["b::0", "a::0"] ∧
    distributed unevenInventory crowdedRequest = .ok ["b::0", "a::0", "b::0"] ∧
    (2 : Int) ≤ (pairedGpus.take 3).toFinset.card ∧
    bestEffort pairedNet pairedGpus (pairedGpus.take 3) 2 =
      [⟨"g2", 2, none⟩, ⟨"g0", 0, none⟩] ∧
    ∀ gpu ∈ bestEffort pairedNet pairedGpus (pairedGpus.take 3) 2, gpu ∈ pairedGpus.take 3 := by
  have hsize : crowdedRequest.size ≤ crowdedRequest.required.length := by decide
  have hgpus : (2 : Int) ≤ (pairedGpus.take 3).toFinset.card := by decide +kernel
  obtain ⟨hpacked, hcut, hdistributed, hgreedy⟩ :=
    no_room_hands_out_required unevenInventory crowdedRequest hsize
  rw [hcut.mpr (Or.inl (by decide))] at hpacked
  exact ⟨hsize, hpacked, hdistributed, hgpus, by decide +kernel, hgreedy pairedNet _ _ 2 hgpus⟩

def negativeRequest : Request := ⟨["a::1", "b::0", "c::0"], [], -1⟩

/-- All candidates but one are handed out, though there is room for none. -/
theorem packed_negative_size_hands_out_candidates :
    negativeRequest.size ≤ negativeRequest.required.length ∧
      packed unevenInventory negativeRequest = .ok ["a::1", "b::0"] ∧
      ["a::1", "b::0"] ≠ negativeRequest.required.take negativeRequest.size.toNat ∧
      ¬ ["a::1", "b::0"] <+: negativeRequest.required := by
  decide +kernel

end DeviceAllocation.Placement
