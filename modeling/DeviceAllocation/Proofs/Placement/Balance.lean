import DeviceAllocation.Proofs.Placement.Level
import Mathlib.Algebra.BigOperators.Group.Finset.Piecewise
import Mathlib.Algebra.Order.BigOperators.Group.Finset
import Mathlib.Data.Finset.Lattice.Fold
import Mathlib.Order.Lattice.Nat
import Mathlib.Order.Nat

namespace DeviceAllocation.Placement

open scoped BigOperators

def physical (pool : List DeviceId) : Finset DeviceId :=
  (pool.map DeviceId.base).toFinset

def loadAfter (inventory : DeviceSet) (pool : List DeviceId) (taken : Finset DeviceId)
    (base : DeviceId) : ℕ :=
  load inventory (pool.filter (· ∉ taken)) base

/-- The load above a bound once the given candidates are taken, over all physical devices of the
candidates. -/
def excess (inventory : DeviceSet) (pool : List DeviceId) (taken : Finset DeviceId) (bound : ℕ) :
    ℕ :=
  ∑ base ∈ physical pool, (loadAfter inventory pool taken base - bound)

def highestLoad (inventory : DeviceSet) (pool : List DeviceId) (taken : Finset DeviceId) : ℕ :=
  (physical pool).sup (loadAfter inventory pool taken)

/-- No physical device that was taken from is two replicas or more ahead of one that has a candidate
left. -/
def Balanced (inventory : DeviceSet) (pool : List DeviceId) (taken : Finset DeviceId) : Prop :=
  ∀ id ∈ taken, ∀ other ∈ pool, other ∉ taken →
    loadAfter inventory pool taken (DeviceId.base id) ≤
      loadAfter inventory pool taken (DeviceId.base other) + 1

variable {inventory : DeviceSet} {pool rest : List DeviceId} {taken : Finset DeviceId}

/-! ### Loads after taking -/

theorem mem_physical {base : DeviceId} :
    base ∈ physical pool ↔ ∃ id ∈ pool, DeviceId.base id = base := by
  simp [physical]

theorem sharing_split (pool : List DeviceId) (taken : Finset DeviceId) (base : DeviceId) :
    sharing base (pool.filter (· ∈ taken)) + sharing base (pool.filter (· ∉ taken)) =
      sharing base pool := by
  have hsplit := List.countP_eq_countP_filter_add pool (fun id => DeviceId.base id = base)
    (· ∈ taken)
  simp only [sharing, hsplit, decide_not]

theorem loadAfter_eq (hpool : Pickable inventory pool) (taken : Finset DeviceId)
    (base : DeviceId) :
    loadAfter inventory pool taken base =
      load inventory pool base + sharing base (pool.filter (· ∈ taken)) := by
  have hbefore := load_add_sharing hpool base
  have hafter := load_add_sharing (hpool.filter (· ∉ taken)) base
  have hsplit := sharing_split pool taken base
  rw [loadAfter]
  omega

theorem sum_sharing {bases : Finset DeviceId} (ids : List DeviceId)
    (h : ∀ id ∈ ids, DeviceId.base id ∈ bases) : ∑ base ∈ bases, sharing base ids = ids.length := by
  induction ids with
  | nil => simp [sharing]
  | cons id ids ih =>
    have hcons (base : DeviceId) : sharing base (id :: ids) =
        sharing base ids + if DeviceId.base id = base then 1 else 0 := by
      simp only [sharing, List.countP_cons, decide_eq_true_eq]
    simp only [hcons, Finset.sum_add_distrib, Finset.sum_ite_eq,
      ih fun id hid => h id (List.mem_cons_of_mem _ hid), h id List.mem_cons_self, if_true,
      List.length_cons]

theorem sum_sharing_taken (hpool : Pickable inventory pool) (htaken : ∀ id ∈ taken, id ∈ pool) :
    ∑ base ∈ physical pool, sharing base (pool.filter (· ∈ taken)) = taken.card := by
  have hset : (pool.filter (· ∈ taken)).toFinset = taken := by
    ext id
    simp only [List.mem_toFinset, List.mem_filter, decide_eq_true_eq, and_iff_right_iff_imp]
    exact htaken id
  rw [sum_sharing, ← List.toFinset_card_of_nodup (hpool.nodup.filter _), hset]
  intro id hid
  exact mem_physical.mpr ⟨id, List.mem_of_mem_filter hid, rfl⟩

/-! ### Balanced choices are the best -/

/-- Above a bound every choice leaves at least the load that does not fit below it. -/
theorem sum_le_excess_add (hpool : Pickable inventory pool) (htaken : ∀ id ∈ taken, id ∈ pool)
    (bound : ℕ) :
    ∑ base ∈ physical pool, (load inventory pool base - bound) + taken.card ≤
      excess inventory pool taken bound +
        ∑ base ∈ physical pool, min (bound - load inventory pool base) (sharing base pool) := by
  rw [← sum_sharing_taken hpool htaken, excess, ← Finset.sum_add_distrib,
    ← Finset.sum_add_distrib]
  apply Finset.sum_le_sum
  intro base _
  have hsplit := sharing_split pool taken base
  rw [loadAfter_eq hpool]
  omega

/-- A balanced choice that goes beyond a bound has filled all room below it. -/
theorem excess_add_of_balanced (hpool : Pickable inventory pool) (htaken : ∀ id ∈ taken, id ∈ pool)
    (hbalanced : Balanced inventory pool taken) {bound : ℕ} {id : DeviceId} (hid : id ∈ taken)
    (hbound : bound < loadAfter inventory pool taken (DeviceId.base id)) :
    excess inventory pool taken bound +
        ∑ base ∈ physical pool, min (bound - load inventory pool base) (sharing base pool) =
      ∑ base ∈ physical pool, (load inventory pool base - bound) + taken.card := by
  rw [← sum_sharing_taken hpool htaken, excess, ← Finset.sum_add_distrib,
    ← Finset.sum_add_distrib]
  apply Finset.sum_congr rfl
  intro base _
  have hsplit := sharing_split pool taken base
  have hload := loadAfter_eq hpool taken base
  have hfull : min (bound - load inventory pool base) (sharing base pool) ≤
      sharing base (pool.filter (· ∈ taken)) := by
    -- either all candidates of the device are taken, or its load has reached the bound
    cases hleft : sharing base (pool.filter (· ∉ taken)) with
    | zero => omega
    | succ n =>
      obtain ⟨other, hother, hbase⟩ := List.countP_pos_iff.mp (by
        rw [← sharing, hleft]
        exact Nat.succ_pos n)
      obtain ⟨hmem, hnot⟩ := List.mem_filter.mp hother
      have hle := hbalanced id hid other hmem (by simpa using hnot)
      rw [of_decide_eq_true hbase] at hle
      omega
  omega

/-- No choice of equally many candidates leaves less load above a bound than a balanced one. -/
theorem excess_le_of_balanced (hpool : Pickable inventory pool) {other : Finset DeviceId}
    (htaken : ∀ id ∈ taken, id ∈ pool) (hbalanced : Balanced inventory pool taken)
    (hother : ∀ id ∈ other, id ∈ pool) (hcard : other.card = taken.card) (bound : ℕ) :
    excess inventory pool taken bound ≤ excess inventory pool other bound := by
  by_cases hbeyond : ∃ id ∈ taken, bound < loadAfter inventory pool taken (DeviceId.base id)
  · obtain ⟨id, hid, hbound⟩ := hbeyond
    have htight := excess_add_of_balanced hpool htaken hbalanced hid hbound
    have hleast := sum_le_excess_add hpool hother bound
    omega
  · -- devices that were taken from are within the bound, the others are as before
    apply Finset.sum_le_sum
    intro base _
    have hload := loadAfter_eq hpool taken base
    have hother := loadAfter_eq hpool other base
    by_cases hzero : sharing base (pool.filter (· ∈ taken)) = 0
    · omega
    · obtain ⟨id, hid, hbase⟩ := List.countP_pos_iff.mp (Nat.pos_of_ne_zero hzero)
      have hmem : id ∈ taken := by simpa using (List.mem_filter.mp hid).2
      have hwithin : loadAfter inventory pool taken base ≤ bound := by
        rw [← of_decide_eq_true hbase]
        exact Nat.le_of_not_lt fun hlt => hbeyond ⟨id, hmem, hlt⟩
      omega

theorem highestLoad_le_of_balanced (hpool : Pickable inventory pool) {other : Finset DeviceId}
    (htaken : ∀ id ∈ taken, id ∈ pool) (hbalanced : Balanced inventory pool taken)
    (hother : ∀ id ∈ other, id ∈ pool) (hcard : other.card = taken.card) :
    highestLoad inventory pool taken ≤ highestLoad inventory pool other := by
  -- above its own highest load the other choice leaves nothing
  have hnone : excess inventory pool other (highestLoad inventory pool other) = 0 := by
    apply Finset.sum_eq_zero
    intro base hbase
    exact Nat.sub_eq_zero_of_le (Finset.le_sup hbase)
  have hexcess := excess_le_of_balanced hpool htaken hbalanced hother hcard
    (highestLoad inventory pool other)
  rw [hnone, Nat.le_zero] at hexcess
  apply Finset.sup_le
  intro base hbase
  exact Nat.le_of_sub_eq_zero (Finset.sum_eq_zero_iff.mp hexcess base hbase)

/-! ### The picks are balanced -/

theorem load_filter_of_base_ne {picked : List DeviceId} {base : DeviceId}
    (h : ∀ id ∈ picked, DeviceId.base id ≠ base) :
    load inventory (rest.filter (· ∉ picked)) base = load inventory rest base := by
  apply List.countP_congr
  intro id _
  have hnot (hbase : DeviceId.base id = base) : id ∉ picked := fun hid => h id hid hbase
  simp only [decide_eq_true_eq, List.mem_filter]
  constructor
  · rintro ⟨hbase, hid⟩
    exact ⟨hbase, fun hmem => hid ⟨hmem, by simpa using hnot hbase⟩⟩
  · rintro ⟨hbase, hid⟩
    exact ⟨hbase, fun hmem => hid hmem.1⟩

def EvenlyPicked (inventory : DeviceSet) (pool picks : List DeviceId) : Prop :=
  ∀ id ∈ picks, ∀ other ∈ pool, other ∉ picks →
    load inventory (pool.filter (· ∉ picks)) (DeviceId.base id) ≤
      load inventory (pool.filter (· ∉ picks)) (DeviceId.base other) + 1

theorem LeastLoaded.evenlyPicked {front back picks : List DeviceId} {pick : DeviceId}
    (h : LeastLoaded inventory front pick back)
    (heven : EvenlyPicked inventory (front ++ back) picks) :
    EvenlyPicked inventory (front ++ pick :: back) (pick :: picks) := by
  intro id hid other hother hnot
  obtain ⟨hne, hnot⟩ := not_or.mp (mt List.mem_cons.mpr hnot)
  have hother' : other ∈ front ++ back :=
    (List.mem_cons.mp (List.perm_middle.mem_iff.mp hother)).resolve_left hne
  rw [h.filter_rest]
  by_cases hlater : ∃ later ∈ picks, DeviceId.base later = DeviceId.base id
  · -- a later pick of the same device says it already
    obtain ⟨later, hmem, hbase⟩ := hlater
    rw [← hbase]
    exact heven later hmem other hother' hnot
  · -- the pick is the last one of its device, and was made at the lowest load
    have hid : id = pick := (List.mem_cons.mp hid).resolve_right fun hmem =>
      hlater ⟨id, hmem, rfl⟩
    subst hid
    have hlast : load inventory ((front ++ back).filter (· ∉ picks)) (DeviceId.base id) =
        load inventory (front ++ back) (DeviceId.base id) :=
      load_filter_of_base_ne fun later hmem hbase => hlater ⟨later, hmem, hbase⟩
    have hpick := h.load_rest (DeviceId.base id)
    rw [if_pos rfl] at hpick
    have hlow := h.load_pick_le hother
    -- the other device has not become less loaded since
    have hmono : load inventory (front ++ id :: back) (DeviceId.base other) ≤
        load inventory ((front ++ back).filter (· ∉ picks)) (DeviceId.base other) := by
      apply load_mono
      intro left hmem
      have hleft := List.mem_of_mem_filter hmem
      exact List.perm_middle.mem_iff.mpr (List.mem_cons_of_mem _ hleft)
    omega

theorem evenlyPicked_recounted (hpool : Pickable inventory pool) (count : ℕ) :
    EvenlyPicked inventory pool (recounted inventory count pool) := by
  refine picks_induction (P := fun rest => ∀ count,
    EvenlyPicked inventory rest (recounted inventory count rest)) ?_ ?_ hpool count
  · intro count id _ other hother
    exact absurd hother List.not_mem_nil
  · intro front pick back hleast ih count
    cases count with
    | zero =>
      intro id hid
      exact absurd hid List.not_mem_nil
    | succ count =>
      rw [hleast.recounted_succ]
      exact hleast.evenlyPicked (ih count)

theorem EvenlyPicked.balanced {picks : List DeviceId} (h : EvenlyPicked inventory pool picks) :
    Balanced inventory pool picks.toFinset := by
  intro id hid other hother hnot
  have hle := h id (List.mem_toFinset.mp hid) other hother (mt List.mem_toFinset.mpr hnot)
  simpa only [loadAfter, List.mem_toFinset] using hle

/-! ### The answers of the distributed policy -/

def picked (request : Request) (ids : List DeviceId) : Finset DeviceId :=
  (ids.drop request.required.length).toFinset

section Answer

variable {request : Request} {ids : List DeviceId}

theorem picked_eq_recounted (hsize : (request.required.length : Int) ≤ request.size)
    (hok : distributed inventory request = .ok ids) :
    picked request ids =
      (recounted inventory request.needed.toNat (candidates inventory request)).toFinset := by
  obtain ⟨henough, hids⟩ := handsOut_distributed.of_ok hsize hok
  have hpool := pickable_candidates inventory request
  rw [picked, hids, List.drop_left, take_levelOrder hpool (by omega)]

theorem mem_candidates_of_mem_picked (hsize : (request.required.length : Int) ≤ request.size)
    (hok : distributed inventory request = .ok ids) {id : DeviceId}
    (hid : id ∈ picked request ids) : id ∈ candidates inventory request := by
  obtain ⟨-, picks, rfl, -, hpicks⟩ := handsOut_distributed.completes hsize hok
  rw [picked, List.drop_left, List.mem_toFinset] at hid
  obtain ⟨havailable, hknown, hother⟩ := hpicks id hid
  exact mem_candidates.mpr ⟨hknown, havailable, hother⟩

theorem card_picked (hsize : (request.required.length : Int) ≤ request.size)
    (hok : distributed inventory request = .ok ids) :
    ((picked request ids).card : Int) = request.size - request.required.length := by
  obtain ⟨hlength, picks, rfl, hnodup, -⟩ := handsOut_distributed.completes hsize hok
  rw [picked, List.drop_left, List.toFinset_card_of_nodup hnodup]
  rw [List.length_append] at hlength
  omega

end Answer

/-- Of all choices of as many candidates as are still needed, the picks of the distributed policy
leave the least load above every bound, summed over the physical devices, and so no choice leads to
a lower highest load. -/
theorem distributed_balances_best {request : Request} {ids : List DeviceId}
    (hsize : (request.required.length : Int) ≤ request.size)
    (hok : distributed inventory request = .ok ids) :
    (∀ id ∈ picked request ids, id ∈ candidates inventory request) ∧
      ((picked request ids).card : Int) = request.size - request.required.length ∧
      ∀ other : Finset DeviceId, (∀ id ∈ other, id ∈ candidates inventory request) →
        (other.card : Int) = request.size - request.required.length →
        (∀ bound, excess inventory (candidates inventory request) (picked request ids) bound ≤
          excess inventory (candidates inventory request) other bound) ∧
        highestLoad inventory (candidates inventory request) (picked request ids) ≤
          highestLoad inventory (candidates inventory request) other := by
  have hpool := pickable_candidates inventory request
  have hcard := card_picked hsize hok
  have hmem : ∀ id ∈ picked request ids, id ∈ candidates inventory request :=
    fun id hid => mem_candidates_of_mem_picked hsize hok hid
  have hbalanced : Balanced inventory (candidates inventory request) (picked request ids) := by
    rw [picked_eq_recounted hsize hok]
    exact (evenlyPicked_recounted hpool _).balanced
  refine ⟨hmem, hcard, ?_⟩
  intro other hother hcard'
  have hsame : other.card = (picked request ids).card := by
    omega
  exact ⟨excess_le_of_balanced hpool hmem hbalanced hother hsame,
    highestLoad_le_of_balanced hpool hmem hbalanced hother hsame⟩

/-- One replica of each device beats all three of the second one. -/
theorem distributed_uneven_balances_best :
    (unevenRequest.required.length : Int) ≤ unevenRequest.size ∧
      distributed unevenInventory unevenRequest = .ok ["a::0", "b::1", "c::0", "a::1"] ∧
      excess unevenInventory (candidates unevenInventory unevenRequest)
          (picked unevenRequest ["a::0", "b::1", "c::0", "a::1"]) 1 ≤
        excess unevenInventory (candidates unevenInventory unevenRequest)
          {"b::0", "b::1", "b::2"} 1 ∧
      highestLoad unevenInventory (candidates unevenInventory unevenRequest)
          (picked unevenRequest ["a::0", "b::1", "c::0", "a::1"]) ≤
        highestLoad unevenInventory (candidates unevenInventory unevenRequest)
          {"b::0", "b::1", "b::2"} := by
  have hsize : (unevenRequest.required.length : Int) ≤ unevenRequest.size := by decide
  have hok : distributed unevenInventory unevenRequest =
      .ok ["a::0", "b::1", "c::0", "a::1"] := by
    decide +kernel
  obtain ⟨-, -, hbest⟩ := distributed_balances_best hsize hok
  obtain ⟨hexcess, hhighest⟩ := hbest {"b::0", "b::1", "b::2"} (by decide +kernel)
    (by decide +kernel)
  exact ⟨hsize, hok, hexcess 1, hhighest⟩

end DeviceAllocation.Placement
