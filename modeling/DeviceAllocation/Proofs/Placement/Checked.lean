import DeviceAllocation.Placement.Aligned
import DeviceAllocation.Proofs.Placement.Growth
import DeviceAllocation.Proofs.Placement.Level

/-! The loops of the placement rules with every look-up checked. One that reaches for something that
is not there ends with `none`. -/

namespace DeviceAllocation

section Scan

variable {α : Type}

/-- Goes through a list with the best entry so far and its score. A later entry takes over only when
it scores more. -/
def scan (score : α → Int) (best : α × Int) (xs : List α) : α × Int :=
  xs.foldl (fun best x => if best.2 < score x then (x, score x) else best) best

theorem scan_eq (score : α → Int) (best : α × Int) (xs : List α) :
    scan score best xs = match firstMax? score xs with
      | none => best
      | some x => if best.2 < score x then (x, score x) else best := by
  induction xs generalizing best with
  | nil => rfl
  | cons x xs ih =>
    have hstep : scan score best (x :: xs) =
        scan score (if best.2 < score x then (x, score x) else best) xs := rfl
    rw [hstep, ih, firstMax?]
    cases firstMax? score xs with
    | none => rfl
    | some y =>
      -- whether the scan meets `x` or starts from it, the better of `x` and `y` stays, `x` on a tie
      by_cases hxy : score x < score y
      · simp only [if_pos hxy]
        by_cases hbest : best.2 < score x
        · have hy : best.2 < score y := by omega
          simp only [if_pos hbest, if_pos hxy, if_pos hy]
        · simp only [if_neg hbest]
      · simp only [if_neg hxy]
        by_cases hbest : best.2 < score x
        · simp only [if_pos hbest, if_neg hxy]
        · have hy : ¬ best.2 < score y := by omega
          simp only [if_neg hbest, if_neg hy]

theorem mapM_eq_some_map {β : Type} {f : α → Option β} {g : α → β} {xs : List α}
    (h : ∀ x ∈ xs, f x = some (g x)) : xs.mapM f = some (xs.map g) := by
  induction xs with
  | nil => rfl
  | cons x xs ih =>
    have hrest := ih fun y hy => h y (List.mem_cons_of_mem x hy)
    rw [List.mapM_cons, h x List.mem_cons_self, hrest]
    rfl

end Scan

namespace Placement

/-! ### Growing a selection -/

def scanBest? (net : Interconnect) (selection : List Gpu) : List Gpu → Option Gpu
  | [] => none
  | first :: others =>
    some (scan (net.scoreAgainst selection) (first, net.scoreAgainst selection first) others).1

def grow? (net : Interconnect) (size : Int) (selection candidates : List Gpu) :
    Option (List Gpu) :=
  if selection.length < size then
    match scanBest? net selection candidates with
    | none => none
    | some best =>
      if best ∈ candidates then grow? net size (selection ++ [best]) (candidates.erase best)
      else none
  else some selection
termination_by (size - selection.length).toNat
decreasing_by
  rw [List.length_append, List.length_singleton]
  omega

/-- Grows a selection from each candidate and keeps the one of the highest score, as long as it is
above `-1`. -/
def bestFromSeeds? (net : Interconnect) (size : Int) (candidates : List Gpu) :
    Option (List Gpu) := do
  let grown ← candidates.mapM fun seed => grow? net size [seed] (candidates.filter (· ≠ seed))
  return (scan net.totalScore ([], -1) grown).1

def bestEffort? (net : Interconnect) (available required : List Gpu) (size : Int) :
    Option (List Gpu) :=
  if OutOfReach available required size then some []
  else if required = [] then bestFromSeeds? net size available.eraseDups
  else grow? net size required.eraseDups (available.eraseDups.filter (· ∉ required.eraseDups))

theorem scanBest?_eq (net : Interconnect) (selection candidates : List Gpu) :
    scanBest? net selection candidates = firstMax? (net.scoreAgainst selection) candidates := by
  cases candidates with
  | nil => rfl
  | cons first others =>
    rw [scanBest?, scan_eq, firstMax?]
    cases firstMax? (net.scoreAgainst selection) others with
    | none => rfl
    | some best =>
      simp only
      split <;> rfl

/-- While a selection is on its way there is a candidate to move, so growing never stops short. -/
theorem Growing.grow?_eq {available required selection candidates : List Gpu} {size : ℕ}
    (h : Growing available required size selection candidates) (net : Interconnect) :
    grow? net size selection candidates =
      some (Placement.grow net (size - selection.length) selection candidates) := by
  -- the induction is on the room that is left, as in `Growing.grow`
  generalize hcount : size - selection.length = count
  induction count generalizing selection candidates with
  | zero =>
    have hroom := h.room
    rw [grow?, if_neg (by omega), Placement.grow]
  | succ count ih =>
    have hroom : selection.length < size := by omega
    rw [grow?, if_pos (by omega), scanBest?_eq, Placement.grow]
    cases hbest : firstMax? (net.scoreAgainst selection) candidates with
    | none => exact absurd (firstMax?_eq_none_iff.mp hbest) (h.candidates_ne_nil hroom)
    | some best =>
      have hmem := mem_of_firstMax? hbest
      simp only [if_pos hmem]
      apply ih (h.add hmem hroom)
      rw [List.length_append, List.length_singleton]
      omega

theorem bestFromSeeds?_eq {available : List Gpu} {size : Int}
    (h : ¬ OutOfReach available [] size) (net : Interconnect) :
    bestFromSeeds? net size available.eraseDups =
      some (bestFromSeeds net size.toNat available.eraseDups) := by
  have hcast : (size.toNat : Int) = size := Int.toNat_of_nonneg (pos_of_reach h).le
  have hgrown : available.eraseDups.mapM (fun seed => grow? net size [seed]
      (available.eraseDups.filter (· ≠ seed))) =
        some (available.eraseDups.map (growFrom net size.toNat available.eraseDups)) := by
    apply mapM_eq_some_map
    intro seed hseed
    have herase : available.eraseDups.filter (· ≠ seed) = available.eraseDups.erase seed := by
      rw [(nodup_eraseDups available).erase_eq_filter]
      simp only [bne, beq_eq_decide, decide_not, ne_eq]
    have hgrow := (Growing.of_seed h (List.mem_eraseDups.mp hseed)).grow?_eq net
    rw [hcast] at hgrow
    rw [herase, hgrow]
    rfl
  rw [bestFromSeeds?, hgrown, bestFromSeeds, Option.bind_eq_bind, Option.bind_some, scan_eq]
  cases firstMax? net.totalScore
    (available.eraseDups.map (growFrom net size.toNat available.eraseDups)) with
  | none => rfl
  | some best =>
    -- a score is above `-1` exactly when it is not negative
    by_cases hneg : net.totalScore best < 0
    · simp only [if_pos hneg, if_neg (show ¬ -1 < net.totalScore best by omega)]
      rfl
    · simp only [if_neg hneg, if_pos (show -1 < net.totalScore best by omega)]
      rfl

theorem bestEffort?_eq (net : Interconnect) (available required : List Gpu) (size : Int) :
    bestEffort? net available required size = some (bestEffort net available required size) := by
  rw [bestEffort?, bestEffort_eq]
  by_cases hreach : OutOfReach available required size
  · rw [if_pos hreach, if_pos hreach]
  rw [if_neg hreach, if_neg hreach]
  by_cases hempty : required = []
  · rw [if_pos hempty, if_pos hempty]
    exact bestFromSeeds?_eq (hempty ▸ hreach) net
  · have hgrow := (Growing.of_reach hreach).grow?_eq net
    rw [Int.toNat_of_nonneg (pos_of_reach hreach).le] at hgrow
    rw [if_neg hempty, if_neg hempty, hgrow]

def aligned? (net scores : Interconnect) (request : Request) :
    Option (Except Failure (List DeviceId)) :=
  match resolveList net .available request.available with
  | .error error => some (.error (.refused error))
  | .ok available =>
    match resolveList net .required request.required with
    | .error error => some (.error (.refused error))
    | .ok required =>
      (bestEffort? scores available required request.size).map fun chosen =>
        .ok (chosen.map Gpu.uuid)

theorem aligned?_eq (net scores : Interconnect) (request : Request) :
    aligned? net scores request = some (aligned net (bestEffortAllocator scores) request) := by
  rw [aligned?, aligned]
  cases resolveList net .available request.available with
  | error error => rfl
  | ok available =>
    cases resolveList net .required request.required with
    | error error => rfl
    | ok required =>
      simp only [bestEffort?_eq, Option.map_some]
      rfl

/-! ### Picking for the distributed policy -/

def Accounting.Counts (accounting : Accounting) (id : DeviceId) : Prop :=
  (accounting.count? (DeviceId.base id)).isSome

instance (accounting : Accounting) (id : DeviceId) : Decidable (accounting.Counts id) :=
  inferInstanceAs (Decidable (_ = true))

/-- Puts the remaining candidates in order before each pick, which needs the count of the device and
the position of each of them, takes the first one and reduces the count of its device. -/
def picks? (pool : List DeviceId) : ℕ → Accounting → List DeviceId → Option (List DeviceId)
  | 0, _, _ => some []
  | count + 1, accounting, rest =>
    if ∀ id ∈ rest, accounting.Counts id ∧ id ∈ pool then
      match sortBy (ranksFirst accounting pool.idxOf) rest with
      | [] => none
      | pick :: others =>
        if accounting.Counts pick then
          (picks? pool count (accounting.take pick) others).map (pick :: ·)
        else none
    else none

def distributed? (inventory : DeviceSet) (request : Request) :
    Option (Except AllocationError (List DeviceId)) :=
  let pool := candidates inventory request
  if pool.length < request.needed then
    some (.error (.insufficientDevices request.needed pool.length))
  else
    (picks? pool request.needed.toNat (Accounting.ofCandidates inventory pool) pool).map
      fun picks => .ok (request.required ++ picks)

theorem Accounting.counts_iff {accounting : Accounting} {id : DeviceId} :
    accounting.Counts id ↔ DeviceId.base id ∈ accounting.map ReplicaCount.base :=
  Keyed.isSome_find?

theorem Accounting.counts_take {accounting : Accounting} {pick id : DeviceId} :
    (accounting.take pick).Counts id ↔ accounting.Counts id := by
  have hbases : (accounting.take pick).map ReplicaCount.base =
      accounting.map ReplicaCount.base := by
    rw [Accounting.take, Accounting.change, List.map_map]
    apply List.map_congr_left
    intro count _
    rw [Function.comp_apply]
    split <;> rfl
  rw [Accounting.counts_iff, Accounting.counts_iff, hbases]

theorem Accounting.counts_ofCandidates (inventory : DeviceSet) {pool : List DeviceId}
    {id : DeviceId} (hid : id ∈ pool) : (Accounting.ofCandidates inventory pool).Counts id := by
  have hbase : DeviceId.base id ∈ (pool.map DeviceId.base).eraseDups :=
    List.mem_eraseDups.mpr (List.mem_map_of_mem hid)
  rw [ofCandidates_eq_ledger, Accounting.Counts, count?_ledger hbase]
  rfl

theorem picks?_eq {pool rest : List DeviceId} {accounting : Accounting} {count : ℕ}
    (henough : count ≤ rest.length) (hrest : ∀ id ∈ rest, accounting.Counts id ∧ id ∈ pool) :
    picks? pool count accounting rest = some (resorted pool.idxOf count accounting rest) := by
  -- every pick takes one candidate away, and `henough` leaves one for each pick to come
  induction count generalizing accounting rest with
  | zero => rfl
  | succ count ih =>
    have hperm := sortBy_perm (ranksFirst accounting pool.idxOf) rest
    rw [picks?, resorted, if_pos hrest]
    cases hsorted : sortBy (ranksFirst accounting pool.idxOf) rest with
    | nil =>
      rw [hsorted] at hperm
      rw [hperm.nil_eq.symm, List.length_nil] at henough
      omega
    | cons pick others =>
      rw [hsorted] at hperm
      have hlen := hperm.length_eq
      rw [List.length_cons] at hlen
      have hpick := hrest pick (hperm.mem_iff.mp List.mem_cons_self)
      -- a pick closes no count, so the others stay counted
      have hothers : ∀ id ∈ others, (accounting.take pick).Counts id ∧ id ∈ pool := by
        intro id hid
        have hboth := hrest id (hperm.mem_iff.mp (List.mem_cons_of_mem pick hid))
        exact ⟨Accounting.counts_take.mpr hboth.1, hboth.2⟩
      simp only [if_pos hpick.1, ih (by omega) hothers, Option.map_some]

/-- The distributed policy looks nothing up in vain. -/
theorem distributed?_eq (inventory : DeviceSet) (request : Request) :
    distributed? inventory request = some (distributed inventory request) := by
  have hpool := nodup_candidates inventory request
  simp only [distributed?, distributed]
  split
  · rfl
  · rename_i henough
    have hcounted : ∀ id ∈ candidates inventory request,
        (Accounting.ofCandidates inventory (candidates inventory request)).Counts id ∧
          id ∈ candidates inventory request :=
      fun id hid => ⟨Accounting.counts_ofCandidates inventory hid, hid⟩
    rw [picks?_eq (by omega) hcounted, resorted_idxOf hpool, Option.map_some]

end Placement

end DeviceAllocation
