import DeviceAllocation.Log
import DeviceAllocation.Keyed
import DeviceAllocation.Sorting

namespace DeviceAllocation

abbrev Counters (κ : Type) := List (κ × Nat)

namespace Counters

variable {κ : Type} [DecidableEq κ]

def value (counters : Counters κ) (label : κ) : Nat :=
  ((Keyed.find? Prod.fst label counters).map Prod.snd).getD 0

def increment (counters : Counters κ) (label : κ) : Counters κ :=
  Keyed.put Prod.fst (label, counters.value label + 1) counters

end Counters

/-- Lengths counted by size: for each bound those that do not exceed it but exceed the bound before,
and last those that exceed all bounds. -/
structure LengthHistogram where
  counts : List Nat
  sum : Nat
  deriving DecidableEq, Repr

namespace LengthHistogram

def bounds : List Nat := [1, 2, 4, 8, 16, 32, 64]

def empty : LengthHistogram := ⟨List.replicate (bounds.length + 1) 0, 0⟩

/-- Counts `n` under the first bound that it does not exceed. -/
def countIn (n : Nat) : List Nat → List Nat → List Nat
  | bound :: bounds, count :: counts =>
    if n ≤ bound then (count + 1) :: counts else count :: countIn n bounds counts
  | [], count :: counts => (count + 1) :: counts
  | _, [] => []

def observe (histogram : LengthHistogram) (n : Nat) : LengthHistogram :=
  ⟨countIn n bounds histogram.counts, histogram.sum + n⟩

def count (histogram : LengthHistogram) : Nat :=
  histogram.counts.foldr (· + ·) 0

def runningSums (start : Nat) : List Nat → List Nat
  | [] => []
  | n :: ns => (start + n) :: runningSums (start + n) ns

/-- For each bound, and last without one, how many lengths do not exceed it. -/
def cumulative (histogram : LengthHistogram) : List Nat :=
  runningSums 0 histogram.counts

/-- A length is counted in exactly one bucket. -/
theorem sum_countIn (n : Nat) {bounds counts : List Nat} (h : bounds.length < counts.length) :
    (countIn n bounds counts).foldr (· + ·) 0 = counts.foldr (· + ·) 0 + 1 := by
  induction bounds generalizing counts with
  | nil =>
    cases counts with
    | nil => simp at h
    | cons count counts => simp [countIn]; omega
  | cons bound bounds ih =>
    cases counts with
    | nil => simp at h
    | cons count counts =>
      simp only [countIn]
      split
      · simp; omega
      · simp only [List.length_cons, Nat.add_lt_add_iff_right] at h
        simp [ih h]; omega

end LengthHistogram

structure Metrics where
  requests : Counters (Option Policy)
  failures : Counters (Option Policy × String)
  timed : Nat
  lengths : LengthHistogram
  environment : Option String
  deriving DecidableEq, Repr

namespace Metrics

def fresh : Metrics := ⟨[], [], 0, .empty, none⟩

def countRefusal (metrics : Metrics) (policy : Option Policy) (error : AllocationError) : Metrics :=
  { metrics with failures := metrics.failures.increment (policy, error.kind) }

/-- Counts a request, whatever came of it. -/
def countRequest (metrics : Metrics) (policy : Option Policy) : Metrics :=
  { metrics with requests := metrics.requests.increment policy, timed := metrics.timed + 1 }

def countAnswer (metrics : Metrics) (length : Nat) : Metrics :=
  { metrics with lengths := metrics.lengths.observe length }

end Metrics

structure Sample where
  name : String
  labels : List (String × String)
  value : Nat
  deriving DecidableEq, Repr

def version : String := "0.1.0"

namespace Metrics

def bucketLabels : List String :=
  LengthHistogram.bounds.map (fun bound => toString bound ++ ".0") ++ ["+Inf"]

def sorted {κ : Type} (label : κ → String × String) (counters : Counters κ) :
    List ((String × String) × Nat) :=
  sortBy (fun a b => a.1.1 < b.1.1 || (a.1.1 = b.1.1 && a.1.2 ≤ b.1.2))
    (counters.map fun entry => (label entry.1, entry.2))

/-- All values in the order of their names, buckets by their bound and the rest by their labels. -/
def samples (metrics : Metrics) : List Sample :=
  List.zipWith (fun label n => ⟨"allocation_devices_selected_bucket", [("le", label)], n⟩)
      bucketLabels metrics.lengths.cumulative ++
    [⟨"allocation_devices_selected_count", [], metrics.lengths.count⟩,
      ⟨"allocation_devices_selected_sum", [], metrics.lengths.sum⟩] ++
    ((sorted (fun (policy, kind) => (policyLabel policy, kind)) metrics.failures).map
      fun ((policy, reason), n) =>
        ⟨"allocation_failures_total", [("policy", policy), ("reason", reason)], n⟩) ++
    [⟨"allocation_latency_seconds_count", [], metrics.timed⟩] ++
    ((sorted (fun policy => (policyLabel policy, "")) metrics.requests).map
      fun ((policy, _), n) => ⟨"allocation_requests_total", [("policy", policy)], n⟩) ++
    [⟨"gpu_allocator_info",
      match metrics.environment with
      | none => []
      | some environment => [("environment", environment), ("version", version)], 1⟩]

end Metrics

end DeviceAllocation
