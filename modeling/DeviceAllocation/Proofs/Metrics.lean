import DeviceAllocation.Metrics
import Mathlib.Algebra.GroupWithZero.Nat
import Mathlib.Data.List.Induction
import Mathlib.Data.List.Nodup

namespace DeviceAllocation

/-! ### Counters -/

namespace Counters

variable {κ : Type} [DecidableEq κ] {counters : Counters κ}

theorem value_increment (counters : Counters κ) (used label : κ) :
    (counters.increment used).value label =
      counters.value label + if used = label then 1 else 0 := by
  rw [increment, value, Keyed.find?_put]
  by_cases hsame : used = label
  · simp [hsame]
  · simp [hsame, value]

theorem nodup_increment (h : (counters.map Prod.fst).Nodup) (used : κ) :
    ((counters.increment used).map Prod.fst).Nodup :=
  Keyed.nodup_put Prod.fst _ h

theorem value_of_mem (h : (counters.map Prod.fst).Nodup) {label : κ} {n : ℕ}
    (hmem : (label, n) ∈ counters) : counters.value label = n := by
  cases hfound : Keyed.find? Prod.fst label counters with
  | none =>
    have hlabel : label ∈ counters.map Prod.fst := List.mem_map.mpr ⟨_, hmem, rfl⟩
    have hsome := Keyed.isSome_find?.mpr hlabel
    rw [hfound] at hsome
    cases hsome
  | some entry =>
    have hentry := List.inj_on_of_nodup_map h (Keyed.mem_of_find? hfound) hmem
      (Keyed.key_of_find? hfound)
    rw [value, hfound, hentry]
    rfl

theorem mem_of_value_ne_zero {label : κ} (h : counters.value label ≠ 0) :
    (label, counters.value label) ∈ counters := by
  cases hfound : Keyed.find? Prod.fst label counters with
  | none =>
    rw [value, hfound] at h
    exact absurd rfl h
  | some entry =>
    have hvalue : counters.value label = entry.2 := by
      rw [value, hfound]
      rfl
    have hkey := Keyed.key_of_find? hfound
    rw [hvalue, ← hkey]
    exact Keyed.mem_of_find? hfound

end Counters

/-! ### Buckets -/

namespace LengthHistogram

def ofLengths (lengths : List ℕ) : LengthHistogram := lengths.foldl observe empty

theorem ofLengths_append (lengths : List ℕ) (n : ℕ) :
    ofLengths (lengths ++ [n]) = (ofLengths lengths).observe n := by
  rw [ofLengths, List.foldl_append]
  rfl

theorem length_countIn (n : ℕ) {bounds counts : List ℕ}
    (hlength : counts.length = bounds.length + 1) :
    (countIn n bounds counts).length = bounds.length + 1 := by
  induction bounds generalizing counts with
  | nil =>
    obtain ⟨count, rfl⟩ := List.length_eq_one_iff.mp hlength
    rfl
  | cons bound bounds ih =>
    obtain ⟨count, counts, rfl⟩ := List.exists_cons_of_length_eq_add_one hlength
    rw [countIn]
    split
    · exact hlength
    · have hrest : counts.length = bounds.length + 1 := Nat.succ.inj hlength
      rw [List.length_cons, ih hrest, List.length_cons]

/-- For each bound, and last without one, whether a length does not exceed it. -/
def marks (n : ℕ) (bounds : List ℕ) : List ℕ :=
  bounds.map (fun bound => if n ≤ bound then 1 else 0) ++ [1]

theorem marks_cons (n bound : ℕ) (bounds : List ℕ) :
    marks n (bound :: bounds) = (if n ≤ bound then 1 else 0) :: marks n bounds := rfl

theorem runningSums_succ {n : ℕ} (start : ℕ) {bounds counts : List ℕ}
    (hlength : counts.length = bounds.length + 1) (hbounds : ∀ bound ∈ bounds, n ≤ bound) :
    runningSums (start + 1) counts =
      List.zipWith (· + ·) (runningSums start counts) (marks n bounds) := by
  induction bounds generalizing start counts with
  | nil =>
    obtain ⟨count, rfl⟩ := List.length_eq_one_iff.mp hlength
    have hstart : start + 1 + count = start + count + 1 := by omega
    rw [runningSums, runningSums, hstart]
    rfl
  | cons bound bounds ih =>
    obtain ⟨count, counts, rfl⟩ := List.exists_cons_of_length_eq_add_one hlength
    have hstart : start + 1 + count = start + count + 1 := by omega
    have hrest : ∀ later ∈ bounds, n ≤ later := fun later hlater =>
      hbounds later (List.mem_cons_of_mem _ hlater)
    rw [runningSums, hstart, ih _ (Nat.succ.inj hlength) hrest, marks_cons,
      if_pos (hbounds bound List.mem_cons_self), runningSums, List.zipWith_cons_cons]

theorem runningSums_countIn (n start : ℕ) {bounds counts : List ℕ}
    (hlength : counts.length = bounds.length + 1) (hbounds : bounds.Pairwise (· ≤ ·)) :
    runningSums start (countIn n bounds counts) =
      List.zipWith (· + ·) (runningSums start counts) (marks n bounds) := by
  induction bounds generalizing start counts with
  | nil =>
    obtain ⟨count, rfl⟩ := List.length_eq_one_iff.mp hlength
    rfl
  | cons bound bounds ih =>
    obtain ⟨count, counts, rfl⟩ := List.exists_cons_of_length_eq_add_one hlength
    obtain ⟨hfirst, hrest⟩ := List.pairwise_cons.mp hbounds
    rw [countIn, marks_cons]
    by_cases hn : n ≤ bound
    · -- the bounds that follow are not exceeded either
      have hall := runningSums_succ (start + count) (Nat.succ.inj hlength)
        fun later hlater => Nat.le_trans hn (hfirst later hlater)
      rw [if_pos hn, if_pos hn, runningSums, ← Nat.add_assoc, hall, runningSums,
        List.zipWith_cons_cons]
    · rw [if_neg hn, if_neg hn, runningSums, ih _ (Nat.succ.inj hlength) hrest, runningSums,
        List.zipWith_cons_cons, Nat.add_zero]

theorem length_counts_ofLengths (lengths : List ℕ) :
    (ofLengths lengths).counts.length = bounds.length + 1 := by
  induction lengths using List.reverseRecOn with
  | nil => rfl
  | append_singleton lengths n ih =>
    rw [ofLengths_append]
    exact length_countIn n ih

/-- What is reported for a bound is the number of lengths that do not exceed it. -/
theorem cumulative_ofLengths (lengths : List ℕ) :
    (ofLengths lengths).cumulative =
      bounds.map (fun bound => lengths.countP (· ≤ bound)) ++ [lengths.length] := by
  induction lengths using List.reverseRecOn with
  | nil => rfl
  | append_singleton lengths n ih =>
    have hstep := runningSums_countIn n 0 (length_counts_ofLengths lengths) (by decide)
    rw [cumulative] at ih
    rw [ofLengths_append, cumulative, observe, hstep, ih, marks,
      List.zipWith_append (by rw [List.length_map, List.length_map]), List.zipWith_map,
      List.zipWith_self]
    simp only [List.countP_append, List.countP_singleton, List.length_append, List.length_singleton,
      decide_eq_true_eq, List.zipWith_cons_cons, List.zipWith_nil_left]

theorem count_ofLengths (lengths : List ℕ) : (ofLengths lengths).count = lengths.length := by
  induction lengths using List.reverseRecOn with
  | nil => rfl
  | append_singleton lengths n ih =>
    have hbuckets : bounds.length < (ofLengths lengths).counts.length := by
      rw [length_counts_ofLengths]
      exact Nat.lt_succ_self _
    have hone := sum_countIn n hbuckets
    rw [ofLengths_append, count, observe, hone, List.length_append, List.length_singleton, ← ih]
    rfl

theorem sum_ofLengths (lengths : List ℕ) : (ofLengths lengths).sum = lengths.sum := by
  induction lengths using List.reverseRecOn with
  | nil => rfl
  | append_singleton lengths n ih =>
    rw [ofLengths_append, observe, ih, List.sum_append, List.sum_singleton]

end LengthHistogram

/-! ### Reported values -/

namespace Metrics

variable {metrics : Metrics} {samples : List Sample} {name : String}
  {labels : List (String × String)} {n : ℕ}

/-- The value reported under a name and labels. Where none is reported, nothing was counted. -/
def reading (samples : List Sample) (name : String) (labels : List (String × String)) : ℕ :=
  ((samples.find? fun sample => sample.name = name ∧ sample.labels = labels).map
    Sample.value).getD 0

theorem reading_eq (honly : ∀ m, ⟨name, labels, m⟩ ∈ samples → m = n)
    (hreported : n ≠ 0 → ⟨name, labels, n⟩ ∈ samples) : reading samples name labels = n := by
  rw [reading]
  cases hfound : samples.find? fun sample => sample.name = name ∧ sample.labels = labels with
  | none =>
    by_contra hn
    have hnone := List.find?_eq_none.mp hfound _ (hreported (Ne.symm hn))
    simp only [and_self, decide_true, not_true_eq_false] at hnone
  | some sample =>
    have hsample := List.find?_some hfound
    simp only [decide_eq_true_eq] at hsample
    obtain ⟨rfl, rfl⟩ := hsample
    exact honly _ (List.mem_of_find?_eq_some hfound)

theorem policyLabel_injective {policy other : Option Policy}
    (h : policyLabel policy = policyLabel other) : policy = other := by
  rcases policy with _ | policy <;> rcases other with _ | other
  · rfl
  · cases other <;> simp [policyLabel, Policy.name] at h
  · cases policy <;> simp [policyLabel, Policy.name] at h
  · cases policy <;> cases other <;> simp [policyLabel, Policy.name] at h ⊢

theorem mem_sorted {κ : Type} {label : κ → String × String} {counters : Counters κ}
    {entry : (String × String) × ℕ} :
    entry ∈ sorted label counters ↔ ∃ used n, (used, n) ∈ counters ∧ entry = (label used, n) := by
  rw [sorted, (sortBy_perm _ _).mem_iff, List.mem_map, Prod.exists]
  exact exists₂_congr fun used n => and_congr_right fun _ => eq_comm

theorem mem_map_sorted {κ : Type} {label : κ → String × String} {counters : Counters κ}
    {report : (String × String) × ℕ → Sample} {sample : Sample} :
    sample ∈ (sorted label counters).map report ↔
      ∃ used n, (used, n) ∈ counters ∧ sample = report (label used, n) := by
  rw [List.mem_map]
  constructor
  · rintro ⟨entry, hentry, rfl⟩
    obtain ⟨used, n, hmem, rfl⟩ := mem_sorted.mp hentry
    exact ⟨used, n, hmem, rfl⟩
  · rintro ⟨used, n, hmem, rfl⟩
    exact ⟨_, mem_sorted.mpr ⟨used, n, hmem, rfl⟩, rfl⟩

theorem mem_buckets {labels : List String} {counts : List ℕ} {report : String → ℕ → Sample}
    {sample : Sample} :
    sample ∈ List.zipWith report labels counts ↔
      ∃ label n, (label, n) ∈ labels.zip counts ∧ sample = report label n := by
  rw [← List.map_uncurry_zip_eq_zipWith, List.mem_map, Prod.exists]
  exact exists₂_congr fun label n => and_congr_right fun _ => eq_comm

def infoLabels (metrics : Metrics) : List (String × String) :=
  match metrics.environment with
  | none => []
  | some environment => [("environment", environment), ("version", version)]

theorem mem_samples {sample : Sample} :
    sample ∈ metrics.samples ↔
      (∃ label n, (label, n) ∈ bucketLabels.zip metrics.lengths.cumulative ∧
        sample = ⟨"allocation_devices_selected_bucket", [("le", label)], n⟩) ∨
      sample = ⟨"allocation_devices_selected_count", [], metrics.lengths.count⟩ ∨
      sample = ⟨"allocation_devices_selected_sum", [], metrics.lengths.sum⟩ ∨
      (∃ used n, (used, n) ∈ metrics.failures ∧
        sample = ⟨"allocation_failures_total",
          [("policy", policyLabel used.1), ("reason", used.2)], n⟩) ∨
      sample = ⟨"allocation_latency_seconds_count", [], metrics.timed⟩ ∨
      (∃ policy n, (policy, n) ∈ metrics.requests ∧
        sample = ⟨"allocation_requests_total", [("policy", policyLabel policy)], n⟩) ∨
      sample = ⟨"gpu_allocator_info", metrics.infoLabels, 1⟩ := by
  rw [Metrics.samples]
  simp only [List.mem_append, List.mem_cons, List.not_mem_nil, or_false, mem_map_sorted,
    mem_buckets, or_assoc]
  exact Iff.rfl

theorem reading_of_iff (h : ∀ m, ⟨name, labels, m⟩ ∈ samples ↔ m = n) :
    reading samples name labels = n :=
  reading_eq (fun m => (h m).mp) fun _ => (h n).mpr rfl

theorem reading_timed (metrics : Metrics) :
    reading metrics.samples "allocation_latency_seconds_count" [] = metrics.timed := by
  apply reading_of_iff
  intro m
  simp [mem_samples]

theorem reading_count (metrics : Metrics) :
    reading metrics.samples "allocation_devices_selected_count" [] = metrics.lengths.count := by
  apply reading_of_iff
  intro m
  simp [mem_samples]

theorem reading_sum (metrics : Metrics) :
    reading metrics.samples "allocation_devices_selected_sum" [] = metrics.lengths.sum := by
  apply reading_of_iff
  intro m
  simp [mem_samples]

/-- What is reported as a counter is its value. One that was never used is not reported. -/
theorem reading_counter {κ : Type} [DecidableEq κ] {counters : Counters κ}
    (hlabels : (counters.map Prod.fst).Nodup) (used : κ)
    (h : ∀ m, ⟨name, labels, m⟩ ∈ samples ↔ (used, m) ∈ counters) :
    reading samples name labels = counters.value used := by
  apply reading_eq
  · intro m hmem
    exact (Counters.value_of_mem hlabels ((h m).mp hmem)).symm
  · intro hused
    exact (h _).mpr (Counters.mem_of_value_ne_zero hused)

theorem reading_requests (h : (metrics.requests.map Prod.fst).Nodup) (policy : Option Policy) :
    reading metrics.samples "allocation_requests_total" [("policy", policyLabel policy)] =
      metrics.requests.value policy := by
  refine reading_counter h policy fun m => ?_
  simp only [mem_samples, Sample.mk.injEq, String.reduceEq, false_and, and_false, exists_false,
    false_or, or_false, List.cons.injEq, Prod.mk.injEq, true_and, and_true]
  constructor
  · rintro ⟨used, n, hmem, hlabel, rfl⟩
    rw [policyLabel_injective hlabel]
    exact hmem
  · intro hmem
    exact ⟨policy, m, hmem, rfl, rfl⟩

theorem reading_failures (h : (metrics.failures.map Prod.fst).Nodup) (policy : Option Policy)
    (reason : String) :
    reading metrics.samples "allocation_failures_total"
        [("policy", policyLabel policy), ("reason", reason)] =
      metrics.failures.value (policy, reason) := by
  refine reading_counter h (policy, reason) fun m => ?_
  simp only [mem_samples, Sample.mk.injEq, String.reduceEq, false_and, and_false, exists_false,
    false_or, or_false, List.cons.injEq, Prod.mk.injEq, true_and, and_true]
  constructor
  · rintro ⟨⟨used, kind⟩, n, hmem, ⟨hlabel, rfl⟩, rfl⟩
    rw [policyLabel_injective hlabel]
    exact hmem
  · intro hmem
    exact ⟨(policy, reason), m, hmem, ⟨rfl, rfl⟩, rfl⟩

theorem mem_buckets_samples {label : String} :
    ⟨"allocation_devices_selected_bucket", [("le", label)], n⟩ ∈ metrics.samples ↔
      (label, n) ∈ bucketLabels.zip metrics.lengths.cumulative := by
  simp [mem_samples]

theorem mem_zip_cumulative {lengths : List ℕ} {label : String} :
    (label, n) ∈ bucketLabels.zip (LengthHistogram.ofLengths lengths).cumulative ↔
      (∃ bound ∈ LengthHistogram.bounds, toString bound ++ ".0" = label ∧
        lengths.countP (· ≤ bound) = n) ∨
      label = "+Inf" ∧ n = lengths.length := by
  have hsame {bounds : List ℕ} : (bounds.map fun bound => toString bound ++ ".0").length =
      (bounds.map fun bound => lengths.countP (· ≤ bound)).length := by
    rw [List.length_map, List.length_map]
  rw [LengthHistogram.cumulative_ofLengths, bucketLabels, List.zip_append hsame, List.zip_map',
    List.mem_append, List.mem_map, List.zip_cons_cons, List.zip_nil_left, List.mem_singleton]
  simp only [Prod.mk.injEq]

theorem bucketLabel_injective :
    ∀ bound ∈ LengthHistogram.bounds, ∀ other ∈ LengthHistogram.bounds,
      toString other ++ ".0" = toString bound ++ ".0" → other = bound := by
  decide

theorem bucketLabel_ne_last :
    ∀ bound ∈ LengthHistogram.bounds, toString bound ++ ".0" ≠ "+Inf" := by
  decide

/-- The value reported for a bound is the number of observed lengths that do not exceed it. -/
theorem reading_bucket {lengths : List ℕ} (h : metrics.lengths = .ofLengths lengths) {bound : ℕ}
    (hbound : bound ∈ LengthHistogram.bounds) :
    reading metrics.samples "allocation_devices_selected_bucket" [("le", toString bound ++ ".0")] =
      lengths.countP (· ≤ bound) := by
  refine reading_of_iff fun m => ?_
  rw [mem_buckets_samples, h, mem_zip_cumulative]
  constructor
  · rintro (⟨other, hother, hlabel, hcount⟩ | ⟨hlabel, -⟩)
    · rw [← hcount, bucketLabel_injective bound hbound other hother hlabel]
    · exact absurd hlabel (bucketLabel_ne_last bound hbound)
  · intro hm
    exact Or.inl ⟨bound, hbound, rfl, hm.symm⟩

theorem reading_last_bucket {lengths : List ℕ} (h : metrics.lengths = .ofLengths lengths) :
    reading metrics.samples "allocation_devices_selected_bucket" [("le", "+Inf")] =
      lengths.length := by
  refine reading_of_iff fun m => ?_
  rw [mem_buckets_samples, h, mem_zip_cumulative]
  constructor
  · rintro (⟨bound, hbound, hlabel, -⟩ | ⟨-, hcount⟩)
    · exact absurd hlabel (bucketLabel_ne_last bound hbound)
    · exact hcount
  · intro hm
    exact Or.inr ⟨rfl, hm⟩

end Metrics

end DeviceAllocation
