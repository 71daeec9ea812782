import DeviceAllocation.Proofs.Metrics
import DeviceAllocation.Proofs.Service.History
import Mathlib.Algebra.BigOperators.Ring.Finset

namespace DeviceAllocation

structure Handled where
  policy : Option Policy
  outcome : Except Failure (List DeviceId)

namespace Handled

def refusal? (handled : Handled) : Option String :=
  match handled.outcome with
  | .error (.refused error) => some error.kind
  | _ => none

def selection? (handled : Handled) : Option (List DeviceId) :=
  match handled.outcome with
  | .ok (device :: devices) => some (device :: devices)
  | _ => none

def addTo (handled : Handled) (metrics : Metrics) : Metrics where
  requests := metrics.requests.increment handled.policy
  failures :=
    match handled.refusal? with
    | some kind => metrics.failures.increment (handled.policy, kind)
    | none => metrics.failures
  timed := metrics.timed + 1
  lengths :=
    match handled.selection? with
    | some devices => metrics.lengths.observe devices.length
    | none => metrics.lengths
  environment := metrics.environment

end Handled

namespace Service

variable {selector : Selector} {inventory : DeviceSet} {strategy : Strategy} {request : Request}

/-! ### One request -/

/-- The request of an event as it was handled: the policy that was chosen for it, and how the
response ended. -/
def handled? (state : State) (event : Event) : Option Handled :=
  match event, (step state event).2 with
  | .request _ request, some response =>
    some ⟨(classify state.inventory request.available state.strategy).toOption, response.outcome⟩
  | _, _ => none

theorem handled?_request (state : State) (selector : Selector) (request : Request) :
    handled? state (.request selector request) =
      some ⟨(classify state.inventory request.available state.strategy).toOption,
        selector.select state.inventory state.strategy request⟩ := by
  have houtcome : (respond selector state.inventory state.strategy request
      state.metrics).outcome = selector.select state.inventory state.strategy request :=
    handle_fst _
  rw [← houtcome]
  rfl

theorem attempt_snd {progress : Progress} (h : progress.policy = none) :
    (attempt selector inventory strategy request progress).2.policy =
        (classify inventory request.available strategy).toOption ∧
      (attempt selector inventory strategy request progress).2.metrics = progress.metrics := by
  rw [attempt]
  cases classify inventory request.available strategy with
  | error error => exact ⟨h, rfl⟩
  | ok policy => exact ⟨rfl, rfl⟩

/-- Counting happens in three places around an attempt. Each way to end passes through those that
count it. -/
theorem handle_snd (progress : Progress) :
    (handle selector inventory strategy request progress).2.metrics =
      (Handled.mk (attempt selector inventory strategy request progress).2.policy
        (attempt selector inventory strategy request progress).1).addTo
        (attempt selector inventory strategy request progress).2.metrics := by
  rw [handle, inSpan, counting, reportingRefusals]
  rcases attempt selector inventory strategy request progress with
    ⟨(error | fault) | (_ | ⟨device, devices⟩), after⟩
  -- a refusal, another failure, an answer without devices and one with devices
  · rfl
  · rfl
  · rfl
  · rfl

theorem respond_metrics (metrics : Metrics) :
    (respond selector inventory strategy request metrics).metrics =
      (Handled.mk (classify inventory request.available strategy).toOption
        (selector.select inventory strategy request)).addTo metrics := by
  have hstart : (Progress.start strategy request metrics).policy = none := rfl
  obtain ⟨hpolicy, hmetrics⟩ := attempt_snd hstart
  rw [respond]
  dsimp only
  rw [handle_snd, hpolicy, hmetrics, attempt_fst]
  rfl

theorem step_metrics (state : State) (event : Event) :
    (step state event).1.metrics =
      (handled? state event).elim state.metrics fun one => one.addTo state.metrics := by
  cases event with
  | request selector request =>
    rw [handled?_request]
    exact respond_metrics state.metrics
  | newInventory inventory => rfl
  | newStrategy strategy => rfl

theorem error_of_classify {available : List DeviceId} {error : AllocationError}
    (h : classify inventory available strategy = .error error) : error = .noValidPolicy := by
  unfold classify at h
  split at h
  · cases h
  · cases strategy with
    | none =>
      cases h
      rfl
    | packed => cases h
    | distributed => cases h

/-- Without a policy, that there is none is the reason for the refusal. -/
theorem refusal_of_policy_none {state : State} {event : Event} {one : Handled}
    (hone : handled? state event = some one) (h : one.policy = none) :
    one.refusal? = some AllocationError.noValidPolicy.kind := by
  cases event with
  | request selector request =>
    rw [handled?_request] at hone
    obtain rfl := Option.some.inj hone
    rw [Handled.refusal?, Selector.select]
    cases hclassify : classify state.inventory request.available state.strategy with
    | error error => rw [error_of_classify hclassify]
    | ok policy =>
      dsimp only at h
      rw [hclassify] at h
      cases h
  | newInventory inventory => cases hone
  | newStrategy strategy => cases hone

/-! ### Histories -/

/-- The requests that are handled in a history, each with its response. -/
def handled (state : State) : List Event → List Handled
  | [] => []
  | event :: events => (handled? state event).toList ++ handled (step state event).1 events

theorem refusal_of_mem_handled {state : State} {events : List Event} {one : Handled}
    (hmem : one ∈ handled state events) (h : one.policy = none) :
    one.refusal? = some AllocationError.noValidPolicy.kind := by
  induction events generalizing state with
  | nil => cases hmem
  | cons event events ih =>
    rcases List.mem_append.mp hmem with hnow | hlater
    · exact refusal_of_policy_none (Option.mem_toList.mp hnow) h
    · exact ih hlater

def selectedLengths (past : List Handled) : List ℕ :=
  (past.filterMap Handled.selection?).map List.length

structure Counts (metrics : Metrics) (past : List Handled) : Prop where
  requests : ∀ policy, metrics.requests.value policy = past.countP fun one => one.policy = policy
  requests_nodup : (metrics.requests.map Prod.fst).Nodup
  failures : ∀ policy kind, metrics.failures.value (policy, kind) =
    past.countP fun one => one.policy = policy ∧ one.refusal? = some kind
  failures_nodup : (metrics.failures.map Prod.fst).Nodup
  timed : metrics.timed = past.length
  lengths : metrics.lengths = .ofLengths (selectedLengths past)

theorem Counts.fresh : Counts .fresh [] where
  requests _ := rfl
  requests_nodup := List.nodup_nil
  failures _ _ := rfl
  failures_nodup := List.nodup_nil
  timed := rfl
  lengths := rfl

theorem Counts.addTo {metrics : Metrics} {past : List Handled} (h : Counts metrics past)
    (one : Handled) : Counts (one.addTo metrics) (past ++ [one]) where
  requests policy := by
    rw [Handled.addTo, Counters.value_increment, h.requests, List.countP_append,
      List.countP_singleton]
    simp only [decide_eq_true_eq]
  requests_nodup := Counters.nodup_increment h.requests_nodup _
  failures policy kind := by
    rw [List.countP_append, List.countP_singleton, ← h.failures, Handled.addTo]
    cases hrefusal : one.refusal? with
    | none => simp
    | some used => simp [Counters.value_increment]
  failures_nodup := by
    rw [Handled.addTo]
    cases one.refusal? with
    | none => exact h.failures_nodup
    | some used => exact Counters.nodup_increment h.failures_nodup _
  timed := by
    rw [Handled.addTo, h.timed, List.length_append, List.length_singleton]
  lengths := by
    rw [selectedLengths, List.filterMap_append, List.map_append, Handled.addTo, h.lengths]
    cases hselection : one.selection? with
    | none =>
      rw [List.filterMap_cons_none hselection]
      exact congrArg _ (List.append_nil _).symm
    | some devices =>
      rw [List.filterMap_cons_some hselection]
      exact (LengthHistogram.ofLengths_append _ _).symm

theorem Counts.run {state : State} {past : List Handled} (h : Counts state.metrics past)
    (events : List Event) :
    Counts (Service.run state events).metrics (past ++ handled state events) := by
  -- on the events still to come, for all requests that were counted before them
  induction events generalizing state past with
  | nil => rwa [handled, List.append_nil]
  | cons event events ih =>
    rw [handled, ← List.append_assoc]
    apply ih
    rw [step_metrics]
    cases handled? state event with
    | none => rwa [Option.toList_none, List.append_nil]
    | some one => exact h.addTo one

/-! ### Reported values -/

def policies : Finset (Option Policy) := {none, some .aligned, some .packed, some .distributed}

def refusalKinds : Finset String :=
  {"AllocationError", "InvalidDeviceListError", "InsufficientDevicesError", "NoValidPolicyError",
    "RequiredDeviceNotAvailableError"}

theorem mem_policies (policy : Option Policy) : policy ∈ policies := by
  rcases policy with _ | policy
  · decide
  · cases policy <;> decide

theorem kind_mem_refusalKinds (error : AllocationError) : error.kind ∈ refusalKinds := by
  cases error <;> simp [AllocationError.kind, refusalKinds]

theorem refusal_mem_refusalKinds {one : Handled} {kind : String}
    (h : one.refusal? = some kind) : kind ∈ refusalKinds := by
  rcases one with ⟨policy, (error | fault) | devices⟩
  · cases h
    exact kind_mem_refusalKinds error
  · cases h
  · cases h

theorem sum_countP_eq_some {α κ : Type} [DecidableEq κ] {keys : Finset κ} (key : α → Option κ)
    (hkeys : ∀ a k, key a = some k → k ∈ keys) (past : List α) :
    ∑ k ∈ keys, past.countP (fun a => key a = some k) = past.countP fun a => (key a).isSome := by
  have hall : ∀ k ∈ (↑(past.filterMap key) : Multiset κ), k ∈ keys := by
    intro k hmem
    obtain ⟨a, -, hkey⟩ := List.mem_filterMap.mp (Multiset.mem_coe.mp hmem)
    exact hkeys a k hkey
  -- elements with a key are counted as often as the key occurs among the keys of the list
  have hcount : ∀ k, past.countP (fun a => key a = some k) =
      Multiset.count k ↑(past.filterMap key) := by
    intro k
    rw [Multiset.coe_count, List.count_filterMap]
    refine List.countP_congr fun a _ => ?_
    rw [decide_eq_true_eq, beq_iff_eq]
  have hcard := Multiset.sum_count_eq_card hall
  rw [Multiset.coe_card, List.length_filterMap_eq_countP] at hcard
  rw [← hcard]
  exact Finset.sum_congr rfl fun k _ => hcount k

theorem sum_countP_policy (past : List Handled) :
    ∑ policy ∈ policies, past.countP (fun one => one.policy = policy) = past.length := by
  have hsum := sum_countP_eq_some (fun one : Handled => some one.policy)
    (fun one policy _ => mem_policies policy) past
  simpa only [Option.some.injEq, Option.isSome_some, List.countP_true] using hsum

/-- Requests under a policy are refused for one of the reasons, or not at all. -/
theorem countP_policy_eq_refused_add (past : List Handled) (policy : Option Policy) :
    past.countP (fun one => one.policy = policy) =
      ∑ kind ∈ refusalKinds,
          past.countP (fun one => one.policy = policy ∧ one.refusal? = some kind) +
        past.countP fun one => one.policy = policy ∧ one.refusal? = none := by
  let under := past.filter fun one => one.policy = policy
  have hrefused := sum_countP_eq_some Handled.refusal? (fun _ _ => refusal_mem_refusalKinds) under
  have hunder (reason : Option String) :
      past.countP (fun one => one.policy = policy ∧ one.refusal? = reason) =
        under.countP fun one => one.refusal? = reason := by
    rw [List.countP_filter]
    refine List.countP_congr fun one _ => ?_
    rw [decide_eq_true_eq, Bool.and_eq_true, decide_eq_true_eq, decide_eq_true_eq, and_comm]
  have hsplit : under.length = under.countP (fun one => one.refusal?.isSome) +
      under.countP (fun one => one.refusal? = none) := by
    rw [List.length_eq_countP_add_countP fun one => one.refusal?.isSome]
    congr 1
    refine List.countP_congr fun one _ => ?_
    rw [decide_eq_true_eq, decide_eq_true_eq, Option.not_isSome_iff_eq_none]
  rw [List.countP_eq_length_filter]
  simp only [hunder]
  rw [hrefused]
  exact hsplit

open Metrics in
/-- Reported values that are the numbers of such requests. -/
structure Reports (samples : List Sample) (past : List Handled) : Prop where
  requests : ∀ policy, reading samples "allocation_requests_total"
      [("policy", policyLabel policy)] = past.countP fun one => one.policy = policy
  timed : reading samples "allocation_latency_seconds_count" [] = past.length
  failures : ∀ policy reason, reading samples "allocation_failures_total"
      [("policy", policyLabel policy), ("reason", reason)] =
    past.countP fun one => one.policy = policy ∧ one.refusal? = some reason
  -- all requests without a policy are refused, and all of them for that reason
  without_policy : reading samples "allocation_requests_total" [("policy", "none")] =
    reading samples "allocation_failures_total"
      [("policy", "none"), ("reason", "NoValidPolicyError")]
  selections : reading samples "allocation_devices_selected_count" [] =
    (past.filterMap Handled.selection?).length
  devices : reading samples "allocation_devices_selected_sum" [] =
    ((past.filterMap Handled.selection?).map List.length).sum
  buckets : ∀ bound ∈ LengthHistogram.bounds,
    reading samples "allocation_devices_selected_bucket" [("le", toString bound ++ ".0")] =
      (past.filterMap Handled.selection?).countP fun devices => devices.length ≤ bound
  last_bucket : reading samples "allocation_devices_selected_bucket" [("le", "+Inf")] =
    (past.filterMap Handled.selection?).length
  all_policies : ∑ policy ∈ policies, reading samples "allocation_requests_total"
      [("policy", policyLabel policy)] = reading samples "allocation_latency_seconds_count" []
  -- what is no failure under a policy was answered, or broke off for another reason
  balance : ∀ policy, reading samples "allocation_requests_total"
      [("policy", policyLabel policy)] =
    ∑ reason ∈ refusalKinds, reading samples "allocation_failures_total"
        [("policy", policyLabel policy), ("reason", reason)] +
      past.countP fun one => one.policy = policy ∧ one.refusal? = none

/-- Services that share fresh metrics report at every point of every history how many requests
there have been under each policy, how many of them were refused and why, and how long the answers
with devices were. -/
theorem metrics_conserve_requests (inventory : DeviceSet) (strategy : Strategy)
    (events : List Event) :
    Reports (run ⟨inventory, strategy, .fresh⟩ events).metrics.samples
      (handled ⟨inventory, strategy, .fresh⟩ events) := by
  have hstart : Counts (⟨inventory, strategy, .fresh⟩ : State).metrics [] := Counts.fresh
  have hcounts := hstart.run events
  rw [List.nil_append] at hcounts
  have hrequests := fun policy =>
    (Metrics.reading_requests hcounts.requests_nodup policy).trans (hcounts.requests policy)
  have hfailures := fun policy reason =>
    (Metrics.reading_failures hcounts.failures_nodup policy reason).trans
      (hcounts.failures policy reason)
  have htimed := (Metrics.reading_timed _).trans hcounts.timed
  exact {
    requests := hrequests
    timed := htimed
    failures := hfailures
    without_policy := by
      refine (hrequests none).trans (Eq.trans ?_ (hfailures none _).symm)
      -- among the requests that were handled, to have no policy is to be refused for that
      refine List.countP_congr fun one hmem => ?_
      rw [decide_eq_true_eq, decide_eq_true_eq]
      exact ⟨fun h => ⟨h, refusal_of_mem_handled hmem h⟩, And.left⟩
    selections := by
      rw [Metrics.reading_count, hcounts.lengths, LengthHistogram.count_ofLengths,
        selectedLengths, List.length_map]
    devices := by
      rw [Metrics.reading_sum, hcounts.lengths, LengthHistogram.sum_ofLengths, selectedLengths]
    buckets := by
      intro bound hbound
      rw [Metrics.reading_bucket hcounts.lengths hbound, selectedLengths, List.countP_map]
      rfl
    last_bucket := by
      rw [Metrics.reading_last_bucket hcounts.lengths, selectedLengths, List.length_map]
    all_policies := by
      simp only [hrequests, htimed]
      exact sum_countP_policy _
    balance := by
      intro policy
      simp only [hrequests, hfailures]
      exact countP_policy_eq_refused_add _ policy }

end Service

end DeviceAllocation
