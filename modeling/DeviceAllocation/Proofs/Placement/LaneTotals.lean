import DeviceAllocation.Proofs.Interconnect
import DeviceAllocation.Proofs.Placement.Aligned

namespace DeviceAllocation

namespace Interconnect

variable {net named : Interconnect}

theorem resolve_of_gpus (h : named.gpus = net.gpus) (names : List DeviceId) :
    named.resolve names = net.resolve names := by
  have hgpu (name : DeviceId) : named.gpu? name = net.gpu? name := by
    rw [gpu?, gpu?, h]
  induction names with
  | nil => rfl
  | cons name names ih => rw [resolve, resolve, hgpu, ih]

theorem resolve_append (net : Interconnect) (front back : List DeviceId) :
    net.resolve (front ++ back) =
      (net.resolve front).bind fun gpus => (net.resolve back).map (gpus ++ ·) := by
  induction front with
  | nil =>
    rw [List.nil_append, resolve]
    cases net.resolve back with
    | error unknown => rfl
    | ok gpus => rfl
  | cons name front ih =>
    rw [List.cons_append, resolve, resolve, ih]
    cases net.gpu? name with
    | none => rfl
    | some gpu =>
      cases net.resolve front with
      | error unknown => rfl
      | ok gpus =>
        cases net.resolve back with
        | error unknown => rfl
        | ok rest => rfl

theorem exists_mem_of_resolve {names : List DeviceId} {gpus : List Gpu} {name : DeviceId}
    (h : net.resolve names = .ok gpus) (hname : name ∈ names) :
    ∃ gpu ∈ gpus, net.gpu? name = some gpu := by
  rw [resolve_eq_ok_iff] at h
  induction h with
  | nil => exact absurd hname List.not_mem_nil
  | cons hfirst _ ih =>
    rcases List.mem_cons.mp hname with rfl | hname
    · exact ⟨_, List.mem_cons_self, hfirst⟩
    · obtain ⟨gpu, hmem, hgpu⟩ := ih hname
      exact ⟨gpu, List.mem_cons_of_mem _ hmem, hgpu⟩

theorem resolve_repeat {front : List DeviceId} {name : DeviceId} (h : name ∈ front)
    (back : List DeviceId) :
    (net.resolve (front ++ name :: back)).map List.eraseDups =
      (net.resolve (front ++ back)).map List.eraseDups := by
  rw [resolve_append, resolve_append]
  cases hfront : net.resolve front with
  | error unknown => rfl
  | ok gpus =>
    obtain ⟨gpu, hmem, hgpu⟩ := exists_mem_of_resolve hfront h
    rw [resolve, hgpu]
    cases net.resolve back with
    | error unknown => rfl
    | ok rest => exact congrArg Except.ok (eraseDups_append_cons_of_mem hmem rest)

end Interconnect

namespace Placement

variable {scores rewired net named : Interconnect} {request other : Request}
  {available required available' required' : List Gpu}

/-! ### Lanes -/

theorem grow_of_lanes (h : ∀ a b, rewired.lanes a b = scores.lanes a b) :
    grow rewired = grow scores := by
  funext count selection candidates
  -- the scores are all that a step takes from the interconnect
  induction count generalizing selection candidates with
  | zero => rfl
  | succ count ih =>
    rw [grow, grow, Interconnect.scoreAgainst_of_lanes h]
    split
    · rfl
    · exact ih _ _

theorem bestEffort_of_lanes (h : ∀ a b, rewired.lanes a b = scores.lanes a b) :
    bestEffort rewired = bestEffort scores := by
  have hgrow := grow_of_lanes h
  have hgrowFrom : growFrom rewired = growFrom scores := by
    funext size candidates seed
    rw [growFrom, growFrom, hgrow]
  have hseeds : bestFromSeeds rewired = bestFromSeeds scores := by
    funext size candidates
    rw [bestFromSeeds, bestFromSeeds, hgrowFrom, Interconnect.totalScore_of_lanes h]
  funext available required size
  rw [bestEffort, bestEffort, hgrow, hseeds]

/-! ### Repeats -/

theorem bestEffort_of_firsts (havailable : available'.eraseDups = available.eraseDups)
    (hrequired : required'.eraseDups = required.eraseDups) (size : Int) :
    bestEffort scores available' required' size = bestEffort scores available required size := by
  rw [bestEffort, bestEffort, havailable, hrequired]

/-- The greedy choice sees the first occurrences of what was found under the names. -/
theorem aligned_eq_firsts (net scores : Interconnect) (request : Request) :
    aligned net (bestEffortAllocator scores) request =
      match (net.resolve request.available).map List.eraseDups,
        (net.resolve request.required).map List.eraseDups with
      | .error unknown, _ => .error (.refused (.invalidDeviceList .available unknown))
      | .ok _, .error unknown => .error (.refused (.invalidDeviceList .required unknown))
      | .ok available, .ok required =>
        .ok ((bestEffort scores available required request.size).map Gpu.uuid) := by
  rw [aligned, resolveList, resolveList]
  cases net.resolve request.available with
  | error unknown => rfl
  | ok available =>
    cases net.resolve request.required with
    | error unknown => rfl
    | ok required =>
      have hfirsts : bestEffort scores available.eraseDups required.eraseDups request.size =
          bestEffort scores available required request.size := by
        apply bestEffort_of_firsts
        · exact eraseDups_of_nodup (nodup_eraseDups available)
        · exact eraseDups_of_nodup (nodup_eraseDups required)
      change Except.ok ((bestEffort scores available required request.size).map Gpu.uuid) =
        .ok ((bestEffort scores available.eraseDups required.eraseDups request.size).map Gpu.uuid)
      rw [hfirsts]

theorem aligned_of_firsts (hgpus : named.gpus = net.gpus)
    (hlanes : ∀ a b, rewired.lanes a b = scores.lanes a b)
    (havailable : other.available.eraseDups = request.available.eraseDups)
    (hrequired : other.required.eraseDups = request.required.eraseDups)
    (hsize : other.size = request.size) :
    aligned named (bestEffortAllocator rewired) other =
      aligned net (bestEffortAllocator scores) request := by
  have hresolve {names names' : List DeviceId} (h : names'.eraseDups = names.eraseDups) :
      (named.resolve names').map List.eraseDups = (net.resolve names).map List.eraseDups := by
    rw [Interconnect.resolve_of_gpus hgpus]
    -- one repeat less at a time, both lists of names come down to their first occurrences
    apply eq_of_eraseDups_eq (f := fun names => (net.resolve names).map List.eraseDups) _ h
    intro front back name hname
    exact Interconnect.resolve_repeat hname back
  rw [aligned_eq_firsts, aligned_eq_firsts, hresolve havailable, hresolve hrequired, hsize,
    bestEffort_of_lanes hlanes]

/-! ### All changes -/

/-- What the outcome of a choice of whole GPUs may depend on. It is the same for any interconnect
with the same lanes between each two GPUs, and for any lists with the same first occurrences. So it
does not matter in which order links are listed, from which end, and whether the lanes of a pair
come as one link or as several, nor do repeats that are put into one of the lists behind a first
occurrence, or dropped there. The same holds for requests by name, where the GPUs are looked up in
one interconnect and scored in another, or in the same. -/
theorem choice_depends_on_lane_totals (net scores : Interconnect) (available required : List Gpu)
    (size : Int) (request : Request) :
    (∀ (rewired : Interconnect) (available' required' : List Gpu),
      (∀ a b, rewired.lanes a b = scores.lanes a b) →
      available'.eraseDups = available.eraseDups → required'.eraseDups = required.eraseDups →
      bestEffort rewired available' required' size = bestEffort scores available required size) ∧
    (∀ (named rewired : Interconnect) (other : Request), named.gpus = net.gpus →
      (∀ a b, rewired.lanes a b = scores.lanes a b) →
      other.available.eraseDups = request.available.eraseDups →
      other.required.eraseDups = request.required.eraseDups → other.size = request.size →
      aligned named (bestEffortAllocator rewired) other =
        aligned net (bestEffortAllocator scores) request) ∧
    (∀ links : List Link, Relisted scores.links links →
      bestEffort { scores with links } available required size =
        bestEffort scores available required size ∧
      aligned net (bestEffortAllocator { scores with links }) request =
        aligned net (bestEffortAllocator scores) request ∧
      aligned { scores with links } (bestEffortAllocator { scores with links }) request =
        aligned scores (bestEffortAllocator scores) request) ∧
    (∀ (front back : List Gpu) (gpu : Gpu), gpu ∈ front →
      bestEffort scores (front ++ gpu :: back) required size =
        bestEffort scores (front ++ back) required size ∧
      bestEffort scores available (front ++ gpu :: back) size =
        bestEffort scores available (front ++ back) size) ∧
    ∀ (front back : List DeviceId) (id : DeviceId), id ∈ front →
      aligned net (bestEffortAllocator scores) { request with available := front ++ id :: back } =
        aligned net (bestEffortAllocator scores) { request with available := front ++ back } ∧
      aligned net (bestEffortAllocator scores) { request with required := front ++ id :: back } =
        aligned net (bestEffortAllocator scores) { request with required := front ++ back } := by
  refine ⟨?_, ?_, ?_, ?_, ?_⟩
  · intro rewired available' required' hlanes havailable hrequired
    rw [bestEffort_of_lanes hlanes]
    exact bestEffort_of_firsts havailable hrequired size
  · intro named rewired other hgpus hlanes havailable hrequired hsize
    exact aligned_of_firsts hgpus hlanes havailable hrequired hsize
  · intro links hlinks
    have hlanes := Interconnect.lanes_of_relisted hlinks
    refine ⟨?_, ?_, ?_⟩
    · rw [bestEffort_of_lanes hlanes]
    · exact aligned_of_firsts rfl hlanes rfl rfl rfl
    · exact aligned_of_firsts rfl hlanes rfl rfl rfl
  · intro front back gpu hgpu
    have hfirsts := eraseDups_append_cons_of_mem hgpu back
    exact ⟨bestEffort_of_firsts hfirsts rfl size, bestEffort_of_firsts rfl hfirsts size⟩
  · intro front back id hid
    have hfirsts := eraseDups_append_cons_of_mem hid back
    exact ⟨aligned_of_firsts rfl (fun _ _ => rfl) hfirsts rfl rfl,
      aligned_of_firsts rfl (fun _ _ => rfl) rfl hfirsts rfl⟩

/-- Three GPUs in a row, the last two joined by two links that are written from both ends. -/
def doublyLinked : Interconnect :=
  .ofGpus [⟨"a", 0, none⟩, ⟨"b", 1, none⟩, ⟨"c", 2, none⟩]
    [⟨"a", "b", 1⟩, ⟨"b", "c", 2⟩, ⟨"c", "b", 1⟩]

def singlyLinked : Interconnect :=
  { doublyLinked with links := [⟨"c", "b", 3⟩, ⟨"b", "a", 1⟩] }

theorem relisted_singlyLinked : Relisted doublyLinked.links singlyLinked.links := by
  have hfront : Relisted doublyLinked.links [⟨"b", "c", 2⟩, ⟨"c", "b", 1⟩, ⟨"a", "b", 1⟩] :=
    .reorder (by decide)
  have hmerge : Relisted [⟨"b", "c", 2⟩, ⟨"c", "b", 1⟩, ⟨"a", "b", 1⟩]
      [⟨"c", "b", 3⟩, ⟨"a", "b", 1⟩] :=
    .merge (a := "c") (b := "b") [⟨"b", "c", 2⟩, ⟨"c", "b", 1⟩] [⟨"a", "b", 1⟩] (by decide)
  have hlast : Relisted [⟨"c", "b", 3⟩, ⟨"a", "b", 1⟩] [⟨"a", "b", 1⟩, ⟨"c", "b", 3⟩] :=
    .reorder (by decide)
  have hturn : Relisted [⟨"a", "b", 1⟩, ⟨"c", "b", 3⟩] [⟨"b", "a", 1⟩, ⟨"c", "b", 3⟩] :=
    .turn _ _
  have hswap : Relisted [⟨"b", "a", 1⟩, ⟨"c", "b", 3⟩] singlyLinked.links :=
    .reorder (by decide)
  exact hfront.trans (hmerge.trans (hlast.trans (hturn.trans hswap)))

/-- The same two GPUs with one link or two, and with repeats or without. -/
theorem choice_of_singlyLinked :
    singlyLinked.gpus = doublyLinked.gpus ∧
    (∀ a b, singlyLinked.lanes a b = doublyLinked.lanes a b) ∧
    ["a", "b", "a", "c"].eraseDups = ["a", "b", "c"].eraseDups ∧
    aligned singlyLinked (bestEffortAllocator singlyLinked) ⟨["a", "b", "a", "c"], ["b", "b"], 2⟩ =
      aligned doublyLinked (bestEffortAllocator doublyLinked) ⟨["a", "b", "c"], ["b"], 2⟩ ∧
    aligned doublyLinked (bestEffortAllocator doublyLinked) ⟨["a", "b", "c"], ["b"], 2⟩ =
      .ok ["b", "c"] ∧
    Relisted doublyLinked.links singlyLinked.links ∧
    bestEffort singlyLinked [⟨"a", 0, none⟩, ⟨"b", 1, none⟩] [] 2 =
      bestEffort doublyLinked [⟨"a", 0, none⟩, ⟨"b", 1, none⟩] [] 2 ∧
    bestEffort doublyLinked ([⟨"a", 0, none⟩] ++ ⟨"a", 0, none⟩ :: [⟨"b", 1, none⟩]) [] 2 =
      bestEffort doublyLinked ([⟨"a", 0, none⟩] ++ [⟨"b", 1, none⟩]) [] 2 := by
  have hlanes := Interconnect.lanes_of_relisted relisted_singlyLinked
  obtain ⟨-, hnamed, hrelisted, hrepeat, -⟩ := choice_depends_on_lane_totals doublyLinked
    doublyLinked [⟨"a", 0, none⟩, ⟨"b", 1, none⟩] [] 2 ⟨["a", "b", "c"], ["b"], 2⟩
  refine ⟨rfl, hlanes, by decide, ?_, by decide +kernel, relisted_singlyLinked, ?_, ?_⟩
  · exact hnamed singlyLinked singlyLinked _ rfl hlanes (by decide) (by decide) rfl
  · exact (hrelisted _ relisted_singlyLinked).1
  · exact (hrepeat _ _ _ List.mem_cons_self).1

end Placement

end DeviceAllocation
