import DeviceAllocation.Proofs.Asking
import DeviceAllocation.Proofs.Placement.Aligned

namespace DeviceAllocation.Placement

structure Inquiry where
  available : List Gpu
  required : List Gpu
  size : Int
  deriving DecidableEq, Repr

/-- Notes what is asked before it answers as the allocator does. -/
def noting (topology : TopologyAllocator) : Question (StateM (List Inquiry)) :=
  fun available required size => do
    modify fun asked => asked ++ [⟨available, required, size⟩]
    return topology available required size

def exchange (net : Interconnect) (topology : TopologyAllocator) (request : Request) :
    Except Failure (List DeviceId) × List Inquiry :=
  (alignedAsking net (noting topology) request).run []

/-- The request is refused for this cause, and the allocator is not asked, whatever to ask it may
be. -/
structure RefusedUnasked (net : Interconnect) (request : Request) (error : AllocationError) :
    Prop where
  outcome : ∀ topology, aligned net topology request = .error (.refused error)
  exchange : ∀ topology, exchange net topology request = (aligned net topology request, [])
  unasked : ∀ (m : Type → Type) [Monad m] (ask : Question m),
    alignedAsking net ask request = pure (.error (.refused error))

/-- The allocator is asked once, about these GPUs. Its answer is given by identifiers in its order,
and its failure is that of the request. To ask may be any other action as well, and what this one
throws is thrown. -/
structure AskedOnce (net : Interconnect) (request : Request) (available required : List Gpu) :
    Prop where
  exchange : ∀ topology, exchange net topology request =
    (aligned net topology request, [⟨available, required, request.size⟩])
  answered : ∀ (topology : TopologyAllocator) (chosen : List Gpu),
    topology available required request.size = .ok chosen →
      aligned net topology request = .ok (chosen.map Gpu.uuid)
  failed : ∀ (topology : TopologyAllocator) (failure : Failure),
    topology available required request.size = .error failure →
      aligned net topology request = .error failure
  asked : ∀ (m : Type → Type) [Monad m] (ask : Question m),
    alignedAsking net ask request = do
      let answer ← ask available required request.size
      return answer.map fun chosen => chosen.map Gpu.uuid
  thrown : ∀ (ε : Type) (ask : Question (Except ε)) (exception : ε),
    ask available required request.size = .error exception →
      alignedAsking net ask request = .error exception

variable {net : Interconnect} {request : Request} {id : DeviceId} {available required : List Gpu}

/-- To ask nothing, whatever asking may be, is to refuse. -/
theorem RefusedUnasked.of_unasked {error : AllocationError}
    (h : ∀ (m : Type → Type) [Monad m] (ask : Question m),
      alignedAsking net ask request = pure (.error (.refused error))) :
    RefusedUnasked net request error := by
  have houtcome (topology : TopologyAllocator) :
      aligned net topology request = .error (.refused error) := by
    have hpure := alignedAsking_pure (m := Id) net topology request
    rw [h] at hpure
    exact hpure.symm
  refine ⟨houtcome, ?_, h⟩
  intro topology
  rw [Placement.exchange, h, houtcome]
  rfl

theorem refusedUnasked_available (h : net.FirstUnknown request.available id) :
    RefusedUnasked net request (.invalidDeviceList .available id) := by
  apply RefusedUnasked.of_unasked
  intro m _ ask
  rw [alignedAsking, resolveList, Interconnect.resolve_of_firstUnknown h]
  rfl

theorem refusedUnasked_required (hknown : ∀ id ∈ request.available, net.Knows id)
    (h : net.FirstUnknown request.required id) :
    RefusedUnasked net request (.invalidDeviceList .required id) := by
  obtain ⟨available, havailable⟩ := Interconnect.exists_resolve hknown
  apply RefusedUnasked.of_unasked
  intro m _ ask
  -- the available GPUs are found, and nothing is done with them
  rw [alignedAsking, resolveList, resolveList, havailable,
    Interconnect.resolve_of_firstUnknown h]
  rfl

theorem askedOnce_of_resolve (havailable : net.resolve request.available = .ok available)
    (hrequired : net.resolve request.required = .ok required) :
    AskedOnce net request available required := by
  have hasked (m : Type → Type) [Monad m] (ask : Question m) :
      alignedAsking net ask request = do
        let answer ← ask available required request.size
        return answer.map fun chosen => chosen.map Gpu.uuid := by
    rw [alignedAsking, resolveList, resolveList, havailable, hrequired]
    rfl
  have houtcome (topology : TopologyAllocator) : aligned net topology request =
      (topology available required request.size).map fun chosen => chosen.map Gpu.uuid :=
    aligned_of_resolve havailable hrequired topology
  constructor
  case exchange =>
    intro topology
    rw [Placement.exchange, hasked, houtcome]
    rfl
  case answered =>
    intro topology chosen hchosen
    rw [houtcome, hchosen]
    rfl
  case failed =>
    intro topology failure hfailure
    rw [houtcome, hfailure]
    rfl
  case asked => exact hasked
  case thrown =>
    intro ε ask exception hthrown
    rw [hasked, hthrown]
    rfl

/-- A request for whole GPUs is translated as a whole or not at all. If the interconnect does not
know an available device, the request is refused for the first of these, and if it knows them all
but not a required one, for the first of those. In neither case is the allocator asked. Else it is
asked once, about the GPUs that go by the names, place by place and with repeats. It is answered
with the identifiers of what the allocator chose, in its order, and a failure of the allocator, a
missing key among them, is left as it is. -/
theorem aligned_is_all_or_nothing (net : Interconnect) (request : Request) :
    ((∃ id ∈ request.available, ¬ net.Knows id) →
      ∃ id, net.FirstUnknown request.available id ∧
        RefusedUnasked net request (.invalidDeviceList .available id)) ∧
    ((∀ id ∈ request.available, net.Knows id) → (∃ id ∈ request.required, ¬ net.Knows id) →
      ∃ id, net.FirstUnknown request.required id ∧
        RefusedUnasked net request (.invalidDeviceList .required id)) ∧
    ((∀ id ∈ request.available, net.Knows id) → (∀ id ∈ request.required, net.Knows id) →
      ∃ available required : List Gpu,
        List.Forall₂ (fun id gpu => net.gpu? id = some gpu) request.available available ∧
        List.Forall₂ (fun id gpu => net.gpu? id = some gpu) request.required required ∧
        AskedOnce net request available required) := by
  refine ⟨?_, ?_, ?_⟩
  · intro hunknown
    obtain ⟨id, hfirst⟩ := Interconnect.exists_firstUnknown_iff.mpr hunknown
    exact ⟨id, hfirst, refusedUnasked_available hfirst⟩
  · intro hknown hunknown
    obtain ⟨id, hfirst⟩ := Interconnect.exists_firstUnknown_iff.mpr hunknown
    exact ⟨id, hfirst, refusedUnasked_required hknown hfirst⟩
  · intro havailable hrequired
    obtain ⟨available, hav⟩ := Interconnect.exists_resolve havailable
    obtain ⟨required, hreq⟩ := Interconnect.exists_resolve hrequired
    exact ⟨available, required, Interconnect.resolve_eq_ok_iff.mp hav,
      Interconnect.resolve_eq_ok_iff.mp hreq, askedOnce_of_resolve hav hreq⟩

def nicknamed : Interconnect :=
  .ofNamed [("first", ⟨"gpu-x", 0, none⟩), ("second", ⟨"gpu-y", 1, some 0⟩)] []

/-- A request that gives an identifier for a name, one that does so in the required list, and one
that is asked. An allocator may answer this one out of order, or miss a key. -/
theorem aligned_nicknamed_is_all_or_nothing :
    RefusedUnasked nicknamed ⟨["second", "gpu-x", "third"], ["gpu-y"], 1⟩
      (.invalidDeviceList .available "gpu-x") ∧
    RefusedUnasked nicknamed ⟨["second", "first"], ["first", "gpu-y"], 1⟩
      (.invalidDeviceList .required "gpu-y") ∧
    AskedOnce nicknamed ⟨["second", "first", "second"], ["first"], 2⟩
      [⟨"gpu-y", 1, some 0⟩, ⟨"gpu-x", 0, none⟩, ⟨"gpu-y", 1, some 0⟩] [⟨"gpu-x", 0, none⟩] ∧
    aligned nicknamed (fun available _ _ => .ok available.reverse)
      ⟨["second", "first"], [], 2⟩ = .ok ["gpu-x", "gpu-y"] ∧
    aligned nicknamed (fun _ _ _ => .error (.broken (.missingKey "gpu-x")))
      ⟨["second", "first"], [], 2⟩ = .error (.broken (.missingKey "gpu-x")) := by
  have hknows : ∀ id ∈ ["second", "first", "second"], nicknamed.Knows id := by
    simp only [Interconnect.Knows]
    decide +kernel
  have hunknown : ¬ nicknamed.Knows "gpu-x" ∧ ¬ nicknamed.Knows "gpu-y" := by
    simp only [Interconnect.Knows]
    decide +kernel
  obtain ⟨hfirst, hsecond⟩ : nicknamed.Knows "first" ∧ nicknamed.Knows "second" :=
    ⟨hknows _ (by decide), hknows _ (by decide)⟩
  refine ⟨?_, ?_, ?_, by decide +kernel, by decide +kernel⟩
  · obtain ⟨id, hid, hrefused⟩ := (aligned_is_all_or_nothing nicknamed
      ⟨["second", "gpu-x", "third"], ["gpu-y"], 1⟩).1 ⟨"gpu-x", by decide, hunknown.1⟩
    have hresolve : nicknamed.resolve ["second", "gpu-x", "third"] = .error "gpu-x" := by
      decide +kernel
    obtain rfl : id = "gpu-x" :=
      Except.error.inj ((Interconnect.resolve_of_firstUnknown hid).symm.trans hresolve)
    exact hrefused
  · obtain ⟨id, hid, hrefused⟩ := (aligned_is_all_or_nothing nicknamed
      ⟨["second", "first"], ["first", "gpu-y"], 1⟩).2.1 (by simp [hfirst, hsecond])
      ⟨"gpu-y", by decide, hunknown.2⟩
    have hresolve : nicknamed.resolve ["first", "gpu-y"] = .error "gpu-y" := by
      decide +kernel
    obtain rfl : id = "gpu-y" :=
      Except.error.inj ((Interconnect.resolve_of_firstUnknown hid).symm.trans hresolve)
    exact hrefused
  · obtain ⟨available, required, havailable, hrequired, hasked⟩ :=
      (aligned_is_all_or_nothing nicknamed
        ⟨["second", "first", "second"], ["first"], 2⟩).2.2 hknows (by simp [hfirst])
    have hresolve : nicknamed.resolve ["second", "first", "second"] =
        .ok [⟨"gpu-y", 1, some 0⟩, ⟨"gpu-x", 0, none⟩, ⟨"gpu-y", 1, some 0⟩] := by
      decide +kernel
    obtain rfl := Except.ok.inj
      ((Interconnect.resolve_eq_ok_iff.mpr havailable).symm.trans hresolve)
    have hresolve' : nicknamed.resolve ["first"] = .ok [⟨"gpu-x", 0, none⟩] := by
      decide +kernel
    obtain rfl := Except.ok.inj
      ((Interconnect.resolve_eq_ok_iff.mpr hrequired).symm.trans hresolve')
    exact hasked

end DeviceAllocation.Placement
