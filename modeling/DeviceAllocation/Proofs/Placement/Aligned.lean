import DeviceAllocation.Placement.Aligned
import DeviceAllocation.Proofs.Placement.Growth
import Mathlib.Data.List.Forall2

namespace DeviceAllocation

namespace Interconnect

variable {net : Interconnect}

theorem resolve_eq_ok_iff {names : List DeviceId} {gpus : List Gpu} :
    net.resolve names = .ok gpus ↔
      List.Forall₂ (fun name gpu => net.gpu? name = some gpu) names gpus := by
  induction names generalizing gpus with
  | nil => cases gpus <;> simp [resolve]
  | cons name names ih =>
    cases hname : net.gpu? name with
    | none => cases gpus <;> simp [resolve, hname]
    | some gpu =>
      cases hrest : net.resolve names with
      | error unknown => cases gpus <;> simp [resolve, hname, hrest, Except.map, ← ih]
      | ok rest => cases gpus <;> simp [resolve, hname, hrest, Except.map, ← ih]

def Knows (net : Interconnect) (name : DeviceId) : Prop :=
  name ∈ net.gpus.map Prod.fst

theorem knows_iff {name : DeviceId} : net.Knows name ↔ ∃ gpu, net.gpu? name = some gpu := by
  have hfound : net.Knows name ↔ (Keyed.find? Prod.fst name net.gpus).isSome :=
    Keyed.isSome_find?.symm
  rw [hfound, gpu?]
  cases Keyed.find? Prod.fst name net.gpus <;> simp

def FirstUnknown (net : Interconnect) (names : List DeviceId) (name : DeviceId) : Prop :=
  ∃ before after, names = before ++ name :: after ∧ (∀ known ∈ before, net.Knows known) ∧
    ¬ net.Knows name

theorem resolve_of_firstUnknown {names : List DeviceId} {name : DeviceId}
    (h : net.FirstUnknown names name) : net.resolve names = .error name := by
  obtain ⟨before, after, rfl, hbefore, hname⟩ := h
  induction before with
  | nil =>
    have hnone : net.gpu? name = none := by
      cases hgpu : net.gpu? name with
      | none => rfl
      | some gpu => exact absurd (knows_iff.mpr ⟨gpu, hgpu⟩) hname
    rw [List.nil_append, resolve, hnone]
  | cons first before ih =>
    obtain ⟨gpu, hgpu⟩ := knows_iff.mp (hbefore first List.mem_cons_self)
    have hrest := ih fun known hknown => hbefore known (List.mem_cons_of_mem first hknown)
    rw [List.cons_append, resolve, hgpu, hrest]
    rfl

theorem exists_firstUnknown_iff {names : List DeviceId} :
    (∃ name, net.FirstUnknown names name) ↔ ∃ name ∈ names, ¬ net.Knows name := by
  constructor
  · rintro ⟨name, before, after, rfl, -, hname⟩
    exact ⟨name, by simp, hname⟩
  · rintro ⟨name, hmem, hname⟩
    induction names with
    | nil => exact absurd hmem List.not_mem_nil
    | cons first names ih =>
      by_cases hfirst : net.Knows first
      · have hne : name ≠ first := fun e => hname (e ▸ hfirst)
        obtain ⟨found, before, after, rfl, hbefore, hfound⟩ :=
          ih ((List.mem_cons.mp hmem).resolve_left hne)
        refine ⟨found, first :: before, after, rfl, ?_, hfound⟩
        intro known hknown
        rcases List.mem_cons.mp hknown with rfl | hknown
        · exact hfirst
        · exact hbefore known hknown
      · exact ⟨first, [], names, rfl, by simp, hfirst⟩

theorem exists_resolve {names : List DeviceId} (h : ∀ name ∈ names, net.Knows name) :
    ∃ gpus, net.resolve names = .ok gpus := by
  induction names with
  | nil => exact ⟨[], rfl⟩
  | cons name names ih =>
    obtain ⟨gpu, hgpu⟩ := knows_iff.mp (h name List.mem_cons_self)
    obtain ⟨gpus, hgpus⟩ := ih fun other hother => h other (List.mem_cons_of_mem name hother)
    exact ⟨gpu :: gpus, by rw [resolve, hgpu, hgpus]; rfl⟩

def WellNamed (net : Interconnect) : Prop :=
  ∀ name gpu, net.gpu? name = some gpu → gpu.uuid = name

theorem wellNamed_ofGpus (gpus : List Gpu) (links : List Link) :
    (ofGpus gpus links).WellNamed := by
  intro name gpu hgpu
  -- what is found was listed, and every GPU is listed under its own identifier
  simp only [gpu?, ofGpus, ofNamed, Keyed.find?_ofList] at hgpu
  obtain ⟨⟨key, found⟩, hfound, rfl⟩ := Option.map_eq_some_iff.mp hgpu
  have hkey : key = name := Keyed.key_of_find? hfound
  have hmem := List.mem_reverse.mp (Keyed.mem_of_find? hfound)
  obtain ⟨listed, _, hlisted⟩ := List.mem_map.mp hmem
  obtain ⟨rfl, rfl⟩ := Prod.mk.inj hlisted
  exact hkey

namespace WellNamed

variable {names : List DeviceId} {gpus : List Gpu}

theorem map_uuid (h : net.WellNamed) (hresolve : net.resolve names = .ok gpus) :
    gpus.map Gpu.uuid = names := by
  rw [resolve_eq_ok_iff] at hresolve
  induction hresolve with
  | nil => rfl
  | cons hname _ ih => rw [List.map_cons, h _ _ hname, ih]

theorem gpu?_uuid (h : net.WellNamed) (hresolve : net.resolve names = .ok gpus) {gpu : Gpu}
    (hgpu : gpu ∈ gpus) : net.gpu? gpu.uuid = some gpu := by
  rw [resolve_eq_ok_iff] at hresolve
  induction hresolve with
  | nil => exact absurd hgpu List.not_mem_nil
  | cons hname _ ih =>
    obtain rfl | hgpu := List.mem_cons.mp hgpu
    · rwa [h _ _ hname]
    · exact ih hgpu

theorem uuid_injective (h : net.WellNamed) (hresolve : net.resolve names = .ok gpus) :
    ∀ a ∈ gpus, ∀ b ∈ gpus, a.uuid = b.uuid → a = b := by
  intro a ha b hb hab
  have hfound : some a = some b := by
    rw [← h.gpu?_uuid hresolve ha, ← h.gpu?_uuid hresolve hb, hab]
  exact Option.some.inj hfound

end WellNamed

end Interconnect

namespace Placement

variable {net : Interconnect} {topology : TopologyAllocator} {request : Request}
  {ids : List DeviceId}

theorem aligned_eq_ok_iff :
    aligned net topology request = .ok ids ↔
      ∃ available required chosen, net.resolve request.available = .ok available ∧
        net.resolve request.required = .ok required ∧
        topology available required request.size = .ok chosen ∧ chosen.map Gpu.uuid = ids := by
  simp only [aligned, resolveList]
  cases net.resolve request.available with
  | error unknown => simp [bind, Except.bind, Except.mapError]
  | ok available =>
    cases net.resolve request.required with
    | error unknown => simp [bind, Except.bind, Except.mapError]
    | ok required =>
      cases hchosen : topology available required request.size with
      | error failure => simp [bind, Except.bind, Except.mapError, hchosen]
      | ok chosen => simp [bind, Except.bind, Except.mapError, pure, Except.pure, hchosen]

theorem aligned_of_unknown_available {id : DeviceId}
    (h : net.FirstUnknown request.available id) :
    aligned net topology request = .error (.refused (.invalidDeviceList .available id)) := by
  rw [aligned, resolveList, Interconnect.resolve_of_firstUnknown h]
  rfl

theorem aligned_of_unknown_required {id : DeviceId}
    (hknown : ∀ id ∈ request.available, net.Knows id)
    (h : net.FirstUnknown request.required id) :
    aligned net topology request = .error (.refused (.invalidDeviceList .required id)) := by
  obtain ⟨available, hav⟩ := Interconnect.exists_resolve hknown
  simp only [aligned, resolveList, hav, Interconnect.resolve_of_firstUnknown h]
  rfl

theorem aligned_of_resolve {available required : List Gpu}
    (havailable : net.resolve request.available = .ok available)
    (hrequired : net.resolve request.required = .ok required) (topology : TopologyAllocator) :
    aligned net topology request =
      (topology available required request.size).map fun chosen => chosen.map Gpu.uuid := by
  simp only [aligned, resolveList, havailable, hrequired]
  rfl

/-- What the greedy choice selects among the GPUs is a selection among their identifiers. -/
theorem aligned_selects {scores : Interconnect} (hnet : net.WellNamed)
    (hok : aligned net (bestEffortAllocator scores) request = .ok ids) :
    ids = [] ∨ Selects request.available request.required request.size ids := by
  obtain ⟨available, required, chosen, havailable, hrequired, hchosen, rfl⟩ :=
    aligned_eq_ok_iff.mp hok
  have hgreedy : bestEffort scores available required request.size = chosen :=
    Except.ok.inj hchosen
  obtain hempty | hselects := bestEffort_selects scores available required request.size
  · left
    rw [← hgreedy, hempty, List.map_nil]
  · right
    rw [hgreedy] at hselects
    have hids := hselects.map (hnet.uuid_injective havailable) (hnet.uuid_injective hrequired)
    rwa [hnet.map_uuid havailable, hnet.map_uuid hrequired] at hids

end Placement

end DeviceAllocation
