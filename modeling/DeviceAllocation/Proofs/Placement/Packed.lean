import DeviceAllocation.Proofs.DeviceId
import DeviceAllocation.Proofs.Placement.Handout

namespace DeviceAllocation.Placement

/-- No candidate holds more than one separator, and none is the base of another candidate. -/
structure PlainlyNamed (pool : List DeviceId) : Prop where
  parts : ∀ id ∈ pool, DeviceId.separatorCount id.toList ≤ 1
  base_ne : ∀ id ∈ pool, ∀ other ∈ pool, id = DeviceId.base other → id = other

variable {inventory : DeviceSet} {request : Request} {ids pool : List DeviceId}

theorem PlainlyNamed.isReplica {id other : DeviceId} (h : PlainlyNamed pool) (hid : id ∈ pool)
    (hother : other ∈ pool) (hne : id ≠ other)
    (hbase : DeviceId.base id = DeviceId.base other) : DeviceId.isReplica id := by
  by_contra hplain
  -- a device that is no replica is its own base, and so the base of the other candidate
  have hself := DeviceId.base_of_not_isReplica (Bool.eq_false_iff.mpr hplain)
  exact hne (h.base_ne id hid other hother (hself ▸ hbase))

/-- In the order of identifiers only replicas of the same device lie between two of its replicas. -/
theorem PlainlyNamed.base_eq_of_between {a b c : DeviceId} (h : PlainlyNamed pool) (ha : a ∈ pool)
    (hb : b ∈ pool) (hc : c ∈ pool) (hab : a ≤ b) (hbc : b ≤ c)
    (hbase : DeviceId.base a = DeviceId.base c) : DeviceId.base b = DeviceId.base a := by
  by_cases hne : a = c
  · rw [le_antisymm hab (hne ▸ hbc)]
  have hreplica := h.isReplica ha hc hne hbase
  have hlow := DeviceId.isPrefix_of_isReplica hreplica
  have hhigh := DeviceId.isPrefix_of_isReplica (h.isReplica hc ha (Ne.symm hne) hbase.symm)
  rw [← hbase] at hhigh
  -- both ends begin with the base and the separator, so what lies between them does
  have hstart := isPrefix_of_le_of_le hlow hhigh (String.le_iff_toList_le.mp hab)
    (String.le_iff_toList_le.mp hbc)
  exact DeviceId.base_eq_of_isPrefix hreplica (h.parts b hb) hstart

theorem PlainlyNamed.grouped_sortBy (h : PlainlyNamed pool) :
    Grouped DeviceId.base (sortBy (fun a b => a ≤ b) pool) := by
  have hsorted : (sortBy (fun a b => decide (a ≤ b)) pool).Pairwise fun a b => a ≤ b := by
    have hpairwise : (sortBy (fun a b => decide (a ≤ b)) pool).Pairwise
        fun a b => decide (a ≤ b) = true :=
      pairwise_sortBy (by simpa using le_total) (by simpa using fun a b c => le_trans) pool
    simpa using hpairwise
  have hmem {id : DeviceId} (hid : id ∈ sortBy (fun a b => decide (a ≤ b)) pool) : id ∈ pool :=
    (sortBy_perm _ pool).mem_iff.mp hid
  apply triplewise_of_pairwise hsorted
  intro a ha b hb c hc hab hbc hbase
  exact h.base_eq_of_between (hmem ha) (hmem hb) (hmem hc) hab hbc hbase

/-- Some of the candidates that share a physical device are given away and some are left. -/
def PartlyDrained (inventory : DeviceSet) (request : Request) (ids : List DeviceId)
    (base : DeviceId) : Prop :=
  (∃ id ∈ candidates inventory request, DeviceId.base id = base ∧ id ∈ ids) ∧
    ∃ id ∈ candidates inventory request, DeviceId.base id = base ∧ id ∉ ids

/-- The packed policy uses up one device before the next. Behind the required devices, those that
share a physical device stand together, and all candidates of a physical device are given away when
one of them is, save for the device of the last pick. So at most one device is partly drained. -/
theorem packed_uses_up_each_device (hsize : (request.required.length : Int) ≤ request.size)
    (hok : packed inventory request = .ok ids)
    (hparts : ∀ id ∈ candidates inventory request, DeviceId.separatorCount id.toList ≤ 1)
    (hbase : ∀ id ∈ candidates inventory request, ∀ other ∈ candidates inventory request,
      id = DeviceId.base other → id = other) :
    ∃ picks, ids = request.required ++ picks ∧ Grouped DeviceId.base picks ∧
      (∀ last, picks.getLast? = some last →
        ∀ id ∈ candidates inventory request, id ∈ ids → DeviceId.base id ≠ DeviceId.base last →
          ∀ other ∈ candidates inventory request, DeviceId.base other = DeviceId.base id →
            other ∈ ids) ∧
      ∀ first second, PartlyDrained inventory request ids first →
        PartlyDrained inventory request ids second → first = second := by
  obtain ⟨-, hids⟩ := handsOut_packed.of_ok hsize hok
  have hgrouped := PlainlyNamed.grouped_sortBy ⟨hparts, hbase⟩
  have hperm := sortBy_perm (fun a b => decide (a ≤ b)) (candidates inventory request)
  -- from here on all that matters is that the candidates are grouped and cut into picks and rest
  generalize sortBy (fun a b => decide (a ≤ b)) (candidates inventory request) = sorted
    at hids hgrouped hperm
  rw [← List.take_append_drop request.needed.toNat sorted] at hgrouped hperm
  generalize sorted.take request.needed.toNat = picks at hids hgrouped hperm
  generalize sorted.drop request.needed.toNat = left at hgrouped hperm
  -- a candidate is not required, so it is given away as a pick or left
  have hgiven {id : DeviceId} (hid : id ∈ candidates inventory request) :
      id ∈ ids ↔ id ∈ picks := by
    rw [hids, List.mem_append, or_iff_right (mem_candidates.mp hid).2.2]
  have hleft {id : DeviceId} (hid : id ∈ candidates inventory request) (hnot : id ∉ ids) :
      id ∈ left := by
    have hboth := hperm.mem_iff.mpr hid
    exact (List.mem_append.mp hboth).resolve_left fun hpick => hnot ((hgiven hid).mpr hpick)
  have hlast {last id other : DeviceId} (hpicks : picks.getLast? = some last)
      (hid : id ∈ candidates inventory request) (hin : id ∈ ids)
      (hother : other ∈ candidates inventory request) (hout : other ∉ ids)
      (hsame : DeviceId.base other = DeviceId.base id) : DeviceId.base id = DeviceId.base last :=
    hgrouped.key_eq_last hpicks ((hgiven hid).mp hin) (hleft hother hout) hsame
  refine ⟨picks, hids, hgrouped.front_of_append, ?_, ?_⟩
  · intro last hpicks id hid hin hne other hother hsame
    by_contra hout
    exact hne (hlast hpicks hid hin hother hout hsame)
  · rintro first second ⟨⟨id, hid, rfl, hin⟩, other, hother, hsame, hout⟩
      ⟨⟨id', hid', rfl, hin'⟩, other', hother', hsame', hout'⟩
    have hne : picks ≠ [] := List.ne_nil_of_mem ((hgiven hid).mp hin)
    have hpicks := List.getLast?_eq_some_getLast hne
    rw [hlast hpicks hid hin hother hout hsame, hlast hpicks hid' hin' hother' hout' hsame']

/-- Replicas of three devices. One of the identifiers has a third colon behind its separator, and
the name of one device is that of another and a character that comes before the colon. -/
def colonInventory : DeviceSet := .ofList
  [⟨"a::1", "0"⟩, ⟨"b::0", "1"⟩, ⟨"a:::0", "0"⟩, ⟨"a!::0", "2"⟩, ⟨"b::1", "1"⟩]

def colonRequest : Request := ⟨["b::0", "a:::0", "a!::0", "b::1", "a::1"], ["b::1"], 4⟩

/-- Both replicas of the first device stand together behind the other device. -/
theorem packed_colons_uses_up_each_device :
    (colonRequest.required.length : Int) ≤ colonRequest.size ∧
      packed colonInventory colonRequest = .ok ["b::1", "a!::0", "a::1", "a:::0"] ∧
      ∃ picks, ["b::1", "a!::0", "a::1", "a:::0"] = colonRequest.required ++ picks ∧
        Grouped DeviceId.base picks ∧
        (∀ last, picks.getLast? = some last →
          ∀ id ∈ candidates colonInventory colonRequest,
            id ∈ ["b::1", "a!::0", "a::1", "a:::0"] → DeviceId.base id ≠ DeviceId.base last →
              ∀ other ∈ candidates colonInventory colonRequest,
                DeviceId.base other = DeviceId.base id →
                  other ∈ ["b::1", "a!::0", "a::1", "a:::0"]) ∧
        ∀ first second,
          PartlyDrained colonInventory colonRequest ["b::1", "a!::0", "a::1", "a:::0"] first →
          PartlyDrained colonInventory colonRequest ["b::1", "a!::0", "a::1", "a:::0"] second →
            first = second := by
  have hsize : (colonRequest.required.length : Int) ≤ colonRequest.size := by decide
  have hok : packed colonInventory colonRequest = .ok ["b::1", "a!::0", "a::1", "a:::0"] := by
    decide +kernel
  exact ⟨hsize, hok, packed_uses_up_each_device hsize hok (by decide +kernel)
    (by decide +kernel)⟩

end DeviceAllocation.Placement
