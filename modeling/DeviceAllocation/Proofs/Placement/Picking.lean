import DeviceAllocation.Proofs.Placement.Level

namespace DeviceAllocation.Placement

/-- The loop between two picks: the counts, the candidates that are left, in the order in which they
stood for the last pick, and the picks so far. -/
structure Picking where
  accounting : Accounting
  rest : List DeviceId
  picked : List DeviceId
  deriving DecidableEq, Repr

namespace Picking

def start (inventory : DeviceSet) (pool : List DeviceId) : Picking :=
  ⟨.ofCandidates inventory pool, pool, []⟩

/-- One pick: what is left is put in order, the first candidate is taken off and the count of its
device is reduced. There is none when nothing is left. -/
def pick? (pool : List DeviceId) (moment : Picking) : Option Picking :=
  match sortBy (ranksFirst moment.accounting pool.idxOf) moment.rest with
  | [] => none
  | pick :: others => some ⟨moment.accounting.take pick, others, moment.picked ++ [pick]⟩

def after? (pool : List DeviceId) : ℕ → Picking → Option Picking
  | 0, moment => some moment
  | count + 1, moment => (moment.pick? pool).bind (after? pool count)

end Picking

/-- What is picked and what is left make up the candidates, and every count is exact: it says how
many candidates of its device are left and how many devices of the inventory share this device, and
so how many of these are not left to pick. -/
structure Exact (inventory : DeviceSet) (pool : List DeviceId) (moment : Picking) : Prop where
  perm : (moment.picked ++ moment.rest).Perm pool
  bases : moment.accounting.map ReplicaCount.base = (pool.map DeviceId.base).eraseDups
  available : ∀ count ∈ moment.accounting, count.available = sharing count.base moment.rest
  total : ∀ count ∈ moment.accounting, count.total = inventory.sharing count.base
  within : ∀ count ∈ moment.accounting, 0 ≤ count.available ∧ count.available ≤ count.total
  used : ∀ count ∈ moment.accounting, count.used = load inventory moment.rest count.base
  found : ∀ id ∈ moment.rest, ∃ count, moment.accounting.count? (DeviceId.base id) = some count

variable {inventory : DeviceSet} {pool : List DeviceId} {count : ℕ}

/-! ### Counts in step with what is left -/

/-- The counts are a recount of what is left, and no candidate is lost or picked twice. -/
structure InStep (inventory : DeviceSet) (pool : List DeviceId) (moment : Picking) : Prop where
  perm : (moment.picked ++ moment.rest).Perm pool
  recount : moment.accounting = ledger inventory (pool.map DeviceId.base).eraseDups moment.rest

namespace InStep

variable {moment : Picking}

theorem start (inventory : DeviceSet) (pool : List DeviceId) :
    InStep inventory pool (.start inventory pool) :=
  ⟨List.Perm.refl pool, ofCandidates_eq_ledger inventory pool⟩

theorem pick? (h : InStep inventory pool moment) (hrest : moment.rest ≠ []) :
    ∃ next, moment.pick? pool = some next ∧ InStep inventory pool next ∧
      next.picked.length = moment.picked.length + 1 ∧
      next.rest.length + 1 = moment.rest.length := by
  have hperm := sortBy_perm (ranksFirst moment.accounting pool.idxOf) moment.rest
  rw [Picking.pick?]
  cases hsorted : sortBy (ranksFirst moment.accounting pool.idxOf) moment.rest with
  | nil =>
    rw [hsorted] at hperm
    exact absurd hperm.nil_eq.symm hrest
  | cons pick others =>
    rw [hsorted] at hperm
    have hmem : pick ∈ moment.rest := hperm.mem_iff.mp List.mem_cons_self
    -- the others stand in the order of the last sort, which no count depends on
    have hothers : (moment.rest.erase pick).Perm others := by
      have herase := hperm.symm.erase pick
      rwa [List.erase_cons_head] at herase
    refine ⟨_, rfl, ⟨?_, ?_⟩, ?_, ?_⟩
    · have hmoved : (moment.picked ++ [pick] ++ others).Perm (moment.picked ++ moment.rest) := by
        rw [List.append_assoc]
        exact hperm.append_left moment.picked
      exact hmoved.trans h.perm
    · calc moment.accounting.take pick
          = (ledger inventory (pool.map DeviceId.base).eraseDups moment.rest).take pick := by
            rw [h.recount]
        _ = ledger inventory (pool.map DeviceId.base).eraseDups (moment.rest.erase pick) :=
            take_ledger hmem
        _ = ledger inventory (pool.map DeviceId.base).eraseDups others := ledger_perm hothers
    · exact List.length_append
    · exact hperm.length_eq

/-- The loop makes as many picks as there are candidates, and takes the counts along. -/
theorem after? (h : InStep inventory pool moment) (hcount : count ≤ moment.rest.length) :
    ∃ last, Picking.after? pool count moment = some last ∧ InStep inventory pool last ∧
      last.picked.length = moment.picked.length + count := by
  -- each pick leaves one candidate fewer, and so one for each of the picks to come
  induction count generalizing moment with
  | zero => exact ⟨moment, rfl, h, rfl⟩
  | succ count ih =>
    have hrest : moment.rest ≠ [] := List.ne_nil_of_length_pos (by omega)
    obtain ⟨next, hnext, hstep, hpicked, hleft⟩ := h.pick? hrest
    obtain ⟨last, hlast, hkept, hlength⟩ := ih hstep (by omega)
    refine ⟨last, ?_, hkept, by omega⟩
    rw [Picking.after?, hnext, Option.bind_some, hlast]

theorem pickable (h : InStep inventory pool moment) (hpool : Pickable inventory pool) :
    Pickable inventory moment.rest where
  nodup := (List.nodup_append.mp (h.perm.nodup_iff.mpr hpool.nodup)).2.1
  known := by
    intro id hid
    exact hpool.known id (h.perm.mem_iff.mp (List.mem_append_right _ hid))

theorem exact (h : InStep inventory pool moment) (hpool : Pickable inventory pool) :
    Exact inventory pool moment := by
  have hentry (entry : ReplicaCount) (hmem : entry ∈ moment.accounting) :
      entry = ⟨entry.base, inventory.sharing entry.base, sharing entry.base moment.rest⟩ := by
    rw [h.recount] at hmem
    exact eq_of_mem_ledger hmem
  -- on every device, what is left and what is not make up all replicas
  have hsplit (base : DeviceId) := load_add_sharing (h.pickable hpool) base
  refine ⟨h.perm, ?bases, ?available, ?total, ?within, ?used, ?found⟩
  case bases => rw [h.recount, map_base_ledger]
  case available =>
    intro entry hmem
    rw [hentry entry hmem]
  case total =>
    intro entry hmem
    rw [hentry entry hmem]
  case within =>
    intro entry hmem
    have hbase := hsplit entry.base
    rw [hentry entry hmem]
    dsimp only
    omega
  case used =>
    intro entry hmem
    have hbase := hsplit entry.base
    rw [hentry entry hmem, ReplicaCount.used]
    dsimp only
    omega
  case found =>
    intro id hid
    have hcandidate : id ∈ pool := h.perm.mem_iff.mp (List.mem_append_right _ hid)
    rw [h.recount]
    exact ⟨_, count?_ledger (List.mem_eraseDups.mpr (List.mem_map_of_mem hcandidate))⟩

end InStep

/-! ### The picks of an answer -/

theorem picked_of_after? {moment last : Picking}
    (h : Picking.after? pool count moment = some last) :
    last.picked = moment.picked ++
      resorted pool.idxOf count moment.accounting moment.rest := by
  induction count generalizing moment with
  | zero =>
    cases h
    exact (List.append_nil _).symm
  | succ count ih =>
    rw [Picking.after?, Picking.pick?] at h
    rw [resorted]
    cases hsorted : sortBy (ranksFirst moment.accounting pool.idxOf) moment.rest with
    | nil =>
      rw [hsorted] at h
      cases h
    | cons pick others =>
      rw [hsorted] at h
      rw [ih h, List.append_assoc]
      rfl

theorem exists_picks_of_answer {request : Request} {ids : List DeviceId}
    (hok : distributed inventory request = .ok ids) :
    request.needed.toNat ≤ (candidates inventory request).length ∧
      ∃ last, Picking.after? (candidates inventory request) request.needed.toNat
          (.start inventory (candidates inventory request)) = some last ∧
        ids = request.required ++ last.picked := by
  have hnodup := nodup_candidates inventory request
  simp only [distributed] at hok
  generalize candidates inventory request = pool at hok hnodup ⊢
  split at hok
  · cases hok
  · have hpicks : request.needed.toNat ≤ pool.length := by omega
    obtain ⟨last, hlast, -, -⟩ := (InStep.start inventory pool).after? hpicks
    refine ⟨hpicks, last, hlast, ?_⟩
    calc ids
        = request.required ++ spread request.needed.toNat (.ofCandidates inventory pool) pool :=
          (Except.ok.inj hok).symm
      _ = request.required ++
            resorted pool.idxOf request.needed.toNat (.ofCandidates inventory pool) pool := by
          rw [resorted_idxOf hnodup]
      _ = request.required ++ last.picked := by
          rw [picked_of_after? hlast]
          rfl

/-- The counts of the distributed policy are exact. Set up for any candidates, they hold one entry
for each device that a candidate belongs to, in the order in which the candidates first name them,
with the number of candidates of this device, repeats included, and the number of devices of the
inventory that share it. For distinct candidates of the inventory the loop makes any number of picks
that there are candidates for, and the counts are exact after each of them. An answer consists of
the required devices and the picks of such a loop over the candidates of the request. -/
theorem replica_counts_stay_exact (inventory : DeviceSet) :
    (∀ pool : List DeviceId,
      (Accounting.ofCandidates inventory pool).map ReplicaCount.base =
          (pool.map DeviceId.base).eraseDups ∧
        ∀ count ∈ Accounting.ofCandidates inventory pool,
          count.available = pool.countP (fun id => DeviceId.base id = count.base) ∧
          count.total = inventory.devices.countP fun device => device.base = count.base) ∧
    (∀ pool : List DeviceId, Pickable inventory pool → ∀ picks ≤ pool.length,
      ∃ moment, Picking.after? pool picks (.start inventory pool) = some moment ∧
        moment.picked.length = picks ∧ Exact inventory pool moment) ∧
    ∀ (request : Request) (ids : List DeviceId), distributed inventory request = .ok ids →
      Pickable inventory (candidates inventory request) ∧
      request.needed.toNat ≤ (candidates inventory request).length ∧
      ∃ last, Picking.after? (candidates inventory request) request.needed.toNat
          (.start inventory (candidates inventory request)) = some last ∧
        ids = request.required ++ last.picked := by
  refine ⟨?_, ?_, ?_⟩
  · intro pool
    rw [ofCandidates_eq_ledger]
    refine ⟨map_base_ledger, ?_⟩
    intro count hcount
    rw [eq_of_mem_ledger hcount]
    exact ⟨rfl, rfl⟩
  · intro pool hpool picks hpicks
    obtain ⟨moment, hmoment, hstep, hlength⟩ := (InStep.start inventory pool).after? hpicks
    refine ⟨moment, hmoment, ?_, hstep.exact hpool⟩
    rw [hlength]
    exact Nat.zero_add picks
  · intro request ids hok
    exact ⟨pickable_candidates inventory request, exists_picks_of_answer hok⟩

/-- After two picks one replica of the second device and the only one of the third are gone, and
with them the counts. The third pick completes the answer. -/
theorem uneven_replica_counts_stay_exact :
    Pickable unevenInventory (candidates unevenInventory unevenRequest) ∧
    2 ≤ (candidates unevenInventory unevenRequest).length ∧
    (∃ moment, Picking.after? (candidates unevenInventory unevenRequest) 2
        (.start unevenInventory (candidates unevenInventory unevenRequest)) = some moment ∧
      moment.accounting = [⟨"b", 3, 2⟩, ⟨"a", 2, 1⟩, ⟨"c", 1, 0⟩] ∧
      moment.picked = ["b::1", "c::0"] ∧
      Exact unevenInventory (candidates unevenInventory unevenRequest) moment) ∧
    distributed unevenInventory unevenRequest = .ok ["a::0", "b::1", "c::0", "a::1"] ∧
    ∃ last, Picking.after? (candidates unevenInventory unevenRequest) 3
        (.start unevenInventory (candidates unevenInventory unevenRequest)) = some last ∧
      ["a::0", "b::1", "c::0", "a::1"] = unevenRequest.required ++ last.picked := by
  obtain ⟨-, hmoments, hanswers⟩ := replica_counts_stay_exact unevenInventory
  have hok : distributed unevenInventory unevenRequest =
      .ok ["a::0", "b::1", "c::0", "a::1"] := by
    decide +kernel
  have htwo : 2 ≤ (candidates unevenInventory unevenRequest).length := by
    decide +kernel
  have hseen : Picking.after? (candidates unevenInventory unevenRequest) 2
      (.start unevenInventory (candidates unevenInventory unevenRequest)) =
        some ⟨[⟨"b", 3, 2⟩, ⟨"a", 2, 1⟩, ⟨"c", 1, 0⟩], ["a::1", "b::0", "b::2"],
          ["b::1", "c::0"]⟩ := by
    decide +kernel
  obtain ⟨hpool, -, hlast⟩ := hanswers unevenRequest _ hok
  obtain ⟨moment, hmoment, -, hexact⟩ := hmoments _ hpool 2 htwo
  rw [hseen] at hmoment
  obtain rfl := Option.some.inj hmoment
  exact ⟨hpool, htwo, ⟨_, hseen, rfl, rfl, hexact⟩, hok, hlast⟩

/-- Candidates count as often as they are given, and whether or not they are in the inventory. -/
example : Accounting.ofCandidates unevenInventory ["b::1", "z::0", "b::1", "a::1"] =
    [⟨"b", 3, 2⟩, ⟨"z", 0, 1⟩, ⟨"a", 2, 1⟩] := by
  decide +kernel

end DeviceAllocation.Placement
