import DeviceAllocation.Proofs.Placement.Handout
import DeviceAllocation.Proofs.Placement.Ledger
import Mathlib.Data.List.Basic

/-! The picking loop of the distributed policy as one sort. A pick changes the level of no other
candidate: one more replica is taken, and one candidate fewer comes before. -/

namespace DeviceAllocation.Placement

/-- How many devices that share the physical device of a candidate are taken once all those are that
come before it. -/
def level (inventory : DeviceSet) (pool : List DeviceId) (id : DeviceId) : Nat :=
  load inventory pool (DeviceId.base id) +
    sharing (DeviceId.base id) (pool.take (pool.idxOf id))

/-- Whether a candidate comes no later than another one: its level is lower, or the levels are equal
and it stands no later in the list. -/
def comesFirst (inventory : DeviceSet) (pool : List DeviceId) (a b : DeviceId) : Bool :=
  level inventory pool a < level inventory pool b ∨
    level inventory pool a = level inventory pool b ∧ pool.idxOf a ≤ pool.idxOf b

def levelOrder (inventory : DeviceSet) (pool : List DeviceId) : List DeviceId :=
  sortBy (comesFirst inventory pool) pool

variable {inventory : DeviceSet} {pool rest front back : List DeviceId} {pick : DeviceId}

theorem comesFirst_total (a b : DeviceId) :
    comesFirst inventory pool a b ∨ comesFirst inventory pool b a := by
  simp only [comesFirst, decide_eq_true_eq]
  omega

theorem comesFirst_trans (a b c : DeviceId) (hab : comesFirst inventory pool a b)
    (hbc : comesFirst inventory pool b c) : comesFirst inventory pool a c := by
  simp only [comesFirst, decide_eq_true_eq] at *
  omega

theorem comesFirst_antisymm {a b : DeviceId} (ha : a ∈ pool)
    (hab : comesFirst inventory pool a b) (hba : comesFirst inventory pool b a) : a = b := by
  simp only [comesFirst, decide_eq_true_eq] at hab hba
  have hidx : pool.idxOf a = pool.idxOf b := by omega
  exact (List.idxOf_inj ha).mp hidx

/-! ### One pick -/

/-- A moment of the picking loop: distinct candidates of the inventory are left, and `pick` is the
first of those whose physical device has the lowest load. -/
structure LeastLoaded (inventory : DeviceSet) (front : List DeviceId) (pick : DeviceId)
    (back : List DeviceId) : Prop where
  pickable : Pickable inventory (front ++ pick :: back)
  before : ∀ id ∈ front, load inventory (front ++ pick :: back) (DeviceId.base pick) <
    load inventory (front ++ pick :: back) (DeviceId.base id)
  after : ∀ id ∈ back, load inventory (front ++ pick :: back) (DeviceId.base pick) ≤
    load inventory (front ++ pick :: back) (DeviceId.base id)

namespace LeastLoaded

theorem notMem (h : LeastLoaded inventory front pick back) : pick ∉ front ++ back :=
  (List.nodup_cons.mp (List.nodup_middle.mp h.pickable.nodup)).1

theorem erase_pick (h : LeastLoaded inventory front pick back) :
    (front ++ pick :: back).erase pick = front ++ back := by
  have hfront : pick ∉ front := fun hmem => h.notMem (List.mem_append_left _ hmem)
  rw [List.erase_append_right _ hfront, List.erase_cons_head]

theorem pickable_rest (h : LeastLoaded inventory front pick back) :
    Pickable inventory (front ++ back) :=
  h.erase_pick ▸ h.pickable.erase pick

theorem load_pick_le (h : LeastLoaded inventory front pick back) {id : DeviceId}
    (hid : id ∈ front ++ pick :: back) :
    load inventory (front ++ pick :: back) (DeviceId.base pick) ≤
      load inventory (front ++ pick :: back) (DeviceId.base id) := by
  rcases List.mem_append.mp hid with hfront | hback
  · exact Nat.le_of_lt (h.before id hfront)
  · rcases List.mem_cons.mp hback with rfl | hback
    · exact Nat.le_refl _
    · exact h.after id hback

theorem load_rest (h : LeastLoaded inventory front pick back) (base : DeviceId) :
    load inventory (front ++ back) base = load inventory (front ++ pick :: back) base +
      if base = DeviceId.base pick then 1 else 0 := by
  have hload := load_erase h.pickable (List.mem_append_right _ List.mem_cons_self) base
  rwa [h.erase_pick] at hload

theorem base_ne (h : LeastLoaded inventory front pick back) {id : DeviceId} (hid : id ∈ front) :
    DeviceId.base id ≠ DeviceId.base pick := by
  intro hbase
  have hlt := h.before id hid
  rw [hbase] at hlt
  exact Nat.lt_irrefl _ hlt

theorem level_pick (h : LeastLoaded inventory front pick back) :
    level inventory (front ++ pick :: back) pick =
      load inventory (front ++ pick :: back) (DeviceId.base pick) := by
  have hfront : pick ∉ front := fun hmem => h.base_ne hmem rfl
  -- a candidate of the same device in front would have been picked instead
  have hnone : sharing (DeviceId.base pick) front = 0 := by
    rw [sharing, List.countP_eq_zero]
    intro id hid
    simpa using h.base_ne hid
  rw [level, List.idxOf_append_of_notMem hfront, List.idxOf_cons_self, Nat.add_zero,
    List.take_left, hnone, Nat.add_zero]

theorem comesFirst_pick (h : LeastLoaded inventory front pick back) {id : DeviceId}
    (hid : id ∈ front ++ back) : comesFirst inventory (front ++ pick :: back) pick id := by
  have hpick := h.level_pick
  have hlevel : load inventory (front ++ pick :: back) (DeviceId.base id) ≤
      level inventory (front ++ pick :: back) id := Nat.le_add_right _ _
  simp only [comesFirst, decide_eq_true_eq]
  by_cases hmem : id ∈ front
  · have hlt := h.before id hmem
    omega
  · have hle := h.after id ((List.mem_append.mp hid).resolve_left hmem)
    have hfront : pick ∉ front := fun hmem => h.base_ne hmem rfl
    rw [List.idxOf_append_of_notMem hfront, List.idxOf_append_of_notMem hmem,
      List.idxOf_cons_self]
    omega

/-- A pick leaves the level of every other candidate as it is. -/
theorem level_rest (h : LeastLoaded inventory front pick back) {id : DeviceId}
    (hid : id ∈ front ++ back) :
    level inventory (front ++ back) id = level inventory (front ++ pick :: back) id := by
  rw [level, level, h.load_rest]
  by_cases hfront : id ∈ front
  · -- the pick is the first candidate of its device, so `id` belongs to another one
    rw [if_neg (h.base_ne hfront), List.idxOf_append_of_mem hfront,
      List.idxOf_append_of_mem hfront, List.take_append_of_le_length List.idxOf_le_length,
      List.take_append_of_le_length List.idxOf_le_length, Nat.add_zero]
  · -- the pick stands before `id`, so what the load gains the count before `id` loses
    have hne : pick ≠ id := fun e => h.notMem (e ▸ hid)
    rw [List.idxOf_append_of_notMem hfront, List.idxOf_append_of_notMem hfront,
      List.idxOf_cons_ne _ hne, List.take_length_add_append, List.take_length_add_append,
      List.take_succ_cons]
    simp only [sharing, List.countP_append, List.countP_cons, decide_eq_true_eq,
      @eq_comm _ (DeviceId.base id)]
    omega

theorem idxOf_rest (h : LeastLoaded inventory front pick back) {a b : DeviceId}
    (ha : a ∈ front ++ back) (hb : b ∈ front ++ back)
    (hab : (front ++ back).idxOf a ≤ (front ++ back).idxOf b) :
    (front ++ pick :: back).idxOf a ≤ (front ++ pick :: back).idxOf b := by
  have hne {id : DeviceId} (hid : id ∈ front ++ back) : pick ≠ id := fun e => h.notMem (e ▸ hid)
  have hfront {id : DeviceId} (hid : id ∈ front) := List.idxOf_lt_length_of_mem hid
  -- positions in front of the pick are as they were, those behind it are one lower
  rw [List.idxOf_append, List.idxOf_append] at hab ⊢
  rw [List.idxOf_cons_ne _ (hne ha), List.idxOf_cons_ne _ (hne hb)]
  by_cases hafront : a ∈ front <;> by_cases hbfront : b ∈ front
  · simpa only [if_pos hafront, if_pos hbfront] using hab
  · have := hfront hafront
    rw [if_pos hafront, if_neg hbfront]
    omega
  · have := hfront hbfront
    rw [if_neg hafront, if_pos hbfront] at hab
    omega
  · rw [if_neg hafront, if_neg hbfront] at hab ⊢
    omega

theorem comesFirst_rest (h : LeastLoaded inventory front pick back) {a b : DeviceId}
    (ha : a ∈ front ++ back) (hb : b ∈ front ++ back)
    (hab : comesFirst inventory (front ++ back) a b) :
    comesFirst inventory (front ++ pick :: back) a b := by
  have hidx := h.idxOf_rest ha hb
  simp only [comesFirst, decide_eq_true_eq, h.level_rest ha, h.level_rest hb] at hab ⊢
  omega

theorem filter_rest (h : LeastLoaded inventory front pick back) (picked : List DeviceId) :
    (front ++ pick :: back).filter (· ∉ pick :: picked) =
      (front ++ back).filter (· ∉ picked) := by
  have hne {id : DeviceId} (hid : id ∈ front ++ back) : id ≠ pick := fun e => h.notMem (e ▸ hid)
  rw [List.filter_append, List.filter_cons_of_neg (by simp), ← List.filter_append]
  apply List.filter_congr
  intro id hid
  simp [hne hid]

/-! ### All picks -/

theorem recounted_succ (h : LeastLoaded inventory front pick back) (count : Nat) :
    recounted inventory (count + 1) (front ++ pick :: back) =
      pick :: recounted inventory count (front ++ back) := by
  have hpick : firstMin? (fun id => (load inventory (front ++ pick :: back)
      (DeviceId.base id) : Int)) (front ++ pick :: back) = some pick := by
    apply firstMin?_eq_some_iff.mpr
    refine ⟨front, back, rfl, ?_, ?_⟩
    · intro id hid
      exact Int.ofNat_lt.mpr (h.before id hid)
    · intro id hid
      exact Int.ofNat_le.mpr (h.after id hid)
  rw [recounted, hpick]
  simp only [h.erase_pick]

theorem recounted_length (h : LeastLoaded inventory front pick back) :
    recounted inventory (front ++ pick :: back).length (front ++ pick :: back) =
      pick :: recounted inventory (front ++ back).length (front ++ back) := by
  have hlen : (front ++ pick :: back).length = (front ++ back).length + 1 :=
    List.perm_middle.length_eq
  rw [hlen, h.recounted_succ]

end LeastLoaded

theorem exists_leastLoaded (hrest : Pickable inventory rest) (h : rest ≠ []) :
    ∃ front pick back, rest = front ++ pick :: back ∧
      LeastLoaded inventory front pick back := by
  cases hpick : firstMin? (fun id => (load inventory rest (DeviceId.base id) : Int)) rest with
  | none => exact absurd (firstMax?_eq_none_iff.mp hpick) h
  | some pick =>
    obtain ⟨front, back, rfl, hbefore, hafter⟩ := firstMin?_eq_some_iff.mp hpick
    refine ⟨front, pick, back, rfl, hrest, ?_, ?_⟩
    · intro id hid
      exact Int.ofNat_lt.mp (hbefore id hid)
    · intro id hid
      exact Int.ofNat_le.mp (hafter id hid)

theorem picks_induction {P : List DeviceId → Prop} (nil : P [])
    (pick : ∀ front pick back, LeastLoaded inventory front pick back →
      P (front ++ back) → P (front ++ pick :: back))
    (hrest : Pickable inventory rest) : P rest := by
  induction hn : rest.length generalizing rest with
  | zero => exact List.eq_nil_of_length_eq_zero hn ▸ nil
  | succ n ih =>
    obtain ⟨front, choice, back, rfl, hleast⟩ :=
      exists_leastLoaded hrest (List.ne_nil_of_length_eq_add_one hn)
    have hlen : (front ++ back).length = n := by
      simp only [List.length_append, List.length_cons] at hn ⊢
      omega
    exact pick front choice back hleast (ih hleast.pickable_rest hlen)

theorem recounted_perm (hrest : Pickable inventory rest) :
    (recounted inventory rest.length rest).Perm rest := by
  refine picks_induction (P := fun rest => (recounted inventory rest.length rest).Perm rest)
    List.Perm.nil ?_ hrest
  intro front pick back hleast ih
  rw [hleast.recounted_length]
  exact (ih.cons pick).trans List.perm_middle.symm

theorem take_recounted (count all : Nat) :
    (recounted inventory all rest).take count = recounted inventory (min count all) rest := by
  induction all generalizing count rest with
  | zero => simp [recounted]
  | succ all ih =>
    cases count with
    | zero => simp [recounted]
    | succ count =>
      rw [Nat.succ_min_succ, recounted, recounted]
      cases firstMin? (fun id => (load inventory rest (DeviceId.base id) : Int)) rest with
      | none => rfl
      | some pick => simp only [List.take_succ_cons, ih]

/-- Each pick comes before all later ones in the order of level and position. -/
theorem pairwise_recounted (hrest : Pickable inventory rest) :
    (recounted inventory rest.length rest).Pairwise fun a b => comesFirst inventory rest a b := by
  refine picks_induction (P := fun rest => (recounted inventory rest.length rest).Pairwise
    fun a b => comesFirst inventory rest a b) List.Pairwise.nil ?_ hrest
  intro front pick back hleast ih
  have hperm := recounted_perm hleast.pickable_rest
  rw [hleast.recounted_length]
  refine List.pairwise_cons.mpr ⟨?_, ?_⟩
  · intro id hid
    exact hleast.comesFirst_pick (hperm.mem_iff.mp hid)
  · -- the tail is in the order of what is left, which agrees with the order before the pick
    refine ih.imp_of_mem ?_
    intro a b ha hb hab
    exact hleast.comesFirst_rest (hperm.mem_iff.mp ha) (hperm.mem_iff.mp hb) hab

/-- Counting anew before each pick takes the candidates in the order of level and position. -/
theorem recounted_eq_levelOrder (hrest : Pickable inventory rest) :
    recounted inventory rest.length rest = levelOrder inventory rest :=
  (sortBy_eq_of_pairwise comesFirst_total comesFirst_trans
    (fun _ ha _ _ => comesFirst_antisymm ha) (recounted_perm hrest)
    (pairwise_recounted hrest)).symm

theorem take_levelOrder (hrest : Pickable inventory rest) {count : Nat}
    (hcount : count ≤ rest.length) :
    (levelOrder inventory rest).take count = recounted inventory count rest := by
  rw [← recounted_eq_levelOrder hrest, take_recounted, Nat.min_eq_left hcount]

theorem drop_recounted (hrest : Pickable inventory rest) (count : Nat) :
    (recounted inventory rest.length rest).drop count =
      recounted inventory
        (rest.filter (· ∉ (recounted inventory rest.length rest).take count)).length
        (rest.filter (· ∉ (recounted inventory rest.length rest).take count)) := by
  refine picks_induction (P := fun rest => ∀ count,
    (recounted inventory rest.length rest).drop count =
      recounted inventory
        (rest.filter (· ∉ (recounted inventory rest.length rest).take count)).length
        (rest.filter (· ∉ (recounted inventory rest.length rest).take count)))
    (fun count => by simp [recounted]) ?_ hrest count
  intro front pick back hleast ih count
  cases count with
  | zero => simp
  | succ count =>
    rw [hleast.recounted_length, List.take_succ_cons, List.drop_succ_cons, hleast.filter_rest]
    exact ih count

theorem handsOut_distributed : HandsOut distributed levelOrder where
  answer inventory request _ := by
    have hpool := pickable_candidates inventory request
    rw [distributed]
    split
    · rfl
    · rename_i henough
      rw [spread_eq_recounted hpool, take_levelOrder hpool (by omega)]
  perm _ pool _ := sortBy_perm _ pool
  rest inventory pool count hpool := by
    rw [← recounted_eq_levelOrder hpool, ← recounted_eq_levelOrder (hpool.filter _)]
    exact (drop_recounted hpool count).symm

/-! ### Putting the candidates in order before each pick -/

/-- Whether a candidate is picked no later than another one while the counts are as given: fewer
replicas of its device are taken, or equally many and it has the earlier position. -/
def ranksFirst (accounting : Accounting) (position : DeviceId → Nat) (a b : DeviceId) : Bool :=
  accounting.used (DeviceId.base a) < accounting.used (DeviceId.base b) ∨
    accounting.used (DeviceId.base a) = accounting.used (DeviceId.base b) ∧
      position a ≤ position b

/-- The picks when the remaining candidates are put in order before each of them and the first one
is taken. -/
def resorted (position : DeviceId → Nat) : Nat → Accounting → List DeviceId → List DeviceId
  | 0, _, _ => []
  | count + 1, accounting, rest =>
    match sortBy (ranksFirst accounting position) rest with
    | [] => []
    | pick :: others => pick :: resorted position count (accounting.take pick) others

theorem ranksFirst_total {accounting : Accounting} {position : DeviceId → Nat} (a b : DeviceId) :
    ranksFirst accounting position a b ∨ ranksFirst accounting position b a := by
  simp only [ranksFirst, decide_eq_true_eq]
  omega

theorem ranksFirst_trans {accounting : Accounting} {position : DeviceId → Nat} (a b c : DeviceId)
    (hab : ranksFirst accounting position a b) (hbc : ranksFirst accounting position b c) :
    ranksFirst accounting position a c := by
  simp only [ranksFirst, decide_eq_true_eq] at *
  omega

/-- The candidates in order before a pick: first the one that is picked, which is the first of those
whose device has the fewest replicas taken. -/
theorem sortBy_ranksFirst {accounting : Accounting} {position : DeviceId → Nat}
    {shuffled : List DeviceId} (hperm : shuffled.Perm rest)
    (hposition : rest.Pairwise fun a b => position a < position b)
    (hpick : firstMin? (fun id => accounting.used (DeviceId.base id)) rest = some pick) :
    sortBy (ranksFirst accounting position) shuffled =
      pick :: sortBy (ranksFirst accounting position) (rest.erase pick) := by
  have hmem : pick ∈ rest := mem_of_firstMax? hpick
  have hothers := sortBy_perm (ranksFirst accounting position) (rest.erase pick)
  have hinj : ∀ a ∈ rest, ∀ b ∈ rest, position a = position b → a = b := by
    apply List.inj_on_of_nodup_map
    exact List.pairwise_map.mpr (hposition.imp Nat.ne_of_lt)
  apply sortBy_eq_of_pairwise ranksFirst_total ranksFirst_trans
  · intro a ha b hb hab hba
    simp only [ranksFirst, decide_eq_true_eq] at hab hba
    exact hinj a (hperm.mem_iff.mp ha) b (hperm.mem_iff.mp hb) (by omega)
  · exact (hothers.cons pick).trans ((List.perm_cons_erase hmem).symm.trans hperm.symm)
  · refine List.pairwise_cons.mpr ⟨?_, pairwise_sortBy ranksFirst_total ranksFirst_trans _⟩
    intro id hid
    obtain ⟨front, back, rfl, hbefore, hafter⟩ := firstMin?_eq_some_iff.mp hpick
    simp only [ranksFirst, decide_eq_true_eq]
    -- what stands before the pick is taken more often, what stands behind it has a later position
    rcases List.mem_append.mp (List.mem_of_mem_erase (hothers.mem_iff.mp hid)) with hid | hid
    · exact Or.inl (hbefore id hid)
    · rcases List.mem_cons.mp hid with rfl | hid
      · omega
      · have hle := hafter id hid
        have hlt := (List.pairwise_cons.mp (List.pairwise_append.mp hposition).2.1).1 id hid
        omega

theorem resorted_eq_spread {position : DeviceId → Nat} {shuffled : List DeviceId}
    {accounting : Accounting} (count : Nat) (hperm : shuffled.Perm rest)
    (hposition : rest.Pairwise fun a b => position a < position b) :
    resorted position count accounting shuffled = spread count accounting rest := by
  induction count generalizing accounting shuffled rest with
  | zero => rfl
  | succ count ih =>
    rw [resorted, spread]
    cases hpick : firstMin? (fun id => accounting.used (DeviceId.base id)) rest with
    | none =>
      rw [firstMax?_eq_none_iff.mp hpick] at hperm
      rw [hperm.eq_nil]
      rfl
    | some pick =>
      rw [sortBy_ranksFirst hperm hposition hpick]
      simp only
      rw [ih (sortBy_perm _ _) (hposition.sublist List.erase_sublist)]

theorem pairwise_idxOf {xs : List DeviceId} (h : xs.Nodup) :
    xs.Pairwise fun a b => xs.idxOf a < xs.idxOf b := by
  rw [List.pairwise_iff_getElem]
  intro i j hi hj hij
  rwa [h.idxOf_getElem, h.idxOf_getElem]

/-- Where positions are those of the pool itself, putting it in order before each pick finds the pick
that is found without. -/
theorem resorted_idxOf {pool : List DeviceId} (h : pool.Nodup) (count : Nat)
    (accounting : Accounting) :
    resorted pool.idxOf count accounting pool = spread count accounting pool :=
  resorted_eq_spread count (List.Perm.refl pool) (pairwise_idxOf h)

/-! ### The answers of the distributed policy -/

/-- The distributed policy answers with the required devices and then as many candidates as are
still needed: those that come first when the remaining ones are put in order by the replicas taken
before each pick, which are those of the lowest levels, earlier ones first. -/
theorem distributed_eq_levelOrder {inventory : DeviceSet} {request : Request}
    {ids : List DeviceId} (hsize : (request.required.length : Int) ≤ request.size)
    (hok : distributed inventory request = .ok ids) :
    ids = request.required ++
        resorted (candidates inventory request).idxOf
          (request.size - request.required.length).toNat
          (Accounting.ofCandidates inventory (candidates inventory request))
          (candidates inventory request) ∧
      ids = request.required ++
        (levelOrder inventory (candidates inventory request)).take
          (request.size - request.required.length).toNat := by
  obtain ⟨-, hids⟩ := handsOut_distributed.of_ok hsize hok
  refine ⟨?_, hids⟩
  rw [resorted_eq_spread _ (List.Perm.refl _) (pairwise_idxOf (nodup_candidates _ _))]
  rw [distributed] at hok
  split at hok
  · cases hok
  · exact (Except.ok.inj hok).symm

/-- One replica of the first device is taken already, so its second one comes after the first ones
of the others. -/
theorem distributed_uneven_levelOrder :
    (unevenRequest.required.length : Int) ≤ unevenRequest.size ∧
      distributed unevenInventory unevenRequest = .ok ["a::0", "b::1", "c::0", "a::1"] ∧
      ["a::0", "b::1", "c::0", "a::1"] = unevenRequest.required ++
        resorted (candidates unevenInventory unevenRequest).idxOf
          (unevenRequest.size - unevenRequest.required.length).toNat
          (Accounting.ofCandidates unevenInventory (candidates unevenInventory unevenRequest))
          (candidates unevenInventory unevenRequest) ∧
      ["a::0", "b::1", "c::0", "a::1"] = unevenRequest.required ++
        (levelOrder unevenInventory (candidates unevenInventory unevenRequest)).take
          (unevenRequest.size - unevenRequest.required.length).toNat := by
  have hsize : (unevenRequest.required.length : Int) ≤ unevenRequest.size := by decide
  have hok : distributed unevenInventory unevenRequest =
      .ok ["a::0", "b::1", "c::0", "a::1"] := by
    decide +kernel
  exact ⟨hsize, hok, distributed_eq_levelOrder hsize hok⟩

end DeviceAllocation.Placement
