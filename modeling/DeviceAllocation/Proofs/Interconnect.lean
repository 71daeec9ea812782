import DeviceAllocation.Interconnect
import Mathlib.Algebra.BigOperators.Group.List.Basic
import Mathlib.Algebra.Ring.Int.Defs

namespace DeviceAllocation

namespace Link

def turned (link : Link) : Link := ⟨link.right, link.left, link.lanes⟩

/-- The lanes that a list of links gives to a pair of GPUs. -/
def total (links : List Link) (a b : DeviceId) : Int :=
  ((links.filter fun link => link.joins a b).map lanes).sum

variable {link : Link} {links other parts : List Link} {a b x y : DeviceId}

theorem joins_turned (link : Link) (x y : DeviceId) : link.turned.joins x y = link.joins x y := by
  rw [joins_comm link x y, joins, joins, Bool.and_comm, Bool.and_comm (decide (link.left = x))]
  rfl

theorem joins_of_joins (h : link.joins a b) (lanes : Int) :
    link.joins x y = joins ⟨a, b, lanes⟩ x y := by
  simp only [joins, Bool.or_eq_true, Bool.and_eq_true, decide_eq_true_eq] at h
  rcases h with ⟨rfl, rfl⟩ | ⟨rfl, rfl⟩
  · rfl
  · exact (joins_turned { link with lanes } x y).symm

theorem total_cons : total (link :: links) x y =
    (if link.joins x y then link.lanes else 0) + total links x y := by
  rw [total, List.filter_cons]
  split
  · rw [List.map_cons, List.sum_cons, total]
  · rw [zero_add, total]

theorem total_append : total (parts ++ links) x y = total parts x y + total links x y := by
  rw [total, List.filter_append, List.map_append, List.sum_append]
  rfl

theorem total_perm (h : links.Perm other) : total links x y = total other x y :=
  ((h.filter _).map lanes).sum_eq

/-- Several links between two GPUs give to each pair what one link with all their lanes does. -/
theorem total_parts (h : ∀ link ∈ parts, link.joins a b) :
    total parts x y =
      if joins ⟨a, b, (parts.map lanes).sum⟩ x y then (parts.map lanes).sum else 0 := by
  have hsame : ∀ link ∈ parts, link.joins x y = joins ⟨a, b, (parts.map lanes).sum⟩ x y :=
    fun link hlink => joins_of_joins (h link hlink) _
  split
  · rename_i hjoins
    rw [total, List.filter_eq_self.mpr (fun link hlink => (hsame link hlink).trans hjoins)]
  · rename_i hjoins
    have hnone : parts.filter (fun link => link.joins x y) = [] := by
      apply List.filter_eq_nil_iff.mpr
      intro link hlink
      rwa [hsame link hlink]
    rw [total, hnone, List.map_nil, List.sum_nil]

end Link

/-- Ways to list links otherwise: in another order, from the other end, several links between two
GPUs as one that has all their lanes, and the other way round. -/
inductive Relisted : List Link → List Link → Prop
  | reorder {links other : List Link} (h : links.Perm other) : Relisted links other
  | turn (link : Link) (rest : List Link) : Relisted (link :: rest) (link.turned :: rest)
  | merge {a b : DeviceId} (parts rest : List Link) (h : ∀ link ∈ parts, link.joins a b) :
    Relisted (parts ++ rest) (⟨a, b, (parts.map Link.lanes).sum⟩ :: rest)
  | symm {links other : List Link} (h : Relisted links other) : Relisted other links
  | trans {links between other : List Link} (h : Relisted links between)
    (h' : Relisted between other) : Relisted links other

theorem Relisted.total_eq {links other : List Link} (h : Relisted links other) (x y : DeviceId) :
    Link.total other x y = Link.total links x y := by
  induction h with
  | reorder h => exact (Link.total_perm h).symm
  | turn link rest =>
    rw [Link.total_cons, Link.total_cons, Link.joins_turned]
    rfl
  | merge parts rest h => rw [Link.total_cons, Link.total_append, Link.total_parts h]
  | symm _ ih => exact ih.symm
  | trans _ _ ih ih' => exact ih'.trans ih

namespace Interconnect

variable {net : Interconnect} {selection other : List Gpu}

theorem scoreAgainst_perm (h : selection.Perm other) (gpu : Gpu) :
    net.scoreAgainst selection gpu = net.scoreAgainst other gpu := by
  apply h.foldr_eq'
  intro first _ second _ total
  exact Int.add_left_comm _ _ total

theorem totalScore_perm (h : selection.Perm other) :
    net.totalScore selection = net.totalScore other := by
  induction h with
  | nil => rfl
  | cons gpu h ih => rw [totalScore, totalScore, scoreAgainst_perm h, ih]
  | swap first second rest =>
    -- the two GPUs in front are scored against each other once, from whichever side
    have hsides := net.linkScore_comm first second
    simp only [totalScore, scoreAgainst, List.foldr_cons]
    omega
  | trans _ _ ih ih' => exact ih.trans ih'

theorem totalScore_concat (net : Interconnect) (selection : List Gpu) (gpu : Gpu) :
    net.totalScore (selection ++ [gpu]) =
      net.totalScore selection + net.scoreAgainst selection gpu := by
  have hfront : (selection ++ [gpu]).Perm (gpu :: selection) := List.perm_append_singleton _ _
  rw [totalScore_perm hfront, totalScore, Int.add_comm]

/-! ### Interconnects with the same lanes -/

theorem lanes_eq_total (net : Interconnect) (a b : DeviceId) :
    net.lanes a b = Link.total net.links a b := by
  rw [lanes, Link.total, List.sum, List.foldr_map]

theorem lanes_of_relisted {links : List Link} (h : Relisted net.links links) (a b : DeviceId) :
    { net with links }.lanes a b = net.lanes a b := by
  rw [lanes_eq_total, lanes_eq_total]
  exact h.total_eq a b

variable {rewired : Interconnect}

theorem linkScore_of_lanes (h : ∀ a b, rewired.lanes a b = net.lanes a b) :
    rewired.linkScore = net.linkScore := by
  funext a b
  rw [linkScore, linkScore, h]

theorem scoreAgainst_of_lanes (h : ∀ a b, rewired.lanes a b = net.lanes a b) :
    rewired.scoreAgainst = net.scoreAgainst := by
  funext selection gpu
  rw [scoreAgainst, scoreAgainst, linkScore_of_lanes h]

theorem totalScore_of_lanes (h : ∀ a b, rewired.lanes a b = net.lanes a b) :
    rewired.totalScore = net.totalScore := by
  funext selection
  induction selection with
  | nil => rfl
  | cons gpu rest ih => rw [totalScore, totalScore, scoreAgainst_of_lanes h, ih]

end Interconnect

end DeviceAllocation
