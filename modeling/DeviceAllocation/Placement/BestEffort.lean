import DeviceAllocation.Choice
import DeviceAllocation.Interconnect

namespace DeviceAllocation.Placement

/-- Adds `count` candidates to a selection, each time the first of those that are best connected to
what is selected so far. -/
def grow (net : Interconnect) : Nat → List Gpu → List Gpu → List Gpu
  | 0, selection, _ => selection
  | count + 1, selection, candidates =>
    match firstMax? (net.scoreAgainst selection) candidates with
    | none => selection
    | some best => grow net count (selection ++ [best]) (candidates.erase best)

def growFrom (net : Interconnect) (size : Nat) (candidates : List Gpu) (seed : Gpu) : List Gpu :=
  grow net (size - 1) [seed] (candidates.erase seed)

/-- The best of the selections grown from each candidate, the first one among equals. A selection of
negative score is no answer. -/
def bestFromSeeds (net : Interconnect) (size : Nat) (candidates : List Gpu) : List Gpu :=
  match firstMax? net.totalScore (candidates.map (growFrom net size candidates)) with
  | none => []
  | some best => if net.totalScore best < 0 then [] else best

/-- Chooses `size` well-connected GPUs that include the required ones. Repeated GPUs count once, and
the answer is empty when the request cannot be met. -/
def bestEffort (net : Interconnect) (available required : List Gpu) (size : Int) : List Gpu :=
  let available := available.eraseDups
  let required := required.eraseDups
  if size ≤ 0 ∨ available.length < size ∨ size < required.length then []
  else if required.any (· ∉ available) then []
  else
    let candidates := available.filter (· ∉ required)
    if required.isEmpty then bestFromSeeds net size.toNat candidates
    else grow net (size.toNat - required.length) required candidates

theorem isPrefix_grow (net : Interconnect) (count : Nat) (selection candidates : List Gpu) :
    selection <+: grow net count selection candidates := by
  induction count generalizing selection candidates with
  | zero => exact List.prefix_rfl
  | succ count ih =>
    simp only [grow]
    split
    · exact List.prefix_rfl
    · exact (List.prefix_append _ _).trans (ih _ _)

end DeviceAllocation.Placement
