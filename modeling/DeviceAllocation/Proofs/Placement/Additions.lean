import DeviceAllocation.Proofs.Interconnect
import DeviceAllocation.Proofs.Placement.Checked

namespace DeviceAllocation.Placement

variable {net : Interconnect}

/-- The GPUs that growing adds, one after the other, each with its score against what is selected
when it is chosen. -/
def additions (net : Interconnect) : ℕ → List Gpu → List Gpu → List (Gpu × Int)
  | 0, _, _ => []
  | count + 1, selection, candidates =>
    match firstMax? (net.scoreAgainst selection) candidates with
    | none => []
    | some best => (best, net.scoreAgainst selection best) ::
        additions net count (selection ++ [best]) (candidates.erase best)

theorem grow_eq_append_additions (count : ℕ) (selection candidates : List Gpu) :
    grow net count selection candidates =
      selection ++ (additions net count selection candidates).map Prod.fst := by
  induction count generalizing selection candidates with
  | zero => exact (List.append_nil selection).symm
  | succ count ih =>
    rw [grow, additions]
    cases firstMax? (net.scoreAgainst selection) candidates with
    | none => exact (List.append_nil selection).symm
    | some best =>
      dsimp only
      rw [ih, List.append_assoc]
      rfl

theorem score_of_mem_additions (count : ℕ) (selection candidates : List Gpu)
    {before after : List (Gpu × Int)} {gpu : Gpu} {score : Int}
    (h : additions net count selection candidates = before ++ (gpu, score) :: after) :
    score = net.scoreAgainst (selection ++ before.map Prod.fst) gpu := by
  induction count generalizing selection candidates before with
  | zero => simp [additions] at h
  | succ count ih =>
    rw [additions] at h
    cases hbest : firstMax? (net.scoreAgainst selection) candidates with
    | none => simp [hbest] at h
    | some best =>
      rw [hbest] at h
      -- what is chosen first joins the selection that all later additions are scored against
      cases before with
      | nil =>
        obtain ⟨hfirst, -⟩ := List.cons.inj h
        obtain ⟨rfl, rfl⟩ := Prod.mk.inj hfirst
        rw [List.map_nil, List.append_nil]
      | cons first before =>
        obtain ⟨rfl, hrest⟩ := List.cons.inj h
        rw [ih _ _ hrest, List.map_cons, ← List.append_cons]

theorem totalScore_grow (count : ℕ) (selection candidates : List Gpu) :
    net.totalScore (grow net count selection candidates) = net.totalScore selection +
      ((additions net count selection candidates).map Prod.snd).sum := by
  induction count generalizing selection candidates with
  | zero => exact (Int.add_zero _).symm
  | succ count ih =>
    rw [grow, additions]
    cases firstMax? (net.scoreAgainst selection) candidates with
    | none => exact (Int.add_zero _).symm
    | some best =>
      dsimp only
      -- the GPU that is added stands last, and all pairs that it makes are with GPUs before it
      calc net.totalScore (grow net count (selection ++ [best]) (candidates.erase best))
          = net.totalScore (selection ++ [best]) + ((additions net count (selection ++ [best])
              (candidates.erase best)).map Prod.snd).sum := ih _ _
        _ = net.totalScore selection + (net.scoreAgainst selection best +
              ((additions net count (selection ++ [best])
                (candidates.erase best)).map Prod.snd).sum) := by
            rw [Interconnect.totalScore_concat, Int.add_assoc]
        _ = _ := by rw [List.map_cons, List.sum_cons]

/-- A selection that the loop ends with, which looks up a candidate as long as one is wanting, is one
that has grown by as many GPUs as were wanting at the start. -/
theorem grow_of_grow? {size : Int} {selection candidates grown : List Gpu}
    (h : grow? net size selection candidates = some grown) :
    grown = grow net (size - selection.length).toNat selection candidates := by
  -- the induction is on how many are wanting, of which every round of the loop supplies one
  generalize hcount : (size - selection.length).toNat = count
  induction count generalizing selection candidates with
  | zero =>
    rw [grow?, if_neg (by omega)] at h
    exact (Option.some.inj h).symm
  | succ count ih =>
    rw [grow?, if_pos (by omega), scanBest?_eq] at h
    rw [grow]
    cases hbest : firstMax? (net.scoreAgainst selection) candidates with
    | none =>
      rw [hbest] at h
      cases h
    | some best =>
      have hmem := mem_of_firstMax? hbest
      simp only [hbest, if_pos hmem] at h
      apply ih h
      rw [List.length_append, List.length_singleton]
      omega

/-- The two scores of the greedy choice agree. The score of a pair does not depend on its order, and
the score of a selection not on the order in which it is listed. A grown selection is the one at the
start and what has been added to it, and its score is that of the start and, for each GPU that has
been added, its score against all that was selected before it. Every selection that the loop ends
with is one that has grown in this way. -/
theorem growth_adds_up_scores (net : Interconnect) :
    (∀ a b : Gpu, net.linkScore a b = net.linkScore b a) ∧
    (∀ selection other : List Gpu, selection.Perm other →
      net.totalScore selection = net.totalScore other) ∧
    (∀ (count : ℕ) (start candidates : List Gpu),
      grow net count start candidates =
          start ++ (additions net count start candidates).map Prod.fst ∧
        (∀ before gpu score after,
          additions net count start candidates = before ++ (gpu, score) :: after →
            score = net.scoreAgainst (start ++ before.map Prod.fst) gpu) ∧
        net.totalScore (grow net count start candidates) =
          net.totalScore start + ((additions net count start candidates).map Prod.snd).sum) ∧
    ∀ (size : Int) (start candidates grown : List Gpu),
      grow? net size start candidates = some grown →
        grown = grow net (size - start.length).toNat start candidates := by
  refine ⟨net.linkScore_comm, ?_, ?_, ?_⟩
  · intro selection other h
    exact Interconnect.totalScore_perm h
  · intro count start candidates
    refine ⟨grow_eq_append_additions count start candidates, ?_, totalScore_grow _ _ _⟩
    intro before gpu score after h
    exact score_of_mem_additions count start candidates h
  · intro size start candidates grown h
    exact grow_of_grow? h

/-- Three GPUs, two of them on one memory node. One link costs more than it gives. -/
def costlyNet : Interconnect := .ofGpus [⟨"a", 0, some 0⟩, ⟨"b", 1, none⟩, ⟨"c", 2, some 0⟩]
  [⟨"a", "b", 2⟩, ⟨"c", "b", -1⟩]

/-- The memory node that the last GPU shares makes up for its link. -/
theorem growth_adds_up_costly_scores :
    costlyNet.linkScore ⟨"a", 0, some 0⟩ ⟨"c", 2, some 0⟩ =
      costlyNet.linkScore ⟨"c", 2, some 0⟩ ⟨"a", 0, some 0⟩ ∧
    [⟨"b", 1, none⟩, ⟨"a", 0, some 0⟩, ⟨"c", 2, some 0⟩].Perm
      [⟨"c", 2, some 0⟩, ⟨"b", 1, none⟩, (⟨"a", 0, some 0⟩ : Gpu)] ∧
    costlyNet.totalScore [⟨"b", 1, none⟩, ⟨"a", 0, some 0⟩, ⟨"c", 2, some 0⟩] =
      costlyNet.totalScore [⟨"c", 2, some 0⟩, ⟨"b", 1, none⟩, ⟨"a", 0, some 0⟩] ∧
    additions costlyNet 2 [⟨"b", 1, none⟩] [⟨"c", 2, some 0⟩, ⟨"a", 0, some 0⟩] =
      [(⟨"a", 0, some 0⟩, 2), (⟨"c", 2, some 0⟩, 0)] ∧
    0 = costlyNet.scoreAgainst [⟨"b", 1, none⟩, ⟨"a", 0, some 0⟩] ⟨"c", 2, some 0⟩ ∧
    grow? costlyNet 3 [⟨"b", 1, none⟩] [⟨"c", 2, some 0⟩, ⟨"a", 0, some 0⟩] =
      some [⟨"b", 1, none⟩, ⟨"a", 0, some 0⟩, ⟨"c", 2, some 0⟩] ∧
    costlyNet.totalScore [⟨"b", 1, none⟩, ⟨"a", 0, some 0⟩, ⟨"c", 2, some 0⟩] = 0 + (2 + 0) := by
  obtain ⟨hsides, hperm, hgrown, hloop⟩ := growth_adds_up_scores costlyNet
  have hadded : additions costlyNet 2 [⟨"b", 1, none⟩] [⟨"c", 2, some 0⟩, ⟨"a", 0, some 0⟩] =
      [(⟨"a", 0, some 0⟩, 2), (⟨"c", 2, some 0⟩, 0)] := by
    decide +kernel
  have hended : grow? costlyNet 3 [⟨"b", 1, none⟩] [⟨"c", 2, some 0⟩, ⟨"a", 0, some 0⟩] =
      some [⟨"b", 1, none⟩, ⟨"a", 0, some 0⟩, ⟨"c", 2, some 0⟩] := by
    decide +kernel
  have hturned : [⟨"b", 1, none⟩, ⟨"a", 0, some 0⟩, ⟨"c", 2, some 0⟩].Perm
      [⟨"c", 2, some 0⟩, ⟨"b", 1, none⟩, (⟨"a", 0, some 0⟩ : Gpu)] := by
    decide
  obtain ⟨-, hscores, htotal⟩ :=
    hgrown 2 [⟨"b", 1, none⟩] [⟨"c", 2, some 0⟩, ⟨"a", 0, some 0⟩]
  have hlast := hscores [(⟨"a", 0, some 0⟩, 2)] ⟨"c", 2, some 0⟩ 0 [] hadded
  have hsum := (congrArg costlyNet.totalScore (hloop 3 _ _ _ hended)).trans htotal
  rw [hadded] at hsum
  exact ⟨hsides _ _, hturned, hperm _ _ hturned, hadded, hlast, hended, hsum⟩

end DeviceAllocation.Placement
