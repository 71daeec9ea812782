import DeviceAllocation.Service

namespace DeviceAllocation.Service

variable {selector : Selector} {inventory : DeviceSet} {strategy : Strategy} {request : Request}

/-! ### One request -/

theorem attempt_fst (progress : Progress) :
    (attempt selector inventory strategy request progress).1 =
      selector.select inventory strategy request := by
  rw [attempt, Selector.select]
  cases classify inventory request.available strategy with
  | error error => rfl
  | ok policy => rfl

theorem reportingRefusals_fst (work : Handling) (progress : Progress) :
    (reportingRefusals request work progress).1 = (work progress).1 := by
  rw [reportingRefusals]
  rcases work progress with ⟨(error | fault) | devices, after⟩
  · rfl
  · rfl
  · rfl

theorem counting_fst (work : Handling) (progress : Progress) :
    (counting work progress).1 = (work progress).1 := rfl

theorem inSpan_fst (work : Handling) (progress : Progress) :
    (inSpan work progress).1 = (work progress).1 := by
  rw [inSpan]
  rcases work progress with ⟨failure | devices, after⟩
  · rfl
  · rfl

/-- A request ends as its selector says, whatever is on record when it comes in. -/
theorem handle_fst (progress : Progress) :
    (handle selector inventory strategy request progress).1 =
      selector.select inventory strategy request := by
  have hspan : (inSpan (counting (reportingRefusals request
      (attempt selector inventory strategy request))) progress).1 =
        selector.select inventory strategy request := by
    rw [inSpan_fst, counting_fst, reportingRefusals_fst, attempt_fst]
  rw [← hspan, handle]
  rcases inSpan (counting (reportingRefusals request
    (attempt selector inventory strategy request))) progress with ⟨failure | devices, after⟩
  · rfl
  · rfl

/-! ### Histories -/

def run (state : State) (events : List Event) : State :=
  events.foldl (fun state event => (step state event).1) state

def Event.inventory? : Event → Option DeviceSet
  | newInventory inventory => some inventory
  | _ => none

def Event.strategy? : Event → Option Strategy
  | newStrategy strategy => some strategy
  | _ => none

def inventoryAfter (start : DeviceSet) (events : List Event) : DeviceSet :=
  (events.filterMap Event.inventory?).getLastD start

def strategyAfter (start : Strategy) (events : List Event) : Strategy :=
  (events.filterMap Event.strategy?).getLastD start

theorem run_inventory (state : State) (events : List Event) :
    (run state events).inventory = inventoryAfter state.inventory events := by
  induction events generalizing state with
  | nil => rfl
  | cons event events ih =>
    rw [run, List.foldl_cons, ← run, ih]
    cases event with
    | request selector request => rfl
    | newInventory inventory =>
      simp only [inventoryAfter, step, Event.inventory?, List.filterMap_cons, List.getLastD_cons]
    | newStrategy strategy => rfl

theorem run_strategy (state : State) (events : List Event) :
    (run state events).strategy = strategyAfter state.strategy events := by
  induction events generalizing state with
  | nil => rfl
  | cons event events ih =>
    rw [run, List.foldl_cons, ← run, ih]
    cases event with
    | request selector request => rfl
    | newInventory inventory => rfl
    | newStrategy strategy =>
      simp only [strategyAfter, step, Event.strategy?, List.filterMap_cons, List.getLastD_cons]

/-- After any history a request ends as its selector says from the inventory and the strategy that
were set last, with the same devices or the same failure. Neither the requests before it nor
anything that is on record when it is handled makes a difference. -/
theorem request_ends_as_selected (start : State) (events : List Event) (selector : Selector)
    (request : Request) :
    ∃ response, (step (run start events) (.request selector request)).2 = some response ∧
      response.outcome = selector.select (inventoryAfter start.inventory events)
        (strategyAfter start.strategy events) request ∧
      ∀ progress, (handle selector (inventoryAfter start.inventory events)
        (strategyAfter start.strategy events) request progress).1 = response.outcome := by
  refine ⟨_, rfl, ?_, ?_⟩
  · rw [← run_inventory, ← run_strategy]
    exact handle_fst _
  · intro progress
    rw [← run_inventory, ← run_strategy, handle_fst]
    exact (handle_fst _).symm

end DeviceAllocation.Service
