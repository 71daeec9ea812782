import DeviceAllocation.Proofs.Plugin.Registration
import Mathlib.Data.List.Nodup

namespace DeviceAllocation.Plugin

/-! ### Registries that reject metrics -/

/-- Registers metrics in a registry, unless it has some already. -/
def enrol (taken : List Registry) (registry : Registry) : Except Registry (List Registry) :=
  if registry ∈ taken then .error registry else .ok (taken ++ [registry])

def enrolledBy (plugin : Plugin) (command : Command) : List Registry :=
  (step plugin command).1.book.registries.drop plugin.book.registries.length

theorem foldlM_enrol {taken new : List Registry} (h : (taken ++ new).Nodup) :
    new.foldlM enrol taken = .ok (taken ++ new) := by
  induction new generalizing taken with
  | nil => rw [List.append_nil, List.foldlM_nil]; rfl
  | cons registry new ih =>
    have hnew : registry ∉ taken :=
      fun hmem => List.disjoint_of_nodup_append h hmem List.mem_cons_self
    rw [List.append_cons] at h ⊢
    rw [← ih h, List.foldlM_cons, enrol, if_neg hnew]
    rfl

/-! ### Each registry once -/

/-- Each registry has metrics once, and none has before the process does. -/
structure Sole (book : Book) : Prop where
  once : book.registries.Nodup
  unset : book.current = none → book.registries = []

variable {plugin : Plugin} {command : Command} {book : Book} {position : ℕ}

theorem Sole.start (environment : Environment) (nesting : ℕ) :
    Sole (start environment nesting).book where
  once := List.nodup_nil
  unset _ := rfl

theorem Sole.enter (h : Sole book) {registry : Registry} (hnew : registry ∉ book.registries) :
    Sole (book.enter registry) where
  once := by
    rw [Book.enter, ← List.concat_eq_append]
    exact h.once.concat hnew
  unset hnone := by cases hnone

theorem Sole.settle (h : Sole book) : Sole book.settle := by
  cases hcurrent : book.current with
  | some position =>
    rw [Book.settle, hcurrent]
    exact h
  | none =>
    rw [Book.settle, hcurrent]
    apply h.enter
    rw [h.unset hcurrent]
    exact List.not_mem_nil

theorem Sole.booked (h : Sole plugin.book) (hfresh : plugin.freshRegistry ∉ plugin.book.registries)
    (own : Bool) : Sole (plugin.booked own) := by
  cases own with
  | true => exact h.enter hfresh
  | false => exact h.settle

theorem Sole.step (h : Sole plugin.book) (hfresh : plugin.freshRegistry ∉ plugin.book.registries)
    (command : Command) : Sole (step plugin command).1.book := by
  have hregisters := registers_step plugin command
  generalize Plugin.step plugin command = result at hregisters ⊢
  cases hregisters with
  | unbooked hserves hshared hbook hservers =>
    dsimp only
    rw [hbook]
    exact h
  | booked hserves hbook hservers =>
    dsimp only
    rw [hbook]
    exact h.booked hfresh command.servesOwn
  | served hbook hcurrent hservers =>
    dsimp only
    rw [hbook]
    exact h.booked hfresh command.servesOwn

theorem Sole.run (environment : Environment) (nesting : ℕ) (commands : List Command) :
    Sole (run (Plugin.start environment nesting) commands).book := by
  induction commands using List.reverseRecOn with
  | nil => exact Sole.start environment nesting
  | append_singleton commands command ih =>
    rw [run_concat]
    exact ih.step (Kept.run environment nesting commands).freshRegistry_not_mem command

theorem prefix_settle (book : Book) : book.registries <+: book.settle.registries := by
  rw [Book.settle]
  split
  · exact List.prefix_refl _
  · exact List.prefix_append _ _

theorem prefix_booked (plugin : Plugin) (own : Bool) :
    plugin.book.registries <+: (plugin.booked own).registries := by
  cases own with
  | true => exact List.prefix_append _ _
  | false => exact prefix_settle plugin.book

/-- Nothing that was registered is ever taken back. -/
theorem prefix_step (plugin : Plugin) (command : Command) :
    plugin.book.registries <+: (step plugin command).1.book.registries := by
  have hregisters := registers_step plugin command
  generalize step plugin command = result at hregisters ⊢
  cases hregisters with
  | unbooked hserves hshared hbook hservers => exact hbook ▸ List.prefix_refl _
  | booked hserves hbook hservers => exact hbook ▸ prefix_booked plugin command.servesOwn
  | served hbook hcurrent hservers => exact hbook ▸ prefix_booked plugin command.servesOwn

/-! ### The metrics of the process -/

theorem settle_of_current (hcurrent : book.current = some position) : book.settle = book := by
  rw [Book.settle, hcurrent]

theorem current_step (hcommand : command.servesOwn = false)
    (hcurrent : plugin.current = some position) :
    (step plugin command).1.current = some position := by
  have hbooked : plugin.booked command.servesOwn = plugin.book :=
    (booked_of_shared plugin hcommand).trans (settle_of_current hcurrent)
  have hregisters := registers_step plugin command
  generalize step plugin command = result at hregisters ⊢
  have hkept {after : Plugin} (hbook : after.book = plugin.book) : after.current = some position :=
    (congrArg Book.current hbook).trans hcurrent
  cases hregisters with
  | unbooked hserves hshared hbook hservers => exact hkept hbook
  | booked hserves hbook hservers => exact hkept (hbook.trans hbooked)
  | served hbook hother hservers => exact hkept (hbook.trans hbooked)

theorem current_run {commands : List Command}
    (hcommands : ∀ command ∈ commands, command.servesOwn = false)
    (hcurrent : plugin.current = some position) :
    (run plugin commands).current = some position := by
  induction commands using List.reverseRecOn with
  | nil => exact hcurrent
  | append_singleton commands command ih =>
    rw [run_concat]
    obtain ⟨hbefore, hlast⟩ := List.forall_mem_append.mp hcommands
    exact current_step (hlast command (List.mem_singleton_self _)) (ih hbefore)

theorem reply_askForMetrics (plugin : Plugin) :
    (step plugin .askForMetrics).2.1 = .metrics plugin.currentMetrics.1 true := by
  have hcurrent := current_currentMetrics plugin
  rw [step]
  dsimp only
  rw [hcurrent, decide_eq_true rfl]

theorem reply_askForMetrics_of_current (hcurrent : plugin.current = some position) :
    (step plugin .askForMetrics).2.1 = .metrics position true := by
  rw [reply_askForMetrics, currentMetrics, hcurrent]

/-! ### Every history -/

/-- How a process registers metrics, from some point of its life on. -/
structure RegistersOnce (plugin : Plugin) : Prop where
  once : plugin.book.registries.count .shared ≤ 1
  accepted : ∀ command, (enrolledBy plugin command).foldlM enrol plugin.book.registries =
    .ok (step plugin command).1.book.registries
  -- who asks for the metrics of the process gets some, which the process has from then on
  asked : ∃ position, (step plugin .askForMetrics).2.1 = .metrics position true ∧
    (step plugin .askForMetrics).1.current = some position
  -- whoever asked for them first, they stay the same until a registry of its own is wanted for new
  -- ones
  kept : ∀ position, plugin.current = some position →
    ∀ later, (∀ command ∈ later, command.servesOwn = false) →
      (step (run plugin later) .askForMetrics).2.1 = .metrics position true
  -- then there are new ones, which are not in the registry of the process, and these stay, even if
  -- they could not be served
  replaced : ∀ port barred, ∃ position entry,
    (barred = none →
      (step plugin (.serveMetrics port true barred)).2.1 = .metrics position true) ∧
    plugin.registered.length ≤ position ∧
    (step plugin (.serveMetrics port true barred)).1.registered[position]? = some entry ∧
    entry.registry ≠ .shared ∧
    ∀ later, (∀ command ∈ later, command.servesOwn = false) →
      (step (run plugin (.serveMetrics port true barred :: later)) .askForMetrics).2.1 =
        .metrics position true

theorem step_serveMetrics_own (plugin : Plugin) (port : Int) (barred : Option Fault) :
    (step plugin (.serveMetrics port true barred)).1 =
      (plugin.register plugin.freshRegistry).2 := by
  cases barred with
  | none => rfl
  | some fault => rfl

/-- After any history, a command registers metrics only in registries that have none, so that the
registry of the process has metrics at most once, and everybody who asks for the metrics of the
process gets the same until a registry of its own replaces them. -/
theorem registers_metrics_once (environment : Environment) (nesting : ℕ) (past : List Command) :
    RegistersOnce (run (start environment nesting) past) := by
  have hsole := Sole.run environment nesting past
  have hfresh := (Kept.run environment nesting past).freshRegistry_not_mem
  generalize run (start environment nesting) past = plugin at hsole hfresh ⊢
  exact {
    once := List.nodup_iff_count_le_one.mp hsole.once .shared
    accepted := by
      intro command
      obtain ⟨new, hnew⟩ := prefix_step plugin command
      have hafter := hsole.step hfresh command
      rw [enrolledBy, ← hnew, List.drop_left]
      apply foldlM_enrol
      rw [hnew]
      exact hafter.once
    asked := ⟨_, reply_askForMetrics plugin, current_currentMetrics plugin⟩
    kept := by
      intro position hcurrent later hlater
      exact reply_askForMetrics_of_current (current_run hlater hcurrent)
    replaced := by
      intro port barred
      have hstep := step_serveMetrics_own plugin port barred
      have hown : plugin.freshRegistry ≠ .shared := by
        intro hshared
        cases hshared
      refine ⟨plugin.registered.length, ⟨plugin.freshRegistry, .fresh⟩, ?_, Nat.le_refl _, ?_,
        hown, ?_⟩
      · rintro rfl
        rw [step]
        exact congrArg (Reply.metrics _) (decide_eq_true rfl)
      · rw [hstep]
        exact List.getElem?_concat_length
      · intro later hlater
        have hcurrent : (run (plugin.register plugin.freshRegistry).2 later).current =
            some plugin.registered.length := current_run hlater rfl
        rw [← hstep] at hcurrent
        exact reply_askForMetrics_of_current hcurrent }

/-- Opens a container before and after metrics in a registry of their own are served, and serves
those of the container that is open. -/
def servingCommands : List Command :=
  [.openContainer, .forgetContainer, .serveMetrics 9000 true none, .openContainer,
    .serveContainerMetrics none, .askForMetrics]

/-- The metrics of the first container are the only ones in the registry of the process. -/
theorem serving_registers_metrics_once :
    (run (start [] 100) servingCommands).book = ⟨[.shared, .own 0], some 1⟩ ∧
      (run (start [] 100) servingCommands).containers.map Container.metrics = [0, 1] ∧
      (enrolledBy (run (start [] 100) servingCommands) (.serveHeld 0 none)).foldlM enrol
          [.shared, .own 0] =
        .ok (step (run (start [] 100) servingCommands) (.serveHeld 0 none)).1.book.registries ∧
      (∀ command ∈ [Command.forgetContainer, .serveHeld 0 none, .openContainer],
        command.servesOwn = false) ∧
      (step (run (run (start [] 100) servingCommands)
          [.forgetContainer, .serveHeld 0 none, .openContainer]) .askForMetrics).2.1 =
        .metrics 1 true := by
  have hbook : (run (start [] 100) servingCommands).book.registries = [.shared, .own 0] ∧
      (run (start [] 100) servingCommands).current = some 1 := by
    decide +kernel
  have hmetrics :
      (run (start [] 100) servingCommands).containers.map Container.metrics = [0, 1] := by
    decide +kernel
  have hquiet : ∀ command ∈ [Command.forgetContainer, .serveHeld 0 none, .openContainer],
      command.servesOwn = false := by
    simp [Command.servesOwn]
  obtain ⟨hregistries, hcurrent⟩ := hbook
  have honce := registers_metrics_once [] 100 servingCommands
  have haccepted := honce.accepted (.serveHeld 0 none)
  rw [hregistries] at haccepted
  exact ⟨congrArg₂ Book.mk hregistries hcurrent, hmetrics, haccepted, hquiet,
    honce.kept 1 hcurrent _ hquiet⟩

end DeviceAllocation.Plugin
