import DeviceAllocation.Proofs.Plugin.Opening

/-! What each command changes in the process, said once for all that is kept in the course of a
history. -/

namespace DeviceAllocation.Plugin

/-- Whether a command opens the container when there is none. -/
def Command.opens : Command → Bool
  | openContainer => true
  | serveContainerMetrics _ => true
  | wire _ _ _ _ => true
  | _ => false

def Command.wired : Command → Option String
  | wire name _ _ _ => some name
  | wireHeld _ name _ _ _ => some name
  | wireAlone name _ _ _ => some name
  | _ => none

/-- Whether a command starts a server in any case. -/
def Command.serves : Command → Bool
  | serveMetrics _ _ none => true
  | _ => false

def Command.servesOwn : Command → Bool
  | serveMetrics _ own _ => own
  | _ => false

/-- The number of a container with its settings, which are all that it keeps for good. -/
def identity (container : Container) : Nat × Settings := (container.number, container.settings)

def served (plugin : Plugin) (own : Bool) : Registry :=
  if own then plugin.freshRegistry else .shared

/-- What is registered once there are metrics to be served. -/
def booked (plugin : Plugin) (own : Bool) : Book :=
  if own then plugin.book.enter plugin.freshRegistry else plugin.book.settle

variable {plugin : Plugin} {command : Command}

/-! ### A command by itself -/

/-- What a command changes in a process that has a container by then, if it needs one. -/
inductive Acts (plugin : Plugin) (command : Command) : Plugin × Reply × Effects → Prop
  -- what is counted may change, but not where
  | idle {environment inventory tracer registered reply effects}
      (hserves : command.serves = false) (hshared : command.servesOwn = false)
      (hbook : ({ plugin with registered } : Plugin).book = plugin.book)
      (hservers : effects.servers = []) :
      Acts plugin command
        ({ plugin with environment, inventory, tracer, registered }, reply, effects)
  | forgetSettings (hcommand : command = .forgetSettings) :
      Acts plugin command ({ plugin with settings := none }, .done, .none)
  | forgetContainer (hcommand : command = .forgetContainer) :
      Acts plugin command ({ plugin with container := none }, .done, .none)
  | askForLogger {name} (hcommand : command = .askForLogger name) :
      Acts plugin command
        ({ plugin with loggers := plugin.loggers ++ [plugin.newLogger name] }, .done, .none)
  | useLogger {number logger call reply effects} (hcommand : command = .logBy number call)
      (hlogger : plugin.loggers[number]? = some logger) (hservers : effects.servers = []) :
      Acts plugin command
        ({ plugin with loggers := plugin.loggers.set number (plugin.logging.use logger) },
          reply, effects)
  | wire {service inventory tracer registered current effects}
      (hwired : command.wired = some service.name)
      (hkept : service.logger.kept = some .handedOver ∨
        service.logger.kept = some plugin.logging.ending)
      (hbook : ({ plugin with registered, current } : Plugin).book = plugin.book ∨
        ({ plugin with registered, current } : Plugin).book = plugin.book.settle)
      (hservers : effects.servers = []) :
      Acts plugin command
        (addService service { plugin with inventory, tracer, registered, current }, .done, effects)
  -- also when the port is barred
  | register {registered current reply} (hserves : command.serves = false)
      (hbook : ({ plugin with registered, current } : Plugin).book = plugin.booked command.servesOwn) :
      Acts plugin command ({ plugin with registered, current }, reply, .none)
  | serve {containers registered current port registry position same}
      (hcontainers : containers.map identity = plugin.containers.map identity)
      (hbook : ({ plugin with registered, current } : Plugin).book =
        plugin.booked command.servesOwn)
      (hcurrent : current = some position) (hregistry : registry = plugin.served command.servesOwn) :
      Acts plugin command
        ({ plugin with containers, registered, current }, .metrics position same,
          { Effects.none with servers := [⟨port, registry⟩] })

theorem servers_report (plugin : Plugin) (logger : Logger) (call : LogCall) :
    (plugin.report logger call).2.servers = [] := by
  rw [report]
  split
  · rfl
  · rfl

theorem map_identity_giveMetrics (plugin : Plugin) (number position : Nat) :
    (plugin.giveMetrics number position).containers.map identity =
      plugin.containers.map identity := by
  apply List.ext_getElem?
  intro other
  rw [giveMetrics, List.getElem?_map, List.getElem?_map, List.getElem?_modify]
  cases plugin.containers[other]? with
  | none => rfl
  | some container =>
    by_cases hother : number = other
    · simp [hother, identity]
    · simp [hother]

theorem serveMetrics_eq (plugin : Plugin) (port : Int) (own : Bool) (barred : Option Fault) :
    ∃ registered current position,
      ({ plugin with registered, current } : Plugin).book = plugin.booked own ∧
      current = some position ∧
      plugin.serveMetrics port own barred =
        match barred with
        | some fault => (.error fault, { plugin with registered, current }, .none)
        | none => (.ok position, { plugin with registered, current },
          { Effects.none with servers := [⟨port, plugin.served own⟩] }) := by
  cases own with
  | true =>
    refine ⟨_, some plugin.registered.length, _, book_register plugin plugin.freshRegistry, rfl, ?_⟩
    cases barred with
    | none => rfl
    | some fault => rfl
  | false =>
    obtain ⟨registered, current, hmetrics⟩ := currentMetrics_eq plugin
    have hbook := book_currentMetrics plugin
    have hcurrent := current_currentMetrics plugin
    rw [hmetrics] at hbook hcurrent
    refine ⟨registered, current, _, hbook, hcurrent, ?_⟩
    rw [← hmetrics]
    cases barred with
    | none => rfl
    | some fault => rfl

theorem acts_serveMetricsOf (plugin : Plugin) (container : Container) (barred : Option Fault)
    (hserves : command.serves = false) (hshared : command.servesOwn = false) :
    Acts plugin command (plugin.serveMetricsOf container barred) := by
  obtain ⟨registered, current, position, hbook, hcurrent, hserved⟩ :=
    serveMetrics_eq plugin container.settings.metricsPort false barred
  rw [← hshared] at hbook
  rw [serveMetricsOf, hserved]
  cases barred with
  | some fault => exact .register hserves hbook
  | none =>
    exact .serve (map_identity_giveMetrics plugin container.number position) hbook hcurrent
      (congrArg plugin.served hshared.symm)

theorem acts_serveMetrics (plugin : Plugin) (port : Int) (own : Bool) (barred : Option Fault) :
    Acts plugin (.serveMetrics port own barred) (step plugin (.serveMetrics port own barred)) := by
  obtain ⟨registered, current, position, hbook, hcurrent, hserved⟩ :=
    serveMetrics_eq plugin port own barred
  rw [step, hserved]
  cases barred with
  | some fault => exact .register rfl hbook
  | none => exact .serve rfl hbook hcurrent rfl

theorem acts_wireAlone (plugin : Plugin) (name : String) (selector : Selector) (wanted : String)
    (inventory : DeviceSet) :
    Acts plugin (.wireAlone name selector wanted inventory)
      (step plugin (.wireAlone name selector wanted inventory)) := by
  rw [step]
  dsimp only
  cases Strategy.ofName wanted with
  | error fault => exact .idle rfl rfl rfl rfl
  | ok strategy =>
    dsimp only
    obtain ⟨tracer, htracer⟩ := askForTracer_eq { plugin with inventory } ownTracer
    generalize askForTracer ownTracer { plugin with inventory } = asked at htracer ⊢
    rcases asked with ⟨error | _, asked, lines⟩
    · obtain rfl := htracer
      exact .idle rfl rfl rfl rfl
    · obtain rfl := htracer
      dsimp only
      obtain ⟨registered, current, hmetrics⟩ := currentMetrics_eq { plugin with inventory, tracer }
      have hbook := book_currentMetrics { plugin with inventory, tracer }
      rw [hmetrics] at hbook ⊢
      exact .wire rfl (Or.inr rfl) (Or.inr hbook) rfl

theorem acts_request (plugin : Plugin) (name : String) (request : Request)
    (around : Circumstances) :
    Acts plugin (.request name request around) (step plugin (.request name request around)) := by
  rw [step]
  split
  · exact .idle rfl rfl rfl rfl
  · rename_i service _
    have hbook : (plugin.answer service request around).2.1.book = plugin.book :=
      book_setMetrics _ _ _
    rw [answer] at hbook ⊢
    dsimp only at hbook ⊢
    split
    · exact .idle rfl rfl rfl rfl
    · split
      · exact .idle rfl rfl hbook rfl
      · exact .idle rfl rfl hbook rfl

theorem acts_span (plugin : Plugin) (tracer name : String) (around : Circumstances) :
    Acts plugin (.span tracer name around) (step plugin (.span tracer name around)) := by
  rw [step]
  obtain ⟨set, htracer⟩ := askForTracer_eq plugin tracer
  generalize plugin.askForTracer tracer = asked at htracer ⊢
  rcases asked with ⟨error | _, asked, lines⟩
  · obtain rfl := htracer
    exact .idle rfl rfl rfl rfl
  · obtain rfl := htracer
    dsimp only
    split
    · exact .idle rfl rfl rfl rfl
    · exact .idle rfl rfl rfl rfl

/-! ### A command that may open the container first -/

inductive Changes (plugin : Plugin) (command : Command) : Plugin × Reply × Effects → Prop
  | closed {result} (hopens : command.opens = false) (hacts : Acts plugin command result) :
      Changes plugin command result
  | unopened {inventory error after effects} (hopens : command.opens = true)
      (hopened : Opens { plugin with inventory } (.error error, after, effects)) :
      Changes plugin command (after, .unopened error, effects)
  | opened {inventory container between after reply effects later}
      (hopens : command.opens = true)
      (hopened : Opens { plugin with inventory } (.ok container, between, effects))
      (hacts : Acts between command (after, reply, later)) :
      Changes plugin command (after, reply, effects ++ later)

theorem changes_withContainer (inventory : DeviceSet)
    {next : Container → Plugin → Plugin × Reply × Effects} (hopens : command.opens = true)
    (hnext : ∀ container opened, Acts opened command (next container opened)) :
    Changes plugin command (withContainer { plugin with inventory } next) := by
  have hopened := opens_openContainer { plugin with inventory }
  unfold withContainer
  generalize openContainer { plugin with inventory } = ended at hopened ⊢
  rcases ended with ⟨error | container, between, effects⟩
  · exact .unopened hopens hopened
  · exact .opened hopens hopened (hnext container between)

theorem changes_step (plugin : Plugin) (command : Command) :
    Changes plugin command (step plugin command) := by
  cases command with
  | changeEnvironment removed set => exact .closed rfl (.idle rfl rfl rfl rfl)
  | forgetSettings => exact .closed rfl (.forgetSettings rfl)
  | forgetContainer => exact .closed rfl (.forgetContainer rfl)
  | openContainer =>
    exact changes_withContainer plugin.inventory rfl fun _ _ => .idle rfl rfl rfl rfl
  | askForMetrics =>
    obtain ⟨registered, current, hmetrics⟩ := currentMetrics_eq plugin
    have hbook := book_currentMetrics plugin
    refine .closed rfl ?_
    rw [step]
    dsimp only
    rw [hmetrics] at hbook ⊢
    exact .register rfl hbook
  | serveContainerMetrics barred =>
    exact changes_withContainer plugin.inventory rfl fun container opened =>
      acts_serveMetricsOf opened container barred rfl rfl
  | serveHeld number barred =>
    refine .closed rfl ?_
    rw [step]
    cases plugin.containers[number]? with
    | none => exact .idle rfl rfl rfl rfl
    | some container => exact acts_serveMetricsOf plugin container barred rfl rfl
  | serveMetrics port own barred => exact .closed rfl (acts_serveMetrics plugin port own barred)
  | sample own => exact .closed rfl (.idle rfl rfl rfl rfl)
  | wire name net topology inventory =>
    exact changes_withContainer inventory rfl fun _ _ => .wire rfl (Or.inl rfl) (Or.inl rfl) rfl
  | wireHeld number name net topology inventory =>
    refine .closed rfl ?_
    rw [step]
    dsimp only
    cases plugin.containers[number]? with
    | none => exact .idle rfl rfl rfl rfl
    | some container => exact .wire rfl (Or.inl rfl) (Or.inl rfl) rfl
  | wireAlone name selector wanted inventory =>
    exact .closed rfl (acts_wireAlone plugin name selector wanted inventory)
  | request name request around => exact .closed rfl (acts_request plugin name request around)
  | log name call => exact .closed rfl (.idle rfl rfl rfl (servers_report plugin _ call))
  | askForLogger name => exact .closed rfl (.askForLogger rfl)
  | logBy number call =>
    refine .closed rfl ?_
    rw [step]
    cases hlogger : plugin.loggers[number]? with
    | none => exact .idle rfl rfl rfl rfl
    | some logger => exact .useLogger rfl hlogger (servers_report plugin logger call)
  | logByContainer number call =>
    refine .closed rfl ?_
    rw [step]
    cases plugin.containers[number]? with
    | none => exact .idle rfl rfl rfl rfl
    | some container => exact .idle rfl rfl rfl (servers_report plugin heldLogger call)
  | span tracer name around => exact .closed rfl (acts_span plugin tracer name around)

end DeviceAllocation.Plugin
