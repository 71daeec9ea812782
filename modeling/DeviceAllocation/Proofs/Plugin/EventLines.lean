import DeviceAllocation.Proofs.Json.Printing
import DeviceAllocation.Proofs.Plugin.Answering
import DeviceAllocation.Proofs.Plugin.LogSetUp

namespace DeviceAllocation

/-! ### Lines of a report -/

namespace LogFields

theorem isSome_mapM {α β : Type} (f : α → Option β) (xs : List α) :
    (xs.mapM f).isSome = xs.all fun x => (f x).isSome := by
  induction xs with
  | nil => rfl
  | cons x xs ih =>
    rw [List.all_cons, ← ih, List.mapM_cons]
    cases f x with
    | none => rfl
    | some y =>
      cases xs.mapM f with
      | none => rfl
      | some ys => rfl

theorem isSome_json? (fields : LogFields) :
    fields.json?.isSome = fields.all fun field => field.2.json?.isSome := by
  have hfield (field : String × LogValue) :
      (field.2.json?.map (field.1, ·)).isSome = field.2.json?.isSome := Option.isSome_map
  rw [json?, Option.isSome_map, isSome_mapM]
  simp only [hfield]

end LogFields

namespace Report

theorem length_splitOn (text : List Char) :
    (text.splitOn '\n').length = text.count '\n' + 1 := by
  rw [List.splitOn_eq_splitOnP]
  induction text with
  | nil => rfl
  | cons c text ih =>
    rw [List.splitOnP_cons_eq_if_modifyHead, List.count_cons]
    split
    · rw [List.length_cons, ih]
    · rw [List.length_modifyHead, ih, Nat.add_zero]

theorem length_linesOf (text : String) :
    (linesOf text).length = text.toList.count '\n' + 1 := by
  rw [linesOf, List.length_map, length_splitOn]

theorem linesOf_of_isPlain {text : String} (htext : IsPlain text.toList) :
    linesOf text = [text] := by
  have hlines : text.toList.splitOn '\n' = [text.toList] := by
    apply List.splitOnP_eq_singleton
    intro c hc
    rw [beq_eq_false_iff_ne]
    rintro rfl
    exact absurd (htext '\n' hc).1 (by decide)
  rw [linesOf, hlines, List.map_singleton, String.ofList_toList]

variable (report : Report) (time : String)

theorem render_json (hfields : ∀ field ∈ report.line time, field.2.json?.isSome = true) :
    ∃ text, report.render time .json = [text] ∧ IsPlain text.toList := by
  have hsome : (report.line time).json?.isSome = true := by
    rw [LogFields.isSome_json?, List.all_eq_true]
    exact hfields
  obtain ⟨value, hvalue⟩ := Option.isSome_iff_exists.mp hsome
  have hplain := Json.isPlain_write value
  refine ⟨value.write, ?_, hplain⟩
  rw [render, hvalue]
  exact linesOf_of_isPlain hplain

/-- A field that is no JSON keeps the whole report out of the log. -/
theorem render_json_of_none {field : String × LogValue} (hfield : field ∈ report.line time)
    (hnone : field.2.json? = none) : report.render time .json = [] := by
  have hnot : (report.line time).json? = none := by
    rw [← Option.not_isSome_iff_eq_none, LogFields.isSome_json?, List.all_eq_true]
    intro hall
    have hsome := hall field hfield
    rw [hnone] at hsome
    cases hsome
  rw [render, hnot]
  rfl

theorem length_render_console : (report.render time .console).length =
    ((report.console? time).map fun text => text.toList.count '\n' + 1).getD 0 := by
  rw [render]
  cases report.console? time with
  | none => rfl
  | some text => exact length_linesOf text

end Report

namespace Plugin

variable {plugin : Plugin} {settings : Settings}

/-! ### Reports in the log -/

/-- What the log gets of a report by some settings. -/
def written (settings : Settings) (report : Report) : List LogLine :=
  if settings.threshold.admits report.level then [⟨settings.format, report⟩] else []

/-- What comes of an event by some settings. A logger does not take every event. -/
def reported (settings : Settings) (logger : Logger) (call : LogCall) : Reply × Effects :=
  match Report.ofCall logger.name logger.bound call with
  | .error error => (.unlogged error, .none)
  | .ok report => (.done, .ofLines (written settings report))

def answerReports (plugin : Plugin) (service : WiredService) (request : Request)
    (around : Circumstances) : List Report :=
  let response :=
    Service.respond service.selector plugin.inventory (plugin.strategyOf service) request
      (plugin.metricsAt service.metrics)
  let traced := plugin.trace around response.span
  traced.losses.map AttributeLoss.report ++
    response.notes.map noteReport ++
    (traced.failureLosses.take 1).flatten.map AttributeLoss.report ++
    response.events.map (eventReport service.logger) ++
    (traced.failureLosses.drop 1).flatten.map AttributeLoss.report

section Writing

variable (hlogging : plugin.logging = loggingBy settings)

include hlogging

theorem write_eq : plugin.write = written settings := by
  funext report
  rw [write, hlogging]
  rfl

theorem writeAll_eq (reports : List Report) :
    plugin.writeAll reports = reports.flatMap (written settings) := by
  rw [writeAll, write_eq hlogging]

theorem deliver_eq {logger : Logger} (hkept : logger.kept ≠ some .printed) (report : Report) :
    plugin.logging.deliver logger report = written settings report := by
  rw [hlogging, Logging.deliver]
  cases hlogger : logger.kept with
  | none => rfl
  | some ending =>
    cases ending with
    | printed => exact absurd hlogger hkept
    | handedOver => rfl

theorem report_eq {logger : Logger} (hkept : logger.kept ≠ some .printed) (call : LogCall) :
    plugin.report logger call = reported settings logger call := by
  rw [report, reported]
  cases Report.ofCall logger.name logger.bound call with
  | error error => rfl
  | ok report =>
    dsimp only
    rw [deliver_eq hlogging hkept]

theorem lines_answer {service : WiredService} (hkept : service.logger.kept ≠ some .printed)
    (request : Request) (around : Circumstances) :
    (plugin.answer service request around).2.2.lines =
      (plugin.answerReports service request around).flatMap (written settings) := by
  rw [answer, answerReports]
  dsimp only
  simp only [writeLosses, writeAll_eq hlogging, deliver_eq hlogging hkept, List.flatMap_append,
    List.flatMap_map]

end Writing

/-- A new container reports itself last, by its own settings. -/
theorem lines_build {container : Container} {after : Plugin} {effects : Effects}
    (h : plugin.build settings = (.ok container, after, effects)) :
    container.settings = settings ∧
      ∃ before, effects.lines = before ++ written settings (containerReady settings) := by
  obtain ⟨tracer, htracer, -⟩ := setUpTracing_eq (plugin.setUpLogging settings) settings
  unfold build at h
  generalize (plugin.setUpLogging settings).setUpTracing settings = ended at htracer h
  rcases ended with ⟨error | _, traced, opened⟩
  · cases h
  · obtain rfl : traced = { plugin.setUpLogging settings with tracer } := htracer
    obtain ⟨position, registered, current, hinstall, -⟩ :=
      install_eq { plugin.setUpLogging settings with tracer } settings
    dsimp only at h
    rw [hinstall] at h
    cases h
    exact ⟨rfl, opened.lines, rfl⟩

theorem lines_openContainer {container : Container} {after : Plugin} {effects : Effects}
    (hclosed : plugin.currentContainer = none)
    (h : plugin.openContainer = (.ok container, after, effects)) :
    ∃ before, effects.lines =
      before ++ written container.settings (containerReady container.settings) := by
  rw [openContainer, hclosed] at h
  dsimp only at h
  generalize plugin.readSettings = found at h
  rcases found with ⟨lines, error | ⟨settings, read⟩⟩
  · cases h
  · dsimp only at h
    rcases hbuild : read.build settings with ⟨outcome, built, opened⟩
    rw [hbuild] at h
    cases h
    obtain ⟨rfl, before, hlines⟩ := lines_build hbuild
    exact ⟨lines ++ before, (congrArg (lines ++ ·) hlines).trans (List.append_assoc _ _ _).symm⟩

theorem lines_step_openContainer {container : Container}
    (hclosed : plugin.currentContainer = none)
    (hopened : (step plugin .openContainer).2.1 = .container container) :
    ∃ before, (step plugin .openContainer).2.2.lines =
      before ++ written container.settings (containerReady container.settings) := by
  rw [step, withContainer] at hopened ⊢
  rcases hopen : plugin.openContainer with ⟨error | created, after, effects⟩
  · rw [hopen] at hopened
    cases hopened
  · rw [hopen] at hopened
    obtain rfl := Reply.container.inj hopened
    obtain ⟨before, hlines⟩ := lines_openContainer hclosed hopen
    exact ⟨before, (List.append_nil _).trans hlines⟩

/-! ### Every history -/

/-- How a process writes events by some settings, from some earlier point of its life on. -/
structure WritesOnce (settings : Settings) (early plugin : Plugin) : Prop where
  -- sources without a logger for events, such as the allocation rules
  plain : ∀ report, plugin.write report = written settings report
  -- a logger that is asked for just now
  fresh : ∀ name call,
    step plugin (.log name call) = (plugin, reported settings (plugin.newLogger name) call)
  -- a logger that was asked for since then, used or not
  held : ∀ number logger, early.loggers.length ≤ number →
    plugin.loggers[number]? = some logger →
    ∀ call, (step plugin (.logBy number call)).2 = reported settings logger call
  -- the logger of any container that there has been
  ofContainers : ∀ number < plugin.containers.length, ∀ call,
    step plugin (.logByContainer number call) = (plugin, reported settings heldLogger call)
  -- a service that was not there then, unless its span cannot start
  services : ∀ name service, Keyed.find? WiredService.name name plugin.services = some service →
    service ∈ early.services ∨ ∀ request around,
      (plugin.startSpan around
        (Service.startAttributes (plugin.strategyOf service) request)).2 = .ok () →
      (step plugin (.request name request around)).2.2.lines =
        (plugin.answerReports service request around).flatMap (written settings)
  -- a new container reports by its own settings already
  created : ∀ container, plugin.currentContainer = none →
    (step plugin .openContainer).2.1 = .container container →
    ∃ before, (step plugin .openContainer).2.2.lines =
      before ++ written container.settings (containerReady container.settings)

def eventCall (level : Level) (event : String) (fields : LogFields) : LogCall :=
  ⟨level, event, fields, ""⟩

/-- Asks for a logger and uses it, and then sets the log up for the errors on a console. -/
def turningLogCommands : List Command :=
  [.askForLogger "worker", .logBy 0 (eventCall .info "started" []),
    .changeEnvironment [] [("GPU_ALLOCATOR_OBSERVABILITY__LOG_FORMAT", "console"),
      ("GPU_ALLOCATOR_OBSERVABILITY__LOG_LEVEL", "ERROR")],
    .forgetSettings, .forgetContainer, .openContainer]

def turnedLog : Plugin := run (start [] 100) ([.openContainer] ++ turningLogCommands)

def errorSettings : Settings := { Settings.default with threshold := .error, format := .console }

/-- A mapping from a pair, which JSON has no key for. -/
def pairField : String × LogValue :=
  ("owners", .foreign {
    kind := "dict"
    isTruthy := true
    words := some "\x7b(0, 1): 'a'\x7d"
    description := some "\x7b(0, 1): 'a'\x7d"
    json := none
    name := none
    failureText := none
    fill := fun _ => .error ⟨"KeyError", none, "0"⟩ })

/-- Opens a container, and then fails to open one that would log errors only. -/
def failingCommands : List Command :=
  [.openContainer,
    .changeEnvironment [] [("GPU_ALLOCATOR_OBSERVABILITY__LOG_LEVEL", "ERROR"),
      ("OTEL_SPAN_LINK_COUNT_LIMIT", "-1")],
    .forgetSettings, .forgetContainer, .openContainer]

def loggedLines (plugin : Plugin) (call : LogCall) : List String :=
  (step plugin (.log "" call)).2.2.lines.flatMap fun line => line.report.render "now" line.format

def jsonPlugin : Plugin := run (start [] 100) [.openContainer]

def consolePlugin : Plugin :=
  run (start [("GPU_ALLOCATOR_OBSERVABILITY__LOG_FORMAT", "console")] 100) [.openContainer]

def untracedPlugin : Plugin := run (start [] 100) failingCommands

end Plugin

end DeviceAllocation
