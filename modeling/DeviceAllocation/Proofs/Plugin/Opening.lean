import DeviceAllocation.Plugin.Command

namespace DeviceAllocation.Plugin

/-! ### Registered metrics -/

/-- Where metrics were registered, in order, and the position of the metrics of the process. -/
structure Book where
  registries : List Registry
  current : Option Nat

namespace Book

def enter (registry : Registry) (book : Book) : Book :=
  ⟨book.registries ++ [registry], some book.registries.length⟩

/-- An entry for the process, if it has none. -/
def settle (book : Book) : Book :=
  match book.current with
  | some _ => book
  | none => book.enter .shared

end Book

def book (plugin : Plugin) : Book :=
  ⟨plugin.registered.map Registered.registry, plugin.current⟩

theorem book_register (plugin : Plugin) (registry : Registry) :
    (plugin.register registry).2.book = plugin.book.enter registry := by
  rw [register, book, List.map_append, Book.enter, book, List.length_map]
  rfl

theorem book_currentMetrics (plugin : Plugin) :
    plugin.currentMetrics.2.book = plugin.book.settle := by
  cases hcurrent : plugin.book.current with
  | none =>
    rw [Book.settle, hcurrent, currentMetrics, show plugin.current = none from hcurrent]
    exact book_register plugin .shared
  | some position =>
    rw [Book.settle, hcurrent, currentMetrics, show plugin.current = some position from hcurrent]

theorem current_currentMetrics (plugin : Plugin) :
    plugin.currentMetrics.2.current = some plugin.currentMetrics.1 := by
  rw [currentMetrics]
  cases hcurrent : plugin.current with
  | none => rfl
  | some position => exact hcurrent

theorem book_setMetrics (plugin : Plugin) (position : Nat) (metrics : Metrics) :
    (plugin.setMetrics position metrics).book = plugin.book := by
  have hregistries : (plugin.setMetrics position metrics).registered.map Registered.registry =
      plugin.registered.map Registered.registry := by
    apply List.ext_getElem?
    intro other
    rw [setMetrics, List.getElem?_map, List.getElem?_map, List.getElem?_modify]
    cases plugin.registered[other]? with
    | none => rfl
    | some entry =>
      by_cases hother : position = other
      · simp [hother]
      · simp [hother]
  rw [book, hregistries]
  rfl

theorem freshRegistry_eq (plugin : Plugin) :
    plugin.freshRegistry = .own (plugin.book.registries.countP (· ≠ .shared)) := by
  rw [freshRegistry, book, List.countP_map, List.countP_eq_length_filter]
  rfl

/-! ### Fields that parts of a command change -/

section Fields

variable (plugin : Plugin) (name : String) (settings : Settings)

theorem nameTracer_eq : ∃ tracer, (plugin.nameTracer name).1 = { plugin with tracer } := by
  rw [nameTracer]
  cases htracer : plugin.tracer with
  | none => exact ⟨plugin.tracer, rfl⟩
  | some tracer => exact ⟨_, rfl⟩

theorem askForTracer_eq : ∃ tracer, (plugin.askForTracer name).2.1 = { plugin with tracer } := by
  unfold askForTracer
  split
  · rename_i wanted _ _
    rcases plugin.tracerByName wanted with ⟨reports, error | tracer⟩
    · exact ⟨plugin.tracer, rfl⟩
    · exact nameTracer_eq { plugin with tracer := some tracer } name
  · exact nameTracer_eq plugin name

theorem setUpTracing_eq : ∃ tracer,
    (plugin.setUpTracing settings).2.1 = { plugin with tracer } ∧
      (plugin.setUpTracing settings).2.2.servers = [] := by
  rw [setUpTracing]
  rcases Tracing.setUp plugin.environment (plugin.resourceOf settings) true with
    ⟨reports, error | tracer⟩
  · exact ⟨plugin.tracer, rfl, rfl⟩
  · obtain ⟨named, hnamed⟩ :=
      nameTracer_eq { plugin with tracer := some (plugin.tracer.getD tracer) } ownTracer
    exact ⟨named, hnamed, rfl⟩

theorem currentMetrics_eq :
    ∃ registered current, plugin.currentMetrics.2 = { plugin with registered, current } := by
  rw [currentMetrics]
  cases plugin.current with
  | none => exact ⟨_, _, rfl⟩
  | some position => exact ⟨plugin.registered, plugin.current, rfl⟩

theorem install_eq : ∃ position registered current,
    plugin.install settings = (⟨plugin.containers.length, settings, position⟩,
      { plugin with
        containers := plugin.containers ++ [⟨plugin.containers.length, settings, position⟩]
        container := some plugin.containers.length
        registered, current }) ∧
      ({ plugin with registered, current } : Plugin).book = plugin.book.settle := by
  obtain ⟨registered, current, hmetrics⟩ := currentMetrics_eq plugin
  have hbook := book_currentMetrics plugin
  rw [install]
  rcases hpair : plugin.currentMetrics with ⟨position, after⟩
  rw [hpair] at hmetrics hbook
  obtain rfl := hmetrics
  exact ⟨position, _, current, rfl, (book_setMetrics _ _ _).trans hbook⟩

end Fields

/-! ### Settings -/

/-- The settings that a process finds: those that it has read, or else what its environment
gives. -/
def Found (plugin : Plugin) (settings : Settings) : Prop :=
  plugin.settings = some settings ∨
    plugin.settings = none ∧ Settings.read plugin.nesting plugin.environment [] = .ok settings

theorem readSettings_of_none {plugin : Plugin} (hunread : plugin.settings = none) :
    plugin.readSettings.2 = (Settings.read plugin.nesting plugin.environment []).map
      fun settings => (settings, { plugin with settings := some settings }) := by
  rw [readSettings, hunread, Settings.read]
  cases Settings.Sources.consult plugin.nesting plugin.environment [] with
  | error error => rfl
  | ok sources => rfl

theorem readSettings_cases (plugin : Plugin) :
    (∃ settings, Found plugin settings ∧
      plugin.readSettings.2 = .ok (settings, { plugin with settings := some settings })) ∨
    ∃ error, plugin.settings = none ∧
      Settings.read plugin.nesting plugin.environment [] = .error error ∧
      plugin.readSettings.2 = .error error := by
  cases hsettings : plugin.settings with
  | some settings =>
    have hsame : ({ plugin with settings := some settings } : Plugin) = plugin := by
      rw [← hsettings]
    refine Or.inl ⟨settings, Or.inl hsettings, ?_⟩
    rw [hsame, readSettings, hsettings]
  | none =>
    have hread := readSettings_of_none hsettings
    cases houtcome : Settings.read plugin.nesting plugin.environment [] with
    | ok settings =>
      rw [houtcome] at hread
      exact Or.inl ⟨settings, Or.inr ⟨hsettings, houtcome⟩, hread⟩
    | error error =>
      rw [houtcome] at hread
      exact Or.inr ⟨error, rfl, rfl, hread⟩

/-! ### Opening -/

/-- What opening the container comes to. -/
inductive Opens (plugin : Plugin) : Except OpenError Container × Plugin × Effects → Prop
  | already {container} (hopen : plugin.currentContainer = some container) :
      Opens plugin (.ok container, plugin, .none)
  | unread {error effects} (hclosed : plugin.currentContainer = none)
      (hunread : plugin.settings = none)
      (herror : Settings.read plugin.nesting plugin.environment [] = .error error)
      (hservers : effects.servers = []) :
      Opens plugin (.error (.settings error), plugin, effects)
  -- the log has been set up by then
  | untraced {error settings tracer effects} (hclosed : plugin.currentContainer = none)
      (hfound : Found plugin settings) (hservers : effects.servers = []) :
      Opens plugin (.error (.tracing error),
        { plugin with
          settings := some settings
          logging := plugin.logging.setUp settings
          tracer }, effects)
  | created {settings position tracer registered current effects}
      (hclosed : plugin.currentContainer = none) (hfound : Found plugin settings)
      (hbook : ({ plugin with registered, current } : Plugin).book = plugin.book.settle)
      (hservers : effects.servers = []) :
      Opens plugin (.ok ⟨plugin.containers.length, settings, position⟩,
        { plugin with
          settings := some settings
          containers := plugin.containers ++ [⟨plugin.containers.length, settings, position⟩]
          container := some plugin.containers.length
          logging := plugin.logging.setUp settings
          tracer, registered, current }, effects)

theorem opens_build {plugin : Plugin} {settings : Settings} (lines : List LogLine)
    (hclosed : plugin.currentContainer = none) (hfound : Found plugin settings) :
    Opens plugin ((build settings { plugin with settings := some settings }).1,
      (build settings { plugin with settings := some settings }).2.1,
      .ofLines lines ++ (build settings { plugin with settings := some settings }).2.2) := by
  let read : Plugin := { plugin with settings := some settings }
  change Opens plugin ((build settings read).1, (build settings read).2.1,
    .ofLines lines ++ (build settings read).2.2)
  obtain ⟨tracer, htracer, hservers⟩ := setUpTracing_eq (read.setUpLogging settings) settings
  unfold build
  generalize (read.setUpLogging settings).setUpTracing settings = ended at htracer hservers ⊢
  rcases ended with ⟨error | _, traced, effects⟩
  · obtain rfl : traced = { read.setUpLogging settings with tracer } := htracer
    exact .untraced hclosed hfound hservers
  · obtain rfl : traced = { read.setUpLogging settings with tracer } := htracer
    obtain ⟨position, registered, current, hinstall, hbook⟩ :=
      install_eq { read.setUpLogging settings with tracer } settings
    dsimp only
    rw [hinstall]
    exact .created hclosed hfound hbook ((List.append_nil _).trans hservers)

theorem opens_openContainer (plugin : Plugin) : Opens plugin plugin.openContainer := by
  rw [openContainer]
  cases hcurrent : plugin.currentContainer with
  | some container => exact .already hcurrent
  | none =>
    dsimp only
    have hcases := readSettings_cases plugin
    generalize plugin.readSettings = outcome at hcases ⊢
    obtain ⟨lines, outcome⟩ := outcome
    rcases hcases with ⟨settings, hfound, rfl⟩ | ⟨error, hunread, herror, rfl⟩
    · exact opens_build lines hcurrent hfound
    · exact .unread hcurrent hunread herror rfl

theorem currentContainer_of_opens {plugin after : Plugin} {container : Container}
    {effects : Effects} (h : Opens plugin (.ok container, after, effects)) :
    after.currentContainer = some container := by
  cases h with
  | already hopen => exact hopen
  | created hclosed hfound hbook hservers => exact List.getElem?_concat_length

end DeviceAllocation.Plugin
