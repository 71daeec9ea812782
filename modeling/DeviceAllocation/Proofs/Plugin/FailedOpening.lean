import DeviceAllocation.Proofs.Plugin.Registration

namespace DeviceAllocation.Plugin

variable {plugin : Plugin} {error : Settings.ReadError}

/-! ### One opening -/

/-- All that is written is the report of the sources, and this only where it is asked for. -/
def ReportsSources (plugin : Plugin) (lines : List LogLine) : Prop :=
  ∀ line ∈ lines, Settings.Sources.areReported plugin.environment = true ∧
    ∃ sources, Settings.Sources.consult plugin.nesting plugin.environment [] = .ok sources ∧
      line.report = sources.report

theorem report_of_mem_write {report : Report} {line : LogLine} (h : line ∈ plugin.write report) :
    line.report = report := by
  rw [write, Logging.handle] at h
  split at h
  · obtain ⟨format, -, rfl⟩ := List.mem_map.mp h
    rfl
  · cases h

theorem reportsSources_readSettings (hunread : plugin.settings = none) :
    ReportsSources plugin plugin.readSettings.1 := by
  intro line hline
  rw [readSettings, hunread] at hline
  dsimp only at hline
  split at hline
  · cases hline
  · rename_i sources hsources
    rw [writeSources] at hline
    split at hline
    · rename_i hasked
      exact ⟨hasked, sources, hsources, report_of_mem_write hline⟩
    · cases hline

theorem openContainer_of_error (hclosed : plugin.currentContainer = none)
    (hunread : plugin.settings = none)
    (herror : Settings.read plugin.nesting plugin.environment [] = .error error) :
    plugin.openContainer = (.error (.settings error), plugin, .ofLines plugin.readSettings.1) := by
  have hread := readSettings_of_none hunread
  rw [herror] at hread
  rw [openContainer, hclosed]
  dsimp only
  generalize plugin.readSettings = found at hread ⊢
  obtain ⟨lines, outcome⟩ := found
  obtain rfl : outcome = .error error := hread
  rfl

/-- Settings are found unreadable exactly when they are needed and the environment has none. -/
theorem openContainer_unread_iff : plugin.openContainer.1 = .error (.settings error) ↔
    plugin.currentContainer = none ∧ plugin.settings = none ∧
      Settings.read plugin.nesting plugin.environment [] = .error error := by
  constructor
  · intro hfailed
    have hopens := opens_openContainer plugin
    generalize plugin.openContainer = result at hopens hfailed
    cases hopens with
    | unread hclosed hunread herror hservers =>
      cases hfailed
      exact ⟨hclosed, hunread, herror⟩
    | _ => cases hfailed
  · rintro ⟨hclosed, hunread, herror⟩
    rw [openContainer_of_error hclosed hunread herror]

/-- Nothing is left of an opening that fails to read the settings but the report that the
environment may ask for. -/
theorem step_openContainer_of_error (hclosed : plugin.currentContainer = none)
    (hunread : plugin.settings = none)
    (herror : Settings.read plugin.nesting plugin.environment [] = .error error) :
    ∃ lines, step plugin .openContainer =
        (plugin, .unopened (.settings error), .ofLines lines) ∧
      ReportsSources plugin lines := by
  refine ⟨plugin.readSettings.1, ?_, reportsSources_readSettings hunread⟩
  rw [step, withContainer, openContainer_of_error hclosed hunread herror]

theorem openContainer_of_unopened {error : OpenError}
    (h : (step plugin .openContainer).2.1 = .unopened error) :
    plugin.openContainer.1 = .error error := by
  rw [step, withContainer] at h
  rcases hopened : plugin.openContainer with ⟨fault | container, after, effects⟩
  · rw [hopened] at h
    cases h
    rfl
  · rw [hopened] at h
    cases h

theorem currentContainer_of_closed (hclosed : plugin.container = none) :
    plugin.currentContainer = none := by
  rw [currentContainer, hclosed]
  rfl

/-! ### Tries in several environments -/

def tried (plugin : Plugin) (environments : List Environment) : Plugin :=
  environments.foldl
    (fun plugin environment => (step { plugin with environment } .openContainer).1) plugin

theorem tried_eq (hclosed : plugin.container = none) (hunread : plugin.settings = none)
    {broken : List Environment}
    (hbroken : ∀ environment ∈ broken,
      ∃ error, Settings.read plugin.nesting environment [] = .error error) :
    ∃ environment, tried plugin broken = { plugin with environment } := by
  induction broken generalizing plugin with
  | nil => exact ⟨plugin.environment, rfl⟩
  | cons first broken ih =>
    obtain ⟨error, herror⟩ := hbroken first List.mem_cons_self
    have hclosed' : ({ plugin with environment := first } : Plugin).currentContainer = none :=
      currentContainer_of_closed hclosed
    obtain ⟨lines, hstep, -⟩ := step_openContainer_of_error hclosed' hunread herror
    have hrest : ∀ environment ∈ broken,
        ∃ error, Settings.read plugin.nesting environment [] = .error error :=
      fun environment hmem => hbroken environment (List.mem_cons_of_mem first hmem)
    obtain ⟨last, hlast⟩ :
        ∃ environment, tried { plugin with environment := first } broken =
          { plugin with environment } := ih hclosed hunread hrest
    refine ⟨last, ?_⟩
    rw [← hlast, tried, List.foldl_cons, hstep]
    rfl

/-! ### Histories -/

structure Exchange where
  command : Command
  reply : Reply
  effects : Effects

def exchanges (plugin : Plugin) : List Command → List Exchange
  | [] => []
  | command :: later =>
    ⟨command, (step plugin command).2.1, (step plugin command).2.2⟩ ::
      exchanges (step plugin command).1 later

/-- Whether the container was asked for and the settings could not be read. -/
def Exchange.isInVain : Exchange → Bool
  | ⟨.openContainer, .unopened (.settings _), _⟩ => true
  | _ => false

/-- The commands without those that ask for the container in vain. -/
def effective (plugin : Plugin) (commands : List Command) : List Command :=
  ((exchanges plugin commands).filter (!·.isInVain)).map Exchange.command

variable {command : Command}

theorem step_of_isInVain {effects : Effects}
    (h : Exchange.isInVain ⟨command, (step plugin command).2.1, effects⟩ = true) :
    (step plugin command).1 = plugin := by
  cases command with
  | openContainer =>
    rw [Exchange.isInVain.eq_def] at h
    split at h
    · rename_i error _ hexchange
      have hreply : (step plugin .openContainer).2.1 = .unopened (.settings error) := by
        injection hexchange
      have hfailed := openContainer_of_unopened hreply
      obtain ⟨hclosed, hunread, herror⟩ := openContainer_unread_iff.mp hfailed
      obtain ⟨lines, hstep, -⟩ := step_openContainer_of_error hclosed hunread herror
      rw [hstep]
    · cases h
  | _ => cases h

/-- Leaving out the commands that ask for the container in vain changes nothing else. -/
theorem exchanges_effective (plugin : Plugin) (commands : List Command) :
    exchanges plugin (effective plugin commands) =
        (exchanges plugin commands).filter (!·.isInVain) ∧
      run plugin (effective plugin commands) = run plugin commands := by
  induction commands generalizing plugin with
  | nil => exact ⟨rfl, rfl⟩
  | cons command later ih =>
    obtain ⟨hexchanges, hrun⟩ := ih (step plugin command).1
    cases hvain : Exchange.isInVain
        ⟨command, (step plugin command).2.1, (step plugin command).2.2⟩ with
    | true =>
      -- the command is left out, and the process is where it was before it
      have hsame := step_of_isInVain hvain
      have hdropped : effective plugin (command :: later) = effective plugin later := by
        rw [effective, exchanges, List.filter_cons_of_neg (by simp [hvain]), hsame]
        rfl
      rw [hsame] at hexchanges hrun
      rw [hdropped, exchanges, List.filter_cons_of_neg (by simp [hvain]), hsame]
      refine ⟨hexchanges, hrun.trans ?_⟩
      rw [run, run, List.foldl_cons, hsame]
    | false =>
      have hkept : effective plugin (command :: later) =
          command :: effective (step plugin command).1 later := by
        rw [effective, exchanges, List.filter_cons_of_pos (by simp [hvain])]
        rfl
      rw [hkept, exchanges, exchanges, List.filter_cons_of_pos (by simp [hvain]), hexchanges]
      exact ⟨rfl, hrun⟩

/-- A process with neither a container nor settings that is asked for the container where there are
no settings says why and stays as it is. However often this has happened, it goes on in any
environment as if it had not, and in any history the commands that ask in vain may be left out. -/
theorem failed_openings_leave_no_trace (plugin : Plugin) (hclosed : plugin.container = none)
    (hunread : plugin.settings = none) (broken : List Environment)
    (hbroken : ∀ environment ∈ broken,
      ∃ error, Settings.read plugin.nesting environment [] = .error error) :
    (∀ environment error, Settings.read plugin.nesting environment [] = .error error →
      ∃ lines, step { plugin with environment } .openContainer =
          ({ plugin with environment }, .unopened (.settings error), .ofLines lines) ∧
        ReportsSources { plugin with environment } lines) ∧
    (∀ environment commands,
      exchanges { tried plugin broken with environment } commands =
          exchanges { plugin with environment } commands ∧
        run { tried plugin broken with environment } commands =
          run { plugin with environment } commands) ∧
    ∀ commands,
      exchanges plugin (effective plugin commands) =
          (exchanges plugin commands).filter (!·.isInVain) ∧
        run plugin (effective plugin commands) = run plugin commands := by
  refine ⟨?_, ?_, exchanges_effective plugin⟩
  · intro environment error herror
    have hnone : ({ plugin with environment } : Plugin).currentContainer = none :=
      currentContainer_of_closed hclosed
    exact step_openContainer_of_error hnone hunread herror
  · intro environment commands
    obtain ⟨last, htried⟩ := tried_eq hclosed hunread hbroken
    rw [htried]
    exact ⟨rfl, rfl⟩

def emptiedPlugin : Plugin :=
  run (start [] 100) [.openContainer, .forgetContainer, .forgetSettings]

/-- A port that is no number, and a section that is no JSON. -/
def brokenEnvironments : List Environment :=
  [[("GPU_ALLOCATOR_SERVER__METRICS_PORT", "eight")], [("GPU_ALLOCATOR_SHARING", "\x7b")]]

theorem read_brokenEnvironments :
    brokenEnvironments.map (Settings.read 100 · []) =
      [.error (.invalid [⟨["server", "metrics_port"], .unreadableInteger⟩]),
        .error (.undecodable .environment "sharing" (.text .malformed))] := by
  decide +kernel

/-- The second container is opened after the failures as without them. -/
theorem emptied_failed_openings_leave_no_trace :
    emptiedPlugin.container = none ∧ emptiedPlugin.settings = none ∧
      (∀ environment ∈ brokenEnvironments,
        ∃ error, Settings.read emptiedPlugin.nesting environment [] = .error error) ∧
      (step { emptiedPlugin with environment := [("GPU_ALLOCATOR_SHARING", "\x7b")] }
          .openContainer).2.1 =
        .unopened (.settings (.undecodable .environment "sharing" (.text .malformed))) ∧
      run { tried emptiedPlugin brokenEnvironments with environment := [] } [.openContainer] =
        run { emptiedPlugin with environment := [] } [.openContainer] ∧
      (run { tried emptiedPlugin brokenEnvironments with environment := [] }
        [.openContainer]).currentContainer = some ⟨1, .default, 0⟩ := by
  have hclosed : emptiedPlugin.container = none := by decide +kernel
  have hunread : emptiedPlugin.settings = none := by decide +kernel
  have hnesting : emptiedPlugin.nesting = 100 := by decide +kernel
  have hbroken : ∀ environment ∈ brokenEnvironments,
      ∃ error, Settings.read emptiedPlugin.nesting environment [] = .error error := by
    intro environment hmem
    have hread : Settings.read 100 environment [] ∈
        brokenEnvironments.map (Settings.read 100 · []) := List.mem_map_of_mem hmem
    rw [hnesting]
    rw [read_brokenEnvironments] at hread
    simp only [List.mem_cons, List.not_mem_nil, or_false] at hread
    rcases hread with hread | hread
    · exact ⟨_, hread⟩
    · exact ⟨_, hread⟩
  have hundecodable : Settings.read emptiedPlugin.nesting [("GPU_ALLOCATOR_SHARING", "\x7b")] [] =
      .error (.undecodable .environment "sharing" (.text .malformed)) := by
    rw [hnesting]
    decide +kernel
  obtain ⟨hfails, hgoesOn, -⟩ :=
    failed_openings_leave_no_trace emptiedPlugin hclosed hunread brokenEnvironments hbroken
  obtain ⟨lines, hstep, -⟩ := hfails _ _ hundecodable
  have hsame := (hgoesOn [] [.openContainer]).2
  have hopened : (run { emptiedPlugin with environment := [] }
      [.openContainer]).currentContainer = some ⟨1, .default, 0⟩ := by
    decide +kernel
  refine ⟨hclosed, hunread, hbroken, ?_, hsame, ?_⟩
  · rw [hstep]
  · rw [hsame, hopened]

end DeviceAllocation.Plugin
