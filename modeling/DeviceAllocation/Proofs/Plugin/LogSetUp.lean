import DeviceAllocation.Proofs.Plugin.Registration

namespace DeviceAllocation.Plugin

/-! ### Which commands set the log up -/

/-- The settings that a new container would have, unless one is open or they cannot be found. -/
def openingSettings? (plugin : Plugin) : Option Settings :=
  match plugin.currentContainer with
  | some _ => none
  | none => plugin.settings.or (Settings.read plugin.nesting plugin.environment []).toOption

def setsUp? (plugin : Plugin) (command : Command) : Option Settings :=
  if command.opens then plugin.openingSettings? else none

/-- The settings that the log was set up by last in a history. -/
def lastSetUp (plugin : Plugin) : List Command → Option Settings
  | [] => none
  | command :: later => (lastSetUp (step plugin command).1 later).or (plugin.setsUp? command)

variable {plugin : Plugin} {command : Command} {settings : Settings}

theorem lastSetUp_concat (plugin : Plugin) (commands : List Command) (command : Command) :
    lastSetUp plugin (commands ++ [command]) =
      ((run plugin commands).setsUp? command).or (lastSetUp plugin commands) := by
  induction commands generalizing plugin with
  | nil => exact (Option.or_none).symm
  | cons first commands ih =>
    rw [List.cons_append, lastSetUp, ih, lastSetUp, Option.or_assoc]
    rfl

theorem openingSettings_of_found (hclosed : plugin.currentContainer = none)
    (hfound : Found plugin settings) : plugin.openingSettings? = some settings := by
  rw [openingSettings?, hclosed]
  rcases hfound with hcached | ⟨hnone, hread⟩
  · rw [hcached]
    rfl
  · rw [hnone, hread]
    rfl

/-! ### One command -/

structure Logs (plugin : Plugin) (command : Command) (after : Plugin) : Prop where
  logging : after.logging =
    (plugin.setsUp? command).elim plugin.logging fun settings => plugin.logging.setUp settings
  -- without it there is no new container
  containers : plugin.setsUp? command = none →
    after.containers.length = plugin.containers.length
  loggers : after.loggers = plugin.loggers ∨
    (∃ name, after.loggers = plugin.loggers ++ [plugin.newLogger name]) ∨
    ∃ number logger, plugin.loggers[number]? = some logger ∧
      after.loggers = plugin.loggers.set number (plugin.logging.use logger)
  services : ∀ service ∈ after.services, service ∈ plugin.services ∨
    service.logger.kept = some .handedOver ∨ service.logger.kept = some plugin.logging.ending

theorem Logs.of_setUp {after : Plugin} (hsettings : plugin.setsUp? command = some settings)
    (hlogging : after.logging = plugin.logging.setUp settings)
    (hloggers : after.loggers = plugin.loggers) (hservices : after.services = plugin.services) :
    Logs plugin command after where
  logging := by
    rw [hsettings]
    exact hlogging
  containers hnone := by
    rw [hsettings] at hnone
    cases hnone
  loggers := Or.inl hloggers
  services _ hservice := Or.inl (hservices ▸ hservice)

theorem Opens.logs {inventory : DeviceSet} {outcome : Except OpenError Container}
    {after : Plugin} {effects : Effects}
    (h : Opens { plugin with inventory } (outcome, after, effects))
    (hopens : command.opens = true) :
    Logs plugin command after ∧ after.loggers = plugin.loggers ∧
      after.services = plugin.services := by
  have hsetsUp : plugin.setsUp? command = plugin.openingSettings? := if_pos hopens
  have hkept (hnone : plugin.openingSettings? = none) :
      Logs plugin command { plugin with inventory } := by
    rw [← hsetsUp] at hnone
    exact {
      logging := by
        rw [hnone]
        rfl
      containers := fun _ => rfl
      loggers := Or.inl rfl
      services := fun _ hservice => Or.inl hservice }
  cases h with
  | already hopen =>
    have hcurrent : plugin.currentContainer = some _ := hopen
    refine ⟨hkept ?_, rfl, rfl⟩
    rw [openingSettings?, hcurrent]
  | unread hclosed hunread herror hservers =>
    have hcurrent : plugin.currentContainer = none := hclosed
    have hsettings : plugin.settings = none := hunread
    have hread : Settings.read plugin.nesting plugin.environment [] = .error _ := herror
    refine ⟨hkept ?_, rfl, rfl⟩
    rw [openingSettings?, hcurrent, hsettings, hread]
    rfl
  | untraced hclosed hfound hservers =>
    have hsettings := hsetsUp.trans (openingSettings_of_found hclosed hfound)
    exact ⟨.of_setUp hsettings rfl rfl rfl, rfl, rfl⟩
  | created hclosed hfound hbook hservers =>
    have hsettings := hsetsUp.trans (openingSettings_of_found hclosed hfound)
    exact ⟨.of_setUp hsettings rfl rfl rfl, rfl, rfl⟩

structure Uses (plugin : Plugin) (command : Command) (after : Plugin) : Prop where
  logging : after.logging = plugin.logging
  containers : after.containers.length = plugin.containers.length
  loggers : after.loggers = plugin.loggers ∨ command.opens = false ∧
    ((∃ name, after.loggers = plugin.loggers ++ [plugin.newLogger name]) ∨
      ∃ number logger, plugin.loggers[number]? = some logger ∧
        after.loggers = plugin.loggers.set number (plugin.logging.use logger))
  services : ∀ service ∈ after.services, service ∈ plugin.services ∨
    service.logger.kept = some .handedOver ∨ service.logger.kept = some plugin.logging.ending

theorem Acts.uses {after : Plugin} {reply : Reply} {effects : Effects}
    (h : Acts plugin command (after, reply, effects)) : Uses plugin command after := by
  cases h with
  | @askForLogger name hcommand =>
    have hadded : command.opens = false := hcommand ▸ rfl
    exact ⟨rfl, rfl, Or.inr ⟨hadded, Or.inl ⟨name, rfl⟩⟩, fun _ => Or.inl⟩
  | @useLogger number logger call reply effects hcommand hlogger hservers =>
    have hused : command.opens = false := hcommand ▸ rfl
    exact ⟨rfl, rfl, Or.inr ⟨hused, Or.inr ⟨number, logger, hlogger, rfl⟩⟩, fun _ => Or.inl⟩
  | wire hwired hkept hbook hservers =>
    refine ⟨rfl, rfl, Or.inl rfl, fun other hother => ?_⟩
    rcases Keyed.mem_of_mem_put hother with rfl | hother
    · exact Or.inr hkept
    · exact Or.inl hother
  | serve hcontainers hbook hcurrent hregistry =>
    have hlength := congrArg List.length hcontainers
    rw [List.length_map, List.length_map] at hlength
    exact ⟨rfl, hlength, Or.inl rfl, fun _ => Or.inl⟩
  | _ => exact ⟨rfl, rfl, Or.inl rfl, fun _ => Or.inl⟩

theorem Uses.logs {after : Plugin} (h : Uses plugin command after) (hopens : command.opens = false) :
    Logs plugin command after := by
  have hnone : plugin.setsUp? command = none := by
    rw [setsUp?, hopens, if_neg Bool.false_ne_true]
  exact {
    logging := by
      rw [hnone]
      exact h.logging
    containers := fun _ => h.containers
    loggers := h.loggers.imp_right And.right
    services := h.services }

/-- The log has been set up, if it is, before the command itself is carried out. -/
theorem Logs.uses {between after : Plugin} (h : Logs plugin command between)
    (hloggers : between.loggers = plugin.loggers) (hservices : between.services = plugin.services)
    (hopens : command.opens = true) (huses : Uses between command after) :
    Logs plugin command after where
  logging := huses.logging.trans h.logging
  containers hnone := huses.containers.trans (h.containers hnone)
  loggers := by
    rcases huses.loggers with hkept | ⟨hclosed, -⟩
    · exact Or.inl (hkept.trans hloggers)
    · rw [hopens] at hclosed
      cases hclosed
  services service hservice := by
    rcases huses.services service hservice with hold | hhanded | hfound
    · exact Or.inl (hservices ▸ hold)
    · exact Or.inr (Or.inl hhanded)
    · rw [h.logging] at hfound
      cases hsettings : plugin.setsUp? command with
      | none =>
        rw [hsettings] at hfound
        exact Or.inr (Or.inr hfound)
      | some settings =>
        rw [hsettings] at hfound
        exact Or.inr (Or.inl hfound)

theorem logs_step (plugin : Plugin) (command : Command) :
    Logs plugin command (step plugin command).1 := by
  have hchanges := changes_step plugin command
  generalize step plugin command = result at hchanges ⊢
  cases hchanges with
  | closed hopens hacts => exact hacts.uses.logs hopens
  | unopened hopens hopened => exact (hopened.logs hopens).1
  | opened hopens hopened hacts =>
    obtain ⟨hlogs, hloggers, hservices⟩ := hopened.logs hopens
    exact hlogs.uses hloggers hservices hopens hacts.uses

/-! ### Histories -/

def loggingBy (settings : Settings) : Logging :=
  ⟨settings.threshold, [settings.format], .handedOver⟩

theorem setUp_eq (logging : Logging) (settings : Settings) :
    logging.setUp settings = loggingBy settings := rfl

theorem logging_run (environment : Environment) (nesting : ℕ) (commands : List Command) :
    (run (start environment nesting) commands).logging =
      (lastSetUp (start environment nesting) commands).elim .initial loggingBy := by
  induction commands using List.reverseRecOn with
  | nil => rfl
  | append_singleton commands command ih =>
    rw [run_concat, lastSetUp_concat, (logs_step _ command).logging]
    cases (run (start environment nesting) commands).setsUp? command with
    | none => exact ih
    | some settings => exact setUp_eq _ settings

theorem length_containers_run {environment : Environment} {nesting : ℕ} {commands : List Command}
    (hnever : lastSetUp (start environment nesting) commands = none) :
    (run (start environment nesting) commands).containers.length = 0 := by
  induction commands using List.reverseRecOn with
  | nil => rfl
  | append_singleton commands command ih =>
    rw [lastSetUp_concat, Option.or_eq_none_iff] at hnever
    rw [run_concat, (logs_step _ command).containers hnever.1]
    exact ih hnever.2

/-- Since some point the log has been set up: loggers from a number on, and the services that were
not there before, do not print their reports themselves. -/
structure Since (early : ℕ) (old : List WiredService) (plugin : Plugin) : Prop where
  ending : plugin.logging.ending = .handedOver
  loggers : ∀ number logger, early ≤ number → plugin.loggers[number]? = some logger →
    logger.kept ≠ some .printed
  services : ∀ service ∈ plugin.services, service ∈ old ∨ service.logger.kept ≠ some .printed

theorem Since.now (hending : plugin.logging.ending = .handedOver) :
    Since plugin.loggers.length plugin.services plugin where
  ending := hending
  loggers number logger hearly hlogger := by
    rw [List.getElem?_eq_none hearly] at hlogger
    cases hlogger
  services _ hservice := Or.inl hservice

theorem kept_newLogger (hending : plugin.logging.ending = .handedOver) (name : String) :
    (plugin.newLogger name).kept ≠ some .printed := by
  rw [newLogger]
  split
  · exact nofun
  · rw [Logging.bind, hending]
    exact nofun

theorem kept_use (hending : plugin.logging.ending = .handedOver) {logger : Logger}
    (hkept : logger.kept ≠ some .printed) :
    (plugin.logging.use logger).kept ≠ some .printed := by
  rw [Logging.use, hending]
  cases hlogger : logger.kept with
  | none => exact nofun
  | some ending =>
    rw [hlogger] at hkept
    exact hkept

variable {early : ℕ} {old : List WiredService}

theorem Since.step (h : Since early old plugin) (command : Command) :
    Since early old (step plugin command).1 := by
  have hlogs := logs_step plugin command
  constructor
  · rw [hlogs.logging]
    cases plugin.setsUp? command with
    | none => exact h.ending
    | some settings => rfl
  · intro number logger hearly hlogger
    rcases hlogs.loggers with hsame | ⟨name, hadded⟩ | ⟨used, other, hother, hset⟩
    · rw [hsame] at hlogger
      exact h.loggers number logger hearly hlogger
    · rw [hadded, List.getElem?_append] at hlogger
      split at hlogger
      · exact h.loggers number logger hearly hlogger
      · obtain rfl := List.mem_singleton.mp (List.mem_of_getElem? hlogger)
        exact kept_newLogger h.ending name
    · rw [hset, List.getElem?_set] at hlogger
      split at hlogger
      · rename_i hsame
        subst hsame
        split at hlogger
        · cases hlogger
          exact kept_use h.ending (h.loggers used other hearly hother)
        · cases hlogger
      · exact h.loggers number logger hearly hlogger
  · intro service hservice
    rcases hlogs.services service hservice with hold | hhanded | hfound
    · exact h.services service hold
    · rw [hhanded]
      exact Or.inr nofun
    · rw [hfound, h.ending]
      exact Or.inr nofun

theorem Since.run (h : Since early old plugin) (later : List Command) :
    Since early old (run plugin later) := by
  induction later using List.reverseRecOn with
  | nil => exact h
  | append_singleton later command ih =>
    rw [run_concat]
    exact ih.step command

/-- Once there has been a container, the log is as it was set up last, and loggers that were asked
for since leave their reports to its handler. -/
theorem logging_since {environment : Environment} {nesting : ℕ} {past : List Command}
    (hcreated : (Plugin.run (start environment nesting) past).containers ≠ []) (later : List Command) :
    ∃ settings, lastSetUp (start environment nesting) (past ++ later) = some settings ∧
      (Plugin.run (start environment nesting) (past ++ later)).logging = loggingBy settings ∧
      Since (Plugin.run (start environment nesting) past).loggers.length
        (Plugin.run (start environment nesting) past).services
        (Plugin.run (start environment nesting) (past ++ later)) := by
  have hpast := logging_run environment nesting past
  cases hset : lastSetUp (start environment nesting) past with
  | none => exact absurd (List.eq_nil_of_length_eq_zero (length_containers_run hset)) hcreated
  | some first =>
    rw [hset] at hpast
    have hsince := (Since.now (congrArg Logging.ending hpast)).run later
    rw [← run_append] at hsince
    -- the log has not come undone since it was set up
    have hlater := logging_run environment nesting (past ++ later)
    cases hlast : lastSetUp (start environment nesting) (past ++ later) with
    | none =>
      have hending := hsince.ending
      rw [hlater, hlast] at hending
      cases hending
    | some settings =>
      rw [hlast] at hlater
      exact ⟨settings, rfl, hlater, hsince⟩

end DeviceAllocation.Plugin
