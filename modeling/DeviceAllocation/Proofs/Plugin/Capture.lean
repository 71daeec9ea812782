import DeviceAllocation.Proofs.Placement.Candidates
import DeviceAllocation.Proofs.Plugin.Answering
import DeviceAllocation.Proofs.Plugin.Holdings
import DeviceAllocation.Proofs.Plugin.Registration

namespace DeviceAllocation.Plugin

open Holdings

variable {plugin : Plugin} {command : Command}

/-! ### Histories -/

theorem wellFormed_start (environment : Environment) (nesting : ℕ) :
    (start environment nesting).holdings.WellFormed where
  numbers := rfl
  opened := nofun

theorem not_mem_concat {commands : List Command} {last : Command}
    (h : command ∉ commands ++ [last]) : command ∉ commands ∧ last ≠ command := by
  constructor
  · exact fun hmem => h (List.mem_append_left _ hmem)
  · exact fun hlast => h (List.mem_append_right _ (List.mem_singleton.mpr hlast.symm))

section Run

variable (hformed : plugin.holdings.WellFormed)

include hformed

theorem wellFormed_run (commands : List Command) :
    (run plugin commands).holdings.WellFormed := by
  induction commands using List.reverseRecOn with
  | nil => exact hformed
  | append_singleton commands command ih =>
    rw [run_concat]
    exact ih.move (does_step ih command).moves

theorem does_last (commands : List Command) (command : Command) :
    Does (run plugin commands) command (run plugin (commands ++ [command])) := by
  rw [run_concat]
  exact does_step (wellFormed_run hformed commands) command

theorem held_run (commands : List Command) :
    plugin.holdings.held <+: (run plugin commands).holdings.held := by
  induction commands using List.reverseRecOn with
  | nil => exact List.prefix_refl _
  | append_singleton commands command ih =>
    exact ih.trans (does_last hformed commands command).moves.grows

theorem opened_run {commands : List Command} (hnever : .forgetContainer ∉ commands) {number : ℕ}
    (hopen : plugin.holdings.opened = some number) :
    (run plugin commands).holdings.opened = some number := by
  induction commands using List.reverseRecOn with
  | nil => exact hopen
  | append_singleton commands command ih =>
    obtain ⟨hbefore, hcommand⟩ := not_mem_concat hnever
    exact (does_last hformed commands command).moves.opened hcommand (ih hbefore)

/-- As long as they are not forgotten, the settings of the process are those of each container that
is set up in the meantime. -/
theorem cached_run {commands : List Command} (hnever : .forgetSettings ∉ commands)
    {entry : ℕ × Settings}
    (hentry : entry ∈ (run plugin commands).holdings.held.drop plugin.holdings.held.length) :
    (run plugin commands).settings = some entry.2 := by
  induction commands using List.reverseRecOn with
  | nil =>
    rw [run, List.foldl_nil, List.drop_length] at hentry
    cases hentry
  | append_singleton commands command ih =>
    obtain ⟨hbefore, hcommand⟩ := not_mem_concat hnever
    have hmoves := (does_last hformed commands command).moves
    have hlength := (held_run hformed commands).length_le
    -- the container is one that was there before the last command, or one that it has set up
    obtain ⟨created, hcreated⟩ := hmoves.grows
    rw [← hcreated, List.drop_append_of_le_length hlength] at hentry
    rcases List.mem_append.mp hentry with hold | hnew
    · exact hmoves.cached hcommand (ih hbefore hold)
    · apply hmoves.created
      rw [← hcreated, List.drop_left]
      exact hnew

/-- Settings that have not been forgotten were there at the start, or else some command has read
them from the environment that it found, when no other ones had been read. -/
theorem cached_or_read {commands : List Command} (hnever : .forgetSettings ∉ commands)
    {settings : Settings} (hcached : (run plugin commands).settings = some settings) :
    plugin.settings = some settings ∨
      ∃ past command later, commands = past ++ command :: later ∧
        (run plugin past).settings = none ∧
        Settings.read (run plugin past).nesting (run plugin past).environment [] =
          .ok settings := by
  induction commands using List.reverseRecOn with
  | nil => exact Or.inl hcached
  | append_singleton commands command ih =>
    obtain ⟨hbefore, -⟩ := not_mem_concat hnever
    have hmoves := (does_last hformed commands command).moves
    rcases hmoves.found hcached with hknown | ⟨hunknown, hread⟩
    · rcases ih hbefore hknown with hstart | ⟨past, reading, later, rfl, hpast⟩
      · exact Or.inl hstart
      · exact Or.inr ⟨past, reading, later ++ [command], by simp, hpast⟩
    · exact Or.inr ⟨commands, command, [], rfl, hunknown, hread⟩

theorem find_service_run {commands : List Command} {name : String}
    (hnever : ∀ command ∈ commands, command.wired ≠ some name) :
    Keyed.find? WiredService.name name (run plugin commands).services =
      Keyed.find? WiredService.name name plugin.services := by
  induction commands using List.reverseRecOn with
  | nil => rfl
  | append_singleton commands command ih =>
    have hcommand := hnever command (List.mem_append_right _ (List.mem_singleton_self _))
    have hbefore : ∀ earlier ∈ commands, earlier.wired ≠ some name := by
      intro earlier hearlier
      exact hnever earlier (List.mem_append_left _ hearlier)
    rw [← ih hbefore]
    rcases (does_last hformed commands command).wires with hkept | ⟨service, hwired, hput⟩
    · rw [hkept]
    · -- what is put under another name does not come in between
      have hother : service.name ≠ name := fun hname => hcommand (hname ▸ hwired)
      rw [hput, Keyed.find?_put, if_neg hother]

end Run

/-! ### Containers and their services -/

theorem held_of_container {number : ℕ} {container : Container}
    (h : plugin.containers[number]? = some container) :
    plugin.holdings.held[number]? = some (identity container) := by
  rw [holdings, List.getElem?_map, h]
  rfl

theorem number_of_container (hformed : plugin.holdings.WellFormed) {number : ℕ}
    {container : Container} (h : plugin.containers[number]? = some container) :
    container.number = number := by
  have hnumber : (plugin.holdings.held.map Prod.fst)[number]? = some container.number := by
    rw [List.getElem?_map, held_of_container h]
    rfl
  rw [hformed.numbers] at hnumber
  obtain ⟨hlt, hvalue⟩ := List.getElem?_eq_some_iff.mp hnumber
  rw [← hvalue, List.getElem_range]

theorem container_run (hformed : plugin.holdings.WellFormed) (commands : List Command)
    {number : ℕ} {container : Container} (h : plugin.containers[number]? = some container) :
    ∃ metrics, (run plugin commands).containers[number]? = some { container with metrics } := by
  obtain ⟨hlt, hvalue⟩ := List.getElem?_eq_some_iff.mp (held_of_container h)
  have hheld : (run plugin commands).holdings.held[number]? = some (identity container) :=
    (List.prefix_iff_getElem?.mp (held_run hformed commands) number hlt).trans
      (congrArg some hvalue)
  rw [holdings, List.getElem?_map] at hheld
  obtain ⟨kept, hkept, hidentity⟩ := Option.map_eq_some_iff.mp hheld
  refine ⟨kept.metrics, ?_⟩
  rw [hkept]
  rcases kept with ⟨number, settings, metrics⟩
  obtain ⟨rfl, rfl⟩ := Prod.mk.inj hidentity
  rfl

/-- A service looks its strategy up in the container, but settings are all that it looks at. -/
theorem strategyOf_serviceOf {container kept : Container}
    (hkept : plugin.containers[container.number]? = some kept)
    (hsettings : kept.settings = container.settings) (name : String) (net : Interconnect)
    (topology : Placement.TopologyAllocator) :
    plugin.strategyOf (serviceOf container name net topology) = container.settings.strategy := by
  rw [strategyOf, serviceOf]
  dsimp only
  rw [hkept, ← hsettings]
  rfl

theorem find_addService (plugin : Plugin) (service : WiredService) :
    Keyed.find? WiredService.name service.name (plugin.addService service).services =
      some service := by
  rw [addService, Keyed.find?_put, if_pos rfl]

/-- A command that wires a service of a name from a container: the one that is open once the command
has succeeded, or any other one that there is. -/
inductive Builds (plugin : Plugin) (name : String) (net : Interconnect)
    (topology : Placement.TopologyAllocator) (container : Container) : Command → Prop
  | fromOpen {inventory}
      (hdone : (step plugin (.wire name net topology inventory)).2.1 = .done)
      (hopen : (step plugin (.wire name net topology inventory)).1.currentContainer =
        some container) :
      Builds plugin name net topology container (.wire name net topology inventory)
  | fromHeld {number inventory} (hheld : plugin.containers[number]? = some container) :
      Builds plugin name net topology container (.wireHeld number name net topology inventory)

theorem find_service_of_builds (hformed : plugin.holdings.WellFormed) {name : String}
    {net : Interconnect} {topology : Placement.TopologyAllocator} {container : Container}
    (h : Builds plugin name net topology container command) :
    Keyed.find? WiredService.name name (step plugin command).1.services =
        some (serviceOf container name net topology) ∧
      (step plugin command).1.containers[container.number]? = some container := by
  have hafter := (hformed.move (does_step hformed command).moves)
  cases h with
  | @fromOpen inventory hdone hopen =>
    let before : Plugin := { plugin with inventory }
    have hopens := opens_openContainer before
    rw [step] at hdone hopen hafter ⊢
    unfold withContainer at hdone hopen hafter ⊢
    generalize before.openContainer = ended at hopens hdone hopen hafter ⊢
    rcases ended with ⟨error | opened, after, effects⟩
    · cases hdone
    · -- the container that was opened is still open when the service has been added
      have hsame : after.currentContainer = some container := hopen
      rw [currentContainer_of_opens hopens] at hsame
      obtain rfl := Option.some.inj hsame
      obtain ⟨number, -, hnumber⟩ := Option.bind_eq_some_iff.mp hopen
      rw [number_of_container hafter hnumber]
      exact ⟨find_addService after (serviceOf opened name net topology), hnumber⟩
  | @fromHeld number inventory hheld =>
    let service := serviceOf container name net topology
    have hadded : (step plugin (.wireHeld number name net topology inventory)).1 =
        addService service { plugin with inventory } := by
      rw [step]
      dsimp only
      rw [hheld]
    rw [hadded, number_of_container hformed hheld]
    exact ⟨find_addService { plugin with inventory } service, hheld⟩

theorem identity_mem_drop {before after : List Container} {container : Container}
    (h : container ∈ after.drop before.length) :
    identity container ∈ (after.map identity).drop (before.map identity).length := by
  rw [List.length_map, ← List.map_drop]
  exact List.mem_map_of_mem h

theorem opens_of_reply {container : Container}
    (h : (step plugin .openContainer).2.1 = .container container) :
    ∃ effects, Opens plugin (.ok container, (step plugin .openContainer).1, effects) := by
  have hopens := opens_openContainer plugin
  rw [step, withContainer] at h ⊢
  generalize plugin.openContainer = ended at hopens h ⊢
  rcases ended with ⟨error | opened, after, effects⟩
  · cases h
  · obtain rfl := Reply.container.inj h
    exact ⟨effects, hopens⟩

theorem reply_of_currentContainer {container : Container}
    (h : plugin.currentContainer = some container) :
    (step plugin .openContainer).2.1 = .container container := by
  rw [step, withContainer, openContainer, h]

theorem reply_run_openContainer (hformed : plugin.holdings.WellFormed) {later : List Command}
    (hnever : .forgetContainer ∉ later) {container : Container}
    (hreply : (step plugin .openContainer).2.1 = .container container) :
    ∃ metrics, (step (run plugin (.openContainer :: later)) .openContainer).2.1 =
      .container { container with metrics } := by
  let opened := (step plugin .openContainer).1
  have hopened : opened.holdings.WellFormed := hformed.move (does_step hformed _).moves
  obtain ⟨effects, hopens⟩ := opens_of_reply hreply
  have hcurrent : opened.currentContainer = some container := currentContainer_of_opens hopens
  obtain ⟨number, hnumber, hcontainer⟩ := Option.bind_eq_some_iff.mp hcurrent
  have hstill : (run opened later).container = some number := opened_run hopened hnever hnumber
  obtain ⟨metrics, hkept⟩ := container_run hopened later hcontainer
  refine ⟨metrics, reply_of_currentContainer ?_⟩
  have hagain : (run opened later).currentContainer = some { container with metrics } :=
    Option.bind_eq_some_iff.mpr ⟨number, hstill, hkept⟩
  exact hagain

theorem answersBy_of_builds (hformed : plugin.holdings.WellFormed) {name : String}
    {net : Interconnect} {topology : Placement.TopologyAllocator} {container : Container}
    (hbuilds : Builds plugin name net topology container command) {later : List Command}
    (hnever : ∀ other ∈ later, other.wired ≠ some name) :
    AnswersBy (run plugin (command :: later)) name ⟨net, topology, container.settings.strict⟩
      container.settings.strategy := by
  obtain ⟨hwired, hcontainer⟩ := find_service_of_builds hformed hbuilds
  have hafter := hformed.move (does_step hformed command).moves
  have hanswers := answersBy_of_service ((find_service_run hafter hnever).trans hwired)
  -- the selector was set up when the service was wired, the strategy is looked up only now
  obtain ⟨metrics, hkept⟩ := container_run hafter later hcontainer
  rw [strategyOf_serviceOf hkept rfl] at hanswers
  exact hanswers

/-- How a process holds on to settings, from some point of its life on. -/
structure Captures (plugin : Plugin) (later : List Command) : Prop where
  -- until it is forgotten, the container is always the same, though it may get other metrics
  one_container : .forgetContainer ∉ later → ∀ container : Container,
    (step plugin .openContainer).2.1 = .container container →
    ∃ metrics, (step (run plugin (.openContainer :: later)) .openContainer).2.1 =
      .container { container with metrics }
  kept : ∀ (number : ℕ) (container : Container), plugin.containers[number]? = some container →
    ∃ metrics, (run plugin later).containers[number]? = some { container with metrics }
  -- a new container has the settings of the process, which has read them by then
  created : ∀ command, ∀ container ∈
      (step plugin command).1.containers.drop plugin.containers.length,
    (step plugin command).1.settings = some container.settings ∧
      Found plugin container.settings
  -- until they are forgotten, the process has the same settings for all new containers
  one_reading : .forgetSettings ∉ later → ∀ container ∈
      (run plugin later).containers.drop plugin.containers.length,
    (run plugin later).settings = some container.settings
  -- these are the ones that it has, or else the first ones that it can read
  first_reading : .forgetSettings ∉ later → ∀ settings,
    (run plugin later).settings = some settings →
    plugin.settings = some settings ∨
      ∃ before command after, later = before ++ command :: after ∧
        (run plugin before).settings = none ∧
        Settings.read (run plugin before).nesting (run plugin before).environment [] =
          .ok settings
  -- a service answers by the settings of the container that it was wired from
  services : ∀ command name net topology container,
    Builds plugin name net topology container command →
    (∀ other ∈ later, other.wired ≠ some name) →
    AnswersBy (run plugin (command :: later)) name ⟨net, topology, container.settings.strict⟩
      container.settings.strategy

/-- Settings are captured when a container is set up. It keeps them, and the services that are wired
from it answer by them, whatever becomes of the environment, of the settings of the process and of
the container that is open. Until they are forgotten, the process has one container and reads its
settings once. -/
theorem settings_are_captured (environment : Environment) (nesting : ℕ)
    (past later : List Command) : Captures (run (start environment nesting) past) later := by
  have hformed := wellFormed_run (wellFormed_start environment nesting) past
  generalize run (start environment nesting) past = plugin at hformed ⊢
  exact {
    one_container := fun hnever container => reply_run_openContainer hformed hnever
    kept := fun number container => container_run hformed later
    created := by
      intro command container hcontainer
      have hmoves := (does_step hformed command).moves
      have hcached := hmoves.created (identity_mem_drop hcontainer)
      exact ⟨hcached, hmoves.found hcached⟩
    one_reading := by
      intro hnever container hcontainer
      exact cached_run hformed hnever (identity_mem_drop hcontainer)
    first_reading := fun hnever settings => cached_or_read hformed hnever
    services := by
      intro command name net topology container hbuilds hnever
      exact answersBy_of_builds hformed hbuilds hnever }

def packedSettings : Settings := { Settings.default with strategy := .packed }

def packedPlugin : Plugin :=
  run (start [("GPU_ALLOCATOR_SHARING__TIME_SLICING__STRATEGY", "packed")] 100) [.openContainer]

/-- Names another strategy, asks for strictness and opens a container that goes by it. -/
def turningCommands : List Command :=
  [.changeEnvironment [] [("GPU_ALLOCATOR_SHARING__TIME_SLICING__STRATEGY", "distributed"),
      ("GPU_ALLOCATOR_ALLOCATION__VALIDATE_REQUIRED_SUBSET", "true")],
    .forgetSettings, .forgetContainer, .openContainer]

def wiringCommand : Command :=
  .wireHeld 0 "shared" (.ofGpus [] []) (fun _ _ _ => .ok []) Placement.unevenInventory

theorem opened_packedPlugin : packedPlugin.containers = [⟨0, packedSettings, 0⟩] := by
  decide +kernel

theorem opened_turned :
    (run packedPlugin (wiringCommand :: turningCommands)).currentContainer.map
        (fun container => (container.settings.strategy, container.settings.strict)) =
      some (.distributed, true) ∧
    (run packedPlugin (wiringCommand :: turningCommands)).inventory =
      Placement.unevenInventory := by
  decide +kernel

theorem startsSpans_turned :
    (run packedPlugin (wiringCommand :: turningCommands)).StartsSpans := by
  have husable : (run packedPlugin (wiringCommand :: turningCommands)).tracer.all
      (fun tracer => tracer.limits.isUsable) = true := by
    decide +kernel
  intro tracer htracer
  rw [htracer, Option.all_some] at husable
  exact husable

/-- The first container keeps its settings while a newer one has others, and its service still
answers by them. -/
theorem packed_settings_are_captured :
    .forgetSettings ∉ [Command.openContainer] ∧ packedPlugin.settings = some packedSettings ∧
    (∃ metrics, (run packedPlugin turningCommands).containers[0]? =
      some ⟨0, packedSettings, metrics⟩) ∧
    (run packedPlugin (wiringCommand :: turningCommands)).currentContainer.map
      (fun container => (container.settings.strategy, container.settings.strict)) =
        some (.distributed, true) ∧
    (run packedPlugin (wiringCommand :: turningCommands)).StartsSpans ∧
    ∀ around, (step (run packedPlugin (wiringCommand :: turningCommands))
      (.request "shared" Placement.unevenRequest around)).2.1 =
        .devices ["a::0", "a::1", "b::0", "b::1"] := by
  have hopened : packedPlugin.containers[0]? = some ⟨0, packedSettings, 0⟩ := by
    rw [opened_packedPlugin]
    rfl
  have hmem : (⟨0, packedSettings, 0⟩ : Container) ∈ packedPlugin.containers.drop 0 := by
    rw [opened_packedPlugin]
    exact List.mem_singleton_self _
  obtain ⟨hnewer, hinventory⟩ := opened_turned
  have hfirst := settings_are_captured
    [("GPU_ALLOCATOR_SHARING__TIME_SLICING__STRATEGY", "packed")] 100 [] [.openContainer]
  have hlater : Captures packedPlugin turningCommands := settings_are_captured
    [("GPU_ALLOCATOR_SHARING__TIME_SLICING__STRATEGY", "packed")] 100 [.openContainer]
    turningCommands
  have hanswers := hlater.services wiringCommand "shared" (.ofGpus [] []) (fun _ _ _ => .ok [])
    ⟨0, packedSettings, 0⟩ (.fromHeld hopened) (by simp [turningCommands, Command.wired])
  have hnever : .forgetSettings ∉ [Command.openContainer] := by simp
  refine ⟨hnever, hfirst.one_reading hnever _ hmem, hlater.kept 0 _ hopened, hnewer,
    startsSpans_turned, fun around => ?_⟩
  have hpacked : Selector.select ⟨.ofGpus [] [], fun _ _ _ => .ok [], false⟩
      Placement.unevenInventory .packed Placement.unevenRequest =
        .ok ["a::0", "a::1", "b::0", "b::1"] := by
    decide +kernel
  rw [← hinventory] at hpacked
  exact (hanswers.answers startsSpans_turned Placement.unevenRequest around).trans
    (congrArg Reply.ofOutcome hpacked)

end DeviceAllocation.Plugin
