import DeviceAllocation.Proofs.Plugin.Change
import Mathlib.Data.List.Basic

namespace DeviceAllocation.Plugin

/-! ### What a process holds of settings -/

structure Holdings where
  cached : Option Settings
  held : List (ℕ × Settings)
  opened : Option ℕ

def holdings (plugin : Plugin) : Holdings :=
  ⟨plugin.settings, plugin.containers.map identity, plugin.container⟩

namespace Holdings

/-- Containers are numbered in the order in which they were set up, and only one of them is open. -/
structure WellFormed (holdings : Holdings) : Prop where
  numbers : holdings.held.map Prod.fst = List.range holdings.held.length
  opened : ∀ number, holdings.opened = some number → number < holdings.held.length

inductive Moves (plugin : Plugin) (command : Command) : Holdings → Prop
  -- also when an open container is found, or settings cannot be read
  | keep : Moves plugin command plugin.holdings
  | forgetSettings (hcommand : command = .forgetSettings) :
      Moves plugin command { plugin.holdings with cached := none }
  | forgetContainer (hcommand : command = .forgetContainer) :
      Moves plugin command { plugin.holdings with opened := none }
  -- settings were read, but then no container was set up
  | read {settings} (hfound : Found plugin settings) :
      Moves plugin command { plugin.holdings with cached := some settings }
  | create {settings} (hclosed : plugin.holdings.opened = none) (hfound : Found plugin settings) :
      Moves plugin command
        ⟨some settings, plugin.holdings.held ++ [(plugin.holdings.held.length, settings)],
          some plugin.holdings.held.length⟩

variable {plugin : Plugin} {after : Holdings} {command : Command} {settings : Settings}

theorem WellFormed.move (h : plugin.holdings.WellFormed)
    (hmoves : Moves plugin command after) : after.WellFormed := by
  cases hmoves with
  | keep => exact h
  | forgetSettings hcommand => exact ⟨h.numbers, h.opened⟩
  | forgetContainer hcommand => exact ⟨h.numbers, nofun⟩
  | read hfound => exact ⟨h.numbers, h.opened⟩
  | create hclosed hfound =>
    constructor
    · rw [List.map_append, h.numbers, List.length_append, List.length_singleton, List.range_succ]
      rfl
    · intro number hnumber
      obtain rfl := Option.some.inj hnumber
      rw [List.length_append, List.length_singleton]
      exact Nat.lt_succ_self _

theorem Moves.grows (hmoves : Moves plugin command after) :
    plugin.holdings.held <+: after.held := by
  cases hmoves with
  | keep => exact List.prefix_refl _
  | forgetSettings hcommand => exact List.prefix_refl _
  | forgetContainer hcommand => exact List.prefix_refl _
  | read hfound => exact List.prefix_refl _
  | create hclosed hfound => exact List.prefix_append _ _

theorem Moves.opened (hmoves : Moves plugin command after)
    (hnever : command ≠ .forgetContainer) {number : ℕ} (hopen : plugin.holdings.opened = some number) :
    after.opened = some number := by
  cases hmoves with
  | keep => exact hopen
  | forgetSettings hcommand => exact hopen
  | forgetContainer hcommand => exact absurd hcommand hnever
  | read hfound => exact hopen
  | create hclosed hfound =>
    -- there is no container to be set up while one is open
    rw [hclosed] at hopen
    cases hopen

theorem eq_of_found {known : Settings} (h : Found plugin settings)
    (hknown : plugin.settings = some known) : settings = known := by
  rcases h with h | ⟨hnone, -⟩
  · exact Option.some.inj (h.symm.trans hknown)
  · rw [hnone] at hknown
    cases hknown

theorem Moves.cached (hmoves : Moves plugin command after)
    (hnever : command ≠ .forgetSettings) (hcached : plugin.settings = some settings) :
    after.cached = some settings := by
  cases hmoves with
  | keep => exact hcached
  | forgetSettings hcommand => exact absurd hcommand hnever
  | forgetContainer hcommand => exact hcached
  | read hfound => rw [eq_of_found hfound hcached]
  | create hclosed hfound => rw [eq_of_found hfound hcached]

/-- Settings that have been read after a command are those that it has found. -/
theorem Moves.found (hmoves : Moves plugin command after)
    (hcached : after.cached = some settings) : Found plugin settings := by
  cases hmoves with
  | keep => exact Or.inl hcached
  | forgetSettings hcommand => cases hcached
  | forgetContainer hcommand => exact Or.inl hcached
  | read hfound =>
    obtain rfl := Option.some.inj hcached
    exact hfound
  | create hclosed hfound =>
    obtain rfl := Option.some.inj hcached
    exact hfound

/-- A new container holds the settings that the process holds from then on. -/
theorem Moves.created (hmoves : Moves plugin command after) {entry : ℕ × Settings}
    (hentry : entry ∈ after.held.drop plugin.holdings.held.length) :
    after.cached = some entry.2 := by
  cases hmoves with
  | create hclosed hfound =>
    rw [List.drop_left] at hentry
    obtain rfl := List.mem_singleton.mp hentry
    rfl
  | _ =>
    -- no container is new
    rw [List.drop_length] at hentry
    cases hentry

end Holdings

/-! ### Commands -/

open Holdings

variable {plugin : Plugin} {command : Command}

def Wires (command : Command) (before after : List WiredService) : Prop :=
  after = before ∨ ∃ service : WiredService, command.wired = some service.name ∧
    after = Keyed.put WiredService.name service before

structure Does (plugin : Plugin) (command : Command) (after : Plugin) : Prop where
  moves : Moves plugin command after.holdings
  wires : Wires command plugin.services after.services

theorem opened_of_closed (hformed : plugin.holdings.WellFormed)
    (hclosed : plugin.currentContainer = none) : plugin.holdings.opened = none := by
  cases hopened : plugin.holdings.opened with
  | none => rfl
  | some number =>
    -- the number of an open container is that of one that there is
    have hlt := hformed.opened number hopened
    rw [holdings, List.length_map] at hlt
    have hcontainer : plugin.container = some number := hopened
    rw [currentContainer, hcontainer, Option.bind_some, List.getElem?_eq_getElem hlt] at hclosed
    cases hclosed

theorem Opens.moves {inventory : DeviceSet} {outcome : Except OpenError Container}
    {after : Plugin} {effects : Effects}
    (h : Opens { plugin with inventory } (outcome, after, effects)) (hformed : plugin.holdings.WellFormed)
    (command : Command) :
    Moves plugin command after.holdings ∧ after.services = plugin.services := by
  cases h with
  | already hopen => exact ⟨.keep, rfl⟩
  | unread hclosed hunread herror hservers => exact ⟨.keep, rfl⟩
  | untraced hclosed hfound hservers => exact ⟨.read hfound, rfl⟩
  | @created settings position tracer registered current effects hclosed hfound hbook hservers =>
    refine ⟨?_, rfl⟩
    have hlength : plugin.holdings.held.length = plugin.containers.length := List.length_map _
    have hcreate : Moves plugin command _ := .create (opened_of_closed hformed hclosed) hfound
    rw [hlength, holdings] at hcreate
    rw [holdings, List.map_append]
    exact hcreate

theorem Acts.does {after : Plugin} {reply : Reply} {effects : Effects}
    (h : Acts plugin command (after, reply, effects)) : Does plugin command after := by
  cases h with
  | forgetSettings hcommand => exact ⟨.forgetSettings hcommand, Or.inl rfl⟩
  | forgetContainer hcommand => exact ⟨.forgetContainer hcommand, Or.inl rfl⟩
  | @wire service inventory tracer registered current effects hwired hkept hbook hservers =>
    exact ⟨.keep, Or.inr ⟨service, hwired, rfl⟩⟩
  | @serve containers registered current port registry position same hcontainers hbook hcurrent
      hregistry =>
    refine ⟨?_, Or.inl rfl⟩
    rw [holdings, hcontainers]
    exact .keep
  | _ => exact ⟨.keep, Or.inl rfl⟩

/-- A command that has opened the container has nothing more to do with settings. -/
theorem Acts.holdings_eq {after : Plugin} {reply : Reply} {effects : Effects}
    (h : Acts plugin command (after, reply, effects)) (hopens : command.opens = true) :
    after.holdings = plugin.holdings := by
  cases h with
  | forgetSettings hcommand =>
    rw [hcommand] at hopens
    cases hopens
  | forgetContainer hcommand =>
    rw [hcommand] at hopens
    cases hopens
  | serve hcontainers hbook hcurrent hregistry =>
    rw [holdings, hcontainers]
    rfl
  | _ => rfl

theorem does_step (hformed : plugin.holdings.WellFormed) (command : Command) :
    Does plugin command (step plugin command).1 := by
  have hchanges := changes_step plugin command
  generalize step plugin command = result at hchanges ⊢
  cases hchanges with
  | closed hopens hacts => exact hacts.does
  | @unopened inventory error after effects hopens hopened =>
    obtain ⟨hmoves, hservices⟩ := hopened.moves hformed command
    exact ⟨hmoves, Or.inl hservices⟩
  | @opened inventory container between after reply effects later hopens hopened hacts =>
    obtain ⟨hmoves, hservices⟩ := hopened.moves hformed command
    have hwires := hacts.does.wires
    rw [hservices] at hwires
    rw [← hacts.holdings_eq hopens] at hmoves
    exact ⟨hmoves, hwires⟩

end DeviceAllocation.Plugin
