import DeviceAllocation.Proofs.Plugin.Change
import Mathlib.Data.List.Basic
import Mathlib.Data.List.Induction

namespace DeviceAllocation.Plugin

theorem Book.settle_settle (book : Book) : book.settle.settle = book.settle := by
  rcases book with ⟨registries, _ | position⟩
  · rfl
  · rfl

/-! ### One command -/

/-- The process has kept its book, but may have entered its metrics. -/
def Settles (before after : Plugin) : Prop :=
  after.book = before.book ∨ after.book = before.book.settle

inductive Registers (plugin : Plugin) (command : Command) : Plugin × Reply × Effects → Prop
  | unbooked {after reply effects} (hserves : command.serves = false)
      (hshared : command.servesOwn = false) (hbook : after.book = plugin.book)
      (hservers : effects.servers = []) :
      Registers plugin command (after, reply, effects)
  -- metrics are there, but not served
  | booked {after reply effects} (hserves : command.serves = false)
      (hbook : after.book = plugin.booked command.servesOwn) (hservers : effects.servers = []) :
      Registers plugin command (after, reply, effects)
  | served {after effects port position same}
      (hbook : after.book = plugin.booked command.servesOwn)
      (hcurrent : after.book.current = some position)
      (hservers : effects.servers = [⟨port, plugin.served command.servesOwn⟩]) :
      Registers plugin command (after, .metrics position same, effects)

variable {plugin : Plugin} {command : Command}

theorem Settles.settle_eq {before after : Plugin} (h : Settles before after) :
    after.book.settle = before.book.settle := by
  rcases h with hbook | hbook
  · rw [hbook]
  · rw [hbook, Book.settle_settle]

theorem Opens.settles {inventory : DeviceSet} {outcome : Except OpenError Container}
    {after : Plugin} {effects : Effects}
    (h : Opens { plugin with inventory } (outcome, after, effects)) :
    Settles plugin after ∧ effects.servers = [] := by
  cases h with
  | already hopen => exact ⟨Or.inl rfl, rfl⟩
  | unread hclosed hunread herror hservers => exact ⟨Or.inl rfl, hservers⟩
  | untraced hclosed hfound hservers => exact ⟨Or.inl rfl, hservers⟩
  | created hclosed hfound hbook hservers => exact ⟨Or.inr hbook, hservers⟩

theorem serves_of_wired {name : String} (h : command.wired = some name) :
    command.serves = false ∧ command.servesOwn = false := by
  cases command with
  | serveMetrics port own barred => cases h
  | _ => exact ⟨rfl, rfl⟩

theorem serves_of_opens (h : command.opens = true) :
    command.serves = false ∧ command.servesOwn = false := by
  cases command with
  | serveMetrics port own barred => cases h
  | _ => exact ⟨rfl, rfl⟩

theorem booked_of_shared (plugin : Plugin) (hshared : command.servesOwn = false) :
    plugin.booked command.servesOwn = plugin.book.settle := by
  rw [booked, hshared, if_neg Bool.false_ne_true]

theorem served_of_shared (plugin : Plugin) (hshared : command.servesOwn = false) :
    plugin.served command.servesOwn = .shared := by
  rw [served, hshared, if_neg Bool.false_ne_true]

theorem Registers.of_settles {after : Plugin} {reply : Reply} {effects : Effects}
    (hserves : command.serves = false) (hshared : command.servesOwn = false)
    (hsettles : Settles plugin after) (hservers : effects.servers = []) :
    Registers plugin command (after, reply, effects) := by
  rcases hsettles with hbook | hbook
  · exact .unbooked hserves hshared hbook hservers
  · exact .booked hserves (hbook.trans (booked_of_shared plugin hshared).symm) hservers

theorem Acts.registers {result : Plugin × Reply × Effects} (h : Acts plugin command result) :
    Registers plugin command result := by
  cases h with
  | idle hserves hshared hbook hservers => exact .unbooked hserves hshared hbook hservers
  | forgetSettings hcommand => exact hcommand ▸ .unbooked rfl rfl rfl rfl
  | forgetContainer hcommand => exact hcommand ▸ .unbooked rfl rfl rfl rfl
  | askForLogger hcommand => exact hcommand ▸ .unbooked rfl rfl rfl rfl
  | useLogger hcommand hlogger hservers => exact hcommand ▸ .unbooked rfl rfl rfl hservers
  | wire hwired hkept hbook hservers =>
    obtain ⟨hserves, hshared⟩ := serves_of_wired hwired
    exact .of_settles hserves hshared hbook hservers
  | register hserves hbook => exact .booked hserves hbook rfl
  | serve hcontainers hbook hcurrent hregistry =>
    subst hregistry
    exact .served hbook hcurrent rfl

/-- Opening the container before comes to nothing more than metrics for the process. -/
theorem Registers.after_opening {between after : Plugin} {reply : Reply} {effects later : Effects}
    (h : Registers between command (after, reply, later)) (hopens : command.opens = true)
    (hsettles : Settles plugin between) (hservers : effects.servers = []) :
    Registers plugin command (after, reply, effects ++ later) := by
  obtain ⟨-, hshared⟩ := serves_of_opens hopens
  have happend : (effects ++ later).servers = later.servers :=
    congrArg (· ++ later.servers) hservers
  have hbooked : between.booked command.servesOwn = plugin.booked command.servesOwn := by
    rw [booked_of_shared between hshared, booked_of_shared plugin hshared, hsettles.settle_eq]
  have hserved : between.served command.servesOwn = plugin.served command.servesOwn := by
    rw [served_of_shared between hshared, served_of_shared plugin hshared]
  cases h with
  | unbooked hserves _ hbook hlater =>
    have hafter : Settles plugin after := hsettles.imp hbook.trans hbook.trans
    exact .of_settles hserves hshared hafter (happend.trans hlater)
  | booked hserves hbook hlater =>
    exact .booked hserves (hbook.trans hbooked) (happend.trans hlater)
  | served hbook hcurrent hlater =>
    rw [hserved] at hlater
    exact .served (hbook.trans hbooked) hcurrent (happend.trans hlater)

theorem registers_step (plugin : Plugin) (command : Command) :
    Registers plugin command (step plugin command) := by
  have hchanges := changes_step plugin command
  generalize step plugin command = result at hchanges ⊢
  cases hchanges with
  | closed hopens hacts => exact hacts.registers
  | unopened hopens hopened =>
    obtain ⟨hsettles, hservers⟩ := hopened.settles
    obtain ⟨hserves, hshared⟩ := serves_of_opens hopens
    exact .of_settles hserves hshared hsettles hservers
  | opened hopens hopened hacts =>
    obtain ⟨hsettles, hservers⟩ := hopened.settles
    exact hacts.registers.after_opening hopens hsettles hservers

/-! ### Histories -/

def run (plugin : Plugin) (commands : List Command) : Plugin :=
  commands.foldl (fun plugin command => (step plugin command).1) plugin

theorem run_append (plugin : Plugin) (past later : List Command) :
    run plugin (past ++ later) = run (run plugin past) later := List.foldl_append

theorem run_concat (plugin : Plugin) (commands : List Command) (command : Command) :
    run plugin (commands ++ [command]) = (step (run plugin commands) command).1 :=
  run_append plugin commands [command]

/-- What holds of a book after some commands. -/
structure Kept (commands : List Command) (book : Book) : Prop where
  numbered : ∀ number, .own number ∈ book.registries →
    number < book.registries.countP (· ≠ .shared)
  unset : book.current = none → ∀ earlier ∈ commands, earlier.servesOwn = false
  -- the metrics of the process are in its registry until there is one of its own
  current : ∀ position, book.current = some position →
    ∃ registry, book.registries[position]? = some registry ∧
      (registry = .shared ↔ ∀ earlier ∈ commands, earlier.servesOwn = false)

variable {commands : List Command} {book : Book}

theorem Kept.start (environment : Environment) (nesting : ℕ) :
    Kept [] (start environment nesting).book where
  numbered _ h := by cases h
  unset _ _ h := by cases h
  current _ h := by cases h

theorem Kept.settle (h : Kept commands book) : Kept commands book.settle := by
  cases hcurrent : book.current with
  | some position =>
    rw [Book.settle, hcurrent]
    exact h
  | none =>
    rw [Book.settle, hcurrent]
    exact {
      numbered := by
        intro number hmem
        rw [Book.enter, List.countP_append]
        rcases List.mem_append.mp hmem with hmem | hmem
        · exact h.numbered number hmem
        · cases List.mem_singleton.mp hmem
      unset := by
        intro hnone
        cases hnone
      current := by
        intro position hposition
        cases hposition
        exact ⟨.shared, List.getElem?_concat_length, iff_of_true rfl (h.unset hcurrent)⟩ }

theorem forall_append_of_servesOwn_eq_false (hcommand : command.servesOwn = false) :
    (∀ earlier ∈ commands ++ [command], earlier.servesOwn = false) ↔
      ∀ earlier ∈ commands, earlier.servesOwn = false := by
  simp [or_imp, forall_and, hcommand]

theorem Kept.snoc (h : Kept commands book) (hcommand : command.servesOwn = false) :
    Kept (commands ++ [command]) book where
  numbered := h.numbered
  unset hnone := (forall_append_of_servesOwn_eq_false hcommand).mpr (h.unset hnone)
  current position hposition := by
    obtain ⟨registry, hregistry, hshared⟩ := h.current position hposition
    exact ⟨registry, hregistry, hshared.trans (forall_append_of_servesOwn_eq_false hcommand).symm⟩

theorem Kept.enter (h : Kept commands book) (hcommand : command.servesOwn = true) :
    Kept (commands ++ [command]) (book.enter (.own (book.registries.countP (· ≠ .shared)))) where
  numbered := by
    intro number hmem
    have hcount : ([.own (book.registries.countP (· ≠ .shared))] : List Registry).countP
        (· ≠ .shared) = 1 := rfl
    rw [Book.enter, List.countP_append, hcount, Nat.lt_succ_iff]
    rcases List.mem_append.mp hmem with hmem | hmem
    · exact Nat.le_of_lt (h.numbered number hmem)
    · cases List.mem_singleton.mp hmem
      exact Nat.le_refl _
  unset hnone := by cases hnone
  current position hposition := by
    cases hposition
    have hown : Registry.own (book.registries.countP (· ≠ .shared)) ≠ .shared := by
      intro hshared
      cases hshared
    refine ⟨_, List.getElem?_concat_length, iff_of_false hown ?_⟩
    -- the command that has just been carried out refutes it
    intro hnever
    have hlast := hnever command (List.mem_append_right _ (List.mem_singleton_self _))
    rw [hcommand] at hlast
    cases hlast

theorem Kept.freshRegistry_not_mem (h : Kept commands plugin.book) :
    plugin.freshRegistry ∉ plugin.book.registries := by
  rw [freshRegistry_eq]
  intro hmem
  exact Nat.lt_irrefl _ (h.numbered _ hmem)

theorem Kept.booked (h : Kept commands plugin.book) (command : Command) :
    Kept (commands ++ [command]) (plugin.booked command.servesOwn) := by
  cases hown : command.servesOwn with
  | true =>
    rw [Plugin.booked, if_pos rfl, freshRegistry_eq]
    exact h.enter hown
  | false =>
    rw [Plugin.booked, if_neg Bool.false_ne_true]
    exact h.settle.snoc hown

theorem Kept.step (h : Kept commands plugin.book) (command : Command) :
    Kept (commands ++ [command]) (step plugin command).1.book := by
  have hregisters := registers_step plugin command
  generalize Plugin.step plugin command = result at hregisters ⊢
  cases hregisters with
  | unbooked hserves hshared hbook hservers =>
    dsimp only
    rw [hbook]
    exact h.snoc hshared
  | booked hserves hbook hservers =>
    dsimp only
    rw [hbook]
    exact h.booked command
  | served hbook hcurrent hservers =>
    dsimp only
    rw [hbook]
    exact h.booked command

theorem Kept.run (environment : Environment) (nesting : ℕ) (commands : List Command) :
    Kept commands (run (Plugin.start environment nesting) commands).book := by
  induction commands using List.reverseRecOn with
  | nil => exact Kept.start environment nesting
  | append_singleton commands command ih =>
    rw [run_concat]
    exact ih.step command

theorem exists_entry_of_book {position : ℕ} {registry : Registry}
    (h : plugin.book.registries[position]? = some registry) :
    ∃ entry, plugin.registered[position]? = some entry ∧ entry.registry = registry := by
  rw [Plugin.book, List.getElem?_map] at h
  exact Option.map_eq_some_iff.mp h

/-- After any commands, a server offers the registry that the metrics of the reply are in exactly if
it was started with a new registry of its own, or none was ever wanted. Otherwise it offers the
registry of the process, which these metrics are not in. -/
theorem server_offers_metrics_iff (environment : Environment) (nesting : ℕ)
    (commands : List Command) (command : Command) :
    (command.serves = false ∧
        (step (run (start environment nesting) commands) command).2.2.servers = []) ∨
      ∃ server position same entry,
        (step (run (start environment nesting) commands) command).2.2.servers = [server] ∧
        (step (run (start environment nesting) commands) command).2.1 = .metrics position same ∧
        (step (run (start environment nesting) commands) command).1.registered[position]? =
          some entry ∧
        (server.registry = entry.registry ↔
          command.servesOwn = true ∨ ∀ earlier ∈ commands, earlier.servesOwn = false) ∧
        (command.servesOwn = false → server.registry = .shared) ∧
        (command.servesOwn = true →
          ∀ other ∈ (run (start environment nesting) commands).registered,
            other.registry ≠ entry.registry) := by
  have hkept := Kept.run environment nesting commands
  have hregisters := registers_step (run (start environment nesting) commands) command
  generalize run (start environment nesting) commands = before at hkept hregisters ⊢
  generalize step before command = result at hregisters ⊢
  cases hregisters with
  | unbooked hserves hshared hbook hservers => exact Or.inl ⟨hserves, hservers⟩
  | booked hserves hbook hservers => exact Or.inl ⟨hserves, hservers⟩
  | @served after effects port position same hbook hcurrent hservers =>
    cases hown : command.servesOwn with
    | false =>
      rw [hown, booked, if_neg Bool.false_ne_true] at hbook
      rw [hown, served, if_neg Bool.false_ne_true] at hservers
      have hafter := hkept.settle
      rw [← hbook] at hafter
      obtain ⟨registry, hregistry, hiff⟩ := hafter.current _ hcurrent
      obtain ⟨entry, hentry, rfl⟩ := exists_entry_of_book hregistry
      refine Or.inr ⟨_, position, same, entry, hservers, rfl, hentry, ?_, fun _ => rfl, nofun⟩
      rw [eq_comm, hiff]
      simp only [Bool.false_eq_true, false_or]
    | true =>
      rw [hown, booked, if_pos rfl] at hbook
      rw [hown, served, if_pos rfl] at hservers
      have hregistry : after.book.registries[position]? = some before.freshRegistry := by
        rw [hbook] at hcurrent ⊢
        cases hcurrent
        exact List.getElem?_concat_length
      obtain ⟨entry, hentry, hfresh⟩ := exists_entry_of_book hregistry
      refine Or.inr ⟨_, position, same, entry, hservers, rfl, hentry,
        iff_of_true hfresh.symm (Or.inl rfl), nofun, ?_⟩
      intro _ other hother hsame
      rw [hfresh] at hsame
      exact hkept.freshRegistry_not_mem (List.mem_map.mpr ⟨other, hother, hsame⟩)

/-- A server with a registry of its own, and then one without on another port. -/
theorem server_misses_kept_metrics :
    (step (start [] 0) (.serveMetrics 8005 true none)).2.2.servers = [⟨8005, .own 0⟩] ∧
      (step (run (start [] 0) [.serveMetrics 8005 true none])
        (.serveMetrics 8004 false none)).2.2.servers = [⟨8004, .shared⟩] ∧
      (step (run (start [] 0) [.serveMetrics 8005 true none])
        (.serveMetrics 8004 false none)).2.1 = .metrics 0 true ∧
      (step (run (start [] 0) [.serveMetrics 8005 true none])
        (.serveMetrics 8004 false none)).1.registered[0]? = some ⟨.own 0, .fresh⟩ ∧
      Registry.shared ≠ .own 0 :=
  ⟨rfl, rfl, rfl, rfl, nofun⟩

end DeviceAllocation.Plugin
