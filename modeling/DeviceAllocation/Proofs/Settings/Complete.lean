import DeviceAllocation.Proofs.Settings.Overlay
import Mathlib.Data.List.Nodup

namespace DeviceAllocation.Settings

variable {path : List String} {old : List (String × Json)} {environment : Environment}
  {nesting : ℕ}

/-! ### What the readers accept -/

theorem readStrategy_name (strategy : Strategy) :
    readStrategy (.text strategy.name) = .ok strategy := by
  rw [readStrategy, Strategy.ofName?_name]

def endpointValue (endpoint : Option String) : Json := (endpoint.map Json.text).getD .null

theorem readText?_endpointValue (endpoint : Option String) :
    readText? (endpointValue endpoint) = .ok endpoint := by
  cases endpoint with
  | none => rfl
  | some text => rfl

theorem overlay_endpointValue (below : Option Json) (endpoint : Option String) :
    overlay below (endpointValue endpoint) = endpointValue endpoint := by
  cases endpoint with
  | none => rfl
  | some text => rfl

/-! ### Sections that are laid over others -/

section Sections

variable (settings : Settings)

def sharingFields : List (String × Json) :=
  [("time_slicing", .object [("strategy", .text settings.strategy.name)])]

def allocationFields : List (String × Json) := [("validate_required_subset", .bool settings.strict)]

def serverFields : List (String × Json) :=
  [("host", .text settings.host), ("metrics_port", .int settings.metricsPort)]

def observabilityFields : List (String × Json) :=
  [("service_name", .text settings.serviceName), ("environment", .text settings.environment),
    ("log_level", .text settings.threshold.name), ("log_format", .text settings.format.name),
    ("otlp_endpoint", endpointValue settings.endpoint)]

theorem sections_eq : settings.sections =
    [("sharing", .object settings.sharingFields), ("allocation", .object settings.allocationFields),
      ("server", .object settings.serverFields),
      ("observability", .object settings.observabilityFields)] := rfl

theorem nodup_serverFields : (settings.serverFields.map Prod.fst).Nodup :=
  show ["host", "metrics_port"].Nodup by decide

theorem nodup_observabilityFields : (settings.observabilityFields.map Prod.fst).Nodup :=
  show ["service_name", "environment", "log_level", "log_format", "otlp_endpoint"].Nodup by decide

theorem readSharing_overlay :
    readSharing path (overlayFields old settings.sharingFields) = .ok settings.strategy := by
  refine group_overlayFields (List.nodup_singleton "time_slicing") rfl
    (List.nodup_singleton "strategy") ?_
  intro path old
  exact field_overlayFields (List.nodup_singleton "strategy") rfl (fun _ => rfl)
    (readStrategy_name settings.strategy)

theorem readAllocation_overlay :
    readAllocation path (overlayFields old settings.allocationFields) = .ok settings.strict :=
  field_overlayFields (List.nodup_singleton "validate_required_subset") rfl (fun _ => rfl) rfl

theorem readServer_overlay :
    readServer path (overlayFields old settings.serverFields) =
      .ok (settings.host, settings.metricsPort) := by
  have hdistinct := settings.nodup_serverFields
  have hhost : field path (overlayFields old settings.serverFields) "host" readText default.host =
      .ok settings.host :=
    field_overlayFields hdistinct rfl (fun _ => rfl) rfl
  have hport : field path (overlayFields old settings.serverFields) "metrics_port" readInteger
      default.metricsPort = .ok settings.metricsPort :=
    field_overlayFields hdistinct rfl (fun _ => rfl) rfl
  rw [readServer, hhost, hport]
  rfl

theorem readObservability_overlay :
    readObservability path (overlayFields old settings.observabilityFields) =
      .ok ⟨settings.serviceName, settings.environment, settings.threshold, settings.format,
        settings.endpoint⟩ := by
  have hdistinct := settings.nodup_observabilityFields
  have hservice : field path (overlayFields old settings.observabilityFields) "service_name"
      readText default.serviceName = .ok settings.serviceName :=
    field_overlayFields hdistinct rfl (fun _ => rfl) rfl
  have henvironment : field path (overlayFields old settings.observabilityFields) "environment"
      readText default.environment = .ok settings.environment :=
    field_overlayFields hdistinct rfl (fun _ => rfl) rfl
  have hlevel : field path (overlayFields old settings.observabilityFields) "log_level"
      readThreshold default.threshold = .ok settings.threshold :=
    field_overlayFields hdistinct rfl (fun _ => rfl) (readThreshold_name settings.threshold)
  have hformat : field path (overlayFields old settings.observabilityFields) "log_format"
      readFormat default.format = .ok settings.format :=
    field_overlayFields hdistinct rfl (fun _ => rfl) (readFormat_name settings.format)
  have hendpoint : field path (overlayFields old settings.observabilityFields) "otlp_endpoint"
      readText? default.endpoint = .ok settings.endpoint :=
    field_overlayFields hdistinct rfl (fun below => overlay_endpointValue below settings.endpoint)
      (readText?_endpointValue settings.endpoint)
  rw [readObservability, hservice, henvironment, hlevel, hformat, hendpoint]
  rfl

theorem ofSections_overlay
    (hknown : ∀ name ∈ old.map Prod.fst, name ∈ sectionShapes.map SectionShape.name) :
    ofSections (overlayFields old settings.sections) = .ok settings := by
  have hdistinct : (settings.sections.map Prod.fst).Nodup :=
    show ["sharing", "allocation", "server", "observability"].Nodup by decide
  have hsharing : group [] (overlayFields old settings.sections) "sharing" "SharingConfig"
      readSharing = .ok settings.strategy :=
    group_overlayFields hdistinct rfl (List.nodup_singleton "time_slicing")
      fun path old => readSharing_overlay settings
  have hallocation : group [] (overlayFields old settings.sections) "allocation"
      "AllocationConfig" readAllocation = .ok settings.strict :=
    group_overlayFields hdistinct rfl (List.nodup_singleton "validate_required_subset")
      fun path old => readAllocation_overlay settings
  have hserver : group [] (overlayFields old settings.sections) "server" "ServerConfig"
      readServer = .ok (settings.host, settings.metricsPort) :=
    group_overlayFields hdistinct rfl settings.nodup_serverFields
      fun path old => readServer_overlay settings
  have hobservability : group [] (overlayFields old settings.sections) "observability"
      "ObservabilityConfig" readObservability = .ok ⟨settings.serviceName, settings.environment,
        settings.threshold, settings.format, settings.endpoint⟩ :=
    group_overlayFields hdistinct rfl settings.nodup_observabilityFields
      fun path old => readObservability_overlay settings
  have hunknown : readUnknown (overlayFields old settings.sections) = .ok () := by
    have hnone : (overlayFields old settings.sections).filter
        (fun entry => entry.1 ∉ sectionShapes.map SectionShape.name) = [] := by
      apply List.filter_eq_nil_iff.mpr
      intro entry hentry
      rcases names_overlayFields (List.mem_map_of_mem hentry) with hmem | hmem
      · simpa using hknown entry.1 hmem
      · have hsections : settings.sections.map Prod.fst = sectionShapes.map SectionShape.name := rfl
        rw [hsections] at hmem
        simpa using hmem
    rw [readUnknown, hnone]
    rfl
  rw [ofSections, hsharing, hallocation, hserver, hobservability, hunknown]
  rfl

end Sections

/-! ### The sources -/

theorem names_sectionsOf {rules : VariableRules} {visible : Environment}
    {shapes : List SectionShape} {found : List (String × Json)}
    (h : sectionsOf rules visible shapes = .ok found) :
    ∀ name ∈ found.map Prod.fst, name ∈ shapes.map SectionShape.name := by
  induction shapes generalizing found with
  | nil =>
    cases h
    exact fun _ hname => hname
  | cons shape shapes ih =>
    rw [sectionsOf] at h
    cases hsection : sectionOf rules shape visible with
    | error fault =>
      rw [hsection] at h
      cases h
    | ok value =>
      cases hrest : sectionsOf rules visible shapes with
      | error fault =>
        rw [hsection, hrest] at h
        cases h
      | ok rest =>
        rw [hsection, hrest] at h
        intro name hname
        cases value with
        | none =>
          cases h
          exact List.mem_cons_of_mem _ (ih hrest name hname)
        | some value =>
          cases h
          rcases List.mem_cons.mp hname with hfirst | hlater
          · exact hfirst ▸ List.mem_cons_self
          · exact List.mem_cons_of_mem _ (ih hrest name hlater)

/-- The names of the sections are no rules, and are spelled as they are known. -/
theorem sectionsGiven_sections (settings : Settings) :
    sectionsGiven settings.sections = settings.sections := by
  have hlower : ∀ name ∈ sectionShapes.map SectionShape.name, Text.lowerCase name = name := by
    decide +kernel
  simp only [sectionShapes, List.map_cons, List.map_nil, List.mem_cons, List.not_mem_nil, or_false,
    forall_eq_or_imp, forall_eq] at hlower
  simp [sectionsGiven, sections_eq, ruleNames, sectionShapes, hlower]

theorem consult_of_no_rules {given : List (String × Json)}
    (hsources : givesSources given = .ok false)
    (hline : commandLineOf nesting given =
      .ok (CommandLineRules.standard.variableRules nesting, []))
    (hrules : rulesOf nesting given = .standard nesting) (environment : Environment) :
    Sources.consult nesting environment given =
      (Sources.sectionsFrom .environment (.standard nesting) environment).map fun found =>
        ⟨[], sectionsGiven given, found⟩ := by
  rw [Sources.consult, hsources, hline, hrules]
  cases Sources.sectionsFrom .environment (.standard nesting) environment with
  | error error => rfl
  | ok found => rfl

theorem sectionsOf_of_sectionsFrom {source : TextSource} {rules : VariableRules}
    {found : List (String × Json)} (h : Sources.sectionsFrom source rules environment = .ok found) :
    sectionsOf rules (rules.visible environment) sectionShapes = .ok found := by
  rw [Sources.sectionsFrom] at h
  cases hsections : sectionsOf rules (rules.visible environment) sectionShapes with
  | error fault =>
    rw [hsections] at h
    cases h
  | ok sections =>
    rw [hsections] at h
    cases h
    rfl

theorem read_sections (settings : Settings) (nesting : ℕ) (environment : Environment) :
    read nesting environment settings.sections =
      (Sources.sectionsFrom .environment (.standard nesting) environment).map
        fun _ => settings := by
  rw [read, consult_of_no_rules rfl rfl rfl, sectionsGiven_sections]
  cases hfound : Sources.sectionsFrom .environment (.standard nesting) environment with
  | error error => rfl
  | ok found =>
    have hread := ofSections_overlay settings (names_sectionsOf (sectionsOf_of_sectionsFrom hfound))
    change (ofSections (overlayFields found (overlayFields settings.sections []))).mapError
      ReadError.invalid = .ok settings
    rw [overlayFields, hread]
    rfl

/-- An environment that can be decoded is at most found invalid when it is read alone. -/
theorem read_nil_eq_undecodable_iff {source : TextSource} {sectionName : String}
    {fault : VariableFault} :
    read nesting environment [] = .error (.undecodable source sectionName fault) ↔
      Sources.sectionsFrom .environment (.standard nesting) environment =
        .error (.undecodable source sectionName fault) := by
  rw [read, consult_of_no_rules rfl rfl rfl]
  cases Sources.sectionsFrom .environment (.standard nesting) environment with
  | error error =>
    constructor
    · intro h
      cases h
      rfl
    · intro h
      cases h
      rfl
  | ok found =>
    refine ⟨fun h => ?_, nofun⟩
    change (ofSections _).mapError ReadError.invalid = _ at h
    cases hread : ofSections (Sources.sections ⟨[], sectionsGiven [], found⟩) with
    | error issues =>
      rw [hread] at h
      cases h
    | ok settings =>
      rw [hread] at h
      cases h

theorem exists_undecodable_of_sectionsFrom {source : TextSource} {rules : VariableRules}
    {error : ReadError} (h : Sources.sectionsFrom source rules environment = .error error) :
    ∃ sectionName fault, error = .undecodable source sectionName fault := by
  rw [Sources.sectionsFrom] at h
  cases hsections : sectionsOf rules (rules.visible environment) sectionShapes with
  | error fault =>
    rw [hsections] at h
    cases h
    exact ⟨_, _, rfl⟩
  | ok sections =>
    rw [hsections] at h
    cases h

/-- Settings that were read once, from whatever environment and with whatever else was given, are
read again where they are given in full, whatever the environment says by then: it may contradict
them, or be invalid by itself. Only when it cannot be decoded there are no settings, for the reason
for which there would be none without any given. -/
theorem complete_settings_ignore_environment {nesting : ℕ} {first : Environment}
    {given : List (String × Json)} {settings : Settings}
    (hread : read nesting first given = .ok settings) (depth : ℕ) (second : Environment) :
    ((∀ source sectionName fault,
        read depth second [] ≠ .error (.undecodable source sectionName fault)) →
      read depth second settings.sections = read nesting first given ∧
        (read depth second settings.sections).map sections = .ok settings.sections) ∧
    ∀ source sectionName fault,
      read depth second [] = .error (.undecodable source sectionName fault) →
      read depth second settings.sections =
        .error (.undecodable source sectionName fault) := by
  rw [read_sections, hread]
  constructor
  · intro hdecodes
    cases hfound : Sources.sectionsFrom .environment (.standard depth) second with
    | error error =>
      obtain ⟨sectionName, fault, rfl⟩ := exists_undecodable_of_sectionsFrom hfound
      exact absurd (read_nil_eq_undecodable_iff.mpr hfound) (hdecodes _ _ _)
    | ok found => exact ⟨rfl, rfl⟩
  · intro source sectionName fault hundecodable
    rw [read_nil_eq_undecodable_iff.mp hundecodable]
    rfl

def firstEnvironment : Environment :=
  [("GPU_ALLOCATOR_SERVER", "\x7b\"host\": \"::1\", \"metrics_port\": \"9\"\x7d"),
    ("GPU_ALLOCATOR_SHARING__TIME_SLICING__STRATEGY", "packed")]

/-- Contradicts the first one, with sections and fields of wrong shapes, and is invalid by
itself. -/
def clashingEnvironment : Environment :=
  [("GPU_ALLOCATOR_SERVER", "[9]"), ("gpu_allocator_sharing__time_slicing", "7"),
    ("GPU_ALLOCATOR_SHARING__TIME_SLICING__STRATEGY", "none"),
    ("GPU_ALLOCATOR_OBSERVABILITY", "\x7b\"LOG_LEVEL\": \"LOUD\", \"unknown\": null\x7d"),
    ("GPU_ALLOCATOR_OBSERVABILITY__SERVICE_NAME__PART", "x"),
    ("GPU_ALLOCATOR_OBSERVABILITY__OTLP_ENDPOINT", "http://collector")]

def firstSettings : Settings :=
  { default with strategy := .packed, host := "::1", metricsPort := 9, environment := "lab" }

theorem clashing_complete_settings_ignored :
    read 100 firstEnvironment [("observability", .object [("environment", .text "lab")])] =
      .ok firstSettings ∧
    read 10 clashingEnvironment [] = .error (.invalid
      [⟨["sharing", "time_slicing"], .notSection "TimeSlicingConfig"⟩,
        ⟨["server"], .notSection "ServerConfig"⟩,
        ⟨["observability", "service_name"], .notText⟩,
        ⟨["observability", "log_level"], .notListed ["DEBUG", "INFO", "WARNING", "ERROR"]⟩]) ∧
    read 10 clashingEnvironment firstSettings.sections = .ok firstSettings ∧
    (read 10 clashingEnvironment firstSettings.sections).map sections =
      .ok firstSettings.sections := by
  have hfirst : read 100 firstEnvironment
      [("observability", .object [("environment", .text "lab")])] = .ok firstSettings := by
    decide +kernel
  have hinvalid : read 10 clashingEnvironment [] = .error (.invalid
      [⟨["sharing", "time_slicing"], .notSection "TimeSlicingConfig"⟩,
        ⟨["server"], .notSection "ServerConfig"⟩,
        ⟨["observability", "service_name"], .notText⟩,
        ⟨["observability", "log_level"], .notListed ["DEBUG", "INFO", "WARNING", "ERROR"]⟩]) := by
    decide +kernel
  have hdecodes (source : TextSource) (sectionName : String) (fault : VariableFault) :
      read 10 clashingEnvironment [] ≠ .error (.undecodable source sectionName fault) := by
    rw [hinvalid]
    exact nofun
  obtain ⟨hsame, hlisted⟩ :=
    (complete_settings_ignore_environment hfirst 10 clashingEnvironment).1 hdecodes
  exact ⟨hfirst, hinvalid, hsame.trans hfirst, hlisted⟩

end DeviceAllocation.Settings
