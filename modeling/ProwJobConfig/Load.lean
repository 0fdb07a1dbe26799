import ProwJobConfig.Validate
import ProwJobConfig.Settings
import ProwJobConfig.Spyglass

/-!
Contract: the Resolution Orchestrator of `config.go`: `parseProwConfig`, `loadConfig`,
`validateComponentConfig` and `Load`.

Owns: `parseProwConfig`, every step of the source's function in its order (the plank
controller, the settings steps of `Settings.parseReports`, the size limit of Deck's Spyglass,
the global rerun policy, the Spyglass lens steps, the settings steps of `Settings.parseLinks`
and the namespace defaults), with its spec `parseProwConfig_eq_ok_iff`: it succeeds exactly
when each part does, and changes no job; `load`, the composition the public `Load` performs,
and `resolveConfig`, the part of it after `loadConfig` (`finalizeJobConfig`,
`validateComponentConfig`, `validateJobConfig`).

Does not own: `os.Stat`, reading and unmarshalling the primary document (it arrives
unmarshalled, with the path it was read from). The steps modelled here are total, so
`Load`'s recovery of a panic has nothing to recover from in the model; the panics of
library code are folded into the `Library` results.
-/

set_option autoImplicit false

namespace ProwJobConfig

variable {Regexp DecorationConfig : Type}

/-! ## Parsing the primary document -/

/-- `parseProwConfig(c)`, every step in the source's order. The settings steps before and
after Deck's Spyglass steps are `Settings.parseReports` and `Settings.parseLinks`; the
namespace defaults, which the source sets between Sinker's defaults and the link URL, read and
write nothing those steps do. -/
def parseProwConfig (lib : Library Regexp DecorationConfig) (order : MapOrder)
    (c : Config Regexp DecorationConfig) : Except String (Config Regexp DecorationConfig) :=
  match validateController lib c.plank.toController with
  | .error err => .error s!"validating plank config: {err}"
  | .ok controller => do
      let reported ← Settings.parseReports lib c.settings
      let sized ← c.spyglass.defaultSizeLimit
      if c.deck.rerunAuthConfig.ambiguous then
        .error "allow_anyone is set to true and authorized users or teams are specified."
      else do
        let spyglass ← sized.parseLenses lib order
        let settings ← Settings.parseLinks lib reported
        pure { c with
          plank := { c.plank with toController := controller }
          settings := settings
          spyglass := spyglass
          prowJobNamespace := if c.prowJobNamespace = "" then "default" else c.prowJobNamespace
          podNamespace := if c.podNamespace = "" then "default" else c.podNamespace }

/-- **`parseProwConfig` is its parts.** It succeeds exactly when the plank controller
validates, the settings steps and the Spyglass steps succeed and the rerun policy is
unambiguous; it then sets what those parts leave and the two namespaces, and nothing else. -/
theorem parseProwConfig_eq_ok_iff (lib : Library Regexp DecorationConfig) (order : MapOrder)
    (c result : Config Regexp DecorationConfig) :
    parseProwConfig lib order c = .ok result ↔
      ∃ controller, validateController lib c.plank.toController = .ok controller ∧
        Settings.parse lib c.settings = .ok result.settings ∧
        c.spyglass.parse lib order = .ok result.spyglass ∧
        c.deck.rerunAuthConfig.ambiguous = false ∧
        result = { c with
          plank := { c.plank with toController := controller }
          settings := result.settings
          spyglass := result.spyglass
          prowJobNamespace := if c.prowJobNamespace = "" then "default" else c.prowJobNamespace
          podNamespace := if c.podNamespace = "" then "default" else c.podNamespace } := by
  unfold parseProwConfig
  cases controlled : validateController lib c.plank.toController with
  | error err => simp
  | ok controller =>
      simp only [Except.ok.injEq, exists_eq_left', Settings.parse, Spyglass.parse]
      constructor
      · intro done
        obtain ⟨reported, reportedOk, rest⟩ := Except.bind_eq_ok.1 done
        obtain ⟨sized, sizedOk, rest⟩ := Except.bind_eq_ok.1 rest
        split at rest
        · cases rest
        rename_i unambiguous
        obtain ⟨spyglass, lensed, rest⟩ := Except.bind_eq_ok.1 rest
        obtain ⟨settings, linked, rest⟩ := Except.bind_eq_ok.1 rest
        cases rest
        exact ⟨Except.bind_eq_ok.2 ⟨reported, reportedOk, linked⟩,
          Except.bind_eq_ok.2 ⟨sized, sizedOk, lensed⟩, by simpa using unambiguous, rfl⟩
      · rintro ⟨settled, parsed, unambiguous, formed⟩
        obtain ⟨reported, reportedOk, linked⟩ := Except.bind_eq_ok.1 settled
        obtain ⟨sized, sizedOk, lensed⟩ := Except.bind_eq_ok.1 parsed
        rw [formed, reportedOk, Except.ok_bind, sizedOk, Except.ok_bind, if_neg (by simp [unambiguous]),
          lensed, Except.ok_bind, linked]
        rfl

/-- `parseProwConfig` changes no job. -/
theorem parseProwConfig_jobs {lib : Library Regexp DecorationConfig} {order : MapOrder}
    {c result : Config Regexp DecorationConfig} (done : parseProwConfig lib order c = .ok result) :
    result.toJobConfig = c.toJobConfig := by
  obtain ⟨_, -, -, -, -, formed⟩ := (parseProwConfig_eq_ok_iff lib order c result).1 done
  rw [formed]

/-! ## Component settings -/

/-- The report template `DefaultAndValidate` puts in an empty `report_template`. -/
def defaultSlackReportTemplate : String :=
  "Job \x7b\x7b.Spec.Job\x7d\x7d of type \x7b\x7b.Spec.Type\x7d\x7d ended with state " ++
    "\x7b\x7b.Status.State\x7d\x7d. <\x7b\x7b.Status.URL\x7d\x7d|View logs>"

/-- `(cfg *SlackReporter) DefaultAndValidate()`: its template is named `""`. -/
def SlackReporter.defaultAndValidate (lib : Library Regexp DecorationConfig)
    (cfg : SlackReporter) : Except String SlackReporter :=
  let cfg := { cfg with
    reportTemplate := if cfg.reportTemplate = "" then defaultSlackReportTemplate
      else cfg.reportTemplate }
  if cfg.channel = "" then .error "channel must be set"
  else
    match lib.parseTemplate "" cfg.reportTemplate with
    | .error err => .error s!"failed to parse template: {err}"
    | .ok () =>
        match lib.executeTemplate "" cfg.reportTemplate with
        | .error err => .error s!"failed to execute report_template: {err}"
        | .ok () => .ok cfg

/-- `(c *Config) validateComponentConfig()`: every job URL prefix parses as a URL, and a
Slack reporter, when configured, is defaulted and valid. -/
def Config.validateComponentConfig (lib : Library Regexp DecorationConfig) (order : MapOrder)
    (c : Config Regexp DecorationConfig) : Except String (Config Regexp DecorationConfig) := do
  (order.enumerate .jobURLPrefixes c.plank.jobURLPrefixConfig).forM fun entry =>
    match lib.parseURL entry.2 with
    | .error err => .error s!"Invalid value for Planks job_url_prefix_config[\"{entry.1}\"]: {err}"
    | .ok () => .ok ()
  match c.slackReporter with
  | none => pure c
  | some slackReporter =>
      match slackReporter.defaultAndValidate lib with
      | .error err => .error s!"failed to validate slackreporter config: {err}"
      | .ok slackReporter => pure { c with slackReporter := some slackReporter }

/-! ## Loading -/

/-- `loadConfig(prowConfig, jobConfig)`. `document` is what the primary file unmarshals to
and `jobConfig` is `none` for an empty job-config path: then no fragment is read and nothing
is merged. -/
def loadConfig (lib : Library Regexp DecorationConfig) (order : MapOrder) (prowConfig : String)
    (document : Config Regexp DecorationConfig)
    (jobConfig : Option (JobConfigPath Regexp DecorationConfig)) :
    Except String (Config Regexp DecorationConfig) := do
  let jobs := document.toJobConfig.setSourcePath order prowConfig
  let nc ← parseProwConfig lib order { document with
    presubmits := jobs.presubmits, postsubmits := jobs.postsubmits, periodics := jobs.periodics }
  { nc with allRepos := ∅ }.loadJobConfig order jobConfig

/-- The resolution pipeline `Load` runs on a loaded configuration. -/
def resolveConfig (lib : Library Regexp DecorationConfig) (order : MapOrder)
    (c : Config Regexp DecorationConfig) : Except String (Config Regexp DecorationConfig) := do
  let c ← c.finalizeJobConfig lib order
  let c ← c.validateComponentConfig lib order
  c.validateJobConfig lib order

/-- `Load(prowConfig, jobConfig)`. -/
def load (lib : Library Regexp DecorationConfig) (order : MapOrder) (prowConfig : String)
    (document : Config Regexp DecorationConfig)
    (jobConfig : Option (JobConfigPath Regexp DecorationConfig)) :
    Except String (Config Regexp DecorationConfig) := do
  let c ← loadConfig lib order prowConfig document jobConfig
  resolveConfig lib order c

/-! ## What the steps after loading leave -/

/-- `validateComponentConfig` changes nothing but the Slack reporter's defaults. -/
theorem validateComponentConfig_ok {lib : Library Regexp DecorationConfig} {order : MapOrder}
    {c result : Config Regexp DecorationConfig}
    (done : c.validateComponentConfig lib order = .ok result) :
    result = { c with slackReporter := result.slackReporter } := by
  unfold Config.validateComponentConfig at done
  obtain ⟨⟨⟩, -, rest⟩ := Except.bind_eq_ok.1 done
  split at rest
  · cases rest; rfl
  · split at rest
    · cases rest
    · cases rest; rfl

theorem resolveConfig_ok {lib : Library Regexp DecorationConfig} {order : MapOrder}
    {c result : Config Regexp DecorationConfig} (done : resolveConfig lib order c = .ok result) :
    ∃ finalized validated, c.finalizeJobConfig lib order = .ok finalized ∧
      finalized.validateComponentConfig lib order = .ok validated ∧
      validated.validateJobConfig lib order = .ok result := by
  obtain ⟨finalized, finalizedOk, rest⟩ := Except.bind_eq_ok.1 done
  obtain ⟨validated, validatedOk, resultOk⟩ := Except.bind_eq_ok.1 rest
  exact ⟨finalized, validated, finalizedOk, validatedOk, resultOk⟩

/-- The pipeline after loading keeps the presets as they are. -/
theorem resolveConfig_presets {lib : Library Regexp DecorationConfig} {order : MapOrder}
    {c result : Config Regexp DecorationConfig} (done : resolveConfig lib order c = .ok result) :
    result.presets = c.presets := by
  obtain ⟨finalized, validated, finalizedOk, validatedOk, resultOk⟩ := resolveConfig_ok done
  obtain ⟨-, -, -, -, built⟩ := (validateJobConfig_eq_ok_iff lib order validated result).1 resultOk
  have fromValidated : result.presets = validated.presets := by rw [built]
  have fromFinalized := finalizeJobConfig_presets finalizedOk
  rw [fromValidated, validateComponentConfig_ok validatedOk]
  exact fromFinalized

/-- **With an empty job-config path, `Load` keeps the primary document's presets unchecked.**
`loadConfig` returns before `mergeJobConfig`, the only step that looks for presets sharing a
label pair, and no later step reads the presets as a whole. -/
theorem load_without_job_config_presets {lib : Library Regexp DecorationConfig}
    {order : MapOrder} {prowConfig : String} {document result : Config Regexp DecorationConfig}
    (done : load lib order prowConfig document none = .ok result) :
    result.presets = document.presets := by
  obtain ⟨loaded, loadedOk, resolved⟩ := Except.bind_eq_ok.1 done
  obtain ⟨parsed, parsedOk, rest⟩ := Except.bind_eq_ok.1 loadedOk
  cases rest
  have presets := congrArg JobConfig.presets (parseProwConfig_jobs parsedOk)
  rw [resolveConfig_presets resolved]
  exact presets

/-! ## A document that sets none of the checked settings -/

/-- Go's libraries accept the defaults `parseProwConfig` puts in a document that sets none of
the settings it checks: empty `JobURL` and `Report` templates, the link URL
`https://github.com` and the log level `info`. -/
structure Library.AcceptsDefaults (lib : Library Regexp DecorationConfig) : Prop where
  jobURLTemplate : lib.parseTemplate "JobURL" "" = .ok ()
  reportTemplate : lib.parseTemplate "Report" "" = .ok ()
  linkURL : lib.parseURL "https://github.com" = .ok ()
  logLevel : lib.parseLevel "info" = .ok ()

theorem acceptingLibrary_acceptsDefaults :
    (acceptingLibrary : Library Unit DecorationConfig).AcceptsDefaults :=
  ⟨rfl, rfl, rfl, rfl⟩

/-- A document that sets none of the settings `parseProwConfig` checks: the default plank
controller, settings, Spyglass config and Deck. -/
structure Config.Unconfigured (c : Config Regexp DecorationConfig) : Prop where
  controller : c.plank.toController = {}
  settings : c.settings = {}
  spyglass : c.spyglass = {}
  deck : c.deck = {}

theorem Library.sortSliceOf_nil {α : Type} (lib : Library Regexp DecorationConfig)
    (less : α → α → Bool) : lib.sortSliceOf [] less = [] :=
  List.eq_nil_of_length_eq_zero ((lib.sortSliceOf_perm [] less).length_eq)

/-- **A document that sets none of the checked settings parses**, under a library that
accepts the defaults: `parseProwConfig` sets the plank controller's goroutines, the settings,
the Spyglass config and the namespaces, and nothing else. -/
theorem parseProwConfig_unconfigured {lib : Library Regexp DecorationConfig}
    (defaults : lib.AcceptsDefaults) (order : MapOrder) {c : Config Regexp DecorationConfig}
    (unconfigured : c.Unconfigured) :
    ∃ settings spyglass, parseProwConfig lib order c = .ok { c with
      plank := { c.plank with toController := { maxGoroutines := 20 } }
      settings := settings
      spyglass := spyglass
      prowJobNamespace := if c.prowJobNamespace = "" then "default" else c.prowJobNamespace
      podNamespace := if c.podNamespace = "" then "default" else c.podNamespace } := by
  have controlled : validateController lib c.plank.toController = .ok { maxGoroutines := 20 } := by
    simp [unconfigured.controller, validateController, defaults.jobURLTemplate,
      defaults.reportTemplate]
  obtain ⟨settings, settled⟩ : ∃ settings, Settings.parse lib c.settings = .ok settings := by
    rw [unconfigured.settings]
    exact ⟨_, (Settings.parse_eq_ok_iff _ _).2 ⟨rfl, [], rfl, rfl, by simpa using defaults.linkURL,
      by simpa using defaults.logLevel, rfl⟩⟩
  obtain ⟨spyglass, parsed⟩ := (Spyglass.parse_ok_iff lib order c.spyglass).2
    ⟨by simp [unconfigured.spyglass], by simp [unconfigured.spyglass, Spyglass.oldLenses]⟩
  have unambiguous : c.deck.rerunAuthConfig.ambiguous = false := by
    rw [unconfigured.deck]
    rfl
  exact ⟨settings, spyglass,
    (parseProwConfig_eq_ok_iff lib order c _).2 ⟨_, controlled, settled, parsed, unambiguous, rfl⟩⟩

/-- With an empty job-config path, a document that sets none of the checked settings loads:
its jobs stamped with its path, the settings `parseProwConfig` sets, and no repository yet. -/
theorem loadConfig_unconfigured {lib : Library Regexp DecorationConfig}
    (defaults : lib.AcceptsDefaults) (order : MapOrder) (prowConfig : String)
    (document : Config Regexp DecorationConfig) (unconfigured : document.Unconfigured) :
    ∃ settings spyglass, loadConfig lib order prowConfig document none = .ok { document with
      presubmits := (document.toJobConfig.setSourcePath order prowConfig).presubmits
      postsubmits := (document.toJobConfig.setSourcePath order prowConfig).postsubmits
      periodics := (document.toJobConfig.setSourcePath order prowConfig).periodics
      allRepos := ∅
      plank := { document.plank with toController := { maxGoroutines := 20 } }
      settings := settings
      spyglass := spyglass
      prowJobNamespace := if document.prowJobNamespace = "" then "default"
        else document.prowJobNamespace
      podNamespace := if document.podNamespace = "" then "default" else document.podNamespace } := by
  obtain ⟨settings, spyglass, parsed⟩ := parseProwConfig_unconfigured defaults order
    (c := { document with
      presubmits := (document.toJobConfig.setSourcePath order prowConfig).presubmits
      postsubmits := (document.toJobConfig.setSourcePath order prowConfig).postsubmits
      periodics := (document.toJobConfig.setSourcePath order prowConfig).periodics })
    ⟨unconfigured.controller, unconfigured.settings, unconfigured.spyglass, unconfigured.deck⟩
  exact ⟨settings, spyglass, by simp only [loadConfig, parsed, Except.ok_bind]; rfl⟩

/-- Two presets that both require the label pair `team: infra`. -/
def overlappingPresets : List Preset :=
  [{ labels := GoMap.ofPairs [("team", "infra")] },
    { labels := GoMap.ofPairs [("team", "infra"), ("tier", "batch")] }]

theorem load_keeps_overlapping_presets (lib : Library Regexp DecorationConfig) (order : MapOrder)
    (prowConfig : String) (defaults : lib.AcceptsDefaults) :
    ∃ result, load lib order prowConfig { presets := overlappingPresets } none = .ok result ∧
      SharesLabelPair result.presets := by
  obtain ⟨settings, spyglass, loaded⟩ := loadConfig_unconfigured defaults order prowConfig
    { presets := overlappingPresets } ⟨rfl, rfl, rfl, rfl⟩
  obtain ⟨result, done⟩ :
      ∃ result, load lib order prowConfig { presets := overlappingPresets } none = .ok result := by
    simp [load, loaded, resolveConfig, JobConfig.setSourcePath, GoMap.rangeUpdate,
      Config.finalizeJobConfig, JobConfig.decorationRequested, GoMap.rangeUpdateM, defaultPeriodics,
      bind, Except.bind, pure, Except.pure, Config.validateComponentConfig,
      Config.validateJobConfig, validatePeriodics, validatePeriodicsFrom, GoMap.pairs,
      List.mapM.loop]
  refine ⟨result, done, ?_⟩
  rw [load_without_job_config_presets done]
  show SharesLabelPair overlappingPresets
  exact ⟨0, 1, by decide, by decide, by decide, "team", "infra", rfl, rfl⟩

theorem load_keeps_overlapping_presets_accepting :
    (acceptingLibrary : Library Unit Unit).AcceptsDefaults ∧
      ∃ result, load (acceptingLibrary : Library Unit Unit) MapOrder.stored "config.yaml"
        { presets := overlappingPresets } none = .ok result ∧ SharesLabelPair result.presets :=
  ⟨acceptingLibrary_acceptsDefaults,
    load_keeps_overlapping_presets acceptingLibrary MapOrder.stored "config.yaml"
      acceptingLibrary_acceptsDefaults⟩

end ProwJobConfig
