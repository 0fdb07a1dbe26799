import ProwJobConfig.Load

/-!
Contract: the invariant of a configuration snapshot that `Load` returns, and the proof that
every stage of `Load` establishes its part of it and that no later stage undoes it.

Owns: `Presubmit.Triggered` and `Config.Resolved`, the invariant of the resolved jobs, which
the resolution pipeline (`finalizeJobConfig`, `validateComponentConfig`, `validateJobConfig`)
establishes (`resolveConfig_resolved`); `Config.Parsed`, the invariant of the settings
`parseProwConfig` settles, which every later stage keeps; and `Config.Loaded`, the two
together, which holds of every snapshot `Load` returns (`load_loaded`). The proofs compose the
spec lemmas of the stages; no stage is unfolded here.

Does not own: what each stage checks, which `Defaults`, `Validate`, `Settings`, `Spyglass`
and `Load` state.
-/

set_option autoImplicit false

namespace ProwJobConfig

variable {Regexp DecorationConfig : Type}

/-- The triggering rules a resolved presubmit meets: a trigger and a rerun command, a
compiled trigger that accepts the rerun command, no `always_run` together with
`run_if_changed`, and a context unless the job skips reporting. -/
structure Presubmit.Triggered (lib : Library Regexp DecorationConfig)
    (job : Presubmit Regexp DecorationConfig) : Prop where
  trigger : job.trigger ≠ ""
  rerunCommand : job.rerunCommand ≠ ""
  compiled : ∃ re, job.re = some re ∧ lib.compile job.trigger = .ok re ∧
    lib.matchString re job.rerunCommand = true
  exclusive : ¬ (job.alwaysRun = true ∧ job.regexpChangeMatcher.runIfChanged ≠ "")
  context : job.skipReport = false → job.context ≠ ""

/-- The invariant of a resolved snapshot: every job is valid for the snapshot's pod namespace
(its name, concurrency limit and labels, its agent's compatibility with its spec, decoration
and namespace, its pod spec, and the container-level rules for a job with a container), no
two jobs of one name in a repository have intersecting branches, every presubmit is
triggered, every periodic is scheduled, and a requested decoration has a valid wildcard
default. -/
structure Config.Resolved (lib : Library Regexp DecorationConfig)
    (c : Config Regexp DecorationConfig) : Prop where
  presubmits : ∀ repo jobs, c.presubmits.lookup repo = some jobs →
    NoIntersectingDuplicates lib Presubmit.toJobBase Presubmit.brancher jobs ∧
    ∀ job ∈ jobs, JobBase.Valid lib job.toJobBase c.podNamespace ∧ job.Triggered lib
  postsubmits : ∀ repo jobs, c.postsubmits.lookup repo = some jobs →
    NoIntersectingDuplicates lib Postsubmit.toJobBase Postsubmit.brancher jobs ∧
    ∀ job ∈ jobs, JobBase.Valid lib job.toJobBase c.podNamespace
  periodics : ∀ p ∈ c.periodics, JobBase.Valid lib p.toJobBase c.podNamespace ∧ p.Scheduled lib
  decoration : c.decorationRequested = true → ∃ wildcard,
    c.plank.defaultDecorationConfigs.lookup "*" = some wildcard ∧ lib.validate wildcard = .ok ()

/-- The trigger checks of defaulting and of validation together make a presubmit triggered:
defaulting compiles the trigger and leaves no job with both fields empty, and validation
rejects a job with exactly one of them empty. -/
theorem Presubmit.Triggered.of_checks {lib : Library Regexp DecorationConfig}
    {job : Presubmit Regexp DecorationConfig}
    (compiled : ∃ re, job.re = some re ∧ lib.compile job.trigger = .ok re ∧
      lib.matchString re job.rerunCommand = true)
    (defaulted : ¬ (job.trigger = "" ∧ job.rerunCommand = ""))
    (validated : validateTriggering job = .ok ()) : job.Triggered lib := by
  obtain ⟨exclusive, context, paired⟩ := (validateTriggering_eq_ok_iff job).1 validated
  exact ⟨fun empty => defaulted ⟨empty, paired.1 empty⟩,
    fun empty => defaulted ⟨paired.2 empty, empty⟩, compiled, exclusive, context⟩

/-- Every presubmit `finalizeJobConfig` leaves has a compiled trigger that accepts its rerun
command, and not both of them empty. -/
theorem finalizeJobConfig_presubmits_compiled {lib : Library Regexp DecorationConfig}
    {order : MapOrder} {c result : Config Regexp DecorationConfig}
    (done : c.finalizeJobConfig lib order = .ok result) {repo : String}
    {jobs : List (Presubmit Regexp DecorationConfig)}
    (found : result.presubmits.lookup repo = some jobs) :
    ∀ job ∈ jobs, (∃ re, job.re = some re ∧ lib.compile job.trigger = .ok re ∧
      lib.matchString re job.rerunCommand = true) ∧
      ¬ (job.trigger = "" ∧ job.rerunCommand = "") := by
  intro job member
  obtain ⟨settled, -, presubmits, -⟩ := finalizeJobConfig_jobs done
  obtain ⟨sources, -, defaulted⟩ := GoMap.rel_some_right (found ▸ presubmits repo)
  obtain ⟨source, -, step⟩ := forall₂_exists_of_mem_right defaulted member
  obtain ⟨-, -, -, compiled, triggered⟩ := step.facts
  exact ⟨compiled, triggered⟩

/-- The resolution pipeline establishes the invariant: the proof composes the spec lemmas
of its three stages. -/
theorem Config.Resolved.of_resolveConfig {lib : Library Regexp DecorationConfig}
    {order : MapOrder} {c result : Config Regexp DecorationConfig}
    (done : resolveConfig lib order c = .ok result) : result.Resolved lib := by
  obtain ⟨finalized, validated, finalizedOk, validatedOk, resultOk⟩ := resolveConfig_ok done
  have component := validateComponentConfig_ok validatedOk
  obtain ⟨presubmitsPass, postsubmitsPass, periodicsPass, intervals, built⟩ :=
    (validateJobConfig_eq_ok_iff lib order validated result).1 resultOk
  have presubmitsFlow : result.presubmits = validated.presubmits ∧
      validated.presubmits = finalized.presubmits := ⟨by rw [built], by rw [component]⟩
  have podNamespace : result.podNamespace = validated.podNamespace := by rw [built]
  have postsubmitsPassed : result.postsubmits = validated.postsubmits := by rw [built]
  have samePlank : result.plank = finalized.plank := by rw [built, component]
  have sameFlags : result.decorationRequested = finalized.decorationRequested := by
    have periodicFlags := forall₂_any_eq (p := (·.decorate)) (q := (·.decorate))
      (fun _ _ parsed => congrArg JobBase.decorate (setPeriodicInterval_ok parsed).1.symm) intervals
    rw [built, component] at periodicFlags ⊢
    simp only [JobConfig.decorationRequested, periodicFlags]
  refine ⟨fun repo jobs found => ?_, fun repo jobs found => ?_, fun p member => ?_, ?_⟩
  · have passes := presubmitsPass repo jobs (presubmitsFlow.1 ▸ found)
    rw [validatePresubmits, validateBranchJobs_empty_eq_ok_iff] at passes
    refine ⟨passes.1, fun job member => ⟨?_, ?_⟩⟩
    · exact podNamespace ▸ (validateJobBase_eq_ok_iff ..).1 (passes.2 job member).1
    · rw [presubmitsFlow.1, presubmitsFlow.2] at found
      obtain ⟨compiled, defaulted⟩ := finalizeJobConfig_presubmits_compiled finalizedOk found job member
      exact .of_checks compiled defaulted (passes.2 job member).2
  · have passes := postsubmitsPass repo jobs (postsubmitsPassed ▸ found)
    rw [validatePostsubmits, validateBranchJobs_empty_eq_ok_iff] at passes
    exact ⟨passes.1, fun job member =>
      podNamespace ▸ (validateJobBase_eq_ok_iff ..).1 (passes.2 job member).1⟩
  · obtain ⟨source, sourceMember, parsed⟩ := forall₂_exists_of_mem_right intervals member
    obtain ⟨sameBase, scheduled⟩ := setPeriodicInterval_ok parsed
    have passes := ((validatePeriodicsFrom_eq_ok_iff ..).1 periodicsPass).2.2 source sourceMember
    rw [← sameBase] at passes
    exact ⟨podNamespace ▸ (validateJobBase_eq_ok_iff ..).1 passes, scheduled⟩
  · intro requested
    rw [sameFlags, finalizeJobConfig_decorationRequested finalizedOk] at requested
    rw [samePlank]
    exact finalizeJobConfig_wildcard finalizedOk requested

/-- **A snapshot the resolution pipeline returns satisfies the whole invariant.** -/
theorem resolveConfig_resolved (lib : Library Regexp DecorationConfig) (order : MapOrder)
    (c result : Config Regexp DecorationConfig) (done : resolveConfig lib order c = .ok result) :
    result.Resolved lib :=
  .of_resolveConfig done

/-- One repository with one presubmit, and one periodic, each on every default but its name,
a one-container pod and, for the periodic, an interval; the pod namespace is the one
`parseProwConfig` defaults to. -/
def sampleConfig : Config Unit Unit :=
  { presubmits := GoMap.ofPairs [("org/repo", [{ name := "unit", spec := some { containers := [{}] } }])]
    periodics := [{ name := "nightly", spec := some { containers := [{}] }, interval := "24h" }]
    podNamespace := "default" }

theorem resolveConfig_resolved_sample :
    ∃ result, resolveConfig acceptingLibrary MapOrder.stored sampleConfig = .ok result ∧
      result.Resolved acceptingLibrary := by
  obtain ⟨result, done⟩ := Except.exists_ok_of_isOk
    (show (resolveConfig acceptingLibrary MapOrder.stored sampleConfig).isOk = true by decide)
  exact ⟨result, done, resolveConfig_resolved _ _ _ _ done⟩

/-! ## What `parseProwConfig` settles -/

/-- What `parseProwConfig` settles in a configuration: the plank controller, Deck's rerun
policy, the settings, the Spyglass config and the two namespaces. -/
def Config.parsedPart (c : Config Regexp DecorationConfig) :
    Controller × Deck × Settings × Spyglass Regexp × String × String :=
  (c.plank.toController, c.deck, c.settings, c.spyglass, c.prowJobNamespace, c.podNamespace)

/-- The invariant of the settings `parseProwConfig` settles: a plank controller that
validates to itself, an unambiguous global rerun policy, every setting with a default set, a
Spyglass config as its steps leave it, and both namespaces set. -/
structure Config.Parsed (lib : Library Regexp DecorationConfig)
    (c : Config Regexp DecorationConfig) : Prop where
  controller : validateController lib c.plank.toController = .ok c.plank.toController
  rerunPolicy : c.deck.rerunAuthConfig.ambiguous = false
  settings : c.settings.Settled
  spyglass : c.spyglass.Parsed lib
  prowJobNamespace : c.prowJobNamespace ≠ ""
  podNamespace : c.podNamespace ≠ ""

/-- The invariant reads only what `parseProwConfig` settles. -/
theorem Config.Parsed.of_parsedPart {lib : Library Regexp DecorationConfig}
    {c c' : Config Regexp DecorationConfig} (same : c'.parsedPart = c.parsedPart)
    (parsed : c.Parsed lib) : c'.Parsed lib := by
  simp only [Config.parsedPart, Prod.mk.injEq] at same
  obtain ⟨controller, deck, settings, spyglass, prowJobNamespace, podNamespace⟩ := same
  exact ⟨controller ▸ parsed.controller, deck ▸ parsed.rerunPolicy, settings ▸ parsed.settings,
    spyglass ▸ parsed.spyglass, prowJobNamespace ▸ parsed.prowJobNamespace,
    podNamespace ▸ parsed.podNamespace⟩

theorem Config.Parsed.of_parseProwConfig {lib : Library Regexp DecorationConfig}
    {order : MapOrder} {c result : Config Regexp DecorationConfig}
    (done : parseProwConfig lib order c = .ok result) : result.Parsed lib := by
  obtain ⟨controller, controlled, settled, parsed, unambiguous, formed⟩ :=
    (parseProwConfig_eq_ok_iff lib order c result).1 done
  have nonEmpty : ∀ name : String, (if name = "" then "default" else name) ≠ "" := fun name => by
    split_ifs with empty
    · decide
    · exact empty
  rw [formed]
  exact ⟨validateController_idempotent controlled, unambiguous, Settings.parse_settled settled,
    Spyglass.parse_parsed parsed, nonEmpty _, nonEmpty _⟩

/-- Reading and merging the job configs settles nothing `parseProwConfig` settled. -/
theorem loadJobConfig_parsedPart {order : MapOrder} {c result : Config Regexp DecorationConfig}
    {jobConfig : Option (JobConfigPath Regexp DecorationConfig)}
    (done : c.loadJobConfig order jobConfig = .ok result) : result.parsedPart = c.parsedPart := by
  cases jobConfig with
  | none => cases done; rfl
  | some source =>
      obtain ⟨jc, -, merged⟩ := Except.bind_eq_ok.1 done
      obtain ⟨m, -, built⟩ := Except.bind_eq_ok.1 merged
      cases built
      rfl

/-- The resolution pipeline settles nothing `parseProwConfig` settled: `finalizeJobConfig`
changes only the jobs and the default decoration configs, `validateComponentConfig` only the
Slack reporter, `validateJobConfig` only the periodics. -/
theorem resolveConfig_parsedPart {lib : Library Regexp DecorationConfig} {order : MapOrder}
    {c result : Config Regexp DecorationConfig} (done : resolveConfig lib order c = .ok result) :
    result.parsedPart = c.parsedPart := by
  obtain ⟨finalized, validated, finalizedOk, validatedOk, resultOk⟩ := resolveConfig_ok done
  obtain ⟨-, -, -, -, built⟩ := (validateJobConfig_eq_ok_iff lib order validated result).1 resultOk
  have finalizedPart : finalized.parsedPart = c.parsedPart := by
    obtain ⟨settled, _, _, _, settledOk, -, -, -, rfl⟩ := finalizeJobConfig_ok finalizedOk
    split at settledOk
    · obtain ⟨configs, wildcard, -, -, rfl⟩ := settleDecorationDefaults_ok settledOk
      rfl
    · cases settledOk
      rfl
  rw [built, validateComponentConfig_ok validatedOk]
  exact finalizedPart

/-! ## The snapshot `Load` returns -/

/-- The invariant of a snapshot `Load` returns: its jobs are resolved, and what
`parseProwConfig` settled still holds. -/
structure Config.Loaded (lib : Library Regexp DecorationConfig)
    (c : Config Regexp DecorationConfig) : Prop where
  resolved : c.Resolved lib
  parsed : c.Parsed lib

/-- **Every snapshot `Load` returns satisfies the invariant of every stage**, whatever the
primary document, the job-config fragments and the map order: `parseProwConfig` settles the
controller, the rerun policy, the settings, the Spyglass config and the namespaces, which
reading and merging the job configs and the resolution pipeline leave as they are, and the
resolution pipeline resolves the jobs. -/
theorem load_loaded (lib : Library Regexp DecorationConfig) (order : MapOrder)
    (prowConfig : String) (document : Config Regexp DecorationConfig)
    (jobConfig : Option (JobConfigPath Regexp DecorationConfig))
    (result : Config Regexp DecorationConfig)
    (done : load lib order prowConfig document jobConfig = .ok result) : result.Loaded lib := by
  obtain ⟨loaded, loadedOk, resolved⟩ := Except.bind_eq_ok.1 done
  obtain ⟨parsed, parsedOk, merged⟩ := Except.bind_eq_ok.1 loadedOk
  have mergedPart := loadJobConfig_parsedPart merged
  exact ⟨.of_resolveConfig resolved, Config.Parsed.of_parsedPart (c := parsed)
    ((resolveConfig_parsedPart resolved).trans mergedPart) (.of_parseProwConfig parsedOk)⟩

theorem load_loaded_sample :
    ∃ result, load acceptingLibrary MapOrder.stored "config.yaml" sampleConfig none = .ok result ∧
      result.Loaded acceptingLibrary := by
  obtain ⟨result, done⟩ := Except.exists_ok_of_isOk (show (load acceptingLibrary MapOrder.stored
    "config.yaml" sampleConfig none).isOk = true by decide)
  exact ⟨result, done, load_loaded _ _ _ _ _ _ done⟩

/-! ## A rule the invariant leaves out -/

/-- A Jenkins periodic with no pod spec whose rerun policy allows anyone and also lists a
user: the ambiguous policy `validateJobBase` rejects in a job with a container. -/
def ambiguousJenkinsPeriodic : Periodic DecorationConfig :=
  { name := "nightly", agent := jenkinsAgent, cron := "@daily",
    rerunAuthConfig := some { allowAnyone := true, gitHubUsers := ["maintainer"] } }

theorem load_accepts_ambiguous_rerun_policy (lib : Library Regexp DecorationConfig)
    (order : MapOrder) (prowConfig : String) (defaults : lib.AcceptsDefaults) :
    ∃ result, load lib order prowConfig { periodics := [ambiguousJenkinsPeriodic] } none =
      .ok result ∧ ∃ p ∈ result.periodics, p.rerunAuthConfig.any RerunAuthConfig.ambiguous = true := by
  obtain ⟨settings, spyglass, loaded⟩ := loadConfig_unconfigured defaults order prowConfig
    { periodics := [ambiguousJenkinsPeriodic] } ⟨rfl, rfl, rfl, rfl⟩
  simp only [load, loaded]
  simp [JobConfig.setSourcePath, GoMap.rangeUpdate, bind, Except.bind, pure,
    Except.pure, resolveConfig, RerunAuthConfig.ambiguous, ambiguousJenkinsPeriodic,
    Config.finalizeJobConfig, JobConfig.decorationRequested, GoMap.rangeUpdateM, defaultPeriodics,
    ProwConfig.defaultPeriodicFields, ProwConfig.defaultJobBase, resolvePresets,
    Config.validateComponentConfig, Config.validateJobConfig, validatePeriodics,
    validatePeriodicsFrom, validateJobBase, validateAgent, validatePodSpec, validateLabels,
    setPeriodicInterval, GoMap.pairs, List.mapM.loop, jenkinsAgent, kubernetesAgent,
    knativeBuildAgent, tektonAgent, jobNameRegexMatches, isJobNameChar]

theorem load_accepts_ambiguous_rerun_policy_accepting :
    (acceptingLibrary : Library Unit Unit).AcceptsDefaults ∧
      ∃ result, load (acceptingLibrary : Library Unit Unit) MapOrder.stored "config.yaml"
        { periodics := [ambiguousJenkinsPeriodic] } none = .ok result ∧
        ∃ p ∈ result.periodics, p.rerunAuthConfig.any RerunAuthConfig.ambiguous = true :=
  ⟨acceptingLibrary_acceptsDefaults, load_accepts_ambiguous_rerun_policy acceptingLibrary
    MapOrder.stored "config.yaml" acceptingLibrary_acceptsDefaults⟩

end ProwJobConfig
