import ProwJobConfig.Validate

/-!
Contract: what the job resolution computes does not depend on the order Go visits its maps:
the fragment merge, `finalizeJobConfig` and `validateJobConfig`, run under any two map
orders on configurations that hold the same entries, both fail or both succeed with
configurations that hold the same entries.

Owns: `Config.Same`, one agreement lemma per stage, and their composition.

Does not own: which error a failing run returns. A loop over a map returns the error of the
first entry that fails, and which entry comes first is the order's choice; the last section
shows two orders that report different errors.
-/

set_option autoImplicit false

namespace ProwJobConfig

variable {Regexp DecorationConfig : Type}

/-- Two configurations are one Go value: the same settings and Spyglass config, and job maps
with the same entries. -/
structure Config.Same (c₁ c₂ : Config Regexp DecorationConfig) : Prop where
  jobs : JobConfig.Same c₁.toJobConfig c₂.toJobConfig
  settings : c₁.toProwConfig = c₂.toProwConfig
  spyglass : c₁.spyglass = c₂.spyglass

theorem JobConfig.Same.refl (jc : JobConfig Regexp DecorationConfig) : JobConfig.Same jc jc :=
  ⟨rfl, .refl _, .refl _, rfl, .refl _⟩

theorem Config.Same.refl (c : Config Regexp DecorationConfig) : c.Same c :=
  ⟨.refl _, rfl, rfl⟩

/-! ## Merging fragments -/

/-- The `label:value` strings of the duplicate check are the same in every order, up to
their sequence. -/
theorem presetPairs_perm (order₁ order₂ : MapOrder) (presets : List Preset) :
    (presetPairs order₁ presets).Perm (presetPairs order₂ presets) :=
  List.Perm.flatMap_left _ fun preset _ =>
    ((order₁.enumerate_perm _ preset.labels).trans
      (order₂.enumerate_perm _ preset.labels).symm).map _

theorem mergeJobConfigs_agree (order₁ order₂ : MapOrder)
    {a₁ a₂ b₁ b₂ : JobConfig Regexp DecorationConfig}
    (as : JobConfig.Same a₁ a₂) (bs : JobConfig.Same b₁ b₂) :
    Except.Agree JobConfig.Same (mergeJobConfigs order₁ a₁ b₁) (mergeJobConfigs order₂ a₂ b₂) := by
  refine .of_iff ?_ fun m₁ m₂ merged₁ merged₂ => ?_
  · rw [mergeJobConfigs_succeeds_iff, mergeJobConfigs_succeeds_iff, as.presets, bs.presets]
    exact (presetPairs_perm order₁ order₂ _).nodup_iff
  obtain ⟨presets₁, presubmits₁, postsubmits₁, periodics₁, allRepos₁⟩ := mergeJobConfigs_ok merged₁
  obtain ⟨presets₂, presubmits₂, postsubmits₂, periodics₂, allRepos₂⟩ := mergeJobConfigs_ok merged₂
  refine ⟨by rw [presets₁, presets₂, as.presets, bs.presets], fun repo => ?_, fun repo => ?_,
    by rw [periodics₁, periodics₂, as.periodics, bs.periodics],
    by rw [allRepos₁, allRepos₂]; exact .refl _⟩
  · rw [presubmits₁, presubmits₂, as.presubmits repo, bs.presubmits repo]
  · rw [postsubmits₁, postsubmits₂, as.postsubmits repo, bs.postsubmits repo]

theorem setSourcePath_same (order₁ order₂ : MapOrder) (path : String)
    {jc₁ jc₂ : JobConfig Regexp DecorationConfig} (same : JobConfig.Same jc₁ jc₂) :
    JobConfig.Same (jc₁.setSourcePath order₁ path) (jc₂.setSourcePath order₂ path) :=
  ⟨same.presets, GoMap.rangeUpdate_same order₁ order₂ _ same.presubmits same.presubmits,
    GoMap.rangeUpdate_same order₁ order₂ _ same.postsubmits same.postsubmits,
    congrArg (List.map _) same.periodics, same.allRepos⟩

theorem readJobConfigFiles_agree (order₁ order₂ : MapOrder) :
    ∀ (files : List (String × JobConfig Regexp DecorationConfig)) (names : GoMap Unit)
      {jc₁ jc₂ : JobConfig Regexp DecorationConfig}, JobConfig.Same jc₁ jc₂ →
      Except.Agree JobConfig.Same (readJobConfigFiles order₁ names jc₁ files)
        (readJobConfigFiles order₂ names jc₂ files)
  | [], _, _, _, same => same
  | (path, fragment) :: rest, names, jc₁, jc₂, same => by
      simp only [readJobConfigFiles]
      split
      · trivial
      exact Except.Agree.bind
        (mergeJobConfigs_agree order₁ order₂ same (setSourcePath_same order₁ order₂ path (.refl _)))
        fun _ _ merged => readJobConfigFiles_agree order₁ order₂ rest _ merged

theorem readJobConfig_agree (order₁ order₂ : MapOrder) (source : JobConfigPath Regexp DecorationConfig) :
    Except.Agree JobConfig.Same (readJobConfig order₁ source) (readJobConfig order₂ source) := by
  cases source with
  | file path document => exact setSourcePath_same order₁ order₂ path (.refl document)
  | dir files => exact readJobConfigFiles_agree order₁ order₂ files ∅ (.refl {})

theorem mergeJobConfig_agree (order₁ order₂ : MapOrder) {c₁ c₂ : Config Regexp DecorationConfig}
    {jc₁ jc₂ : JobConfig Regexp DecorationConfig} (same : c₁.Same c₂)
    (fragments : JobConfig.Same jc₁ jc₂) :
    Except.Agree Config.Same (c₁.mergeJobConfig order₁ jc₁) (c₂.mergeJobConfig order₂ jc₂) :=
  Except.Agree.bind (mergeJobConfigs_agree order₁ order₂
      ⟨same.jobs.presets, same.jobs.presubmits, same.jobs.postsubmits, same.jobs.periodics, .refl _⟩
      fragments)
    fun _ _ merged => ⟨⟨merged.presets, merged.presubmits, merged.postsubmits, merged.periodics,
      same.jobs.allRepos⟩, same.settings, same.spyglass⟩

/-- The end of `loadConfig` agrees with itself in every order, with or without a job-config
path. -/
theorem loadJobConfig_agree (order₁ order₂ : MapOrder) (c : Config Regexp DecorationConfig)
    (jobConfig : Option (JobConfigPath Regexp DecorationConfig)) :
    Except.Agree Config.Same (c.loadJobConfig order₁ jobConfig) (c.loadJobConfig order₂ jobConfig) := by
  cases jobConfig with
  | none => exact .refl c
  | some source =>
      exact (readJobConfig_agree order₁ order₂ source).bind fun _ _ fragments =>
        mergeJobConfig_agree order₁ order₂ (.refl c) fragments

/-! ## `finalizeJobConfig` -/

theorem JobConfig.Same.decorationRequested {c₁ c₂ : JobConfig Regexp DecorationConfig}
    (same : JobConfig.Same c₁ c₂) : c₁.decorationRequested = c₂.decorationRequested := by
  unfold JobConfig.decorationRequested
  rw [GoMap.any_pairs_eq_of_rel (fun key => GoMap.rel_eq (same.presubmits key))
      fun _ _ _ equal => congrArg (List.any · (·.decorate)) equal,
    GoMap.any_pairs_eq_of_rel (fun key => GoMap.rel_eq (same.postsubmits key))
      fun _ _ _ equal => congrArg (List.any · (·.decorate)) equal,
    same.periodics]

theorem setPeriodicDecorationDefaults_congr (lib : Library Regexp DecorationConfig)
    {c₁ c₂ : Config Regexp DecorationConfig} (plank : c₁.plank = c₂.plank) :
    setPeriodicDecorationDefaults lib c₁ = setPeriodicDecorationDefaults lib c₂ := by
  funext job
  simp only [setPeriodicDecorationDefaults, setDecorationDefaults, plank]

theorem settleDecorationDefaults_agree (lib : Library Regexp DecorationConfig)
    {c₁ c₂ : Config Regexp DecorationConfig} (same : c₁.Same c₂) :
    Except.Agree Config.Same (c₁.settleDecorationDefaults lib) (c₂.settleDecorationDefaults lib) := by
  have plank : c₁.plank = c₂.plank := congrArg ProwConfig.plank same.settings
  unfold Config.settleDecorationDefaults
  rw [← plank]
  refine Except.Agree.bind_left fun ⟨configs, wildcard⟩ => ?_
  dsimp only
  cases lib.validate wildcard with
  | error err => trivial
  | ok passed =>
      refine ⟨⟨same.jobs.presets, same.jobs.presubmits, same.jobs.postsubmits, ?_,
        same.jobs.allRepos⟩, by rw [same.settings], same.spyglass⟩
      show List.map _ c₁.periodics = List.map _ c₂.periodics
      rw [same.jobs.periodics]
      exact congrArg (List.map · c₂.periodics) (setPeriodicDecorationDefaults_congr lib rfl)

section Congruence

variable (lib : Library Regexp DecorationConfig) {c₁ c₂ : Config Regexp DecorationConfig}
  (presets : c₁.presets = c₂.presets) (settings : c₁.toProwConfig = c₂.toProwConfig)
include presets settings

/-- The per-repository defaulting reads the presets and the settings, not the job maps. -/
theorem defaultPresubmits_congr (jobs : List (Presubmit Regexp DecorationConfig)) (repo : String) :
    defaultPresubmits lib jobs c₁ repo = defaultPresubmits lib jobs c₂ repo := by
  unfold defaultPresubmits decoratePresubmit setPresubmitDecorationDefaults setDecorationDefaults
  rw [presets, settings]

theorem defaultPostsubmits_congr (jobs : List (Postsubmit Regexp DecorationConfig)) (repo : String) :
    defaultPostsubmits lib jobs c₁ repo = defaultPostsubmits lib jobs c₂ repo := by
  unfold defaultPostsubmits decoratePostsubmit setPostsubmitDecorationDefaults setDecorationDefaults
  rw [presets, settings]

theorem defaultPeriodics_congr (periodics : List (Periodic DecorationConfig)) :
    defaultPeriodics periodics c₁ = defaultPeriodics periodics c₂ := by
  unfold defaultPeriodics
  rw [presets, settings]

end Congruence

theorem finalizeJobConfig_agree (lib : Library Regexp DecorationConfig) (order₁ order₂ : MapOrder)
    {c₁ c₂ : Config Regexp DecorationConfig} (same : c₁.Same c₂) :
    Except.Agree Config.Same (c₁.finalizeJobConfig lib order₁) (c₂.finalizeJobConfig lib order₂) := by
  have settled : Except.Agree Config.Same
      (if c₁.decorationRequested then c₁.settleDecorationDefaults lib else pure c₁)
      (if c₂.decorationRequested then c₂.settleDecorationDefaults lib else pure c₂) := by
    rw [same.jobs.decorationRequested]
    split
    · exact settleDecorationDefaults_agree lib same
    · exact same
  unfold Config.finalizeJobConfig
  refine settled.bind fun s₁ s₂ sameSettled => ?_
  have presets := sameSettled.jobs.presets
  have settings := sameSettled.settings
  simp only [defaultPresubmits_congr lib presets settings, defaultPostsubmits_congr lib presets settings,
    defaultPeriodics_congr presets settings]
  refine (GoMap.rangeUpdateM_agree order₁ order₂ _ sameSettled.jobs.presubmits).bind
    fun _ _ samePresubmits => (GoMap.rangeUpdateM_agree order₁ order₂ _
      sameSettled.jobs.postsubmits).bind fun _ _ samePostsubmits => ?_
  rw [← sameSettled.jobs.periodics]
  refine Except.Agree.bind_left fun periodics =>
    ⟨⟨presets, samePresubmits, samePostsubmits, rfl, GoMap.same_of_mem_iff fun repo => ?_⟩, settings,
      sameSettled.spyglass⟩
  rw [GoMap.mem_foldl_insert, GoMap.mem_foldl_insert]
  simp only [List.mem_append, MapOrder.key_mem_enumerate, ← AList.lookup_isSome,
    sameSettled.jobs.presubmits repo, sameSettled.jobs.postsubmits repo,
    sameSettled.jobs.allRepos repo]

/-! ## `validateJobConfig` -/

section Orders

variable (lib : Library Regexp DecorationConfig) (order₁ order₂ : MapOrder) (podNamespace : String)

/-- Whether a job passes its checks does not depend on the order its labels are visited in;
only the reported label does. -/
theorem validateJobBase_ok_iff_orders (v : JobBase DecorationConfig) (jobType : ProwJobType) :
    validateJobBase lib order₁ v jobType podNamespace = .ok () ↔
      validateJobBase lib order₂ v jobType podNamespace = .ok () := by
  rw [validateJobBase_eq_ok_iff, validateJobBase_eq_ok_iff]

theorem validatePresubmits_ok_iff_orders (jobs : List (Presubmit Regexp DecorationConfig)) :
    validatePresubmits lib order₁ jobs podNamespace = .ok () ↔
      validatePresubmits lib order₂ jobs podNamespace = .ok () := by
  simp only [validatePresubmits, validateBranchJobs_empty_eq_ok_iff,
    validateJobBase_ok_iff_orders lib order₁ order₂]

theorem validatePostsubmits_ok_iff_orders (jobs : List (Postsubmit Regexp DecorationConfig)) :
    validatePostsubmits lib order₁ jobs podNamespace = .ok () ↔
      validatePostsubmits lib order₂ jobs podNamespace = .ok () := by
  simp only [validatePostsubmits, validateBranchJobs_empty_eq_ok_iff,
    validateJobBase_ok_iff_orders lib order₁ order₂]

theorem validatePeriodics_ok_iff_orders (periodics : List (Periodic DecorationConfig)) :
    validatePeriodics lib order₁ periodics podNamespace = .ok () ↔
      validatePeriodics lib order₂ periodics podNamespace = .ok () := by
  simp only [validatePeriodics, validatePeriodicsFrom_eq_ok_iff,
    validateJobBase_ok_iff_orders lib order₁ order₂]

end Orders

theorem validateJobConfig_agree (lib : Library Regexp DecorationConfig) (order₁ order₂ : MapOrder)
    {c₁ c₂ : Config Regexp DecorationConfig} (same : c₁.Same c₂) :
    Except.Agree Config.Same (c₁.validateJobConfig lib order₁) (c₂.validateJobConfig lib order₂) := by
  have podNamespace : c₁.podNamespace = c₂.podNamespace :=
    congrArg ProwConfig.podNamespace same.settings
  have presubmits : ∀ repo, c₁.presubmits.lookup repo = c₂.presubmits.lookup repo :=
    same.jobs.presubmits
  have postsubmits : ∀ repo, c₁.postsubmits.lookup repo = c₂.postsubmits.lookup repo :=
    same.jobs.postsubmits
  unfold Config.validateJobConfig
  refine (Except.Agree.of_checks ?_).bind fun _ _ _ => (Except.Agree.of_checks ?_).bind
    fun _ _ _ => (Except.Agree.of_checks ?_).bind fun _ _ _ => ?_
  · simp only [forM_enumerate_eq_ok_iff, presubmits, podNamespace,
      validatePresubmits_ok_iff_orders lib order₁ order₂]
  · simp only [forM_enumerate_eq_ok_iff, postsubmits, podNamespace,
      validatePostsubmits_ok_iff_orders lib order₁ order₂]
  · rw [validatePeriodics_ok_iff_orders lib order₁ order₂, same.jobs.periodics, podNamespace]
  · rw [same.jobs.periodics]
    exact Except.Agree.bind_left fun periodics =>
      ⟨⟨same.jobs.presets, same.jobs.presubmits, same.jobs.postsubmits, rfl, same.jobs.allRepos⟩,
        same.settings, same.spyglass⟩

/-! ## The whole job resolution -/

/-- **The job resolution does not depend on the map order, up to its error.** Reading the
fragments of a job-config path, if there is one, merging them into a configuration,
`finalizeJobConfig` and `validateJobConfig`, run under any two map orders, both fail, or both
succeed with configurations that hold the same entries. -/
theorem jobResolution_order_independent (lib : Library Regexp DecorationConfig)
    (c : Config Regexp DecorationConfig) (jobConfig : Option (JobConfigPath Regexp DecorationConfig))
    (order₁ order₂ : MapOrder) :
    Except.Agree Config.Same
      (c.loadJobConfig order₁ jobConfig >>= (·.finalizeJobConfig lib order₁) >>=
        (·.validateJobConfig lib order₁))
      (c.loadJobConfig order₂ jobConfig >>= (·.finalizeJobConfig lib order₂) >>=
        (·.validateJobConfig lib order₂)) :=
  ((loadJobConfig_agree order₁ order₂ c jobConfig).bind fun _ _ merged =>
    finalizeJobConfig_agree lib order₁ order₂ merged).bind fun _ _ finalized =>
  validateJobConfig_agree lib order₁ order₂ finalized

/-- Two repositories, each with a presubmit whose `max_concurrency` is negative. -/
def negativeConcurrencyRepos : Config Unit Unit :=
  { presubmits := GoMap.ofPairs
      [("org/a", [{ name := "a", maxConcurrency := -1, spec := some { containers := [{}] } }]),
        ("org/b", [{ name := "b", maxConcurrency := -1, spec := some { containers := [{}] } }])]
    podNamespace := "default" }

theorem jobResolution_error_depends_on_order :
    (readJobConfig MapOrder.stored (.dir []) >>=
        negativeConcurrencyRepos.mergeJobConfig MapOrder.stored >>=
        (·.finalizeJobConfig acceptingLibrary MapOrder.stored) >>=
        (·.validateJobConfig acceptingLibrary MapOrder.stored)) =
      .error "invalid presubmit job a: max_concurrency: -1 must be a non-negative number" ∧
    (readJobConfig MapOrder.reversed (.dir []) >>=
        negativeConcurrencyRepos.mergeJobConfig MapOrder.reversed >>=
        (·.finalizeJobConfig acceptingLibrary MapOrder.reversed) >>=
        (·.validateJobConfig acceptingLibrary MapOrder.reversed)) =
      .error "invalid presubmit job b: max_concurrency: -1 must be a non-negative number" :=
  ⟨rfl, rfl⟩

end ProwJobConfig
