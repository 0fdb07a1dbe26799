import ProwJobConfig.Merge

/-!
Contract: the Default Cascade, the Decoration Default Resolver, the Preset Resolver and the
Match-Structure Compiler of `config.go`, assembled into `finalizeJobConfig`.

Owns:
- the field defaults of every job kind (`defaultJobBase`, `defaultPresubmitFields`, ...),
  the default trigger and rerun command;
- the precedence chain of `Plank.GetDefaultDecorationConfigs` and the three decoration
  setters;
- the regex compilation of triggers, branches and change filters;
- `finalizeJobConfig`, with one spec lemma saying what a successful run leaves in every job.

Does not own: validation, which `validateJobConfig` does after this stage.
-/

set_option autoImplicit false

namespace ProwJobConfig

variable {Regexp DecorationConfig : Type}

/-! ## Field defaults -/

/-- `(c *ProwConfig) defaultJobBase`: agent, namespace and cluster. -/
def ProwConfig.defaultJobBase (c : ProwConfig DecorationConfig)
    (base : JobBase DecorationConfig) : JobBase DecorationConfig :=
  { base with
    agent := if base.agent = "" then kubernetesAgent else base.agent
    jobNamespace :=
      match base.jobNamespace with
      | some jobNamespace => if jobNamespace = "" then some c.podNamespace else some jobNamespace
      | none => some c.podNamespace
    cluster := if base.cluster = "" then "default" else base.cluster }

/-- `DefaultTriggerFor(name)`: the job name is spliced into the pattern as it is. -/
def defaultTriggerFor (name : String) : String :=
  "(?m)^/test( | .* )" ++ name ++ ",?($|\\s.*)"

/-- `DefaultRerunCommandFor(name)`. -/
def defaultRerunCommandFor (name : String) : String :=
  "/test " ++ name

/-- One iteration of `defaultPresubmitFields`. -/
def ProwConfig.defaultPresubmitField (c : ProwConfig DecorationConfig)
    (job : Presubmit Regexp DecorationConfig) : Presubmit Regexp DecorationConfig :=
  let job := { job with toJobBase := c.defaultJobBase job.toJobBase }
  let job := { job with context := if job.context = "" then job.name else job.context }
  if job.trigger = "" ∧ job.rerunCommand = "" then
    { job with trigger := defaultTriggerFor job.name,
               rerunCommand := defaultRerunCommandFor job.name }
  else job

/-- `(c *ProwConfig) defaultPresubmitFields(js)`. -/
def ProwConfig.defaultPresubmitFields (c : ProwConfig DecorationConfig)
    (js : List (Presubmit Regexp DecorationConfig)) : List (Presubmit Regexp DecorationConfig) :=
  js.map c.defaultPresubmitField

/-- One iteration of `defaultPostsubmitFields`. -/
def ProwConfig.defaultPostsubmitField (c : ProwConfig DecorationConfig)
    (job : Postsubmit Regexp DecorationConfig) : Postsubmit Regexp DecorationConfig :=
  let job := { job with toJobBase := c.defaultJobBase job.toJobBase }
  { job with context := if job.context = "" then job.name else job.context }

/-- `(c *ProwConfig) defaultPostsubmitFields(js)`. -/
def ProwConfig.defaultPostsubmitFields (c : ProwConfig DecorationConfig)
    (js : List (Postsubmit Regexp DecorationConfig)) : List (Postsubmit Regexp DecorationConfig) :=
  js.map c.defaultPostsubmitField

/-- `(c *ProwConfig) defaultPeriodicFields(js)`. -/
def ProwConfig.defaultPeriodicFields (c : ProwConfig DecorationConfig)
    (js : List (Periodic DecorationConfig)) : List (Periodic DecorationConfig) :=
  js.map fun job => { job with toJobBase := c.defaultJobBase job.toJobBase }

/-! ## Decoration defaults -/

/-- `strings.Split(s, "/")[0]`: the text before the first `/`, or all of `s`. -/
def orgOf (repo : String) : String :=
  String.mk (repo.toList.takeWhile (· ≠ '/'))

/-- `Plank.GetDefaultDecorationConfigs(repo)`: the `org/repo` entry, else the `org` entry,
each merged over the wildcard `*`, else the wildcard itself. -/
def Plank.getDefaultDecorationConfigs (lib : Library Regexp DecorationConfig)
    (p : Plank DecorationConfig) (repo : String) : Option DecorationConfig :=
  let wildcard := (p.defaultDecorationConfigs.lookup "*").join
  match p.defaultDecorationConfigs.lookup repo with
  | some dcByRepo => lib.applyDefault dcByRepo wildcard
  | none =>
      match p.defaultDecorationConfigs.lookup (orgOf repo) with
      | some dcByOrg => lib.applyDefault dcByOrg wildcard
      | none => wildcard

/-- The common body of the three decoration setters: a decorated job's own config is merged
over the default of `repo`. -/
def setDecorationDefaults (lib : Library Regexp DecorationConfig)
    (c : Config Regexp DecorationConfig) (job : JobBase DecorationConfig) (repo : String) :
    JobBase DecorationConfig :=
  if job.decorate then
    { job with decorationConfig :=
        lib.applyDefault job.decorationConfig (c.plank.getDefaultDecorationConfigs lib repo) }
  else job

section DecorationSteps

variable (lib : Library Regexp DecorationConfig) (c : Config Regexp DecorationConfig)
  (job : JobBase DecorationConfig) (repo : String)

@[simp] theorem setDecorationDefaults_decorate :
    (setDecorationDefaults lib c job repo).decorate = job.decorate := by
  unfold setDecorationDefaults; split <;> rfl

@[simp] theorem setDecorationDefaults_name :
    (setDecorationDefaults lib c job repo).name = job.name := by
  unfold setDecorationDefaults; split <;> rfl

end DecorationSteps

/-- `setPresubmitDecorationDefaults(c, ps, repo)`. -/
def setPresubmitDecorationDefaults (lib : Library Regexp DecorationConfig)
    (c : Config Regexp DecorationConfig) (ps : Presubmit Regexp DecorationConfig)
    (repo : String) : Presubmit Regexp DecorationConfig :=
  { ps with toJobBase := setDecorationDefaults lib c ps.toJobBase repo }

/-- `setPostsubmitDecorationDefaults(c, ps, repo)`. -/
def setPostsubmitDecorationDefaults (lib : Library Regexp DecorationConfig)
    (c : Config Regexp DecorationConfig) (ps : Postsubmit Regexp DecorationConfig)
    (repo : String) : Postsubmit Regexp DecorationConfig :=
  { ps with toJobBase := setDecorationDefaults lib c ps.toJobBase repo }

/-- `setPeriodicDecorationDefaults`: the repository is that of the first extra ref, and the
empty string when there is none. -/
def setPeriodicDecorationDefaults (lib : Library Regexp DecorationConfig)
    (c : Config Regexp DecorationConfig) (job : Periodic DecorationConfig) :
    Periodic DecorationConfig :=
  let orgRepo :=
    match job.extraRefs with
    | ref :: _ => ref.org ++ "/" ++ ref.repo
    | [] => ""
  { job with toJobBase := setDecorationDefaults lib c job.toJobBase orgRepo }

/-- `(c *JobConfig) decorationRequested()`: some job of any kind has `decorate` set. The
loops only look for one such job, so the order they visit the maps in does not matter. -/
def JobConfig.decorationRequested (c : JobConfig Regexp DecorationConfig) : Bool :=
  c.presubmits.pairs.any (fun entry => entry.2.any (·.decorate)) ||
    c.postsubmits.pairs.any (fun entry => entry.2.any (·.decorate)) ||
    c.periodics.any (·.decorate)

/-! ## Presets -/

/-- Modelled from the spec: `mergePreset`, declared outside `config.go` (§4.4). When the
job's labels hold every pair the preset requires, the preset's environment entries are
appended to each container and its volumes to the pod, skipping a volume whose name the pod
already has. The spec names no failure, and a preset that does not match is not one. -/
def mergePreset (preset : Preset) (labels : GoMap String) (spec : PodSpec) :
    Except String PodSpec :=
  if preset.labels.pairs.all fun required => labels.lookup required.1 = some required.2 then
    .ok { spec with
      containers := spec.containers.map fun container =>
        { container with env := container.env ++ preset.env }
      volumes := preset.volumes.foldl
        (fun volumes volume =>
          if volumes.any (·.name = volume.name) then volumes else volumes ++ [volume])
        spec.volumes }
  else .ok spec

/-- `resolvePresets(name, labels, spec, presets)`: merge every preset into a job's pod spec,
in preset order; a job without a spec is left alone. -/
def resolvePresets (name : String) (labels : GoMap String) (spec : Option PodSpec)
    (presets : List Preset) : Except String (Option PodSpec) :=
  match spec with
  | none => .ok none
  | some spec =>
      match presets.foldlM (fun spec preset => mergePreset preset labels spec) spec with
      | .error err => .error s!"job {name} failed to merge presets for podspec: {err}"
      | .ok merged => .ok (some merged)

/-! ## Regexes -/

/-- `setBrancherRegexes(br)`: the branch lists joined by `|` and compiled. -/
def setBrancherRegexes (lib : Library Regexp DecorationConfig) (br : Brancher Regexp) :
    Except String (Brancher Regexp) := do
  let br ← if br.branches.length > 0 then
      match lib.compile ("|".intercalate br.branches) with
      | .ok re => pure { br with re := some re }
      | .error err => .error s!"could not compile positive branch regex: {err}"
    else pure br
  if br.skipBranches.length > 0 then
    match lib.compile ("|".intercalate br.skipBranches) with
    | .ok re => pure { br with reSkip := some re }
    | .error err => .error s!"could not compile negative branch regex: {err}"
  else pure br

/-- `setChangeRegexes(cm)`. -/
def setChangeRegexes (lib : Library Regexp DecorationConfig) (cm : RegexpChangeMatcher Regexp) :
    Except String (RegexpChangeMatcher Regexp) :=
  if cm.runIfChanged ≠ "" then
    match lib.compile cm.runIfChanged with
    | .ok re => .ok { cm with reChanges := some re }
    | .error err => .error s!"could not compile run_if_changed regex: {err}"
  else .ok cm

/-- The loop body of `SetPresubmitRegexes` for one job: compile the trigger, check that it
matches the rerun command, then compile the branch and change patterns. -/
def setPresubmitRegex (lib : Library Regexp DecorationConfig)
    (j : Presubmit Regexp DecorationConfig) : Except String (Presubmit Regexp DecorationConfig) :=
  match lib.compile j.trigger with
  | .error err => .error s!"could not compile trigger regex for {j.name}: {err}"
  | .ok re =>
      if !lib.matchString re j.rerunCommand then
        .error s!"for job {j.name}, rerun command \"{j.rerunCommand}\" does not match trigger \"{j.trigger}\""
      else
        match setBrancherRegexes lib j.brancher with
        | .error err => .error s!"could not set branch regexes for {j.name}: {err}"
        | .ok b =>
            match setChangeRegexes lib j.regexpChangeMatcher with
            | .error err => .error s!"could not set change regexes for {j.name}: {err}"
            | .ok c => .ok { j with re := some re, brancher := b, regexpChangeMatcher := c }

/-- `SetPresubmitRegexes(js)`. -/
def setPresubmitRegexes (lib : Library Regexp DecorationConfig)
    (js : List (Presubmit Regexp DecorationConfig)) :
    Except String (List (Presubmit Regexp DecorationConfig)) :=
  js.mapM (setPresubmitRegex lib)

/-- The loop body of `SetPostsubmitRegexes` for one job. -/
def setPostsubmitRegex (lib : Library Regexp DecorationConfig)
    (j : Postsubmit Regexp DecorationConfig) : Except String (Postsubmit Regexp DecorationConfig) :=
  match setBrancherRegexes lib j.brancher with
  | .error err => .error s!"could not set branch regexes for {j.name}: {err}"
  | .ok b =>
      match setChangeRegexes lib j.regexpChangeMatcher with
      | .error err => .error s!"could not set change regexes for {j.name}: {err}"
      | .ok c => .ok { j with brancher := b, regexpChangeMatcher := c }

/-- `SetPostsubmitRegexes(ps)`. -/
def setPostsubmitRegexes (lib : Library Regexp DecorationConfig)
    (ps : List (Postsubmit Regexp DecorationConfig)) :
    Except String (List (Postsubmit Regexp DecorationConfig)) :=
  ps.mapM (setPostsubmitRegex lib)

/-! ## Per-repository defaulting -/

/-- The first loop of `defaultPresubmits` for one job: decoration defaults, then presets. -/
def decoratePresubmit (lib : Library Regexp DecorationConfig) (c : Config Regexp DecorationConfig)
    (repo : String) (ps : Presubmit Regexp DecorationConfig) :
    Except String (Presubmit Regexp DecorationConfig) := do
  let decorated := setPresubmitDecorationDefaults lib c ps repo
  let spec ← resolvePresets ps.name ps.labels ps.spec c.presets
  pure { decorated with spec := spec }

/-- `defaultPresubmits(presubmits, c, repo)`: the presubmits of one repository. -/
def defaultPresubmits (lib : Library Regexp DecorationConfig)
    (presubmits : List (Presubmit Regexp DecorationConfig)) (c : Config Regexp DecorationConfig)
    (repo : String) : Except String (List (Presubmit Regexp DecorationConfig)) := do
  let presubmits ← presubmits.mapM (decoratePresubmit lib c repo)
  match setPresubmitRegexes lib (c.defaultPresubmitFields presubmits) with
  | .error err => .error s!"could not set regex: {err}"
  | .ok compiled => pure compiled

/-- The first loop of `defaultPostsubmits` for one job. -/
def decoratePostsubmit (lib : Library Regexp DecorationConfig) (c : Config Regexp DecorationConfig)
    (repo : String) (ps : Postsubmit Regexp DecorationConfig) :
    Except String (Postsubmit Regexp DecorationConfig) := do
  let decorated := setPostsubmitDecorationDefaults lib c ps repo
  let spec ← resolvePresets ps.name ps.labels ps.spec c.presets
  pure { decorated with spec := spec }

/-- `defaultPostsubmits(postsubmits, c, repo)`. -/
def defaultPostsubmits (lib : Library Regexp DecorationConfig)
    (postsubmits : List (Postsubmit Regexp DecorationConfig)) (c : Config Regexp DecorationConfig)
    (repo : String) : Except String (List (Postsubmit Regexp DecorationConfig)) := do
  let postsubmits ← postsubmits.mapM (decoratePostsubmit lib c repo)
  match setPostsubmitRegexes lib (c.defaultPostsubmitFields postsubmits) with
  | .error err => .error s!"could not set regex: {err}"
  | .ok compiled => pure compiled

/-- `defaultPeriodics(periodics, c)`: field defaults, then presets. -/
def defaultPeriodics (periodics : List (Periodic DecorationConfig))
    (c : Config Regexp DecorationConfig) : Except String (List (Periodic DecorationConfig)) :=
  (c.defaultPeriodicFields periodics).mapM fun periodic => do
    let spec ← resolvePresets periodic.name periodic.labels periodic.spec c.presets
    pure { periodic with spec := spec }

/-! ## `finalizeJobConfig` -/

/-- The checks that open the decoration block of `finalizeJobConfig`: the deprecated single
config becomes the wildcard entry unless a map of configs is given too, and the map must be
non-empty and hold the wildcard. Returns the map and its wildcard entry. -/
def Plank.settleDecorationConfigs (p : Plank DecorationConfig) :
    Except String (GoMap (Option DecorationConfig) × Option DecorationConfig) :=
  (match p.defaultDecorationConfig with
    | some deprecated =>
        if p.defaultDecorationConfigs.entries.length > 0 then
          .error "both default_decoration_config and default_decoration_configs are specified"
        else .ok ((∅ : GoMap (Option DecorationConfig)).insert "*" (some deprecated))
    | none => .ok p.defaultDecorationConfigs) >>= fun configs =>
  if configs.entries.length = 0 then
    .error "both default_decoration_config and default_decoration_configs[\x27*\x27] are missing"
  else
    match configs.lookup "*" with
    | none => .error "default_decoration_configs[\x27*\x27] is missing"
    | some wildcard => .ok (configs, wildcard)

/-- The block of `finalizeJobConfig` that runs when some job requests decoration: settle the
default decoration configs, validate the wildcard, decorate the periodics. -/
def Config.settleDecorationDefaults (lib : Library Regexp DecorationConfig)
    (c : Config Regexp DecorationConfig) : Except String (Config Regexp DecorationConfig) := do
  let (configs, wildcard) ← c.plank.settleDecorationConfigs
  match lib.validate wildcard with
  | .error err => .error s!"decoration config validation error: {err}"
  | .ok () =>
      let c := { c with plank := { c.plank with defaultDecorationConfigs := configs } }
      pure { c with periodics := c.periodics.map (setPeriodicDecorationDefaults lib c) }

/-- `(c *Config) finalizeJobConfig()`. The repositories are defaulted in the map's order and
the first failure is returned; `allRepos` gains every repository with jobs. -/
def Config.finalizeJobConfig (lib : Library Regexp DecorationConfig) (order : MapOrder)
    (c : Config Regexp DecorationConfig) : Except String (Config Regexp DecorationConfig) := do
  let c ← (if c.decorationRequested then c.settleDecorationDefaults lib else pure c)
  let presubmits ← GoMap.rangeUpdateM (fun repo jobs => defaultPresubmits lib jobs c repo)
    c.presubmits (order.enumerate .finalizePresubmits c.presubmits)
  let postsubmits ← GoMap.rangeUpdateM (fun repo jobs => defaultPostsubmits lib jobs c repo)
    c.postsubmits (order.enumerate .finalizePostsubmits c.postsubmits)
  let allRepos := ((order.enumerate .finalizePresubmits c.presubmits).map Prod.fst ++
    (order.enumerate .finalizePostsubmits c.postsubmits).map Prod.fst).foldl (fun repos repo => repos.insert repo ())
    c.allRepos
  let periodics ← defaultPeriodics c.periodics c
  pure { c with presubmits := presubmits, postsubmits := postsubmits, allRepos := allRepos,
                periodics := periodics }

/-! ## What each step does to one job -/

section Steps

variable (c : ProwConfig DecorationConfig) (base : JobBase DecorationConfig)

@[simp] theorem defaultJobBase_name : (c.defaultJobBase base).name = base.name := rfl
@[simp] theorem defaultJobBase_labels : (c.defaultJobBase base).labels = base.labels := rfl
@[simp] theorem defaultJobBase_decorate : (c.defaultJobBase base).decorate = base.decorate := rfl
@[simp] theorem defaultJobBase_decorationConfig :
    (c.defaultJobBase base).decorationConfig = base.decorationConfig := rfl

theorem defaultTriggerFor_ne_empty (name : String) : defaultTriggerFor name ≠ "" := by
  intro empty
  have lengths := congrArg String.length empty
  simp [defaultTriggerFor, String.length_append] at lengths
  exact absurd lengths.1.1 (by decide)

variable (job : Presubmit Regexp DecorationConfig)

theorem defaultPresubmitField_unset (unset : job.trigger = "" ∧ job.rerunCommand = "") :
    (c.defaultPresubmitField job).trigger = defaultTriggerFor job.name ∧
      (c.defaultPresubmitField job).rerunCommand = defaultRerunCommandFor job.name := by
  unfold ProwConfig.defaultPresubmitField
  dsimp only
  rw [if_pos unset]
  exact ⟨rfl, rfl⟩

theorem defaultPresubmitField_set (set : ¬ (job.trigger = "" ∧ job.rerunCommand = "")) :
    (c.defaultPresubmitField job).trigger = job.trigger ∧
      (c.defaultPresubmitField job).rerunCommand = job.rerunCommand := by
  unfold ProwConfig.defaultPresubmitField
  dsimp only
  rw [if_neg set]
  exact ⟨rfl, rfl⟩

@[simp] theorem defaultPresubmitField_toJobBase :
    (c.defaultPresubmitField job).toJobBase = c.defaultJobBase job.toJobBase := by
  unfold ProwConfig.defaultPresubmitField
  dsimp only
  by_cases unset : job.trigger = "" ∧ job.rerunCommand = ""
  · rw [if_pos unset]
  · rw [if_neg unset]

/-- After defaulting, a presubmit never has both its trigger and its rerun command empty. -/
theorem defaultPresubmitField_triggered :
    ¬ ((c.defaultPresubmitField job).trigger = "" ∧
      (c.defaultPresubmitField job).rerunCommand = "") := by
  by_cases unset : job.trigger = "" ∧ job.rerunCommand = ""
  · rw [(defaultPresubmitField_unset c job unset).1]
    exact fun ⟨empty, _⟩ => defaultTriggerFor_ne_empty _ empty
  · rw [(defaultPresubmitField_set c job unset).1, (defaultPresubmitField_set c job unset).2]
    exact unset

end Steps

theorem setPresubmitRegex_ok {lib : Library Regexp DecorationConfig}
    {j j' : Presubmit Regexp DecorationConfig} (done : setPresubmitRegex lib j = .ok j') :
    ∃ re b cm, lib.compile j.trigger = .ok re ∧ lib.matchString re j.rerunCommand = true ∧
      setBrancherRegexes lib j.brancher = .ok b ∧
      setChangeRegexes lib j.regexpChangeMatcher = .ok cm ∧
      j' = { j with re := some re, brancher := b, regexpChangeMatcher := cm } := by
  unfold setPresubmitRegex at done
  split at done
  · cases done
  rename_i re compiled
  split at done
  · cases done
  rename_i matched
  split at done
  · cases done
  rename_i b branches
  split at done
  · cases done
  rename_i cm changes
  cases done
  exact ⟨re, b, cm, compiled, by simpa using matched, branches, changes, rfl⟩

theorem decoratePresubmit_ok {lib : Library Regexp DecorationConfig}
    {c : Config Regexp DecorationConfig} {repo : String} {j d : Presubmit Regexp DecorationConfig}
    (done : decoratePresubmit lib c repo j = .ok d) :
    ∃ spec, d = { setPresubmitDecorationDefaults lib c j repo with spec := spec } := by
  obtain ⟨spec, -, built⟩ := Except.bind_eq_ok.1 done
  exact ⟨spec, (Except.ok.inj built).symm⟩

/-- What `defaultPresubmits` does to one job of a repository: decoration and presets, field
defaults, then regex compilation. -/
def PresubmitDefaulted (lib : Library Regexp DecorationConfig) (c : Config Regexp DecorationConfig)
    (repo : String) (job result : Presubmit Regexp DecorationConfig) : Prop :=
  ∃ decorated, decoratePresubmit lib c repo job = .ok decorated ∧
    setPresubmitRegex lib (c.defaultPresubmitField decorated) = .ok result

theorem defaultPresubmits_ok {lib : Library Regexp DecorationConfig}
    {c : Config Regexp DecorationConfig} {repo : String}
    {jobs results : List (Presubmit Regexp DecorationConfig)}
    (done : defaultPresubmits lib jobs c repo = .ok results) :
    List.Forall₂ (PresubmitDefaulted lib c repo) jobs results := by
  obtain ⟨decorated, decoratedAll, compiled⟩ := Except.bind_eq_ok.1 done
  cases regexes : setPresubmitRegexes lib (c.defaultPresubmitFields decorated) with
  | error err => rw [regexes] at compiled; cases compiled
  | ok compiledJobs =>
      rw [regexes] at compiled
      cases compiled
      exact forall₂_comp_map ((List.mapM_except_eq_ok_iff _ _ _).1 decoratedAll)
        ((List.mapM_except_eq_ok_iff _ _ _).1 regexes)

/-- A finalized presubmit keeps its source job's decoration flag, has its trigger compiled
to a matcher that accepts its rerun command, and has no empty trigger-and-rerun pair. -/
theorem PresubmitDefaulted.facts {lib : Library Regexp DecorationConfig}
    {c : Config Regexp DecorationConfig} {repo : String} {job result : Presubmit Regexp DecorationConfig}
    (defaulted : PresubmitDefaulted lib c repo job result) :
    result.decorate = job.decorate ∧
      result.decorationConfig = (setDecorationDefaults lib c job.toJobBase repo).decorationConfig ∧
      result.name = job.name ∧
      (∃ re, result.re = some re ∧ lib.compile result.trigger = .ok re ∧
        lib.matchString re result.rerunCommand = true) ∧
      ¬ (result.trigger = "" ∧ result.rerunCommand = "") := by
  obtain ⟨decorated, decoratedOk, compiled⟩ := defaulted
  obtain ⟨spec, rfl⟩ := decoratePresubmit_ok decoratedOk
  obtain ⟨re, b, cm, compiles, rerunMatched, -, -, rfl⟩ := setPresubmitRegex_ok compiled
  refine ⟨?_, ?_, ?_, ⟨re, rfl, compiles, rerunMatched⟩, defaultPresubmitField_triggered _ _⟩ <;>
    simp [setPresubmitDecorationDefaults]

theorem setPostsubmitRegex_ok {lib : Library Regexp DecorationConfig}
    {j j' : Postsubmit Regexp DecorationConfig} (done : setPostsubmitRegex lib j = .ok j') :
    j'.toJobBase = j.toJobBase := by
  unfold setPostsubmitRegex at done
  split at done
  · cases done
  split at done
  · cases done
  cases done
  rfl

theorem decoratePostsubmit_ok {lib : Library Regexp DecorationConfig}
    {c : Config Regexp DecorationConfig} {repo : String} {j d : Postsubmit Regexp DecorationConfig}
    (done : decoratePostsubmit lib c repo j = .ok d) :
    ∃ spec, d = { setPostsubmitDecorationDefaults lib c j repo with spec := spec } := by
  obtain ⟨spec, -, built⟩ := Except.bind_eq_ok.1 done
  exact ⟨spec, (Except.ok.inj built).symm⟩

/-- What `defaultPostsubmits` does to one job of a repository. -/
def PostsubmitDefaulted (lib : Library Regexp DecorationConfig)
    (c : Config Regexp DecorationConfig) (repo : String)
    (job result : Postsubmit Regexp DecorationConfig) : Prop :=
  ∃ decorated, decoratePostsubmit lib c repo job = .ok decorated ∧
    setPostsubmitRegex lib (c.defaultPostsubmitField decorated) = .ok result

theorem defaultPostsubmits_ok {lib : Library Regexp DecorationConfig}
    {c : Config Regexp DecorationConfig} {repo : String}
    {jobs results : List (Postsubmit Regexp DecorationConfig)}
    (done : defaultPostsubmits lib jobs c repo = .ok results) :
    List.Forall₂ (PostsubmitDefaulted lib c repo) jobs results := by
  obtain ⟨decorated, decoratedAll, compiled⟩ := Except.bind_eq_ok.1 done
  cases regexes : setPostsubmitRegexes lib (c.defaultPostsubmitFields decorated) with
  | error err => rw [regexes] at compiled; cases compiled
  | ok compiledJobs =>
      rw [regexes] at compiled
      cases compiled
      exact forall₂_comp_map ((List.mapM_except_eq_ok_iff _ _ _).1 decoratedAll)
        ((List.mapM_except_eq_ok_iff _ _ _).1 regexes)

/-- A finalized postsubmit keeps its decoration flag and carries its decoration defaults. -/
theorem PostsubmitDefaulted.facts {lib : Library Regexp DecorationConfig}
    {c : Config Regexp DecorationConfig} {repo : String}
    {job result : Postsubmit Regexp DecorationConfig}
    (defaulted : PostsubmitDefaulted lib c repo job result) :
    result.decorate = job.decorate ∧
      result.decorationConfig = (setDecorationDefaults lib c job.toJobBase repo).decorationConfig ∧
      result.name = job.name := by
  obtain ⟨decorated, decoratedOk, compiled⟩ := defaulted
  obtain ⟨spec, rfl⟩ := decoratePostsubmit_ok decoratedOk
  rw [setPostsubmitRegex_ok compiled]
  refine ⟨?_, ?_, ?_⟩ <;>
    simp [ProwConfig.defaultPostsubmitField, setPostsubmitDecorationDefaults]

/-! ## What a successful `finalizeJobConfig` leaves -/

/-- The map the decoration block settles on is the one given, or the deprecated single config
under the wildcard when only that is given; its wildcard entry exists. -/
theorem Plank.settleDecorationConfigs_ok {p : Plank DecorationConfig}
    {configs : GoMap (Option DecorationConfig)} {wildcard : Option DecorationConfig}
    (done : p.settleDecorationConfigs = .ok (configs, wildcard)) :
    (p.defaultDecorationConfig = none ∧ configs = p.defaultDecorationConfigs ∨
      ∃ deprecated, p.defaultDecorationConfig = some deprecated ∧
        p.defaultDecorationConfigs.entries = [] ∧
        configs = (∅ : GoMap (Option DecorationConfig)).insert "*" (some deprecated)) ∧
      configs.lookup "*" = some wildcard := by
  unfold Plank.settleDecorationConfigs at done
  obtain ⟨given, chosen, rest⟩ := Except.bind_eq_ok.1 done
  split at rest
  · cases rest
  split at rest
  · cases rest
  rename_i found
  cases rest
  refine ⟨?_, found⟩
  cases deprecated : p.defaultDecorationConfig with
  | none => rw [deprecated] at chosen; exact .inl ⟨rfl, (Except.ok.inj chosen).symm⟩
  | some deprecatedConfig =>
      rw [deprecated] at chosen
      dsimp only at chosen
      split at chosen
      · cases chosen
      · exact .inr ⟨deprecatedConfig, rfl, List.eq_nil_of_length_eq_zero (by omega),
          (Except.ok.inj chosen).symm⟩

theorem settleDecorationDefaults_ok {lib : Library Regexp DecorationConfig}
    {c settled : Config Regexp DecorationConfig}
    (done : c.settleDecorationDefaults lib = .ok settled) :
    ∃ configs wildcard, c.plank.settleDecorationConfigs = .ok (configs, wildcard) ∧
      lib.validate wildcard = .ok () ∧
      settled = { c with
        plank := { c.plank with defaultDecorationConfigs := configs }
        periodics := c.periodics.map (setPeriodicDecorationDefaults lib
          { c with plank := { c.plank with defaultDecorationConfigs := configs } }) } := by
  unfold Config.settleDecorationDefaults at done
  obtain ⟨⟨configs, wildcard⟩, settledConfigs, rest⟩ := Except.bind_eq_ok.1 done
  dsimp only at rest
  split at rest
  · cases rest
  rename_i validated
  exact ⟨configs, wildcard, settledConfigs, validated, (Except.ok.inj rest).symm⟩

/-- The inversion of `finalizeJobConfig`: each step it took, and the configuration it
assembled from them. -/
theorem finalizeJobConfig_ok {lib : Library Regexp DecorationConfig} {order : MapOrder}
    {c result : Config Regexp DecorationConfig}
    (done : c.finalizeJobConfig lib order = .ok result) :
    ∃ settled presubmits postsubmits periodics,
      (if c.decorationRequested then c.settleDecorationDefaults lib else .ok c) = .ok settled ∧
      GoMap.rangeUpdateM (fun repo jobs => defaultPresubmits lib jobs settled repo)
        settled.presubmits (order.enumerate .finalizePresubmits settled.presubmits) =
          .ok presubmits ∧
      GoMap.rangeUpdateM (fun repo jobs => defaultPostsubmits lib jobs settled repo)
        settled.postsubmits (order.enumerate .finalizePostsubmits settled.postsubmits) =
          .ok postsubmits ∧
      defaultPeriodics settled.periodics settled = .ok periodics ∧
      result = { settled with
        presubmits := presubmits
        postsubmits := postsubmits
        periodics := periodics
        allRepos := ((order.enumerate .finalizePresubmits settled.presubmits).map Prod.fst ++
          (order.enumerate .finalizePostsubmits settled.postsubmits).map Prod.fst).foldl
            (fun repos repo => repos.insert repo ()) settled.allRepos } := by
  unfold Config.finalizeJobConfig at done
  obtain ⟨settled, settledOk, rest⟩ := Except.bind_eq_ok.1 done
  obtain ⟨presubmits, presubmitsOk, rest⟩ := Except.bind_eq_ok.1 rest
  obtain ⟨postsubmits, postsubmitsOk, rest⟩ := Except.bind_eq_ok.1 rest
  obtain ⟨periodics, periodicsOk, rest⟩ := Except.bind_eq_ok.1 rest
  exact ⟨settled, presubmits, postsubmits, periodics, settledOk, presubmitsOk, postsubmitsOk,
    periodicsOk, (Except.ok.inj rest).symm⟩

@[simp] theorem setPeriodicDecorationDefaults_decorate (lib : Library Regexp DecorationConfig)
    (c : Config Regexp DecorationConfig) (job : Periodic DecorationConfig) :
    (setPeriodicDecorationDefaults lib c job).decorate = job.decorate := by
  simp [setPeriodicDecorationDefaults]

/-- `defaultPeriodics` gives each periodic its field defaults and its merged pod spec. -/
theorem defaultPeriodics_ok {c : Config Regexp DecorationConfig}
    {periodics results : List (Periodic DecorationConfig)}
    (done : defaultPeriodics periodics c = .ok results) :
    List.Forall₂ (fun job result => ∃ spec, result =
      { job with toJobBase := { c.defaultJobBase job.toJobBase with spec := spec } })
      periodics results := by
  have mapped := (List.mapM_except_eq_ok_iff _ _ _).1 done
  rw [ProwConfig.defaultPeriodicFields, List.forall₂_map_left_iff] at mapped
  refine mapped.imp fun job result resolved => ?_
  obtain ⟨spec, -, built⟩ := Except.bind_eq_ok.1 resolved
  exact ⟨spec, (Except.ok.inj built).symm⟩

/-- Every step of `finalizeJobConfig` keeps each job's `decorate` flag, so the finalized
configuration requests decoration exactly when its input did. -/
theorem finalizeJobConfig_decorationRequested {lib : Library Regexp DecorationConfig}
    {order : MapOrder} {c result : Config Regexp DecorationConfig}
    (done : c.finalizeJobConfig lib order = .ok result) :
    result.decorationRequested = c.decorationRequested := by
  obtain ⟨settled, presubmits, postsubmits, periodics, settledOk, presubmitsOk, postsubmitsOk,
    periodicsOk, rfl⟩ := finalizeJobConfig_ok done
  have settledFlags : settled.decorationRequested = c.decorationRequested := by
    split at settledOk
    · obtain ⟨configs, wildcard, -, -, rfl⟩ := settleDecorationDefaults_ok settledOk
      simp [JobConfig.decorationRequested, Function.comp_def]
    · cases settledOk; rfl
  rw [← settledFlags]
  unfold JobConfig.decorationRequested
  congr 1
  · congr 1
    · exact (GoMap.any_pairs_eq_of_rel (GoMap.rangeUpdateM_rel order presubmitsOk)
        fun _ _ _ defaulted => forall₂_any_eq (fun _ _ step => step.facts.1.symm)
          (defaultPresubmits_ok defaulted)).symm
    · exact (GoMap.any_pairs_eq_of_rel (GoMap.rangeUpdateM_rel order postsubmitsOk)
        fun _ _ _ defaulted => forall₂_any_eq (fun _ _ step => step.facts.1.symm)
          (defaultPostsubmits_ok defaulted)).symm
  · exact (forall₂_any_eq (fun _ _ ⟨_, built⟩ => by rw [built]; rfl) (defaultPeriodics_ok periodicsOk)).symm

/-- What `finalizeJobConfig` does to the jobs, repository by repository, against the
configuration its decoration block settled on; the controller settings are those of that
configuration. -/
theorem finalizeJobConfig_jobs {lib : Library Regexp DecorationConfig} {order : MapOrder}
    {c result : Config Regexp DecorationConfig}
    (done : c.finalizeJobConfig lib order = .ok result) :
    ∃ settled : Config Regexp DecorationConfig,
      (if c.decorationRequested then c.settleDecorationDefaults lib else .ok c) = .ok settled ∧
      (∀ repo, Option.Rel (List.Forall₂ (PresubmitDefaulted lib settled repo))
        (c.presubmits.lookup repo) (result.presubmits.lookup repo)) ∧
      (∀ repo, Option.Rel (List.Forall₂ (PostsubmitDefaulted lib settled repo))
        (c.postsubmits.lookup repo) (result.postsubmits.lookup repo)) ∧
      List.Forall₂ (fun job result => ∃ spec, result =
        { job with toJobBase := { settled.defaultJobBase job.toJobBase with spec := spec } })
        settled.periodics result.periodics ∧
      result.toProwConfig = settled.toProwConfig := by
  obtain ⟨settled, presubmits, postsubmits, periodics, settledOk, presubmitsOk, postsubmitsOk,
    periodicsOk, rfl⟩ := finalizeJobConfig_ok done
  have sameJobs : settled.presubmits = c.presubmits ∧ settled.postsubmits = c.postsubmits := by
    split at settledOk
    · obtain ⟨configs, wildcard, -, -, rfl⟩ := settleDecorationDefaults_ok settledOk
      exact ⟨rfl, rfl⟩
    · cases settledOk; exact ⟨rfl, rfl⟩
  refine ⟨settled, settledOk, fun repo => ?_, fun repo => ?_, defaultPeriodics_ok periodicsOk, rfl⟩
  · rw [← sameJobs.1]
    exact GoMap.rel_imp (GoMap.rangeUpdateM_rel order presubmitsOk repo)
      fun _ _ => defaultPresubmits_ok
  · rw [← sameJobs.2]
    exact GoMap.rel_imp (GoMap.rangeUpdateM_rel order postsubmitsOk repo)
      fun _ _ => defaultPostsubmits_ok

/-- When some job requests decoration, a finalized configuration has a wildcard default
decoration config, and it validates. -/
theorem finalizeJobConfig_wildcard {lib : Library Regexp DecorationConfig} {order : MapOrder}
    {c result : Config Regexp DecorationConfig}
    (done : c.finalizeJobConfig lib order = .ok result) (requested : c.decorationRequested = true) :
    ∃ wildcard, result.plank.defaultDecorationConfigs.lookup "*" = some wildcard ∧
      lib.validate wildcard = .ok () := by
  obtain ⟨settled, settledOk, -, -, -, sameSettings⟩ := finalizeJobConfig_jobs done
  rw [if_pos requested] at settledOk
  obtain ⟨configs, wildcard, settledConfigs, validated, rfl⟩ := settleDecorationDefaults_ok settledOk
  rw [congrArg ProwConfig.plank sameSettings]
  exact ⟨wildcard, (Plank.settleDecorationConfigs_ok settledConfigs).2, validated⟩

theorem finalizeJobConfig_presets {lib : Library Regexp DecorationConfig} {order : MapOrder}
    {c result : Config Regexp DecorationConfig}
    (done : c.finalizeJobConfig lib order = .ok result) : result.presets = c.presets := by
  obtain ⟨settled, _, _, _, settledOk, -, -, -, rfl⟩ := finalizeJobConfig_ok done
  split at settledOk
  · obtain ⟨configs, wildcard, -, -, rfl⟩ := settleDecorationDefaults_ok settledOk
    rfl
  · cases settledOk; rfl

end ProwJobConfig
