import ProwJobConfig.Types

/-!
Contract: the Fragment Merger of `config.go`: `mergeJobConfigs`, `Config.mergeJobConfig`,
the source-path stamping of `yamlToConfig`, and the directory fold of `ReadJobConfig`.

Owns:
- the duplicate `label:value` check over all presets, and the exact condition under which
  it fails (`mergeJobConfigs_succeeds_iff`);
- what a successful merge holds: concatenated presets and periodics, and per repository
  the first argument's jobs followed by the second's (`lookup_presubmits_of_merge`);
- that both facts hold in every map order.

Does not own: reading, decompressing or unmarshalling files. A fragment arrives as the
path it was read from and the `JobConfig` its document unmarshals to.
-/

set_option autoImplicit false

namespace ProwJobConfig

variable {Regexp DecorationConfig : Type}

/-! ## The merge -/

/-- The `label:value` strings the duplicate check of `mergeJobConfigs` builds, in the order
its nested loop visits them: presets in list order, each preset's labels in map order. -/
def presetPairs (order : MapOrder) (presets : List Preset) : List String :=
  presets.flatMap fun preset =>
    (order.enumerate .presetLabels preset.labels).map fun entry => entry.1 ++ ":" ++ entry.2

/-- The duplicate check of `mergeJobConfigs`; `validLabels` holds the pairs seen so far. -/
def checkPresetPairs (validLabels : GoMap Bool) : List String → Except String Unit
  | [] => .ok ()
  | pair :: rest =>
      if pair ∈ validLabels then
        .error s!"duplicated preset \x27label:value\x27 pair : {pair}"
      else
        checkPresetPairs (validLabels.insert pair true) rest

/-- `mergeJobConfigs(a, b)`. -/
def mergeJobConfigs (order : MapOrder) (a b : JobConfig Regexp DecorationConfig) :
    Except String (JobConfig Regexp DecorationConfig) := do
  let presets := a.presets ++ b.presets
  checkPresetPairs ∅ (presetPairs order presets)
  let presubmits := GoMap.rangeUpdate (fun _ jobs => jobs) ∅
    (order.enumerate .mergeFirstPresubmits a.presubmits)
  let presubmits := GoMap.rangeUpdate (fun old jobs => old.getD [] ++ jobs) presubmits
    (order.enumerate .mergeSecondPresubmits b.presubmits)
  let postsubmits := GoMap.rangeUpdate (fun _ jobs => jobs) ∅
    (order.enumerate .mergeFirstPostsubmits a.postsubmits)
  let postsubmits := GoMap.rangeUpdate (fun old jobs => old.getD [] ++ jobs) postsubmits
    (order.enumerate .mergeSecondPostsubmits b.postsubmits)
  pure { presets := presets
         presubmits := presubmits
         postsubmits := postsubmits
         periodics := a.periodics ++ b.periodics }

/-- `(c *Config) mergeJobConfig(jc)`: merge a fragment into the jobs of `c`. -/
def Config.mergeJobConfig (order : MapOrder) (c : Config Regexp DecorationConfig)
    (jc : JobConfig Regexp DecorationConfig) : Except String (Config Regexp DecorationConfig) := do
  let m ← mergeJobConfigs order
    { presets := c.presets, presubmits := c.presubmits, periodics := c.periodics,
      postsubmits := c.postsubmits } jc
  pure { c with presets := m.presets, presubmits := m.presubmits, periodics := m.periodics,
                postsubmits := m.postsubmits }

/-! ## Reading fragments -/

/-- The per-job part of `yamlToConfig`: record the file a job was read from. -/
def JobConfig.setSourcePath (order : MapOrder) (path : String)
    (jc : JobConfig Regexp DecorationConfig) : JobConfig Regexp DecorationConfig :=
  { jc with
    presubmits := GoMap.rangeUpdate
      (fun _ jobs => jobs.map fun job => { job with sourcePath := path }) jc.presubmits
      (order.enumerate .sourcePathPresubmits jc.presubmits)
    postsubmits := GoMap.rangeUpdate
      (fun _ jobs => jobs.map fun job => { job with sourcePath := path }) jc.postsubmits
      (order.enumerate .sourcePathPostsubmits jc.postsubmits)
    periodics := jc.periodics.map fun job => { job with sourcePath := path } }

/-- `filepath.Base`: the last element of a slash-separated path. -/
def filepathBase (path : String) : String :=
  if path = "" then "."
  else
    let trimmed := path.dropRightWhile (· = '/')
    if trimmed = "" then "/" else ((trimmed.splitOn "/").getLast?).getD trimmed

/-- The body of `ReadJobConfig`'s `filepath.Walk` over the `.yaml` and `.yml` files it
visits, in walk order: reject a repeated base name, stamp the fragment's jobs, merge. -/
def readJobConfigFiles (order : MapOrder) (uniqueBasenames : GoMap Unit)
    (jc : JobConfig Regexp DecorationConfig) :
    List (String × JobConfig Regexp DecorationConfig) →
      Except String (JobConfig Regexp DecorationConfig)
  | [] => .ok jc
  | (path, subConfig) :: rest =>
      let base := filepathBase path
      if base ∈ uniqueBasenames then
        .error s!"duplicated basename is not allowed: {base}"
      else do
        let merged ← mergeJobConfigs order jc (subConfig.setSourcePath order path)
        readJobConfigFiles order (uniqueBasenames.insert base ()) merged rest

/-- What `os.Stat` finds at `ReadJobConfig`'s argument: one document, or a directory whose
walk visits these fragments in order. -/
inductive JobConfigPath (Regexp DecorationConfig : Type) where
  | file (path : String) (document : JobConfig Regexp DecorationConfig)
  | dir (files : List (String × JobConfig Regexp DecorationConfig))

/-- The fragments a `JobConfigPath` holds, each with the path it was read from. -/
def JobConfigPath.fragments :
    JobConfigPath Regexp DecorationConfig → List (String × JobConfig Regexp DecorationConfig)
  | .file path document => [(path, document)]
  | .dir files => files

/-- `ReadJobConfig`. -/
def readJobConfig (order : MapOrder) :
    JobConfigPath Regexp DecorationConfig → Except String (JobConfig Regexp DecorationConfig)
  | .file path document => .ok (document.setSourcePath order path)
  | .dir files => readJobConfigFiles order ∅ {} files

/-- The end of `loadConfig`: an empty job-config path (`none`) reads nothing; another is read
with `ReadJobConfig` and merged into `c` with `mergeJobConfig`. -/
def Config.loadJobConfig (order : MapOrder) (c : Config Regexp DecorationConfig) :
    Option (JobConfigPath Regexp DecorationConfig) → Except String (Config Regexp DecorationConfig)
  | none => .ok c
  | some jobConfig => readJobConfig order jobConfig >>= c.mergeJobConfig order

end ProwJobConfig

/-! ## What a merge computes -/

namespace ProwJobConfig

variable {Regexp DecorationConfig : Type}

/-- The jobs a merge holds under one repository, from the two sides' entries: absent when
both are absent, otherwise the first side's list followed by the second's. -/
def concatLookups {α : Type} : Option (List α) → Option (List α) → Option (List α)
  | none, none => none
  | left, right => some (left.getD [] ++ right.getD [])

theorem concatLookups_assoc {α : Type} (x y z : Option (List α)) :
    concatLookups (concatLookups x y) z = concatLookups x (concatLookups y z) := by
  cases x <;> cases y <;> cases z <;> simp [concatLookups]

theorem getD_concatLookups {α : Type} (x y : Option (List α)) :
    (concatLookups x y).getD [] = x.getD [] ++ y.getD [] := by
  cases x <;> cases y <;> simp [concatLookups]

/-- Two job configurations hold the same jobs: equal lists, and maps with the same entries. -/
structure JobConfig.Same (x y : JobConfig Regexp DecorationConfig) : Prop where
  presets : x.presets = y.presets
  presubmits : x.presubmits.Same y.presubmits
  postsubmits : x.postsubmits.Same y.postsubmits
  periodics : x.periodics = y.periodics
  allRepos : x.allRepos.Same y.allRepos

theorem checkPresetPairs_eq_ok_iff :
    ∀ (validLabels : GoMap Bool) (pairs : List String),
      checkPresetPairs validLabels pairs = .ok () ↔
        pairs.Nodup ∧ ∀ pair ∈ pairs, pair ∉ validLabels
  | _, [] => by simp [checkPresetPairs]
  | validLabels, pair :: rest => by
      rw [checkPresetPairs]
      by_cases seen : pair ∈ validLabels
      · simp [seen]
      · rw [if_neg seen, checkPresetPairs_eq_ok_iff]
        simp only [AList.mem_insert, not_or, List.nodup_cons, List.mem_cons,
          forall_eq_or_imp]
        constructor
        · rintro ⟨nodup, fresh⟩
          exact ⟨⟨fun member => (fresh pair member).1 rfl, nodup⟩, seen,
            fun other member => (fresh other member).2⟩
        · rintro ⟨⟨absent, nodup⟩, -, fresh⟩
          exact ⟨nodup, fun other member =>
            ⟨fun same => absent (same ▸ member), fresh other member⟩⟩

theorem presetPairs_append (order : MapOrder) (left right : List Preset) :
    presetPairs order (left ++ right) = presetPairs order left ++ presetPairs order right :=
  List.flatMap_append _ _ _

theorem lookup_assign_then_append {α : Type} (order : MapOrder) (first second : RangeLoop)
    (a b : GoMap (List α)) (key : String) :
    (GoMap.rangeUpdate (fun old jobs => old.getD [] ++ jobs)
        (GoMap.rangeUpdate (fun _ jobs => jobs) ∅ (order.enumerate first a))
        (order.enumerate second b)).lookup key = concatLookups (a.lookup key) (b.lookup key) := by
  rw [GoMap.lookup_rangeUpdate, GoMap.lookup_rangeUpdate]
  cases a.lookup key <;> cases b.lookup key <;> simp [concatLookups]

/-- `mergeJobConfigs` unfolded: the duplicate check, then the merged record. -/
theorem mergeJobConfigs_eq_ok_iff (order : MapOrder) (a b m : JobConfig Regexp DecorationConfig) :
    mergeJobConfigs order a b = .ok m ↔
      (presetPairs order (a.presets ++ b.presets)).Nodup ∧
      m = { presets := a.presets ++ b.presets
            presubmits := GoMap.rangeUpdate (fun old jobs => old.getD [] ++ jobs)
              (GoMap.rangeUpdate (fun _ jobs => jobs) ∅
                (order.enumerate .mergeFirstPresubmits a.presubmits))
              (order.enumerate .mergeSecondPresubmits b.presubmits)
            postsubmits := GoMap.rangeUpdate (fun old jobs => old.getD [] ++ jobs)
              (GoMap.rangeUpdate (fun _ jobs => jobs) ∅
                (order.enumerate .mergeFirstPostsubmits a.postsubmits))
              (order.enumerate .mergeSecondPostsubmits b.postsubmits)
            periodics := a.periodics ++ b.periodics } := by
  have check : checkPresetPairs ∅ (presetPairs order (a.presets ++ b.presets)) = .ok () ↔
      (presetPairs order (a.presets ++ b.presets)).Nodup := by
    simp [checkPresetPairs_eq_ok_iff]
  rw [mergeJobConfigs, Except.bind_eq_ok, ← check]
  simp only [pure, Except.pure, Except.ok.injEq]
  exact ⟨fun ⟨_, passed, built⟩ => ⟨passed, built.symm⟩,
    fun ⟨passed, built⟩ => ⟨(), passed, built.symm⟩⟩

/-- The merge fails exactly when the `label:value` strings of all presets repeat one. -/
theorem mergeJobConfigs_succeeds_iff (order : MapOrder) (a b : JobConfig Regexp DecorationConfig) :
    (∃ m, mergeJobConfigs order a b = .ok m) ↔ (presetPairs order (a.presets ++ b.presets)).Nodup := by
  simp only [mergeJobConfigs_eq_ok_iff, exists_and_left, exists_eq, and_true]

/-- **What a successful merge holds:** both sides' presets and periodics in order and, per
repository, the first side's jobs followed by the second's. -/
theorem mergeJobConfigs_ok {order : MapOrder} {a b m : JobConfig Regexp DecorationConfig}
    (merged : mergeJobConfigs order a b = .ok m) :
    m.presets = a.presets ++ b.presets ∧
      (∀ repo, m.presubmits.lookup repo =
        concatLookups (a.presubmits.lookup repo) (b.presubmits.lookup repo)) ∧
      (∀ repo, m.postsubmits.lookup repo =
        concatLookups (a.postsubmits.lookup repo) (b.postsubmits.lookup repo)) ∧
      m.periodics = a.periodics ++ b.periodics ∧ m.allRepos = ∅ := by
  obtain ⟨-, rfl⟩ := (mergeJobConfigs_eq_ok_iff order a b m).1 merged
  exact ⟨rfl, lookup_assign_then_append order _ _ _ _, lookup_assign_then_append order _ _ _ _, rfl, rfl⟩

theorem getD_presubmits_of_merge {order : MapOrder} {a b m : JobConfig Regexp DecorationConfig}
    (merged : mergeJobConfigs order a b = .ok m) (repo : String) :
    m.presubmits.getD repo [] = a.presubmits.getD repo [] ++ b.presubmits.getD repo [] := by
  simp only [GoMap.getD, (mergeJobConfigs_ok merged).2.1 repo, getD_concatLookups]

theorem getD_postsubmits_of_merge {order : MapOrder} {a b m : JobConfig Regexp DecorationConfig}
    (merged : mergeJobConfigs order a b = .ok m) (repo : String) :
    m.postsubmits.getD repo [] = a.postsubmits.getD repo [] ++ b.postsubmits.getD repo [] := by
  simp only [GoMap.getD, (mergeJobConfigs_ok merged).2.2.1 repo, getD_concatLookups]

theorem eq_error_of_not_succeeds {ε α : Type} {x : Except ε α} (fails : ¬ ∃ value, x = .ok value) :
    ∃ err, x = .error err := by
  cases x with
  | error err => exact ⟨err, rfl⟩
  | ok value => exact absurd ⟨value, rfl⟩ fails

/-- A merge whose result is merged again fails when all the presets involved repeat a pair. -/
theorem merge_twice_fails {a b c : JobConfig Regexp DecorationConfig}
    (first : JobConfig Regexp DecorationConfig → JobConfig Regexp DecorationConfig →
      Except String (JobConfig Regexp DecorationConfig))
    (firstPresets : ∀ {x y m}, first x y = .ok m → m.presets = x.presets ++ y.presets)
    (second : JobConfig Regexp DecorationConfig → JobConfig Regexp DecorationConfig →
      Except String (JobConfig Regexp DecorationConfig))
    (result : Except String (JobConfig Regexp DecorationConfig))
    (shape : result = first a b >>= fun ab => second ab c)
    (secondFails : ∀ ab, ab.presets = a.presets ++ b.presets → ¬ ∃ m, second ab c = .ok m) :
    ∃ err, result = .error err := by
  subst shape
  cases merged : first a b with
  | error err => exact ⟨err, rfl⟩
  | ok ab => exact eq_error_of_not_succeeds (secondFails ab (firstPresets merged))

/-- **Merging is associative.** Both groupings fail together, and when they succeed they hold
the same jobs. -/
theorem mergeJobConfigs_assoc (order : MapOrder) (a b c : JobConfig Regexp DecorationConfig) :
    Except.Agree JobConfig.Same
      (mergeJobConfigs order a b >>= fun ab => mergeJobConfigs order ab c)
      (mergeJobConfigs order b c >>= fun bc => mergeJobConfigs order a bc) := by
  have pairs : presetPairs order (a.presets ++ b.presets ++ c.presets) =
      presetPairs order a.presets ++ (presetPairs order b.presets ++ presetPairs order c.presets) := by
    simp only [presetPairs_append, List.append_assoc]
  by_cases nodup : (presetPairs order (a.presets ++ b.presets ++ c.presets)).Nodup
  · rw [pairs] at nodup
    obtain ⟨ab, mergedAb⟩ := (mergeJobConfigs_succeeds_iff order a b).2 (by
      rw [presetPairs_append, ← List.append_assoc] at *
      exact nodup.sublist (List.sublist_append_left _ _))
    obtain ⟨bc, mergedBc⟩ := (mergeJobConfigs_succeeds_iff order b c).2 (by
      rw [presetPairs_append]
      exact nodup.sublist (List.sublist_append_right _ _))
    have abFacts := mergeJobConfigs_ok mergedAb
    have bcFacts := mergeJobConfigs_ok mergedBc
    obtain ⟨left, mergedLeft⟩ := (mergeJobConfigs_succeeds_iff order ab c).2 (by
      rw [abFacts.1, presetPairs_append, presetPairs_append, List.append_assoc]
      exact nodup)
    obtain ⟨right, mergedRight⟩ := (mergeJobConfigs_succeeds_iff order a bc).2 (by
      rw [bcFacts.1, presetPairs_append, presetPairs_append]
      exact nodup)
    have leftFacts := mergeJobConfigs_ok mergedLeft
    have rightFacts := mergeJobConfigs_ok mergedRight
    rw [mergedAb, mergedBc, Except.ok_bind, Except.ok_bind, mergedLeft, mergedRight]
    refine ⟨?_, fun repo => ?_, fun repo => ?_, ?_, fun repo => ?_⟩
    · rw [leftFacts.1, rightFacts.1, abFacts.1, bcFacts.1, List.append_assoc]
    · rw [leftFacts.2.1, rightFacts.2.1, abFacts.2.1, bcFacts.2.1, concatLookups_assoc]
    · rw [leftFacts.2.2.1, rightFacts.2.2.1, abFacts.2.2.1, bcFacts.2.2.1, concatLookups_assoc]
    · rw [leftFacts.2.2.2.1, rightFacts.2.2.2.1, abFacts.2.2.2.1, bcFacts.2.2.2.1,
        List.append_assoc]
    · rw [leftFacts.2.2.2.2, rightFacts.2.2.2.2]
  · obtain ⟨leftErr, leftFails⟩ := merge_twice_fails (mergeJobConfigs order)
      (fun merged => (mergeJobConfigs_ok merged).1) (mergeJobConfigs order) _ rfl
      (fun ab presets => by rw [mergeJobConfigs_succeeds_iff, presets]; exact nodup)
    obtain ⟨rightErr, rightFails⟩ := merge_twice_fails (c := a) (a := b) (b := c)
      (fun x y => mergeJobConfigs order x y) (fun merged => (mergeJobConfigs_ok merged).1)
      (fun bc x => mergeJobConfigs order x bc) _ rfl
      (fun bc presets => by
        rw [mergeJobConfigs_succeeds_iff, presets, ← List.append_assoc]; exact nodup)
    rw [leftFails, rightFails]
    trivial

/-! ## Folding fragments -/

/-- `result` holds the jobs of `base` followed, fragment by fragment and in order, by the
jobs of `fragments`, each stamped with the path its fragment was read from. -/
structure HoldsFragments (base result : JobConfig Regexp DecorationConfig)
    (fragments : List (String × JobConfig Regexp DecorationConfig)) : Prop where
  presets : result.presets = base.presets ++ fragments.flatMap fun fragment => fragment.2.presets
  presubmits : ∀ repo, result.presubmits.getD repo [] = base.presubmits.getD repo [] ++
    fragments.flatMap fun fragment =>
      (fragment.2.presubmits.getD repo []).map fun job => { job with sourcePath := fragment.1 }
  postsubmits : ∀ repo, result.postsubmits.getD repo [] = base.postsubmits.getD repo [] ++
    fragments.flatMap fun fragment =>
      (fragment.2.postsubmits.getD repo []).map fun job => { job with sourcePath := fragment.1 }
  periodics : result.periodics = base.periodics ++
    fragments.flatMap fun fragment =>
      fragment.2.periodics.map fun job => { job with sourcePath := fragment.1 }

theorem getD_presubmits_setSourcePath (order : MapOrder) (path : String)
    (jc : JobConfig Regexp DecorationConfig) (repo : String) :
    (jc.setSourcePath order path).presubmits.getD repo [] =
      (jc.presubmits.getD repo []).map fun job => { job with sourcePath := path } := by
  simp only [GoMap.getD, JobConfig.setSourcePath, GoMap.lookup_rangeUpdate]
  cases jc.presubmits.lookup repo <;> rfl

theorem getD_postsubmits_setSourcePath (order : MapOrder) (path : String)
    (jc : JobConfig Regexp DecorationConfig) (repo : String) :
    (jc.setSourcePath order path).postsubmits.getD repo [] =
      (jc.postsubmits.getD repo []).map fun job => { job with sourcePath := path } := by
  simp only [GoMap.getD, JobConfig.setSourcePath, GoMap.lookup_rangeUpdate]
  cases jc.postsubmits.lookup repo <;> rfl

/-- Merging one stamped fragment extends what a fold holds by that fragment. -/
theorem HoldsFragments.merge {order : MapOrder} {base jc merged : JobConfig Regexp DecorationConfig}
    {fragments : List (String × JobConfig Regexp DecorationConfig)} {path : String}
    {subConfig : JobConfig Regexp DecorationConfig} (holds : HoldsFragments base jc fragments)
    (step : mergeJobConfigs order jc (subConfig.setSourcePath order path) = .ok merged) :
    HoldsFragments base merged (fragments ++ [(path, subConfig)]) := by
  obtain ⟨presets, -, -, periodics, -⟩ := mergeJobConfigs_ok step
  refine ⟨?_, fun repo => ?_, fun repo => ?_, ?_⟩
  · simp [presets, holds.presets, JobConfig.setSourcePath]
  · simp [getD_presubmits_of_merge step, holds.presubmits, getD_presubmits_setSourcePath]
  · simp [getD_postsubmits_of_merge step, holds.postsubmits, getD_postsubmits_setSourcePath]
  · simp [periodics, holds.periodics, JobConfig.setSourcePath]

/-- **The directory fold of `ReadJobConfig` loses, repeats and alters no job.** -/
theorem readJobConfigFiles_holds {order : MapOrder} {base : JobConfig Regexp DecorationConfig} :
    ∀ (uniqueBasenames : GoMap Unit) (jc result : JobConfig Regexp DecorationConfig)
      (done rest : List (String × JobConfig Regexp DecorationConfig)),
      HoldsFragments base jc done →
      readJobConfigFiles order uniqueBasenames jc rest = .ok result →
      HoldsFragments base result (done ++ rest)
  | _, _, _, done, [], holds, finished => by
      cases finished
      simpa using holds
  | uniqueBasenames, jc, result, done, (path, subConfig) :: rest, holds, finished => by
      rw [readJobConfigFiles] at finished
      split_ifs at finished
      obtain ⟨merged, step, finished⟩ := Except.bind_eq_ok.1 finished
      simpa using readJobConfigFiles_holds _ merged result _ rest (holds.merge step) finished

theorem holdsFragments_nil (jc : JobConfig Regexp DecorationConfig) : HoldsFragments jc jc [] :=
  ⟨by simp, fun _ => by simp, fun _ => by simp, by simp⟩

/-- `ReadJobConfig` returns the jobs of its fragments, in order and stamped. -/
theorem readJobConfig_holds {order : MapOrder} {source : JobConfigPath Regexp DecorationConfig}
    {jc : JobConfig Regexp DecorationConfig} (read : readJobConfig order source = .ok jc) :
    HoldsFragments {} jc source.fragments := by
  cases source with
  | file path document =>
      cases read
      refine ⟨?_, fun repo => ?_, fun repo => ?_, ?_⟩
      · simp [JobConfig.setSourcePath, JobConfigPath.fragments]
      · rw [getD_presubmits_setSourcePath]; simp [JobConfigPath.fragments, GoMap.getD]
      · rw [getD_postsubmits_setSourcePath]; simp [JobConfigPath.fragments, GoMap.getD]
      · simp [JobConfig.setSourcePath, JobConfigPath.fragments]
  | dir files =>
      simpa using readJobConfigFiles_holds ∅ {} jc [] files (holdsFragments_nil _) read

/-- Merging the result of a fold into a base puts the base's jobs first. -/
theorem HoldsFragments.mergeInto {order : MapOrder}
    {base jc merged : JobConfig Regexp DecorationConfig}
    {fragments : List (String × JobConfig Regexp DecorationConfig)}
    (holds : HoldsFragments {} jc fragments) (step : mergeJobConfigs order base jc = .ok merged) :
    HoldsFragments base merged fragments := by
  obtain ⟨presets, -, -, periodics, -⟩ := mergeJobConfigs_ok step
  refine ⟨?_, fun repo => ?_, fun repo => ?_, ?_⟩
  · simpa [presets] using holds.presets
  · rw [getD_presubmits_of_merge step, holds.presubmits repo]; simp [GoMap.getD]
  · rw [getD_postsubmits_of_merge step, holds.postsubmits repo]; simp [GoMap.getD]
  · simpa [periodics] using holds.periodics

/-- `loadConfig`'s merge of what `ReadJobConfig` read into the primary configuration. -/
theorem Config.mergeJobConfig_holds {order : MapOrder} {c merged : Config Regexp DecorationConfig}
    {source : JobConfigPath Regexp DecorationConfig} {jc : JobConfig Regexp DecorationConfig}
    (read : readJobConfig order source = .ok jc) (step : c.mergeJobConfig order jc = .ok merged) :
    HoldsFragments c.toJobConfig merged.toJobConfig source.fragments := by
  obtain ⟨m, mergedJobs, built⟩ := Except.bind_eq_ok.1 step
  cases built
  have holds := (readJobConfig_holds read).mergeInto mergedJobs
  exact ⟨holds.presets, holds.presubmits, holds.postsubmits, holds.periodics⟩

/-- Merging is associative up to map order, concatenates per repository, and the fold over
the primary configuration and the fragments keeps every job, in fragment order, stamped
with its file. -/
theorem mergeJobConfigs_associative_order_preserving (order : MapOrder) :
    (∀ a b c : JobConfig Regexp DecorationConfig,
      Except.Agree JobConfig.Same
        (mergeJobConfigs order a b >>= fun ab => mergeJobConfigs order ab c)
        (mergeJobConfigs order b c >>= fun bc => mergeJobConfigs order a bc)) ∧
    (∀ a b m : JobConfig Regexp DecorationConfig, mergeJobConfigs order a b = .ok m →
      m.presets = a.presets ++ b.presets ∧
      (∀ repo, m.presubmits.lookup repo =
        concatLookups (a.presubmits.lookup repo) (b.presubmits.lookup repo)) ∧
      (∀ repo, m.postsubmits.lookup repo =
        concatLookups (a.postsubmits.lookup repo) (b.postsubmits.lookup repo)) ∧
      m.periodics = a.periodics ++ b.periodics ∧ m.allRepos = ∅) ∧
    (∀ (c merged : Config Regexp DecorationConfig) (source : JobConfigPath Regexp DecorationConfig)
      (jc : JobConfig Regexp DecorationConfig),
      readJobConfig order source = .ok jc → c.mergeJobConfig order jc = .ok merged →
      HoldsFragments c.toJobConfig merged.toJobConfig source.fragments) :=
  ⟨mergeJobConfigs_assoc order, fun _ _ _ => mergeJobConfigs_ok,
    fun _ _ _ _ => Config.mergeJobConfig_holds⟩

/-! ## Pairs that collide as strings -/

/-- Two presets at distinct positions require one label with one value, so a job carrying
that label matches both. -/
def SharesLabelPair (presets : List Preset) : Prop :=
  ∃ first second, first ≠ second ∧ ∃ (firstBound : first < presets.length)
    (secondBound : second < presets.length) (label value : String),
    presets[first].labels.lookup label = some value ∧
      presets[second].labels.lookup label = some value

/-- Presets requiring `a:b=c` and `a=b:c`: no label in common, one `label:value` string. -/
def collidingPresets : List Preset :=
  [{ labels := GoMap.ofPairs [("a:b", "c")] }, { labels := GoMap.ofPairs [("a", "b:c")] }]

theorem lookup_ofPairs_singleton {α : Type} (key label : String) (value : α) :
    (GoMap.ofPairs [(label, value)]).lookup key = if key = label then some value else none := by
  have entries : (GoMap.ofPairs [(label, value)]).entries = [⟨label, value⟩] := rfl
  by_cases same : key = label
  · subst same; simp [AList.lookup, entries]
  · simp [AList.lookup, entries, same]

theorem enumerate_ofPairs_singleton {α : Type} (order : MapOrder) (site : RangeLoop)
    (label : String) (value : α) :
    order.enumerate site (GoMap.ofPairs [(label, value)]) = [(label, value)] :=
  List.perm_singleton.1 (order.enumerate_perm _ _)

theorem collidingPresets_unshared : ¬ SharesLabelPair collidingPresets := by
  rintro ⟨first, second, distinct, firstBound, secondBound, label, value, firstHas, secondHas⟩
  simp only [collidingPresets, List.length_cons, List.length_nil] at firstBound secondBound
  obtain rfl | rfl : first = 0 ∨ first = 1 := by omega
  all_goals obtain rfl | rfl : second = 0 ∨ second = 1 := by omega
  all_goals simp_all [collidingPresets, lookup_ofPairs_singleton]

/-- **The duplicate check rejects presets that share no label pair.** Under every map order,
merging `collidingPresets` fails, because `"a:b" ++ ":" ++ "c"` and `"a" ++ ":" ++ "b:c"` are
one string. -/
theorem mergeJobConfigs_rejects_unshared_pairs (order : MapOrder) :
    (∃ err, mergeJobConfigs order
      ({ presets := collidingPresets } : JobConfig Regexp DecorationConfig) {} = .error err) ∧
    ¬ SharesLabelPair collidingPresets := by
  refine ⟨eq_error_of_not_succeeds ?_, collidingPresets_unshared⟩
  rw [mergeJobConfigs_succeeds_iff]
  simp only [List.append_nil, presetPairs, collidingPresets, List.flatMap_cons,
    List.flatMap_nil, enumerate_ofPairs_singleton]
  decide

end ProwJobConfig
