import ProwJobConfig.Defaults

/-!
Contract: the Validator of `config.go`: the per-job checks of `validateJobBase`, the
cross-job duplicate checks of `validatePresubmits`, `validatePostsubmits` and
`validatePeriodics`, and `validateJobConfig`, which also parses each periodic's interval.

Owns: the exact condition under which each validator returns no error
(`validatePresubmits_eq_ok_iff` and its siblings), proved by the loop invariant that the
map of accepted jobs holds, per name, exactly the earlier jobs of that name.

Does not own: the label syntax of Kubernetes, `time.ParseDuration` and
`(*DecorationConfig).Validate`, which are `Library` fields.
-/

set_option autoImplicit false

namespace ProwJobConfig

variable {Regexp DecorationConfig : Type}

/-! ## Per-job checks -/

/-- A character of the class `[A-Za-z0-9-._]`. -/
def isJobNameChar (ch : Char) : Bool :=
  ch.isUpper || ch.isLower || ch.isDigit || ch = '-' || ch = '.' || ch = '_'

/-- `jobNameRegex.MatchString(name)` for `jobNameRegex = ^[A-Za-z0-9-._]+$`: a non-empty
name made of the class's characters. -/
def jobNameRegexMatches (name : String) : Bool :=
  !name.toList.isEmpty && name.toList.all isJobNameChar

theorem isJobNameChar_of_jobNameRegexMatches {name : String}
    (valid : jobNameRegexMatches name = true) : ∀ c ∈ name.toList, isJobNameChar c = true := by
  simp only [jobNameRegexMatches, Bool.and_eq_true, List.all_eq_true] at valid
  exact valid.2

/-- Go's `%v` of a `[]string`. -/
def goSliceString (items : List String) : String :=
  "[" ++ " ".intercalate items ++ "]"

/-- `validateLabels(labels)`: every key a qualified name, every value a label value; the
first bad label in map order is reported. -/
def validateLabels (lib : Library Regexp DecorationConfig) (order : MapOrder)
    (labels : GoMap String) : Except String Unit :=
  (order.enumerate .labels labels).forM fun entry =>
    if (lib.isQualifiedName entry.1).length ≠ 0 then
      .error s!"invalid label {entry.1}: {goSliceString (lib.isQualifiedName entry.1)}"
    else if (lib.isValidLabelValue entry.2).length ≠ 0 then
      .error s!"label {entry.1} has invalid value {entry.2}: {goSliceString (lib.isValidLabelValue entry.2)}"
    else .ok ()

/-- `validateAgent(v, podNamespace)`. An unknown agent is accepted with a warning. -/
def validateAgent (v : JobBase DecorationConfig) (podNamespace : String) : Except String Unit :=
  let k := kubernetesAgent
  let b := knativeBuildAgent
  let j := jenkinsAgent
  let p := tektonAgent
  let agent := v.agent
  if ¬ (agent = k ∨ agent = b ∨ agent = j ∨ agent = p) then .ok ()
  else if v.spec.isSome ∧ agent ≠ k then
    .error s!"job specs require agent: {k} (found \"{agent}\")"
  else if agent = k ∧ v.spec.isNone then .error "kubernetes jobs require a spec"
  else if v.decorationConfig.isSome ∧ agent ≠ k ∧ agent ≠ b then
    .error s!"decoration requires agent: {k} or {b} (found \"{agent}\")"
  else if v.errorOnEviction ∧ agent ≠ k then
    .error s!"error_on_eviction only applies to agent: {k} (found \"{agent}\")"
  else
    match v.jobNamespace with
    | none => .error "failed to default namespace"
    | some jobNamespace =>
        if jobNamespace = "" then .error "failed to default namespace"
        else if jobNamespace ≠ podNamespace ∧ agent ≠ b ∧ agent ≠ p then
          .error s!"namespace customization requires agent: {b} or {p} (found \"{agent}\")"
        else .ok ()

/-- `validatePodSpec(jobType, spec)`: one container and no init containers. -/
def validatePodSpec (_jobType : ProwJobType) (spec : Option PodSpec) : Except String Unit :=
  match spec with
  | none => .ok ()
  | some spec =>
      if spec.initContainers.length ≠ 0 then .error "pod spec may not use init containers"
      else if spec.containers.length ≠ 1 then
        .error s!"pod spec must specify exactly 1 container, found: {spec.containers.length}"
      else .ok ()

/-- `validateDecoration(container, config)`. -/
def validateDecoration (lib : Library Regexp DecorationConfig) (container : Container)
    (config : Option DecorationConfig) : Except String Unit :=
  match config with
  | none => .ok ()
  | some config =>
      match lib.validate (some config) with
      | .error err => .error s!"invalid decoration config: {err}"
      | .ok () =>
          match container.command ++ container.args with
          | first :: _ =>
              if first = "" then .error "decorated job containers must specify command and/or args"
              else .ok ()
          | [] => .error "decorated job containers must specify command and/or args"

/-- The rerun-authorization check of `validateJobBase`. -/
def RerunAuthConfig.ambiguous (config : RerunAuthConfig) : Bool :=
  config.allowAnyone &&
    (config.gitHubUsers.length > 0 || config.gitHubTeamIDs.length > 0 ||
      config.gitHubTeamSlugs.length > 0)

/-- `validateJobBase(v, jobType, podNamespace)`. A job with no containers returns before the
rerun-authorization and decoration checks. -/
def validateJobBase (lib : Library Regexp DecorationConfig) (order : MapOrder)
    (v : JobBase DecorationConfig) (jobType : ProwJobType) (podNamespace : String) :
    Except String Unit :=
  if !jobNameRegexMatches v.name then
    .error "name: must match regex \"^[A-Za-z0-9-._]+$\""
  else if v.maxConcurrency < 0 then
    .error s!"max_concurrency: {v.maxConcurrency} must be a non-negative number"
  else do
    validateAgent v podNamespace
    validatePodSpec jobType v.spec
    validateLabels lib order v.labels
    match v.spec with
    | none => pure ()
    | some spec =>
        match spec.containers with
        | [] => pure ()
        | container :: _ =>
            if v.rerunAuthConfig.any RerunAuthConfig.ambiguous then
              .error "allow anyone is set to true and permitted users or groups are specified"
            else validateDecoration lib container v.decorationConfig

/-- `validateTriggering(job)`. -/
def validateTriggering (job : Presubmit Regexp DecorationConfig) : Except String Unit :=
  if job.alwaysRun ∧ job.regexpChangeMatcher.runIfChanged ≠ "" then
    .error s!"job {job.name} is set to always run but also declares run_if_changed targets, which are mutually exclusive"
  else if !job.skipReport ∧ job.context = "" then
    .error s!"job {job.name} is set to report but has no context configured"
  else if (job.trigger ≠ "" ∧ job.rerunCommand = "") ∨ (job.trigger = "" ∧ job.rerunCommand ≠ "") then
    .error s!"Either both of job.Trigger and job.RerunCommand must be set, wasnt the case for job \"{job.name}\""
  else .ok ()

/-! ## What the per-job checks accept -/

/-- The agent rules `validateAgent` enforces (spec §4.6). An agent of a known kind needs a pod
spec exactly when it is the Kubernetes agent; only the Kubernetes and knative-build agents may
be decorated and only the Kubernetes agent may error on eviction; its namespace is set and not
empty, and only the knative-build and Tekton agents may run outside the pod namespace. An
agent of another kind is accepted as it is. -/
def JobBase.AgentCompatible (base : JobBase DecorationConfig) (podNamespace : String) : Prop :=
  (base.agent = kubernetesAgent ∨ base.agent = knativeBuildAgent ∨ base.agent = jenkinsAgent ∨
      base.agent = tektonAgent) →
    (base.spec.isSome ↔ base.agent = kubernetesAgent) ∧
    (base.decorationConfig.isSome → base.agent = kubernetesAgent ∨ base.agent = knativeBuildAgent) ∧
    (base.errorOnEviction = true → base.agent = kubernetesAgent) ∧
    ∃ jobNamespace, base.jobNamespace = some jobNamespace ∧ jobNamespace ≠ "" ∧
      (jobNamespace ≠ podNamespace → base.agent = knativeBuildAgent ∨ base.agent = tektonAgent)

/-- Every rule of `validateJobBase`, for the pod namespace `podNamespace`: a well-formed
name, a non-negative concurrency limit, valid label keys and values, an agent compatible with
the job's spec, decoration and namespace, a pod spec of one container and no init containers,
and, for a job whose pod spec has a container, an unambiguous rerun policy and a decoration
config that validates against the container. -/
structure JobBase.Valid (lib : Library Regexp DecorationConfig) (base : JobBase DecorationConfig)
    (podNamespace : String) : Prop where
  name : jobNameRegexMatches base.name = true
  maxConcurrency : 0 ≤ base.maxConcurrency
  labels : ∀ label value, base.labels.lookup label = some value →
    lib.isQualifiedName label = [] ∧ lib.isValidLabelValue value = []
  agent : base.AgentCompatible podNamespace
  podSpec : ∀ spec, base.spec = some spec → spec.initContainers = [] ∧ spec.containers.length = 1
  container : ∀ spec, base.spec = some spec → ∀ container rest, spec.containers = container :: rest →
    base.rerunAuthConfig.any RerunAuthConfig.ambiguous = false ∧
      validateDecoration lib container base.decorationConfig = .ok ()

theorem validateLabels_eq_ok_iff (lib : Library Regexp DecorationConfig) (order : MapOrder)
    (labels : GoMap String) :
    validateLabels lib order labels = .ok () ↔ ∀ label value, labels.lookup label = some value →
      lib.isQualifiedName label = [] ∧ lib.isValidLabelValue value = [] := by
  rw [validateLabels, forM_enumerate_eq_ok_iff]
  refine forall_congr' fun label => forall_congr' fun value => imp_congr_right fun _ => ?_
  dsimp only
  split_ifs <;> simp_all [List.length_eq_zero]

/-- **`validateAgent`'s spec**: it accepts exactly the agents compatible with the job. -/
theorem isSome_iff_guards {α : Type} (o : Option α) (p : Prop) :
    (o.isSome ↔ p) ↔ ¬(o.isSome ∧ ¬p) ∧ ¬(p ∧ o.isNone) := by
  cases o <;> simp

theorem validateAgent_eq_ok_iff (v : JobBase DecorationConfig) (podNamespace : String) :
    validateAgent v podNamespace = .ok () ↔ v.AgentCompatible podNamespace := by
  unfold validateAgent JobBase.AgentCompatible
  dsimp only
  by_cases known : v.agent = kubernetesAgent ∨ v.agent = knativeBuildAgent ∨
    v.agent = jenkinsAgent ∨ v.agent = tektonAgent
  · simp only [known, not_true_eq_false, if_false, Except.ite_error_eq_ok, true_implies,
      isSome_iff_guards, ne_eq]
    cases v.jobNamespace with
    | none => simp
    | some jobNamespace =>
        simp only [Except.ite_error_eq_ok, Option.some.injEq, exists_eq_left', not_and, not_not,
          or_iff_not_imp_left, and_true, and_assoc]
  · simp only [known, not_false_eq_true, if_true, false_implies]

theorem validatePodSpec_eq_ok_iff (jobType : ProwJobType) (spec : Option PodSpec) :
    validatePodSpec jobType spec = .ok () ↔
      ∀ s, spec = some s → s.initContainers = [] ∧ s.containers.length = 1 := by
  unfold validatePodSpec
  cases spec with
  | none => simp
  | some s => dsimp only; split_ifs <;> simp_all [List.length_eq_zero]

/-- **`validateJobBase`'s spec**: it accepts exactly the valid jobs. The container-level
rules (rerun authorization and decoration) bind only a job with a pod spec that has a
container. -/
theorem validateJobBase_eq_ok_iff (lib : Library Regexp DecorationConfig) (order : MapOrder)
    (v : JobBase DecorationConfig) (jobType : ProwJobType) (podNamespace : String) :
    validateJobBase lib order v jobType podNamespace = .ok () ↔ JobBase.Valid lib v podNamespace := by
  have valid : JobBase.Valid lib v podNamespace ↔ jobNameRegexMatches v.name = true ∧
      0 ≤ v.maxConcurrency ∧ validateAgent v podNamespace = .ok () ∧
      validatePodSpec jobType v.spec = .ok () ∧ validateLabels lib order v.labels = .ok () ∧
      ∀ spec, v.spec = some spec → ∀ container rest, spec.containers = container :: rest →
        v.rerunAuthConfig.any RerunAuthConfig.ambiguous = false ∧
        validateDecoration lib container v.decorationConfig = .ok () := by
    rw [validateLabels_eq_ok_iff, validateAgent_eq_ok_iff, validatePodSpec_eq_ok_iff]
    exact ⟨fun ⟨named, bounded, labelled, agent, pod, container⟩ =>
        ⟨named, bounded, agent, pod, labelled, container⟩,
      fun ⟨named, bounded, agent, pod, labelled, container⟩ =>
        ⟨named, bounded, labelled, agent, pod, container⟩⟩
  rw [valid, validateJobBase]
  by_cases named : jobNameRegexMatches v.name = true
  swap
  · simp [named]
  by_cases bounded : v.maxConcurrency < 0
  · simp [named, bounded]
  rw [if_neg (by simp [named]), if_neg bounded]
  cases agent : validateAgent v podNamespace with
  | error err => simp [bind, Except.bind]
  | ok _ =>
  cases pod : validatePodSpec jobType v.spec with
  | error err => simp [bind, Except.bind]
  | ok _ =>
  cases labels : validateLabels lib order v.labels with
  | error err => simp [bind, Except.bind]
  | ok _ =>
  simp only [bind, Except.bind, named, true_and, show 0 ≤ v.maxConcurrency by omega]
  cases v.spec with
  | none => simp [pure, Except.pure]
  | some spec =>
      cases containers : spec.containers with
      | nil => simp [containers, pure, Except.pure]
      | cons container rest =>
          by_cases ambiguous : v.rerunAuthConfig.any RerunAuthConfig.ambiguous = true <;>
            simp [containers, ambiguous]

theorem validateTriggering_eq_ok_iff (job : Presubmit Regexp DecorationConfig) :
    validateTriggering job = .ok () ↔
      ¬ (job.alwaysRun = true ∧ job.regexpChangeMatcher.runIfChanged ≠ "") ∧
      (job.skipReport = false → job.context ≠ "") ∧
      (job.trigger = "" ↔ job.rerunCommand = "") := by
  unfold validateTriggering
  split_ifs with exclusive reported paired <;> simp_all
  · tauto
  · exact ⟨paired.2, fun empty => by_contra fun set => paired.1 set empty⟩

/-! ## Cross-job checks -/

section BranchJobs

variable {Job : Type} (lib : Library Regexp DecorationConfig) (order : MapOrder)
  (toJobBase : Job → JobBase DecorationConfig) (brancher : Job → Brancher Regexp)
  (jobType : ProwJobType) (kind : String) (extraCheck : Job → Except String Unit)
  (podNamespace : String)

/-- The loop shared by `validatePresubmits` and `validatePostsubmits`. `validJobs` maps each
name to the jobs of that name accepted so far; a job whose branches intersect one of them is
a duplicate. `extraCheck` is `validateTriggering` for presubmits and nothing for
postsubmits. -/
def validateBranchJobs (validJobs : GoMap (List Job)) : List Job → Except String Unit
  | [] => .ok ()
  | job :: rest =>
      let name := (toJobBase job).name
      if (validJobs.getD name []).any fun existingJob =>
          lib.intersects (brancher existingJob) (brancher job) then
        .error s!"duplicated {kind} job: {name}"
      else
        match validateJobBase lib order (toJobBase job) jobType podNamespace with
        | .error err => .error s!"invalid {kind} job {name}: {err}"
        | .ok () =>
            match extraCheck job with
            | .error err => .error err
            | .ok () =>
                validateBranchJobs (validJobs.insert name (validJobs.getD name [] ++ [job])) rest

/-- The condition a list of branch jobs must meet: no two jobs of one name, the earlier
first, with intersecting branches. -/
def NoIntersectingDuplicates (jobs : List Job) : Prop :=
  jobs.Pairwise fun earlier later =>
    (toJobBase earlier).name = (toJobBase later).name →
      lib.intersects (brancher earlier) (brancher later) = false

/-- The step of the loop invariant: accepting `job` extends, under its name, the jobs the map
holds by the job. -/
theorem getD_accept_job {done : List Job} {validJobs : GoMap (List Job)}
    (invariant : ∀ name, validJobs.getD name [] =
      done.filter fun job => (toJobBase job).name = name) (job : Job) (name : String) :
    GoMap.getD (validJobs.insert (toJobBase job).name
        (validJobs.getD (toJobBase job).name [] ++ [job])) name [] =
      (done ++ [job]).filter fun other => (toJobBase other).name = name := by
  by_cases same : name = (toJobBase job).name
  · subst same
    simp [invariant]
  · rw [GoMap.getD_insert_ne _ _ _ same, List.filter_append, ← invariant name]
    simp [Ne.symm same]

/-- **The loop invariant of the duplicate check.** With `validJobs` holding, per name, the
jobs of `done` of that name, the rest of the loop succeeds exactly when no job of `rest`
intersects an earlier job of its name, in `done` or in `rest`, and every job of `rest` passes
its checks. -/
theorem validateBranchJobs_eq_ok_iff :
    ∀ (done rest : List Job) (validJobs : GoMap (List Job)),
      (∀ name, validJobs.getD name [] = done.filter fun job => (toJobBase job).name = name) →
      (validateBranchJobs lib order toJobBase brancher jobType kind extraCheck podNamespace
          validJobs rest = .ok () ↔
        (∀ earlier ∈ done, ∀ later ∈ rest, (toJobBase earlier).name = (toJobBase later).name →
          lib.intersects (brancher earlier) (brancher later) = false) ∧
        NoIntersectingDuplicates lib toJobBase brancher rest ∧
        ∀ job ∈ rest, validateJobBase lib order (toJobBase job) jobType podNamespace = .ok () ∧
          extraCheck job = .ok ())
  | done, [], _, _ => by simp [validateBranchJobs, NoIntersectingDuplicates]
  | done, job :: rest, validJobs, invariant => by
      have earlierClash :
          ((validJobs.getD (toJobBase job).name []).any fun existingJob =>
              lib.intersects (brancher existingJob) (brancher job)) = true ↔
            ∃ earlier ∈ done, (toJobBase earlier).name = (toJobBase job).name ∧
              lib.intersects (brancher earlier) (brancher job) = true := by
        simp [invariant]
      rw [validateBranchJobs]
      by_cases clash : ((validJobs.getD (toJobBase job).name []).any fun existingJob =>
          lib.intersects (brancher existingJob) (brancher job)) = true
      · rw [if_pos clash]
        obtain ⟨earlier, member, sameName, intersects⟩ := earlierClash.1 clash
        refine ⟨fun failed => (nomatch failed), fun ⟨noClash, _⟩ => ?_⟩
        rw [noClash earlier member job (List.mem_cons_self _ _) sameName] at intersects
        cases intersects
      rw [if_neg clash]
      have clashFree : ∀ earlier ∈ done, (toJobBase earlier).name = (toJobBase job).name →
          lib.intersects (brancher earlier) (brancher job) = false := fun earlier member same =>
        Bool.eq_false_iff.2 fun intersects => clash (earlierClash.2 ⟨earlier, member, same, intersects⟩)
      cases checked : validateJobBase lib order (toJobBase job) jobType podNamespace with
      | error err =>
          refine ⟨fun failed => (nomatch failed), fun ⟨_, _, passes⟩ => ?_⟩
          have := (passes job (List.mem_cons_self _ _)).1
          rw [checked] at this; cases this
      | ok passed =>
      cases extra : extraCheck job with
      | error err =>
          refine ⟨fun failed => (nomatch failed), fun ⟨_, _, passes⟩ => ?_⟩
          have := (passes job (List.mem_cons_self _ _)).2
          rw [extra] at this; cases this
      | ok passed' =>
      show validateBranchJobs lib order toJobBase brancher jobType kind extraCheck podNamespace
          _ rest = .ok () ↔ _
      rw [validateBranchJobs_eq_ok_iff (done ++ [job]) rest _
        (getD_accept_job toJobBase invariant job)]
      simp only [NoIntersectingDuplicates, List.pairwise_cons, List.mem_append, List.mem_cons,
        List.not_mem_nil, or_false]
      constructor
      · rintro ⟨earlierFree, pairwise, passes⟩
        refine ⟨fun earlier member later laterMember => ?_,
          ⟨fun later member => earlierFree job (.inr rfl) later member, pairwise⟩,
          fun other member => ?_⟩
        · rcases laterMember with rfl | laterMember
          · exact clashFree earlier member
          · exact earlierFree earlier (.inl member) later laterMember
        · rcases member with rfl | member
          · exact ⟨checked, extra⟩
          · exact passes other member
      · rintro ⟨earlierFree, ⟨jobFree, pairwise⟩, passes⟩
        refine ⟨fun earlier member later laterMember => ?_, pairwise,
          fun other member => passes other (.inr member)⟩
        rcases member with member | rfl
        · exact earlierFree earlier member later (.inr laterMember)
        · exact jobFree later laterMember

end BranchJobs

/-- `validatePresubmits(presubmits, podNamespace)`: the presubmits of one repository. -/
def validatePresubmits (lib : Library Regexp DecorationConfig) (order : MapOrder)
    (presubmits : List (Presubmit Regexp DecorationConfig)) (podNamespace : String) :
    Except String Unit :=
  validateBranchJobs lib order Presubmit.toJobBase Presubmit.brancher .presubmitJob "presubmit"
    validateTriggering podNamespace ∅ presubmits

/-- `validatePostsubmits(postsubmits, podNamespace)`: as `validatePresubmits`, without the
triggering check. -/
def validatePostsubmits (lib : Library Regexp DecorationConfig) (order : MapOrder)
    (postsubmits : List (Postsubmit Regexp DecorationConfig)) (podNamespace : String) :
    Except String Unit :=
  validateBranchJobs lib order Postsubmit.toJobBase Postsubmit.brancher .postsubmitJob "postsubmit"
    (fun _ => .ok ()) podNamespace ∅ postsubmits

/-- The loop of `validatePeriodics`; `validPeriodics` is the set of names seen so far. -/
def validatePeriodicsFrom (lib : Library Regexp DecorationConfig) (order : MapOrder)
    (podNamespace : String) (validPeriodics : GoMap Unit) :
    List (Periodic DecorationConfig) → Except String Unit
  | [] => .ok ()
  | p :: rest =>
      if p.name ∈ validPeriodics then .error s!"duplicated periodic job : {p.name}"
      else
        match validateJobBase lib order p.toJobBase .periodicJob podNamespace with
        | .error err => .error s!"invalid periodic job {p.name}: {err}"
        | .ok () => validatePeriodicsFrom lib order podNamespace (validPeriodics.insert p.name ()) rest

/-- `validatePeriodics(periodics, podNamespace)`. -/
def validatePeriodics (lib : Library Regexp DecorationConfig) (order : MapOrder)
    (periodics : List (Periodic DecorationConfig)) (podNamespace : String) : Except String Unit :=
  validatePeriodicsFrom lib order podNamespace ∅ periodics

theorem validateBranchJobs_empty_eq_ok_iff {Job : Type} (lib : Library Regexp DecorationConfig)
    (order : MapOrder) (toJobBase : Job → JobBase DecorationConfig)
    (brancher : Job → Brancher Regexp) (jobType : ProwJobType) (kind : String)
    (extraCheck : Job → Except String Unit) (podNamespace : String) (jobs : List Job) :
    validateBranchJobs lib order toJobBase brancher jobType kind extraCheck podNamespace ∅ jobs =
        .ok () ↔
      NoIntersectingDuplicates lib toJobBase brancher jobs ∧
        ∀ job ∈ jobs, validateJobBase lib order (toJobBase job) jobType podNamespace = .ok () ∧
          extraCheck job = .ok () := by
  rw [validateBranchJobs_eq_ok_iff lib order toJobBase brancher jobType kind extraCheck
    podNamespace [] jobs ∅ (fun _ => rfl)]
  simp

theorem validatePeriodicsFrom_eq_ok_iff (lib : Library Regexp DecorationConfig) (order : MapOrder)
    (podNamespace : String) :
    ∀ (validPeriodics : GoMap Unit) (periodics : List (Periodic DecorationConfig)),
      validatePeriodicsFrom lib order podNamespace validPeriodics periodics = .ok () ↔
        (periodics.map (·.name)).Nodup ∧ (∀ p ∈ periodics, p.name ∉ validPeriodics) ∧
          ∀ p ∈ periodics, validateJobBase lib order p.toJobBase .periodicJob podNamespace = .ok ()
  | _, [] => by simp [validatePeriodicsFrom]
  | validPeriodics, p :: rest => by
      rw [validatePeriodicsFrom]
      by_cases seen : p.name ∈ validPeriodics
      · rw [if_pos seen]
        exact ⟨fun failed => (nomatch failed),
          fun ⟨_, fresh, _⟩ => absurd seen (fresh p (List.mem_cons_self _ _))⟩
      rw [if_neg seen]
      cases checked : validateJobBase lib order p.toJobBase .periodicJob podNamespace with
      | error err =>
          refine ⟨fun failed => (nomatch failed), fun ⟨_, _, passes⟩ => ?_⟩
          have := passes p (List.mem_cons_self _ _)
          rw [checked] at this; cases this
      | ok passed =>
          show validatePeriodicsFrom lib order podNamespace _ rest = .ok () ↔ _
          rw [validatePeriodicsFrom_eq_ok_iff]
          simp only [List.map_cons, List.nodup_cons, List.mem_map, AList.mem_insert, not_or,
            List.mem_cons, forall_eq_or_imp, not_exists, not_and]
          constructor
          · rintro ⟨nodup, fresh, passes⟩
            exact ⟨⟨fun other member same => (fresh other member).1 same, nodup⟩,
              ⟨seen, fun other member => (fresh other member).2⟩, checked, passes⟩
          · rintro ⟨⟨absent, nodup⟩, ⟨-, fresh⟩, -, passes⟩
            exact ⟨nodup, fun other member =>
              ⟨fun same => absent other member same, fresh other member⟩, passes⟩

/-- **What the three validators accept.** Each returns no error exactly when no two jobs of
one name conflict (intersecting branches, the earlier job first, for presubmits and
postsubmits; any repetition for periodics) and every job passes its own checks. -/
theorem validators_eq_ok_iff (lib : Library Regexp DecorationConfig) (order : MapOrder)
    (podNamespace : String) :
    (∀ js : List (Presubmit Regexp DecorationConfig),
      validatePresubmits lib order js podNamespace = .ok () ↔
        NoIntersectingDuplicates lib Presubmit.toJobBase Presubmit.brancher js ∧
        ∀ job ∈ js, validateJobBase lib order job.toJobBase .presubmitJob podNamespace = .ok () ∧
          validateTriggering job = .ok ()) ∧
    (∀ js : List (Postsubmit Regexp DecorationConfig),
      validatePostsubmits lib order js podNamespace = .ok () ↔
        NoIntersectingDuplicates lib Postsubmit.toJobBase Postsubmit.brancher js ∧
        ∀ job ∈ js, validateJobBase lib order job.toJobBase .postsubmitJob podNamespace = .ok ()) ∧
    (∀ ps : List (Periodic DecorationConfig),
      validatePeriodics lib order ps podNamespace = .ok () ↔
        (ps.map (·.name)).Nodup ∧
        ∀ p ∈ ps, validateJobBase lib order p.toJobBase .periodicJob podNamespace = .ok ()) := by
  refine ⟨fun js => validateBranchJobs_empty_eq_ok_iff .., fun js => ?_, fun ps => ?_⟩
  · rw [validatePostsubmits, validateBranchJobs_empty_eq_ok_iff]
    simp
  · rw [validatePeriodics, validatePeriodicsFrom_eq_ok_iff]
    simp

/-! ## `validateJobConfig` -/

/-- The loop body at the end of `validateJobConfig` for one periodic: exactly one of `cron`
and `interval` is set, and a set interval is parsed and stored. -/
def setPeriodicInterval (lib : Library Regexp DecorationConfig) (p : Periodic DecorationConfig) :
    Except String (Periodic DecorationConfig) :=
  if p.cron ≠ "" ∧ p.interval ≠ "" then
    .error s!"cron and interval cannot be both set in periodic {p.name}"
  else if p.cron = "" ∧ p.interval = "" then
    .error s!"cron and interval cannot be both empty in periodic {p.name}"
  else if p.cron ≠ "" then .ok p
  else
    match lib.parseDuration p.interval with
    | .error err => .error s!"cannot parse duration for {p.name}: {err}"
    | .ok d => .ok { p with parsedInterval := d }

/-- A periodic's schedule as `validateJobConfig` leaves it: exactly one of `cron` and
`interval` is set, and a set interval's parsed duration is stored. -/
structure Periodic.Scheduled (lib : Library Regexp DecorationConfig)
    (p : Periodic DecorationConfig) : Prop where
  cron_or_interval : p.cron = "" ↔ p.interval ≠ ""
  parsed : p.interval ≠ "" → lib.parseDuration p.interval = .ok p.parsedInterval

theorem setPeriodicInterval_ok {lib : Library Regexp DecorationConfig}
    {p p' : Periodic DecorationConfig} (done : setPeriodicInterval lib p = .ok p') :
    p'.toJobBase = p.toJobBase ∧ Periodic.Scheduled lib p' := by
  unfold setPeriodicInterval at done
  split at done
  · cases done
  rename_i notBoth
  split at done
  · cases done
  rename_i notNeither
  split at done
  · cases done
    exact ⟨rfl, ⟨by tauto, by tauto⟩, by tauto⟩
  rename_i noCron
  split at done
  · cases done
  rename_i d parsed
  cases done
  exact ⟨rfl, ⟨by tauto, by tauto⟩, fun _ => parsed⟩

/-- `(c *Config) validateJobConfig()`: validate every repository's presubmits and
postsubmits in map order, then the periodics, then parse the periodics' intervals. -/
def Config.validateJobConfig (lib : Library Regexp DecorationConfig) (order : MapOrder)
    (c : Config Regexp DecorationConfig) : Except String (Config Regexp DecorationConfig) := do
  (order.enumerate .validatePresubmits c.presubmits).forM fun entry =>
    validatePresubmits lib order entry.2 c.podNamespace
  (order.enumerate .validatePostsubmits c.postsubmits).forM fun entry =>
    validatePostsubmits lib order entry.2 c.podNamespace
  validatePeriodics lib order c.periodics c.podNamespace
  let periodics ← c.periodics.mapM (setPeriodicInterval lib)
  pure { c with periodics := periodics }

/-- **`validateJobConfig`'s spec.** It succeeds exactly when every repository's jobs and the
periodics validate and every periodic's schedule is settled; it changes nothing but the
periodics' parsed intervals. -/
theorem validateJobConfig_eq_ok_iff (lib : Library Regexp DecorationConfig) (order : MapOrder)
    (c result : Config Regexp DecorationConfig) :
    c.validateJobConfig lib order = .ok result ↔
      (∀ repo jobs, c.presubmits.lookup repo = some jobs →
        validatePresubmits lib order jobs c.podNamespace = .ok ()) ∧
      (∀ repo jobs, c.postsubmits.lookup repo = some jobs →
        validatePostsubmits lib order jobs c.podNamespace = .ok ()) ∧
      validatePeriodics lib order c.periodics c.podNamespace = .ok () ∧
      List.Forall₂ (fun p p' => setPeriodicInterval lib p = .ok p') c.periodics result.periodics ∧
      result = { c with periodics := result.periodics } := by
  simp only [Config.validateJobConfig, Except.bind_eq_ok, ← List.mapM_except_eq_ok_iff, pure,
    Except.pure, Except.ok.injEq]
  constructor
  · rintro ⟨⟨⟩, presubmitsPass, ⟨⟩, postsubmitsPass, ⟨⟩, periodicsPass, periodics, parsed, rfl⟩
    exact ⟨(forM_enumerate_eq_ok_iff _ _ _ _).1 presubmitsPass,
      (forM_enumerate_eq_ok_iff _ _ _ _).1 postsubmitsPass, periodicsPass, parsed, rfl⟩
  · rintro ⟨presubmitsPass, postsubmitsPass, periodicsPass, parsed, built⟩
    exact ⟨(), (forM_enumerate_eq_ok_iff _ _ _ _).2 presubmitsPass, (),
      (forM_enumerate_eq_ok_iff _ _ _ _).2 postsubmitsPass, (), periodicsPass, _, parsed,
      built.symm⟩

end ProwJobConfig
