import ProwJobConfig.Types

/-!
Contract: `ValidateController`, and the steps of `parseProwConfig` on the settings no
job-resolution step reads: the plank timeouts, Gerrit, the job types the GitHub reporter
reports, the Jenkins operators, Deck's external agent logs and Tide update period, the push
gateway, Sinker, the GitHub link URL, the status error link, the log level and the default
job timeout. `parseProwConfig` runs them in two parts, `Settings.parseReports` before its
steps on Deck's Spyglass and `Settings.parseLinks` after them; `Settings.parse` is the two
in a row.

Owns: what these steps leave (`Settings.parse_settled`: every default set), and that a
configuration they accept is left as it is by a second pass (`Settings.parse_idempotent`).

Does not own: the composition with the other steps of `parseProwConfig` (`Load.lean`),
`labels.Parse` and `logrus.ParseLevel`, which `Library` abstracts, and `logrus.SetLevel`,
whose effect is on the process.
-/

set_option autoImplicit false

namespace ProwJobConfig

variable {Regexp DecorationConfig : Type}

/-! ## Controller settings -/

/-- `ValidateController(c)`: both templates parse, `max_concurrency` is not negative, and
`max_goroutines` defaults to 20 and must be positive. -/
def validateController (lib : Library Regexp DecorationConfig) (c : Controller) :
    Except String Controller :=
  match lib.parseTemplate "JobURL" c.jobURLTemplateString with
  | .error err => .error s!"parsing template: {err}"
  | .ok () =>
      match lib.parseTemplate "Report" c.reportTemplateString with
      | .error err => .error s!"parsing template: {err}"
      | .ok () =>
          if c.maxConcurrency < 0 then
            .error s!"controller has invalid max_concurrency ({c.maxConcurrency}), it needs to be a non-negative number"
          else
            let c := { c with maxGoroutines := if c.maxGoroutines = 0 then 20 else c.maxGoroutines }
            if c.maxGoroutines ≤ 0 then
              .error s!"controller has invalid max_goroutines ({c.maxGoroutines}), it needs to be a positive number"
            else .ok c

/-! ## The steps -/

/-- `time.Second`, in nanoseconds. -/
def timeSecond : Int := 1000000000

/-- `time.Minute`. -/
def timeMinute : Int := 60 * timeSecond

/-- `time.Hour`. -/
def timeHour : Int := 60 * timeMinute

/-- The string a `ProwJobType` constant holds. -/
def ProwJobType.name : ProwJobType → String
  | .presubmitJob => "presubmit"
  | .postsubmitJob => "postsubmit"
  | .periodicJob => "periodic"
  | .batchJob => "batch"

namespace Settings

/-- The check of one job type to report: only presubmits and postsubmits are reported to
GitHub. -/
def validateJobTypeToReport (t : String) : Except String Unit :=
  if t ≠ ProwJobType.presubmitJob.name ∧ t ≠ ProwJobType.postsubmitJob.name then
    .error s!"invalid job_types_to_report: {t}"
  else .ok ()

/-- One pass of the loop over `c.JenkinsOperators`, on `op` of `operators`: its controller is
validated and its selector parsed; with several operators none may have an empty selector,
and a single one may have none. -/
def validateJenkinsOperator (lib : Library Regexp DecorationConfig)
    (operators : List JenkinsOperator) (op : JenkinsOperator) : Except String JenkinsOperator :=
  match validateController lib op.toController with
  | .error err => .error s!"validating jenkins_operators config: {err}"
  | .ok controller =>
      match lib.parseSelector op.labelSelectorString with
      | .error err => .error s!"invalid jenkins_operators.label_selector option: {err}"
      | .ok () =>
          if operators.length > 1 ∧ op.labelSelectorString = "" then
            .error "selector overlap: cannot use an empty label_selector with multiple selectors"
          else if operators.length = 1 ∧
              (operators.head?.map (·.labelSelectorString)) ≠ some "" then
            .error "label_selector is invalid when used for a single jenkins-operator"
          else .ok { op with toController := controller }

/-- One pass of the loop over `c.Deck.ExternalAgentLogs`: the URL template, named after the
agent, and the selector parse. -/
def validateExternalAgentLog (lib : Library Regexp DecorationConfig) (log : ExternalAgentLog) :
    Except String Unit :=
  match lib.parseTemplate log.agent log.urlTemplateString with
  | .error err => .error s!"parsing template for agent \"{log.agent}\": {err}"
  | .ok () =>
      match lib.parseSelector log.selectorString with
      | .error err => .error s!"error parsing selector \"{log.selectorString}\": {err}"
      | .ok () => .ok ()

/-- The defaults set before the checks: the plank timeouts, Gerrit's tick and rate limit, and
the job types to report. -/
def setReportDefaults (s : Settings) : Settings :=
  { s with
    podPendingTimeout := s.podPendingTimeout.or (some (24 * timeHour))
    podRunningTimeout := s.podRunningTimeout.or (some (48 * timeHour))
    gerrit := { tickInterval := s.gerrit.tickInterval.or (some timeMinute)
                rateLimit := if s.gerrit.rateLimit = 0 then 5 else s.gerrit.rateLimit }
    jobTypesToReport := if s.jobTypesToReport.length = 0 then
        s.jobTypesToReport ++ [ProwJobType.presubmitJob.name, ProwJobType.postsubmitJob.name]
      else s.jobTypesToReport }

/-- The defaults set after the Spyglass steps and before the link URL is parsed: the push
gateway interval, Sinker's periods and the link URL. -/
def setPeriodDefaults (s : Settings) : Settings :=
  { s with
    pushGatewayInterval := s.pushGatewayInterval.or (some timeMinute)
    sinker := { resyncPeriod := s.sinker.resyncPeriod.or (some timeHour)
                maxProwJobAge := s.sinker.maxProwJobAge.or (some (7 * 24 * timeHour))
                maxPodAge := s.sinker.maxPodAge.or (some (24 * timeHour)) }
    linkURLFromConfig := if s.linkURLFromConfig = "" then "https://github.com"
      else s.linkURLFromConfig }

/-- The defaults set after the link URL is parsed: the status error link and the log level. -/
def setLinkDefaults (s : Settings) : Settings :=
  { s with
    statusErrorLink := if s.statusErrorLink = "" then
        "https://github.com/kubernetes/test-infra/issues" else s.statusErrorLink
    logLevel := if s.logLevel = "" then "info" else s.logLevel }

/-- The steps of `parseProwConfig` on these settings before its Spyglass steps, in the
source's order: the report defaults, the job types, the Jenkins operators, the external agent
logs and the Tide update period. -/
def parseReports (lib : Library Regexp DecorationConfig) (s : Settings) :
    Except String Settings := do
  let s := setReportDefaults s
  s.jobTypesToReport.forM validateJobTypeToReport
  let jenkinsOperators ← s.jenkinsOperators.mapM (validateJenkinsOperator lib s.jenkinsOperators)
  s.externalAgentLogs.forM (validateExternalAgentLog lib)
  pure { s with jenkinsOperators
                tideUpdatePeriod := s.tideUpdatePeriod.or (some (timeSecond * 10)) }

/-- The steps of `parseProwConfig` on these settings after its Spyglass steps, in the
source's order: the periods, the link URL, the status error link, the log level and the
default job timeout. -/
def parseLinks (lib : Library Regexp DecorationConfig) (s : Settings) : Except String Settings :=
  let s := setPeriodDefaults s
  match lib.parseURL s.linkURLFromConfig with
  | .error err => .error s!"unable to parse github.link_url, might not be a valid url: {err}"
  | .ok () => do
      let s := setLinkDefaults s
      lib.parseLevel s.logLevel
      pure { s with defaultJobTimeout := s.defaultJobTimeout.or (some (24 * timeHour)) }

/-- The steps of `parseProwConfig` on these settings, the two parts in a row. -/
def parse (lib : Library Regexp DecorationConfig) (s : Settings) : Except String Settings :=
  parseReports lib s >>= parseLinks lib

end Settings

/-! ## What each step accepts -/

section Checks

variable {lib : Library Regexp DecorationConfig}

/-- `ValidateController` succeeds iff both templates parse, `max_concurrency` is not negative
and `max_goroutines`, defaulted from 0 to 20, is positive; it then sets that default. -/
theorem validateController_eq_ok_iff (c c' : Controller) :
    validateController lib c = .ok c' ↔
      lib.parseTemplate "JobURL" c.jobURLTemplateString = .ok () ∧
        lib.parseTemplate "Report" c.reportTemplateString = .ok () ∧ 0 ≤ c.maxConcurrency ∧
        0 < (if c.maxGoroutines = 0 then 20 else c.maxGoroutines) ∧
        c' = { c with maxGoroutines := if c.maxGoroutines = 0 then 20 else c.maxGoroutines } := by
  unfold validateController
  cases lib.parseTemplate "JobURL" c.jobURLTemplateString with
  | error err => simp
  | ok _ =>
      cases lib.parseTemplate "Report" c.reportTemplateString with
      | error err => simp
      | ok _ =>
          simp only [true_and]
          split_ifs <;> simp_all [eq_comm]

/-- A validated controller validates to itself. -/
theorem validateController_idempotent {c c' : Controller} (valid : validateController lib c = .ok c') :
    validateController lib c' = .ok c' := by
  obtain ⟨jobURL, report, concurrency, goroutines, rfl⟩ := (validateController_eq_ok_iff c c').1 valid
  rw [validateController_eq_ok_iff]
  refine ⟨jobURL, report, concurrency, ?_, ?_⟩ <;> split_ifs at goroutines ⊢ <;> simp_all

open Settings in
/-- An operator the check passed passes it again, among operators with the same selectors. -/
theorem validateJenkinsOperator_revalidate {operators operators' : List JenkinsOperator}
    {op op' : JenkinsOperator}
    (sameSelectors : operators'.map (·.labelSelectorString) = operators.map (·.labelSelectorString))
    (valid : validateJenkinsOperator lib operators op = .ok op') :
    validateJenkinsOperator lib operators' op' = .ok op' := by
  have sameLength : operators'.length = operators.length := by
    simpa using congrArg List.length sameSelectors
  have sameHead : operators'.head?.map (·.labelSelectorString) =
      operators.head?.map (·.labelSelectorString) := by
    simpa [List.head?_map] using congrArg List.head? sameSelectors
  unfold validateJenkinsOperator at valid ⊢
  cases controlled : validateController lib op.toController with
  | error err => simp [controlled] at valid
  | ok controller =>
      cases selected : lib.parseSelector op.labelSelectorString with
      | error err => simp [controlled, selected] at valid
      | ok _ =>
          simp only [controlled, selected] at valid
          split_ifs at valid with several single
          cases valid
          simp only [validateController_idempotent controlled, selected, sameLength, sameHead]
          rw [if_neg several, if_neg single]

open Settings in
theorem validateJenkinsOperator_labelSelectorString {operators : List JenkinsOperator}
    {op op' : JenkinsOperator} (valid : validateJenkinsOperator lib operators op = .ok op') :
    op'.labelSelectorString = op.labelSelectorString := by
  unfold validateJenkinsOperator at valid
  split at valid
  · cases valid
  · split at valid
    · cases valid
    · split_ifs at valid
      cases valid
      rfl

open Settings in
/-- **The loop over the Jenkins operators is idempotent.** The operators it leaves pass it
again, unchanged. -/
theorem mapM_validateJenkinsOperator_idempotent {operators checked : List JenkinsOperator}
    (valid : operators.mapM (validateJenkinsOperator lib operators) = .ok checked) :
    checked.mapM (validateJenkinsOperator lib checked) = .ok checked := by
  have related := (List.mapM_except_eq_ok_iff _ operators checked).1 valid
  have kept : List.Forall₂ (fun op op' : JenkinsOperator =>
      op.labelSelectorString = op'.labelSelectorString) operators checked :=
    related.imp fun _ _ passed => (validateJenkinsOperator_labelSelectorString passed).symm
  have sameSelectors : checked.map (·.labelSelectorString) =
      operators.map (·.labelSelectorString) := by
    have equal := List.forall₂_map_left_iff.2 (List.forall₂_map_right_iff.2 kept)
    rw [List.forall₂_eq_eq_eq] at equal
    exact equal.symm
  refine (List.mapM_except_eq_ok_iff _ checked checked).2 (List.forall₂_same.2 fun op' member => ?_)
  obtain ⟨op, -, passed⟩ := forall₂_exists_of_mem_right related member
  exact validateJenkinsOperator_revalidate sameSelectors passed

end Checks

/-! ## What the defaults leave -/

namespace Settings

@[simp] theorem setReportDefaults_jenkinsOperators (s : Settings) :
    (setReportDefaults s).jenkinsOperators = s.jenkinsOperators := rfl

@[simp] theorem setReportDefaults_externalAgentLogs (s : Settings) :
    (setReportDefaults s).externalAgentLogs = s.externalAgentLogs := rfl

@[simp] theorem setReportDefaults_linkURLFromConfig (s : Settings) :
    (setReportDefaults s).linkURLFromConfig = s.linkURLFromConfig := rfl

@[simp] theorem setReportDefaults_logLevel (s : Settings) :
    (setReportDefaults s).logLevel = s.logLevel := rfl

@[simp] theorem setPeriodDefaults_linkURLFromConfig (s : Settings) :
    (setPeriodDefaults s).linkURLFromConfig =
      if s.linkURLFromConfig = "" then "https://github.com" else s.linkURLFromConfig := rfl

@[simp] theorem setPeriodDefaults_logLevel (s : Settings) :
    (setPeriodDefaults s).logLevel = s.logLevel := rfl

@[simp] theorem setLinkDefaults_logLevel (s : Settings) :
    (setLinkDefaults s).logLevel = if s.logLevel = "" then "info" else s.logLevel := rfl

/-- Every setting with a default holds a value. -/
structure Settled (t : Settings) : Prop where
  podPendingTimeout : t.podPendingTimeout.isSome
  podRunningTimeout : t.podRunningTimeout.isSome
  tickInterval : t.gerrit.tickInterval.isSome
  rateLimit : t.gerrit.rateLimit ≠ 0
  jobTypesToReport : t.jobTypesToReport.length ≠ 0
  tideUpdatePeriod : t.tideUpdatePeriod.isSome
  pushGatewayInterval : t.pushGatewayInterval.isSome
  resyncPeriod : t.sinker.resyncPeriod.isSome
  maxProwJobAge : t.sinker.maxProwJobAge.isSome
  maxPodAge : t.sinker.maxPodAge.isSome
  linkURLFromConfig : t.linkURLFromConfig ≠ ""
  statusErrorLink : t.statusErrorLink ≠ ""
  logLevel : t.logLevel ≠ ""
  defaultJobTimeout : t.defaultJobTimeout.isSome

/-- The defaults leave a settled configuration as it is. -/
theorem Settled.defaults {t : Settings} (settled : t.Settled) :
    setReportDefaults t = t ∧ t.tideUpdatePeriod.or (some (timeSecond * 10)) = t.tideUpdatePeriod ∧
      setPeriodDefaults t = t ∧ setLinkDefaults t = t ∧
      t.defaultJobTimeout.or (some (24 * timeHour)) = t.defaultJobTimeout := by
  obtain ⟨pending, running, tick, rate, types, tide, push, resync, jobAge, podAge, link, status,
    level, timeout⟩ := settled
  refine ⟨?_, Option.or_of_isSome tide, ?_, ?_, Option.or_of_isSome timeout⟩
  · simp [setReportDefaults, Option.or_of_isSome pending, Option.or_of_isSome running,
      Option.or_of_isSome tick, rate, types]
  · simp [setPeriodDefaults, Option.or_of_isSome push, Option.or_of_isSome resync,
      Option.or_of_isSome jobAge, Option.or_of_isSome podAge, link]
  · simp [setLinkDefaults, status, level]

section Parse

variable {lib : Library Regexp DecorationConfig}

theorem parseReports_eq_ok_iff (s r : Settings) :
    parseReports lib s = .ok r ↔
      (setReportDefaults s).jobTypesToReport.forM validateJobTypeToReport = .ok () ∧
      ∃ operators,
        s.jenkinsOperators.mapM (validateJenkinsOperator lib s.jenkinsOperators) = .ok operators ∧
        s.externalAgentLogs.forM (validateExternalAgentLog lib) = .ok () ∧
        r = { setReportDefaults s with
              jenkinsOperators := operators
              tideUpdatePeriod := s.tideUpdatePeriod.or (some (timeSecond * 10)) } := by
  unfold parseReports
  simp only [setReportDefaults_jenkinsOperators, setReportDefaults_externalAgentLogs]
  cases (setReportDefaults s).jobTypesToReport.forM validateJobTypeToReport with
  | error err => simp [bind, Except.bind]
  | ok _ =>
      cases s.jenkinsOperators.mapM (validateJenkinsOperator lib s.jenkinsOperators) with
      | error err => simp [bind, Except.bind]
      | ok operators =>
          cases s.externalAgentLogs.forM (validateExternalAgentLog lib) with
          | error err => simp [bind, Except.bind]
          | ok _ => simp [bind, Except.bind, pure, Except.pure, eq_comm]; rfl

theorem parseLinks_eq_ok_iff (r t : Settings) :
    parseLinks lib r = .ok t ↔
      lib.parseURL (if r.linkURLFromConfig = "" then "https://github.com"
        else r.linkURLFromConfig) = .ok () ∧
      lib.parseLevel (if r.logLevel = "" then "info" else r.logLevel) = .ok () ∧
      t = { setLinkDefaults (setPeriodDefaults r) with
            defaultJobTimeout := r.defaultJobTimeout.or (some (24 * timeHour)) } := by
  unfold parseLinks
  simp only [setPeriodDefaults_linkURLFromConfig, setLinkDefaults_logLevel,
    setPeriodDefaults_logLevel]
  cases lib.parseURL (if r.linkURLFromConfig = "" then "https://github.com"
      else r.linkURLFromConfig) with
  | error err => simp
  | ok _ =>
      cases lib.parseLevel (if r.logLevel = "" then "info" else r.logLevel) with
      | error err => simp [bind, Except.bind]
      | ok _ => simp [bind, Except.bind, pure, Except.pure, eq_comm]; rfl

/-- **What `parse` does.** It succeeds iff each check passes, on the settings as defaulted
when the check runs, and then leaves the defaults and the checked Jenkins operators. -/
theorem parse_eq_ok_iff (s t : Settings) :
    parse lib s = .ok t ↔
      (setReportDefaults s).jobTypesToReport.forM validateJobTypeToReport = .ok () ∧
      ∃ operators,
        s.jenkinsOperators.mapM (validateJenkinsOperator lib s.jenkinsOperators) = .ok operators ∧
        s.externalAgentLogs.forM (validateExternalAgentLog lib) = .ok () ∧
        lib.parseURL (if s.linkURLFromConfig = "" then "https://github.com"
          else s.linkURLFromConfig) = .ok () ∧
        lib.parseLevel (if s.logLevel = "" then "info" else s.logLevel) = .ok () ∧
        t = { setLinkDefaults (setPeriodDefaults { setReportDefaults s with
                jenkinsOperators := operators
                tideUpdatePeriod := s.tideUpdatePeriod.or (some (timeSecond * 10)) })
              with defaultJobTimeout := s.defaultJobTimeout.or (some (24 * timeHour)) } := by
  rw [parse, Except.bind_eq_ok]
  constructor
  · rintro ⟨r, reported, linked⟩
    obtain ⟨types, operators, checked, logs, rfl⟩ := (parseReports_eq_ok_iff s r).1 reported
    obtain ⟨url, level, rfl⟩ := (parseLinks_eq_ok_iff _ t).1 linked
    exact ⟨types, operators, checked, logs, url, level, rfl⟩
  · rintro ⟨types, operators, checked, logs, url, level, rfl⟩
    exact ⟨_, (parseReports_eq_ok_iff s _).2 ⟨types, operators, checked, logs, rfl⟩,
      (parseLinks_eq_ok_iff _ _).2 ⟨url, level, rfl⟩⟩

/-- What `parse` leaves has every default set. -/
theorem parse_settled {s t : Settings} (done : parse lib s = .ok t) : t.Settled := by
  obtain ⟨-, -, -, -, -, -, rfl⟩ := (parse_eq_ok_iff s t).1 done
  constructor <;> simp only [setLinkDefaults, setPeriodDefaults, setReportDefaults,
    Option.isSome_or, Option.isSome_some, Bool.or_true] <;> split_ifs <;> simp_all

/-- **A configuration the settings steps accept is left as it is by a second pass.** Every
default they set is already set, every check they made passes again, and the Jenkins
operators they checked check to themselves. -/
theorem parse_idempotent {lib : Library Regexp DecorationConfig} {s t : Settings}
    (done : parse lib s = .ok t) : parse lib t = .ok t := by
  have settled := parse_settled done
  obtain ⟨report, tide, period, link, timeout⟩ := settled.defaults
  obtain ⟨types, checked, passed, logs, url, level, formed⟩ := (parse_eq_ok_iff s t).1 done
  have operators : t.jenkinsOperators = checked := by
    rw [formed]
    rfl
  refine (parse_eq_ok_iff t t).2 ⟨?_, checked, ?_, ?_, ?_, ?_, ?_⟩
  · rw [report, formed]
    exact types
  · rw [operators]
    exact mapM_validateJenkinsOperator_idempotent passed
  · rw [formed]
    exact logs
  · rw [if_neg settled.linkURLFromConfig, formed]
    exact url
  · rw [if_neg settled.logLevel, formed]
    exact level
  · rw [report, tide, ← operators]
    show t = { setLinkDefaults (setPeriodDefaults t) with
      defaultJobTimeout := t.defaultJobTimeout.or (some (24 * timeHour)) }
    rw [period, link, timeout]

/-- Two Jenkins operators sharded by selector, and presubmits reported to GitHub. -/
def shardedSettings : Settings :=
  { jobTypesToReport := ["presubmit"]
    jenkinsOperators := [{ labelSelectorString := "shard=a" }, { labelSelectorString := "shard=b" }] }

theorem parse_idempotent_sharded :
    ∃ t, parse (acceptingLibrary : Library Unit Unit) shardedSettings = .ok t ∧
      parse (acceptingLibrary : Library Unit Unit) t = .ok t :=
  let ⟨t, done⟩ := Except.exists_ok_of_isOk (show (parse (acceptingLibrary : Library Unit Unit)
    shardedSettings).isOk = true from rfl)
  ⟨t, done, parse_idempotent done⟩

end Parse

end Settings

end ProwJobConfig
