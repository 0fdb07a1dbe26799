import ProwJobConfig.GoMap
import Mathlib.Data.List.Sort

/-!
Contract: the data model that `config.go` resolves, and the functions it calls whose
bodies live outside it.

Owns:
- the job records `JobBase`, `Presubmit`, `Postsubmit`, `Periodic` and their parts, with the
  fields the resolution code reads or writes;
- the settings of `ProwConfig` that `parseProwConfig` defaults and checks (`Settings`), and
  Deck's `Spyglass`;
- `JobConfig`, `ProwConfig` and `Config`, the snapshot `Load` returns;
- `Library`, the Go functions and methods the code calls but does not define: the regexp
  engine, the Kubernetes label validators and selector parser, `time.ParseDuration`,
  `url.Parse`, templates, `logrus.ParseLevel`, `sort.Slice`, and the methods of `Brancher`
  and `DecorationConfig`.

Go pointers are `Option`s, slices are `List`s, `map[string]V` is `GoMap V`, `int` is `Int`
and `time.Duration` is an `Int` of nanoseconds. A compiled `*regexp.Regexp` has the type
parameter `Regexp` and a `*DecorationConfig` the parameter `DecorationConfig`: the results
about the pipeline hold for every library behind them.

Does not own: fields no modelled function reads (annotations, reporter configs, build
specs, tide, branch protection, ...); `MODEL_MAP.json` lists them.
-/

set_option autoImplicit false

namespace ProwJobConfig

/-! ## Agents and job types -/

/-- Modelled from the spec: the container-orchestrator agent kind of §4.6. `config.go` reads
the package constant `KubernetesAgent`, declared outside it. -/
def kubernetesAgent : String := "kubernetes"

/-- Modelled from the spec: the external-build agent kind (`KnativeBuildAgent`). -/
def knativeBuildAgent : String := "knative-build"

/-- Modelled from the spec: the ticket-system agent kind (`JenkinsAgent`). -/
def jenkinsAgent : String := "jenkins"

/-- Modelled from the spec: the pipeline-engine agent kind (`TektonAgent`). -/
def tektonAgent : String := "tekton-pipeline"

/-- `ProwJobType`: the kind of job a validator is checking. -/
inductive ProwJobType where
  | presubmitJob
  | postsubmitJob
  | periodicJob
  | batchJob
deriving DecidableEq, Repr

/-! ## Pod specs and presets -/

/-- `v1.EnvVar`: the name and value a preset injects. -/
structure EnvVar where
  name : String
  value : String
deriving DecidableEq, Repr

/-- `v1.Volume`, identified by its name. -/
structure Volume where
  name : String
deriving DecidableEq, Repr

/-- `v1.Container`: the parts validation and preset merging read. -/
structure Container where
  command : List String := []
  args : List String := []
  env : List EnvVar := []
deriving DecidableEq, Repr

/-- `v1.PodSpec`. -/
structure PodSpec where
  initContainers : List Container := []
  containers : List Container := []
  volumes : List Volume := []
deriving DecidableEq, Repr

/-- `Preset`: the label pairs a job must carry, and what is then merged into its pod. -/
structure Preset where
  labels : GoMap String := ∅
  env : List EnvVar := []
  volumes : List Volume := []
deriving DecidableEq

/-! ## Jobs -/

/-- `GitHubTeamSlug`. -/
structure GitHubTeamSlug where
  slug : String
  org : String
deriving DecidableEq, Repr

/-- `RerunAuthConfig`: who may rerun a job from Deck. -/
structure RerunAuthConfig where
  allowAnyone : Bool := false
  gitHubUsers : List String := []
  gitHubTeamIDs : List Int := []
  gitHubTeamSlugs : List GitHubTeamSlug := []
deriving DecidableEq, Repr

/-- `Refs`: the org and repo an extra ref names. -/
structure Refs where
  org : String
  repo : String
deriving DecidableEq, Repr

/-- `JobBase` with its embedded `UtilityConfig`. `jobNamespace` is the Go field `Namespace`,
a keyword in Lean. -/
structure JobBase (DecorationConfig : Type) where
  name : String
  labels : GoMap String := ∅
  maxConcurrency : Int := 0
  agent : String := ""
  cluster : String := ""
  jobNamespace : Option String := none
  errorOnEviction : Bool := false
  sourcePath : String := ""
  spec : Option PodSpec := none
  rerunAuthConfig : Option RerunAuthConfig := none
  decorate : Bool := false
  decorationConfig : Option DecorationConfig := none
  extraRefs : List Refs := []
deriving DecidableEq

/-- `Brancher`: branch patterns and, after `setBrancherRegexes`, their compiled matchers. -/
structure Brancher (Regexp : Type) where
  skipBranches : List String := []
  branches : List String := []
  re : Option Regexp := none
  reSkip : Option Regexp := none
deriving DecidableEq

/-- `RegexpChangeMatcher`: the `run_if_changed` pattern and its compiled matcher. -/
structure RegexpChangeMatcher (Regexp : Type) where
  runIfChanged : String := ""
  reChanges : Option Regexp := none
deriving DecidableEq

/-- `Presubmit`, with its embedded `Reporter` fields `context` and `skipReport`. `re` is the
compiled trigger. -/
structure Presubmit (Regexp DecorationConfig : Type) extends JobBase DecorationConfig where
  alwaysRun : Bool := false
  trigger : String := ""
  rerunCommand : String := ""
  brancher : Brancher Regexp := {}
  regexpChangeMatcher : RegexpChangeMatcher Regexp := {}
  context : String := ""
  skipReport : Bool := false
  re : Option Regexp := none
deriving DecidableEq

/-- `Postsubmit`, with its embedded `Reporter` fields. -/
structure Postsubmit (Regexp DecorationConfig : Type) extends JobBase DecorationConfig where
  brancher : Brancher Regexp := {}
  regexpChangeMatcher : RegexpChangeMatcher Regexp := {}
  context : String := ""
  skipReport : Bool := false
deriving DecidableEq

/-- `Periodic`. `parsedInterval` is the unexported field `interval` that
`validateJobConfig` fills from the `Interval` string. -/
structure Periodic (DecorationConfig : Type) extends JobBase DecorationConfig where
  cron : String := ""
  interval : String := ""
  parsedInterval : Int := 0
deriving DecidableEq

/-! ## Configuration -/

/-- `JobConfig`. `allRepos` is the `sets.String` of repositories with jobs. -/
structure JobConfig (Regexp DecorationConfig : Type) where
  presets : List Preset := []
  presubmits : GoMap (List (Presubmit Regexp DecorationConfig)) := ∅
  postsubmits : GoMap (List (Postsubmit Regexp DecorationConfig)) := ∅
  periodics : List (Periodic DecorationConfig) := []
  allRepos : GoMap Unit := ∅
deriving DecidableEq

/-- `Controller`: the settings `ValidateController` checks and defaults. -/
structure Controller where
  jobURLTemplateString : String := ""
  reportTemplateString : String := ""
  maxConcurrency : Int := 0
  maxGoroutines : Int := 0
deriving DecidableEq, Repr

/-- `Plank`, with its embedded `Controller`. -/
structure Plank (DecorationConfig : Type) extends Controller where
  defaultDecorationConfig : Option DecorationConfig := none
  defaultDecorationConfigs : GoMap (Option DecorationConfig) := ∅
  jobURLPrefixConfig : GoMap String := ∅
deriving DecidableEq

/-- `Deck`: the global rerun policy. -/
structure Deck where
  rerunAuthConfig : RerunAuthConfig := {}
deriving DecidableEq, Repr

/-- `SlackReporter`. -/
structure SlackReporter where
  channel : String := ""
  reportTemplate : String := ""
deriving DecidableEq, Repr

/-- `JenkinsOperator`: its controller settings and the label selector of its jobs. -/
structure JenkinsOperator extends Controller where
  labelSelectorString : String := ""
deriving DecidableEq, Repr

/-- `ExternalAgentLog`: an agent, the selector of its jobs, and the template of their log
URLs. -/
structure ExternalAgentLog where
  agent : String := ""
  selectorString : String := ""
  urlTemplateString : String := ""
deriving DecidableEq, Repr

/-- `Gerrit`: how often to sync, and how many changes to query per call. -/
structure Gerrit where
  tickInterval : Option Int := none
  rateLimit : Int := 0
deriving DecidableEq, Repr

/-- `Sinker`: how often to collect garbage, and how old a job or pod may grow. -/
structure Sinker where
  resyncPeriod : Option Int := none
  maxProwJobAge : Option Int := none
  maxPodAge : Option Int := none
deriving DecidableEq, Repr

/-- The settings of `ProwConfig` that `parseProwConfig` defaults and checks and that no job
resolution step reads. A `*metav1.Duration` is an `Option Int` of nanoseconds.
`podPendingTimeout` and `podRunningTimeout` are Plank's; `jobTypesToReport` is
`GitHubReporter`'s; `externalAgentLogs` and `tideUpdatePeriod` are Deck's;
`pushGatewayInterval` is `PushGateway.Interval`; `linkURLFromConfig` is
`GitHubOptions.LinkURLFromConfig`. -/
structure Settings where
  podPendingTimeout : Option Int := none
  podRunningTimeout : Option Int := none
  gerrit : Gerrit := {}
  jobTypesToReport : List String := []
  jenkinsOperators : List JenkinsOperator := []
  externalAgentLogs : List ExternalAgentLog := []
  tideUpdatePeriod : Option Int := none
  pushGatewayInterval : Option Int := none
  sinker : Sinker := {}
  linkURLFromConfig : String := ""
  statusErrorLink : String := ""
  logLevel : String := ""
  defaultJobTimeout : Option Int := none
deriving DecidableEq, Repr

/-- `ProwConfig`: the controller-level settings. -/
structure ProwConfig (DecorationConfig : Type) where
  plank : Plank DecorationConfig := {}
  deck : Deck := {}
  slackReporter : Option SlackReporter := none
  prowJobNamespace : String := ""
  podNamespace : String := ""
  settings : Settings := {}
deriving DecidableEq

/-- `LensConfig`: the lens's name. Its `Config`, raw JSON that only the lens reads, is left
out. -/
structure LensConfig where
  name : String := ""
deriving DecidableEq, Repr

/-- `LensFileConfig`: the patterns of the files a lens needs, those it may use, and the lens. -/
structure LensFileConfig where
  requiredFiles : List String := []
  optionalFiles : List String := []
  lens : LensConfig := {}
deriving DecidableEq, Repr

/-- `Spyglass`, with the fields `parseProwConfig` reads or writes. -/
structure Spyglass (Regexp : Type) where
  lenses : List LensFileConfig := []
  viewers : GoMap (List String) := ∅
  regexCache : GoMap Regexp := ∅
  sizeLimit : Int := 0
deriving DecidableEq

/-- `Config`: a snapshot of the whole configuration, `JobConfig` and `ProwConfig` embedded.
`spyglass` is `Deck.Spyglass`, held here as its regex cache holds compiled patterns. -/
structure Config (Regexp DecorationConfig : Type) extends
    JobConfig Regexp DecorationConfig, ProwConfig DecorationConfig where
  spyglass : Spyglass Regexp := {}
deriving DecidableEq

/-! ## What the code calls but does not define -/

/-- The Go functions and methods `config.go` calls whose bodies are elsewhere: in the Go
standard library, in Kubernetes' `apimachinery`, or in the files of the package that declare
`Brancher` and `DecorationConfig`. Each field is the function's observable result; a panic
inside one of them is folded into its error, as `Load` recovers it. -/
structure Library (Regexp DecorationConfig : Type) where
  /-- `regexp.Compile`. -/
  compile : String → Except String Regexp
  /-- `(*regexp.Regexp).MatchString`: some substring matches. -/
  matchString : Regexp → String → Bool
  /-- `validation.IsQualifiedName`: its list of problems, empty for a valid label key. -/
  isQualifiedName : String → List String
  /-- `validation.IsValidLabelValue`: its list of problems. -/
  isValidLabelValue : String → List String
  /-- `time.ParseDuration`, in nanoseconds. -/
  parseDuration : String → Except String Int
  /-- `url.Parse`, of which only the error is read. -/
  parseURL : String → Except String Unit
  /-- `template.New(name).Parse(text)`, name first, of which only the error is read. -/
  parseTemplate : String → String → Except String Unit
  /-- Executing the template `template.New(name).Parse(text)` against an empty `ProwJob`. -/
  executeTemplate : String → String → Except String Unit
  /-- `labels.Parse`, of which only the error is read. -/
  parseSelector : String → Except String Unit
  /-- `logrus.ParseLevel`, of which only the error is read. -/
  parseLevel : String → Except String Unit
  /-- `Brancher.Intersects`. -/
  intersects : Brancher Regexp → Brancher Regexp → Bool
  /-- `(*DecorationConfig).ApplyDefault`, receiver first. -/
  applyDefault : Option DecorationConfig → Option DecorationConfig → Option DecorationConfig
  /-- `(*DecorationConfig).Validate`, on a possibly nil receiver. -/
  validate : Option DecorationConfig → Except String Unit
  /-- `sort.Slice` on a slice of `n` elements, given `less` on the positions the elements
  start at: those positions in the order the sort leaves the elements. Go's sorts move the
  elements only by swaps, decided by `less` alone, so where each element ends depends on
  nothing else it holds; and a sort only permutes the slice. -/
  sortSlice : (n : Nat) → (Nat → Nat → Bool) → { positions : List Nat // positions.Perm (List.range n) }

/-- A library under which every call succeeds: every pattern compiles and matches, every
label, duration, URL, template, selector, log level and decoration config is accepted, no two
branchers intersect,
a job's own decoration config, when set, is kept whole over the default, and slices are sorted
by insertion, which keeps equal elements in the order they came in. -/
def acceptingLibrary {DecorationConfig : Type} : Library Unit DecorationConfig where
  compile _ := .ok ()
  matchString _ _ := true
  isQualifiedName _ := []
  isValidLabelValue _ := []
  parseDuration _ := .ok 0
  parseURL _ := .ok ()
  parseTemplate _ _ := .ok ()
  executeTemplate _ _ := .ok ()
  parseSelector _ := .ok ()
  parseLevel _ := .ok ()
  intersects _ _ := false
  applyDefault own default := own.or default
  validate _ := .ok ()
  sortSlice n less :=
    ⟨(List.range n).insertionSort (fun i j => less j i = false), List.perm_insertionSort _ _⟩

end ProwJobConfig
