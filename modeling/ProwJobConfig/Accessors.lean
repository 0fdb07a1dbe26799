import ProwJobConfig.Load

/-!
Contract: the accessors `config.go` gives the components that read a loaded configuration:
`Plank.GetJobURLPrefix`, `InRepoConfigEnabled`, `OwnersDirBlacklist.DirBlacklist` and
`ConfigPath`.

Owns: that every job URL prefix `GetJobURLPrefix` hands out from a resolved configuration is
the configured one, and empty or a URL that parses (`resolveConfig_jobURLPrefix_parses`):
`validateComponentConfig` checks every entry of `job_url_prefix_config`, no step of the
resolution changes them, and the accessor only ever returns one of them or the empty string
a missing key reads as.

Does not own: the components that call the accessors, and `logrus`'s warning in
`ConfigPath`.
-/

set_option autoImplicit false

namespace ProwJobConfig

variable {Regexp DecorationConfig : Type}

/-! ## The accessors -/

/-- `(p Plank) GetJobURLPrefix(refs)`: with no refs the prefix under `*`; otherwise the first
non-empty prefix under `org/repo`, under `org` and under `*`. A missing key reads as `""`. -/
def Plank.getJobURLPrefix (p : Plank DecorationConfig) : Option Refs → String
  | none => p.jobURLPrefixConfig.getD "*" ""
  | some refs =>
      if p.jobURLPrefixConfig.getD (refs.org ++ "/" ++ refs.repo) "" ≠ "" then
        p.jobURLPrefixConfig.getD (refs.org ++ "/" ++ refs.repo) ""
      else if p.jobURLPrefixConfig.getD refs.org "" ≠ "" then p.jobURLPrefixConfig.getD refs.org ""
      else p.jobURLPrefixConfig.getD "*" ""

/-- `InRepoConfig`: whether in-repo config is enabled, under `*`, an org or `org/repo`; a key
that holds a nil pointer is `none`. -/
structure InRepoConfig where
  enabled : GoMap (Option Bool) := ∅

/-- `(c *Config) InRepoConfigEnabled(identifier)`, where `fake` is whether the test-only
`FakeInRepoConfig` is set: the setting under the identifier, else under its org when the
identifier has exactly one slash, else under `*`, else disabled. -/
def InRepoConfig.inRepoConfigEnabled (config : InRepoConfig) (fake : Bool) (identifier : String) :
    Bool :=
  if fake then true
  else
    match (config.enabled.lookup identifier).join with
    | some enabled => enabled
    | none =>
        let identifierSlashSplit := (identifier.toList.splitOn '/').map String.mk
        match (if identifierSlashSplit.length = 2 then
            (config.enabled.lookup (identifierSlashSplit.headD "")).join else none) with
        | some enabled => enabled
        | none => ((config.enabled.lookup "*").join).getD false

/-- `OwnersDirBlacklist`: the directories to skip when looking for `OWNERS` files, per repo or
org and by default. -/
structure OwnersDirBlacklist where
  repos : GoMap (List String) := ∅
  default : List String := []
  ignorePreconfiguredDefaults : Bool := false

/-- The directories `DirBlacklist` always skips unless told not to. -/
def preconfiguredDefaults : List String := ["\\.git$", "_output$", "vendor/.*/.*"]

/-- `(ownersDirBlacklist OwnersDirBlacklist) DirBlacklist(org, repo)`: the default list, then
the org's, then the repo's, then the preconfigured directories unless they are ignored. -/
def OwnersDirBlacklist.dirBlacklist (b : OwnersDirBlacklist) (org repo : String) :
    List String :=
  let blacklist := [] ++ b.default
  let blacklist := match b.repos.lookup org with
    | some bl => blacklist ++ bl
    | none => blacklist
  let blacklist := match b.repos.lookup (org ++ "/" ++ repo) with
    | some bl => blacklist ++ bl
    | none => blacklist
  if !b.ignorePreconfiguredDefaults then blacklist ++ preconfiguredDefaults else blacklist

/-- `DefaultConfigPath`. -/
def defaultConfigPath : String := "/etc/config/config.yaml"

/-- `ConfigPath(value)`: the value when given, else the default path. -/
def configPath (value : String) : String :=
  if value ≠ "" then value else defaultConfigPath

/-! ## The job URL prefixes of a resolved configuration -/

/-- `GetJobURLPrefix` reads one key of the prefix map. -/
theorem Plank.getJobURLPrefix_eq_getD (p : Plank DecorationConfig) (refs : Option Refs) :
    ∃ key, p.getJobURLPrefix refs = p.jobURLPrefixConfig.getD key "" := by
  cases refs with
  | none => exact ⟨_, rfl⟩
  | some refs =>
      simp only [Plank.getJobURLPrefix]
      split_ifs
      · exact ⟨_, rfl⟩
      · exact ⟨_, rfl⟩
      · exact ⟨_, rfl⟩

/-- `GetJobURLPrefix` reads nothing of plank but the prefix map. -/
theorem Plank.getJobURLPrefix_congr {p q : Plank DecorationConfig}
    (same : p.jobURLPrefixConfig = q.jobURLPrefixConfig) (refs : Option Refs) :
    p.getJobURLPrefix refs = q.getJobURLPrefix refs := by
  cases refs <;> simp only [Plank.getJobURLPrefix, same]

/-- `finalizeJobConfig` leaves the job URL prefixes as they are: it only settles the default
decoration configs of plank. -/
theorem finalizeJobConfig_jobURLPrefixConfig {lib : Library Regexp DecorationConfig}
    {order : MapOrder} {c result : Config Regexp DecorationConfig}
    (done : c.finalizeJobConfig lib order = .ok result) :
    result.plank.jobURLPrefixConfig = c.plank.jobURLPrefixConfig := by
  obtain ⟨settled, -, -, -, settledOk, -, -, -, rfl⟩ := finalizeJobConfig_ok done
  split_ifs at settledOk
  · obtain ⟨configs, wildcard, -, -, rfl⟩ := settleDecorationDefaults_ok settledOk
    rfl
  · cases settledOk
    rfl

/-- `validateComponentConfig` passes only if every job URL prefix parses. -/
theorem validateComponentConfig_jobURLPrefix_parses {lib : Library Regexp DecorationConfig}
    {order : MapOrder} {c result : Config Regexp DecorationConfig}
    (done : c.validateComponentConfig lib order = .ok result) {key value : String}
    (found : c.plank.jobURLPrefixConfig.lookup key = some value) : lib.parseURL value = .ok () := by
  unfold Config.validateComponentConfig at done
  obtain ⟨⟨⟩, prefixes, -⟩ := Except.bind_eq_ok.1 done
  have passed := (forM_enumerate_eq_ok_iff order _ _ _).1 prefixes key value found
  split at passed
  · cases passed
  · assumption

/-- **Every job URL prefix of a resolved configuration parses.** After `resolveConfig`
succeeds, `GetJobURLPrefix` gives, for every refs or none, the prefix the configuration it
started from gives, and that prefix is either empty or one `url.Parse` accepts. -/
theorem resolveConfig_jobURLPrefix_parses {lib : Library Regexp DecorationConfig}
    {order : MapOrder} {c result : Config Regexp DecorationConfig}
    (done : resolveConfig lib order c = .ok result) (refs : Option Refs) :
    result.plank.getJobURLPrefix refs = c.plank.getJobURLPrefix refs ∧
      (result.plank.getJobURLPrefix refs = "" ∨
        lib.parseURL (result.plank.getJobURLPrefix refs) = .ok ()) := by
  obtain ⟨finalized, validated, finalizedOk, validatedOk, resultOk⟩ := resolveConfig_ok done
  have kept : result.plank = finalized.plank := by
    obtain ⟨-, -, -, -, built⟩ := (validateJobConfig_eq_ok_iff lib order validated result).1 resultOk
    rw [built, validateComponentConfig_ok validatedOk]
  have unchanged : result.plank.jobURLPrefixConfig = c.plank.jobURLPrefixConfig := by
    rw [kept, finalizeJobConfig_jobURLPrefixConfig finalizedOk]
  refine ⟨Plank.getJobURLPrefix_congr unchanged refs, ?_⟩
  obtain ⟨key, read⟩ := result.plank.getJobURLPrefix_eq_getD refs
  rw [read, kept, GoMap.getD]
  cases found : finalized.plank.jobURLPrefixConfig.lookup key with
  | none => exact .inl rfl
  | some value => exact .inr (validateComponentConfig_jobURLPrefix_parses validatedOk found)

/-- A snapshot whose plank shows job details under one URL prefix. -/
def prefixedConfig : Config Unit Unit :=
  { plank := { jobURLPrefixConfig := GoMap.ofPairs [("*", "https://prow.example.com/view/")] } }

theorem resolveConfig_jobURLPrefix_parses_prefixed :
    ∃ result, resolveConfig acceptingLibrary MapOrder.stored prefixedConfig = .ok result ∧
      result.plank.getJobURLPrefix (some { org := "org", repo := "repo" }) =
        prefixedConfig.plank.getJobURLPrefix (some { org := "org", repo := "repo" }) ∧
      (result.plank.getJobURLPrefix (some { org := "org", repo := "repo" }) = "" ∨
        (acceptingLibrary : Library Unit Unit).parseURL
          (result.plank.getJobURLPrefix (some { org := "org", repo := "repo" })) = .ok ()) := by
  obtain ⟨result, done⟩ := Except.exists_ok_of_isOk
    (show (resolveConfig acceptingLibrary MapOrder.stored prefixedConfig).isOk = true by decide)
  exact ⟨result, done, resolveConfig_jobURLPrefix_parses done _⟩

end ProwJobConfig
