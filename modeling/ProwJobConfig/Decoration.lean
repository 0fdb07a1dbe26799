import ProwJobConfig.Defaults

/-!
Contract: where the decoration config of a finalized job comes from: the job's own config
merged over the default `Plank.GetDefaultDecorationConfigs` picks for its repository, in the
configuration the decoration block of `finalizeJobConfig` settled on.

Owns: `finalizeJobConfig_decorationConfigs`, the rule for every job kind, and the case the
rule gives a periodic with no extra refs.

Does not own: the field merge of `(*DecorationConfig).ApplyDefault`, a `Library` field.
-/

set_option autoImplicit false

namespace ProwJobConfig

variable {Regexp DecorationConfig : Type}

/-- With no job requesting decoration, no periodic is decorated. -/
theorem periodics_undecorated {c : Config Regexp DecorationConfig}
    (unrequested : c.decorationRequested = false) : ∀ p ∈ c.periodics, p.decorate = false := by
  simp only [JobConfig.decorationRequested, Bool.or_eq_false_iff, List.any_eq_false] at unrequested
  exact fun p member => by simpa using unrequested.2 p member

theorem setPeriodicDecorationDefaults_of_undecorated (lib : Library Regexp DecorationConfig)
    (c : Config Regexp DecorationConfig) {job : Periodic DecorationConfig}
    (undecorated : job.decorate = false) : setPeriodicDecorationDefaults lib c job = job := by
  simp [setPeriodicDecorationDefaults, setDecorationDefaults, undecorated]

/-- **Where a finalized job's decoration config comes from.** Against the configuration the
decoration block settled on, a presubmit or postsubmit of repository `repo` ends with the
config `setDecorationDefaults` gives it for `repo`, and a periodic with the one
`setPeriodicDecorationDefaults` gives it. -/
theorem finalizeJobConfig_decorationConfigs {lib : Library Regexp DecorationConfig}
    {order : MapOrder} {c result : Config Regexp DecorationConfig}
    (done : c.finalizeJobConfig lib order = .ok result) :
    ∃ settled : Config Regexp DecorationConfig,
      (if c.decorationRequested then c.settleDecorationDefaults lib else .ok c) = .ok settled ∧
      (∀ repo, Option.Rel (List.Forall₂ fun job finalized => finalized.decorationConfig =
          (setDecorationDefaults lib settled job.toJobBase repo).decorationConfig)
        (c.presubmits.lookup repo) (result.presubmits.lookup repo)) ∧
      (∀ repo, Option.Rel (List.Forall₂ fun job finalized => finalized.decorationConfig =
          (setDecorationDefaults lib settled job.toJobBase repo).decorationConfig)
        (c.postsubmits.lookup repo) (result.postsubmits.lookup repo)) ∧
      List.Forall₂ (fun job finalized => finalized.decorationConfig =
          (setPeriodicDecorationDefaults lib settled job).decorationConfig)
        c.periodics result.periodics := by
  obtain ⟨settled, settledOk, presubmits, postsubmits, periodics, -⟩ := finalizeJobConfig_jobs done
  refine ⟨settled, settledOk,
    fun repo => GoMap.rel_imp (presubmits repo) fun _ _ steps =>
      steps.imp fun _ _ step => step.facts.2.1,
    fun repo => GoMap.rel_imp (postsubmits repo) fun _ _ steps =>
      steps.imp fun _ _ step => step.facts.2.1, ?_⟩
  split at settledOk
  · obtain ⟨configs, wildcard, -, -, rfl⟩ := settleDecorationDefaults_ok settledOk
    rw [List.forall₂_map_left_iff] at periodics
    exact periodics.imp fun job finalized ⟨spec, built⟩ => by rw [built]; rfl
  · rename_i unrequested
    cases settledOk
    refine ((List.forall₂_and_left _ _).2 ⟨periodics_undecorated (by simpa using unrequested),
      periodics⟩).imp fun job finalized ⟨undecorated, spec, built⟩ => ?_
    rw [built, setPeriodicDecorationDefaults_of_undecorated lib c undecorated]
    rfl

/-! ## A periodic with no extra refs -/

/-- A configuration whose only job is a decorated periodic with no extra refs and no
decoration config of its own, and whose decoration defaults hold a wildcard entry and an
entry under the empty key. -/
def emptyKeyConfig (wildcard emptyKey : DecorationConfig) : Config Regexp DecorationConfig :=
  { periodics := [{ name := "nightly", cron := "@daily", decorate := true }]
    plank := { defaultDecorationConfigs :=
      GoMap.ofPairs [("*", some wildcard), ("", some emptyKey)] } }

/-- A periodic with no extra refs is decorated for the repository `""`, so an entry under the
empty key is merged over the wildcard before the job's own config is. -/
theorem finalizeJobConfig_refless_periodic_takes_empty_key
    (lib : Library Regexp DecorationConfig) (order : MapOrder)
    (wildcard emptyKey : DecorationConfig) (validWildcard : lib.validate (some wildcard) = .ok ())
    (distinct : lib.applyDefault none (lib.applyDefault (some emptyKey) (some wildcard)) ≠
      lib.applyDefault none (some wildcard)) :
    ∃ result, (emptyKeyConfig wildcard emptyKey : Config Regexp DecorationConfig).finalizeJobConfig
        lib order = .ok result ∧
      result.periodics.map (·.decorationConfig) =
        [lib.applyDefault none (lib.applyDefault (some emptyKey) (some wildcard))] ∧
      result.periodics.map (·.decorationConfig) ≠ [lib.applyDefault none (some wildcard)] := by
  obtain ⟨result, done, decorated⟩ : ∃ result,
      (emptyKeyConfig wildcard emptyKey : Config Regexp DecorationConfig).finalizeJobConfig
        lib order = .ok result ∧ result.periodics.map (·.decorationConfig) =
          [lib.applyDefault none (lib.applyDefault (some emptyKey) (some wildcard))] := by
    simp [emptyKeyConfig, Config.finalizeJobConfig, JobConfig.decorationRequested,
      Config.settleDecorationDefaults, Plank.settleDecorationConfigs, GoMap.ofPairs, List.toAList,
      List.dedupKeys, List.kinsert, List.kerase, validWildcard, bind, Except.bind, pure,
      Except.pure, setPeriodicDecorationDefaults, setDecorationDefaults,
      Plank.getDefaultDecorationConfigs, GoMap.rangeUpdateM, defaultPeriodics,
      ProwConfig.defaultPeriodicFields, resolvePresets, List.mapM.loop, orgOf, GoMap.pairs,
      AList.lookup, List.dlookup_cons_eq, List.dlookup_cons_ne, List.dlookup_nil,
      ProwConfig.defaultJobBase]
  exact ⟨result, done, decorated, by rw [decorated]; simpa using distinct⟩

theorem finalizeJobConfig_refless_periodic_takes_empty_key_accepting :
    (acceptingLibrary : Library Unit Bool).validate (some false) = .ok () ∧
      (acceptingLibrary : Library Unit Bool).applyDefault none
          ((acceptingLibrary : Library Unit Bool).applyDefault (some true) (some false)) ≠
        (acceptingLibrary : Library Unit Bool).applyDefault none (some false) ∧
      ∃ result, (emptyKeyConfig false true : Config Unit Bool).finalizeJobConfig acceptingLibrary
          MapOrder.stored = .ok result ∧
        result.periodics.map (·.decorationConfig) =
          [acceptingLibrary.applyDefault none (acceptingLibrary.applyDefault (some true) (some false))] ∧
        result.periodics.map (·.decorationConfig) ≠ [acceptingLibrary.applyDefault none (some false)] :=
  ⟨rfl, by decide, finalizeJobConfig_refless_periodic_takes_empty_key acceptingLibrary MapOrder.stored
    false true rfl (by decide)⟩

end ProwJobConfig
