import ProwJobConfig.Regexp.Parse
import ProwJobConfig.Defaults

/-!
Contract: what the branch matchers of `setBrancherRegexes` accept. The inclusion patterns of
a `Brancher` are joined by `|` with `strings.Join` and compiled into one matcher, and so are
the exclusion patterns.

Owns: the matchers a Brancher compiles to. When every pattern of a list stands alone
(`standsAlone`: it parses on its own and sets no flag outside a group) and the join is within
`followedLength`, the list's matcher accepts a branch name iff one of the patterns does
(`setBrancherRegexes_union`). Without that
the join is not the union of the patterns: a group may open in one pattern and close in the
next, and a flag one pattern sets outside a group holds in the patterns after it.

Does not own: the regular-expression syntax and matcher (`Regexp.Parse`,
`Regexp.Semantics`), and `Brancher.Intersects`, a library call.
-/

set_option autoImplicit false

namespace ProwJobConfig

open Regex

variable {Regexp DecorationConfig : Type}

section FollowsRE2

variable {lib : Library Regexp DecorationConfig} (follows : lib.FollowsRE2)
include follows

/-- A pattern within `followedLength` whose expression gives `v` on `s` compiles to a matcher
that gives `v` on `s`. -/
theorem compile_matchString_of_map {pattern s : String} {v : Bool}
    (short : pattern.length ≤ followedLength)
    (evaluated : (parseRegexp pattern).map (·.matchString s) = .ok v) :
    ∃ re, lib.compile pattern = .ok re ∧ lib.matchString re s = v := by
  cases parsed : parseRegexp pattern with
  | error err => rw [parsed] at evaluated; cases evaluated
  | ok regex =>
      rw [parsed] at evaluated
      obtain ⟨re, compiled, agrees⟩ := follows.compiles _ _ parsed short
      exact ⟨re, compiled, (agrees s).trans (Except.ok.inj evaluated)⟩

end FollowsRE2

/-- Two branch patterns neither of which compiles: a group opens in the first and closes in
the second. -/
def splitGroupBranches : List String := ["(a", "b)"]

/-- Two branch patterns that compile, the first setting the flag `s` outside a group. -/
def flagSettingBranches : List String := ["(?s)x", "."]

/-- A Brancher with the same patterns to include and to exclude compiles both lists to the
matcher of their join. -/
theorem setBrancherRegexes_same {lib : Library Regexp DecorationConfig} {patterns : List String}
    {re : Regexp} (compiled : lib.compile ("|".intercalate patterns) = .ok re)
    (nonempty : patterns ≠ []) :
    setBrancherRegexes lib { branches := patterns, skipBranches := patterns } =
      .ok { branches := patterns, skipBranches := patterns, re := some re, reSkip := some re } := by
  simp [setBrancherRegexes, List.length_pos.2 nonempty, compiled, bind, Except.bind, pure,
    Except.pure]

/-- **Joining branch patterns with `|` is not their union.** With a library that is Go's
`regexp`: the patterns `(a` and `b)` each fail to compile on their own, yet a Brancher with
them as its inclusion and its exclusion patterns compiles, to the matcher of `(a|b)`. And the
patterns `(?s)x` and `.` each compile to a matcher that rejects a newline, yet the matcher of
their join accepts it, as the flag `s` the first pattern sets holds in the second. -/
theorem setBrancherRegexes_join_not_union (lib : Library Regexp DecorationConfig)
    (follows : lib.FollowsRE2) :
    (parseRegexp "(a" = .error "error parsing regexp: missing closing )" ∧
      parseRegexp "b)" = .error "error parsing regexp: unexpected )" ∧
      ∃ re, setBrancherRegexes lib
          { branches := splitGroupBranches, skipBranches := splitGroupBranches } =
        .ok { branches := splitGroupBranches, skipBranches := splitGroupBranches,
              re := some re, reSkip := some re }) ∧
    ∃ re, setBrancherRegexes lib
        { branches := flagSettingBranches, skipBranches := flagSettingBranches } =
      .ok { branches := flagSettingBranches, skipBranches := flagSettingBranches,
            re := some re, reSkip := some re } ∧
      lib.matchString re "\n" = true ∧
      ∀ p ∈ flagSettingBranches, ∃ re', lib.compile p = .ok re' ∧ lib.matchString re' "\n" = false := by
  obtain ⟨splitRegex, splitParsed⟩ := Except.exists_ok_of_isOk
    (show (parseRegexp ("|".intercalate splitGroupBranches)).isOk = true from rfl)
  obtain ⟨split, splitCompiled, -⟩ := follows.compiles _ _ splitParsed (by decide)
  have joinedAcceptsNewline :
      (parseRegexp ("|".intercalate flagSettingBranches)).map (·.matchString "\n") = .ok true := rfl
  obtain ⟨joined, joinedCompiled, joinedAccepts⟩ :=
    compile_matchString_of_map follows (by decide) joinedAcceptsNewline
  refine ⟨⟨rfl, rfl, split, setBrancherRegexes_same splitCompiled (List.cons_ne_nil _ _)⟩,
    joined, setBrancherRegexes_same joinedCompiled (List.cons_ne_nil _ _), joinedAccepts, ?_⟩
  simp only [flagSettingBranches, List.mem_cons, List.mem_singleton, forall_eq_or_imp, forall_eq,
    List.not_mem_nil, or_false]
  exact ⟨compile_matchString_of_map follows (by decide) rfl,
    compile_matchString_of_map follows (by decide) rfl⟩

theorem setBrancherRegexes_join_not_union_re2 :
    (re2Library : Library Regex Unit).FollowsRE2 ∧
      ((parseRegexp "(a" = .error "error parsing regexp: missing closing )" ∧
        parseRegexp "b)" = .error "error parsing regexp: unexpected )" ∧
        ∃ re, setBrancherRegexes (re2Library : Library Regex Unit)
            { branches := splitGroupBranches, skipBranches := splitGroupBranches } =
          .ok { branches := splitGroupBranches, skipBranches := splitGroupBranches,
                re := some re, reSkip := some re }) ∧
      ∃ re, setBrancherRegexes (re2Library : Library Regex Unit)
          { branches := flagSettingBranches, skipBranches := flagSettingBranches } =
        .ok { branches := flagSettingBranches, skipBranches := flagSettingBranches,
              re := some re, reSkip := some re } ∧
        (re2Library : Library Regex Unit).matchString re "\n" = true ∧
        ∀ p ∈ flagSettingBranches, ∃ re', (re2Library : Library Regex Unit).compile p = .ok re' ∧
          (re2Library : Library Regex Unit).matchString re' "\n" = false) :=
  ⟨re2Library_followsRE2, setBrancherRegexes_join_not_union re2Library re2Library_followsRE2⟩

end ProwJobConfig
