import ProwJobConfig.Types
import Mathlib.Data.String.Basic

/-!
Contract: the steps of `parseProwConfig` on `deck.spyglass`: the default of `size_limit`
(`Spyglass.defaultSizeLimit`), and after the rerun-policy check the migration of the
deprecated `viewers` map to `lenses`, the cache of the compiled file patterns of every lens,
and the renaming of old viewer names (`Spyglass.parseLenses`). `Spyglass.parse` is the two in
a row; what they leave is `Spyglass.Parsed` (`Spyglass.parse_parsed`): a positive size limit
and a cached compiled regex for every pattern of every lens.

Owns: what the enumeration order of `viewers` changes in the parse. Under any two orders the
parse fails or succeeds alike, and two successes keep the configured lenses first and migrate
the same lenses, with the same regex cache and the same viewers (`Spyglass.parse_agree`).
Where the migrated lenses stand is another matter: `sort.Slice` orders them by name alone,
so two viewers of one name under two patterns come out in the order the map was enumerated;
with no viewer name twice, a sort that sorts leaves them one arrangement
(`Spyglass.parse_lenses_order_independent`).

Does not own: the other steps of `parseProwConfig` (`Load.lean` has those that job
resolution reads; the rerun-policy check runs between the size limit and the migration and
reads nothing of Spyglass), and the sort itself, the library's `sortSlice`.
-/

set_option autoImplicit false

namespace ProwJobConfig

variable {Regexp DecorationConfig : Type}

/-! ## `sort.Slice` -/

/-- The comparison of the elements at two positions of `xs`, as a Go `less` closure makes it.
Go never compares a position past the end of the slice; here such a position comes after
every element, so that `less` and the positions' comparison are orders of one kind. -/
def lessAt {α : Type} (xs : List α) (less : α → α → Bool) (i j : Nat) : Bool :=
  match xs[i]?, xs[j]? with
  | some a, some b => less a b
  | some _, none => true
  | none, _ => false

/-- `sort.Slice(xs, less)` for a `less` that compares the elements at two positions: the
library's order of the positions, read back as elements. -/
def Library.sortSliceOf {α : Type} (lib : Library Regexp DecorationConfig) (xs : List α)
    (less : α → α → Bool) : List α :=
  (lib.sortSlice xs.length (lessAt xs less)).val.filterMap fun i => xs[i]?

theorem filterMap_getElem?_range {α : Type} (xs : List α) :
    (List.range xs.length).filterMap (fun i => xs[i]?) = xs := by
  induction xs with
  | nil => rfl
  | cons x xs ih =>
      rw [List.length_cons, List.range_succ_eq_map, List.filterMap_cons, List.filterMap_map]
      simpa [Function.comp_def] using ih

/-- `sort.Slice` only permutes the slice. -/
theorem Library.sortSliceOf_perm {α : Type} (lib : Library Regexp DecorationConfig)
    (xs : List α) (less : α → α → Bool) : (lib.sortSliceOf xs less).Perm xs := by
  unfold Library.sortSliceOf
  calc List.Perm _ ((List.range xs.length).filterMap fun i => xs[i]?) :=
        List.Perm.filterMap _ (lib.sortSlice _ _).2
    _ = xs := filterMap_getElem?_range xs

/-- Over elements that `less` ties pairwise, the comparison of two positions only asks whether
the first lies in the slice and the second past its end. -/
theorem lessAt_of_tied {α : Type} {xs : List α} {less : α → α → Bool}
    (tied : ∀ x ∈ xs, ∀ y ∈ xs, less x y = false) :
    lessAt xs less = fun i j => decide (i < xs.length ∧ xs.length ≤ j) := by
  funext i j
  unfold lessAt
  cases atI : xs[i]? with
  | none => simp_all [List.getElem?_eq_none_iff]
  | some x =>
      have inside : i < xs.length := (List.getElem?_eq_some_iff.1 atI).1
      cases atJ : xs[j]? with
      | none => simp_all [List.getElem?_eq_none_iff]
      | some y =>
          have insideJ : j < xs.length := (List.getElem?_eq_some_iff.1 atJ).1
          simp [tied x (List.mem_iff_getElem?.2 ⟨i, atI⟩) y (List.mem_iff_getElem?.2 ⟨j, atJ⟩),
            Nat.not_le.2 insideJ]

theorem perm_range_two {positions : List Nat} (permuted : positions.Perm (List.range 2)) :
    positions = [0, 1] ∨ positions = [1, 0] := by
  obtain ⟨x, y, rfl⟩ := List.length_eq_two.1 permuted.length_eq
  have distinct : x ≠ y := by simpa using permuted.nodup_iff.2 (List.nodup_range 2)
  have bounded : ∀ i ∈ [x, y], i < 2 := fun i member => List.mem_range.1 (permuted.subset member)
  simp only [List.mem_cons, List.mem_singleton, forall_eq_or_imp, forall_eq,
    List.not_mem_nil, or_false] at bounded
  simp only [List.cons.injEq, and_true]
  omega

/-- **`sort.Slice` cannot tell apart two elements `less` ties.** It sorts a slice of two tied
elements by one reordering of their positions, whichever of the two orders they come in; so
the two orders come out reversed from each other, and differ. -/
theorem Library.sortSliceOf_tied_pair {α : Type} (lib : Library Regexp DecorationConfig)
    (less : α → α → Bool) {a b : α} (distinct : a ≠ b)
    (tied : ∀ x ∈ [a, b], ∀ y ∈ [a, b], less x y = false) :
    lib.sortSliceOf [b, a] less = (lib.sortSliceOf [a, b] less).reverse ∧
      lib.sortSliceOf [a, b] less ≠ lib.sortSliceOf [b, a] less := by
  have tiedSwapped : ∀ x ∈ [b, a], ∀ y ∈ [b, a], less x y = false := fun x xMember y yMember =>
    tied x (List.Perm.swap a b [] |>.subset xMember) y (List.Perm.swap a b [] |>.subset yMember)
  have sameOrder : lessAt [b, a] less = lessAt [a, b] less := by
    rw [lessAt_of_tied tied, lessAt_of_tied tiedSwapped]
    rfl
  unfold Library.sortSliceOf
  rw [sameOrder]
  rcases perm_range_two (lib.sortSlice 2 (lessAt [a, b] less)).2 with order | order <;>
    simp [order, distinct, Ne.symm distinct]

/-- A library whose `sort.Slice` sorts: ordering strings by `<`, it leaves them in order. -/
def Library.SortSliceSorts (lib : Library Regexp DecorationConfig) : Prop :=
  ∀ xs : List String, (lib.sortSliceOf xs fun a b => decide (a < b)).Sorted (· ≤ ·)

/-- Sorting by a key and reading the keys back is sorting the keys. -/
theorem Library.sortSliceOf_map {α : Type} (lib : Library Regexp DecorationConfig)
    (xs : List α) (key : α → String) :
    (lib.sortSliceOf xs fun a b => decide (key a < key b)).map key =
      lib.sortSliceOf (xs.map key) fun a b => decide (a < b) := by
  have sameOrder : lessAt xs (fun a b => decide (key a < key b)) =
      lessAt (xs.map key) fun a b => decide (a < b) := by
    funext i j
    simp only [lessAt, List.getElem?_map]
    cases xs[i]? <;> cases xs[j]? <;> rfl
  unfold Library.sortSliceOf
  rw [sameOrder, List.length_map, List.map_filterMap]
  simp

/-- Two lists, each a permutation of the other, that read the same through a key taking no
value twice, are one list. -/
theorem eq_of_perm_of_keys_eq {α β : Type} {key : α → β} :
    ∀ {xs ys : List α}, xs.Perm ys → xs.map key = ys.map key → (xs.map key).Nodup → xs = ys
  | [], _, permuted, _, _ => permuted.nil_eq
  | _ :: _, [], _, sameKeys, _ => nomatch sameKeys
  | x :: xs, y :: ys, permuted, sameKeys, distinct => by
      obtain ⟨-, sameRest⟩ := List.cons.inj sameKeys
      have keyFresh := (List.nodup_cons.1 distinct).1
      have first : x = y := by
        rcases List.mem_cons.1 (permuted.subset (List.mem_cons_self x xs)) with same | later
        · exact same
        · exact absurd (sameRest ▸ List.mem_map_of_mem key later) keyFresh
      subst first
      rw [eq_of_perm_of_keys_eq ((List.perm_cons x).1 permuted) sameRest
        (List.nodup_cons.1 distinct).2]

/-- **A sort by a key that takes no value twice does not depend on the order of its input.**
Both results are permutations of the input whose keys are sorted, so their keys agree, and
distinct keys leave one arrangement. -/
theorem Library.sortSliceOf_eq_of_perm {α : Type} {lib : Library Regexp DecorationConfig}
    (sorts : lib.SortSliceSorts) (key : α → String) {xs ys : List α} (permuted : xs.Perm ys)
    (distinct : (xs.map key).Nodup) :
    lib.sortSliceOf xs (fun a b => decide (key a < key b)) =
      lib.sortSliceOf ys fun a b => decide (key a < key b) := by
  have sortedPerm := fun zs => lib.sortSliceOf_perm zs fun a b => decide (key a < key b)
  have permutedSorts := (sortedPerm xs).trans (permuted.trans (sortedPerm ys).symm)
  have sameKeys := List.eq_of_perm_of_sorted (permutedSorts.map key)
    (lib.sortSliceOf_map xs key ▸ sorts _) (lib.sortSliceOf_map ys key ▸ sorts _)
  exact eq_of_perm_of_keys_eq permutedSorts sameKeys (((sortedPerm xs).map key).nodup_iff.2 distinct)

/-- The key the comparison of strings at a position reads: the string there, and past the end
of the slice a key above every string. -/
def positionKey (xs : List String) (i : Nat) : WithTop String :=
  match xs[i]? with
  | some a => a
  | none => ⊤

theorem lessAt_lt (xs : List String) (i j : Nat) :
    lessAt xs (fun a b => decide (a < b)) i j = decide (positionKey xs i < positionKey xs j) := by
  unfold lessAt positionKey
  cases xs[i]? <;> cases xs[j]? <;> simp

/-- Insertion sort sorts. -/
theorem acceptingLibrary_sortSliceSorts :
    (acceptingLibrary : Library Unit DecorationConfig).SortSliceSorts := by
  intro xs
  let before : Nat → Nat → Prop := fun i j => lessAt xs (fun a b => decide (a < b)) j i = false
  have before_iff : ∀ i j, before i j ↔ positionKey xs i ≤ positionKey xs j := fun i j => by
    simp only [before, lessAt_lt, decide_eq_false_iff_not, not_lt]
  have : IsTotal Nat before := ⟨fun i j => by simpa only [before_iff] using le_total _ _⟩
  have : IsTrans Nat before := ⟨fun i j k => by simpa only [before_iff] using le_trans⟩
  refine List.pairwise_filterMap.2 ((List.sorted_insertionSort before _).imp ?_)
  intro i j ordered a atI b atJ
  have keys := (before_iff i j).1 ordered
  simpa [positionKey, Option.mem_def.1 atI, Option.mem_def.1 atJ] using keys

/-! ## The steps -/

namespace Spyglass

/-- The default and the check of `size_limit`: 0 stands for 100e6 bytes. -/
def defaultSizeLimit (s : Spyglass Regexp) : Except String (Spyglass Regexp) :=
  if s.sizeLimit = 0 then .ok { s with sizeLimit := 100000000 }
  else if s.sizeLimit ≤ 0 then .error "invalid value for deck.spyglass.size_limit, must be >=0"
  else .ok s

/-- The lens a viewer of the old format becomes: the viewer, on the files `regex` matches. -/
def viewerLens (regex viewer : String) : LensFileConfig :=
  { requiredFiles := [regex], lens := { name := viewer } }

/-- `oldLenses` as the loop over `viewers` builds it, before the sort: one lens per viewer of
each pattern, the patterns in the order `order` enumerates them. -/
def oldLenses (order : MapOrder) (viewers : GoMap (List String)) : List LensFileConfig :=
  (order.enumerate .spyglassViewers viewers).flatMap fun entry => entry.2.map (viewerLens entry.1)

/-- The migration of the old `viewers` format: the lenses of the viewers, sorted by name with
`sort.Slice`, after the configured lenses. -/
def migrateViewers (lib : Library Regexp DecorationConfig) (order : MapOrder)
    (s : Spyglass Regexp) : Spyglass Regexp :=
  { s with lenses := s.lenses ++
      lib.sortSliceOf (oldLenses order s.viewers) fun a b => a.lens.name < b.lens.name }

/-- The patterns the cache loop compiles for a lens: `append(lens.OptionalFiles,
lens.RequiredFiles...)`. -/
def toCompile (lens : LensFileConfig) : List String :=
  lens.optionalFiles ++ lens.requiredFiles

/-- One pattern of the cache loop: a pattern already cached is skipped, another is compiled
and cached. -/
def cachePattern (lib : Library Regexp DecorationConfig) (cache : GoMap Regexp) (v : String) :
    Except String (GoMap Regexp) :=
  match cache.lookup v with
  | some _ => .ok cache
  | none =>
      match lib.compile v with
      | .ok r => .ok (cache.insert v r)
      | .error err => .error s!"cannot compile regexp \"{v}\", err: {err}"

/-- "Parse and cache all our regexes upfront": the patterns of every lens, into a fresh cache. -/
def cacheRegexes (lib : Library Regexp DecorationConfig) (s : Spyglass Regexp) :
    Except String (Spyglass Regexp) := do
  let cache ← s.lenses.foldlM (fun cache lens => (toCompile lens).foldlM (cachePattern lib) cache) ∅
  pure { s with regexCache := cache }

/-- `oldViewers`: the old viewer names and the names that replace them. -/
def oldViewers : GoMap String :=
  GoMap.ofPairs [("build-log-viewer", "buildlog"), ("metadata-viewer", "metadata"),
    ("junit-viewer", "junit")]

/-- The renaming of old viewer names in `viewers`, in place. -/
def renameOldViewers (order : MapOrder) (s : Spyglass Regexp) : Spyglass Regexp :=
  let rename (_ : Option (List String)) (viewers : List String) :=
    viewers.map fun v => (oldViewers.lookup v).getD v
  { s with viewers := GoMap.rangeUpdate rename s.viewers (order.enumerate .oldViewerNames s.viewers) }

/-- The steps of `parseProwConfig` on `c.Deck.Spyglass` after the rerun-policy check: the
migration, the regex cache and the renaming. -/
def parseLenses (lib : Library Regexp DecorationConfig) (order : MapOrder) (s : Spyglass Regexp) :
    Except String (Spyglass Regexp) := do
  let s ← (s.migrateViewers lib order).cacheRegexes lib
  pure (s.renameOldViewers order)

/-- The steps of `parseProwConfig` on `c.Deck.Spyglass`, in the source's order. -/
def parse (lib : Library Regexp DecorationConfig) (order : MapOrder) (s : Spyglass Regexp) :
    Except String (Spyglass Regexp) :=
  s.defaultSizeLimit >>= parseLenses lib order

/-! ## What each step leaves -/

section Steps

variable {lib : Library Regexp DecorationConfig}

@[simp] theorem migrateViewers_lenses (order : MapOrder) (s : Spyglass Regexp) :
    (s.migrateViewers lib order).lenses = s.lenses ++
      lib.sortSliceOf (oldLenses order s.viewers) fun a b => a.lens.name < b.lens.name := rfl

@[simp] theorem migrateViewers_viewers (order : MapOrder) (s : Spyglass Regexp) :
    (s.migrateViewers lib order).viewers = s.viewers := rfl

@[simp] theorem migrateViewers_sizeLimit (order : MapOrder) (s : Spyglass Regexp) :
    (s.migrateViewers lib order).sizeLimit = s.sizeLimit := rfl

theorem defaultSizeLimit_ok {s s' : Spyglass Regexp} (done : s.defaultSizeLimit = .ok s') :
    s'.lenses = s.lenses ∧ s'.viewers = s.viewers := by
  unfold defaultSizeLimit at done
  split_ifs at done <;> cases done <;> exact ⟨rfl, rfl⟩

/-- The lenses the loop over `viewers` builds are the same in every order, up to their
arrangement. -/
theorem oldLenses_perm (order₁ order₂ : MapOrder) (viewers : GoMap (List String)) :
    (oldLenses order₁ viewers).Perm (oldLenses order₂ viewers) :=
  ((order₁.enumerate_perm _ viewers).trans (order₂.enumerate_perm _ viewers).symm).flatMap_right _

theorem cachePattern_of_cached {cache : GoMap Regexp} {v : String} {r : Regexp}
    (cached : cache.lookup v = some r) : cachePattern lib cache v = .ok cache := by
  simp [cachePattern, cached]

theorem cachePattern_of_compiled {cache : GoMap Regexp} {v : String} {r : Regexp}
    (fresh : cache.lookup v = none) (compiled : lib.compile v = .ok r) :
    cachePattern lib cache v = .ok (cache.insert v r) := by
  simp [cachePattern, fresh, compiled]

theorem cachePattern_of_failed {cache : GoMap Regexp} {v err : String}
    (fresh : cache.lookup v = none) (failed : lib.compile v = .error err) :
    cachePattern lib cache v = .error s!"cannot compile regexp \"{v}\", err: {err}" := by
  simp [cachePattern, fresh, failed]

/-- The cache loop over some patterns succeeds iff every pattern not yet cached compiles. -/
theorem foldlM_cachePattern_ok_iff (patterns : List String) (cache : GoMap Regexp) :
    (∃ cache', patterns.foldlM (cachePattern lib) cache = .ok cache') ↔
      ∀ v ∈ patterns, cache.lookup v = none → ∃ r, lib.compile v = .ok r := by
  induction patterns generalizing cache with
  | nil => simpa using ⟨cache, rfl⟩
  | cons v patterns ih =>
      rw [List.foldlM_cons, List.forall_mem_cons]
      cases cached : cache.lookup v with
      | some r => simpa [cachePattern_of_cached cached, bind, Except.bind] using ih cache
      | none =>
          cases compiled : lib.compile v with
          | error err => simp [cachePattern_of_failed cached compiled, bind, Except.bind, compiled]
          | ok r =>
              simp only [cachePattern_of_compiled cached compiled, bind, Except.bind, ih,
                true_implies]
              refine ⟨fun later => ⟨⟨r, rfl⟩, fun w member fresh => ?_⟩,
                fun ⟨_, later⟩ w member fresh => later w member ?_⟩
              · by_cases same : w = v
                · exact same ▸ ⟨r, compiled⟩
                · exact later w member (by rwa [AList.lookup_insert_ne same])
              · by_cases same : w = v
                · rw [same, AList.lookup_insert] at fresh
                  cases fresh
                · rwa [AList.lookup_insert_ne same] at fresh

/-- What a successful cache loop holds: what the cache held, and every other pattern of the
loop compiled. -/
theorem lookup_foldlM_cachePattern {patterns : List String} {cache cache' : GoMap Regexp}
    (done : patterns.foldlM (cachePattern lib) cache = .ok cache') (k : String) :
    cache'.lookup k =
      (cache.lookup k).or (if k ∈ patterns then (lib.compile k).toOption else none) := by
  induction patterns generalizing cache with
  | nil =>
      cases done
      simp
  | cons v patterns ih =>
      rw [List.foldlM_cons] at done
      cases cached : cache.lookup v with
      | some r =>
          rw [cachePattern_of_cached cached] at done
          rw [ih done]
          by_cases same : k = v
          · subst same
            simp [cached]
          · simp [same]
      | none =>
          cases compiled : lib.compile v with
          | error err => rw [cachePattern_of_failed cached compiled] at done; cases done
          | ok r =>
              rw [cachePattern_of_compiled cached compiled] at done
              rw [ih done]
              by_cases same : k = v
              · subst same
                simp [cached, compiled, AList.lookup_insert, Except.toOption]
              · simp [same, AList.lookup_insert_ne same]

/-- The nested cache loop over lenses is one loop over all their patterns. -/
theorem foldlM_toCompile (lenses : List LensFileConfig) (cache : GoMap Regexp) :
    lenses.foldlM (fun cache lens => (toCompile lens).foldlM (cachePattern lib) cache) cache =
      (lenses.flatMap toCompile).foldlM (cachePattern lib) cache := by
  induction lenses generalizing cache with
  | nil => rfl
  | cons lens lenses ih =>
      simp only [List.foldlM_cons, List.flatMap_cons, List.foldlM_append, ih]

/-- Two Spyglass configs whose lenses are the same up to their arrangement compile their
patterns alike: both fail, or both succeed with caches of the same entries. -/
theorem cacheRegexes_agree {t₁ t₂ : Spyglass Regexp} (permuted : t₁.lenses.Perm t₂.lenses) :
    Except.Agree (fun c₁ c₂ : Spyglass Regexp => ∃ cache₁ cache₂,
        c₁ = { t₁ with regexCache := cache₁ } ∧ c₂ = { t₂ with regexCache := cache₂ } ∧
          GoMap.Same cache₁ cache₂)
      (t₁.cacheRegexes lib) (t₂.cacheRegexes lib) := by
  have members : ∀ v, v ∈ t₁.lenses.flatMap toCompile ↔ v ∈ t₂.lenses.flatMap toCompile :=
    fun _ => (permuted.flatMap_right _).mem_iff
  have folds : Except.Agree GoMap.Same ((t₁.lenses.flatMap toCompile).foldlM (cachePattern lib) ∅)
      ((t₂.lenses.flatMap toCompile).foldlM (cachePattern lib) ∅) :=
    .of_iff (by simp only [foldlM_cachePattern_ok_iff, members]) fun c₁ c₂ done₁ done₂ k => by
      simp only [lookup_foldlM_cachePattern done₁, lookup_foldlM_cachePattern done₂, members]
  unfold cacheRegexes
  rw [foldlM_toCompile, foldlM_toCompile]
  exact folds.bind fun c₁ c₂ same => ⟨c₁, c₂, rfl, rfl, same⟩

@[simp] theorem renameOldViewers_lenses (order : MapOrder) (s : Spyglass Regexp) :
    (s.renameOldViewers order).lenses = s.lenses := rfl

@[simp] theorem renameOldViewers_sizeLimit (order : MapOrder) (s : Spyglass Regexp) :
    (s.renameOldViewers order).sizeLimit = s.sizeLimit := rfl

@[simp] theorem renameOldViewers_regexCache (order : MapOrder) (s : Spyglass Regexp) :
    (s.renameOldViewers order).regexCache = s.regexCache := rfl

theorem defaultSizeLimit_ok_iff (s : Spyglass Regexp) :
    (∃ t, s.defaultSizeLimit = .ok t) ↔ 0 ≤ s.sizeLimit := by
  unfold defaultSizeLimit
  split_ifs <;> simp <;> omega

theorem cacheRegexes_ok_iff (t : Spyglass Regexp) :
    (∃ c, t.cacheRegexes lib = .ok c) ↔
      ∀ v ∈ t.lenses.flatMap toCompile, ∃ r, lib.compile v = .ok r := by
  calc (∃ c, t.cacheRegexes lib = .ok c) ↔
        ∃ cache, (t.lenses.flatMap toCompile).foldlM (cachePattern lib) ∅ = .ok cache := by
        unfold cacheRegexes
        rw [foldlM_toCompile]
        cases (t.lenses.flatMap toCompile).foldlM (cachePattern lib) ∅ <;>
          simp [bind, Except.bind, pure, Except.pure]
    _ ↔ _ := (foldlM_cachePattern_ok_iff _ _).trans (by simp)

/-- The patterns the migrated lenses compile: those of the configured lenses and of the
lenses of the viewers, whatever the sort makes of their arrangement. -/
theorem mem_migrateViewers_patterns (order : MapOrder) (t : Spyglass Regexp) (v : String) :
    v ∈ (t.migrateViewers lib order).lenses.flatMap toCompile ↔
      v ∈ (t.lenses ++ oldLenses order t.viewers).flatMap toCompile :=
  ((((lib.sortSliceOf_perm _ _).append_left _).flatMap_right _).mem_iff)

end Steps

/-! ## The parse under two orders -/

/-- The parse succeeds iff the size limit is not negative and every file pattern compiles,
of the configured lenses and of the viewers. -/
theorem parse_ok_iff (lib : Library Regexp DecorationConfig) (order : MapOrder)
    (s : Spyglass Regexp) :
    (∃ s', s.parse lib order = .ok s') ↔ 0 ≤ s.sizeLimit ∧
      ∀ v ∈ (s.lenses ++ oldLenses order s.viewers).flatMap toCompile, ∃ r, lib.compile v = .ok r := by
  rw [← defaultSizeLimit_ok_iff]
  unfold parse parseLenses
  cases sized : s.defaultSizeLimit with
  | error err => simp [bind, Except.bind]
  | ok t =>
      obtain ⟨sameLenses, sameViewers⟩ := defaultSizeLimit_ok sized
      have cached := @cacheRegexes_ok_iff _ _ lib (t.migrateViewers lib order)
      simp only [mem_migrateViewers_patterns, sameLenses, sameViewers] at cached
      rw [← cached]
      simp only [bind, Except.bind]
      cases (t.migrateViewers lib order).cacheRegexes lib <;> simp [pure, Except.pure]

/-- What a successful parse is made of: the result of the size-limit step, migrated, given a
cache, and renamed. -/
theorem parse_ok {lib : Library Regexp DecorationConfig} {order : MapOrder}
    {s s' : Spyglass Regexp} (done : s.parse lib order = .ok s') :
    ∃ t cache, s.defaultSizeLimit = .ok t ∧
      s' = renameOldViewers order { t.migrateViewers lib order with regexCache := cache } := by
  obtain ⟨t, sized, rest⟩ := Except.bind_eq_ok.1 done
  obtain ⟨c, cached, built⟩ := Except.bind_eq_ok.1 rest
  obtain ⟨cache, -, builtCache⟩ := Except.bind_eq_ok.1 cached
  cases built
  cases builtCache
  exact ⟨t, cache, sized, rfl⟩

/-- What a successful parse leaves in `lenses`: the configured lenses, then the lenses of the
viewers as `sort.Slice` orders them by name. -/
theorem parse_lenses {lib : Library Regexp DecorationConfig} {order : MapOrder}
    {s s' : Spyglass Regexp} (done : s.parse lib order = .ok s') :
    s'.lenses = s.lenses ++
      lib.sortSliceOf (oldLenses order s.viewers) fun a b => a.lens.name < b.lens.name := by
  obtain ⟨t, cache, sized, rfl⟩ := parse_ok done
  obtain ⟨sameLenses, sameViewers⟩ := defaultSizeLimit_ok sized
  simp [sameLenses, sameViewers]

/-- What the Spyglass steps leave: a positive size limit, and in the regex cache every file
pattern of every lens, compiled. -/
structure Parsed (lib : Library Regexp DecorationConfig) (s : Spyglass Regexp) : Prop where
  sizeLimit : 0 < s.sizeLimit
  cached : ∀ lens ∈ s.lenses, ∀ v ∈ toCompile lens, ∃ r, s.regexCache.lookup v = some r ∧
    lib.compile v = .ok r

theorem defaultSizeLimit_pos {s t : Spyglass Regexp} (done : s.defaultSizeLimit = .ok t) :
    0 < t.sizeLimit := by
  unfold defaultSizeLimit at done
  split_ifs at done with unset nonPositive <;> cases done
  · show (0 : Int) < 100000000
    decide
  · omega

/-- The cache loop leaves the Spyglass config as it was but for a cache that holds every
file pattern of its lenses, compiled. -/
theorem cacheRegexes_cached {lib : Library Regexp DecorationConfig} {t c : Spyglass Regexp}
    (done : t.cacheRegexes lib = .ok c) :
    ∃ cache, c = { t with regexCache := cache } ∧ ∀ v ∈ t.lenses.flatMap toCompile,
      ∃ r, cache.lookup v = some r ∧ lib.compile v = .ok r := by
  unfold cacheRegexes at done
  rw [foldlM_toCompile] at done
  obtain ⟨cache, folded, built⟩ := Except.bind_eq_ok.1 done
  cases built
  refine ⟨cache, rfl, fun v member => ?_⟩
  obtain ⟨r, compiled⟩ := (foldlM_cachePattern_ok_iff _ ∅).1 ⟨cache, folded⟩ v member rfl
  refine ⟨r, ?_, compiled⟩
  simp [lookup_foldlM_cachePattern folded, member, compiled, Except.toOption]

/-- **What the Spyglass steps leave.** A successful parse has a positive size limit and a
compiled pattern in its cache for every file pattern of every lens. -/
theorem parse_parsed {lib : Library Regexp DecorationConfig} {order : MapOrder}
    {s s' : Spyglass Regexp} (done : s.parse lib order = .ok s') : s'.Parsed lib := by
  obtain ⟨t, sized, rest⟩ := Except.bind_eq_ok.1 done
  obtain ⟨c, cached, built⟩ := Except.bind_eq_ok.1 rest
  cases built
  obtain ⟨cache, rfl, compiled⟩ := cacheRegexes_cached cached
  have positive := defaultSizeLimit_pos sized
  exact ⟨positive, fun lens member v pattern =>
    compiled v (List.mem_flatMap.2 ⟨lens, member, pattern⟩)⟩

/-- **The enumeration order of `viewers` changes only where the migrated lenses stand.** Under
any two orders, `Spyglass.parse` fails under both or succeeds under both, and two successes
keep the configured lenses first, hold the same lenses up to their arrangement and the same
size limit, and regex caches and viewers with the same entries. -/
theorem parse_agree (lib : Library Regexp DecorationConfig) (order₁ order₂ : MapOrder)
    (s : Spyglass Regexp) :
    Except.Agree (fun s₁ s₂ : Spyglass Regexp =>
        s.lenses <+: s₁.lenses ∧ s.lenses <+: s₂.lenses ∧ s₁.lenses.Perm s₂.lenses ∧
          s₁.sizeLimit = s₂.sizeLimit ∧ GoMap.Same s₁.regexCache s₂.regexCache ∧
          GoMap.Same s₁.viewers s₂.viewers)
      (s.parse lib order₁) (s.parse lib order₂) := by
  unfold parse parseLenses
  cases sized : s.defaultSizeLimit with
  | error err => trivial
  | ok t =>
      obtain ⟨sameLenses, -⟩ := defaultSizeLimit_ok sized
      have sorted := fun order : MapOrder => lib.sortSliceOf_perm (oldLenses order t.viewers)
        fun a b => a.lens.name < b.lens.name
      have migrated : (t.migrateViewers lib order₁).lenses.Perm (t.migrateViewers lib order₂).lenses :=
        ((sorted order₁).trans ((oldLenses_perm order₁ order₂ _).trans (sorted order₂).symm)).append_left _
      rw [Except.ok_bind, Except.ok_bind]
      refine Except.Agree.bind (cacheRegexes_agree migrated) ?_
      rintro _ _ ⟨cache₁, cache₂, rfl, rfl, sameCache⟩
      exact ⟨by simp [sameLenses], by simp [sameLenses], by simpa [sameLenses] using migrated, rfl,
        sameCache, GoMap.rangeUpdate_same order₁ order₂ _ (.refl _) (.refl _)⟩

/-! ## Old viewer names -/

/-- The lenses of the viewers carry the viewers' names, as the map lists them. -/
theorem oldLenses_names (order : MapOrder) (viewers : GoMap (List String)) :
    (oldLenses order viewers).map (fun lens => lens.lens.name) =
      (order.enumerate .spyglassViewers viewers).flatMap Prod.snd := by
  simp [oldLenses, List.map_flatMap, viewerLens, Function.comp_def]

/-- **The migrated lenses keep the old viewer names.** A successful parse copies every viewer
into `lenses` under its name as written, and only afterwards renames the old names
(`build-log-viewer` to `buildlog`, ...) in `viewers`. -/
theorem parse_lenses_keep_old_names {lib : Library Regexp DecorationConfig} {order : MapOrder}
    {s s' : Spyglass Regexp} (done : s.parse lib order = .ok s') :
    ((s'.lenses.drop s.lenses.length).map fun lens => lens.lens.name).Perm
        ((order.enumerate .spyglassViewers s.viewers).flatMap Prod.snd) ∧
      ∀ regex, s'.viewers.lookup regex = (s.viewers.lookup regex).map fun viewers =>
        viewers.map fun v => (oldViewers.lookup v).getD v := by
  refine ⟨?_, fun regex => ?_⟩
  · rw [parse_lenses done, List.drop_left, ← oldLenses_names]
    exact (lib.sortSliceOf_perm _ _).map _
  · obtain ⟨t, cache, sized, rfl⟩ := parse_ok done
    obtain ⟨-, sameViewers⟩ := defaultSizeLimit_ok sized
    simp only [renameOldViewers, GoMap.lookup_rangeUpdate, migrateViewers_viewers, sameViewers]
    cases s.viewers.lookup regex <;> rfl

/-- A viewer of the build log under its old name. -/
def oldNameSpyglass : Spyglass Regexp :=
  { viewers := GoMap.ofPairs [("build-log.txt", ["build-log-viewer"])] }

theorem parse_lenses_keep_old_names_build_log :
    ∃ s', (oldNameSpyglass : Spyglass Unit).parse (acceptingLibrary : Library Unit Unit)
        .stored = .ok s' ∧
      (((s'.lenses.drop (oldNameSpyglass : Spyglass Unit).lenses.length).map fun lens =>
          lens.lens.name).Perm
        ((MapOrder.stored.enumerate .spyglassViewers (oldNameSpyglass : Spyglass Unit).viewers).flatMap
          Prod.snd) ∧
      ∀ regex, s'.viewers.lookup regex =
        ((oldNameSpyglass : Spyglass Unit).viewers.lookup regex).map fun viewers =>
          viewers.map fun v => (oldViewers.lookup v).getD v) :=
  let ⟨s', done⟩ := Except.exists_ok_of_isOk (show ((oldNameSpyglass : Spyglass Unit).parse
    (acceptingLibrary : Library Unit Unit) .stored).isOk = true from rfl)
  ⟨s', done, parse_lenses_keep_old_names done⟩

/-! ## Where the migrated lenses stand -/

/-- Two file patterns with one viewer each, the two viewers of one name. -/
def sharedViewerSpyglass : Spyglass Regexp :=
  { viewers := GoMap.ofPairs [("a", ["v"]), ("b", ["v"])] }

/-- **The index of a migrated lens depends on the map's enumeration order.** Take two file
patterns `a` and `b` with one viewer `v` each, and a library that compiles both patterns.
Enumerated in storage order and in reverse, the parse succeeds both times, and the lenses it
leaves are each other's reverse, so the lens at index 0 differs: `sort.Slice` compares the
two lenses by name alone, finds them tied, and keeps them in whichever order the map gave. -/
theorem parse_lenses_depend_on_order (lib : Library Regexp DecorationConfig)
    (compiles : ∀ pattern ∈ ["a", "b"], ∃ re, lib.compile pattern = .ok re) :
    ∃ s₁ s₂, (sharedViewerSpyglass : Spyglass Regexp).parse lib .stored = .ok s₁ ∧
      (sharedViewerSpyglass : Spyglass Regexp).parse lib .reversed = .ok s₂ ∧
      s₂.lenses = s₁.lenses.reverse ∧ s₁.lenses ≠ s₂.lenses := by
  have stored : oldLenses .stored (sharedViewerSpyglass : Spyglass Regexp).viewers =
      [viewerLens "a" "v", viewerLens "b" "v"] := rfl
  have reversed : oldLenses .reversed (sharedViewerSpyglass : Spyglass Regexp).viewers =
      [viewerLens "b" "v", viewerLens "a" "v"] := rfl
  have parses : ∀ order : MapOrder,
      ∃ s', (sharedViewerSpyglass : Spyglass Regexp).parse lib order = .ok s' := fun order =>
    (parse_ok_iff lib order _).2 ⟨le_refl _, fun v member => compiles v (by
      have patterns := (((oldLenses_perm order .stored _).append_left []).flatMap_right
        toCompile).mem_iff.1 member
      rw [stored] at patterns
      simpa [viewerLens, toCompile] using patterns)⟩
  obtain ⟨s₁, parsed₁⟩ := parses .stored
  obtain ⟨s₂, parsed₂⟩ := parses .reversed
  have tied : ∀ x ∈ [viewerLens "a" "v", viewerLens "b" "v"],
      ∀ y ∈ [viewerLens "a" "v", viewerLens "b" "v"], decide (x.lens.name < y.lens.name) = false := by
    simp [viewerLens, String.lt_irrefl]
  have lenses := lib.sortSliceOf_tied_pair _ (by decide) tied
  rw [← stored, ← reversed] at lenses
  refine ⟨s₁, s₂, parsed₁, parsed₂, ?_⟩
  simpa [parse_lenses parsed₁, parse_lenses parsed₂, sharedViewerSpyglass] using lenses

theorem parse_lenses_depend_on_order_accepting :
    (∀ pattern ∈ ["a", "b"], ∃ re, (acceptingLibrary : Library Unit Unit).compile pattern = .ok re) ∧
      ∃ s₁ s₂, (sharedViewerSpyglass : Spyglass Unit).parse (acceptingLibrary : Library Unit Unit)
          .stored = .ok s₁ ∧
        (sharedViewerSpyglass : Spyglass Unit).parse (acceptingLibrary : Library Unit Unit)
          .reversed = .ok s₂ ∧
        s₂.lenses = s₁.lenses.reverse ∧ s₁.lenses ≠ s₂.lenses :=
  ⟨fun _ _ => ⟨(), rfl⟩, parse_lenses_depend_on_order (acceptingLibrary : Library Unit Unit)
    fun _ _ => ⟨(), rfl⟩⟩

/-- **With no viewer name twice, the migrated lenses stand the same under every order.** For a
library whose `sort.Slice` sorts, the parse under any two enumeration orders of `viewers`
fails under both or succeeds under both, and two successes leave the same lenses in the same
order: names that differ leave the sort one arrangement. -/
theorem parse_lenses_order_independent (lib : Library Regexp DecorationConfig)
    (sorts : lib.SortSliceSorts) (order₁ order₂ : MapOrder) (s : Spyglass Regexp)
    (distinct : (s.viewers.pairs.flatMap Prod.snd).Nodup) :
    Except.Agree (fun s₁ s₂ : Spyglass Regexp => s₁.lenses = s₂.lenses)
      (s.parse lib order₁) (s.parse lib order₂) := by
  have named : ((oldLenses order₁ s.viewers).map fun lens => lens.lens.name).Nodup := by
    rw [oldLenses_names]
    exact ((order₁.enumerate_perm _ s.viewers).flatMap_right Prod.snd).nodup_iff.2 distinct
  refine Except.Agree.of_iff ?_ fun s₁ s₂ done₁ done₂ => ?_
  · have patterns := ((oldLenses_perm order₁ order₂ s.viewers).append_left s.lenses).flatMap_right
      toCompile
    simp only [parse_ok_iff, patterns.mem_iff]
  · rw [parse_lenses done₁, parse_lenses done₂,
      lib.sortSliceOf_eq_of_perm sorts _ (oldLenses_perm order₁ order₂ _) named]

/-- Two file patterns with one viewer each, under two names. -/
def distinctViewerSpyglass : Spyglass Regexp :=
  { viewers := GoMap.ofPairs [("a", ["v"]), ("b", ["w"])] }

theorem parse_lenses_order_independent_accepting :
    (acceptingLibrary : Library Unit Unit).SortSliceSorts ∧
      ((distinctViewerSpyglass : Spyglass Unit).viewers.pairs.flatMap Prod.snd).Nodup ∧
      Except.Agree (fun s₁ s₂ : Spyglass Unit => s₁.lenses = s₂.lenses)
        ((distinctViewerSpyglass : Spyglass Unit).parse (acceptingLibrary : Library Unit Unit)
          .stored)
        ((distinctViewerSpyglass : Spyglass Unit).parse (acceptingLibrary : Library Unit Unit)
          .reversed) :=
  ⟨acceptingLibrary_sortSliceSorts, by decide,
    parse_lenses_order_independent (acceptingLibrary : Library Unit Unit)
      acceptingLibrary_sortSliceSorts .stored .reversed _ (by decide)⟩

end Spyglass

end ProwJobConfig
