import Mathlib.Data.List.AList
import Mathlib.Data.List.Forall2

/-!
Contract: Go's `map[string]V`, the order in which a `range` loop visits one, and the
early-return error loops that `config.go` writes over maps and slices.

Owns:
- `GoMap`, a finite map with string keys stored as a Mathlib `AList`;
- `RangeLoop`, the `range` loops over a map in `config.go`, and `MapOrder`, the order the
  Go runtime picks for each of them;
- the two loop shapes of the source: a `range` that writes back into a map
  (`rangeUpdate`, `rangeUpdateM`) and a `range` that returns the first error (`List.forM`
  in `Except`), each with the lemma that says what it computes in every order.

Does not own: the randomisation itself. A result proved for every `MapOrder` holds for
whatever order the runtime chooses.
-/

set_option autoImplicit false

namespace ProwJobConfig

/-- A Go `map[string]V`: every key at most once, stored as the list of its entries. The
storage order carries no meaning; `MapOrder` says how a `range` loop visits the map. -/
abbrev GoMap (α : Type) := AList (fun _ : String => α)

namespace GoMap

variable {α β ε : Type}

/-- A map written as a Go composite literal `map[string]V{k1: v1, ...}`. -/
def ofPairs (pairs : List (String × α)) : GoMap α :=
  (pairs.map fun pair => (⟨pair.1, pair.2⟩ : Σ _ : String, α)).toAList

/-- The entries of a map as key/value pairs, in storage order. -/
def pairs (m : GoMap α) : List (String × α) :=
  m.entries.map fun entry => (entry.1, entry.2)

/-- Go's `m[key]`: the stored value, or the zero value of the value type. -/
def getD (m : GoMap α) (key : String) (zero : α) : α :=
  (m.lookup key).getD zero

/-- Two maps hold the same value under every key: they are one Go map, whatever the
order of their entries. -/
def Same (m₁ m₂ : GoMap α) : Prop :=
  ∀ key, m₁.lookup key = m₂.lookup key

theorem Same.refl (m : GoMap α) : Same m m := fun _ => rfl

theorem Same.symm {m₁ m₂ : GoMap α} (same : Same m₁ m₂) : Same m₂ m₁ := fun key => (same key).symm

@[simp] theorem getD_empty (key : String) (zero : α) : GoMap.getD (∅ : GoMap α) key zero = zero :=
  rfl

@[simp] theorem getD_insert_self (m : GoMap α) (key : String) (value zero : α) :
    GoMap.getD (m.insert key value) key zero = value := by
  simp [getD, AList.lookup_insert]

theorem getD_insert_ne (m : GoMap α) {key other : String} (value zero : α) (distinct : key ≠ other) :
    GoMap.getD (m.insert other value) key zero = m.getD key zero := by
  simp [getD, AList.lookup_insert_ne distinct]

theorem mem_pairs {m : GoMap α} {key : String} {value : α} :
    (key, value) ∈ m.pairs ↔ m.lookup key = some value := by
  simp only [pairs, List.mem_map]
  constructor
  · rintro ⟨⟨k, v⟩, member, equal⟩
    cases equal
    exact (AList.mem_lookup_iff).2 member
  · intro found
    exact ⟨⟨key, value⟩, (AList.mem_lookup_iff).1 found, rfl⟩

theorem pairs_keys_nodup (m : GoMap α) : (m.pairs.map Prod.fst).Nodup := by
  simpa [pairs, List.keys] using m.nodupKeys

theorem rel_imp {R S : α → β → Prop} {x : Option α} {y : Option β} (related : Option.Rel R x y)
    (imp : ∀ a b, R a b → S a b) : Option.Rel S x y := by
  cases related with
  | none => exact .none
  | some holds => exact .some (imp _ _ holds)

theorem rel_eq {x y : Option α} (equal : x = y) : Option.Rel (· = ·) x y := by
  subst equal
  cases x with
  | none => exact .none
  | some value => exact .some rfl

theorem rel_none_left {R : α → β → Prop} {y : Option β} (related : Option.Rel R none y) :
    y = none := by
  cases related; rfl

theorem rel_some_left {R : α → β → Prop} {a : α} {y : Option β} (related : Option.Rel R (some a) y) :
    ∃ b, y = some b ∧ R a b := by
  cases related with | some holds => exact ⟨_, rfl, holds⟩

theorem rel_some_right {R : α → β → Prop} {x : Option α} {b : β} (related : Option.Rel R x (some b)) :
    ∃ a, x = some a ∧ R a b := by
  cases related with | some holds => exact ⟨_, rfl, holds⟩

/-- Maps related key by key, by relations under which `p` and `q` agree, agree on whether
some value satisfies them: a `range` that looks for such a value finds one in both or in
neither. -/
theorem any_pairs_eq_of_rel {R : String → α → β → Prop} {m₁ : GoMap α} {m₂ : GoMap β}
    {p : α → Bool} {q : β → Bool} (related : ∀ key, Option.Rel (R key) (m₁.lookup key) (m₂.lookup key))
    (agree : ∀ key a b, R key a b → p a = q b) :
    m₁.pairs.any (fun entry => p entry.2) = m₂.pairs.any (fun entry => q entry.2) := by
  rw [Bool.eq_iff_iff]
  simp only [List.any_eq_true, Prod.exists, mem_pairs]
  constructor
  · rintro ⟨key, a, found, holds⟩
    obtain ⟨b, foundB, rel⟩ := rel_some_left (found ▸ related key)
    exact ⟨key, b, foundB, agree key a b rel ▸ holds⟩
  · rintro ⟨key, b, found, holds⟩
    obtain ⟨a, foundA, rel⟩ := rel_some_right (found ▸ related key)
    exact ⟨key, a, foundA, (agree key a b rel).symm ▸ holds⟩

end GoMap

/-- The `range` loops over a map in `config.go`, one constructor per loop statement, with
the line it starts on. -/
inductive RangeLoop where
  /-- `for label, val := range preset.Labels` in `mergeJobConfigs` (line 732). -/
  | presetLabels
  /-- `for repo, jobs := range a.Presubmits` in `mergeJobConfigs` (line 746). -/
  | mergeFirstPresubmits
  /-- `for repo, jobs := range b.Presubmits` in `mergeJobConfigs` (line 749). -/
  | mergeSecondPresubmits
  /-- `for repo, jobs := range a.Postsubmits` in `mergeJobConfigs` (line 755). -/
  | mergeFirstPostsubmits
  /-- `for repo, jobs := range b.Postsubmits` in `mergeJobConfigs` (line 758). -/
  | mergeSecondPostsubmits
  /-- `for rep := range jc.Presubmits` in `yamlToConfig` (line 651). -/
  | sourcePathPresubmits
  /-- `for rep := range jc.Postsubmits` in `yamlToConfig` (line 660). -/
  | sourcePathPostsubmits
  /-- `for repo, jobs := range c.Presubmits` in `finalizeJobConfig` (line 864). -/
  | finalizePresubmits
  /-- `for repo, jobs := range c.Postsubmits` in `finalizeJobConfig` (line 871). -/
  | finalizePostsubmits
  /-- `for k, v := range c.Plank.JobURLPrefixConfig` in `validateComponentConfig` (line 887). -/
  | jobURLPrefixes
  /-- `for _, jobs := range c.Presubmits` in `validateJobConfig` (line 996). -/
  | validatePresubmits
  /-- `for _, jobs := range c.Postsubmits` in `validateJobConfig` (line 1003). -/
  | validatePostsubmits
  /-- `for regex, viewers := range c.Deck.Spyglass.Viewers` in `parseProwConfig` (line 1131). -/
  | spyglassViewers
  /-- `for re, viewers := range c.Deck.Spyglass.Viewers` in `parseProwConfig` (line 1170). -/
  | oldViewerNames
  /-- `for label, value := range labels` in `validateLabels` (line 1315). -/
  | labels
deriving DecidableEq, Repr

/-- The order in which the `range` loops of `config.go` visit their maps: each loop
statement has its own, and a loop over a map visits every entry once. The Go runtime
leaves the orders unspecified and randomises them, so every result about such a loop is
stated for every `MapOrder`. A loop statement that runs twice over equal maps in one run
(`validateLabels` for two jobs with the same labels) visits them alike here; Go may draw
two orders, and no result here depends on the difference, since each loop lemma holds for
every permutation. -/
structure MapOrder where
  enumerate : {α : Type} → RangeLoop → GoMap α → List (String × α)
  enumerate_perm : ∀ {α : Type} (site : RangeLoop) (m : GoMap α), (enumerate site m).Perm m.pairs

namespace MapOrder

variable {α β ε : Type}

/-- Visit the entries in storage order. -/
def stored : MapOrder := ⟨fun _ => GoMap.pairs, fun _ _ => List.Perm.refl _⟩

/-- Visit the entries in reverse storage order. -/
def reversed : MapOrder := ⟨fun _ m => m.pairs.reverse, fun _ _ => List.reverse_perm _⟩

theorem mem_enumerate (order : MapOrder) {site : RangeLoop} {m : GoMap α} {key : String}
    {value : α} : (key, value) ∈ order.enumerate site m ↔ m.lookup key = some value :=
  (order.enumerate_perm site m).mem_iff.trans GoMap.mem_pairs

theorem enumerate_keys_nodup (order : MapOrder) (site : RangeLoop) (m : GoMap α) :
    ((order.enumerate site m).map Prod.fst).Nodup :=
  ((order.enumerate_perm site m).map Prod.fst).nodup_iff.2 (GoMap.pairs_keys_nodup m)

@[simp] theorem enumerate_empty (order : MapOrder) (site : RangeLoop) :
    order.enumerate site (∅ : GoMap α) = [] :=
  (order.enumerate_perm site ∅).eq_nil

theorem key_mem_enumerate (order : MapOrder) {site : RangeLoop} {m : GoMap α} {key : String} :
    key ∈ (order.enumerate site m).map Prod.fst ↔ key ∈ m := by
  rw [← AList.lookup_isSome, Option.isSome_iff_exists]
  simp only [List.mem_map, Prod.exists, exists_and_right, exists_eq_right]
  exact exists_congr fun _ => order.mem_enumerate

end MapOrder

/-! ## Loops that write back into a map -/

namespace GoMap

variable {α β ε : Type}

/-- `for key, value := range src { dst[key] = update(dst[key], value) }`, with the old value
read as `none` when `dst` has no entry for the key. -/
def rangeUpdate (update : Option β → α → β) (dst : GoMap β) :
    List (String × α) → GoMap β
  | [] => dst
  | (key, value) :: rest => rangeUpdate update (dst.insert key (update (dst.lookup key) value)) rest

theorem lookup_rangeUpdate_of_not_mem (update : Option β → α → β) {key : String} :
    ∀ (dst : GoMap β) (src : List (String × α)), key ∉ src.map Prod.fst →
      (rangeUpdate update dst src).lookup key = dst.lookup key
  | _, [], _ => rfl
  | dst, (k, v) :: rest, absent => by
      simp only [List.map_cons, List.mem_cons, not_or] at absent
      rw [rangeUpdate, lookup_rangeUpdate_of_not_mem update _ rest absent.2,
        AList.lookup_insert_ne absent.1]

theorem lookup_rangeUpdate_of_mem (update : Option β → α → β) {key : String} {value : α} :
    ∀ (dst : GoMap β) (src : List (String × α)), (src.map Prod.fst).Nodup →
      (key, value) ∈ src →
      (rangeUpdate update dst src).lookup key = some (update (dst.lookup key) value)
  | _, [], _, member => absurd member (List.not_mem_nil _)
  | dst, (k, v) :: rest, nodup, member => by
      simp only [List.map_cons, List.nodup_cons] at nodup
      rw [rangeUpdate]
      rcases List.mem_cons.1 member with head | tail
      · cases head
        rw [lookup_rangeUpdate_of_not_mem update _ rest nodup.1, AList.lookup_insert]
      · have fresh : key ≠ k := fun same => nodup.1 (same ▸ List.mem_map_of_mem _ tail)
        rw [lookup_rangeUpdate_of_mem update _ rest nodup.2 tail, AList.lookup_insert_ne fresh]

/-- **A `range` that writes into a map computes the same map in every order.** Each key of
`src` is updated once, from the value `dst` held before the loop. -/
theorem lookup_rangeUpdate (order : MapOrder) (site : RangeLoop) (update : Option β → α → β)
    (dst : GoMap β) (src : GoMap α) (key : String) :
    (rangeUpdate update dst (order.enumerate site src)).lookup key =
      match src.lookup key with
      | some value => some (update (dst.lookup key) value)
      | none => dst.lookup key := by
  cases found : src.lookup key with
  | some value =>
      exact lookup_rangeUpdate_of_mem update dst _ (order.enumerate_keys_nodup site src)
        (order.mem_enumerate.2 found)
  | none =>
      refine lookup_rangeUpdate_of_not_mem update dst _ ?_
      rw [order.key_mem_enumerate, ← AList.lookup_eq_none]
      exact found

/-- Writing the same updates into maps with the same entries, in any two orders, gives maps
with the same entries. -/
theorem rangeUpdate_same (order₁ order₂ : MapOrder) {site₁ site₂ : RangeLoop}
    (update : Option β → α → β) {dst₁ dst₂ : GoMap β} {src₁ src₂ : GoMap α}
    (dsts : Same dst₁ dst₂) (srcs : Same src₁ src₂) :
    Same (rangeUpdate update dst₁ (order₁.enumerate site₁ src₁))
      (rangeUpdate update dst₂ (order₂.enumerate site₂ src₂)) := fun key => by
  rw [lookup_rangeUpdate, lookup_rangeUpdate, srcs key, dsts key]

/-- `for key, value := range src { v, err := update(key, value); if err != nil { return
err }; dst[key] = v }`: the first failing update ends the loop with its error. -/
def rangeUpdateM (update : String → α → Except ε β) (dst : GoMap β) :
    List (String × α) → Except ε (GoMap β)
  | [] => .ok dst
  | (key, value) :: rest =>
      match update key value with
      | .error err => .error err
      | .ok updated => rangeUpdateM update (dst.insert key updated) rest

/-- The loop succeeds exactly when every update does, in whatever order it runs them. -/
theorem rangeUpdateM_succeeds_iff (update : String → α → Except ε β) :
    ∀ (dst : GoMap β) (src : List (String × α)),
      (∃ result, rangeUpdateM update dst src = .ok result) ↔
        ∀ entry ∈ src, ∃ updated, update entry.1 entry.2 = .ok updated
  | _, [] => by simp [rangeUpdateM]
  | dst, (key, value) :: rest => by
      rw [rangeUpdateM]
      cases found : update key value with
      | error err => simp [found]
      | ok updated => simp [found, rangeUpdateM_succeeds_iff update _ rest]

theorem lookup_rangeUpdateM_of_not_mem (update : String → α → Except ε β) {key : String} :
    ∀ (dst result : GoMap β) (src : List (String × α)), key ∉ src.map Prod.fst →
      rangeUpdateM update dst src = .ok result → result.lookup key = dst.lookup key
  | _, _, [], _, done => by cases done; rfl
  | dst, result, (k, v) :: rest, absent, done => by
      simp only [List.map_cons, List.mem_cons, not_or] at absent
      rw [rangeUpdateM] at done
      cases updated : update k v with
      | error err => rw [updated] at done; cases done
      | ok value =>
          rw [updated] at done
          rw [lookup_rangeUpdateM_of_not_mem update _ result rest absent.2 done,
            AList.lookup_insert_ne absent.1]

theorem lookup_rangeUpdateM_of_mem (update : String → α → Except ε β) {key : String}
    {value : α} :
    ∀ (dst result : GoMap β) (src : List (String × α)), (src.map Prod.fst).Nodup →
      (key, value) ∈ src → rangeUpdateM update dst src = .ok result →
      ∃ updated, update key value = .ok updated ∧ result.lookup key = some updated
  | _, _, [], _, member, _ => absurd member (List.not_mem_nil _)
  | dst, result, (k, v) :: rest, nodup, member, done => by
      simp only [List.map_cons, List.nodup_cons] at nodup
      rw [rangeUpdateM] at done
      cases updated : update k v with
      | error err => rw [updated] at done; cases done
      | ok value' =>
          rw [updated] at done
          rcases List.mem_cons.1 member with head | tail
          · cases head
            refine ⟨value', updated, ?_⟩
            rw [lookup_rangeUpdateM_of_not_mem update _ result rest nodup.1 done,
              AList.lookup_insert]
          · exact lookup_rangeUpdateM_of_mem update _ result rest nodup.2 tail done

/-- **A `range` that rewrites each value of a map in place** ends, when it succeeds, with
every key's value rewritten once by its update, in whatever order the loop ran. -/
theorem rangeUpdateM_rel (order : MapOrder) {site : RangeLoop} {update : String → α → Except ε α}
    {m result : GoMap α} (done : rangeUpdateM update m (order.enumerate site m) = .ok result)
    (key : String) :
    Option.Rel (fun value updated => update key value = .ok updated)
      (m.lookup key) (result.lookup key) := by
  cases found : m.lookup key with
  | some value =>
      obtain ⟨updated, ran, stored⟩ := lookup_rangeUpdateM_of_mem update m result _
        (order.enumerate_keys_nodup site m) (order.mem_enumerate.2 found) done
      rw [stored]
      exact .some ran
  | none =>
      have absent : key ∉ (order.enumerate site m).map Prod.fst := by
        rw [order.key_mem_enumerate, ← AList.lookup_eq_none]; exact found
      rw [lookup_rangeUpdateM_of_not_mem update m result _ absent done, found]
      exact .none

end GoMap

/-! ## Loops that return the first error -/

namespace Except

variable {α β ε : Type}

/-- Peel one `if err := f(); err != nil { return err }` step off a successful run. -/
theorem bind_eq_ok {x : Except ε α} {f : α → Except ε β} {result : β} :
    x >>= f = .ok result ↔ ∃ value, x = .ok value ∧ f value = .ok result := by
  cases x <;> simp [bind, Except.bind]

/-- A guard `if cond { return err }` passes exactly when its condition fails. -/
theorem ite_error_eq_ok {cond : Prop} [Decidable cond] {err : ε} {x : Except ε α} {result : α} :
    (if cond then .error err else x) = .ok result ↔ ¬cond ∧ x = .ok result := by
  split_ifs <;> simp_all

/-- A step that succeeded hands its result to the next. -/
theorem ok_bind {x : α} {f : α → Except ε β} : (Except.ok x : Except ε α) >>= f = f x := rfl

/-- A run that `isOk` computes to succeed has a result. -/
theorem exists_ok_of_isOk {x : Except ε α} (succeeded : x.isOk = true) : ∃ value, x = .ok value := by
  cases x with
  | ok value => exact ⟨value, rfl⟩
  | error err => exact nomatch succeeded

/-- Two runs agree: both fail, whatever their errors, or both succeed with results
related by `related`. -/
def Agree {ε₁ ε₂ : Type} (related : α → β → Prop) : Except ε₁ α → Except ε₂ β → Prop
  | .ok left, .ok right => related left right
  | .error _, .error _ => True
  | _, _ => False

/-- Two runs agree when they succeed together and related results are all they produce. -/
theorem Agree.of_iff {ε₁ ε₂ : Type} {related : α → β → Prop} {x₁ : Except ε₁ α}
    {x₂ : Except ε₂ β} (succeeds : (∃ a, x₁ = .ok a) ↔ (∃ b, x₂ = .ok b))
    (results : ∀ a b, x₁ = .ok a → x₂ = .ok b → related a b) : Agree related x₁ x₂ := by
  cases x₁ with
  | error e₁ =>
      cases x₂ with
      | error e₂ => trivial
      | ok b => exact absurd (succeeds.2 ⟨b, rfl⟩) (by simp)
  | ok a =>
      cases x₂ with
      | error e₂ => exact absurd (succeeds.1 ⟨a, rfl⟩) (by simp)
      | ok b => exact results a b rfl rfl

/-- Runs that agree, each continued by a step, agree when the steps agree on related
results. -/
theorem Agree.bind {ε₁ ε₂ γ δ : Type} {related : α → β → Prop} {related' : γ → δ → Prop}
    {x₁ : Except ε₁ α} {x₂ : Except ε₂ β} {f₁ : α → Except ε₁ γ} {f₂ : β → Except ε₂ δ}
    (agree : Agree related x₁ x₂) (steps : ∀ a b, related a b → Agree related' (f₁ a) (f₂ b)) :
    Agree related' (x₁ >>= f₁) (x₂ >>= f₂) := by
  cases x₁ with
  | error e₁ =>
      cases x₂ with
      | error e₂ => trivial
      | ok b => exact (agree : False).elim
  | ok a =>
      cases x₂ with
      | error e₂ => exact (agree : False).elim
      | ok b => exact steps a b agree

/-- Two checks that pass together agree. -/
theorem Agree.of_checks {x₁ x₂ : Except ε Unit} (passes : x₁ = .ok () ↔ x₂ = .ok ()) :
    Agree (fun _ _ => True) x₁ x₂ :=
  .of_iff ⟨fun ⟨⟨⟩, passed⟩ => ⟨(), passes.1 passed⟩, fun ⟨⟨⟩, passed⟩ => ⟨(), passes.2 passed⟩⟩
    fun _ _ _ _ => trivial

/-- One run continued by two steps that agree on each of its results. -/
theorem Agree.bind_left {γ δ : Type} {related : γ → δ → Prop} {x : Except ε α}
    {f₁ : α → Except ε γ} {f₂ : α → Except ε δ} (steps : ∀ a, Agree related (f₁ a) (f₂ a)) :
    Agree related (x >>= f₁) (x >>= f₂) := by
  cases x with
  | error e => trivial
  | ok a => exact steps a

end Except

namespace GoMap

variable {α ε : Type}

/-- Two sets of keys, `map[string]struct{}` or `sets.String`, are one set when they have the
same members. -/
theorem same_of_mem_iff {m₁ m₂ : GoMap Unit} (members : ∀ key, key ∈ m₁ ↔ key ∈ m₂) :
    Same m₁ m₂ := fun key => by
  cases found₁ : m₁.lookup key with
  | none =>
      rw [AList.lookup_eq_none] at found₁
      rw [eq_comm, AList.lookup_eq_none]
      exact fun member => found₁ ((members key).2 member)
  | some value₁ =>
      obtain ⟨value₂, found₂⟩ := Option.isSome_iff_exists.1
        (AList.lookup_isSome.2 ((members key).1 (AList.lookup_isSome.1 (by rw [found₁]; rfl))))
      rw [found₂]

/-- `for _, k := range keys { set.Insert(k) }` adds exactly the keys. -/
theorem mem_foldl_insert :
    ∀ (keys : List String) (base : GoMap Unit) (key : String),
      key ∈ keys.foldl (fun set k => set.insert k ()) base ↔ key ∈ keys ∨ key ∈ base
  | [], base, key => by simp
  | k :: rest, base, key => by
      rw [List.foldl_cons, mem_foldl_insert rest, AList.mem_insert, List.mem_cons]
      tauto

theorem rangeUpdateM_enumerate_succeeds_iff (order : MapOrder) (site : RangeLoop)
    (update : String → α → Except ε α) (dst m : GoMap α) :
    (∃ result, rangeUpdateM update dst (order.enumerate site m) = .ok result) ↔
      ∀ key value, m.lookup key = some value → ∃ updated, update key value = .ok updated := by
  rw [rangeUpdateM_succeeds_iff]
  exact ⟨fun all key value found => all _ (order.mem_enumerate.2 found),
    fun all entry member => all entry.1 entry.2 (order.mem_enumerate.1 member)⟩

/-- **A `range` that updates a map in place agrees with itself in every order**, on maps
with the same entries: both runs fail, or both give maps with the same entries. Which
failing update's error is returned depends on the order. -/
theorem rangeUpdateM_agree (order₁ order₂ : MapOrder) {site₁ site₂ : RangeLoop}
    (update : String → α → Except ε α) {m₁ m₂ : GoMap α} (same : Same m₁ m₂) :
    Except.Agree Same (rangeUpdateM update m₁ (order₁.enumerate site₁ m₁))
      (rangeUpdateM update m₂ (order₂.enumerate site₂ m₂)) := by
  refine .of_iff ?_ fun r₁ r₂ run₁ run₂ key => ?_
  · simp only [rangeUpdateM_enumerate_succeeds_iff, same _]
  have related₁ := rangeUpdateM_rel order₁ run₁ key
  have related₂ := rangeUpdateM_rel order₂ run₂ key
  rw [← same key] at related₂
  cases found : m₁.lookup key with
  | none =>
      rw [found] at related₁ related₂
      rw [rel_none_left related₁, rel_none_left related₂]
  | some value =>
      rw [found] at related₁ related₂
      obtain ⟨u₁, stored₁, ran₁⟩ := rel_some_left related₁
      obtain ⟨u₂, stored₂, ran₂⟩ := rel_some_left related₂
      rw [stored₁, stored₂, ← Except.ok.inj (ran₁.symm.trans ran₂)]

end GoMap

/-- A loop `for _, x := range xs { if err := check(x); err != nil { return err } }` finishes
without error exactly when every element passes its check. -/
theorem List.forM_except_eq_ok_iff {α ε : Type} (check : α → Except ε Unit) :
    ∀ xs : List α, xs.forM check = .ok () ↔ ∀ x ∈ xs, check x = .ok ()
  | [] => by simp; rfl
  | x :: rest => by
      rw [List.forM_cons']
      cases found : check x with
      | error err => simp [found, bind, Except.bind]
      | ok passed => simp [found, bind, Except.bind, List.forM_except_eq_ok_iff check rest]

/-- A `range` over a map whose body only checks passes exactly when every entry does. -/
theorem forM_enumerate_eq_ok_iff {α : Type} (order : MapOrder) (site : RangeLoop) (m : GoMap α)
    (check : String × α → Except String Unit) :
    (order.enumerate site m).forM check = .ok () ↔ ∀ key value, m.lookup key = some value →
      check (key, value) = .ok () := by
  rw [List.forM_except_eq_ok_iff]
  constructor
  · intro passes key value found
    exact passes _ (order.mem_enumerate.2 found)
  · rintro passes ⟨key, value⟩ member
    exact passes key value (order.mem_enumerate.1 member)

/-- A loop `for i, x := range xs { y, err := f(x); if err != nil { return err }; ys[i] = y }`
finishes without error exactly when it maps every element, position by position. -/
theorem List.mapM_except_eq_ok_iff {α β ε : Type} (f : α → Except ε β) :
    ∀ (xs : List α) (ys : List β), xs.mapM f = .ok ys ↔ List.Forall₂ (fun x y => f x = .ok y) xs ys
  | [], ys => by
      rw [List.mapM_nil]
      cases ys <;> simp [pure, Except.pure]
  | x :: rest, ys => by
      rw [List.mapM_cons]
      cases found : f x with
      | error err =>
          refine ⟨fun mapped => (nomatch mapped), fun related => ?_⟩
          cases related with
          | cons head _ => rw [found] at head; cases head
      | ok y =>
          cases restMapped : rest.mapM f with
          | error err =>
              refine ⟨fun mapped => (nomatch mapped), fun related => ?_⟩
              cases related with
              | cons _ tail =>
                  have := (List.mapM_except_eq_ok_iff f rest _).2 tail
                  rw [restMapped] at this; cases this
          | ok ys' =>
              have restRelated := (List.mapM_except_eq_ok_iff f rest ys').1 restMapped
              simp only [bind, Except.bind, pure, Except.pure, Except.ok.injEq]
              constructor
              · rintro rfl; exact .cons found restRelated
              · intro related
                cases related with
                | cons head tail =>
                    rw [found] at head; cases head
                    have := (List.mapM_except_eq_ok_iff f rest _).2 tail
                    rw [restMapped] at this; cases this; rfl

/-- Every element of the right list of a `Forall₂` is related to one of the left list. -/
theorem forall₂_exists_of_mem_right {α β : Type} {R : α → β → Prop} :
    ∀ {xs : List α} {ys : List β}, List.Forall₂ R xs ys → ∀ {y}, y ∈ ys → ∃ x ∈ xs, R x y
  | _, _, .nil, _, member => absurd member (List.not_mem_nil _)
  | _, _, .cons related rest, _, member => by
      rcases List.mem_cons.1 member with rfl | tail
      · exact ⟨_, List.mem_cons_self _ _, related⟩
      · obtain ⟨x, xMember, xRelated⟩ := forall₂_exists_of_mem_right rest tail
        exact ⟨x, List.mem_cons_of_mem _ xMember, xRelated⟩

/-- Lists related pointwise, by a relation under which `p` and `q` agree, agree on `any`. -/
theorem forall₂_any_eq {α β : Type} {R : α → β → Prop} {p : α → Bool} {q : β → Bool}
    (agree : ∀ a b, R a b → p a = q b) :
    ∀ {xs : List α} {ys : List β}, List.Forall₂ R xs ys → xs.any p = ys.any q
  | _, _, .nil => rfl
  | _, _, .cons related rest => by
      rw [List.any_cons, List.any_cons, agree _ _ related, forall₂_any_eq agree rest]

/-- Two loops in a row, the second over the first's results passed through `f`, relate each
input to its final output through the intermediate value. -/
theorem forall₂_comp_map {α β γ δ : Type} {R : α → β → Prop} {S : γ → δ → Prop}
    {f : β → γ} :
    ∀ {xs : List α} {mids : List β} {ys : List δ}, List.Forall₂ R xs mids →
      List.Forall₂ S (mids.map f) ys → List.Forall₂ (fun x y => ∃ mid, R x mid ∧ S (f mid) y) xs ys
  | _, _, _, .nil, .nil => .nil
  | _, _, _, .cons first rest, .cons second tail => .cons ⟨_, first, second⟩ (forall₂_comp_map rest tail)

end ProwJobConfig
