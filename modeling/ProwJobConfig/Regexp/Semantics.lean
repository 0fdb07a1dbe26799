import Mathlib.Data.List.Basic

/-!
Contract: the meaning of the regular expressions `config.go` compiles with Go's `regexp`
package: which spans of a text a parsed expression matches (`Regex.Matches`), whether a
string contains a match (`Regex.Search`, Go's `MatchString`), and an executable matcher
proved to decide it (`Regex.matchString_iff`).

Owns: the parsed form `Regex`, its match relation and the matcher.

Does not own: the syntax, which `Regexp.Parse` reads into a `Regex`; submatch positions and
leftmost-first preferences, which do not change whether a string matches.
-/

set_option autoImplicit false

namespace ProwJobConfig

/-- A regular expression of Go's `regexp/syntax` after parsing, as far as the model covers
it. Groups are dropped, as they do not change whether a string matches; `x+` is read as
`x x*` and `x?` as `x|`, which match the same spans. -/
inductive Regex where
  | noMatch
  | emptyMatch
  | literal (c : Char)
  | anyCharNotNL
  | anyChar
  | charClass (ranges : List (Char × Char))
  | beginLine
  | endLine
  | beginText
  | endText
  | concat (left right : Regex)
  | alternate (left right : Regex)
  | star (sub : Regex)
deriving DecidableEq, Repr

namespace Regex

/-- A character lies in one of the inclusive ranges of a class. -/
def inClass (ranges : List (Char × Char)) (c : Char) : Bool :=
  ranges.any fun range => decide (range.1 ≤ c) && decide (c ≤ range.2)

/-- `Matches text r i j`: `r` matches the characters of `text` from position `i` up to `j`.
`^` and `$` of multi-line mode are `beginLine` and `endLine`; outside it they are
`beginText` and `endText`. -/
inductive Matches (text : List Char) : Regex → Nat → Nat → Prop where
  | emptyMatch (i : Nat) : Matches text .emptyMatch i i
  | literal {c : Char} {i : Nat} : text[i]? = some c → Matches text (.literal c) i (i + 1)
  | anyCharNotNL {c : Char} {i : Nat} : text[i]? = some c → c ≠ '\n' →
      Matches text .anyCharNotNL i (i + 1)
  | anyChar {c : Char} {i : Nat} : text[i]? = some c → Matches text .anyChar i (i + 1)
  | charClass {ranges : List (Char × Char)} {c : Char} {i : Nat} : text[i]? = some c →
      inClass ranges c = true → Matches text (.charClass ranges) i (i + 1)
  | beginLine {i : Nat} : (i = 0 ∨ text[i - 1]? = some '\n') → Matches text .beginLine i i
  | endLine {i : Nat} : (i = text.length ∨ text[i]? = some '\n') → Matches text .endLine i i
  | beginText : Matches text .beginText 0 0
  | endText : Matches text .endText text.length text.length
  | concat {a b : Regex} {i j k : Nat} : Matches text a i j → Matches text b j k →
      Matches text (.concat a b) i k
  | alternateLeft {a b : Regex} {i j : Nat} : Matches text a i j → Matches text (.alternate a b) i j
  | alternateRight {a b : Regex} {i j : Nat} : Matches text b i j →
      Matches text (.alternate a b) i j
  | starNil {a : Regex} (i : Nat) : Matches text (.star a) i i
  | starCons {a : Regex} {i j k : Nat} : Matches text a i j → Matches text (.star a) j k →
      Matches text (.star a) i k

/-- Go's `MatchString`: some span of the string matches. -/
def Search (r : Regex) (s : String) : Prop :=
  ∃ i j, i ≤ s.toList.length ∧ Matches s.toList r i j

variable {text : List Char}

theorem Matches.le {r : Regex} {i j : Nat} (matched : Matches text r i j) : i ≤ j := by
  induction matched <;> omega

/-- A match is empty or ends inside the text. -/
theorem Matches.empty_or_le_length {r : Regex} {i j : Nat} (matched : Matches text r i j) :
    i = j ∨ j ≤ text.length := by
  induction matched with
  | literal found | anyCharNotNL found _ | anyChar found | charClass found _ =>
      exact .inr (List.getElem?_eq_some_iff.1 found).1
  | concat _ _ first second => omega
  | starCons _ _ first second => omega
  | alternateLeft _ inner | alternateRight _ inner => exact inner
  | _ => exact .inl rfl

/-! ## What each constructor matches -/

@[simp] theorem matches_emptyMatch_iff {i j : Nat} : Matches text .emptyMatch i j ↔ j = i :=
  ⟨fun | .emptyMatch _ => rfl, fun same => same.symm ▸ .emptyMatch i⟩

@[simp] theorem matches_literal_iff {c : Char} {i j : Nat} :
    Matches text (.literal c) i j ↔ j = i + 1 ∧ text[i]? = some c :=
  ⟨fun | .literal found => ⟨rfl, found⟩, fun ⟨next, found⟩ => next ▸ .literal found⟩

@[simp] theorem matches_anyCharNotNL_iff {i j : Nat} :
    Matches text .anyCharNotNL i j ↔ j = i + 1 ∧ ∃ c, text[i]? = some c ∧ c ≠ '\n' :=
  ⟨fun | .anyCharNotNL found notNewline => ⟨rfl, _, found, notNewline⟩,
    fun ⟨next, _, found, notNewline⟩ => next ▸ .anyCharNotNL found notNewline⟩

@[simp] theorem matches_anyChar_iff {i j : Nat} :
    Matches text .anyChar i j ↔ j = i + 1 ∧ ∃ c, text[i]? = some c :=
  ⟨fun | .anyChar found => ⟨rfl, _, found⟩,
    fun ⟨next, _, found⟩ => next ▸ .anyChar found⟩

@[simp] theorem matches_charClass_iff {ranges : List (Char × Char)} {i j : Nat} :
    Matches text (.charClass ranges) i j ↔
      j = i + 1 ∧ ∃ c, text[i]? = some c ∧ inClass ranges c = true :=
  ⟨fun | .charClass found inside => ⟨rfl, _, found, inside⟩,
    fun ⟨next, _, found, inside⟩ => next ▸ .charClass found inside⟩

@[simp] theorem matches_beginLine_iff {i j : Nat} :
    Matches text .beginLine i j ↔ j = i ∧ (i = 0 ∨ text[i - 1]? = some '\n') :=
  ⟨fun | .beginLine atLine => ⟨rfl, atLine⟩,
    fun ⟨same, atLine⟩ => same.symm ▸ .beginLine atLine⟩

@[simp] theorem matches_endLine_iff {i j : Nat} :
    Matches text .endLine i j ↔ j = i ∧ (i = text.length ∨ text[i]? = some '\n') :=
  ⟨fun | .endLine atLine => ⟨rfl, atLine⟩,
    fun ⟨same, atLine⟩ => same.symm ▸ .endLine atLine⟩

@[simp] theorem matches_beginText_iff {i j : Nat} :
    Matches text .beginText i j ↔ i = 0 ∧ j = 0 :=
  ⟨fun | .beginText => ⟨rfl, rfl⟩, by rintro ⟨rfl, rfl⟩; exact .beginText⟩

@[simp] theorem matches_endText_iff {i j : Nat} :
    Matches text .endText i j ↔ i = text.length ∧ j = text.length :=
  ⟨fun | .endText => ⟨rfl, rfl⟩, by rintro ⟨rfl, rfl⟩; exact .endText⟩

@[simp] theorem matches_concat_iff {a b : Regex} {i k : Nat} :
    Matches text (.concat a b) i k ↔ ∃ j, Matches text a i j ∧ Matches text b j k :=
  ⟨fun | .concat first second => ⟨_, first, second⟩,
    fun ⟨_, first, second⟩ => .concat first second⟩

@[simp] theorem matches_alternate_iff {a b : Regex} {i j : Nat} :
    Matches text (.alternate a b) i j ↔ Matches text a i j ∨ Matches text b i j :=
  ⟨fun | .alternateLeft left => .inl left | .alternateRight right => .inr right,
    fun | .inl left => .alternateLeft left | .inr right => .alternateRight right⟩

/-! ## The matcher -/

/-- The ends of the matches of `x*` from `i`, where `step` lists the ends of the matches of
`x`. Only steps that advance are followed, so `fuel` bounds the number of iterations. -/
def starEnds (step : Nat → List Nat) : Nat → Nat → List Nat
  | 0, i => [i]
  | fuel + 1, i => i :: ((step i).filter (i < ·)).flatMap (starEnds step fuel)

/-- The ends of the matches of `r` in `text` that start at `i`. -/
def ends (text : List Char) : Regex → Nat → List Nat
  | .noMatch, _ => []
  | .emptyMatch, i => [i]
  | .literal c, i => if text[i]? = some c then [i + 1] else []
  | .anyCharNotNL, i =>
      match text[i]? with
      | some c => if c = '\n' then [] else [i + 1]
      | none => []
  | .anyChar, i =>
      match text[i]? with
      | some _ => [i + 1]
      | none => []
  | .charClass ranges, i =>
      match text[i]? with
      | some c => if inClass ranges c then [i + 1] else []
      | none => []
  | .beginLine, i => if i = 0 ∨ text[i - 1]? = some '\n' then [i] else []
  | .endLine, i => if i = text.length ∨ text[i]? = some '\n' then [i] else []
  | .beginText, i => if i = 0 then [i] else []
  | .endText, i => if i = text.length then [i] else []
  | .concat a b, i => (ends text a i).flatMap (ends text b)
  | .alternate a b, i => ends text a i ++ ends text b i
  | .star a, i => starEnds (ends text a) (text.length + 1) i

/-- `regexp.MatchString`, on a parsed expression: some start position has a match. -/
def matchString (r : Regex) (s : String) : Bool :=
  (List.range (s.toList.length + 1)).any fun i => !(ends s.toList r i).isEmpty

theorem starEnds_sound {a : Regex} {step : Nat → List Nat}
    (stepSound : ∀ {i j}, j ∈ step i → Matches text a i j) :
    ∀ (fuel i k : Nat), k ∈ starEnds step fuel i → Matches text (.star a) i k
  | 0, i, k, member => by
      rw [starEnds, List.mem_singleton] at member
      exact member ▸ .starNil k
  | fuel + 1, i, k, member => by
      rw [starEnds, List.mem_cons] at member
      rcases member with rfl | member
      · exact .starNil k
      · obtain ⟨j, stepMember, rest⟩ := List.mem_flatMap.1 member
        exact .starCons (stepSound (List.mem_filter.1 stepMember).1)
          (starEnds_sound stepSound fuel j k rest)

/-- Every end the matcher lists is the end of a match. -/
theorem ends_sound (r : Regex) {i j : Nat} (member : j ∈ ends text r i) : Matches text r i j := by
  induction r generalizing i j with
  | concat a b aSound bSound =>
      obtain ⟨mid, first, second⟩ := List.mem_flatMap.1 member
      exact .concat (aSound first) (bSound second)
  | alternate a b aSound bSound =>
      rcases List.mem_append.1 member with left | right
      · exact .alternateLeft (aSound left)
      · exact .alternateRight (bSound right)
  | star a aSound => exact starEnds_sound aSound _ i j member
  | anyCharNotNL | anyChar | charClass ranges => cases found : text[i]? <;> simp_all [ends]
  | _ => simp_all [ends]

theorem starEnds_complete {a : Regex} {step : Nat → List Nat}
    (stepComplete : ∀ {i j}, Matches text a i j → j ∈ step i) {r : Regex} {i k : Nat}
    (matched : Matches text r i k) (isStar : r = .star a) :
    ∀ fuel, k - i ≤ fuel → k ∈ starEnds step fuel i := by
  induction matched with
  | starNil i => intro fuel _; cases fuel <;> simp [starEnds]
  | @starCons sub i j k first rest _ restComplete =>
      cases isStar
      intro fuel bound
      have ordered := rest.le
      rcases Nat.eq_or_lt_of_le first.le with same | advanced
      · subst same
        exact restComplete rfl fuel bound
      · obtain ⟨fuel, rfl⟩ : ∃ smaller, fuel = smaller + 1 := ⟨fuel - 1, by omega⟩
        rw [starEnds]
        exact List.mem_cons_of_mem _ (List.mem_flatMap.2 ⟨j,
          List.mem_filter.2 ⟨stepComplete first, by simpa using advanced⟩,
          restComplete rfl fuel (by omega)⟩)
  | _ => cases isStar

/-- Every match's end is listed by the matcher. -/
theorem ends_complete (r : Regex) {i j : Nat} (matched : Matches text r i j) : j ∈ ends text r i := by
  induction r generalizing i j with
  | concat a b aComplete bComplete =>
      cases matched with
      | concat first second => exact List.mem_flatMap.2 ⟨_, aComplete first, bComplete second⟩
  | alternate a b aComplete bComplete =>
      cases matched with
      | alternateLeft left => exact List.mem_append_left _ (aComplete left)
      | alternateRight right => exact List.mem_append_right _ (bComplete right)
  | star a aComplete =>
      rw [ends]
      exact starEnds_complete aComplete matched rfl _ (by
        rcases matched.empty_or_le_length with same | bounded <;> omega)
  | _ => cases matched <;> simp_all [ends]

/-- **The matcher decides Go's `MatchString`.** -/
theorem matchString_iff (r : Regex) (s : String) : matchString r s = true ↔ Search r s := by
  simp only [matchString, List.any_eq_true, List.mem_range, Bool.not_eq_true',
    List.isEmpty_eq_false]
  constructor
  · rintro ⟨i, bound, nonempty⟩
    obtain ⟨j, member⟩ := List.exists_mem_of_ne_nil _ nonempty
    exact ⟨i, j, by omega, ends_sound r member⟩
  · rintro ⟨i, j, bound, matched⟩
    exact ⟨i, by omega, List.ne_nil_of_mem (ends_complete r matched)⟩

end Regex

end ProwJobConfig
