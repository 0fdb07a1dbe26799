import ProwJobConfig.Regexp.Parse
import ProwJobConfig.Validate

/-!
Contract: what the default trigger of a presubmit matches. `DefaultTriggerFor(name)` splices
the job name unescaped into `(?m)^/test( | .* )NAME,?($|\s.*)`. For a name that
`jobNameRegex` accepts, every character of the name is a literal except `.`, which matches
any character but a newline.

Owns: the lexing and the parse of a default trigger for every valid name
(`parseRegexp_defaultTriggerFor_eq`): it parses unless its runes pass `maxRunes`, which a
name of `maxRunes` characters does. Within `maxTriggerNameLength`, where `FollowsRE2` speaks
for Go's `regexp`, which default rerun commands it accepts: its own name's, and those of the
names that differ from it only where it has a `.`.

Does not own: the regular-expression syntax and matcher (`Regexp.Parse`,
`Regexp.Semantics`), and how a library's `regexp` relates to them (`Library.FollowsRE2`).
-/

set_option autoImplicit false

namespace ProwJobConfig

open Regex

/-! ## Lexing a default trigger -/

/-- The token a character of a valid job name lexes to. -/
def nameToken (c : Char) : RegexToken :=
  if c = '.' then .dot else .literal c

theorem lexNormal_of_isJobNameChar {c : Char} (valid : isJobNameChar c = true) :
    lexNormal c = .ok ([nameToken c], .normal) := by
  unfold lexNormal nameToken
  split <;> first | rfl | (exfalso; revert valid; decide) | simp_all

theorem lexRun_name {cs : List Char} (valid : ∀ c ∈ cs, isJobNameChar c = true) :
    lexRun .normal cs = .ok (cs.map nameToken, .normal) := by
  induction cs with
  | nil => rfl
  | cons c cs ih =>
      rw [List.forall_mem_cons] at valid
      rw [lexRun, lexStep_normal, lexNormal_of_isJobNameChar valid.1]
      show (lexRun .normal cs >>= _) = _
      rw [ih valid.2]
      rfl

/-- The tokens of `(?m)^/test( | .* )`. -/
def triggerPrefixTokens : List RegexToken :=
  [.setFlags { multiline := some true }, .caret, .literal '/', .literal 't', .literal 'e',
    .literal 's', .literal 't', .openGroup true {}, .literal ' ', .bar, .literal ' ', .dot, .star,
    .literal ' ', .closeGroup]

/-- The tokens of `,?($|\s.*)`. -/
def triggerSuffixTokens : List RegexToken :=
  [.literal ',', .quest, .openGroup true {}, .dollar, .bar, .perlClass perlSpace, .dot, .star,
    .closeGroup]

theorem lexRegexp_defaultTriggerFor {name : String}
    (valid : ∀ c ∈ name.toList, isJobNameChar c = true) :
    lexRegexp (defaultTriggerFor name).toList =
      .ok (triggerPrefixTokens ++ name.toList.map nameToken ++ triggerSuffixTokens) := by
  have prefixed : lexRun .normal "(?m)^/test( | .* )".toList =
      .ok (triggerPrefixTokens, .normal) := rfl
  have suffixed : lexRun .normal ",?($|\\s.*)".toList = .ok (triggerSuffixTokens, .normal) := rfl
  have lexed := lexRun_append (lexRun_append prefixed (lexRun_name valid)) suffixed
  rw [lexRegexp, show (defaultTriggerFor name).toList =
    "(?m)^/test( | .* )".toList ++ name.toList ++ ",?($|\\s.*)".toList from rfl, lexed]
  exact congrArg Except.ok (List.append_nil _)

/-! ## Parsing a default trigger -/

/-- What a character of a valid job name parses to in the trigger: `.` matches any character
but a newline, as `s` is not set; every other character is itself. -/
def nameAtom (c : Char) : Regex :=
  if c = '.' then .anyCharNotNL else .literal c

theorem parseStep_nameToken {state : ParseState} (noDotNL : state.flags.dotNL = false)
    (c : Char) : parseStep state (nameToken c) = .ok (state.push (nameAtom c)) := by
  unfold nameToken nameAtom
  split <;> simp [parseStep, noDotNL]

theorem foldlM_nameTokens (cs : List Char) {state : ParseState}
    (noDotNL : state.flags.dotNL = false) :
    (cs.map nameToken).foldlM parseStep state =
      .ok { state with
            items := (cs.map fun c => (nameAtom c, RepeatMark.atom)).reverse ++ state.items } := by
  induction cs generalizing state with
  | nil => rfl
  | cons c cs ih =>
      rw [List.map_cons, List.foldlM_cons, parseStep_nameToken noDotNL]
      show (cs.map nameToken).foldlM parseStep (state.push (nameAtom c)) = _
      rw [@ih (state.push (nameAtom c)) noDotNL]
      simp [ParseState.push]

/-- What `(?m)^/test( | .* )` parses to, item by item. -/
def triggerPrefix : List Regex :=
  [.beginLine, .literal '/', .literal 't', .literal 'e', .literal 's', .literal 't',
    alternateAll [concatAll [.literal ' '],
      concatAll [.literal ' ', .star .anyCharNotNL, .literal ' ']]]

/-- What `,?($|\s.*)` parses to, item by item. -/
def triggerSuffix : List Regex :=
  [.alternate (.literal ',') .emptyMatch,
    alternateAll [concatAll [.endLine], concatAll [.charClass perlSpace, .star .anyCharNotNL]]]

/-- The runes of a default trigger: 15 of its own, and one for each character of the name
but `.`. -/
theorem runeCount_defaultTriggerTokens (names : List Char) :
    runeCount (triggerPrefixTokens ++ names.map nameToken ++ triggerSuffixTokens) =
      15 + runeCount (names.map nameToken) := by
  simp only [runeCount_append, show runeCount triggerPrefixTokens = 8 from rfl,
    show runeCount triggerSuffixTokens = 7 from rfl]
  omega

theorem runeCount_nameTokens_le (names : List Char) :
    runeCount (names.map nameToken) ≤ names.length := by
  induction names with
  | nil => simp
  | cons c names ih =>
      have one : (nameToken c).runes ≤ 1 := by
        unfold nameToken
        split <;> simp [RegexToken.runes]
      simp only [List.map_cons, runeCount_cons, List.length_cons]
      omega

/-- **The parse of a default trigger.** For a name of valid characters, the trigger parses
to the prefix's items, one item per character of the name, and the suffix's items, unless
its runes pass `maxRunes`. -/
theorem parseRegexp_defaultTriggerFor_eq {name : String}
    (valid : ∀ c ∈ name.toList, isJobNameChar c = true) :
    parseRegexp (defaultTriggerFor name) =
      if maxRunes < 15 + runeCount (name.toList.map nameToken) then .error errLarge
      else .ok (alternateAll [concatAll (triggerPrefix ++ name.toList.map nameAtom ++ triggerSuffix)]) := by
  have prefixed : triggerPrefixTokens.foldlM parseStep {} =
      .ok { flags := { multiline := true }, depth := 1,
            items := (triggerPrefix.map (·, RepeatMark.atom)).reverse } := rfl
  have suffixed : ∀ items, triggerSuffixTokens.foldlM parseStep
      { flags := { multiline := true }, depth := 1, items := items } =
      .ok { flags := { multiline := true }, depth := 1,
            items := (triggerSuffix.zip [.repeated, .atom]).reverse ++ items } := fun _ => rfl
  rw [parseRegexp, lexRegexp_defaultTriggerFor valid, Except.ok_bind, List.foldlM_append,
    List.foldlM_append, prefixed, Except.ok_bind, foldlM_nameTokens _ rfl, Except.ok_bind,
    suffixed, Except.ok_bind, runeCount_defaultTriggerTokens]
  split_ifs
  · rfl
  · simp [parseFinish, groupRegex, triggerSuffix, List.map_reverse, Function.comp_def]

/-- The longest name whose default trigger `FollowsRE2` speaks for: the trigger is the name
and 28 characters more. -/
def maxTriggerNameLength : Nat := followedLength - 28

theorem defaultTriggerFor_length (name : String) :
    (defaultTriggerFor name).length = name.length + 28 := by
  have prefixLength : "(?m)^/test( | .* )".length = 18 := rfl
  have suffixLength : ",?($|\\s.*)".length = 10 := rfl
  simp only [defaultTriggerFor, String.length_append, prefixLength, suffixLength]
  omega

theorem parseRegexp_defaultTriggerFor {name : String}
    (valid : ∀ c ∈ name.toList, isJobNameChar c = true)
    (short : name.length ≤ maxTriggerNameLength) :
    parseRegexp (defaultTriggerFor name) =
      .ok (alternateAll [concatAll (triggerPrefix ++ name.toList.map nameAtom ++ triggerSuffix)]) := by
  have runes := runeCount_nameTokens_le name.toList
  have lengths : name.toList.length = name.length := rfl
  have small : ¬maxRunes < 15 + runeCount (name.toList.map nameToken) := by
    simp only [maxRunes, maxTriggerNameLength, followedLength] at short ⊢
    omega
  rw [parseRegexp_defaultTriggerFor_eq valid, if_neg small]

/-- Whether the character `c` of a rerun command matches the trigger's item for the name
character `pattern`: a `.` accepts any character but a newline, every other character only
itself. -/
def nameCharAccepts (pattern c : Char) : Bool :=
  if pattern = '.' then c != '\n' else c == pattern

@[simp] theorem nameCharAccepts_self (c : Char) : nameCharAccepts c c = true := by
  unfold nameCharAccepts
  split <;> simp_all

theorem matches_nameAtom {text : List Char} {i : Nat} {pattern c : Char}
    (found : text[i]? = some c) (accepts : nameCharAccepts pattern c = true) :
    Matches text (nameAtom pattern) i (i + 1) := by
  unfold nameAtom
  unfold nameCharAccepts at accepts
  split at accepts
  · rw [if_pos ‹_›]
    exact .anyCharNotNL found (by simpa using accepts)
  · rw [if_neg ‹_›]
    exact (by simpa using accepts : c = pattern) ▸ .literal found

/-- The items of a name match, inside any text, the characters its characters accept. -/
theorem matches_nameAtoms {names command : List Char}
    (accepts : List.Forall₂ (fun pattern c => nameCharAccepts pattern c = true) names command)
    (pre post : List Char) :
    Matches (pre ++ command ++ post) (concatAll (names.map nameAtom)) pre.length
      (pre.length + command.length) := by
  induction accepts generalizing pre with
  | nil => exact .emptyMatch _
  | @cons pattern c names command head _ ih =>
      have found : (pre ++ c :: command ++ post)[pre.length]? = some c := by
        rw [List.append_assoc, List.getElem?_append_right (Nat.le_refl _), Nat.sub_self,
          List.cons_append, List.getElem?_cons_zero]
      have rest := ih (pre ++ [c])
      rw [show pre ++ [c] ++ command ++ post = pre ++ c :: command ++ post by simp,
        List.length_append, List.length_singleton] at rest
      rw [List.map_cons, concatAll_cons, List.length_cons, Nat.add_comm command.length 1,
        ← Nat.add_assoc]
      exact .concat (matches_nameAtom found head) rest

/-- A name's item matches one character, one its name character accepts. -/
theorem matches_nameAtom_inv {text : List Char} {pattern : Char} {i j : Nat}
    (matched : Matches text (nameAtom pattern) i j) :
    j = i + 1 ∧ ∃ c, text[i]? = some c ∧ nameCharAccepts pattern c = true := by
  unfold nameAtom at matched
  unfold nameCharAccepts
  split at matched
  · obtain ⟨next, c, found, notNewline⟩ := matches_anyCharNotNL_iff.1 matched
    exact ⟨next, c, found, by simp_all⟩
  · obtain ⟨next, found⟩ := matches_literal_iff.1 matched
    exact ⟨next, pattern, found, by simp_all⟩

/-- The items of a name match only the characters its characters accept, one each. -/
theorem matches_nameAtoms_inv {text names : List Char} {i j : Nat}
    (matched : Matches text (concatAll (names.map nameAtom)) i j) :
    j = i + names.length ∧ List.Forall₂ (fun pattern c => nameCharAccepts pattern c = true)
      names ((text.drop i).take names.length) := by
  induction names generalizing i with
  | nil =>
      simp only [List.map_nil, concatAll_nil, matches_emptyMatch_iff] at matched
      simp [matched]
  | cons pattern names ih =>
      obtain ⟨k, first, rest⟩ := matches_concat_iff.1 matched
      obtain ⟨rfl, c, found, accepts⟩ := matches_nameAtom_inv first
      obtain ⟨rfl, tail⟩ := ih rest
      refine ⟨by simp only [List.length_cons]; omega, ?_⟩
      rw [List.drop_eq_getElem_cons (List.getElem?_eq_some_iff.1 found).1]
      simp only [List.length_cons, List.take_succ_cons]
      rw [(List.getElem?_eq_some_iff.1 found).2]
      exact .cons accepts tail

/-- At the start of a line, the trigger's prefix matches `/test `. -/
theorem matches_triggerPrefix {before rest : List Char}
    (lineStart : before = [] ∨ before.getLast? = some '\n') :
    Matches (before ++ "/test ".toList ++ rest) (concatAll triggerPrefix) before.length
      (before.length + 6) := by
  have splitAtSpace :
      before ++ "/test".toList ++ ' ' :: rest = before ++ "/test ".toList ++ rest := by
    simp
  have startMatch : Matches (before ++ "/test ".toList ++ rest) (concatAll [.beginLine])
      before.length before.length := by
    refine .concat (.beginLine (lineStart.imp (fun empty => by simp [empty]) fun last => ?_))
      (.emptyMatch _)
    have nonempty : 0 < before.length := List.length_pos.2 fun empty => by simp [empty] at last
    rw [List.getLast?_eq_getElem?] at last
    rw [List.append_assoc, List.getElem?_append_left (by omega), last]
  have testMatch := @matches_nameAtoms "/test".toList "/test".toList
    (List.forall₂_same.2 fun c _ => nameCharAccepts_self c) before (' ' :: rest)
  rw [splitAtSpace] at testMatch
  have spaceFound : (before ++ "/test ".toList ++ rest)[before.length + 5]? = some ' ' := by
    rw [← splitAtSpace, List.getElem?_append_right (by simp), List.length_append]
    simp
  rw [show triggerPrefix = [.beginLine] ++ "/test".toList.map nameAtom ++ [alternateAll
    [concatAll [.literal ' '], concatAll [.literal ' ', .star .anyCharNotNL, .literal ' ']]]
    from rfl]
  exact matches_concatAll_append.2 ⟨_, matches_concatAll_append.2 ⟨_, startMatch, testMatch⟩,
    .concat (.alternateLeft (.concat (.literal spaceFound) (.emptyMatch _))) (.emptyMatch _)⟩

/-- At the end of a text, or before a space of `\s`, the trigger's suffix matches. -/
theorem matches_triggerSuffix (text : List Char) {after : List Char}
    (lineEnd : after = [] ∨ ∃ c rest, after = c :: rest ∧ inClass perlSpace c = true) :
    ∃ j, Matches (text ++ after) (concatAll triggerSuffix) text.length j := by
  rcases lineEnd with rfl | ⟨c, rest, rfl, space⟩
  · exact ⟨_, .concat (.alternateRight (.emptyMatch _)) <| .concat (.alternateLeft
      (.concat (.endLine (.inl (by simp))) (.emptyMatch _))) (.emptyMatch _)⟩
  · have found : (text ++ c :: rest)[text.length]? = some c := by
      rw [List.getElem?_append_right (Nat.le_refl _), Nat.sub_self, List.getElem?_cons_zero]
    exact ⟨_, .concat (.alternateRight (.emptyMatch _)) <| .concat (.alternateRight
      (.alternateLeft (.concat (.charClass found space) (.concat (.starNil _)
        (.emptyMatch _))))) (.emptyMatch _)⟩

/-- **What a default trigger accepts.** The trigger of `names` matches a text with a line
that starts with `/test ` followed by characters that the name's characters accept one by
one, and then ends or goes on with a space of `\s`. -/
theorem search_defaultTrigger_line {names command : List Char}
    (accepts : List.Forall₂ (fun pattern c => nameCharAccepts pattern c = true) names command)
    (before after : List Char) (lineStart : before = [] ∨ before.getLast? = some '\n')
    (lineEnd : after = [] ∨ ∃ c rest, after = c :: rest ∧ inClass perlSpace c = true) :
    Search (alternateAll [concatAll (triggerPrefix ++ names.map nameAtom ++ triggerSuffix)])
      ⟨before ++ "/test ".toList ++ command ++ after⟩ := by
  have prefixMatch := @matches_triggerPrefix before (command ++ after) lineStart
  rw [← List.append_assoc] at prefixMatch
  have nameMatch := matches_nameAtoms accepts (before ++ "/test ".toList) after
  obtain ⟨j, suffixMatch⟩ := matches_triggerSuffix (before ++ "/test ".toList ++ command) lineEnd
  have nameStart : (before ++ "/test ".toList).length = before.length + 6 := by simp
  rw [nameStart] at nameMatch
  rw [List.length_append, nameStart] at suffixMatch
  refine ⟨before.length, j, by simp,
    matches_alternateAll.2 ⟨_, List.mem_singleton_self _, ?_⟩⟩
  exact matches_concatAll_append.2 ⟨_, matches_concatAll_append.2 ⟨_, prefixMatch, nameMatch⟩,
    suffixMatch⟩

/-- The trigger of `names` matches `/test ` followed by characters that the name's characters
accept one by one. -/
theorem search_defaultTrigger {names command : List Char}
    (accepts : List.Forall₂ (fun pattern c => nameCharAccepts pattern c = true) names command) :
    Search (alternateAll [concatAll (triggerPrefix ++ names.map nameAtom ++ triggerSuffix)])
      ("/test " ++ ⟨command⟩) := by
  have alone := search_defaultTrigger_line accepts [] [] (.inl rfl) (.inl rfl)
  rwa [List.nil_append, List.append_nil] at alone

/-! ## Only those rerun commands -/

/-- No character of the job-name class is a space of `\s`. -/
theorem inClass_perlSpace_of_isJobNameChar {c : Char} (valid : isJobNameChar c = true) :
    inClass perlSpace c = false := by
  simp only [isJobNameChar, Char.isUpper, Char.isLower, Char.isDigit, Bool.or_eq_true,
    Bool.and_eq_true, decide_eq_true_eq, ge_iff_le] at valid
  have codes : '\t'.val.toBitVec.toNat = 9 ∧ '\n'.val.toBitVec.toNat = 10 ∧
      '\x0c'.val.toBitVec.toNat = 12 ∧ '\r'.val.toBitVec.toNat = 13 ∧
      ' '.val.toBitVec.toNat = 32 := ⟨rfl, rfl, rfl, rfl, rfl⟩
  rcases valid with ((((range | range) | range) | rfl) | rfl) | rfl
  all_goals first
    | rfl
    | simp only [inClass, perlSpace, Char.le_def, UInt32.le_def, BitVec.le_def, List.any_cons,
        List.any_nil, Bool.or_false, Bool.or_eq_false_iff, Bool.and_eq_false_iff,
        decide_eq_false_iff_not, not_le, BitVec.lt_def, UInt32.toBitVec_ofNat,
        BitVec.toNat_ofNat] at range ⊢
      omega

/-- The characters of `/test ` followed by a valid name that lie outside the job-name class:
the `/` and the space of `/test `. -/
theorem rerunCommand_char {other : List Char} (otherValid : ∀ c ∈ other, isJobNameChar c = true)
    {p : Nat} {c : Char} (found : ("/test ".toList ++ other)[p]? = some c)
    (outside : isJobNameChar c = false) : (p = 0 ∧ c = '/') ∨ (p = 5 ∧ c = ' ') := by
  by_cases short : p < 6
  · rw [List.getElem?_append_left (by simpa using short)] at found
    obtain _ | _ | _ | _ | _ | _ | p := p
    all_goals first | omega | (simp at found; subst found; simp_all [isJobNameChar])
  · rw [List.getElem?_append_right (by simp; omega)] at found
    have := otherValid c (List.mem_iff_getElem?.2 ⟨_, found⟩)
    simp_all

theorem rerunCommand_outside_before {other : List Char}
    (otherValid : ∀ c ∈ other, isJobNameChar c = true) {p : Nat} {c : Char}
    (found : ("/test ".toList ++ other)[p]? = some c) (outside : isJobNameChar c = false) :
    p < 6 := by
  rcases rerunCommand_char otherValid found outside with ⟨at0, -⟩ | ⟨at5, -⟩ <;> omega

theorem rerunCommand_no_newline {other : List Char}
    (otherValid : ∀ c ∈ other, isJobNameChar c = true) (p : Nat) :
    ("/test ".toList ++ other)[p]? ≠ some '\n' := fun found => by
  rcases rerunCommand_char otherValid found rfl with ⟨-, wrong⟩ | ⟨-, wrong⟩ <;> cases wrong

/-- In a rerun command, the trigger's prefix matches only `/test ` from the start. -/
theorem matches_triggerPrefix_inv {other : List Char}
    (otherValid : ∀ c ∈ other, isJobNameChar c = true) {i k : Nat}
    (matched : Matches ("/test ".toList ++ other) (concatAll triggerPrefix) i k) :
    i = 0 ∧ k = 6 := by
  simp only [triggerPrefix, concatAll_cons, concatAll_nil, matches_concat_iff, matches_literal_iff,
    matches_beginLine_iff, matches_alternateAll, matches_emptyMatch_iff, List.mem_cons,
    List.mem_singleton, exists_eq_or_imp, exists_eq_left, List.not_mem_nil, or_false] at matched
  obtain ⟨_, ⟨rfl, atLine⟩, _, ⟨rfl, -⟩, _, ⟨rfl, -⟩, _, ⟨rfl, -⟩, _, ⟨rfl, -⟩, _,
    ⟨rfl, -⟩, _, group, rfl⟩ := matched
  obtain rfl := atLine.resolve_right (rerunCommand_no_newline otherValid _)
  rcases group with ⟨_, ⟨rfl, -⟩, rfl⟩ | ⟨_, ⟨rfl, -⟩, p, star, _, ⟨rfl, space⟩, rfl⟩
  · exact ⟨rfl, rfl⟩
  · have := star.le
    have := rerunCommand_outside_before otherValid space rfl
    omega

/-- In a rerun command, the trigger's suffix matches only at the end. -/
theorem matches_triggerSuffix_inv {other : List Char}
    (otherValid : ∀ c ∈ other, isJobNameChar c = true) {k j : Nat} (after : 6 ≤ k)
    (matched : Matches ("/test ".toList ++ other) (concatAll triggerSuffix) k j) :
    k = ("/test ".toList ++ other).length := by
  simp only [triggerSuffix, concatAll_cons, concatAll_nil, matches_concat_iff, matches_literal_iff,
    matches_alternate_iff, matches_charClass_iff, matches_endLine_iff, matches_alternateAll,
    matches_emptyMatch_iff, List.mem_cons, List.mem_singleton, exists_eq_or_imp, exists_eq_left,
    List.not_mem_nil, or_false] at matched
  obtain ⟨_, commaOrEmpty, _, group, -⟩ := matched
  obtain rfl := commaOrEmpty.resolve_left fun ⟨_, comma⟩ =>
    absurd (rerunCommand_outside_before otherValid comma rfl) (by omega)
  rcases group with ⟨_, ⟨rfl, atEnd⟩, -⟩ | ⟨_, ⟨-, c, found, space⟩, -⟩
  · exact atEnd.resolve_right (rerunCommand_no_newline otherValid _)
  · have outside : isJobNameChar c = false := Bool.eq_false_iff.2 fun valid => by
      rw [inClass_perlSpace_of_isJobNameChar valid] at space
      cases space
    exact absurd (rerunCommand_outside_before otherValid found outside) (by omega)

/-- A default trigger matches `/test ` followed by a valid name only where the trigger's name
characters accept the name's characters one by one. -/
theorem search_defaultTrigger_inv {names other : List Char}
    (otherValid : ∀ c ∈ other, isJobNameChar c = true)
    (found : Search (alternateAll [concatAll (triggerPrefix ++ names.map nameAtom ++ triggerSuffix)])
      ("/test " ++ ⟨other⟩)) :
    List.Forall₂ (fun pattern c => nameCharAccepts pattern c = true) names other := by
  obtain ⟨i, j, -, matched⟩ := found
  obtain ⟨_, member, matched⟩ := matches_alternateAll.1 matched
  obtain rfl := List.mem_singleton.1 member
  obtain ⟨k, front, suffix⟩ := matches_concatAll_append.1 matched
  obtain ⟨_, pre, name⟩ := matches_concatAll_append.1 front
  obtain ⟨rfl, rfl⟩ := matches_triggerPrefix_inv otherValid pre
  obtain ⟨rfl, accepts⟩ := matches_nameAtoms_inv name
  have atEnd := matches_triggerSuffix_inv otherValid (by omega) suffix
  have sameLength : names.length = other.length := by
    rw [List.length_append, show "/test ".toList.length = 6 from rfl] at atEnd
    omega
  have dropped : ("/test " ++ (⟨other⟩ : String)).toList.drop 6 = other := rfl
  rwa [dropped, sameLength, List.take_length] at accepts

theorem search_defaultTrigger_iff {name other : String}
    (otherValid : ∀ c ∈ other.toList, isJobNameChar c = true) :
    Search (alternateAll [concatAll (triggerPrefix ++ name.toList.map nameAtom ++ triggerSuffix)])
        (defaultRerunCommandFor other) ↔
      List.Forall₂ (fun pattern c => nameCharAccepts pattern c = true) name.toList other.toList :=
  ⟨search_defaultTrigger_inv otherValid, search_defaultTrigger⟩

variable {Regexp DecorationConfig : Type}

/-- A library that is Go's `regexp` compiles the default trigger of a valid name, to a
matcher that accepts exactly what the parsed trigger matches. -/
theorem compile_defaultTriggerFor {lib : Library Regexp DecorationConfig}
    (follows : lib.FollowsRE2) {name : String}
    (valid : ∀ c ∈ name.toList, isJobNameChar c = true)
    (short : name.length ≤ maxTriggerNameLength) :
    ∃ re, lib.compile (defaultTriggerFor name) = .ok re ∧ ∀ s, lib.matchString re s = true ↔
      Search (alternateAll [concatAll (triggerPrefix ++ name.toList.map nameAtom ++ triggerSuffix)])
        s := by
  have within : (defaultTriggerFor name).length ≤ followedLength := by
    rw [defaultTriggerFor_length]
    simp only [maxTriggerNameLength, followedLength] at short ⊢
    omega
  obtain ⟨re, compiled, agrees⟩ :=
    follows.compiles _ _ (parseRegexp_defaultTriggerFor valid short) within
  exact ⟨re, compiled, fun s => by rw [agrees, matchString_iff]⟩

/-- The compiled default trigger accepts the default rerun command of every name whose
characters the trigger's name accepts one by one. -/
theorem compile_defaultTriggerFor_accepts {lib : Library Regexp DecorationConfig}
    (follows : lib.FollowsRE2) {name other : String}
    (valid : ∀ c ∈ name.toList, isJobNameChar c = true)
    (short : name.length ≤ maxTriggerNameLength)
    (accepts : List.Forall₂ (fun pattern c => nameCharAccepts pattern c = true)
      name.toList other.toList) :
    ∃ re, lib.compile (defaultTriggerFor name) = .ok re ∧
      lib.matchString re (defaultRerunCommandFor other) = true := by
  obtain ⟨re, compiled, agrees⟩ := compile_defaultTriggerFor follows valid short
  exact ⟨re, compiled, (agrees _).2 (search_defaultTrigger accepts)⟩

/-- **A default trigger finds its job's rerun command on any line of a comment.** With a
library that is Go's `regexp`, the compiled default trigger of a valid name matches every
comment with a line that starts with the name's default rerun command and then ends, or goes
on with a space of `\s`. -/
theorem defaultTriggerFor_accepts_comment_line (lib : Library Regexp DecorationConfig)
    (follows : lib.FollowsRE2) (name : String) (valid : jobNameRegexMatches name = true)
    (short : name.length ≤ maxTriggerNameLength) (before after : String) (lineStart : before.toList = [] ∨ before.toList.getLast? = some '\n')
    (lineEnd : after.toList = [] ∨
      ∃ c rest, after.toList = c :: rest ∧ inClass perlSpace c = true) :
    ∃ re, lib.compile (defaultTriggerFor name) = .ok re ∧
      lib.matchString re (before ++ defaultRerunCommandFor name ++ after) = true := by
  obtain ⟨re, compiled, agrees⟩ :=
    compile_defaultTriggerFor follows (isJobNameChar_of_jobNameRegexMatches valid) short
  have comment : before ++ defaultRerunCommandFor name ++ after =
      ⟨before.toList ++ "/test ".toList ++ name.toList ++ after.toList⟩ :=
    String.ext (by simp [defaultRerunCommandFor, List.append_assoc])
  refine ⟨re, compiled, (agrees _).2 ?_⟩
  rw [comment]
  exact search_defaultTrigger_line (List.forall₂_same.2 fun c _ => nameCharAccepts_self c)
    before.toList after.toList lineStart lineEnd

theorem defaultTriggerFor_accepts_comment_line_unit :
    (re2Library : Library Regex Unit).FollowsRE2 ∧ jobNameRegexMatches "unit" = true ∧
      "unit".length ≤ maxTriggerNameLength ∧ ("lgtm\n".toList = [] ∨ "lgtm\n".toList.getLast? = some '\n') ∧
      ("\nthanks".toList = [] ∨
        ∃ c rest, "\nthanks".toList = c :: rest ∧ inClass perlSpace c = true) ∧
      ∃ re, (re2Library : Library Regex Unit).compile (defaultTriggerFor "unit") = .ok re ∧
        (re2Library : Library Regex Unit).matchString re
          ("lgtm\n" ++ defaultRerunCommandFor "unit" ++ "\nthanks") = true :=
  ⟨re2Library_followsRE2, by decide, by decide, .inr rfl,
    .inr ⟨'\n', "thanks".toList, rfl, by decide⟩,
    defaultTriggerFor_accepts_comment_line re2Library re2Library_followsRE2 "unit" (by decide)
      (by decide) "lgtm\n" "\nthanks" (.inr rfl) (.inr ⟨'\n', "thanks".toList, rfl, by decide⟩)⟩

/-! ## Names whose rerun commands another trigger accepts -/

/-- The name with every `.` replaced by `-`. -/
def dashed (name : String) : String :=
  ⟨name.toList.map fun c => if c = '.' then '-' else c⟩

theorem nameCharAccepts_dashed (c : Char) :
    nameCharAccepts c (if c = '.' then '-' else c) = true := by
  unfold nameCharAccepts
  split <;> simp_all

@[simp] theorem toList_dashed (name : String) :
    (dashed name).toList = name.toList.map fun c => if c = '.' then '-' else c := rfl

theorem jobNameRegexMatches_dashed {name : String} (valid : jobNameRegexMatches name = true) :
    jobNameRegexMatches (dashed name) = true := by
  simp only [jobNameRegexMatches, toList_dashed, Bool.and_eq_true, Bool.not_eq_true',
    List.isEmpty_eq_false, List.all_eq_true, List.mem_map, ne_eq, List.map_eq_nil_iff] at valid ⊢
  refine ⟨valid.1, ?_⟩
  rintro _ ⟨c, member, rfl⟩
  split
  · rfl
  · exact valid.2 c member

theorem dashed_ne {name : String} (dotted : '.' ∈ name.toList) : dashed name ≠ name := by
  intro same
  have stillDotted : '.' ∈ (dashed name).toList := by rw [same]; exact dotted
  rw [toList_dashed, List.mem_map] at stillDotted
  obtain ⟨c, -, mapped⟩ := stillDotted
  split at mapped <;> simp_all

/-- **A default trigger accepts another job's default rerun command.** The name is spliced
into the trigger unescaped, so a `.` in it matches any character: the trigger of every valid
name with a `.` accepts the default rerun command of a different valid name, the one with `-`
in place of each `.`. -/
theorem defaultTriggerFor_accepts_dashed (lib : Library Regexp DecorationConfig)
    (follows : lib.FollowsRE2) (name : String) (valid : jobNameRegexMatches name = true)
    (short : name.length ≤ maxTriggerNameLength) (dotted : '.' ∈ name.toList) :
    jobNameRegexMatches (dashed name) = true ∧ dashed name ≠ name ∧
      ∃ re, lib.compile (defaultTriggerFor name) = .ok re ∧
        lib.matchString re (defaultRerunCommandFor (dashed name)) = true :=
  ⟨jobNameRegexMatches_dashed valid, dashed_ne dotted,
    compile_defaultTriggerFor_accepts follows (isJobNameChar_of_jobNameRegexMatches valid) short
      (List.forall₂_map_right_iff.2
        (List.forall₂_same.2 fun c _ => nameCharAccepts_dashed c))⟩

theorem defaultTriggerFor_accepts_dashed_a_b :
    (re2Library : Library Regex Unit).FollowsRE2 ∧ jobNameRegexMatches "a.b" = true ∧
      "a.b".length ≤ maxTriggerNameLength ∧ '.' ∈ "a.b".toList ∧ dashed "a.b" = "a-b" ∧
      (jobNameRegexMatches (dashed "a.b") = true ∧ dashed "a.b" ≠ "a.b" ∧
        ∃ re, (re2Library : Library Regex Unit).compile (defaultTriggerFor "a.b") = .ok re ∧
          (re2Library : Library Regex Unit).matchString re
            (defaultRerunCommandFor (dashed "a.b")) = true) :=
  ⟨re2Library_followsRE2, by decide, by decide, by decide, rfl,
    defaultTriggerFor_accepts_dashed re2Library re2Library_followsRE2 "a.b" (by decide)
      (by decide) (by decide)⟩

/-! ## Exactly which rerun commands a default trigger accepts -/

/-- **Which default rerun commands a default trigger accepts.** With a library that is Go's
`regexp`, the compiled default trigger of a valid name accepts the default rerun command of a
valid name `other` exactly when `other` is as long as the name and agrees with it at every
position where the name has no `.`. -/
theorem defaultTriggerFor_accepts_iff (lib : Library Regexp DecorationConfig)
    (follows : lib.FollowsRE2) (name other : String) (valid : jobNameRegexMatches name = true)
    (short : name.length ≤ maxTriggerNameLength) (otherValid : jobNameRegexMatches other = true) :
    ∃ re, lib.compile (defaultTriggerFor name) = .ok re ∧
      (lib.matchString re (defaultRerunCommandFor other) = true ↔
        List.Forall₂ (fun pattern c => nameCharAccepts pattern c = true) name.toList
          other.toList) := by
  obtain ⟨re, compiled, agrees⟩ :=
    compile_defaultTriggerFor follows (isJobNameChar_of_jobNameRegexMatches valid) short
  exact ⟨re, compiled, (agrees _).trans
    (search_defaultTrigger_iff (isJobNameChar_of_jobNameRegexMatches otherValid))⟩

theorem defaultTriggerFor_accepts_iff_a_b :
    (re2Library : Library Regex Unit).FollowsRE2 ∧ jobNameRegexMatches "a.b" = true ∧
      "a.b".length ≤ maxTriggerNameLength ∧ jobNameRegexMatches "a-b" = true ∧
      ∃ re, (re2Library : Library Regex Unit).compile (defaultTriggerFor "a.b") = .ok re ∧
        ((re2Library : Library Regex Unit).matchString re (defaultRerunCommandFor "a-b") = true ↔
          List.Forall₂ (fun pattern c => nameCharAccepts pattern c = true) "a.b".toList
            "a-b".toList) :=
  ⟨re2Library_followsRE2, by decide, by decide, by decide,
    defaultTriggerFor_accepts_iff re2Library re2Library_followsRE2 "a.b" "a-b" (by decide)
      (by decide) (by decide)⟩

/-- Without a `.`, a name's characters accept only the name itself. -/
theorem forall₂_nameCharAccepts_iff {names : List Char} (undotted : '.' ∉ names)
    {cs : List Char} :
    List.Forall₂ (fun pattern c => nameCharAccepts pattern c = true) names cs ↔ cs = names := by
  induction names generalizing cs with
  | nil => simp
  | cons pattern names ih =>
      rw [List.mem_cons, not_or] at undotted
      cases cs with
      | nil => simp
      | cons c cs =>
          have head : nameCharAccepts pattern c = true ↔ c = pattern := by
            simp [nameCharAccepts, Ne.symm undotted.1]
          rw [List.forall₂_cons, ih undotted.2, List.cons.injEq, head]

/-- **Without a `.`, a default trigger accepts only its own job's rerun command.** With a
library that is Go's `regexp`, the compiled default trigger of a valid name without `.`
accepts the default rerun command of a valid name exactly when that name is its own. -/
theorem defaultTriggerFor_accepts_only_own (lib : Library Regexp DecorationConfig)
    (follows : lib.FollowsRE2) (name other : String) (valid : jobNameRegexMatches name = true)
    (short : name.length ≤ maxTriggerNameLength) (otherValid : jobNameRegexMatches other = true)
    (undotted : '.' ∉ name.toList) :
    ∃ re, lib.compile (defaultTriggerFor name) = .ok re ∧
      (lib.matchString re (defaultRerunCommandFor other) = true ↔ other = name) := by
  obtain ⟨re, compiled, agrees⟩ :=
    compile_defaultTriggerFor follows (isJobNameChar_of_jobNameRegexMatches valid) short
  exact ⟨re, compiled, (agrees _).trans <|
    (search_defaultTrigger_iff (isJobNameChar_of_jobNameRegexMatches otherValid)).trans <|
      (forall₂_nameCharAccepts_iff undotted).trans String.ext_iff.symm⟩

theorem defaultTriggerFor_accepts_only_own_unit :
    (re2Library : Library Regex Unit).FollowsRE2 ∧ jobNameRegexMatches "unit" = true ∧
      "unit".length ≤ maxTriggerNameLength ∧ jobNameRegexMatches "lint" = true ∧
      '.' ∉ "unit".toList ∧
      ∃ re, (re2Library : Library Regex Unit).compile (defaultTriggerFor "unit") = .ok re ∧
        ((re2Library : Library Regex Unit).matchString re (defaultRerunCommandFor "lint") = true ↔
          "lint" = "unit") :=
  ⟨re2Library_followsRE2, by decide, by decide, by decide, by decide,
    defaultTriggerFor_accepts_only_own re2Library re2Library_followsRE2 "unit" "lint" (by decide)
      (by decide) (by decide) (by decide)⟩

end ProwJobConfig
