import ProwJobConfig.Regexp.Semantics
import ProwJobConfig.Types

/-!
Contract: the syntax of Go's `regexp.Compile` as far as the patterns of `config.go` use it:
literals, `.`, `^`, `$`, groups, `|`, the repetitions `*`, `+` and `?` (greedy or not), the
flag groups `(?flags)` and `(?flags:...)` for `m`, `s` and `U`, the classes `\d`, `\s`,
`\w`, and escaped punctuation. `parseRegexp` reads a pattern into a `Regex`, in two folds
over the pattern: a lexer that turns characters into tokens, and the stack machine of
`regexp/syntax` that turns tokens into an expression. It rejects, as Go does, a pattern whose
tree nests capture groups more than `maxHeight` deep or that holds more than `maxRunes`
runes; the model counts a part of what Go counts, so what it rejects Go rejects too.

Owns: `parseRegexp`, `Library.FollowsRE2` (a library that is Go's `regexp` on the patterns
the model parses, within the length `followedLength` where none of Go's limits can be
reached, and that fails where the model's parse passes a limit) and `re2Library`, the library
the model itself gives.

Does not own: the rest of the syntax (bracketed classes, counted repetition, case folding,
named groups, `\Q...\E`, the other escapes). `parseRegexp` rejects those patterns with
`unmodelledSyntax`; that is a limit of the model, and `FollowsRE2` says nothing about them.
Nor Go's `maxSize`, the bound on the size of the compiled program, which Go starts to measure
only after 3355443 nodes: no pattern within `followedLength` comes near it. The errors of the
modelled syntax carry the text of Go's error code, without the quoted fragment of the
pattern Go appends to it.
-/

set_option autoImplicit false

namespace ProwJobConfig

/-- The flags of `regexp/syntax` that change what an expression matches: `m` (`^` and `$`
match at line boundaries) and `s` (`.` matches a newline). -/
structure RegexFlags where
  multiline : Bool := false
  dotNL : Bool := false
deriving DecidableEq, Repr

/-- The flags a flag group sets (`some true`) or clears (`some false`). -/
structure FlagChange where
  multiline : Option Bool := none
  dotNL : Option Bool := none
deriving DecidableEq, Repr

def FlagChange.apply (change : FlagChange) (flags : RegexFlags) : RegexFlags :=
  { multiline := change.multiline.getD flags.multiline, dotNL := change.dotNL.getD flags.dotNL }

/-- The tokens of a pattern. -/
inductive RegexToken where
  | literal (c : Char)
  | dot
  | caret
  | dollar
  | perlClass (ranges : List (Char × Char))
  | star
  | plus
  | quest
  | openGroup (capturing : Bool) (change : FlagChange)
  | setFlags (change : FlagChange)
  | closeGroup
  | bar
deriving DecidableEq, Repr

/-- Where the lexer is inside a token of several characters: after `(`, inside the flags of
`(?`, or after `\`. `negated` records a `-`, and `sawFlag` a flag letter after it. -/
inductive LexState where
  | normal
  | afterParen
  | inFlags (change : FlagChange) (negated sawFlag : Bool)
  | afterBackslash
deriving DecidableEq, Repr

/-- The error for syntax `parseRegexp` does not cover. -/
def unmodelledSyntax (text : String) : String :=
  s!"error parsing regexp: syntax outside the model: {text}"

/-- A character read in the normal state: the tokens it emits and the next state. -/
def lexNormal (c : Char) : Except String (List RegexToken × LexState) :=
  match c with
  | '(' => .ok ([], .afterParen)
  | ')' => .ok ([.closeGroup], .normal)
  | '|' => .ok ([.bar], .normal)
  | '*' => .ok ([.star], .normal)
  | '+' => .ok ([.plus], .normal)
  | '?' => .ok ([.quest], .normal)
  | '.' => .ok ([.dot], .normal)
  | '^' => .ok ([.caret], .normal)
  | '$' => .ok ([.dollar], .normal)
  | '\\' => .ok ([], .afterBackslash)
  | '[' => .error (unmodelledSyntax "[")
  | '{' => .error (unmodelledSyntax "\x7b")
  | c => .ok ([.literal c], .normal)

/-- The Perl classes of `regexp/syntax`: `\d`, `\s` (`[\t\n\f\r ]`) and `\w`. -/
def perlDigit : List (Char × Char) := [('0', '9')]

def perlSpace : List (Char × Char) := [('\t', '\n'), ('\x0c', '\r'), (' ', ' ')]

def perlWord : List (Char × Char) := [('0', '9'), ('A', 'Z'), ('_', '_'), ('a', 'z')]

/-- The character after `\`: a Perl class, or escaped punctuation, which is itself. -/
def lexEscape (c : Char) : Except String RegexToken :=
  if c = 'd' then .ok (.perlClass perlDigit)
  else if c = 's' then .ok (.perlClass perlSpace)
  else if c = 'w' then .ok (.perlClass perlWord)
  else if c.val < 128 ∧ !c.isAlphanum then .ok (.literal c)
  else .error (unmodelledSyntax ("\\" ++ c.toString))

/-- A character inside `(?`: a flag letter, the `-` that clears the flags after it, or the
`:` or `)` that ends the flags. -/
def lexFlag (change : FlagChange) (negated sawFlag : Bool) (c : Char) :
    Except String (List RegexToken × LexState) :=
  match c with
  | 'm' => .ok ([], .inFlags { change with multiline := some !negated } negated true)
  | 's' => .ok ([], .inFlags { change with dotNL := some !negated } negated true)
  | 'U' => .ok ([], .inFlags change negated true)
  | 'i' => .error (unmodelledSyntax "(?i")
  | 'P' => .error (unmodelledSyntax "(?P")
  | '-' =>
      if negated then .error "error parsing regexp: invalid or unsupported Perl syntax"
      else .ok ([], .inFlags change true false)
  | ':' =>
      if negated ∧ !sawFlag then .error "error parsing regexp: invalid or unsupported Perl syntax"
      else .ok ([.openGroup false change], .normal)
  | ')' =>
      if negated ∧ !sawFlag then .error "error parsing regexp: invalid or unsupported Perl syntax"
      else .ok ([.setFlags change], .normal)
  | _ => .error "error parsing regexp: invalid or unsupported Perl syntax"

/-- One character of the pattern. -/
def lexStep : LexState → Char → Except String (List RegexToken × LexState)
  | .normal, c => lexNormal c
  | .afterParen, '?' => .ok ([], .inFlags {} false false)
  | .afterParen, c => (lexNormal c).map fun step => (.openGroup true {} :: step.1, step.2)
  | .inFlags change negated sawFlag, c => lexFlag change negated sawFlag c
  | .afterBackslash, c => (lexEscape c).map fun token => ([token], .normal)

@[simp] theorem lexStep_normal (c : Char) : lexStep .normal c = lexNormal c := rfl

/-- The end of the pattern. -/
def lexFinish : LexState → Except String (List RegexToken)
  | .normal => .ok []
  | .afterParen => .ok [.openGroup true {}]
  | .inFlags _ _ _ => .error "error parsing regexp: invalid or unsupported Perl syntax"
  | .afterBackslash => .error "error parsing regexp: trailing backslash at end of expression"

/-- The lexer's loop over the characters from state `state` on: the tokens emitted and the
state it stops in. -/
def lexRun : LexState → List Char → Except String (List RegexToken × LexState)
  | state, [] => .ok ([], state)
  | state, c :: rest => do
      let (emitted, next) ← lexStep state c
      let (tokens, last) ← lexRun next rest
      pure (emitted ++ tokens, last)

/-- The tokens of a pattern. -/
def lexRegexp (pattern : List Char) : Except String (List RegexToken) := do
  let (tokens, last) ← lexRun .normal pattern
  let final ← lexFinish last
  pure (tokens ++ final)

/-- The lexer's loop over two pieces of a pattern: the second starts where the first stops. -/
theorem lexRun_append {state middle last : LexState} {cs ds : List Char}
    {first second : List RegexToken} (lexedFirst : lexRun state cs = .ok (first, middle))
    (lexedSecond : lexRun middle ds = .ok (second, last)) :
    lexRun state (cs ++ ds) = .ok (first ++ second, last) := by
  induction cs generalizing state first with
  | nil =>
      cases lexedFirst
      exact lexedSecond
  | cons c cs ih =>
      rw [lexRun] at lexedFirst
      obtain ⟨⟨emitted, next⟩, stepped, rested⟩ := Except.bind_eq_ok.1 lexedFirst
      obtain ⟨⟨tokens, stop⟩, lexedRest, built⟩ := Except.bind_eq_ok.1 rested
      cases built
      rw [List.cons_append, lexRun, stepped]
      show (lexRun next (cs ++ ds) >>= _) = _
      rw [ih lexedRest, List.append_assoc]
      rfl

/-! ## The parser's stack -/

/-- How the last item of a concatenation was made: a plain atom, a repetition, or a
repetition made non-greedy by a following `?`. Go rejects a repetition operator right
after another one, except that single `?`. -/
inductive RepeatMark where
  | atom
  | repeated
  | lazy
deriving DecidableEq, Repr

/-- An open group: whether it captures, and the flags to restore, the nesting depth and the
alternation and concatenation it interrupted, all to be taken up again at its `)`. -/
structure ParseFrame where
  flags : RegexFlags
  capturing : Bool
  depth : Nat
  branches : List Regex
  items : List (Regex × RepeatMark)
deriving DecidableEq, Repr

/-- The parser's state: the flags in force, `depth`, the most capture groups nested in one
another among the groups closed so far in the current group, the open groups (innermost
first), the finished branches of the current alternation and the items of the current
concatenation, latest first. -/
structure ParseState where
  flags : RegexFlags := {}
  depth : Nat := 0
  groups : List ParseFrame := []
  branches : List Regex := []
  items : List (Regex × RepeatMark) := []
deriving DecidableEq, Repr

/-- A concatenation of expressions, in order. -/
def Regex.concatAll (rs : List Regex) : Regex :=
  rs.foldr .concat .emptyMatch

/-- An alternation of expressions. -/
def Regex.alternateAll (rs : List Regex) : Regex :=
  rs.foldr .alternate .noMatch

namespace Regex

variable {text : List Char}

@[simp] theorem concatAll_nil : concatAll [] = emptyMatch := rfl

@[simp] theorem concatAll_cons (r : Regex) (rs : List Regex) :
    concatAll (r :: rs) = concat r (concatAll rs) := rfl

/-- A concatenation of two lists matches a span iff the span splits into a match of each. -/
theorem matches_concatAll_append {xs ys : List Regex} {i k : Nat} :
    Matches text (concatAll (xs ++ ys)) i k ↔
      ∃ j, Matches text (concatAll xs) i j ∧ Matches text (concatAll ys) j k := by
  induction xs generalizing i with
  | nil =>
      refine ⟨fun matched => ⟨i, .emptyMatch i, matched⟩, ?_⟩
      rintro ⟨j, first, second⟩
      cases first
      exact second
  | cons x xs ih =>
      rw [List.cons_append, concatAll_cons, concatAll_cons]
      constructor
      · intro matched
        cases matched with
        | concat head tail =>
            obtain ⟨j, first, second⟩ := ih.1 tail
            exact ⟨j, .concat head first, second⟩
      · rintro ⟨j, first, second⟩
        cases first with
        | concat head tail => exact .concat head (ih.2 ⟨j, tail, second⟩)

/-- An alternation matches a span iff one of its branches does. -/
theorem matches_alternateAll {rs : List Regex} {i j : Nat} :
    Matches text (alternateAll rs) i j ↔ ∃ r ∈ rs, Matches text r i j := by
  induction rs with
  | nil =>
      simp only [alternateAll, List.foldr_nil, List.not_mem_nil, false_and, exists_false,
        iff_false]
      intro matched
      cases matched
  | cons r rs ih =>
      rw [alternateAll, List.foldr_cons, ← alternateAll]
      constructor
      · intro matched
        cases matched with
        | alternateLeft left => exact ⟨r, List.mem_cons_self .., left⟩
        | alternateRight right =>
            obtain ⟨s, member, matched⟩ := ih.1 right
            exact ⟨s, List.mem_cons_of_mem _ member, matched⟩
      · rintro ⟨s, member, matched⟩
        rcases List.mem_cons.1 member with rfl | member
        · exact .alternateLeft matched
        · exact .alternateRight (ih.2 ⟨s, member, matched⟩)

end Regex

/-- The expression of an alternation whose last branch is the concatenation `items`. -/
def groupRegex (branches : List Regex) (items : List (Regex × RepeatMark)) : Regex :=
  Regex.alternateAll ((Regex.concatAll (items.reverse.map Prod.fst) :: branches).reverse)

def ParseState.push (state : ParseState) (r : Regex) : ParseState :=
  { state with items := (r, .atom) :: state.items }

/-- A repetition operator `op` applied to the last item. -/
def ParseState.repeatOp (state : ParseState) (op : String) (wrap : Regex → Regex) :
    Except String ParseState :=
  match state.items with
  | [] => .error s!"error parsing regexp: missing argument to repetition operator: {op}"
  | (r, .atom) :: rest => .ok { state with items := (wrap r, .repeated) :: rest }
  | _ :: _ => .error s!"error parsing regexp: invalid nested repetition operator: {op}"

/-- `maxHeight`: the highest tree `regexp/syntax` builds. -/
def maxHeight : Nat := 1000

/-- `maxRunes = 128 << 20 / runeSize`: the most runes `regexp/syntax` holds in a tree, counted
at every push. -/
def maxRunes : Nat := (128 <<< 20) / 4

/-- The text of `ErrNestingDepth`. -/
def errNestingDepth : String := "error parsing regexp: expression nests too deeply"

/-- The text of `ErrLarge`. -/
def errLarge : String := "error parsing regexp: expression too large"

/-- One token. At a `)` the group becomes an item of the enclosing concatenation. A capture
group is a node of Go's tree above every capture group closed inside it and above a leaf, so
`depth + 1` bounds from below the height of the node Go pushes there; Go rejects a node higher
than `maxHeight`. A group that does not capture adds no node. -/
def parseStep (state : ParseState) : RegexToken → Except String ParseState
  | .literal c => .ok (state.push (.literal c))
  | .dot => .ok (state.push (if state.flags.dotNL then .anyChar else .anyCharNotNL))
  | .caret => .ok (state.push (if state.flags.multiline then .beginLine else .beginText))
  | .dollar => .ok (state.push (if state.flags.multiline then .endLine else .endText))
  | .perlClass ranges => .ok (state.push (.charClass ranges))
  | .star => state.repeatOp "*" .star
  | .plus => state.repeatOp "+" fun r => .concat r (.star r)
  | .quest =>
      match state.items with
      | (r, .repeated) :: rest => .ok { state with items := (r, .lazy) :: rest }
      | _ => state.repeatOp "?" fun r => .alternate r .emptyMatch
  | .openGroup capturing change =>
      .ok { flags := change.apply state.flags
            groups := ⟨state.flags, capturing, state.depth, state.branches, state.items⟩ ::
              state.groups }
  | .setFlags change => .ok { state with flags := change.apply state.flags }
  | .closeGroup =>
      match state.groups with
      | [] => .error "error parsing regexp: unexpected )"
      | frame :: outer =>
          let depth := if frame.capturing then state.depth + 1 else state.depth
          if maxHeight < depth + 1 then .error errNestingDepth
          else
            .ok { flags := frame.flags
                  depth := max frame.depth depth
                  groups := outer
                  branches := frame.branches
                  items := (groupRegex state.branches state.items, .atom) :: frame.items }
  | .bar =>
      .ok { state with
            branches := Regex.concatAll (state.items.reverse.map Prod.fst) :: state.branches
            items := [] }

/-- The end of the tokens: every group must be closed. -/
def parseFinish (state : ParseState) : Except String Regex :=
  match state.groups with
  | [] => .ok (groupRegex state.branches state.items)
  | _ :: _ => .error "error parsing regexp: missing closing )"

/-- The runes a token adds to the tree: one for a literal, the bounds of its ranges for a Perl
class, none for the others. -/
def RegexToken.runes : RegexToken → Nat
  | .literal _ => 1
  | .perlClass ranges => 2 * ranges.length
  | _ => 0

/-- The runes of the literals and Perl classes of a pattern. Go adds these at their pushes,
and more when it pushes a collapsed concatenation or alternation that is one literal or
class, so it counts at least this many. -/
def runeCount (tokens : List RegexToken) : Nat :=
  tokens.foldr (fun token count => token.runes + count) 0

/-- `regexp.Compile(pattern)`, as far as the model covers the syntax. Go checks the rune count
at every push, so that of two faults of one pattern it may name the other first; the model
checks it once every token is read. -/
def parseRegexp (pattern : String) : Except String Regex := do
  let tokens ← lexRegexp pattern.toList
  let state ← tokens.foldlM parseStep {}
  if maxRunes < runeCount tokens then .error errLarge
  else parseFinish state

/-! ## How many runes a pattern holds -/

@[simp] theorem runeCount_nil : runeCount [] = 0 := rfl

@[simp] theorem runeCount_cons (token : RegexToken) (tokens : List RegexToken) :
    runeCount (token :: tokens) = token.runes + runeCount tokens := rfl

@[simp] theorem runeCount_append (tokens tokens' : List RegexToken) :
    runeCount (tokens ++ tokens') = runeCount tokens + runeCount tokens' := by
  induction tokens with
  | nil => simp
  | cons token tokens ih => simp only [List.cons_append, runeCount_cons, ih, Nat.add_assoc]

/-- The length within which `FollowsRE2` asks a library to agree with the model. A pattern of
the modelled syntax this long builds fewer than 2000 nodes of Go's tree, so Go never starts
to measure it against `maxSize`; every level of the tree but the top two takes a character of
its own, so it is at most 802 high, below `maxHeight`; and Go pushes fewer than 2000 nodes of
at most 3200 runes each, below `maxRunes`. -/
def followedLength : Nat := 400

/-- The open groups with `extra` appended to the finished branches of the outermost one, and
its depth raised to `depth`. -/
def ParseFrame.extendOutermost (extra : List Regex) (depth : Nat) :
    List ParseFrame → List ParseFrame
  | [] => []
  | [frame] => [{ frame with branches := frame.branches ++ extra, depth := max depth frame.depth }]
  | frame :: outer => frame :: extendOutermost extra depth outer

/-- `state`, reached after the branches `extra` of the top-level alternation, whose groups
nested `depth` deep: `extra` ends the top level's finished branches, which the outermost open
group holds while one is open, and `depth` counts in the top level's depth. -/
def ParseState.extend (extra : List Regex) (depth : Nat) (state : ParseState) : ParseState :=
  match state.groups with
  | [] => { state with branches := state.branches ++ extra, depth := max depth state.depth }
  | frame :: outer =>
      { state with groups := ParseFrame.extendOutermost extra depth (frame :: outer) }

namespace ParseState

variable (extra : List Regex) (depth : Nat)

@[simp] theorem extend_flags (state : ParseState) :
    (state.extend extra depth).flags = state.flags := by
  unfold extend; split <;> rfl

@[simp] theorem extend_items (state : ParseState) :
    (state.extend extra depth).items = state.items := by
  unfold extend; split <;> rfl

end ParseState

variable {Regexp DecorationConfig : Type}

/-- `lib` is Go's `regexp` as far as the model reaches: on every pattern the model parses
within `followedLength` it compiles, to a matcher that accepts exactly the strings the parsed
expression matches somewhere; and on every pattern whose parse passes `maxHeight` or
`maxRunes` in the model, it fails, as the model counts no more than Go does. -/
structure Library.FollowsRE2 (lib : Library Regexp DecorationConfig) : Prop where
  compiles : ∀ pattern regex, parseRegexp pattern = .ok regex → pattern.length ≤ followedLength →
    ∃ re, lib.compile pattern = .ok re ∧ ∀ s, lib.matchString re s = regex.matchString s
  rejectsOverLimits : ∀ pattern, parseRegexp pattern = .error errLarge ∨
    parseRegexp pattern = .error errNestingDepth → ∃ err, lib.compile pattern = .error err

/-- The library whose `regexp` is the model's: `parseRegexp` and `Regex.matchString`; its
other calls succeed as in `acceptingLibrary`. -/
def re2Library : Library Regex DecorationConfig :=
  { acceptingLibrary with
    compile := parseRegexp
    matchString := Regex.matchString
    intersects := fun _ _ => false }

theorem re2Library_followsRE2 : (re2Library : Library Regex DecorationConfig).FollowsRE2 where
  compiles _ regex parsed _ := ⟨regex, parsed, fun _ => rfl⟩
  rejectsOverLimits _ failed := failed.elim (fun large => ⟨_, large⟩) fun deep => ⟨_, deep⟩

end ProwJobConfig
