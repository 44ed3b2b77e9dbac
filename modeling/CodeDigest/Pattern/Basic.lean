import CodeDigest.Text.CharClass
import CodeDigest.Text.Basic

/-! Regular patterns with groups, and their leftmost match: of two ways to match, the one that
the pattern names first. -/

namespace CodeDigest

inductive CharItem where
  | range (lo hi : Char)
  | word
  | blank
  | digit
  | notWord
  | notBlank
  | notDigit
deriving Repr, DecidableEq

def CharItem.has (c : Char) : CharItem → Bool
  | .range lo hi => lo ≤ c && c ≤ hi
  | .word => CharClass.isWordChar c
  | .blank => CharClass.isBlank c
  | .digit => CharClass.isDecimalDigit c
  | .notWord => !CharClass.isWordChar c
  | .notBlank => !CharClass.isBlank c
  | .notDigit => !CharClass.isDecimalDigit c

structure CharSet where
  items : List CharItem
  negated : Bool
  ignoreCase : Bool
deriving Repr, DecidableEq

def CharSet.has (s : CharSet) (c : Char) : Bool :=
  let inItems := s.items.any (CharItem.has c)
    || (s.ignoreCase && (s.items.any (CharItem.has c.toLower) || s.items.any (CharItem.has c.toUpper)))
  inItems != s.negated

inductive Pattern where
  | empty
  | fail
  | set (s : CharSet)
  | seq (a b : Pattern)
  | alt (a b : Pattern)
  /-- Any number of times; greedy repetition prefers more, lazy repetition fewer. -/
  | star (greedy : Bool) (a : Pattern)
  | group (index : Nat) (name : String) (a : Pattern)
  /-- The text of a group that already matched. -/
  | again (index : Nat)
  | wordBoundary (negated : Bool)
  | lineStart
  | lineEnd
  | textStart
  | textEnd
  | look (negated : Bool) (a : Pattern)
deriving Repr

namespace Pattern

structure Span where
  index : Nat
  name : String
  start : Nat
  text : Text
deriving Repr, DecidableEq

/-- A place inside a text, with what was matched so far; `left` counts the characters ahead. -/
structure Cursor where
  previous : Option Char
  rest : Text
  left : Nat
  position : Nat
  groups : List Span
deriving Repr

namespace Cursor

def ofText (s : Text) : Cursor := ⟨none, s, s.length, 0, []⟩

def next? (c : Cursor) : Option Cursor :=
  match c.rest with
  | [] => none
  | x :: rest => some { c with previous := some x, rest, left := c.left - 1, position := c.position + 1 }

def stepSet? (s : CharSet) (c : Cursor) : Option Cursor :=
  match c.rest with
  | [] => none
  | x :: _ => if s.has x then c.next? else none

def stepText? (c : Cursor) : Text → Option Cursor
  | [] => some c
  | x :: xs => if c.rest.head? = some x then c.next?.bind (stepText? · xs) else none

/-- The places reached by up to `n` characters of a set, the farthest first. -/
def climb (s : CharSet) : Nat → Cursor → List Cursor → List Cursor
  | 0, c, seen => c :: seen
  | n + 1, c, seen =>
    match c.stepSet? s with
    | none => c :: seen
    | some c' => climb s n c' (c :: seen)

def atWordBoundary (c : Cursor) : Bool :=
  c.previous.any CharClass.isWordChar != c.rest.head?.any CharClass.isWordChar

end Cursor

abbrev Continue := Cursor → Option Cursor

/-- Repeats a step that moves forward, at most `n` times. -/
def repeatStep (step : Cursor → Continue → Option Cursor) (greedy : Bool) :
    Nat → Cursor → Continue → Option Cursor
  | 0, c, k => k c
  | n + 1, c, k =>
    let more := fun _ : Unit =>
      step c fun c' => if c.position < c'.position then repeatStep step greedy n c' k else none
    if greedy then (more ()).or (k c) else (k c).or (more ())

/-- Matches at a cursor and goes on with `k`; where `k` fails, the next way to match is tried. -/
def run : Pattern → Cursor → Continue → Option Cursor
  | .empty, c, k => k c
  | .fail, _, _ => none
  | .set s, c, k => (c.stepSet? s).bind k
  | .seq a b, c, k => a.run c fun c' => b.run c' k
  | .alt a b, c, k =>
    match a.run c k with
    | some r => some r
    | none => b.run c k
  | .star greedy (.set s), c, k =>
    let stops := c.climb s c.left []
    (if greedy then stops else stops.reverse).findSome? k
  | .star greedy a, c, k => repeatStep (fun c' k' => a.run c' k') greedy c.left c k
  | .group index name a, c, k =>
    a.run c fun c' =>
      k { c' with
        groups := ⟨index, name, c.position, c.rest.take (c'.position - c.position)⟩ :: c'.groups }
  | .again index, c, k =>
    match c.groups.find? (·.index = index) with
    | none => none
    | some s => (c.stepText? s.text).bind k
  | .wordBoundary negated, c, k => if c.atWordBoundary != negated then k c else none
  | .lineStart, c, k => if c.previous.all (· = '\n') then k c else none
  | .lineEnd, c, k => if c.rest.head?.all (· = '\n') then k c else none
  | .textStart, c, k => if c.previous.isNone then k c else none
  | .textEnd, c, k => if c.rest.isEmpty then k c else none
  | .look negated a, c, k => if (a.run c some).isSome != negated then k c else none

structure Match where
  start : Cursor
  stop : Cursor

def matchAt? (p : Pattern) (c : Cursor) : Option Match := (p.run { c with groups := [] } some).map (⟨c, ·⟩)

def search? (p : Pattern) : Nat → Cursor → Option Match
  | 0, c => matchAt? p c
  | n + 1, c =>
    match matchAt? p c with
    | some m => some m
    | none => c.next?.bind (search? p n)

def firstMatch? (p : Pattern) (s : Text) : Option Match := search? p s.length (Cursor.ofText s)

def isMatch (p : Pattern) (s : Text) : Bool := (firstMatch? p s).isSome

/-- Successive matches that do not overlap; a match of no characters moves on by one. -/
def matchesFrom (p : Pattern) : Nat → Cursor → List Match
  | 0, _ => []
  | n + 1, c =>
    match search? p c.left c with
    | none => []
    | some m =>
      let next := if m.stop.position = m.start.position then m.stop.next? else some m.stop
      m :: next.elim [] (matchesFrom p n)

def allMatches (p : Pattern) (s : Text) : List Match := matchesFrom p (s.length + 1) (Cursor.ofText s)

namespace Match

def named? (m : Match) (name : String) : Option Span := m.stop.groups.find? (·.name == name)

def groupTexts (m : Match) : List Text :=
  (m.stop.groups.mergeSort fun a b => a.index ≤ b.index).map (·.text)

end Match
end Pattern
end CodeDigest
