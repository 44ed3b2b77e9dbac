import CodeDigest.Syntax.Grammar
import CodeDigest.Syntax.Tree
import Std.Data.HashMap

/-! Parsing: the tree that a grammar gives a text, or the row of the first error. -/

namespace CodeDigest.Syntax

structure Input where
  size : Nat
  chars : Array Char
  rests : Array Text
  places : Array Position

namespace Input

def tails : Text → List Text
  | [] => [[]]
  | c :: rest => (c :: rest) :: tails rest

def placesFrom (p : Position) : Text → List Position
  | [] => [p]
  | c :: rest =>
    p :: placesFrom (if c = '\n' then ⟨p.row + 1, 0⟩ else ⟨p.row, p.column + c.utf8Size⟩) rest

def ofText (s : Text) : Input :=
  ⟨s.length, s.toArray, (tails s).toArray, (placesFrom ⟨0, 0⟩ s).toArray⟩

def place (i : Input) (pos : Nat) : Position := (i.places[pos]?).getD ⟨0, 0⟩

def rest (i : Input) (pos : Nat) : Text := (i.rests[pos]?).getD []

def cursor (i : Input) (pos : Nat) : Pattern.Cursor where
  previous := if pos = 0 then none else i.chars[pos - 1]?
  rest := i.rest pos
  left := i.size - pos
  position := pos
  groups := []

end Input

/-- A text announced for the lines below: the line that ends it, which may be indented. -/
structure Announced where
  tag : Text
  indented : Bool

structure At where
  pos : Nat
  last : Nat
  announced : List Announced

/-- What a parse is under: the trivia mode, the indentation of the block, whether failures count,
and where the items around it start, the innermost first. -/
structure Under where
  mode : Nat
  indent : Nat
  quiet : Bool
  items : List Nat

abbrev Hit := At × Forest

/-- What was found so far, and the farthest place where a token was missing, with the items around
that place and whether an item was to start right there. -/
structure Progress where
  memo : Std.HashMap Nat (Option Hit)
  farthest : Nat
  items : List Nat
  atItem : Bool

abbrev Parse := StateM Progress

namespace Parse

/-- Notes that no token fits at a place. Of several notes for one place, the one inside the latest
item counts. -/
def miss (u : Under) (pos : Nat) : Parse (Option Hit) := do
  unless u.quiet || pos < (← get).farthest do
    let starts := u.items.head? = some pos
    let around := u.items.filter (· < pos)
    modify fun p =>
      if p.farthest < pos then { p with farthest := pos, items := around, atItem := starts }
      else
        { p with
          items := if p.items.headD 0 < around.headD 0 then around else p.items
          atItem := p.atItem || starts }
  return none

/-- The columns that the blanks at the start of a line take; a tab goes to the next multiple of
eight. -/
def indentWidth : Nat → Text → Nat
  | w, ' ' :: rest => indentWidth (w + 1) rest
  | w, '\t' :: rest => indentWidth (w / 8 * 8 + 8) rest
  | w, '\x0c' :: rest => indentWidth w rest
  | w, _ => w

def isIndent (c : Char) : Bool := c = ' ' || c = '\t' || c = '\x0c'

def skipAnnounced (a : Announced) : Nat → Text → Nat → Nat
  | 0, _, pos => pos
  | n + 1, rest, pos =>
    let line := rest.takeWhile (· ≠ '\n')
    let next := pos + line.length + 1
    let body := Text.chopReturn (if a.indented then line.dropWhile isIndent else line)
    if body = a.tag || rest.length ≤ line.length then min next (pos + rest.length)
    else skipAnnounced a n (rest.drop (line.length + 1)) next

def skipAllAnnounced (i : Input) : List Announced → Nat → Nat
  | [], pos => pos
  | a :: more, pos => skipAllAnnounced i more (skipAnnounced a (i.size + 1) (i.rest pos) pos)

def hasNewline (i : Input) (start stop : Nat) : Bool :=
  ((i.rest start).take (stop - start)).contains '\n'

def startsWithWord (s lead : Text) (ignoreCase : Bool) : Option Text :=
  if ignoreCase then
    if Text.asciiLower (s.take lead.length) = lead then some (s.drop lead.length) else none
  else Text.strip? lead s

def wrap (kind : String) (start : Nat) (hit : Hit) (before : Forest) : Hit :=
  let all := before.append hit.2
  if kind.isEmpty then (hit.1, all)
  else (hit.1, .leaf (.node kind "" start (max start hit.1.last) all.toList))

mutual

/-- Parses one expression. The number bounds how deep and how long the parse may go. -/
def expr (g : Grammar) (i : Input) : Nat → Expr → Under → At → Parse (Option Hit)
  | 0, _, _, _ => return none
  | n + 1, e, u, a => do
    match e with
    | .empty => return some (a, .nil)
    | .literal text word ignoreCase glued hidden =>
      let (b, before) ← if glued then pure (a, .nil) else trivia g i n u a
      match startsWithWord (i.rest b.pos) text ignoreCase with
      | none => miss u b.pos
      | some rest =>
        if word && rest.head?.any CharClass.isWordChar then miss u b.pos
        else
          let stop := b.pos + text.length
          return some ({ b with pos := stop, last := if hidden then a.last else stop }, before)
    | .token pattern glued hidden =>
      let (b, before) ← if glued then pure (a, .nil) else trivia g i n u a
      match pattern.run (i.cursor b.pos) some with
      | none => miss u b.pos
      | some c =>
        return some
          ({ b with pos := c.position, last := if hidden then a.last else c.position }, before)
    | .seq x y =>
      match ← expr g i n x u a with
      | none => return none
      | some (b, f) =>
        match ← expr g i n y u b with
        | none => return none
        | some (c, f') => return some (c, f.append f')
    | .alt x y =>
      match ← expr g i n x u a with
      | some hit => return some hit
      | none => expr g i n y u a
    | .star x => runStar g i n x u a .nil
    | .look negated x =>
      let hit ← expr g i n x { u with quiet := true } a
      if hit.isSome != negated then return some (a, .nil) else return none
    | .rule index => runRule g i n index u a
    | .node kind glued x =>
      let (b, before) ← if glued then pure (a, .nil) else trivia g i n u a
      match ← expr g i n x u b with
      | none => return none
      | some hit =>
        let (c, tree) := wrap kind b.pos hit .nil
        return some (c, before.append tree)
    | .field name x =>
      match ← expr g i n x u a with
      | none => return none
      | some (b, f) => return some (b, f.inField name)
    | .chain base suffixes =>
      let (b, before) ← trivia g i n u a
      match ← expr g i n base u b with
      | none => return none
      | some (c, f) =>
        let (d, f') ← runChain g i n suffixes u b.pos c f
        return some (d, before.append f')
    | .mode m x => expr g i n x { u with mode := m } a
    | .item x =>
      let (b, before) ← trivia g i n u a
      match ← expr g i n x { u with items := b.pos :: u.items } b with
      | none => return none
      | some (c, f) => return some (c, before.append f)
    | .endOfText =>
      let (b, before) ← trivia g i n u a
      if i.size ≤ b.pos then return some (b, before) else miss u b.pos
    | .newlineAhead negated =>
      let (b, _) ← trivia g i n u a
      if hasNewline i a.last b.pos != negated then return some (a, .nil) else return none
    | .aligned =>
      let rest := i.rest a.pos
      let stop := a.pos + (rest.takeWhile isIndent).length
      if u.indent ≤ indentWidth 0 rest && stop < i.size then
        return some ({ a with pos := stop }, .nil)
      else miss u stop
    | .block x =>
      let width := indentWidth 0 (i.rest a.pos)
      if u.indent < width then expr g i n x { u with indent := width } a
      else miss u (a.pos + width)
    | .hereDocument pattern =>
      let (b, before) ← trivia g i n u a
      match pattern.run (i.cursor b.pos) some with
      | none => miss u b.pos
      | some c =>
        let group (name : String) : Text := ((c.groups.find? (·.name == name)).map (·.text)).getD []
        let announced := a.announced ++ [⟨group "tag", !(group "dash").isEmpty⟩]
        return some (⟨c.position, c.position, announced⟩, before)
    | .lineBreak =>
      match i.rest a.pos with
      | '\n' :: _ =>
        return some (⟨skipAllAnnounced i a.announced (a.pos + 1), a.last, []⟩, .nil)
      | '\r' :: '\n' :: _ =>
        return some (⟨skipAllAnnounced i a.announced (a.pos + 2), a.last, []⟩, .nil)
      | _ => miss u a.pos

def trivia (g : Grammar) (i : Input) : Nat → Under → At → Parse Hit
  | 0, _, a => return (a, .nil)
  | n + 1, u, a => do
    match g.trivia[u.mode]? with
    | none => return (a, .nil)
    | some index =>
      match ← runRule g i n index { u with quiet := true } a with
      | none => return (a, .nil)
      | some (b, f) => return ({ b with last := a.last }, f)

/-- One rule. What a rule gives at a place is found once. -/
def runRule (g : Grammar) (i : Input) : Nat → Nat → Under → At → Parse (Option Hit)
  | 0, _, _, _ => return none
  | n + 1, index, u, a => do
    match g.rules[index]? with
    | none => return none
    | some e =>
      if !a.announced.isEmpty then expr g i n e u a
      else
        let key := (((a.pos * g.rules.size + index) * 4 + u.mode) * 2 + u.quiet.toNat) * 1024
          + min u.indent 1023
        match (← get).memo[key]? with
        | some known => return known
        | none =>
          let found ← expr g i n e u a
          modify fun p => { p with memo := p.memo.insert key found }
          return found

def runStar (g : Grammar) (i : Input) : Nat → Expr → Under → At → Forest → Parse (Option Hit)
  | 0, _, _, _, _ => return none
  | n + 1, x, u, a, f => do
    match ← expr g i n x u a with
    | none => return some (a, f)
    | some (b, f') => if a.pos < b.pos then runStar g i n x u b (f.append f') else return some (a, f)

def runChain (g : Grammar) (i : Input) :
    Nat → List (String × Expr) → Under → Nat → At → Forest → Parse Hit
  | 0, _, _, _, a, f => return (a, f)
  | n + 1, suffixes, u, start, a, f => do
    match ← firstSuffix g i n suffixes u a with
    | none => return (a, f)
    | some (kind, hit) =>
      if a.pos < hit.1.pos then
        let (b, f') := wrap kind start hit f
        runChain g i n suffixes u start b f'
      else return (a, f)

def firstSuffix (g : Grammar) (i : Input) :
    Nat → List (String × Expr) → Under → At → Parse (Option (String × Hit))
  | 0, _, _, _ => return none
  | _ + 1, [], _, _ => return none
  | n + 1, (kind, e) :: more, u, a => do
    match ← expr g i n e u a with
    | some hit => return some (kind, hit)
    | none => firstSuffix g i n more u a

end

def whole (g : Grammar) (i : Input) : Option Tree × Progress :=
  let parsed : Option Hit × Progress :=
    StateT.run (expr g i (2000 * (i.size + 100)) (.rule 0) ⟨0, 0, false, []⟩ ⟨0, 0, []⟩)
      ⟨∅, 0, [], false⟩
  (parsed.1.bind fun hit => hit.2.toList.head?, parsed.2)

end Parse

def lastEnd (i : Input) : Nat → Nat
  | 0 => 0
  | n + 1 => if (i.chars[n]?).any CharClass.isBlank then lastEnd i n else n + 1

def insertAt (s : Text) (pos : Nat) (added : Text) : Text := s.take pos ++ added ++ s.drop pos

/-- The row where a text that does not parse first goes wrong: where one missing token would mend
it, or else the item that cannot be finished, or else the token that no item starts with. -/
def errorRow (g : Grammar) (s : Text) (i : Input) (p : Progress) : Nat :=
  let behind := lastEnd i p.farthest
  let mended := g.closers.any fun closer =>
    (Parse.whole g (.ofText (insertAt s behind closer))).1.isSome
  if mended then (i.place (behind - 1)).row
  else if p.atItem && p.farthest < i.size then (i.place p.farthest).row
  else (i.place (p.items.headD 0)).row

def parse (g : Grammar) (s : Text) : Except Nat (Tree × Input) :=
  let i := Input.ofText s
  match Parse.whole g i with
  | (some t, _) => .ok (t, i)
  | (none, p) => .error (errorRow g s i p)

end CodeDigest.Syntax
