import CodeDigest.Pattern.Basic

/-! The usual notation of patterns: `|`, `*`, `+`, `?`, `{m,n}`, classes, groups, `\b` and the
flags `i`, `m` and `s`. -/

namespace CodeDigest.Pattern

/-- What is left to read, how many groups were opened, and the flags in force. -/
structure Reader where
  rest : Text
  groups : Nat
  ignoreCase : Bool
  multiLine : Bool
  dotAll : Bool

abbrev Read := StateT Reader Option

namespace Read

def peek : Read (Option Char) := return (← get).rest.head?

def skip (n : Nat) : Read Unit := modify fun r => { r with rest := r.rest.drop n }

def accept (s : String) : Read Bool := do
  match Text.strip? s.toList (← get).rest with
  | none => return false
  | some rest => modify fun r => { r with rest }; return true

def expect (s : String) : Read Unit := do
  if ← accept s then return else failure

def next : Read Char := do
  match (← get).rest with
  | [] => failure
  | c :: rest => modify fun r => { r with rest }; return c

def upTo (stop : Char) : Read Text := do
  let word := (← get).rest.takeWhile (· ≠ stop)
  skip word.length
  expect (String.singleton stop)
  return word

end Read

open Read

def hexValue? (digits : Text) : Option Nat :=
  digits.foldlM (fun n c =>
    if c.isDigit then some (16 * n + (c.toNat - 48))
    else if 'a' ≤ c.toLower && c.toLower ≤ 'f' then some (16 * n + (c.toLower.toNat - 87))
    else none) 0

def escapedItem : Read CharItem := do
  match ← next with
  | 'w' => return .word
  | 'W' => return .notWord
  | 's' => return .blank
  | 'S' => return .notBlank
  | 'd' => return .digit
  | 'D' => return .notDigit
  | 'n' => return .range '\n' '\n'
  | 'r' => return .range '\r' '\r'
  | 't' => return .range '\t' '\t'
  | 'f' => return .range '\x0c' '\x0c'
  | 'v' => return .range '\x0b' '\x0b'
  | 'x' => hex 2
  | 'u' => hex 4
  | c => return .range c c
where
  hex (n : Nat) : Read CharItem := do
    let digits := (← get).rest.take n
    skip n
    match hexValue? digits with
    | some v => return .range (Char.ofNat v) (Char.ofNat v)
    | none => failure

def setItems : Nat → Read (List CharItem)
  | 0 => failure
  | n + 1 => do
    if ← accept "]" then return []
    let item ← if ← accept "\\" then escapedItem else (fun c => .range c c) <$> next
    let dash := (← get).rest.take 2
    match item, dash with
    | .range lo _, '-' :: c :: _ =>
      if c = ']' then return item :: (← setItems n)
      skip 1
      let last ← if ← accept "\\" then escapedItem else (fun c => .range c c) <$> next
      match last with
      | .range hi _ => return .range lo hi :: (← setItems n)
      | _ => failure
    | _, _ => return item :: (← setItems n)

def ofItems (items : List CharItem) (negated : Bool) : Read Pattern :=
  return .set ⟨items, negated, (← get).ignoreCase⟩

def number? (s : Text) : Option Nat :=
  if s.isEmpty || !s.all Char.isDigit then none else (String.ofList s).toNat?

def times (p : Pattern) : Nat → Pattern
  | 0 => .empty
  | n + 1 => .seq p (times p n)

def upToTimes (greedy : Bool) (p : Pattern) : Nat → Pattern
  | 0 => .empty
  | n + 1 =>
    let more := .seq p (upToTimes greedy p n)
    if greedy then .alt more .empty else .alt .empty more

def repeated (p : Pattern) : Read Pattern := do
  match ← peek with
  | some '*' =>
    skip 1
    return .star (!(← accept "?")) p
  | some '+' =>
    skip 1
    return .seq p (.star (!(← accept "?")) p)
  | some '?' =>
    skip 1
    if ← accept "?" then return .alt .empty p else return .alt p .empty
  | some '\x7b' =>
    skip 1
    let bounds ← upTo '\x7d'
    let greedy := !(← accept "?")
    match Text.splitOn ',' bounds with
    | [n] =>
      let n ← number? n
      return times p n
    | [n, m] =>
      let n ← number? n
      if m.isEmpty then return .seq (times p n) (.star greedy p)
      let m ← number? m
      return .seq (times p n) (upToTimes greedy p (m - n))
    | _ => failure
  | _ => return p

def setFlags (flags : Text) : Read Unit :=
  modify fun r => { r with
    ignoreCase := r.ignoreCase || flags.contains 'i'
    multiLine := r.multiLine || flags.contains 'm'
    dotAll := r.dotAll || flags.contains 's' }

def openGroup : Read Nat := do
  let index := (← get).groups + 1
  modify fun r => { r with groups := index }
  return index

mutual

def alternatives : Nat → Read Pattern
  | 0 => failure
  | n + 1 => do
    let first ← sequence n
    if ← accept "|" then return .alt first (← alternatives n) else return first

def sequence : Nat → Read Pattern
  | 0 => failure
  | n + 1 => do
    match ← peek with
    | none | some ')' | some '|' => return .empty
    | _ =>
      let first ← atom n
      let first ← repeated first
      return .seq first (← sequence n)

def atom : Nat → Read Pattern
  | 0 => failure
  | n + 1 => do
    match ← next with
    | '(' =>
      if ← accept "?:" then closed n
      else if ← accept "?=" then return .look false (← closed n)
      else if ← accept "?!" then return .look true (← closed n)
      else if ← accept "?P<" then named n
      else if ← accept "?<" then named n
      else if ← accept "?" then
        setFlags (← upTo ')')
        return .empty
      else
        let index ← openGroup
        return .group index "" (← closed n)
    | '[' =>
      let negated ← accept "^"
      let first ← if ← accept "]" then pure [CharItem.range ']' ']'] else pure []
      ofItems (first ++ (← setItems n)) negated
    | '.' => if (← get).dotAll then ofItems [] true else ofItems [.range '\n' '\n'] true
    | '^' => return if (← get).multiLine then .lineStart else .textStart
    | '$' => return if (← get).multiLine then .lineEnd else .textEnd
    | '\\' =>
      match ← peek with
      | some 'b' => skip 1; return .wordBoundary false
      | some 'B' => skip 1; return .wordBoundary true
      | some 'A' => skip 1; return .textStart
      | some 'z' => skip 1; return .textEnd
      | some c =>
        if '1' ≤ c && c ≤ '9' then
          skip 1
          return .again (c.toNat - 48)
        else ofItems [← escapedItem] false
      | none => failure
    | '*' | '+' | '?' => failure
    | c => ofItems [.range c c] false

def closed : Nat → Read Pattern
  | 0 => failure
  | n + 1 => do
    let p ← alternatives n
    expect ")"
    return p

def named : Nat → Read Pattern
  | 0 => failure
  | n + 1 => do
    let name ← upTo '>'
    let index ← openGroup
    return .group index (String.ofList name) (← closed n)

end

def parse? (s : Text) : Option Pattern :=
  match (alternatives (4 * s.length + 8)).run ⟨s, 0, false, false, false⟩ with
  | some (p, r) => if r.rest.isEmpty then some p else none
  | none => none

/-- Reads a pattern; one that cannot be read matches nothing. -/
def ofString (s : String) : Pattern := (parse? s.toList).getD .fail

end CodeDigest.Pattern
