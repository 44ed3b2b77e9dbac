import CodeDigest.Syntax.Grammar
import CodeDigest.Text.Lines
import Std.Data.HashMap

/-! The notation of grammars.

A rule starts at the left margin, `name = expression`, and goes on over indented lines; a line
that starts with `--` is a remark. A rule builds a node of its name, unless the name starts with an
underscore. In an expression, `|` separates alternatives, `*`, `+` and `?` repeat, `!` and `&` look
ahead, `x:e` names a field, `k<e>` builds a node of kind `k`, `'...'` is a literal and `/.../` a
pattern. A `~` before a token or a rule glues it to what stands before, `%` hides a token, and `^` lets
a literal match in any letter case. `lbrace` and `rbrace` stand for braces, and names behind an
`@` for the other constructions. -/

namespace CodeDigest.Syntax.Notation

abbrev Read := ReaderT (Std.HashMap String Nat) (StateT Text Option)

def skipBlanks : Read Unit := modify fun s => s.dropWhile CharClass.isBlank

def accept (lead : String) : Read Bool := do
  match Text.strip? lead.toList (← get) with
  | none => return false
  | some rest => set rest; return true

def expect (lead : String) : Read Unit := do
  if ← accept lead then return else failure

def isNameChar (c : Char) : Bool := c.isAlphanum || c = '_'

def name : Read String := do
  let word := (← get).takeWhile isNameChar
  if word.isEmpty then failure
  modify (·.drop word.length)
  return String.ofList word

/-- The characters up to an unescaped delimiter, which is read too; only the escapes of that
delimiter are resolved. -/
def delimited (delimiter : Char) : Nat → Text → Option (Text × Text)
  | 0, _ => none
  | _ + 1, [] => none
  | n + 1, c :: rest =>
    if c = delimiter then some ([], rest)
    else if c = '\\' then
      match rest with
      | [] => none
      | d :: rest =>
        let kept := if d = delimiter then [d] else ['\\', d]
        (delimited delimiter n rest).map fun r => (kept ++ r.1, r.2)
    else (delimited delimiter n rest).map fun r => (c :: r.1, r.2)

def upTo (delimiter : Char) : Read Text := do
  let s ← get
  match delimited delimiter (s.length + 1) s with
  | none => failure
  | some (word, rest) => set rest; return word

def pattern : Read Pattern := do
  match Pattern.parse? (← upTo '/') with
  | none => failure
  | some p => return p

def literal (text : Text) (ignoreCase glued hidden : Bool) : Expr :=
  .literal text (text.getLast?.any CharClass.isWordChar) ignoreCase glued hidden

def token (ignoreCase glued hidden : Bool) : Read Expr := do
  if ← accept "'" then
    let text := (← upTo '\'').filter (· ≠ '\\')
    return literal (if ignoreCase then Text.asciiLower text else text) ignoreCase glued hidden
  else if ← accept "/" then return .token (← pattern) glued hidden
  else
    match ← name with
    | "lbrace" => return literal ['\x7b'] false glued hidden
    | "rbrace" => return literal ['\x7d'] false glued hidden
    | "backslash" => return literal ['\\'] false glued hidden
    | _ => failure

def chainOf : List Expr → Expr
  | [] => .empty
  | base :: suffixes => .chain base (suffixes.map fun
      | .node kind _ e => (kind, e)
      | e => ("", e))

mutual

def alternatives : Nat → Read (List Expr)
  | 0 => failure
  | n + 1 => do
    let first ← sequence n
    skipBlanks
    if ← accept "|" then return Expr.seqs first :: (← alternatives n) else return [Expr.seqs first]

def sequence : Nat → Read (List Expr)
  | 0 => failure
  | n + 1 => do
    skipBlanks
    match (← get).head? with
    | none | some '|' | some ')' | some '>' => return []
    | _ =>
      let first ← repeated n
      return first :: (← sequence n)

def repeated : Nat → Read Expr
  | 0 => failure
  | n + 1 => do
    let e ← item n
    if ← accept "*" then return .star e
    else if ← accept "+" then return Expr.plus e
    else if ← accept "?" then return Expr.opt e
    else return e

def item : Nat → Read Expr
  | 0 => failure
  | n + 1 => do
    if ← accept "!" then return .look true (← item n)
    else if ← accept "&" then return .look false (← item n)
    else if ← accept "(" then return Expr.alts (← enclosed n ")")
    else if ← accept "@" then builtin n
    else if ← accept "~%" then token false true true
    else if ← accept "~" then token false true false
    else if ← accept "%" then token false false true
    else if ← accept "^" then token true false false
    else
      match (← get).head? with
      | some '\'' | some '/' => token false false false
      | _ =>
        let word ← name
        if ← accept ":" then return .field word (← item n)
        else if ← accept "<" then return .node word false (Expr.alts (← enclosed n ">"))
        else if word == "lbrace" then return literal ['\x7b'] false false false
        else if word == "rbrace" then return literal ['\x7d'] false false false
        else if word == "backslash" then return literal ['\\'] false false false
        else
          match (← read)[word]? with
          | none => failure
          | some index => return .rule index

def enclosed : Nat → String → Read (List Expr)
  | 0, _ => failure
  | n + 1, stop => do
    let es ← alternatives n
    skipBlanks
    expect stop
    return es

def builtin : Nat → Read Expr
  | 0 => failure
  | n + 1 => do
    let argument : Read (List Expr) := do
      expect "("
      enclosed n ")"
    match ← name with
    | "eof" => return .endOfText
    | "nl" => return .newlineAhead false
    | "nonl" => return .newlineAhead true
    | "aligned" => return .aligned
    | "linebreak" => return .lineBreak
    | "item" => return .item (Expr.alts (← argument))
    | "block" => return .block (Expr.alts (← argument))
    | "mode0" => return .mode 0 (Expr.alts (← argument))
    | "mode1" => return .mode 1 (Expr.alts (← argument))
    | "mode2" => return .mode 2 (Expr.alts (← argument))
    | "chain" => return chainOf (← argument)
    | "here" =>
      expect "/"
      return .hereDocument (← pattern)
    | _ => failure

end

def ruleTexts : List Text → List Text
  | [] => []
  | line :: rest =>
    let rules := ruleTexts rest
    if line.isEmpty || Text.startsWith line ['-', '-'] then rules
    else
      match rules with
      | [] => [line]
      | next :: more =>
        if next.head?.any CharClass.isBlank then (line ++ ' ' :: next) :: more else line :: rules

def ruleParts (rule : Text) : String × Bool × Text :=
  let glued := rule.head? = some '~'
  let rule := if glued then rule.drop 1 else rule
  let word := rule.takeWhile isNameChar
  (String.ofList word, glued, (Text.trimStart (rule.drop word.length)).drop 1)

def ruleExpr? (indices : Std.HashMap String Nat) (parts : String × Bool × Text) : Option Expr := do
  let (word, glued, body) := parts
  let (es, rest) ← ((alternatives (8 * body.length + 16)).run indices).run body
  if !Text.isBlank rest then none
  else
    let e := Expr.alts es
    return if word.toList.head? = some '_' then e else .node word glued e

/-- Reads a grammar; the closers are given apart. A rule that cannot be read matches nothing. -/
def grammar (text : String) (closers : List String) : Grammar :=
  let rules := (ruleTexts (Text.splitOn '\n' text.toList)).map ruleParts
  let names := rules.map (·.1)
  let indices := Std.HashMap.ofList names.zipIdx
  { names := names.toArray
    rules := (rules.map fun r => (ruleExpr? indices r).getD (.look true .empty)).toArray
    trivia := (["_trivia0", "_trivia1", "_trivia2"].filterMap fun w => indices[w]?).toArray
    closers := closers.map String.toList }

def unreadable (text : String) : List String :=
  let rules := (ruleTexts (Text.splitOn '\n' text.toList)).map ruleParts
  let indices := Std.HashMap.ofList (rules.map (·.1)).zipIdx
  (rules.filter fun r => (ruleExpr? indices r).isNone).map (·.1)

end CodeDigest.Syntax.Notation
