import CodeDigest.Syntax.Query
import CodeDigest.Text.Lines

/-! The notation of queries: `(kind field: (kind) @label)`, with `[...]` for choices, `_` for any
node, `*`, `+` and `?` for repetition, `.` for adjacency, and tests such as `(#eq? @label "text")`. -/

namespace CodeDigest.Syntax

inductive QueryProblem where
  | kind (name : Text)
  | field (name : Text)
  | capture (name : Text)
  | test (name : Text)
  | unreadable
deriving Repr, DecidableEq

/-- A problem and how many characters of the query were left when it showed. -/
structure QueryError where
  problem : QueryProblem
  left : Nat
deriving Repr, DecidableEq

namespace QueryError

def message (e : QueryError) (query : Text) : Text :=
  let before := query.take (query.length - e.left)
  let row := before.countP (· = '\n')
  let lead := (before.reverse.takeWhile (· ≠ '\n')).reverse
  let line := lead ++ (query.drop before.length).takeWhile (· ≠ '\n')
  let place := "Query error at ".toList ++ Text.ofNat (row + 1) ++ [':']
    ++ Text.ofNat (Text.byteSize lead + 1) ++ ". ".toList
  let quoted (word : String) (name : Text) : Text := word.toList ++ ['"'] ++ name ++ ['"']
  place ++ match e.problem with
    | .kind name => quoted "Invalid node type " name
    | .field name => quoted "Invalid field name " name
    | .capture name => quoted "Invalid capture name " name
    | .test name => "Invalid predicate: Unknown predicate ".toList ++ name
    | .unreadable =>
      "Invalid syntax:\n".toList ++
        (if e.left = 0 && line.isEmpty then "Unexpected EOF".toList
        else Text.chopReturn line ++ '\n' :: List.replicate (Text.byteSize lead) ' ' ++ ['^'])

end QueryError

namespace QueryNotation

structure Vocabulary where
  kinds : List String
  fields : List String

abbrev Read := ReaderT Vocabulary (ExceptT QueryError (StateM Text))

structure Parts where
  patterns : List NodePattern
  tests : List Test

def problemAt (left : Nat) (p : QueryProblem) : Read α := throw ⟨p, left⟩

def wrong : Read α := do problemAt (← get).length .unreadable

def isNameChar (c : Char) : Bool := CharClass.isAlphanumeric c || c = '_' || c = '-' || c = '.'

def skip : Nat → Text → Text
  | 0, s => s
  | n + 1, s =>
    match s.dropWhile CharClass.isBlank with
    | ';' :: rest => skip n (rest.dropWhile (· ≠ '\n'))
    | rest => rest

def skipBlanks : Read Unit := modify fun s => skip (s.length + 1) s

def accept (lead : String) : Read Bool := do
  match Text.strip? lead.toList (← get) with
  | none => return false
  | some rest => set rest; return true

def name : Read Text := do
  let word := (← get).takeWhile isNameChar
  if word.isEmpty then wrong
  modify (·.drop word.length)
  return word

def quoted : Nat → Read Text
  | 0 => wrong
  | n + 1 => do
    match ← get with
    | '"' :: rest => set rest; return []
    | '\\' :: c :: rest =>
      set rest
      let resolved := if c = 'n' then '\n' else if c = 't' then '\t' else if c = 'r' then '\r' else c
      return resolved :: (← quoted n)
    | '\n' :: _ | [] => wrong
    | c :: rest => set rest; return c :: (← quoted n)

inductive Argument where
  | capture (name : String)
  | text (t : Text)

def arguments : Nat → Read (List Argument)
  | 0 => wrong
  | n + 1 => do
    skipBlanks
    if ← accept ")" then return []
    else if ← accept "@" then
      let word ← name
      return .capture (String.ofList word) :: (← arguments n)
    else if ← accept "\"" then
      let word ← quoted ((← get).length + 1)
      return .text word :: (← arguments n)
    else
      let word ← name
      return .text word :: (← arguments n)

def texts (args : List Argument) : List Text :=
  args.filterMap fun
    | .text t => some t
    | .capture _ => none

/-- The tests that a name and its arguments mean; directives mean none. -/
def testOf (left : Nat) (word : String) (args : List Argument) : Read (List Test) :=
  match word, args with
  | "match?", [.capture a, .text t] => return [.fits a (Pattern.ofString (String.ofList t)) false]
  | "not-match?", [.capture a, .text t] => return [.fits a (Pattern.ofString (String.ofList t)) true]
  | "eq?", [.capture a, .text t] => return [.equals a t false]
  | "not-eq?", [.capture a, .text t] => return [.equals a t true]
  | "eq?", [.capture a, .capture b] => return [.same a b false]
  | "not-eq?", [.capture a, .capture b] => return [.same a b true]
  | "any-of?", .capture a :: rest => return [.anyOf a (texts rest) false]
  | "not-any-of?", .capture a :: rest => return [.anyOf a (texts rest) true]
  | w, _ => if w.toList.getLast? = some '?' then problemAt left (.test w.toList) else return []

def marked : Nat → NodePattern → Read NodePattern
  | 0, p => return p
  | n + 1, p => do
    skipBlanks
    if ← accept "@" then
      let word := String.ofList (← name)
      marked n (match p with
        | .node k f c q a ps => .node k f (c ++ [word]) q a ps
        | .choice f c q a ps => .choice f (c ++ [word]) q a ps)
    else if ← accept "*" then marked n (p.withQuantity .anyNumber)
    else if ← accept "+" then marked n (p.withQuantity .atLeastOnce)
    else if ← accept "?" then marked n (p.withQuantity .optional)
    else return p

def inField (field : Option String) (anchored : Bool) : NodePattern → NodePattern
  | .node k _ c q _ ps => .node k field c q anchored ps
  | .choice _ c q _ ps => .choice field c q anchored ps

mutual

def pattern : Nat → Read Parts
  | 0 => wrong
  | n + 1 => do
    skipBlanks
    if ← accept "(" then
      skipBlanks
      if ← accept "#" then
        let left := (← get).length
        let word := String.ofList (← word)
        return ⟨[], ← testOf left word (← arguments ((← get).length + 1))⟩
      else
        let left := (← get).length
        let kind ← name
        let known := kind = ['_'] || (← read).kinds.contains (String.ofList kind)
          || kind = "ERROR".toList || kind = "MISSING".toList
        if !known then problemAt left (.kind kind)
        let inner ← children n false
        let p : NodePattern :=
          .node (if kind = ['_'] then none else some (String.ofList kind)) none [] .once false
            inner.patterns
        return ⟨[← marked 8 p], inner.tests⟩
    else if ← accept "[" then
      let inner ← alternatives n
      return ⟨[← marked 8 (.choice none [] .once false inner.patterns)], inner.tests⟩
    else if ← accept "\"" then
      let _ ← quoted ((← get).length + 1)
      return ⟨[← marked 8 (.choice none [] .once false [])], []⟩
    else if ← accept "_" then return ⟨[← marked 8 (.node none none [] .once false [])], []⟩
    else wrong
where
  word : Read Text := do
    let w := (← get).takeWhile fun c => isNameChar c || c = '?' || c = '!'
    if w.isEmpty then wrong
    modify (·.drop w.length)
    return w

def children : Nat → Bool → Read Parts
  | 0, _ => wrong
  | n + 1, anchored => do
    skipBlanks
    if ← accept ")" then return ⟨[], []⟩
    else if ← accept "." then children n true
    else if ← accept "!" then
      let left := (← get).length
      let word ← name
      if !(← read).fields.contains (String.ofList word) then problemAt left (.field word)
      children n anchored
    else
      let first ← inSomeField n
      let rest ← children n false
      return ⟨first.patterns.map (fun p => if anchored then anchor p else p) ++ rest.patterns,
        first.tests ++ rest.tests⟩
where
  anchor : NodePattern → NodePattern
    | .node k f c q _ ps => .node k f c q true ps
    | .choice f c q _ ps => .choice f c q true ps

def inSomeField : Nat → Read Parts
  | 0 => wrong
  | n + 1 => do
    let s ← get
    let word := s.takeWhile isNameChar
    if !word.isEmpty && (s.drop word.length).head? = some ':' then
      if !(← read).fields.contains (String.ofList word) then problemAt s.length (.field word)
      set (s.drop (word.length + 1))
      let inner ← pattern n
      return { inner with
        patterns := inner.patterns.map (inField (some (String.ofList word)) false) }
    else pattern n

def alternatives : Nat → Read Parts
  | 0 => wrong
  | n + 1 => do
    skipBlanks
    if ← accept "]" then return ⟨[], []⟩
    else
      let first ← inSomeField n
      let rest ← alternatives n
      return ⟨first.patterns ++ rest.patterns, first.tests ++ rest.tests⟩

end

/-- All patterns of a query. A test between patterns belongs to the pattern before it. -/
def patterns : Nat → Read (List QueryPattern)
  | 0 => return []
  | n + 1 => do
    skipBlanks
    if (← get).isEmpty then return []
    let parts ← pattern ((← get).length + 16)
    let rest ← patterns n
    return parts.patterns.map (⟨·, parts.tests⟩) ++ rest

def parse (g : Grammar) (text : Text) : Except QueryError Query :=
  (((patterns (text.length + 1)).run ⟨g.kinds, g.fields⟩).run.run text).1

end QueryNotation
end CodeDigest.Syntax
