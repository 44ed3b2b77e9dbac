import CodeDigest.Text.Basic

/-! Globs: patterns for slash-separated paths, matched byte by byte against the whole path. -/

namespace CodeDigest

inductive Glob where
  | nothing
  | char (c : Char)
  /-- One byte. -/
  | anyOne
  /-- Any bytes. -/
  | anyRun
  /-- The folders before a path that may lie anywhere. -/
  | leadingFolders
  /-- One slash, or more with folders between them. -/
  | innerFolders
  /-- All that lies in a folder. -/
  | folderContent
  | everything
  | oneOf (negated : Bool) (ranges : List (Char × Char))
  | sequence (first second : Glob)
  | either (first second : Glob)
deriving Repr, DecidableEq

structure GlobMode where
  /-- A wildcard does not match a slash. -/
  stepwise : Bool
  /-- A bracket that is not closed stands for itself. -/
  looseBracket : Bool
deriving Repr, DecidableEq

inductive GlobError where
  | unclosedClass
  | invalidRange (first last : Char)
  | unopenedGroup
  | unclosedGroup
  | danglingEscape
deriving Repr, DecidableEq

namespace GlobError

def reason : GlobError → Text
  | unclosedClass => "unclosed character class; missing ']'".toList
  | invalidRange first last => "invalid range; '".toList ++ [first] ++ "' > '".toList ++ [last, '\'']
  | unopenedGroup =>
    "unopened alternate group; missing '\x7b' (maybe escape '\x7d' with '[\x7d]'?)".toList
  | unclosedGroup =>
    "unclosed alternate group; missing '\x7d' (maybe escape '\x7b' with '[\x7b]'?)".toList
  | danglingEscape => "dangling '\\'".toList

def message (e : GlobError) (pattern : Text) : Text :=
  "error parsing glob '".toList ++ pattern ++ "': ".toList ++ e.reason

end GlobError

namespace Glob

/-! ### Matching -/

abbrev Bytes := List UInt8

def bytesOf (s : Text) : Bytes := s.flatMap String.utf8EncodeChar

def slash : UInt8 := 0x2f

/-- A range of characters as ranges of bytes: only the byte between its ends spans a range. -/
def byteRanges (first last : Char) : List (UInt8 × UInt8) :=
  let a := String.utf8EncodeChar first
  let b := String.utf8EncodeChar last
  if first = last then a.map fun x => (x, x)
  else
    a.dropLast.map (fun x => (x, x)) ++ [(a.getLast?.getD 0, b.headD 0)] ++ b.tail.map fun x => (x, x)

def inRanges (b : UInt8) (ranges : List (Char × Char)) : Bool :=
  ranges.any fun (first, last) => (byteRanges first last).any fun (x, y) => x ≤ b && b ≤ y

def afterSlashes : Bytes → List Bytes
  | [] => []
  | b :: rest => if b = slash then rest :: afterSlashes rest else afterSlashes rest

/-- What is left after each number of bytes, none of which is a slash when `stepwise`. -/
def afterRuns (stepwise : Bool) : Bytes → List Bytes
  | [] => [[]]
  | b :: rest => (b :: rest) :: if stepwise && b = slash then [] else afterRuns stepwise rest

def afterByte (p : UInt8 → Bool) : Bytes → List Bytes
  | [] => []
  | b :: rest => if p b then [rest] else []

def afterLead : (lead : Bytes) → Bytes → List Bytes
  | [], s => [s]
  | _ :: _, [] => []
  | a :: lead, b :: rest => if a = b then afterLead lead rest else []

def rests (stepwise : Bool) : Glob → Bytes → List Bytes
  | nothing, s => [s]
  | char c, s => afterLead (String.utf8EncodeChar c) s
  | anyOne, s => afterByte (fun b => !(stepwise && b = slash)) s
  | anyRun, s => afterRuns stepwise s
  | leadingFolders, s => s :: afterSlashes s
  | innerFolders, s => (afterByte (· = slash) s).flatMap fun r => r :: afterSlashes r
  | folderContent, s => (afterByte (· = slash) s).flatMap (afterRuns false)
  | everything, s => afterRuns false s
  | oneOf negated ranges, s => afterByte (fun b => inRanges b ranges != negated) s
  | sequence first second, s => (((first.rests stepwise s).flatMap (second.rests stepwise))).eraseDups
  | either first second, s => first.rests stepwise s ++ second.rests stepwise s

def isMatch (g : Glob) (stepwise : Bool) (path : Text) : Bool :=
  (g.rests stepwise (bytesOf path)).any List.isEmpty

/-! ### Reading -/

structure ClassReader where
  /-- Nothing of the class has been read. -/
  fresh : Bool
  /-- A dash has been read after a character. -/
  inRange : Bool
  /-- The ranges, last first. -/
  ranges : List (Char × Char)

namespace ClassReader

def closeRange (r : ClassReader) (c : Char) : Except GlobError ClassReader :=
  match r.ranges with
  | (first, _) :: ranges =>
    if c < first then .error (.invalidRange first c) else .ok ⟨false, false, (first, c) :: ranges⟩
  | [] => .ok r

def step (r : ClassReader) (c : Char) : Except GlobError ClassReader :=
  if c = '-' && !r.fresh && !r.inRange then .ok ⟨false, true, r.ranges⟩
  else if r.inRange then r.closeRange c
  else .ok ⟨false, false, (c, c) :: r.ranges⟩

/-- The ranges in order; a last dash stands for itself. -/
def result (r : ClassReader) : List (Char × Char) :=
  (if r.inRange then ('-', '-') :: r.ranges else r.ranges).reverse

def read : ClassReader → Text → Except GlobError (Option (List (Char × Char) × Text))
  | _, [] => .ok none
  | r, c :: rest =>
    if c = ']' && !r.fresh then .ok (some (r.result, rest))
    else
      match r.step c with
      | .error e => .error e
      | .ok r => read r rest

theorem length_of_read {r : ClassReader} {s rest : Text} {ranges : List (Char × Char)}
    (h : r.read s = .ok (some (ranges, rest))) : rest.length < s.length := by
  fun_induction read r s <;> grind

end ClassReader

def readClass (s : Text) : Except GlobError (Option (Glob × Text)) :=
  let negated := s.head? = some '!' || s.head? = some '^'
  match ClassReader.read ⟨true, false, []⟩ (if negated then s.tail else s) with
  | .error e => .error e
  | .ok none => .ok none
  | .ok (some (ranges, rest)) => .ok (some (.oneOf negated ranges, rest))

theorem length_of_readClass {s rest : Text} {g : Glob} (h : readClass s = .ok (some (g, rest))) :
    rest.length < s.length := by
  dsimp only [readClass] at h
  split at h
  · cases h
  · cases h
  · rename_i hr
    cases h
    have := ClassReader.length_of_read hr
    split at this
    · have := List.length_tail (l := s); omega
    · exact this

def ofParts (parts : List Glob) : Glob :=
  parts.foldr (fun p rest => if p = nothing then rest else if rest = nothing then p else .sequence p rest) nothing

/-- One of the branches; those without any part to match are dropped. -/
def ofBranches (branches : List Glob) : Glob :=
  match branches.filter (· ≠ nothing) with
  | [] => nothing
  | b :: rest => rest.foldl .either b

/-- A group while it is read: its ended branches, last first, and the parts of the open branch, last
first. -/
structure OpenGroup where
  ended : List Glob
  parts : List Glob

namespace OpenGroup

def fresh : OpenGroup := ⟨[], []⟩

def push (g : OpenGroup) (p : Glob) : OpenGroup := { g with parts := p :: g.parts }

def comma (g : OpenGroup) : OpenGroup := ⟨ofParts g.parts.reverse :: g.ended, []⟩

def close (g : OpenGroup) : Glob := ofBranches (g.comma.ended.reverse)

end OpenGroup

structure Reader where
  /-- The groups around the open one, innermost first. -/
  outer : List OpenGroup := []
  group : OpenGroup := .fresh
  /-- The last character that was read. -/
  last : Option Char := none
  /-- Brackets stand for themselves. -/
  plainBrackets : Bool := false

namespace Reader

def push (r : Reader) (c : Char) (p : Glob) : Reader :=
  { r with group := r.group.push p, last := some c }

def pushRuns (r : Reader) : Reader := (r.push '*' .anyRun).push '*' .anyRun

/-- What two stars and the slash before them stand for, after the part before that slash. -/
def foldersAfter (atEnd : Bool) : Glob → Glob
  | .leadingFolders => .leadingFolders
  | .folderContent => .folderContent
  | _ => if atEnd then .folderContent else .innerFolders

def startsStep (r : Reader) : Bool :=
  r.last = some '/' || (!r.outer.isEmpty && (r.last = some ',' || r.last = some '\x7b'))

def endsStep (r : Reader) : Text → Bool
  | [] => true
  | c :: _ => c = '/' || (!r.group.parts.isEmpty && !r.outer.isEmpty && (c = ',' || c = '\x7d'))

/-- Takes two stars before a text; it goes on behind the slash that may follow them. -/
def twoStars (r : Reader) (rest : Text) : Reader :=
  let slashFollows := rest.head? = some '/'
  let last := some (if slashFollows then '/' else '*')
  match r.group.parts with
  | [] =>
    if r.endsStep rest then { r with group := r.group.push .leadingFolders, last } else r.pushRuns
  | p :: parts =>
    if r.startsStep && r.endsStep rest then
      { r with group := { r.group with parts := foldersAfter (!slashFollows) p :: parts }, last }
    else r.pushRuns

def read (mode : GlobMode) (r : Reader) : Text → Except GlobError Reader
  | [] => .ok r
  | '?' :: rest => read mode (r.push '?' .anyOne) rest
  | '*' :: '*' :: '/' :: rest =>
    let r' := r.twoStars ('/' :: rest)
    if r'.last = some '/' then read mode r' rest else read mode r' ('/' :: rest)
  | '*' :: '*' :: rest => read mode (r.twoStars rest) rest
  | '*' :: rest => read mode (r.push '*' .anyRun) rest
  | '[' :: rest =>
    if r.plainBrackets then read mode (r.push '[' (.char '[')) rest
    else
      match h : readClass rest with
      | .error e => .error e
      | .ok (some (p, after)) =>
        have := length_of_readClass h
        read mode (r.push ']' p) after
      | .ok none =>
        if mode.looseBracket then
          read mode { r.push '[' (.char '[') with plainBrackets := true } rest
        else .error .unclosedClass
  | '\x7b' :: rest =>
    read mode { r with outer := r.group :: r.outer, group := .fresh, last := some '\x7b' } rest
  | '\x7d' :: rest =>
    match r.outer with
    | [] => .error .unopenedGroup
    | around :: outer =>
      read mode { r with outer, group := around.push r.group.close, last := some '\x7d' } rest
  | ',' :: rest =>
    if r.outer.isEmpty then read mode (r.push ',' (.char ',')) rest
    else read mode { r with group := r.group.comma, last := some ',' } rest
  | '\\' :: [] => .error .danglingEscape
  | '\\' :: c :: rest => read mode (r.push c (.char c)) rest
  | c :: rest => read mode (r.push c (.char c)) rest
termination_by s => s.length

end Reader

def parse (mode : GlobMode) (pattern : Text) : Except GlobError Glob := do
  let r ← Reader.read mode {} pattern
  if !r.outer.isEmpty then throw .unclosedGroup
  match r.group.parts with
  | [.leadingFolders] => return .everything
  | parts => return ofParts parts.reverse

end Glob
end CodeDigest
