import CodeDigest.Emission.Basic
import CodeDigest.Token

/-! The annotations above a declaration. -/

namespace CodeDigest.Emission

def maxAnnotationRows : Nat := 64

/-- The bracket depth behind some tokens; none when a bracket closes that did not open, or when a
newline stands outside all brackets. -/
def openDepth? : Nat → List Token → Option Nat
  | depth, [] => some depth
  | depth, t :: rest =>
    match t.code? with
    | none => openDepth? depth rest
    | some c =>
      if c = '(' || c = '[' || c = '\x7b' then openDepth? (depth + 1) rest
      else if c = ')' || c = ']' || c = '\x7d' then
        if depth = 0 then none else openDepth? (depth - 1) rest
      else if c = '\n' && depth = 0 then none
      else openDepth? depth rest

/-- One annotation, whose brackets stay open from its first line to its last. -/
def isSingleAnnotation (l : Lexicon) (text : Text) : Bool := openDepth? 0 (l.tokens text) = some 0

/-- Whether the annotation ending on `last` starts on a row; none when a blank row or the end of
the file shows that there is no such annotation. -/
def startsAnnotation? (surface : Surface) (s : Source) (last row : Nat) : Option Bool :=
  (s.line? row).bind fun line =>
    if Text.isBlank line then none
    else
      some (surface.dialect.isAnnotation line
        && isSingleAnnotation surface.lexicon (Text.unlines (s.lines row last)))

def annotationStart? (surface : Surface) (s : Source) (last : Nat) : Nat → Option Nat
  | 0 => if startsAnnotation? surface s last 0 = some true then some 0 else none
  | above + 1 =>
    match startsAnnotation? surface s last (above + 1) with
    | none => none
    | some true => some (above + 1)
    | some false =>
      if maxAnnotationRows ≤ last - (above + 1) then none
      else annotationStart? surface s last above

/-- The annotations that end right above a row, first and last row of each, the topmost first. At
most `limit` are looked for. -/
def annotationGroups (surface : Surface) (s : Source) :
    (limit row : Nat) → List (Nat × Nat) → List (Nat × Nat)
  | 0, _, groups => groups
  | _ + 1, 0, groups => groups
  | n + 1, above + 1, groups =>
    match annotationStart? surface s above above with
    | none => groups
    | some start => annotationGroups surface s n start ((start, above) :: groups)

/-- Removes `indent` bytes of white space from the start, and the white space at the end. A line
that is indented less is trimmed. -/
def dedent (indent : Nat) (line : Text) : Text :=
  match Text.takeBytes? line indent, Text.dropBytes? line indent with
  | some lead, some rest => if Text.isBlank lead then Text.trimEnd rest else Text.trim line
  | _, _ => Text.trim line

/-- The rows of one annotation, less the indentation of its first row. -/
def annotationLines (s : Source) (group : Nat × Nat) : List Text :=
  let rows := s.lines group.1 group.2
  let lead := (rows.head?.getD []).takeWhile CharClass.isBlank
  rows.map (dedent (Text.byteSize lead))

/-- The lines of the annotations above a row, and the row that the first of them is on. -/
def leadingAnnotations (surface : Surface) (s : Source) (row : Nat) : Nat × List Text :=
  let groups := annotationGroups surface s row row []
  ((groups.head?.map (·.1)).getD row, groups.flatMap (annotationLines s))

def withAnnotations (annotations : List Text) (body : Text) : Text :=
  Text.unlines (annotations ++ [body])

end CodeDigest.Emission
