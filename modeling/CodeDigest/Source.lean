import CodeDigest.Text.Lines

/-! A source file as rows, and the two ways to name a place in it: byte offsets and positions. -/

namespace CodeDigest

structure Row where
  start : Nat
  text : Text
deriving Repr, DecidableEq

/-- A place in a source, both numbers counted from zero and the column in bytes. -/
structure Position where
  row : Nat
  column : Nat
deriving Repr, DecidableEq

structure Source where
  content : Text
  rows : List Row
deriving Repr

namespace Source

def rowsFrom (start : Nat) : List Text → List Row
  | [] => []
  | piece :: pieces =>
    ⟨start, Text.chopReturn piece⟩ :: rowsFrom (start + Text.byteSize piece + 1) pieces

def ofText (content : Text) : Source := ⟨content, rowsFrom 0 (Text.splitOn '\n' content)⟩

def lineCount (s : Source) : Nat := s.rows.length

def line? (s : Source) (row : Nat) : Option Text := (s.rows[row]?).map (·.text)

/-- The rows `first` to `last`, as far as the source has them. -/
def lines (s : Source) (first last : Nat) : List Text :=
  ((s.rows.take (last + 1)).drop first).map (·.text)

/-- The byte offset of a column that lies on its row. -/
def offset? (s : Source) (row column : Nat) : Option Nat :=
  (s.rows[row]?).bind fun r =>
    if column ≤ Text.byteSize r.text then some (r.start + column) else none

def lineEnd? (s : Source) (row : Nat) : Option Nat :=
  (s.rows[row]?).map fun r => r.start + Text.byteSize r.text

/-- The position of a byte offset: the last row that starts at or before it. -/
def position (s : Source) (offset : Nat) : Position :=
  let row := (s.rows.takeWhile (·.start ≤ offset)).length - 1
  ⟨row, offset - ((s.rows[row]?).map (·.start)).getD 0⟩

def slice? (s : Source) (start stop : Nat) : Option Text := Text.slice? s.content start stop

end Source
end CodeDigest
