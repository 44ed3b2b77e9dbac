import CodeDigest.Capture
import CodeDigest.Dialect

/-! Emissions: the text that a capture contributes, and the keys that tell it from others. -/

namespace CodeDigest

/-- A candidate fragment. No two fragments of a file share a key; `covers` are the rows that the
text already holds whole, first and last. -/
structure Emission where
  text : Text
  row : Nat
  keys : List Text
  covers : Option (Nat × Nat)
deriving Repr, DecidableEq

namespace Emission

/-- An emission that its own text identifies; none when the text is blank. -/
def keyedByText? (text : Text) (row : Nat) : Option Emission :=
  if Text.isBlank text then none else some ⟨text, row, [text], none⟩

def nodeLines? (c : Capture) (s : Source) : Option Emission :=
  keyedByText? (Text.trim (Text.unlines (s.lines c.startRow c.endRow))) c.startRow

def firstLine? (c : Capture) (s : Source) : Option Emission :=
  (s.line? c.startRow).bind fun line => keyedByText? (Text.trim line) c.startRow

def captureText? (c : Capture) (s : Source) : Option Text :=
  (c.start? s).bind fun start => s.slice? start (c.stop s)

def selector? (c : Capture) (s : Source) : Option Emission :=
  (captureText? c s).bind fun text =>
    keyedByText? (Text.trim (text.takeWhile (· ≠ '\x7b'))) c.startRow

end Emission
end CodeDigest
