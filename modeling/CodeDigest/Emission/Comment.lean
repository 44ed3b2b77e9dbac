import CodeDigest.Emission.Basic

/-! Comments. Directives stand alone, and a run of line comments is one emission. -/

namespace CodeDigest.Emission

/-- A row that holds nothing but a line comment that is no directive. -/
def isPlainLineComment (l : Lexicon) (line : Text) : Bool :=
  let body := Text.trimStart line
  l.startsLineComment body && !l.isDirective body

def plainRow (l : Lexicon) (s : Source) (row : Nat) : Bool :=
  (s.line? row).any (isPlainLineComment l)

/-- Whether only white space stands before a column of a row. -/
def isStandalone (s : Source) (row column : Nat) : Bool :=
  ((s.line? row).bind (Text.takeBytes? · column)).any Text.isBlank

/-- How many rows from `row` on hold plain line comments, looking at no more than `limit` rows. -/
def runLength (l : Lexicon) (s : Source) : (limit row : Nat) → Nat
  | 0, _ => 0
  | n + 1, row => if plainRow l s row then runLength l s n (row + 1) + 1 else 0

def commentRun (l : Lexicon) (s : Source) (row : Nat) : Text :=
  let last := row + runLength l s s.lineCount (row + 1)
  Text.unlines ((s.lines row last).map Text.trim)

def directiveKey (row column : Nat) : Text :=
  "directive:".toList ++ Text.ofNat row ++ [':'] ++ Text.ofNat column

/-- A comment capture. A directive is keyed by its place, so that equal ones all stay; a line
comment in a run is emitted by the first of the run. -/
def comment? (surface : Surface) (c : Capture) (s : Source) : Option Emission :=
  (captureText? c s).bind fun raw =>
    let text := Text.trim raw
    if text.isEmpty then none
    else if surface.lexicon.isDirective text then
      some ⟨text, c.startRow, [directiveKey c.startRow c.startColumn], none⟩
    else if !isStandalone s c.startRow c.startColumn || !surface.lexicon.startsLineComment text then
      keyedByText? text c.startRow
    else if 0 < c.startRow && plainRow surface.lexicon s (c.startRow - 1) then none
    else keyedByText? (commentRun surface.lexicon s c.startRow) c.startRow

end CodeDigest.Emission
