import CodeDigest.Emission.Annotation

/-! Declarations that are kept whole, down to the bracket that closes their body. -/

namespace CodeDigest.Emission

/-- Where the body closes that the first of the `openers` outside all brackets opens. -/
def closeOf? (openers : List Char) (depth : Nat) (opened : Bool) : List Token → Option Nat
  | [] => none
  | t :: rest =>
    match t.code? with
    | none => closeOf? openers depth opened rest
    | some c =>
      if c = '(' || c = '[' || c = '\x7b' then
        closeOf? openers (depth + 1) (opened || (depth = 0 && openers.contains c)) rest
      else if c = ')' || c = ']' || c = '\x7d' then
        if opened && depth ≤ 1 then some t.start else closeOf? openers (depth - 1) opened rest
      else closeOf? openers depth opened rest

def matchingClose? (surface : Surface) (s : Source) (start stop : Nat) : Option Nat :=
  (s.slice? start stop).bind fun text =>
    closeOf? surface.dialect.blockOpeners 0 false (surface.lexicon.tokensFrom start text)

/-- A declaration from its annotations to the row that closes its body. -/
def block? (surface : Surface) (c : Capture) (s : Source) : Option Emission :=
  (c.start? s).bind fun start =>
    let close := matchingClose? surface s start (c.stop s)
    let endRow := min ((close.map fun o => (s.position o).row).getD c.endRow) c.endRow
    let above := leadingAnnotations surface s c.startRow
    let body := Text.trim (Text.unlines (s.lines c.startRow endRow))
    let text := Text.trim (withAnnotations above.2 body)
    (keyedByText? text above.1).map fun e => { e with covers := some (c.startRow, endRow) }

end CodeDigest.Emission
