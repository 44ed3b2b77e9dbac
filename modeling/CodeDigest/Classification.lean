import CodeDigest.DigestError
import CodeDigest.Strategy

/-! Classification: captures in, fragments out, each key at most once. -/

namespace CodeDigest

structure Fragment where
  text : Text
  row : Nat
deriving Repr, DecidableEq

/-- The keys emitted so far and the rows that were emitted whole. -/
structure Claims where
  keys : List Text
  covered : List (Nat × Nat)
deriving Repr, DecidableEq

namespace Claims

def empty : Claims := ⟨[], []⟩

def contains (k : Claims) (key : Text) : Bool := k.keys.contains key

def size (k : Claims) : Nat := k.keys.length

def isEmpty (k : Claims) : Bool := k.keys.isEmpty

def isCovered (k : Claims) (row : Nat) : Bool := k.covered.any fun r => r.1 ≤ row && row ≤ r.2

def insert (k : Claims) (key : Text) : Claims :=
  if k.contains key then k else { k with keys := key :: k.keys }

/-- Accepts an emission, unless one of its keys was emitted before. -/
def claim (k : Claims) (e : Emission) : Option Fragment × Claims :=
  if e.keys.any k.contains then (none, k)
  else
    let added := e.keys.foldl insert k
    (some ⟨e.text, e.row⟩, { added with covered := added.covered ++ e.covers.toList })

end Claims

structure Reading where
  strategy : Strategy
  surface : Surface

namespace Classification

/-- What a capture would emit, whatever was emitted before: nothing for names, unknown labels and
rows behind the end. -/
def emission? (r : Reading) (s : Source) (c : Capture) : Option Emission :=
  let kind := CaptureKind.ofLabel c.label
  if s.lineCount ≤ c.startRow || kind.isName || kind.category = .unknown then none
  else r.strategy.emit? r.surface kind.category c s

def step (r : Reading) (s : Source) (k : Claims) (c : Capture) :
    Except DigestError (Option Fragment) × Claims :=
  if c.Inverted then (.error (.inverted c), k)
  else if k.isCovered c.startRow then (.ok none, k)
  else
    match emission? r s c with
    | none => (.ok none, k)
    | some e =>
      let claimed := k.claim e
      (.ok claimed.1, claimed.2)

/-- Classifies captures one after the other and stops at the first that is inverted. -/
def run (r : Reading) (s : Source) (k : Claims) : List Capture → Except DigestError (List Fragment)
  | [] => .ok []
  | c :: rest =>
    match step r s k c with
    | (.error e, _) => .error e
    | (.ok found, k') => (run r s k' rest).map (found.toList ++ ·)

end Classification
end CodeDigest
