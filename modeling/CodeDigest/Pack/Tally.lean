import CodeDigest.Number.Decimal
import CodeDigest.Pack.File

/-! Packs: the processed files of one run, and what can be counted about them. -/

namespace CodeDigest

structure Tally where
  files : Nat := 0
  sourceSize : Nat := 0
  packedSize : Nat := 0
  /-- The languages in order, each with its number of files. -/
  languages : List (Text × Nat) := []
  digested : Nat := 0
  unsupported : Nat := 0
  fallback : Nat := 0
deriving Repr, DecidableEq

namespace Tally

def addCount (name : Text) (n : Nat) : List (Text × Nat) → List (Text × Nat)
  | [] => [(name, n)]
  | (other, count) :: rest =>
    if name = other then (other, count + n) :: rest
    else if name < other then (name, n) :: (other, count) :: rest
    else (other, count) :: addCount name n rest

def countLanguage (counts : List (Text × Nat)) : Option Text → List (Text × Nat)
  | none => counts
  | some name => addCount name 1 counts

def addFile (t : Tally) (f : PackedFile) : Tally where
  files := t.files + 1
  sourceSize := t.sourceSize + f.sourceSize
  packedSize := t.packedSize + Text.byteSize f.content
  languages := countLanguage t.languages f.language
  digested := t.digested + if f.method = .digested then 1 else 0
  unsupported := t.unsupported + if f.method = .unsupported then 1 else 0
  fallback := t.fallback + if f.method = .fallback then 1 else 0

def ofFiles (files : List PackedFile) : Tally := files.foldl addFile {}

/-- One size over another, or zero where there was nothing. -/
def sizeRatio (full packed : Nat) : Binary :=
  if full = 0 then .zero
  else .div .single (.ofNat .single packed) (.ofNat .single full)

def ratio (t : Tally) : Binary := sizeRatio t.sourceSize t.packedSize

end Tally

def savedFraction? (full processed : Nat) : Option Binary :=
  if full = 0 || full ≤ processed then none
  else some (.sub .single (.ofNat .single 1) (Tally.sizeRatio full processed))

structure Pack where
  files : List PackedFile
deriving Repr, DecidableEq

def Pack.tally (p : Pack) : Tally := .ofFiles p.files

end CodeDigest
