import CodeDigest.Files.Walk
import CodeDigest.Pack.Error
import CodeDigest.Pack.File

/-! Selections: which of the files that a walk found go into a pack, and what comes of reading them. -/

namespace CodeDigest

structure Selection where
  /-- Globs of which one has to match; any file will do where there are none. -/
  wanted : List Text := []
  /-- Globs of which none may match. -/
  unwanted : List Text := []
  /-- The greatest size of a file in bytes. -/
  sizeLimit : Nat
deriving Repr, DecidableEq

namespace Selection

/-- In these globs a wildcard matches slashes too. -/
def globMode : GlobMode := ⟨false, false⟩

def compile (pattern : Text) : Except PackError Glob :=
  match Glob.parse globMode pattern with
  | .ok g => .ok g
  | .error e =>
    .error (.config ("Invalid glob pattern '".toList ++ pattern ++ "': ".toList ++ e.message pattern))

def normalPath (path : Text) : Text := path.map fun c => if c = '\\' then '/' else c

def matchesAny (globs : List Glob) (path : Text) : Bool :=
  globs.any fun g => g.isMatch globMode.stepwise path

def admits (wanted unwanted : List Glob) (sizeLimit : Nat) (f : FoundFile) : Bool :=
  let path := normalPath f.path
  (wanted.isEmpty || matchesAny wanted path) && !matchesAny unwanted path && f.size ≤ sizeLimit

def select (s : Selection) (found : List FoundFile) : Except PackError (List FoundFile) := do
  let wanted ← s.wanted.mapM compile
  let unwanted ← s.unwanted.mapM compile
  return (found.filter (admits wanted unwanted s.sizeLimit)).mergeSort fun a b => Path.stepsLE a.steps b.steps

end Selection

namespace FoundFile

/-- How many bytes of a file tell whether it is a text. -/
def sampleSize : Nat := 8000

def isBinary (bytes : ByteArray) : Bool := (bytes.extract 0 sampleSize).data.toList.contains 0

/-- The text of a file, unless it is binary or not UTF-8. -/
def source? (f : FoundFile) : Option SourceFile :=
  if isBinary f.bytes then none
  else (String.fromUTF8? f.bytes).map fun s => ⟨f.path, s.toList⟩

/-- Reads a file. One that may not be read is passed over, as one without a text is. -/
def read (f : FoundFile) : Except PackError (Option SourceFile) :=
  match f.fault? with
  | none => .ok f.source?
  | some .denied => .ok none
  | some fault => .error (.fileSystem fault.message)

def sources (files : List FoundFile) : Except PackError (List SourceFile) := do
  let texts ← files.mapM read
  return texts.filterMap id

end FoundFile
end CodeDigest
