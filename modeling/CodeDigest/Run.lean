import CodeDigest.Pack.Pool
import CodeDigest.Pack.Report
import CodeDigest.Settings.Basic

/-! Runs: from the settings to the document of a pack, or to a list of its files. -/

namespace CodeDigest

/-- An error, and what was being done, the outermost first. -/
structure Failure where
  doing : List Text := []
  error : PackError
deriving Repr, DecidableEq

namespace Failure

def messages (f : Failure) : List Text := f.doing ++ f.error.message :: f.error.cause.toList

def of (e : Except PackError α) (doing : List Text := []) : Except Failure α :=
  e.mapError fun error => ⟨doing, error⟩

end Failure

structure Delivery where
  /-- None for the standard output. -/
  path : Option Text
  /-- The size in bytes. -/
  size : Nat
  /-- There was no such file. -/
  isNew : Bool
deriving Repr, DecidableEq

namespace Surroundings

def makeParent (w : Surroundings) (path : Text) : Except PackError Volume :=
  match Path.parent? path with
  | none => .ok w.volume
  | some parent =>
    if parent = [] || w.isThere parent then .ok w.volume
    else
      (w.volume.makeFolders w.folder (Path.ancestry parent)).mapError fun e =>
        .output ("Failed to create directory ".toList ++ parent ++ ": ".toList ++ e.message)

def deliver (w : Surroundings) (path content : Text) : Except PackError (Volume × Delivery) := do
  let v ← w.makeParent path
  let v ← (v.write w.folder path (String.ofList content).toUTF8).mapError fun e =>
    PackError.output ("Failed to write ".toList ++ path ++ ": ".toList ++ e.message)
  return (v, ⟨some path, Text.byteSize content, !w.isThere path⟩)

end Surroundings

namespace Settings

def validate (s : Settings) (w : Surroundings) : Except PackError Unit :=
  if !w.isFolder s.root then .error (.missingPath s.root)
  else if s.poolSize w = 0 then .error (.noWorkers 0)
  else .ok ()

def walk (s : Settings) (w : Surroundings) : List FoundFile :=
  match w.volume.locate w.folder s.root with
  | .ok top => Walk.files w.volume w.ignoreRules s.root top
  | .error _ => []

def scan (s : Settings) (w : Surroundings) : Except PackError (List FoundFile) :=
  s.selection.select (s.walk w)

def collect (s : Settings) (w : Surroundings) : Except Failure (List SourceFile) := do
  Failure.of (s.validate w)
  let found ← Failure.of (s.scan w) ["Failed to scan ".toList ++ s.root]
  Failure.of (FoundFile.sources found) ["Failed to read files".toList]

def pack (s : Settings) (w : Surroundings) (r : Registry) : Except Failure Pack := do
  let sources ← s.collect w
  return ⟨Pool.run (s.poolSize w) (s.stages.process r) sources⟩

/-! ### Dry runs -/

def listing (r : Registry) (f : FoundFile) : Text :=
  let language := ((r.resolvePath? f.path).map (·.name)).getD ['-']
  Text.padEnd 12 language ++ [' '] ++ Text.padStart 10 (Text.ofNat f.size) ++ [' ', ' ']
    ++ Selection.normalPath f.path

def listings (s : Settings) (r : Registry) (found : List FoundFile) : Text :=
  let lines :=
    ["Dry Run Mode - ".toList ++ Text.ofNat found.length ++ " files".toList,
      "=====================================".toList]
    ++ found.map (listing r)
    ++ [[], "Style:        ".toList ++ s.style.name.toList,
      "Compress:     ".toList ++ Scalar.flagText s.stages.digest,
      "Output:       ".toList ++ s.output.getD "stdout".toList]
  lines.flatMap (· ++ ['\n'])

end Settings

structure RunResult where
  /-- What it wrote to the standard output. -/
  shown : Text
  /-- The report, line by line, once it is known how many milliseconds the run took. -/
  report : Nat → List Text
  volume : Volume
  /-- The document that was written to a file, and that file. -/
  delivery : Option (Delivery × Text)

namespace Settings

def run (s : Settings) (w : Surroundings) (r : Registry) : Except Failure RunResult := do
  Failure.of (s.validate w)
  if s.dryRun then
    let found ← Failure.of (s.scan w)
    return ⟨s.listings r found, fun _ => [], w.volume, none⟩
  let p ← s.pack w r
  let document := p.render s.style
  let report := fun t => if s.quiet then [] else Report.lines p none s.output s.stages.digest t
  match s.output with
  | none => return ⟨document, report, w.volume, none⟩
  | some path =>
    let (volume, delivery) ← Failure.of (w.deliver path document)
    return ⟨[], report, volume, some (delivery, document)⟩

end Settings
end CodeDigest
