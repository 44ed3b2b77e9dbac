import CodeDigest.Pack.Selection
import CodeDigest.Settings.Arguments
import CodeDigest.Settings.Sources

/-! The settings of a run, from its command line and from all other places. -/

namespace CodeDigest

structure Preferences where
  style : Option Style := none
  output : Option Text := none
  stages : Stages := {}
  countTokens : Bool := true
  wanted : List Text := []
  unwanted : List Text := []
  workers : Option Nat := none
  sizeLimit : Option Nat := none
deriving Repr, DecidableEq

namespace Preferences

open Setting

def styles : List (Text × Style) :=
  [Style.plain, .markdown, .xml, .json].map fun s => (s.name.toList, s)

def readOutput (p : Preferences) (s : Setting) : Setting.Read Preferences := do
  let r ← s.asRecord "OutputConfig".toList 7
  let style ← r.field 0 "style".toList (asOptional (asChoice "OutputStyle".toList styles)) none false
  let output ← r.field 1 "file".toList (asOptional asText) none false
  let digest ← r.field 2 "compress".toList asFlag false true
  let removeComments ← r.field 3 "remove_comments".toList asFlag false true
  let removeEmptyLines ← r.field 4 "remove_empty_lines".toList asFlag false true
  let numberLines ← r.field 5 "show_line_numbers".toList asFlag false true
  let countTokens ← r.field 6 "token_count".toList asFlag true true
  return { p with style, output, countTokens, stages := ⟨removeComments, removeEmptyLines, digest, numberLines⟩ }

def readPatterns (typeName : String) (s : Setting) : Setting.Read (List Text) := do
  let r ← s.asRecord typeName.toList 1
  r.field 0 "patterns".toList asTexts [] true

def readProcessing (p : Preferences) (s : Setting) : Setting.Read Preferences := do
  let r ← s.asRecord "ProcessingConfig".toList 2
  let workers ← r.field 0 "workers".toList (asOptional asWord) none false
  let sizeLimit ← r.field 1 "max_file_size".toList (asOptional asWord) none false
  return { p with workers, sizeLimit }

def read (s : Setting) : Setting.Read Preferences := do
  let r ← s.asRecord "Config".toList 4
  let p : Preferences := {}
  let p ← r.field 0 "output".toList (readOutput p) p true
  let wanted ← r.field 1 "include".toList (readPatterns "IncludeConfig") [] true
  let unwanted ← r.field 2 "exclude".toList (readPatterns "ExcludeConfig") [] true
  let p := { p with wanted, unwanted }
  r.field 3 "processing".toList (readProcessing p) p true

def load (w : Surroundings) (named : Option Text) : Except PackError Preferences := do
  let s ← Sources.load w named
  (read s).mapError fun f => .config f.message

end Preferences

structure Settings where
  /-- The folder to pack. -/
  root : Text
  /-- The file to write, or none for the standard output. -/
  output : Option Text
  style : Style
  selection : Selection
  stages : Stages
  /-- How many files are processed at once, if that is said. -/
  workers : Option Nat
  countTokens : Bool
  /-- Only list the files. -/
  dryRun : Bool
  verbosity : Nat
  quiet : Bool
deriving Repr, DecidableEq

namespace Settings

def defaultSizeLimit : Nat := 10 * 1024 * 1024

def styleOfFile? (path : Text) : Option Style :=
  (Path.extension? path).bind fun extension => (Style.ofName extension).toOption

/-- The command line counts for more than the preferences; it can only switch stages on, and its globs come
after theirs. -/
def merge (a : Arguments) (p : Preferences) : Settings :=
  let output := a.output.or p.output
  { root := a.path
    output
    style := ((a.style.or p.style).or (output.bind styleOfFile?)).getD .plain
    selection :=
      { wanted := p.wanted ++ a.wanted
        unwanted := p.unwanted ++ a.unwanted
        sizeLimit := (a.sizeLimit.or p.sizeLimit).getD defaultSizeLimit }
    stages :=
      { removeComments := a.stages.removeComments || p.stages.removeComments
        removeEmptyLines := a.stages.removeEmptyLines || p.stages.removeEmptyLines
        digest := a.stages.digest || p.stages.digest
        numberLines := a.stages.numberLines || p.stages.numberLines }
    workers := a.workers.or p.workers
    countTokens := p.countTokens && !a.noTokenCount
    dryRun := a.dryRun
    verbosity := a.verbosity
    quiet := a.quiet }

def load (w : Surroundings) (a : Arguments) : Except PackError Settings :=
  (Preferences.load w a.config).map (merge a)

def poolSize (s : Settings) (w : Surroundings) : Nat := s.workers.getD w.cores

end Settings
end CodeDigest
