import CodeDigest.Files.Glob
import CodeDigest.Files.Volume
import CodeDigest.Text.Lines

/-! Ignore files: which files and folders a walk leaves out. -/

namespace CodeDigest

inductive Verdict where
  | leave
  | keep
deriving Repr, DecidableEq

/-- One line of an ignore file. Its glob is matched against paths from the folder of that file. -/
structure IgnoreRule where
  glob : Glob
  verdict : Verdict
  foldersOnly : Bool
deriving Repr, DecidableEq

namespace IgnoreRule

def mode : GlobMode := ⟨true, true⟩

/-- Where a pattern may match, put into its glob: anywhere unless it holds a slash, and inside a folder
but not the folder itself when it ends in two stars. -/
def placed (anchored : Bool) (pattern : Text) : Text :=
  let anywhere := anchored || pattern.contains '/' || pattern = "**".toList
  let pattern := if anywhere then pattern else "**/".toList ++ pattern
  if Text.endsWith pattern "/**".toList then pattern ++ "/*".toList else pattern

def takeMark (mark : Char) (pattern : Text) : Bool × Text :=
  if pattern.head? = some mark then (true, pattern.tail) else (false, pattern)

/-- Takes the slash from the end of a pattern for folders, and a backslash before it. -/
def takeEndSlash (pattern : Text) : Bool × Text :=
  if pattern.getLast? = some '/' then
    let pattern := pattern.dropLast
    (true, if pattern.getLast? = some '\\' then pattern.dropLast else pattern)
  else (false, pattern)

/-- The rule of a line. Remarks, blank lines and globs that cannot be read are no rules. -/
def ofLine? (line : Text) : Option IgnoreRule :=
  if line.head? = some '#' then none
  else
    let line := if Text.endsWith line ['\\', ' '] then line else Text.trimEnd line
    if line = [] then none
    else
      let escaped := Text.startsWith line ['\\', '!'] || Text.startsWith line ['\\', '#']
      let (negated, pattern) := if escaped then (false, line.tail) else takeMark '!' line
      let (anchored, pattern) := if escaped then (false, pattern) else takeMark '/' pattern
      let (foldersOnly, pattern) := takeEndSlash pattern
      match Glob.parse mode (placed anchored pattern) with
      | .error _ => none
      | .ok glob => some ⟨glob, if negated then .keep else .leave, foldersOnly⟩

def byteLines (bytes : List UInt8) : List (List UInt8) :=
  bytes.foldr (fun b lines =>
    match lines with
    | [] => [[b]]
    | line :: rest => if b = 0x0a then [] :: line :: rest else (b :: line) :: rest) [[]]

def decodeWhile : List (List UInt8) → List Text
  | [] => []
  | line :: rest =>
    match String.fromUTF8? ⟨line.toArray⟩ with
    | none => []
    | some s => s.toList :: decodeWhile rest

/-- The rules of an ignore file in order. A byte order mark at its start is passed over. -/
def ofFile (bytes : ByteArray) : List IgnoreRule :=
  match decodeWhile (byteLines bytes.toList) with
  | [] => []
  | first :: rest =>
    ((Text.trimStartBy (· = '\ufeff') first :: rest).map Text.chopReturn).filterMap ofLine?

def applies (r : IgnoreRule) (path : Text) (isFolder : Bool) : Bool :=
  (isFolder || !r.foldersOnly) && r.glob.isMatch mode.stepwise path

def decide? (rules : List IgnoreRule) (path : Text) (isFolder : Bool) : Option Verdict :=
  (rules.reverse.find? (·.applies path isFolder)).map (·.verdict)

end IgnoreRule

structure IgnoreFile where
  folder : Place
  rules : List IgnoreRule
deriving Repr, DecidableEq

/-- All the rules for a walk. A kind of file that comes first is asked first. -/
structure IgnoreRules where
  /-- For each kind of file in a folder, the files of the folders, a folder before those it lies in. -/
  kinds : List (List IgnoreFile)
  /-- The rules for all folders, about paths from the working folder. -/
  shared : List IgnoreRule
deriving Repr, DecidableEq

namespace IgnoreRules

def fileNames : List Text := [".ignore".toList, ".gitignore".toList, ".git/info/exclude".toList]

def folders (v : Volume) : List Place :=
  ((v.entries.filter (·.2.isFolder)).map (·.1)).mergeSort (fun a b => b.length ≤ a.length) ++ [[]]

def ofVolume (v : Volume) (shared : List IgnoreRule) : IgnoreRules where
  kinds := fileNames.map fun name =>
    (folders v).filterMap fun folder =>
      (v.read? folder name).map fun bytes => ⟨folder, IgnoreRule.ofFile bytes⟩
  shared

/-- What the files of one kind say about a place: the nearest one that says anything. -/
def decideByKind? (files : List IgnoreFile) (p : Place) (isFolder : Bool) : Option Verdict :=
  files.findSome? fun f =>
    if f.folder.isPrefixOf p && f.folder.length < p.length then
      IgnoreRule.decide? f.rules (Text.joinWith ['/'] (p.drop f.folder.length)) isFolder
    else none

/-- What the rules say about a place; `path` is how the walk came to it. -/
def decide? (r : IgnoreRules) (p : Place) (path : Text) (isFolder : Bool) : Option Verdict :=
  (r.kinds.findSome? fun files => decideByKind? files p isFolder).or
    (IgnoreRule.decide? r.shared path isFolder)

end IgnoreRules
end CodeDigest
