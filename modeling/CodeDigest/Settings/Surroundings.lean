import CodeDigest.Files.Ignore

/-! Surroundings: what a run finds besides its command line, and the files that it looks for there. -/

namespace CodeDigest

structure Surroundings where
  volume : Volume
  /-- The working folder. -/
  folder : Place
  /-- The variables of the environment. -/
  environment : List (Text × Text)
  /-- How many files can be processed at once. -/
  cores : Nat

namespace Surroundings

def lookup (w : Surroundings) (name : Text) : Option Text := w.environment.lookup name

def filled? (w : Surroundings) (name : String) : Option Text :=
  (w.lookup name.toList).filter (· ≠ [])

def read (w : Surroundings) (path : Text) : Except FileFault ByteArray := w.volume.read w.folder path

def read? (w : Surroundings) (path : Text) : Option ByteArray := w.volume.read? w.folder path

def isThere (w : Surroundings) (path : Text) : Bool := w.volume.isThere w.folder path

def isFolder (w : Surroundings) (path : Text) : Bool := w.volume.isFolder w.folder path

def isFile (w : Surroundings) (path : Text) : Bool := w.volume.isFile w.folder path

def absolute (p : Place) : Text := '/' :: Text.joinWith ['/'] p

def homeFolder? (w : Surroundings) : Option Text := w.filled? "HOME"

/-- The folder for the settings of the user: the one that a variable names, or one in the home folder. -/
def settingsFolder? (w : Surroundings) (anyPath : Bool) : Option Text :=
  let named := (w.filled? "XDG_CONFIG_HOME").filter fun path => anyPath || path.head? = some '/'
  named.or (w.homeFolder?.map fun home => Path.join home ".config".toList)

/-! ### Version control -/

def isRepository (v : Volume) (p : Place) : Bool :=
  v.isFile p "HEAD".toList && v.isFolder p "objects".toList && v.isFolder p "refs".toList

def repositoryRoot? (w : Surroundings) : Option Place :=
  (List.range (w.folder.length + 1)).reverse.findSome? fun n =>
    let p := w.folder.take n
    match w.volume.locate p ".git".toList with
    | .ok inner => if isRepository w.volume inner then some p else none
    | .error _ => none

def ignoreSetting? (line : Text) : Option Text := do
  let line := Text.trim line
  let name := "excludesfile".toList
  if Text.asciiLower (line.take name.length) ≠ name then none
  match Text.trimStart (line.drop name.length) with
  | '=' :: value =>
    let value := Text.trimStart value
    let value := if value.head? = some '"' && 1 < value.length then Text.trimStart value.tail else value
    let value := if value.getLast? = some '"' && 1 < value.length then Text.trimEnd value.dropLast else value
    if value = [] || value.any CharClass.isBlank then none else some value
  | _ => none

def expandHome (w : Surroundings) (path : Text) : Text :=
  match w.homeFolder? with
  | none => path
  | some home => path.flatMap fun c => if c = '~' then home else [c]

def ignoreFileIn? (w : Surroundings) (path : Text) : Option Text := do
  let bytes ← w.read? path
  let s ← String.fromUTF8? bytes
  let value ← (Text.lines s.toList).findSome? ignoreSetting?
  return w.expandHome value

/-- The rules for all folders: those of the file that version control is set to, or of its usual file. -/
def sharedRules (w : Surroundings) : List IgnoreRule :=
  let folder := w.settingsFolder? true
  let inFolder (name : String) := folder.map fun f => Path.join f name.toList
  let home := w.homeFolder?.map fun h => Path.join h ".gitconfig".toList
  let path := ((home.bind w.ignoreFileIn?).or ((inFolder "git/config").bind w.ignoreFileIn?)).or
    (inFolder "git/ignore")
  ((path.bind w.read?).map IgnoreRule.ofFile).getD []

def ignoreRules (w : Surroundings) : IgnoreRules := .ofVolume w.volume w.sharedRules

end Surroundings
end CodeDigest
