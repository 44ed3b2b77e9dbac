import CodeDigest.Path

/-! Volumes: files, folders and links, found by paths. -/

namespace CodeDigest

inductive FileFault where
  | missing
  | denied
  | broken
  | occupied
  | notFolder
  | isFolder
  | longName
  | tooManyLinks
deriving Repr, DecidableEq

def FileFault.message : FileFault → Text
  | missing => "No such file or directory (os error 2)".toList
  | denied => "Permission denied (os error 13)".toList
  | broken => "Input/output error (os error 5)".toList
  | occupied => "File exists (os error 17)".toList
  | notFolder => "Not a directory (os error 20)".toList
  | isFolder => "Is a directory (os error 21)".toList
  | longName => "File name too long (os error 36)".toList
  | tooManyLinks => "Too many levels of symbolic links (os error 40)".toList

inductive Entry where
  /-- A file, and why its bytes cannot be read, where they cannot. -/
  | file (bytes : ByteArray) (fault? : Option FileFault := none)
  | folder
  | link (target : Text)

def Entry.isFolder : Entry → Bool
  | folder => true
  | _ => false

abbrev Place := List Text

/-- What lies at which place. The root is a folder. -/
structure Volume where
  entries : List (Place × Entry)

namespace Volume

def entry? (v : Volume) (p : Place) : Option Entry :=
  if p = [] then some .folder else v.entries.lookup p

def holdsFolder (v : Volume) (p : Place) : Bool := (v.entry? p).any Entry.isFolder

/-- The steps of a path. A slash at its end asks for a folder, as a dot does. -/
def steps (path : Text) : List Text :=
  (Text.splitOn '/' path).filter (· ≠ []) ++ if path.getLast? = some '/' then [['.']] else []

/-- Goes down from a folder and follows every link, at most `links` of them. Only the last step may
lead to where nothing is. -/
def descend (v : Volume) (links : Nat) (here : Place) : List Text → Except FileFault Place
  | [] => .ok here
  | step :: rest =>
    if !v.holdsFolder here then .error .notFolder
    else if step = ['.'] then v.descend links here rest
    else if step = ['.', '.'] then v.descend links here.dropLast rest
    else if 255 < Text.byteSize step then .error .longName
    else
      match v.entry? (here ++ [step]) with
      | none => if rest = [] then .ok (here ++ [step]) else .error .missing
      | some (.link target) =>
        match links with
        | 0 => .error .tooManyLinks
        | links + 1 => v.descend links (if target.head? = some '/' then [] else here) (steps target ++ rest)
      | some _ => v.descend links (here ++ [step]) rest
termination_by path => (links, path.length)

def linkLimit : Nat := 40

def locate (v : Volume) (folder : Place) (path : Text) : Except FileFault Place :=
  if path = [] then .error .missing
  else v.descend linkLimit (if path.head? = some '/' then [] else folder) (steps path)

def find? (v : Volume) (folder : Place) (path : Text) : Option Entry :=
  match v.locate folder path with
  | .ok p => v.entry? p
  | .error _ => none

def isThere (v : Volume) (folder : Place) (path : Text) : Bool := (v.find? folder path).isSome

def isFolder (v : Volume) (folder : Place) (path : Text) : Bool := (v.find? folder path).any Entry.isFolder

def isFile (v : Volume) (folder : Place) (path : Text) : Bool :=
  match v.find? folder path with
  | some (.file ..) => true
  | _ => false

def read (v : Volume) (folder : Place) (path : Text) : Except FileFault ByteArray := do
  let p ← v.locate folder path
  match v.entry? p with
  | some (.file bytes none) => return bytes
  | some (.file _ (some fault)) => throw fault
  | some _ => throw .isFolder
  | none => throw .missing

def read? (v : Volume) (folder : Place) (path : Text) : Option ByteArray := (v.read folder path).toOption

def put (v : Volume) (p : Place) (e : Entry) : Volume :=
  ⟨(p, e) :: v.entries.filter (·.1 ≠ p)⟩

/-- The folder and the last name of a path, whatever lies there. -/
def locateParent (v : Volume) (folder : Place) (path : Text) : Except FileFault (Place × Text) := do
  if path = [] then throw .missing
  let all := (Text.splitOn '/' path).filter (· ≠ [])
  let start := if path.head? = some '/' then [] else folder
  let parent ← v.descend linkLimit start (all.dropLast ++ if all.dropLast = [] then [] else [['.']])
  return (parent, all.getLast?.getD ['.'])

def write (v : Volume) (folder : Place) (path : Text) (bytes : ByteArray) : Except FileFault Volume := do
  if path.getLast? = some '/' then
    let _ ← v.locateParent folder path
    throw .isFolder
  let p ← v.locate folder path
  if v.holdsFolder p then throw .isFolder
  return v.put p (.file bytes)

def makeFolder (v : Volume) (folder : Place) (path : Text) : Except FileFault Volume := do
  let (parent, name) ← v.locateParent folder path
  if name = ['.'] || name = ['.', '.'] then throw .occupied
  if 255 < Text.byteSize name then throw .longName
  if (v.entry? (parent ++ [name])).isSome then throw .occupied
  return v.put (parent ++ [name]) .folder

/-- Makes the first of some folders, each of which lies in the next one, and those of the others that
it needs. -/
def makeFolders (v : Volume) (folder : Place) : List Text → Except FileFault Volume
  | [] => .ok v
  | path :: outer =>
    match v.makeFolder folder path with
    | .ok v => .ok v
    | .error .missing => do
      let v ← v.makeFolders folder outer
      match v.makeFolder folder path with
      | .ok v => .ok v
      | .error e => if v.isFolder folder path then .ok v else .error e
    | .error e => if v.isFolder folder path then .ok v else .error e

end Volume
end CodeDigest
