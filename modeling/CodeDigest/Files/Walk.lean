import CodeDigest.Files.Ignore

/-! Walks: the regular files below a folder that no rule leaves out. Links are not followed. -/

namespace CodeDigest

structure FoundFile where
  steps : List Text
  bytes : ByteArray
  /-- Why the bytes cannot be read, where they cannot. -/
  fault? : Option FileFault

namespace FoundFile

def path (f : FoundFile) : Text := Text.joinWith ['/'] f.steps

def size (f : FoundFile) : Nat := f.bytes.size

end FoundFile

namespace Walk

def hiddenName : Text := ".git".toList

/-- How a walk names what it came to: the path of its root before the steps from there, without a dot
for the working folder. -/
def nameOf (root : Text) (steps : List Text) : Text :=
  let path := Path.join root (Text.joinWith ['/'] steps)
  (Text.strip? ['.', '/'] path).getD path

def enters (rules : IgnoreRules) (root : Text) (top : Place) (steps : List Text) (isFolder : Bool) : Bool :=
  rules.decide? (top ++ steps) (nameOf root steps) isFolder ≠ some .leave && steps.getLast? ≠ some hiddenName

/-- Whether a walk comes to a file below its root: it enters every folder on the way, and the file. -/
def reaches (rules : IgnoreRules) (root : Text) (top : Place) (steps : List Text) : Bool :=
  (List.range steps.length).all fun n =>
    enters rules root top (steps.take (n + 1)) (n + 1 < steps.length)

def below (top : Place) (p : Place) : Option (List Text) :=
  if top.isPrefixOf p && top.length < p.length then some (p.drop top.length) else none

/-- The files that a walk from `top` comes to; `root` is the path that names it. -/
def files (v : Volume) (rules : IgnoreRules) (root : Text) (top : Place) : List FoundFile :=
  v.entries.filterMap fun (p, e) =>
    match e, below top p with
    | .file bytes fault?, some steps =>
      if reaches rules root top steps then some ⟨steps, bytes, fault?⟩ else none
    | _, _ => none

end Walk
end CodeDigest
