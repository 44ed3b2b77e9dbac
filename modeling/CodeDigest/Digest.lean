import CodeDigest.Registry

/-! Digests: what is left of a file when the bodies of its declarations are dropped. -/

namespace CodeDigest

/-- What became of a file. A digest may be empty where nothing is declared. -/
inductive Outcome where
  | digested (text : Text)
  | unsupported
  | fallback (error : DigestError)
deriving Repr, DecidableEq

namespace Language

def captures (l : Language) (content : Text) : Except DigestError (List Capture) := do
  let query ← l.compiledQuery
  match Syntax.parse l.grammar content with
  | .error row =>
    .error (.parse l.name ("syntax error near line ".toList ++ Text.ofNat (row + 1)))
  | .ok (tree, input) => .ok (query.captures tree input (.ofText content))

def digest (l : Language) (content : Text) : Except DigestError Text := do
  let captures ← l.captures content
  let fragments ← Classification.run l.reading (.ofText content) .empty captures
  return Text.unlines (fragments.map fun f => Text.trim f.text)

end Language

namespace Registry

def supports (r : Registry) (path : Text) : Bool := (r.resolvePath? path).isSome

def digest? (r : Registry) (path content : Text) : Except DigestError Text :=
  match r.resolvePath? path with
  | none => .error (.unsupported ((Path.extension? path).getD []))
  | some l => l.digest content

/-- The digest of a file; a failure stays with this file. -/
def digest (r : Registry) (path content : Text) : Outcome :=
  match r.resolvePath? path with
  | none => .unsupported
  | some l =>
    match l.digest content with
    | .ok text => .digested text
    | .error e => .fallback e

end Registry

/-- The text to go on with: the digest, or the file as it was. -/
def Outcome.content (o : Outcome) (file : Text) : Text :=
  match o with
  | .digested text => text
  | .unsupported | .fallback _ => file

end CodeDigest
