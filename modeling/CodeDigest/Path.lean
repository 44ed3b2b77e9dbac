import CodeDigest.Text.Basic

/-! Slash-separated paths. -/

namespace CodeDigest.Path

/-- The steps of a path; empty steps and `.` are no steps. -/
def components (path : Text) : List Text :=
  (Text.splitOn '/' path).filter fun step => step ≠ [] && step ≠ ['.']

/-- The last step of a path, unless it leads upwards. -/
def fileName? (path : Text) : Option Text :=
  match (components path).getLast? with
  | some ['.', '.'] => none
  | other => other

def extensionOf? (name : Text) : Option Text :=
  let tail := name.reverse.takeWhile (· ≠ '.')
  if tail.length + 1 < name.length then some tail.reverse else none

def extension? (path : Text) : Option Text := (fileName? path).bind extensionOf?

/-- Joins with one slash; an absolute second path replaces the first. -/
def join (base rest : Text) : Text :=
  if rest.head? = some '/' then rest
  else if base = [] then rest
  else if base.getLast? = some '/' then base ++ rest
  else base ++ '/' :: rest

def trimSteps : List Text → List Text
  | [first] => [first]
  | step :: rest => if step = [] || step = ['.'] then trimSteps rest else step :: rest
  | [] => []

/-- The path of the folder that a path lies in; it is empty for a single step. -/
def parent? (path : Text) : Option Text :=
  match trimSteps (Text.splitOn '/' path).reverse with
  | [] => none
  | [first] => if first = [] then none else some []
  | _ :: rest =>
    let up := trimSteps rest
    some (if up = [[]] then ['/'] else Text.joinWith ['/'] up.reverse)

def ancestry (path : Text) : List Text :=
  go (path.length + 1) path
where
  go : Nat → Text → List Text
    | 0, _ => []
    | fuel + 1, path =>
      if path = [] then [] else path :: ((parent? path).map (go fuel)).getD []

/-- Order of paths by their steps, each step by its bytes. -/
def stepsLE (a b : List Text) : Bool :=
  match a, b with
  | [], _ => true
  | _ :: _, [] => false
  | x :: xs, y :: ys => if x = y then stepsLE xs ys else decide (x < y)

end CodeDigest.Path
