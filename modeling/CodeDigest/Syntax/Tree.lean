import CodeDigest.Source

/-! Syntax trees, and the forests that a parse collects them in. -/

namespace CodeDigest.Syntax

inductive Tree where
  | node (kind : String) (fieldName : String) (start stop : Nat) (children : List Tree)
deriving Repr

namespace Tree

def kind : Tree → String
  | node k _ _ _ _ => k

def fieldName : Tree → String
  | node _ f _ _ _ => f

def start : Tree → Nat
  | node _ _ a _ _ => a

def stop : Tree → Nat
  | node _ _ _ b _ => b

def children : Tree → List Tree
  | node _ _ _ _ cs => cs

/-- Names the field of a node that has none yet. -/
def inField (name : String) : Tree → Tree
  | node k f a b cs => node k (if f.isEmpty then name else f) a b cs

end Tree

inductive Forest where
  | nil
  | leaf (t : Tree)
  | join (a b : Forest)

namespace Forest

def toListBefore : Forest → List Tree → List Tree
  | nil, rest => rest
  | leaf t, rest => t :: rest
  | join a b, rest => toListBefore a (toListBefore b rest)

def toList (f : Forest) : List Tree := f.toListBefore []

def append : Forest → Forest → Forest
  | nil, g => g
  | f, nil => f
  | f, g => join f g

def ofList : List Tree → Forest
  | [] => nil
  | t :: rest => append (leaf t) (ofList rest)

def inField (name : String) : Forest → Forest
  | nil => nil
  | leaf t => leaf (t.inField name)
  | join a b => join (a.inField name) (b.inField name)

end Forest
end CodeDigest.Syntax
