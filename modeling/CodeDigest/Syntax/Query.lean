import CodeDigest.Capture
import CodeDigest.Syntax.Parse

/-! Queries: patterns of trees that label the nodes they match. -/

namespace CodeDigest.Syntax

inductive Quantity where
  | once
  | optional
  | anyNumber
  | atLeastOnce
deriving Repr, DecidableEq

/-- A pattern of a node. No kinds mean any; a field, where given, is the node's field; `anchored`
means that no other named child stands before it. -/
inductive NodePattern where
  | node (kind : Option String) (field : Option String) (captures : List String)
      (quantity : Quantity) (anchored : Bool) (children : List NodePattern)
  | choice (field : Option String) (captures : List String) (quantity : Quantity)
      (anchored : Bool) (alternatives : List NodePattern)

inductive Test where
  | fits (capture : String) (pattern : Pattern) (negated : Bool)
  | equals (capture : String) (text : Text) (negated : Bool)
  | same (capture other : String) (negated : Bool)
  | anyOf (capture : String) (texts : List Text) (negated : Bool)

structure QueryPattern where
  root : NodePattern
  tests : List Test

abbrev Query := List QueryPattern

namespace NodePattern

def quantity : NodePattern → Quantity
  | node _ _ _ q _ _ => q
  | choice _ _ q _ _ => q

def anchored : NodePattern → Bool
  | node _ _ _ _ a _ => a
  | choice _ _ _ a _ => a

def withQuantity (q : Quantity) : NodePattern → NodePattern
  | node k f c _ a ps => node k f c q a ps
  | choice f c _ a ps => choice f c q a ps

abbrev Labels := List (String × Tree)

abbrev Ways := List Labels

mutual

/-- The ways in which a pattern matches a node. The number bounds the size of the search. -/
def atNode : Nat → NodePattern → Tree → Ways
  | 0, _, _ => []
  | n + 1, node kind field captures _ _ patterns, t =>
    if kind.all (· == t.kind) && field.all (· == t.fieldName) then
      (amongChildren n patterns t.children).map fun labels => captures.map (·, t) ++ labels
    else []
  | n + 1, choice field captures _ _ alternatives, t =>
    if field.all (· == t.fieldName) then
      (anyOf n alternatives t).map fun labels => captures.map (·, t) ++ labels
    else []

def anyOf : Nat → List NodePattern → Tree → Ways
  | 0, _, _ => []
  | _ + 1, [], _ => []
  | n + 1, p :: more, t => atNode n p t ++ anyOf n more t

def amongChildren : Nat → List NodePattern → List Tree → Ways
  | 0, _, _ => []
  | _ + 1, [], _ => [[]]
  | n + 1, p :: more, children =>
    let skipped := match p.quantity with
      | .optional | .anyNumber => amongChildren n more children
      | .once | .atLeastOnce => []
    match children with
    | [] => skipped
    | t :: rest =>
      let after := match p.quantity with
        | .anyNumber | .atLeastOnce => p.withQuantity .anyNumber :: more
        | .once | .optional => more
      let here := (atNode n p t).flatMap fun labels =>
        (amongChildren n after rest).map (labels ++ ·)
      let later := if p.anchored then [] else amongChildren n (p :: more) rest
      let found := here ++ later
      if found.isEmpty then skipped else found

end

end NodePattern

namespace Test

def texts (i : Input) (labels : NodePattern.Labels) (capture : String) : List Text :=
  (labels.filter (·.1 == capture)).map fun l => (i.rest l.2.start).take (l.2.stop - l.2.start)

def holds (i : Input) (labels : NodePattern.Labels) : Test → Bool
  | fits capture p negated => (texts i labels capture).all fun s => p.isMatch s != negated
  | equals capture t negated => (texts i labels capture).all fun s => decide (s = t) != negated
  | same a b negated =>
    (texts i labels a).all fun s => (texts i labels b).all fun t => decide (s = t) != negated
  | anyOf capture ts negated => (texts i labels capture).all fun s => ts.contains s != negated

end Test

def Tree.nodes : Tree → List Tree
  | t@(.node _ _ _ _ cs) => t :: nodesOfAll cs
where
  nodesOfAll : List Tree → List Tree
    | [] => []
    | c :: rest => Tree.nodes c ++ nodesOfAll rest

namespace Query

/-- A labelled node: where it starts, which pattern labelled it, as which of the pattern's labels. -/
structure Labelled where
  label : String
  tree : Tree
  pattern : Nat

def matchesOf (i : Input) (nodes : List Tree) (index : Nat) (p : QueryPattern) : List Labelled :=
  nodes.flatMap fun t =>
    ((p.root.atNode (4 * i.size + 1000) t).filter fun labels => p.tests.all (·.holds i labels)).flatMap
      fun labels => labels.map fun l => ⟨l.1, l.2, index⟩

/-- The place of a node's end. A node that ends behind a newline ends before it. -/
def endPlace (i : Input) (s : Source) (first last : Nat) : Position :=
  let a := i.place first
  let b := i.place last
  if b.column = 0 && a.row < b.row then
    ⟨b.row - 1, ((s.line? (b.row - 1)).map Text.byteSize).getD 0⟩
  else b

def capture (i : Input) (s : Source) (l : Labelled) : Capture :=
  let a := i.place l.tree.start
  let b := endPlace i s l.tree.start l.tree.stop
  ⟨l.label, a.row, a.column, b.row, b.column⟩

/-- All captures by the places where they start; at one place in the order of the patterns. -/
def captures (q : Query) (t : Tree) (i : Input) (s : Source) : List Capture :=
  let nodes := t.nodes
  let found := (q.mapIdx (matchesOf i nodes)).flatten
  let sorted := found.mergeSort fun a b =>
    a.tree.start < b.tree.start || (a.tree.start = b.tree.start && a.pattern ≤ b.pattern)
  sorted.map (capture i s)

end Query
end CodeDigest.Syntax
