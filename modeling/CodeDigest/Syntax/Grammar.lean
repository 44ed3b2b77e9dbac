import CodeDigest.Pattern.Notation

/-! Grammars: named rules over tokens, with ordered choice. -/

namespace CodeDigest.Syntax

/-- What a rule may say. A glued token takes no trivia before it; a hidden one does not count as
the end of the nodes around it. -/
inductive Expr where
  | empty
  | literal (text : Text) (word ignoreCase glued hidden : Bool)
  | token (pattern : Pattern) (glued hidden : Bool)
  | seq (a b : Expr)
  /-- The second is tried only where the first does not match. -/
  | alt (a b : Expr)
  | star (a : Expr)
  | look (negated : Bool) (a : Expr)
  | rule (index : Nat)
  | node (kind : String) (glued : Bool) (a : Expr)
  | field (name : String) (a : Expr)
  /-- A base followed by any number of suffixes; each wraps all before it into a node of its kind,
  or into none when the kind is empty. -/
  | chain (base : Expr) (suffixes : List (String × Expr))
  /-- Under another notion of trivia. -/
  | mode (m : Nat) (a : Expr)
  /-- One of a list of items, a place to recover at. -/
  | item (a : Expr)
  | endOfText
  /-- Whether a newline stands before the next token. -/
  | newlineAhead (negated : Bool)
  /-- At the start of a line, an indentation no less than that of the enclosing block. -/
  | aligned
  /-- Under the indentation of the line that starts here, which is deeper than the enclosing one. -/
  | block (a : Expr)
  /-- A token that announces a text on the lines below; its groups `dash` and `tag` say how that
  text ends. -/
  | hereDocument (pattern : Pattern)
  /-- A newline, with the announced texts behind it. -/
  | lineBreak
deriving Inhabited

/-- Rules, the first of which is the start; `trivia` has the rule of each mode. -/
structure Grammar where
  names : Array String
  rules : Array Expr
  trivia : Array Nat
  /-- What a missing token may be, in the order in which it is tried. -/
  closers : List Text

namespace Expr

def seqs : List Expr → Expr
  | [] => empty
  | [e] => e
  | e :: es => seq e (seqs es)

def alts : List Expr → Expr
  | [] => look true empty
  | [e] => e
  | e :: es => alt e (alts es)

def opt (e : Expr) : Expr := alt e empty

def plus (e : Expr) : Expr := seq e (star e)

def kinds : Expr → List String
  | seq a b | alt a b => kinds a ++ kinds b
  | star a | look _ a | field _ a | mode _ a | item a | block a => kinds a
  | node k _ a => k :: kinds a
  | chain base suffixes => kinds base ++ kindsOfAll suffixes
  | _ => []
where
  kindsOfAll : List (String × Expr) → List String
    | [] => []
    | (k, e) :: rest => k :: kinds e ++ kindsOfAll rest

def fields : Expr → List String
  | seq a b | alt a b => fields a ++ fields b
  | star a | look _ a | mode _ a | item a | block a | node _ _ a => fields a
  | field name a => name :: fields a
  | chain base suffixes => fields base ++ fieldsOfAll suffixes
  | _ => []
where
  fieldsOfAll : List (String × Expr) → List String
    | [] => []
    | (_, e) :: rest => fields e ++ fieldsOfAll rest

end Expr

namespace Grammar

def kinds (g : Grammar) : List String := g.rules.toList.flatMap Expr.kinds

def fields (g : Grammar) : List String := g.rules.toList.flatMap Expr.fields

end Grammar
end CodeDigest.Syntax
