import CodeDigest.Token

/-! Removal of comments. Directives stay, and so does every string that is not a docstring. -/

namespace CodeDigest.CommentRemoval

/-- Characters that leave an expression open at the end of a line. -/
def leavesOpen (c : Char) : Bool :=
  ['\\', '(', '[', '{', ',', '=', '+', '-', '*', '/', '%', '|', '&', '<', '>'].contains c

def isSpaceOrTab (c : Char) : Bool := c = ' ' || c = '\t'

/-- Everything behind the last newline, and everything before it. -/
def splitLastLine (s : Text) : Text × Text :=
  let last := (s.reverse.takeWhile (· ≠ '\n')).reverse
  (s.take (s.length - last.length - 1), last)

/-- A triple-quoted literal is a docstring when it stands alone on its line and the line before
leaves no expression open. -/
def isDocstring (l : Lexicon) (before after : Text) : Bool :=
  let (previous, lead) := splitLastLine before
  let tail := Text.trim (after.takeWhile (· ≠ '\n'))
  Text.isBlank lead
    && !((Text.trimEnd previous).getLast?.any leavesOpen)
    && (tail.isEmpty || l.startsLineComment tail)

/-- Bracket depth behind a code character; it never goes below zero. -/
def depthAfter (depth : Nat) (c : Char) : Nat :=
  if c = '(' || c = '[' || c = '{' then depth + 1
  else if c = ')' || c = ']' || c = '}' then depth - 1
  else depth

def textOf (tokens : List Token) : Text := (tokens.map (·.text)).flatten

/-- Whether a token goes, given what was kept before it, last character first, and the tokens
behind it. -/
def isDropped (l : Lexicon) (depth : Nat) (kept : Text) (t : Token) (rest : List Token) : Bool :=
  match t.kind with
  | .lineComment | .blockComment => !l.isDirective t.text
  | .literal true => depth = 0 && isDocstring l kept.reverse (textOf rest)
  | _ => false

/-- Adds the tokens that stay to what was kept so far, which is held last character first. A token
that goes takes the blanks before it along. -/
def keep (l : Lexicon) (depth : Nat) (kept : Text) : List Token → Text
  | [] => kept.reverse
  | t :: rest =>
    if isDropped l depth kept t rest then keep l depth (kept.dropWhile isSpaceOrTab) rest
    else keep l (t.code?.elim depth (depthAfter depth)) (t.text.reverse ++ kept) rest

/-- The text of a file without its comments, by the lexicon of its extension. -/
def removeComments (path content : Text) : Text :=
  match Lexicon.forPath? path with
  | none => content
  | some l => keep l 0 [] (l.tokens content)

end CodeDigest.CommentRemoval
