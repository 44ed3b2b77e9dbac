import CodeDigest.Lexicon

/-! The tokens of a text under a lexicon: comments and literals whole, all else by character. -/

namespace CodeDigest

inductive Token.Kind where
  | code (c : Char)
  | lineComment
  | blockComment
  | literal (triple : Bool)
deriving Repr, DecidableEq

structure Token where
  kind : Token.Kind
  start : Nat
  text : Text
deriving Repr, DecidableEq

namespace Token

def stop (t : Token) : Nat := t.start + Text.byteSize t.text

def isComment (t : Token) : Bool := t.kind == .lineComment || t.kind == .blockComment

def code? (t : Token) : Option Char :=
  match t.kind with
  | .code c => some c
  | _ => none

end Token

namespace Lexicon

/-- A literal's delimiter, and whether it may span lines and has escapes. -/
structure Quote where
  delimiter : Char
  multiline : Bool
  escapes : Bool
deriving Repr, DecidableEq

/-- `'x'` and `'\n'` are character literals, `'a` and `'static` are not. -/
def looksLikeCharLiteral : Text → Bool
  | _ :: '\\' :: _ => true
  | _ :: c :: '\'' :: _ => c ≠ '\''
  | _ => false

def quote? (l : Lexicon) (s : Text) : Option Quote :=
  match s.head? with
  | some '"' => if l.doubleQuote then some ⟨'"', false, true⟩ else none
  | some '\'' =>
    match l.singleQuote with
    | .delimiter => some ⟨'\'', false, true⟩
    | .charOrLifetime => if looksLikeCharLiteral s then some ⟨'\'', false, true⟩ else none
    | .plain => none
  | some '`' =>
    match l.backtick with
    | .plain => none
    | .raw => some ⟨'`', true, false⟩
    | .template => some ⟨'`', true, true⟩
  | _ => none

def literalLength (q : Quote) : Text → Nat
  | [] => 0
  | c :: rest =>
    if q.escapes && c = '\\' then
      match rest with
      | [] => 1
      | _ :: rest' => literalLength q rest' + 2
    else if c = q.delimiter then 1
    else if c = '\n' && !q.multiline then 0
    else literalLength q rest + 1

def tripleLength (delimiter : Text) : Text → Nat
  | [] => 0
  | c :: rest =>
    if c = '\\' then
      match rest with
      | [] => 1
      | _ :: rest' => tripleLength delimiter rest' + 2
    else if Text.startsWith (c :: rest) delimiter then delimiter.length
    else tripleLength delimiter rest + 1

def lengthToClose (close : Text) : Text → Nat
  | [] => 0
  | c :: rest =>
    if Text.startsWith (c :: rest) close then close.length else lengthToClose close rest + 1

def tripleQuote? (l : Lexicon) (s : Text) : Option Text :=
  if !l.tripleQuotes then none
  else [['"', '"', '"'], ['\'', '\'', '\'']].find? (Text.startsWith s)

def blockComment? (l : Lexicon) (s : Text) : Option (Text × Text) :=
  l.blockComment.filter fun b => Text.startsWith s b.1

/-- The kind of the token that starts with `c` and how many characters of `rest` it takes. A
comment wins over a triple quote, and that over a quote. -/
def tokenAt (l : Lexicon) (c : Char) (rest : Text) : Token.Kind × Nat :=
  if l.startsLineComment (c :: rest) then
    (.lineComment, (rest.takeWhile (· ≠ '\n')).length)
  else
    match l.blockComment? (c :: rest) with
    | some (opener, closer) =>
      let lead := opener.length - 1
      (.blockComment, lead + lengthToClose closer (rest.drop lead))
    | none =>
      match l.tripleQuote? (c :: rest) with
      | some delimiter => (.literal true, 2 + tripleLength delimiter (rest.drop 2))
      | none =>
        match l.quote? (c :: rest) with
        | some q => (.literal false, literalLength q rest)
        | none => (.code c, 0)

def tokensFrom (l : Lexicon) (start : Nat) : Text → List Token
  | [] => []
  | c :: rest =>
    let found := l.tokenAt c rest
    let text := c :: rest.take found.2
    ⟨found.1, start, text⟩ :: tokensFrom l (start + Text.byteSize text) (rest.drop found.2)
  termination_by s => s.length
  decreasing_by simp only [List.length_drop, List.length_cons]; omega

def tokens (l : Lexicon) (s : Text) : List Token := tokensFrom l 0 s

end Lexicon
end CodeDigest
