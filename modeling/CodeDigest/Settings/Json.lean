import CodeDigest.Settings.Value

/-! Settings in JSON, and where a text stops being JSON. -/

namespace CodeDigest.Json

inductive Problem where
  | endInList
  | endInObject
  | endInString
  | endInValue
  | noColon
  | noListEnd
  | noObjectEnd
  | badWord
  | noValue
  | badEscape
  | badNumber
  | numberTooGreat
  | controlCharacter
  | keyNotString
  | loneSurrogate
  | halfSurrogate
  | trailingComma
  | trailingText
  | tooDeep
  | unexpected (found expected : Text)
  | outOfRange (found expected : Text)
deriving Repr, DecidableEq

def Problem.message : Problem → Text
  | endInList => "EOF while parsing a list".toList
  | endInObject => "EOF while parsing an object".toList
  | endInString => "EOF while parsing a string".toList
  | endInValue => "EOF while parsing a value".toList
  | noColon => "expected `:`".toList
  | noListEnd => "expected `,` or `]`".toList
  | noObjectEnd => "expected `,` or `\x7d`".toList
  | badWord => "expected ident".toList
  | noValue => "expected value".toList
  | badEscape => "invalid escape".toList
  | badNumber => "invalid number".toList
  | numberTooGreat => "number out of range".toList
  | controlCharacter => "control character (\\u0000-\\u001F) found while parsing a string".toList
  | keyNotString => "key must be a string".toList
  | loneSurrogate => "lone leading surrogate in hex escape".toList
  | halfSurrogate => "unexpected end of hex escape".toList
  | trailingComma => "trailing comma".toList
  | trailingText => "trailing characters".toList
  | tooDeep => "recursion limit exceeded".toList
  | unexpected found expected => "invalid type: ".toList ++ found ++ ", expected ".toList ++ expected
  | outOfRange found expected => "invalid value: ".toList ++ found ++ ", expected ".toList ++ expected

/-- What is left of a text, and where that begins: the line, and the bytes of it that were read. -/
structure Cursor where
  rest : Text
  line : Nat := 1
  column : Nat := 0

def Cursor.advance (c : Cursor) : Cursor :=
  match c.rest with
  | [] => c
  | '\n' :: rest => ⟨rest, c.line + 1, 0⟩
  | d :: rest => ⟨rest, c.line, c.column + d.utf8Size⟩

structure Fault where
  problem : Problem
  line : Nat
  column : Nat
deriving Repr, DecidableEq

def Fault.message (f : Fault) : Text :=
  f.problem.message ++ " at line ".toList ++ Text.ofNat f.line ++ " column ".toList ++ Text.ofNat f.column

abbrev Read := StateT Cursor (Except Fault)

def fail (p : Problem) : Read α := do
  let c ← get
  throw ⟨p, c.line, c.column⟩

def failNext (p : Problem) : Read α := do
  let c ← get
  match c.rest with
  | [] => throw ⟨p, c.line, c.column⟩
  | '\n' :: _ => throw ⟨p, c.line + 1, 0⟩
  | _ => throw ⟨p, c.line, c.column + 1⟩

def peek : Read (Option Char) := return (← get).rest.head?

def skip : Read Unit := modify Cursor.advance

def next : Read (Option Char) := do
  let c ← peek
  skip
  return c

def isSpace (c : Char) : Bool := c = ' ' || c = '\n' || c = '\t' || c = '\r'

def skipSpaceOf : Text → Cursor → Cursor
  | [], c => c
  | d :: rest, c => if isSpace d then skipSpaceOf rest c.advance else c

def peekSolid : Read (Option Char) := do
  modify fun c => skipSpaceOf c.rest c
  peek

def word : Text → Read Unit
  | [] => return
  | expected :: rest => do
    match ← next with
    | none => fail .endInValue
    | some c => if c = expected then word rest else fail .badWord

def digitsOf : Text → Read Text
  | [] => return []
  | d :: rest => do
    if d.isDigit then
      skip
      return d :: (← digitsOf rest)
    else return []

def digits : Read Text := do digitsOf (← get).rest

def exponent : Read Int := do
  skip
  let negative := (← peek) = some '-'
  if negative || (← peek) = some '+' then skip
  match ← next with
  | none => fail .endInValue
  | some d =>
    if !d.isDigit then fail .badNumber
    let n : Int := Text.ofDigits 10 (d :: (← digits))
    return if negative then -n else n

def fraction : Read Text := do
  skip
  let ds ← digits
  if ds.isEmpty then
    failNext (if (← peek).isNone then .endInValue else .badNumber)
  return ds

def number (negative : Bool) : Read Scalar := do
  let whole ← match ← next with
    | none => fail .endInValue
    | some d =>
      if !d.isDigit then fail .badNumber
      if d = '0' then
        if (← peek).any Char.isDigit then failNext .badNumber
        pure [d]
      else pure (d :: (← digits))
  let places ← if (← peek) = some '.' then some <$> fraction else pure none
  let power ← if (← peek).any (·.toLower = 'e') then some <$> exponent else pure none
  let n := Text.ofDigits 10 whole
  let isInteger := places.isNone && power.isNone &&
    if negative then n ≠ 0 && Text.fitsSigned (-(n : Int)) else n ≤ Text.maxWord
  if isInteger then return .integer (if negative then -(n : Int) else n)
  let places := places.getD []
  match Real.ofDecimal negative ⟨Text.ofDigits 10 (whole ++ places), power.getD 0 - places.length⟩ with
  | .infinite _ => fail .numberTooGreat
  | x => return .real x

def skipBytes : Nat → Text → Read Unit
  | _, [] => return
  | n, c :: rest => do
    if n = 0 then return
    if n < c.utf8Size then modify fun k => { k with column := k.column + n }
    else
      skip
      skipBytes (n - c.utf8Size) rest

def hexUnit : Read Nat := do
  let rest := (← get).rest
  let four := rest.take 4
  if Text.byteSize rest < 4 then
    skipBytes (Text.byteSize rest) rest
    fail .endInString
  skipBytes 4 rest
  match Text.digits? 16 four with
  | some n => return n
  | none => fail .badEscape

/-- The character of an escape by number; two escapes make one character beyond sixteen bits. -/
def hexChar : Read Char := do
  let a ← hexUnit
  if 0xdc00 ≤ a && a ≤ 0xdfff then fail .loneSurrogate
  if a < 0xd800 || 0xdfff < a then return Char.ofNat a
  for expected in ['\\', 'u'] do
    match ← peek with
    | none => fail .endInString
    | some c =>
      skip
      if c ≠ expected then fail .halfSurrogate
  let b ← hexUnit
  if b < 0xdc00 || 0xdfff < b then fail .loneSurrogate
  return Char.ofNat (0x10000 + (a - 0xd800) * 0x400 + (b - 0xdc00))

def escape : Read Char := do
  match ← next with
  | none => fail .endInString
  | some '"' => return '"'
  | some '\\' => return '\\'
  | some '/' => return '/'
  | some 'b' => return '\x08'
  | some 'f' => return '\x0c'
  | some 'n' => return '\n'
  | some 'r' => return '\r'
  | some 't' => return '\t'
  | some 'u' => hexChar
  | some _ => fail .badEscape

def string : (fuel : Nat) → Read Text
  | 0 => fail .endInString
  | fuel + 1 => do
    match ← next with
    | none => fail .endInString
    | some '"' => return []
    | some '\\' =>
      let c ← escape
      return c :: (← string fuel)
    | some c =>
      if c.toNat < 0x20 then fail .controlCharacter
      return c :: (← string fuel)

def text : Read Text := do string ((← get).rest.length + 1)

def hasItem (first : Bool) : Read Bool := do
  match ← peekSolid with
  | none => failNext .endInList
  | some ']' => return false
  | some c =>
    if first then return true
    if c ≠ ',' then failNext .noListEnd
    skip
    match ← peekSolid with
    | some ']' => failNext .trailingComma
    | some _ => return true
    | none => failNext .endInValue

def hasKey (first : Bool) : Read Bool := do
  match ← peekSolid with
  | none => failNext .endInObject
  | some '\x7d' => return false
  | some c =>
    if first then
      if c = '"' then return true else failNext .keyNotString
    if c ≠ ',' then failNext .noObjectEnd
    skip
    match ← peekSolid with
    | some '"' => return true
    | some '\x7d' => failNext .trailingComma
    | some _ => failNext .keyNotString
    | none => failNext .endInValue

def colon : Read Unit := do
  match ← peekSolid with
  | some ':' => skip
  | some _ => failNext .noColon
  | none => failNext .endInObject

def depthLimit : Nat := 127

mutual

def value (origin : Text) : (fuel depth : Nat) → Read Setting
  | 0, _ => failNext .tooDeep
  | fuel + 1, depth => do
    let leaf (s : Scalar) : Setting := .scalar s origin
    match ← peekSolid with
    | none => failNext .endInValue
    | some 'n' => skip; word "ull".toList; return leaf .null
    | some 't' => skip; word "rue".toList; return leaf (.flag true)
    | some 'f' => skip; word "alse".toList; return leaf (.flag false)
    | some '-' => skip; return leaf (← number true)
    | some '"' => skip; return leaf (.text (← text))
    | some '[' =>
      if depth = 0 then failNext .tooDeep
      skip
      return .list (← items origin fuel (depth - 1) true) origin
    | some '\x7b' =>
      if depth = 0 then failNext .tooDeep
      skip
      return .table (← members origin fuel (depth - 1) true [])
    | some c => if c.isDigit then return leaf (← number false) else failNext .noValue

def items (origin : Text) : (fuel depth : Nat) → (first : Bool) → Read (List Setting)
  | 0, _, _ => failNext .tooDeep
  | fuel + 1, depth, first => do
    if ← hasItem first then
      let v ← value origin fuel depth
      return v :: (← items origin fuel depth false)
    else
      skip
      return []

def members (origin : Text) : (fuel depth : Nat) → (first : Bool) → List (Text × Setting) →
    Read (List (Text × Setting))
  | 0, _, _, _ => failNext .tooDeep
  | fuel + 1, depth, first, known => do
    if ← hasKey first then
      skip
      let name ← text
      colon
      let v ← value origin fuel depth
      members origin fuel depth false (Setting.update name v known)
    else
      skip
      return known

end

def finish : Read Unit := do
  if (← peekSolid).isSome then failNext .trailingText

/-- A number that cannot be told from a word of sixty-four bits with its sign is one with a fraction. -/
def asSigned : Scalar → Scalar
  | .integer n => if Text.fitsSigned n then .integer n else .real (.ofDecimal false ⟨n.toNat, 0⟩)
  | s => s

mutual

def signed : Setting → Setting
  | .scalar s origin => .scalar (asSigned s) origin
  | .list items origin => .list (signedAll items) origin
  | .table fields => .table (signedFields fields)

def signedAll : List Setting → List Setting
  | [] => []
  | v :: rest => signed v :: signedAll rest

def signedFields : List (Text × Setting) → List (Text × Setting)
  | [] => []
  | (name, v) :: rest => (name, signed v) :: signedFields rest

end

def parse (origin : Text) (s : Text) : Except Fault Setting := do
  let (v, _) ← (do
    let v ← value origin (2 * s.length + 2) depthLimit
    finish
    return v : Read Setting).run ⟨s, 1, 0⟩
  return signed v

/-! ### Single bytes -/

def byteName : Text := "u8".toList

def foundName : Scalar → Text
  | .null => "null".toList
  | s => s.description

def scalarAhead : Read Scalar := do
  match ← peekSolid with
  | none => failNext .endInValue
  | some 'n' => skip; word "ull".toList; return .null
  | some 't' => skip; word "rue".toList; return .flag true
  | some 'f' => skip; word "alse".toList; return .flag false
  | some '-' => skip; number true
  | some '"' => skip; return .text (← text)
  | some '[' => fail (.unexpected "sequence".toList byteName)
  | some '\x7b' => fail (.unexpected "map".toList byteName)
  | some c => if c.isDigit then number false else failNext .noValue

def byte (s : Text) : Except Fault Nat := do
  let (n, _) ← (do
    let found ← scalarAhead
    let n ← match found with
      | .integer n => if 0 ≤ n && n < 256 then pure n.toNat else fail (.outOfRange (foundName found) byteName)
      | other => fail (.unexpected (foundName other) byteName)
    finish
    return n : Read Nat).run ⟨s, 1, 0⟩
  return n

end CodeDigest.Json
