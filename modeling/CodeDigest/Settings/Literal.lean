import CodeDigest.Settings.Value
import CodeDigest.Text.Numeral

/-! Settings as literals with remarks and free commas, in two notations: JSON5, where a table stands in braces
and its names may lack quotes, and RON, where a record stands in round brackets. -/

namespace CodeDigest.Literal

inductive Notation where
  | json5
  | ron
deriving Repr, DecidableEq

def skipSpace : (fuel : Nat) → Text → Text
  | 0, s => s
  | fuel + 1, s =>
    match s.dropWhile fun c => CharClass.isBlank c || c = '\ufeff' with
    | '/' :: '/' :: rest => skipSpace fuel (rest.dropWhile (· ≠ '\n'))
    | '/' :: '*' :: rest =>
      match Text.find? "*/".toList rest with
      | some n => skipSpace fuel (((Text.dropBytes? rest n).getD []).drop 2)
      | none => '/' :: '*' :: rest
    | s => s

def skip (s : Text) : Text := skipSpace (s.length + 1) s

def isNameChar (c : Char) : Bool := c.isAlphanum || c = '_' || c = '$'

def takeName (s : Text) : Option (Text × Text) :=
  let name := s.takeWhile isNameChar
  if name.head?.any fun c => !c.isDigit then some (name, s.drop name.length) else none

/-! ### Texts -/

def charOf? (digits : Text) : Option Char :=
  (Text.digits? 16 digits).bind fun n => if h : n.isValidChar then some (Char.ofNatAux n h) else none

def takeHex (count : Nat) (s : Text) : Option (Char × Text) :=
  let digits := s.take count
  if digits.length = count then (charOf? digits).map fun c => (c, s.drop count) else none

def takeEscape : Text → Option (Text × Text)
  | 'b' :: rest => some (['\x08'], rest)
  | 'f' :: rest => some (['\x0c'], rest)
  | 'n' :: rest => some (['\n'], rest)
  | 'r' :: rest => some (['\r'], rest)
  | 't' :: rest => some (['\t'], rest)
  | 'v' :: rest => some (['\x0b'], rest)
  | '0' :: rest => some (['\x00'], rest)
  | 'x' :: rest => (takeHex 2 rest).map fun (c, rest) => ([c], rest)
  | 'u' :: '\x7b' :: rest =>
    let digits := rest.takeWhile (· ≠ '\x7d')
    (charOf? digits).map fun c => ([c], rest.drop (digits.length + 1))
  | 'u' :: rest => (takeHex 4 rest).map fun (c, rest) => ([c], rest)
  | '\n' :: rest => some ([], rest)
  | '\r' :: '\n' :: rest => some ([], rest)
  | c :: rest => some ([c], rest)
  | [] => none

def takeQuoted (quote : Char) : (fuel : Nat) → Text → Option (Text × Text)
  | 0, _ | _, [] => none
  | fuel + 1, c :: rest =>
    if c = quote then some ([], rest)
    else if c = '\\' then do
      let (d, rest) ← takeEscape rest
      let (s, rest) ← takeQuoted quote fuel rest
      return (d ++ s, rest)
    else (takeQuoted quote fuel rest).map fun (s, rest) => (c :: s, rest)

def takeRaw (s : Text) : Option (Text × Text) := do
  let hashes := s.takeWhile (· = '#')
  let '"' :: rest := s.drop hashes.length | none
  let size ← Text.find? ('"' :: hashes) rest
  let inner ← Text.takeBytes? rest size
  return (inner, rest.drop (inner.length + 1 + hashes.length))

/-! ### Numbers -/

def whole? (s : Text) : Option Nat :=
  match s with
  | '0' :: 'x' :: rest | '0' :: 'X' :: rest => Text.digits? 16 rest
  | '0' :: 'b' :: rest => Text.digits? 2 rest
  | '0' :: 'o' :: rest => Text.digits? 8 rest
  | s => Text.digits? 10 s

def number? (negative : Bool) (s : Text) : Option Scalar :=
  match whole? s with
  | some n =>
    let n : Int := if negative then -n else n
    if Text.fitsSigned n then some (.integer n) else none
  | none =>
    match String.ofList s with
    | "Infinity" | "inf" => some (.real (.infinite negative))
    | "NaN" => some (.real .notANumber)
    | _ => (Real.unsigned? s).map fun d => .real (.ofDecimal negative d)

def readNumber (s : Text) : Option (Scalar × Text) :=
  let (negative, rest) := Text.takeSign s
  let first := rest.takeWhile fun c => c.isAlphanum || c = '.' || c = '_'
  let after := rest.drop first.length
  /- The sign of an exponent belongs to the number. -/
  let word := match after with
    | c :: more =>
      if (c = '+' || c = '-') && (first.getLast?.any fun (d : Char) => d.toLower = 'e') && !(first.take 2 = ['0', 'x']) then
        first ++ c :: more.takeWhile Char.isDigit
      else first
    | [] => first
  (number? negative (word.filter (· ≠ '_'))).map fun v => (v, rest.drop word.length)

/-! ### Values -/

def nameOf? : Setting → Option Text
  | .scalar (.text s) _ => some s
  | .scalar (.integer n) _ => some (Scalar.integerText n)
  | .scalar (.flag b) _ => some (Scalar.flagText b)
  | _ => none

def wordOf? (n : Notation) (name : Text) : Option Scalar :=
  match n, String.ofList name with
  | _, "true" => some (.flag true)
  | _, "false" => some (.flag false)
  | .json5, "null" => some .null
  | .ron, "None" => some .null
  | .json5, "Infinity" => some (.real (.infinite false))
  | .json5, "NaN" | .ron, "NaN" => some (.real .notANumber)
  | .ron, "inf" => some (.real (.infinite false))
  | _, _ => none

def hasNames (s : Text) : Bool :=
  match takeName (skip s) with
  | some (_, rest) => (skip rest).head? = some ':'
  | none => false

mutual

def readValue (n : Notation) (origin : Text) : (fuel : Nat) → Text → Option (Setting × Text)
  | 0, _ => none
  | fuel + 1, s =>
    let leaf (r : Option (Scalar × Text)) : Option (Setting × Text) := r.map fun (v, rest) => (.scalar v origin, rest)
    let text (r : Option (Text × Text)) : Option (Setting × Text) := leaf (r.map fun (t, rest) => (.text t, rest))
    match skip s with
    | [] => none
    | '[' :: rest => (readItems n origin ']' fuel rest).map fun (items, rest) => (.list items origin, rest)
    | '\x7b' :: rest =>
      (readFields n origin '\x7d' (n = .ron) fuel [] rest).map fun (fields, rest) => (.table fields, rest)
    | '"' :: rest => text (takeQuoted '"' s.length rest)
    | '\'' :: rest => text (takeQuoted '\'' s.length rest)
    | '(' :: rest => if n = .ron then readRecord origin fuel rest else none
    | 'r' :: '"' :: rest => if n = .ron then text (takeRaw ('"' :: rest)) else none
    | 'r' :: '#' :: rest => if n = .ron then text (takeRaw ('#' :: rest)) else none
    | c :: rest =>
      match takeName (c :: rest) with
      | none => leaf (readNumber (c :: rest))
      | some (name, after) =>
        match wordOf? n name, n, skip after with
        | some v, _, _ => leaf (some (v, after))
        | none, .json5, _ => none
        | none, .ron, '(' :: inner =>
          if name = "Some".toList then do
            let (v, rest) ← readValue n origin fuel inner
            let ')' :: rest := skip rest | none
            return (v, rest)
          else readRecord origin fuel inner
        | none, .ron, _ => leaf (some (.null, after))

def readRecord (origin : Text) : (fuel : Nat) → Text → Option (Setting × Text)
  | 0, _ => none
  | fuel + 1, s =>
    if hasNames s then
      (readFields .ron origin ')' false fuel [] s).map fun (fields, rest) => (.table fields, rest)
    else
      match skip s with
      | ')' :: rest => some (.scalar .null origin, rest)
      | s => (readItems .ron origin ')' fuel s).map fun (items, rest) => (.list items origin, rest)

def readItems (n : Notation) (origin : Text) (close : Char) : (fuel : Nat) → Text → Option (List Setting × Text)
  | 0, _ => none
  | fuel + 1, s =>
    match skip s with
    | [] => none
    | c :: rest =>
      if c = close then some ([], rest)
      else do
        let (v, rest) ← readValue n origin fuel (c :: rest)
        match skip rest with
        | [] => none
        | c :: rest =>
          if c = ',' then
            let (items, rest) ← readItems n origin close fuel rest
            return (v :: items, rest)
          else if c = close then return ([v], rest)
          else none

def readFields (n : Notation) (origin : Text) (close : Char) (byValue : Bool) :
    (fuel : Nat) → List (Text × Setting) → Text → Option (List (Text × Setting) × Text)
  | 0, _, _ => none
  | fuel + 1, known, s =>
    match skip s with
    | [] => none
    | c :: rest =>
      if c = close then some (known, rest)
      else do
        let (name, rest) ←
          if byValue || c = '"' || c = '\'' then
            (readValue n origin fuel (c :: rest)).bind fun (key, rest) => (nameOf? key).map fun name => (name, rest)
          else takeName (c :: rest)
        let ':' :: rest := skip rest | none
        let (v, rest) ← readValue n origin fuel rest
        let known := Setting.update name v known
        match skip rest with
        | [] => none
        | c :: rest =>
          if c = ',' then readFields n origin close byValue fuel known rest
          else if c = close then return (known, rest)
          else none

end

def parse? (n : Notation) (origin s : Text) : Option Setting := do
  let (v, rest) ← readValue n origin (2 * s.length + 2) s
  if skip rest = [] then some v else none

end CodeDigest.Literal
