import CodeDigest.Settings.Value
import CodeDigest.Text.Numeral

/-! Settings in TOML: keys with values, under headers of tables. A reader takes something from the start of
a text and gives what follows it, or nothing where the text is not well formed. -/

namespace CodeDigest.Toml

/-! ### Space -/

def isSpace (c : Char) : Bool := c = ' ' || c = '\t'

def isPlain (c : Char) : Bool := c = '\t' || (0x20 ≤ c.toNat && c.toNat ≠ 0x7f)

def skipSpace (s : Text) : Text := s.dropWhile isSpace

def takeLineEnd? : Text → Option Text
  | '\n' :: rest => some rest
  | '\r' :: '\n' :: rest => some rest
  | _ => none

def skipRemark (s : Text) : Text :=
  match s with
  | '#' :: rest => rest.dropWhile isPlain
  | _ => s

def skipLines : (fuel : Nat) → Text → Text
  | 0, s => s
  | fuel + 1, s =>
    let s := skipRemark (skipSpace s)
    match takeLineEnd? s with
    | some rest => skipLines fuel rest
    | none => s

def endLine? (s : Text) : Option Text :=
  let s := skipRemark (skipSpace s)
  if s = [] then some [] else takeLineEnd? s

/-! ### Strings -/

def charOfHex? (digits : Text) : Option Char :=
  (Text.digits? 16 digits).bind fun n => if h : n.isValidChar then some (Char.ofNatAux n h) else none

def takeHex (count : Nat) (s : Text) : Option (Char × Text) :=
  let digits := s.take count
  if digits.length = count then (charOfHex? digits).map fun c => (c, s.drop count) else none

def takeEscape : Text → Option (Char × Text)
  | 'b' :: rest => some ('\x08', rest)
  | 't' :: rest => some ('\t', rest)
  | 'n' :: rest => some ('\n', rest)
  | 'f' :: rest => some ('\x0c', rest)
  | 'r' :: rest => some ('\r', rest)
  | 'e' :: rest => some ('\x1b', rest)
  | '"' :: rest => some ('"', rest)
  | '\\' :: rest => some ('\\', rest)
  | 'x' :: rest => takeHex 2 rest
  | 'u' :: rest => takeHex 4 rest
  | 'U' :: rest => takeHex 8 rest
  | _ => none

/-- The rest of a string on one line, with escapes unless it is `raw`. -/
def takeString (quote : Char) (raw : Bool) : (fuel : Nat) → Text → Option (Text × Text)
  | 0, _ | _, [] => none
  | fuel + 1, c :: rest =>
    if c = quote then some ([], rest)
    else if c = '\\' && !raw then do
      let (d, rest) ← takeEscape rest
      let (s, rest) ← takeString quote raw fuel rest
      return (d :: s, rest)
    else if isPlain c then (takeString quote raw fuel rest).map fun (s, rest) => (c :: s, rest)
    else none

def joinsLines? (s : Text) : Option Text :=
  (takeLineEnd? (skipSpace s)).map fun rest => rest.dropWhile fun c => isSpace c || c = '\n' || c = '\r'

/-- The rest of a string between three quotes each. Up to two quotes before its end belong to it. -/
def takeBlock (quote : Char) (raw : Bool) : (fuel : Nat) → Text → Option (Text × Text)
  | 0, _ | _, [] => none
  | fuel + 1, c :: rest =>
    let next (d : Text) (rest : Text) := (takeBlock quote raw fuel rest).map fun (s, rest) => (d ++ s, rest)
    if c = quote then
      let run := (c :: rest).takeWhile (· = quote)
      if run.length < 3 then next [c] rest
      else if 5 < run.length then none
      else some (run.drop 3, (c :: rest).drop run.length)
    else if c = '\\' && !raw then
      match joinsLines? rest with
      | some rest => next [] rest
      | none => (takeEscape rest).bind fun (d, rest) => next [d] rest
    else
      match takeLineEnd? (c :: rest) with
      | some rest => next ['\n'] rest
      | none => if isPlain c then next [c] rest else none

def readString (s : Text) : Option (Text × Text) :=
  let block (quote : Char) (rest : Text) :=
    takeBlock quote (quote = '\'') (s.length + 1) ((takeLineEnd? rest).getD rest)
  match s with
  | '"' :: '"' :: '"' :: rest => block '"' rest
  | '\'' :: '\'' :: '\'' :: rest => block '\'' rest
  | '"' :: rest => takeString '"' false s.length rest
  | '\'' :: rest => takeString '\'' true s.length rest
  | _ => none

/-! ### Keys -/

def readKeyPart (s : Text) : Option (Text × Text) :=
  match s with
  | '"' :: '"' :: '"' :: _ | '\'' :: '\'' :: '\'' :: _ => none
  | '"' :: _ | '\'' :: _ => readString s
  | _ =>
    let name := s.takeWhile Setting.isNameChar
    if name = [] then none else some (name, s.drop name.length)

/-- Names with dots between them; space may stand around the dots. -/
def readKey : (fuel : Nat) → Text → Option ((List Text) × Text)
  | 0, _ => none
  | fuel + 1, s => do
    let (name, rest) ← readKeyPart (skipSpace s)
    match skipSpace rest with
    | '.' :: rest =>
      let (names, rest) ← readKey fuel rest
      return (name :: names, rest)
    | rest => return ([name], rest)

/-! ### Scalars -/

def isWordChar (c : Char) : Bool := c.isAlphanum || c = '_' || c = '-' || c = '+' || c = '.' || c = ':'

def plainDigits? (base : Nat) (s : Text) : Option Text :=
  let groups := Text.splitOn '_' s
  if groups.all fun g => !g.isEmpty && g.all (Text.isDigitOf base) then some groups.flatten else none

def wholeDigits? (s : Text) : Option Text :=
  (plainDigits? 10 s).bind fun d => if d.head? = some '0' && 1 < d.length then none else some d

def integer? (s : Text) : Option Int := do
  let n : Int ← match s with
    | '0' :: 'x' :: rest => (plainDigits? 16 rest).map fun d => (Text.ofDigits 16 d : Int)
    | '0' :: 'o' :: rest => (plainDigits? 8 rest).map fun d => (Text.ofDigits 8 d : Int)
    | '0' :: 'b' :: rest => (plainDigits? 2 rest).map fun d => (Text.ofDigits 2 d : Int)
    | s =>
      let (negative, rest) := Text.takeSign s
      (wholeDigits? rest).map fun d => if negative then -(Text.ofDigits 10 d : Int) else Text.ofDigits 10 d
  if Text.fitsSigned n then some n else none

def real? (s : Text) : Option Real :=
  let (negative, rest) := Text.takeSign s
  match String.ofList rest with
  | "inf" => some (.infinite negative)
  | "nan" => some .notANumber
  | _ => do
    let whole := rest.takeWhile fun c => c.isDigit || c = '_'
    let rest := rest.drop whole.length
    let whole ← wholeDigits? whole
    let (fraction, rest) ← match rest with
      | '.' :: rest =>
        let f := rest.takeWhile fun c => c.isDigit || c = '_'
        (plainDigits? 10 f).map fun d => (d, rest.drop f.length)
      | rest => some ([], rest)
    let power : Int ← match rest with
      | [] => if fraction = [] then none else some 0
      | c :: rest =>
        let (negative, digits) := Text.takeSign rest
        if c.toLower ≠ 'e' then none
        else (plainDigits? 10 digits).map fun d =>
          if negative then -(Text.ofDigits 10 d : Int) else Text.ofDigits 10 d
    return .ofDecimal negative ⟨Text.ofDigits 10 (whole ++ fraction), power - fraction.length⟩

def numbers? (widths : List Nat) (pieces : List Text) : Option (List Nat) :=
  if widths = pieces.map List.length then pieces.mapM (Text.digits? 10) else none

def isDate (s : Text) : Bool :=
  match numbers? [4, 2, 2] (Text.splitOn '-' s) with
  | some [year, month, day] =>
    let leap := year % 4 = 0 && (year % 100 ≠ 0 || year % 400 = 0)
    let days := [31, if leap then 29 else 28, 31, 30, 31, 30, 31, 31, 30, 31, 30, 31]
    1 ≤ day && (match days[month - 1]? with | some last => month ≠ 0 && day ≤ last | none => false)
  | _ => false

def isClock (s : Text) : Bool :=
  let whole := s.takeWhile (· ≠ '.')
  let fractionIsFine := match s.drop whole.length with
    | [] => true
    | _ :: digits => whole.length = 8 && !digits.isEmpty && digits.all Char.isDigit
  fractionIsFine && match Text.splitOn ':' whole with
    | [h, m] => ((numbers? [2, 2] [h, m]).map fun n => n.headD 0 < 24 && n.getD 1 0 < 60).getD false
    | pieces =>
      ((numbers? [2, 2, 2] pieces).map fun n => n.headD 0 < 24 && n.getD 1 0 < 60 && n.getD 2 0 < 61).getD false

def zoned? (s : Text) : Option Text :=
  let clock := s.takeWhile fun c => c.isDigit || c = ':' || c = '.'
  let zone := s.drop clock.length
  let zoneIsFine := match zone with
    | [] | ['Z'] | ['z'] => true
    | c :: rest => (c = '+' || c = '-') && rest.length = 5 && isClock rest
  if isClock clock && zoneIsFine then some (clock ++ zone.map Char.toUpper) else none

def date? (s : Text) : Option Text :=
  let date := s.take 10
  match s.drop 10 with
  | [] => if isDate s then some s else if isClock s then some s else none
  | c :: rest =>
    if isDate date && (c = 'T' || c = 't' || c = ' ') then (zoned? rest).map fun time => date ++ 'T' :: time
    else if isClock s then some s
    else none

def scalar? (s : Text) : Option Scalar :=
  match String.ofList s with
  | "true" => some (.flag true)
  | "false" => some (.flag false)
  | _ =>
    (((integer? s).map .integer).or ((real? s).map .real)).or ((date? s).map .text)

/-- A number, a date or a word; a date may be followed by a space and a time. -/
def readScalar (s : Text) : Option (Scalar × Text) :=
  let word := s.takeWhile isWordChar
  let rest := s.drop word.length
  let longer := match rest with
    | ' ' :: after =>
      let time := after.takeWhile isWordChar
      if isDate word && time.head?.any Char.isDigit then some (word ++ ' ' :: time, after.drop time.length)
      else none
    | _ => none
  let (word, rest) := longer.getD (word, rest)
  (scalar? word).map fun v => (v, rest)

/-! ### Tables -/

inductive Making where
  /-- By the header of a table in it. -/
  | implied
  /-- By its own header. -/
  | header
  /-- By a key with dots. -/
  | dotted
deriving Repr, DecidableEq

inductive Node where
  | value (v : Setting)
  | table (making : Making) (fields : List (Text × Node))
  /-- Tables under one header; the last one is open. -/
  | series (ended : List (List (Text × Node))) (current : List (Text × Node))

namespace Node

def replace (name : Text) (node : Node) : List (Text × Node) → List (Text × Node)
  | [] => [(name, node)]
  | (other, old) :: rest => if name = other then (name, node) :: rest else (other, old) :: replace name node rest

/-- Adds a value under a key; tables on the way must not have a header of their own. -/
def addValue (v : Setting) : List Text → List (Text × Node) → Option (List (Text × Node))
  | [], _ => none
  | [name], fields => if (fields.lookup name).isSome then none else some (fields ++ [(name, .value v)])
  | name :: names, fields =>
    match fields.lookup name with
    | none => (addValue v names []).map fun inner => fields ++ [(name, .table .dotted inner)]
    | some (.table making inner) =>
      if making = .header then none
      else (addValue v names inner).map fun inner => replace name (.table making inner) fields
    | some _ => none

/-- Opens the table of a header, or one more of a series. -/
def openTable (inSeries : Bool) : List Text → List (Text × Node) → Option (List (Text × Node))
  | [], _ => none
  | [name], fields =>
    match inSeries, fields.lookup name with
    | false, none => some (fields ++ [(name, .table .header [])])
    | false, some (.table .implied inner) => some (replace name (.table .header inner) fields)
    | true, none => some (fields ++ [(name, .series [] [])])
    | true, some (.series ended current) => some (replace name (.series (ended ++ [current]) []) fields)
    | _, _ => none
  | name :: names, fields =>
    match fields.lookup name with
    | none => (openTable inSeries names []).map fun inner => fields ++ [(name, .table .implied inner)]
    | some (.table making inner) =>
      (openTable inSeries names inner).map fun inner => replace name (.table making inner) fields
    | some (.series ended current) =>
      (openTable inSeries names current).map fun inner => replace name (.series ended inner) fields
    | some (.value _) => none

def inTable (change : List (Text × Node) → Option (List (Text × Node))) :
    List Text → List (Text × Node) → Option (List (Text × Node))
  | [], fields => change fields
  | name :: names, fields =>
    match fields.lookup name with
    | some (.table making inner) =>
      (inTable change names inner).map fun inner => replace name (.table making inner) fields
    | some (.series ended current) =>
      (inTable change names current).map fun inner => replace name (.series ended inner) fields
    | _ => none

mutual

def setting (origin : Text) : Node → Setting
  | value v => v
  | table _ fields => .table (settings origin fields)
  | series ended current => .list (lists origin ended ++ [.table (settings origin current)]) origin

def settings (origin : Text) : List (Text × Node) → List (Text × Setting)
  | [] => []
  | (name, node) :: rest => (name, setting origin node) :: settings origin rest

def lists (origin : Text) : List (List (Text × Node)) → List Setting
  | [] => []
  | fields :: rest => .table (settings origin fields) :: lists origin rest

end

end Node

/-! ### Values and documents -/

mutual

def readValue (origin : Text) : (fuel : Nat) → Text → Option (Setting × Text)
  | 0, _ => none
  | fuel + 1, s =>
    match s with
    | '[' :: rest => (readItems origin fuel rest).map fun (items, rest) => (.list items origin, rest)
    | '\x7b' :: rest =>
      (readFields origin fuel [] rest).map fun (fields, rest) => (.table (Node.settings origin fields), rest)
    | '"' :: _ | '\'' :: _ => (readString s).map fun (t, rest) => (.scalar (.text t) origin, rest)
    | s => (readScalar s).map fun (v, rest) => (.scalar v origin, rest)

def readItems (origin : Text) : (fuel : Nat) → Text → Option ((List Setting) × Text)
  | 0, _ => none
  | fuel + 1, s =>
    match skipLines s.length s with
    | ']' :: rest => some ([], rest)
    | s => do
      let (v, rest) ← readValue origin fuel s
      match skipLines rest.length rest with
      | ',' :: rest =>
        let (items, rest) ← readItems origin fuel rest
        return (v :: items, rest)
      | ']' :: rest => return ([v], rest)
      | _ => none

def readFields (origin : Text) : (fuel : Nat) → List (Text × Node) → Text → Option ((List (Text × Node)) × Text)
  | 0, _, _ => none
  | fuel + 1, known, s =>
    match skipLines s.length s with
    | '\x7d' :: rest => some (known, rest)
    | s => do
      let (names, rest) ← readKey s.length s
      let '=' :: rest := skipSpace rest | none
      let (v, rest) ← readValue origin fuel (skipSpace rest)
      let known ← Node.addValue v names known
      match skipLines rest.length rest with
      | ',' :: rest => readFields origin fuel known rest
      | '\x7d' :: rest => return (known, rest)
      | _ => none

end

structure Document where
  fields : List (Text × Node) := []
  header : List Text := []

def readHeader (d : Document) (s : Text) : Option (Document × Text) := do
  let (inSeries, s) := match s with
    | '[' :: rest => (true, rest)
    | s => (false, s)
  let (names, rest) ← readKey s.length s
  let ']' :: rest := skipSpace rest | none
  let rest ← if inSeries then (match rest with | ']' :: rest => some rest | _ => none) else some rest
  let fields ← Node.openTable inSeries names d.fields
  return (⟨fields, names⟩, rest)

def readPair (origin : Text) (d : Document) (s : Text) : Option (Document × Text) := do
  let (names, rest) ← readKey s.length s
  let '=' :: rest := skipSpace rest | none
  let (v, rest) ← readValue origin (s.length + 1) (skipSpace rest)
  let fields ← Node.inTable (Node.addValue v names) d.header d.fields
  return ({ d with fields }, rest)

def readDocument (origin : Text) : (fuel : Nat) → Document → Text → Option Document
  | 0, _, _ => none
  | fuel + 1, d, s =>
    match skipLines s.length s with
    | [] => some d
    | s => do
      let (d, rest) ← match s with
        | '[' :: rest => readHeader d rest
        | s => readPair origin d s
      let rest ← endLine? rest
      readDocument origin fuel d rest

def parse? (origin : Text) (s : Text) : Option (List (Text × Setting)) :=
  (readDocument origin (s.length + 1) {} s).map fun d => Node.settings origin d.fields

end CodeDigest.Toml
