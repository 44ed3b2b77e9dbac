import CodeDigest.Settings.Value
import CodeDigest.Text.Numeral

/-! Settings in INI files: names with values, under the names of sections. Every value is a text. -/

namespace CodeDigest.Ini

def isSpace (c : Char) : Bool := c = ' ' || c = '\t' || c = '\n' || c = '\r'

/-- The character that an escape stands for, after its backslash; none where the escape joins two lines. -/
def takeEscape : Text → Option (Option Char × Text)
  | [] => none
  | 'x' :: rest =>
    let digits := rest.take 4
    (Text.digits? 16 digits).bind fun n =>
      if h : n.isValidChar then
        if digits.length = 4 then some (some (Char.ofNatAux n h), rest.drop 4) else none
      else none
  | '0' :: rest => some (some '\x00', rest)
  | 'a' :: rest => some (some '\x07', rest)
  | 'b' :: rest => some (some '\x08', rest)
  | 't' :: rest => some (some '\t', rest)
  | 'r' :: rest => some (some '\r', rest)
  | 'n' :: rest => some (some '\n', rest)
  | '\n' :: rest => some (none, rest)
  | c :: rest => some (some c, rest)

def takeUntil (stops : List Char) (mayEnd : Bool) : (fuel : Nat) → Text → Option (Text × Text)
  | 0, _ => none
  | _ + 1, [] => if mayEnd then some ([], []) else none
  | fuel + 1, c :: rest =>
    if stops.contains c then some ([], c :: rest)
    else if c = '\\' then do
      let (d, rest) ← takeEscape rest
      let (s, rest) ← takeUntil stops mayEnd fuel rest
      return (d.toList ++ s, rest)
    else (takeUntil stops mayEnd fuel rest).map fun (s, rest) => (c :: s, rest)

def takeValue (s : Text) : Option (Text × Text) := do
  let s := s.dropWhile fun c => c = ' ' || c = '\t'
  let fuel := s.length + 1
  match s with
  | quote :: rest =>
    if quote = '"' || quote = '\'' then
      let (inner, rest) ← takeUntil [quote] false fuel rest
      let (after, rest) ← takeUntil ['\n'] true fuel (rest.drop 1)
      return (inner ++ Text.trimEndBy isSpace after, rest)
    else
      let (value, rest) ← takeUntil ['\n'] true fuel s
      return (Text.trimBy isSpace value, rest)
  | [] => return ([], [])

structure Document where
  fields : List (Text × Setting) := []
  open? : Option Text := none

/-- Opens a section. A section that comes again starts anew. -/
def Document.openSection (d : Document) (name : Text) : Document :=
  ⟨Setting.update name (.table []) d.fields, some name⟩

def Document.add (d : Document) (name : Text) (value : Setting) : Document :=
  match d.open? with
  | none => { d with fields := Setting.update name value d.fields }
  | some name_ =>
    let inner := ((d.fields.lookup name_).getD .null).fields
    { d with fields := Setting.update name_ (.table (Setting.update name value inner)) d.fields }

def readDocument (origin : Text) : (fuel : Nat) → Document → Text → Option Document
  | 0, _, _ => none
  | fuel + 1, d, s =>
    match s.dropWhile isSpace with
    | [] => some d
    | '[' :: rest => do
      let (name, rest) ← takeUntil [']'] false s.length rest
      readDocument origin fuel (d.openSection (Text.trimBy isSpace name)) (rest.drop 1)
    | c :: rest =>
      if c = ';' || c = '#' then readDocument origin fuel d (rest.dropWhile (· ≠ '\n'))
      else do
        let (name, rest) ← takeUntil ['=', ':'] false (s.length + 1) (c :: rest)
        let name := Text.trimBy isSpace name
        if name = [] then none
        let (value, rest) ← takeValue (rest.drop 1)
        readDocument origin fuel (d.add name (.scalar (.text value) origin)) rest

def parse? (origin : Text) (s : Text) : Option (List (Text × Setting)) :=
  (readDocument origin (s.length + 1) {} s).map (·.fields)

end CodeDigest.Ini
