import CodeDigest.Number.Real
import CodeDigest.Pack.Error
import CodeDigest.Text.Lines

/-! Setting values: what a settings file or a variable says, how several of them are laid over one another,
and how a value is read as the kind that is asked for. -/

namespace CodeDigest

inductive Scalar where
  | null
  | flag (b : Bool)
  | integer (n : Int)
  | real (x : Real)
  | text (s : Text)
deriving Repr, DecidableEq

/-- A value; the origin is the place where it was found. -/
inductive Setting where
  | scalar (s : Scalar) (origin : Text)
  | list (items : List Setting) (origin : Text)
  | table (fields : List (Text × Setting))

structure SettingFault where
  problem : Text
  key : Option Text := none
  origin : Option Text := none
deriving Repr, DecidableEq

namespace SettingFault

def message (f : SettingFault) : Text :=
  f.problem
    ++ (f.key.elim [] fun key => " for key `".toList ++ key ++ ['`'])
    ++ (f.origin.elim [] fun origin => " in ".toList ++ origin)

def within (segment : Text) (f : SettingFault) : SettingFault :=
  let inner := f.key.getD []
  let dot : Text := if segment.head? = some '[' || inner = [] || inner.head? = some '[' then [] else ['.']
  { f with key := some (segment ++ dot ++ inner) }

def wrongKind (found expected : Text) (origin : Option Text := none) : SettingFault :=
  { problem := "invalid type: ".toList ++ found ++ ", expected ".toList ++ expected, origin }

end SettingFault

namespace Scalar

def quotedText (s : Text) : Text := "string ".toList ++ PackError.quoted s

def marked (kind value : Text) : Text := kind ++ " `".toList ++ value ++ ['`']

def flagText (b : Bool) : Text := (if b then "true" else "false").toList

def integerText (n : Int) : Text := (if n < 0 then ['-'] else []) ++ Text.ofNat n.natAbs

/-- What a scalar is called where its kind is not the one of a sequence or a record. -/
def description : Scalar → Text
  | null => "unit value".toList
  | flag b => marked "boolean".toList (flagText b)
  | integer n => marked "integer".toList (integerText n)
  | real x => marked "floating point".toList x.pointedText
  | text s => quotedText s

end Scalar

namespace Setting

def null : Setting := scalar .null []

def fields : Setting → List (Text × Setting)
  | table fields => fields
  | _ => []

def update (name : Text) (value : Setting) : List (Text × Setting) → List (Text × Setting)
  | [] => [(name, value)]
  | (other, old) :: rest => if name = other then (name, value) :: rest else (other, old) :: update name value rest

mutual

/-- Lays a value over another one: tables field by field, anything else as a whole. -/
def laidOn (value under : Setting) : Setting :=
  match value with
  | table fields => table (fieldsLaidOn fields under.fields)
  | other => other

def fieldsLaidOn (fields known : List (Text × Setting)) : List (Text × Setting) :=
  match fields with
  | [] => known
  | (name, value) :: rest =>
    fieldsLaidOn rest (update name (value.laidOn ((known.lookup name).getD null)) known)

end

def putAt (value : Setting) : List Text → Setting → Setting
  | [], under => value.laidOn under
  | name :: names, under =>
    table (update name (value.putAt names ((under.fields.lookup name).getD null)) under.fields)

def isNameChar (c : Char) : Bool := c.isAlphanum || c = '_' || c = '-'

/-- The names that a key with dots means. Any other key means itself. -/
def namesOf (key : Text) : List Text :=
  let names := Text.splitOn '.' key
  if names.all fun n => !n.isEmpty && n.all isNameChar then names else [key]

def addSource (base : Setting) (source : List (Text × Setting)) : Setting :=
  source.foldl (fun under (key, value) => value.putAt (namesOf key) under) base

/-! ### Reading -/

abbrev Read := Except SettingFault

def asFlag (s : Setting) : Read Bool :=
  let expected := "a boolean".toList
  match s with
  | scalar (.flag b) _ => .ok b
  | scalar (.integer n) _ => .ok (n ≠ 0)
  | scalar (.real x) _ => .ok !x.isZero
  | scalar (.text s) origin =>
    let s := Text.asciiLower s
    match String.ofList s with
    | "1" | "true" | "on" | "yes" => .ok true
    | "0" | "false" | "off" | "no" => .ok false
    | _ => .error (.wrongKind (Scalar.quotedText s) expected origin)
  | scalar .null origin => .error (.wrongKind "unit value".toList expected origin)
  | list _ origin => .error (.wrongKind "sequence".toList expected origin)
  | table _ => .error (.wrongKind "map".toList expected)

def asWord (s : Setting) : Read Nat :=
  let expected := "an unsigned 64 bit or less integer".toList
  match s with
  | scalar (.flag b) _ => .ok b.toNat
  | scalar (.integer n) origin =>
    if 0 ≤ n then .ok n.toNat
    else .error (.wrongKind (Scalar.marked "64-bit integer".toList (Scalar.integerText n)) expected origin)
  | scalar (.real x) _ => .ok x.toWord
  | scalar (.text s) origin =>
    match String.ofList (Text.asciiLower s), Text.word? s with
    | "true", _ | "on", _ | "yes", _ => .ok 1
    | "false", _ | "off", _ | "no", _ => .ok 0
    | _, some n => .ok n
    | _, none => .error (.wrongKind (Scalar.quotedText s) expected origin)
  | scalar .null origin => .error (.wrongKind "unit value".toList expected origin)
  | list _ origin => .error (.wrongKind "sequence".toList expected origin)
  | table _ => .error (.wrongKind "map".toList expected)

def asText (s : Setting) : Read Text :=
  let expected := "a string".toList
  match s with
  | scalar (.text s) _ => .ok s
  | scalar (.flag b) _ => .ok (Scalar.flagText b)
  | scalar (.integer n) _ => .ok (Scalar.integerText n)
  | scalar (.real x) _ => .ok x.text
  | scalar .null origin => .error (.wrongKind "unit value".toList expected origin)
  | list _ origin => .error (.wrongKind "sequence".toList expected origin)
  | table _ => .error (.wrongKind "map".toList expected)

def segmentOf (index : Nat) : Text := '[' :: Text.ofNat index ++ [']']

def within (segment : Text) (r : Read α) : Read α := r.mapError (·.within segment)

def asTexts : Setting → Read (List Text)
  | list items _ => (items.zipIdx).mapM fun (item, i) => within (segmentOf i) item.asText
  | scalar s _ => .error (.wrongKind s.description "a sequence".toList)
  | table _ => .error (.wrongKind "map".toList "a sequence".toList)

def asOptional (read : Setting → Read α) : Setting → Read (Option α)
  | scalar .null _ => .ok none
  | s => some <$> read s

/-- A record: its fields stand in a table by name, or in a list in their order. -/
structure Record where
  typeName : Text
  fieldCount : Nat
  value : Setting

def asRecord (typeName : Text) (fieldCount : Nat) (s : Setting) : Read Record :=
  match s with
  | scalar found _ => .error (.wrongKind found.description ("struct ".toList ++ typeName))
  | value => .ok ⟨typeName, fieldCount, value⟩

/-- Reads the field with a name and a number. A field without a default has to stand in a list, but need
not stand in a table. -/
def Record.field (r : Record) (index : Nat) (name : Text) (read : Setting → Read α) (absent : α)
    (hasDefault : Bool) : Read α :=
  match r.value with
  | list items _ =>
    match items[index]? with
    | some item => within (segmentOf index) (read item)
    | none =>
      if hasDefault then .ok absent
      else
        let count := Text.ofNat r.fieldCount ++ (if r.fieldCount = 1 then " element" else " elements").toList
        .error { problem := "invalid length ".toList ++ Text.ofNat index ++ ", expected struct ".toList
          ++ r.typeName ++ " with ".toList ++ count }
  | other =>
    match other.fields.lookup name with
    | some value => within name (read value)
    | none => .ok absent

/-- One of some names, alone or as the only field of a table. -/
def asChoice (typeName : Text) (choices : List (Text × α)) (s : Setting) : Read α :=
  let name : Read Text := match s with
    | scalar (.text name) _ => .ok name
    | table [(name, _)] => .ok name
    | _ => .error { problem := "value of enum ".toList ++ typeName
        ++ " should be represented by either string or table with exactly one key".toList }
  name.bind fun name =>
    match choices.lookup name with
    | some choice => .ok choice
    | none => .error { problem := "enum ".toList ++ typeName
        ++ " does not have variant constructor ".toList ++ name }

end Setting
end CodeDigest
