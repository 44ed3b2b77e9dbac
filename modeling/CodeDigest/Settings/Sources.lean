import CodeDigest.Settings.Ini
import CodeDigest.Settings.Json
import CodeDigest.Settings.Literal
import CodeDigest.Settings.Surroundings
import CodeDigest.Settings.Toml
import CodeDigest.Settings.Yaml

/-! Where settings come from: files, each laid over the ones before it, and then variables. -/

namespace CodeDigest.Sources

def fileName : Text := "structpack.toml".toList

def userFile? (w : Surroundings) : Option Text :=
  ((w.settingsFolder? false).map fun f => Path.join f "structpack/config.toml".toList).filter w.isThere

def repositoryFile? (w : Surroundings) : Option Text :=
  (w.repositoryRoot?.map fun p => Surroundings.absolute (p ++ [fileName])).filter w.isThere

def areSame (w : Surroundings) (a b : Text) : Bool :=
  match w.volume.locate w.folder a, w.volume.locate w.folder b with
  | .ok a, .ok b => a = b
  | _, _ => false

/-- The settings files in their order; a later one counts for more. -/
def files (w : Surroundings) (named : Option Text) : List Text :=
  let found := (userFile? w).toList ++ (repositoryFile? w).toList
  let here := if w.isThere fileName && !found.any (areSame w · fileName) then [fileName] else []
  found ++ here ++ named.toList

/-! ### Files -/

inductive Format where
  | toml
  | json
  | yaml
  | ini
  | literal (n : Literal.Notation)
deriving Repr, DecidableEq

def formats : List (Text × Format) :=
  [("toml".toList, .toml), ("json".toList, .json), ("yaml".toList, .yaml), ("yml".toList, .yaml),
    ("ini".toList, .ini), ("ron".toList, .literal .ron), ("json5".toList, .literal .json5)]

def stepsFrom : (base path : List Text) → List Text
  | b :: base, p :: path =>
    if b = p then stepsFrom base path else (b :: base).map (fun _ => ['.', '.']) ++ p :: path
  | base, path => base.map (fun _ => ['.', '.']) ++ path

/-- The name of a settings file in messages: its path from the working folder. -/
def originOf (w : Surroundings) (path : Text) : Text :=
  let full := Path.join (Surroundings.absolute w.folder) path
  Text.joinWith ['/'] (stepsFrom w.folder (Path.components full))

/-- A settings file and its format. A path that is no file may lack its extension. -/
def find (w : Surroundings) (path : Text) : Except PackError (Text × Format) :=
  if w.isFile path then
    match formats.lookup ((Path.extension? path).getD []) with
    | some format => .ok (path, format)
    | none =>
      .error (.config ("configuration file \"".toList
        ++ Path.join (Surroundings.absolute w.folder) path ++ "\" is not of a supported file format".toList))
  else
    match formats.find? fun (extension, _) => w.isFile (path ++ '.' :: extension) with
    | some (extension, format) => .ok (path ++ '.' :: extension, format)
    | none => .error (.config ("configuration file \"".toList ++ path ++ "\" not found".toList))

def textOf (bytes : ByteArray) : Text :=
  let s := match String.fromUTF8? bytes with
    | some s => s.toList
    | none => bytes.toList.map fun b => if b < 0x80 then Char.ofNat b.toNat else '\ufffd'
  if s.head? = some '\ufeff' then s.tail else s

def unreadable (problem origin : Text) : PackError := .config (problem ++ " in ".toList ++ origin)

/-- What a value is called that is no table, where a file has to be one. -/
def rootName : Setting → Text
  | .scalar (.integer n) _ => Scalar.marked "64-bit integer".toList (Scalar.integerText n)
  | .scalar (.real x) _ => Scalar.marked "floating point".toList x.text
  | .scalar s _ => s.description
  | .list .. => "sequence".toList
  | .table _ => "map".toList

def malformed (name : String) : Text := name.toList ++ " parse error".toList

def valueIn (format : Format) (origin s : Text) : Except Text Setting :=
  let orMalformed (name : String) (v : Option Setting) : Except Text Setting :=
    v.elim (.error (malformed name)) .ok
  match format with
  | .toml => orMalformed "TOML" ((Toml.parse? origin s).map .table)
  | .json => (Json.parse origin s).mapError Json.Fault.message
  | .yaml => orMalformed "YAML" (Yaml.parse? origin s)
  | .ini => orMalformed "INI" ((Ini.parse? origin s).map .table)
  | .literal .ron => orMalformed "RON" (Literal.parse? .ron origin s)
  | .literal .json5 => orMalformed "JSON5" (Literal.parse? .json5 origin s)

def parse (format : Format) (origin s : Text) : Except PackError (List (Text × Setting)) :=
  match valueIn format origin s with
  | .error problem => .error (unreadable problem origin)
  | .ok (.table fields) => .ok fields
  | .ok other => .error (unreadable (SettingFault.wrongKind (rootName other) "a map".toList origin).message origin)

def readFile (w : Surroundings) (path : Text) : Except PackError (List (Text × Setting)) := do
  let (path, format) ← find w path
  let bytes ← (w.read path).mapError fun fault => .config fault.message
  parse format (originOf w path) (textOf bytes)

/-! ### Variables -/

def variableLead : Text := "structpack__".toList

/-- A key of settings: two underscores are a dot. -/
def dotted : Text → Text
  | '_' :: '_' :: rest => '.' :: dotted rest
  | c :: rest => c :: dotted rest
  | [] => []

def listKeys : List Text := ["include.patterns".toList, "exclude.patterns".toList]

def variableOrigin : Text := "the environment".toList

/-- The value of a variable: a flag, a number, a list or a text, whichever it reads as first. -/
def valueOf (key value : Text) : Setting :=
  let leaf (s : Scalar) : Setting := .scalar s variableOrigin
  match String.ofList (Text.asciiLower value), Text.signedWord? value, Real.ofText? value with
  | "true", _, _ => leaf (.flag true)
  | "false", _, _ => leaf (.flag false)
  | _, some n, _ => leaf (.integer n)
  | _, none, some x => leaf (.real x)
  | _, none, none =>
    if listKeys.contains key then .list ((Text.splitOn ',' value).map fun s => leaf (.text s)) variableOrigin
    else leaf (.text value)

def ofEnvironment (w : Surroundings) : List (Text × Setting) :=
  w.environment.filterMap fun (name, value) =>
    (Text.strip? variableLead (Text.asciiLower name)).map fun key => (dotted key, valueOf (dotted key) value)

/-! ### All together -/

def load (w : Surroundings) (named : Option Text) : Except PackError Setting := do
  match named with
  | some path => if !w.isThere path then throw (.config ("Config file not found: ".toList ++ path))
  | none => pure ()
  let read ← (files w named).mapM (readFile w)
  return (read ++ [ofEnvironment w]).foldl Setting.addSource (.table [])

end CodeDigest.Sources
