import CodeDigest.Rendering.Basic

/-! Packs as JSON, indented by two spaces a level. -/

namespace CodeDigest.Rendering

inductive JsonValue where
  | null
  | number (text : Text)
  | string (s : Text)
  | array (items : List JsonValue)
  | object (members : List (Text × JsonValue))

namespace JsonValue

def nat (n : Nat) : JsonValue := number (Text.ofNat n)

def escapedChar (c : Char) : Text :=
  match c with
  | '"' => ['\\', '"']
  | '\\' => ['\\', '\\']
  | '\x08' => ['\\', 'b']
  | '\x0c' => ['\\', 'f']
  | '\n' => ['\\', 'n']
  | '\r' => ['\\', 'r']
  | '\t' => ['\\', 't']
  | c =>
    if c.toNat < 0x20 then
      ['\\', 'u'] ++ List.replicate (4 - (Nat.toDigits 16 c.toNat).length) '0' ++ Nat.toDigits 16 c.toNat
    else [c]

def quoted (s : Text) : Text := '"' :: s.flatMap escapedChar ++ ['"']

def newline (depth : Nat) : Text := '\n' :: List.replicate (2 * depth) ' '

def bracketed (depth : Nat) (opening closing : Char) (items : List Text) : Text :=
  if items.isEmpty then [opening, closing]
  else
    [opening] ++ newline (depth + 1) ++ Text.joinWith (',' :: newline (depth + 1)) items
      ++ newline depth ++ [closing]

mutual

def pretty (depth : Nat) : JsonValue → Text
  | null => "null".toList
  | number text => text
  | string s => quoted s
  | array items => bracketed depth '[' ']' (prettyAll (depth + 1) items)
  | object members => bracketed depth '\x7b' '\x7d' (prettyMembers (depth + 1) members)

def prettyAll (depth : Nat) : List JsonValue → List Text
  | [] => []
  | v :: rest => pretty depth v :: prettyAll depth rest

def prettyMembers (depth : Nat) : List (Text × JsonValue) → List Text
  | [] => []
  | (name, v) :: rest => (quoted name ++ [':', ' '] ++ pretty depth v) :: prettyMembers depth rest

end

end JsonValue

open JsonValue

def jsonFile (f : PackedFile) : JsonValue :=
  object [("path".toList, string f.path),
    ("content".toList, string f.content),
    ("original_size".toList, nat f.sourceSize),
    ("compression".toList, string f.method.name.toList),
    ("language".toList, (f.language.map string).getD null)]

def jsonTally (t : Tally) : JsonValue :=
  object [("total_files".toList, nat t.files),
    ("total_original_size".toList, nat t.sourceSize),
    ("total_processed_size".toList, nat t.packedSize),
    ("languages".toList, object (t.languages.map fun (name, count) => (name, nat count))),
    ("compression_ratio".toList, number (t.ratio.text .single)),
    ("compressed_files".toList, nat t.digested),
    ("unsupported_files".toList, nat t.unsupported),
    ("fallback_files".toList, nat t.fallback)]

def json (p : Pack) : Text :=
  (object [("files".toList, array (p.files.map jsonFile)),
    ("metadata".toList, jsonTally p.tally)]).pretty 0

end CodeDigest.Rendering
