import CodeDigest.Digest

/-! Files before and after they are processed. -/

namespace CodeDigest

/-- A file as it was read; its path is relative to the root of the pack. -/
structure SourceFile where
  path : Text
  content : Text
deriving Repr, DecidableEq

inductive Method where
  | digested
  | unsupported
  /-- The file could not be digested and was kept. -/
  | fallback
  /-- No digest was asked for. -/
  | untouched
deriving Repr, DecidableEq

namespace Method

def name : Method → String
  | digested => "tree-sitter"
  | unsupported => "unsupported"
  | fallback => "fallback"
  | untouched => "none"

def all : List Method := [digested, unsupported, fallback, untouched]

def ofOutcome : Outcome → Method
  | .digested _ => digested
  | .unsupported => unsupported
  | .fallback _ => fallback

end Method

/-- A file as it goes into a pack. The size is that of the content as it was read, in bytes. -/
structure PackedFile where
  path : Text
  content : Text
  sourceSize : Nat
  method : Method
  language : Option Text
deriving Repr, DecidableEq

def SourceFile.passThrough (f : SourceFile) (language : Option Text) : PackedFile :=
  ⟨f.path, f.content, Text.byteSize f.content, .untouched, language⟩

end CodeDigest
