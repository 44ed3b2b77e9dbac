import CodeDigest.Source

/-! Captures: labelled regions of a source, and the categories their labels name. -/

namespace CodeDigest

structure Capture where
  label : String
  startRow : Nat
  startColumn : Nat
  endRow : Nat
  endColumn : Nat
deriving Repr, DecidableEq

namespace Capture

def Inverted (c : Capture) : Prop :=
  c.endRow < c.startRow ∨ (c.endRow = c.startRow ∧ c.endColumn < c.startColumn)

instance (c : Capture) : Decidable c.Inverted := by unfold Inverted; infer_instance

def start? (c : Capture) (s : Source) : Option Nat := s.offset? c.startRow c.startColumn

/-- The byte behind a capture; a column past its row means the row's end, and a row past the
file the file's end. -/
def stop (c : Capture) (s : Source) : Nat :=
  ((s.offset? c.endRow c.endColumn).or (s.lineEnd? c.endRow)).getD (Text.byteSize s.content)

def startsBefore (a b : Capture) : Bool :=
  a.startRow < b.startRow || (a.startRow = b.startRow && a.startColumn ≤ b.startColumn)

end Capture

/-- What kind of thing a label names, whatever the language. -/
inductive Category where
  | comment
  | docstring
  | importing
  | package
  | moduleScope
  | classType
  | interfaceType
  | structType
  | enumType
  | typeAlias
  | function
  | method
  | variable
  | constant
  | property
  | macroRule
  | selector
  | atRule
  | unknown
deriving Repr, DecidableEq

/-- The category of a label; `comment` may be qualified behind a dot. -/
def Category.ofTag (tag : String) : Category :=
  match tag with
  | "docstring" => .docstring
  | "definition.import" => .importing
  | "definition.package" => .package
  | "definition.module" => .moduleScope
  | "definition.class" => .classType
  | "definition.interface" => .interfaceType
  | "definition.struct" => .structType
  | "definition.enum" => .enumType
  | "definition.type" => .typeAlias
  | "definition.function" => .function
  | "definition.method" => .method
  | "definition.variable" => .variable
  | "definition.constant" => .constant
  | "definition.property" => .property
  | "definition.macro" => .macroRule
  | "definition.selector" => .selector
  | "definition.at_rule" => .atRule
  | "comment" => .comment
  | other => if Text.startsWith other.toList "comment.".toList then .comment else .unknown

structure CaptureKind where
  category : Category
  isName : Bool
deriving Repr, DecidableEq

def CaptureKind.ofLabel (label : String) : CaptureKind :=
  match Text.strip? "name.".toList label.toList with
  | some tag => ⟨.ofTag (String.ofList tag), true⟩
  | none => ⟨.ofTag label, false⟩

end CodeDigest
