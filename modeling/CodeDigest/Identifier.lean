import CodeDigest.Dialect
import CodeDigest.Source

/-! Names of declarations and of the scopes that own them, read off lines of text. -/

namespace CodeDigest

/-- A declared name and, for a method with a receiver, the type that owns it. -/
structure Identifier where
  name : Text
  owner : Option Text
deriving Repr, DecidableEq

namespace Identifier

/-- The name in a match, unless it is a keyword or stands right behind an `@`. -/
def ofMatch? (keywords : List Text) (m : Pattern.Match) (line : Text) : Option Identifier :=
  (m.named? "name").bind fun name =>
    if (line.take name.start).getLast? = some '@' || keywords.contains name.text then none
    else some ⟨name.text, (m.named? "owner").map (·.text)⟩

def inLine? (d : Dialect) (line : Text) : Option Identifier :=
  d.functionNames.findSome? fun p =>
    (Pattern.allMatches p line).findSome? fun m => ofMatch? d.keywords m line

/-- The name that a signature declares. Annotation lines are tried last. -/
def ofSignature? (d : Dialect) (signature : Text) : Option Identifier :=
  let parts := (Text.lines signature).partition (d.isAnnotation ·)
  (parts.2 ++ parts.1).findSome? (inLine? d)

end Identifier

namespace Owner

def indentation (line : Text) : Nat := Text.byteSize (line.takeWhile CharClass.isBlank)

/-- Lines that open no scope and close none: blank lines, a lone brace, comments. -/
def isNoise (line : Text) : Bool :=
  let body := Text.trim line
  body.isEmpty || body = ['{']
    || [['/', '/'], ['#'], ['/', '*'], ['*']].any (Text.startsWith body)

def firstNamed? (groups : List Text) : Option Text :=
  (groups.map Text.trim).find? fun g => !g.isEmpty

/-- Walks up from the row below which `indent` was seen, to less and less indented rows, until one
matches. -/
def walkUp (groupsOf : Text → Option (List Text)) (s : Source) : Nat → Nat → Option Text
  | 0, _ => none
  | row + 1, indent =>
    if indent = 0 then none
    else
      match s.line? row with
      | none => none
      | some line =>
        if isNoise line || indent ≤ indentation line then walkUp groupsOf s row indent
        else
          match groupsOf line with
          | some groups => firstNamed? groups
          | none => walkUp groupsOf s row (indentation line)

/-- The owner of the declaration on a row: what the nearest enclosing row that matches names. -/
def enclosing? (groupsOf : Text → Option (List Text)) (s : Source) (row : Nat) : Option Text :=
  (s.line? row).bind fun line => walkUp groupsOf s row (indentation line)

end Owner

def Dialect.ownerGroups? (d : Dialect) (line : Text) : Option (List Text) :=
  (d.ownerPattern.bind (Pattern.firstMatch? · line)).map (·.groupTexts)

def Dialect.enclosingOwner? (d : Dialect) (s : Source) (row : Nat) : Option Text :=
  if d.ownerPattern.isNone then none else Owner.enclosing? d.ownerGroups? s row

end CodeDigest
