import CodeDigest.Lexicon
import CodeDigest.Pattern.Notation

/-! The surface of a language family: how bodies open, what annotates a declaration, and how its
name and owner are read off a line. -/

namespace CodeDigest

/-- What ends the header of a declaration. -/
inductive BodyStyle where
  | brace
  | colon
  | lineEnd
deriving Repr, DecidableEq

structure Dialect where
  name : String
  body : BodyStyle
  /-- `=>` may open a body. -/
  arrowBodies : Bool
  /-- `<` and `>` enclose generic parameters in headers. -/
  angleGenerics : Bool
  /-- Functions may share a name, so that a name identifies none of them. -/
  overloading : Bool
  /-- The brackets that open the body of a declaration kept whole. -/
  blockOpeners : List Char
  /-- How the lines of annotations begin. -/
  annotationMarks : List Text
  /-- Patterns for a line that declares a function, with the groups `name` and `owner`. -/
  functionNames : List Pattern
  /-- The lines that open a scope owning the declarations indented below them. -/
  ownerPattern : Option Pattern
  /-- Words that a call-like pattern must not take for a name. -/
  keywords : List Text

structure Surface where
  dialect : Dialect
  lexicon : Lexicon

namespace Dialect

def isAnnotation (d : Dialect) (line : Text) : Bool :=
  d.annotationMarks.any fun m => Text.startsWith (Text.trimStart line) m

private def braced (name : String) (annotationMarks functionNames : List String) : Dialect where
  name := name
  body := .brace
  arrowBodies := false
  angleGenerics := false
  overloading := false
  blockOpeners := ['{']
  annotationMarks := annotationMarks.map String.toList
  functionNames := functionNames.map Pattern.ofString
  ownerPattern := none
  keywords := []

private def callKeywords : List Text :=
  ["if", "else", "elif", "for", "foreach", "while", "do", "switch", "case", "return", "sizeof",
    "alignof", "decltype", "typeof", "nameof", "catch", "new", "throw", "using", "lock", "defined",
    "static_assert", "synchronized"].map String.toList

private def calledName : String :=
  r"(?P<name>~?[A-Za-z_]\w*(?:::~?[A-Za-z_]\w*)*)\s*(?:<[^()<>]*>)?\s*\("

private def typeScope : String :=
  r"^[^;]*\b(?:class|interface|enum|record|struct|trait|namespace)\s+([A-Za-z_]\w*)[^;]*$"

def typescript : Dialect :=
  { braced "typescript" ["@"]
      [r"\bfunction\b\s*\*?\s*(?P<name>[A-Za-z_$][\w$]*)",
        r"\b(?:const|let|var)\s+(?P<name>[A-Za-z_$][\w$]*)",
        r"^\s*(?:(?:public|private|protected|static|readonly|abstract|override|async|declare|get|set|accessor)\s+)*\*?\s*(?P<name>#?[A-Za-z_$][\w$]*)\s*[?!]?\s*[<(=:]"] with
    arrowBodies := true
    angleGenerics := true
    ownerPattern := some (Pattern.ofString
      r"^\s*(?:export\s+)?(?:default\s+)?(?:declare\s+)?(?:abstract\s+)?(?:class|interface|namespace|module|function)\s*\*?\s*([A-Za-z_$][\w$]*)")
    keywords := ["if", "for", "while", "switch", "return", "catch", "typeof"].map String.toList }

def python : Dialect :=
  { braced "python" ["@"] [r"^\s*(?:async\s+)?def\s+(?P<name>[A-Za-z_]\w*)"] with
    body := .colon
    blockOpeners := []
    ownerPattern := some (Pattern.ofString r"^\s*(?:async\s+)?(?:class|def)\s+([A-Za-z_]\w*)") }

def go : Dialect :=
  { braced "go" []
      [r"^\s*func\s+(?:\(\s*(?:[A-Za-z_]\w*\s+)?\*?\s*(?P<owner>[A-Za-z_]\w*)(?:\[[^\]]*\])?\s*\)\s*)?(?P<name>[A-Za-z_]\w*)"] with
    blockOpeners := ['(', '{'] }

def rust : Dialect :=
  { braced "rust" ["#["] [r"\bfn\s+(?P<name>[A-Za-z_]\w*)"] with
    angleGenerics := true
    ownerPattern := some (Pattern.ofString
      r"^\s*(?:pub(?:\([^)]*\))?\s+)?(?:unsafe\s+)?(?:(impl\b[^\x7b]*)|trait\s+([A-Za-z_]\w*))") }

def java : Dialect :=
  { braced "java" ["@"] [calledName] with
    angleGenerics := true
    overloading := true
    ownerPattern := some (Pattern.ofString typeScope)
    keywords := callKeywords }

def c : Dialect :=
  { braced "c" ["__attribute__"] [calledName] with keywords := callKeywords }

def cpp : Dialect :=
  { java with name := "cpp", annotationMarks := ["template".toList, "[[".toList] }

def csharp : Dialect :=
  { java with name := "csharp", arrowBodies := true, annotationMarks := [['[']] }

def php : Dialect :=
  { braced "php" ["#["] [r"\bfunction\s+&?\s*(?P<name>[A-Za-z_]\w*)"] with
    ownerPattern := some (Pattern.ofString
      r"^[^;]*\b(?:class|interface|trait|enum)\s+([A-Za-z_]\w*)[^;]*$") }

def ruby : Dialect :=
  { braced "ruby" [] [r"^\s*def\s+(?:self\.)?(?P<name>[^\s(;]+)"] with
    body := .lineEnd
    blockOpeners := []
    ownerPattern := some (Pattern.ofString r"^\s*(?:class|module)\s+([A-Z][\w:]*)") }

def css : Dialect := braced "css" [] []

def all : List Dialect :=
  [typescript, python, go, rust, java, c, cpp, csharp, php, ruby, css]

end Dialect
end CodeDigest
