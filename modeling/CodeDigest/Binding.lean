import CodeDigest.Pattern.Notation

/-! What the value of a binding is, judged from its text. -/

namespace CodeDigest.Binding

def functionValue : Pattern :=
  Pattern.ofString r"=\s*(?:async\s+)?(?:function\b|\(|[A-Za-z_$][\w$]*\s*=>)"

def declaration : Pattern :=
  Pattern.ofString r"^\s*(?:export\s+)?(?:declare\s+)?(?:const|let|var)\b"

def functionMember : Pattern :=
  Pattern.ofString
    r"(?m)=>|\bfunction\b|^\s*(?:(?:async|static|get|set)\s+)*\*?\s*[A-Za-z_$][\w$]*\s*\([^)]*\)\s*(?::[^\x7b\n]*)?\x7b"

def functionLiteral : Pattern := Pattern.ofString r"^\s*var\s+[^=\n]*=\s*func\s*\("

def isFunctionValue (s : Text) : Bool := Pattern.isMatch functionValue s

def isBinding (s : Text) : Bool := Pattern.isMatch declaration s

def holdsFunctionMembers (s : Text) : Bool :=
  Pattern.isMatch functionMember ((s.dropWhile (· ≠ '\n')).drop 1)

def isFunctionLiteral (s : Text) : Bool := Pattern.isMatch functionLiteral s

end CodeDigest.Binding
