import CodeDigest.Classification
import CodeDigest.Syntax.QueryNotation

/-! Languages: what it takes to digest a file of one. -/

namespace CodeDigest

structure Language where
  name : Text
  extensions : List Text
  grammar : Syntax.Grammar
  /-- Which nodes to capture, and under which labels. -/
  query : Text
  reading : Reading

namespace Language

def compiledQuery (l : Language) : Except DigestError Syntax.Query :=
  match Syntax.QueryNotation.parse l.grammar l.query with
  | .ok q => .ok q
  | .error e => .error (.query l.name (e.message l.query))

end Language
end CodeDigest
