import CodeDigest.Pack.Error
import CodeDigest.Rendering.Json
import CodeDigest.Rendering.Markdown
import CodeDigest.Rendering.Plain
import CodeDigest.Rendering.Xml

/-! The styles that a pack can be rendered in. -/

namespace CodeDigest

inductive Style where
  | plain
  | markdown
  | xml
  | json
deriving Repr, DecidableEq

namespace Style

def name : Style → String
  | plain => "plain"
  | markdown => "markdown"
  | xml => "xml"
  | json => "json"

/-- The style of a name in any letter case; two have a short name too. -/
def ofName (name : Text) : Except PackError Style :=
  match String.ofList (Text.asciiLower name) with
  | "plain" | "txt" => .ok plain
  | "markdown" | "md" => .ok markdown
  | "xml" => .ok xml
  | "json" => .ok json
  | _ => .error (.unknownStyle name)

end Style

def Pack.render (p : Pack) : Style → Text
  | .plain => Rendering.plain p
  | .markdown => Rendering.markdown p
  | .xml => Rendering.xml p
  | .json => Rendering.json p

end CodeDigest
