import CodeDigest.Rendering.Basic

/-! Packs as XML. -/

namespace CodeDigest.Rendering

def xmlEntity (c : Char) : Text :=
  match c with
  | '<' => "&lt;".toList
  | '>' => "&gt;".toList
  | '&' => "&amp;".toList
  | '\'' => "&apos;".toList
  | '"' => "&quot;".toList
  | c => [c]

def xmlEscape (s : Text) : Text := s.flatMap xmlEntity

def xmlFile (f : PackedFile) : Text :=
  "<file path=\"".toList ++ xmlEscape (displayPath f.path) ++ "\" compression=\"".toList
    ++ f.method.name.toList ++ "\">\n".toList ++ xmlEscape (body f.content) ++ "\n</file>\n".toList

def xml (p : Pack) : Text :=
  "<summary>".toList ++ xmlEscape (headline p.tally) ++ "</summary>\n<files>\n".toList
    ++ p.files.flatMap xmlFile ++ "</files>\n".toList

end CodeDigest.Rendering
