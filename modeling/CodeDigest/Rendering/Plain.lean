import CodeDigest.Rendering.Basic

/-! Packs as plain text. -/

namespace CodeDigest.Rendering

def separator : Text := List.replicate 16 '='

def plainFile (f : PackedFile) : Text :=
  ['\n'] ++ separator ++ "\nFile: ".toList ++ displayPath f.path ++ ['\n'] ++ separator ++ ['\n']
    ++ body f.content ++ ['\n']

def plain (p : Pack) : Text := headline p.tally ++ ['\n'] ++ p.files.flatMap plainFile

end CodeDigest.Rendering
