import CodeDigest.Pack.Tally

/-! What the renderings of a pack share. -/

namespace CodeDigest.Rendering

def displayPath (path : Text) : Text := path.map fun c => if c = '\\' then '/' else c

def body (content : Text) : Text := Text.trimEndBy (· = '\n') content

def headline (t : Tally) : Text :=
  "This file is a packed representation of ".toList ++ Text.ofNat t.files ++ " files.".toList ++
    if 0 < t.digested then
      [' '] ++ Text.ofNat t.digested
        ++ " files were reduced to their declarations, comments and imports.".toList
    else []

end CodeDigest.Rendering
