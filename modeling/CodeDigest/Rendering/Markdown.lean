import CodeDigest.Rendering.Basic

/-! Packs as Markdown, each file in a fence that its content cannot close. -/

namespace CodeDigest.Rendering

def longestRun (c : Char) (s : Text) : Nat :=
  (go 0 s).2
where
  /-- The run that the text continues, and the longest one. -/
  go (current : Nat) : Text → Nat × Nat
    | [] => (current, current)
    | d :: rest =>
      if d = c then go (current + 1) rest
      else
        let (_, longest) := go 0 rest
        (current, max current longest)

/-- A row of backticks that is longer than any in a content. -/
def fence (content : Text) : Text := List.replicate (max (longestRun '\x60' content) 2 + 1) '\x60'

/-- The word behind the opening fence: the language, or else the extension. -/
def hint (f : PackedFile) : Text :=
  f.language.getD (Text.asciiLower ((Path.extension? f.path).getD []))

def markdownFile (f : PackedFile) : Text :=
  let fence := fence f.content
  "\n## File: ".toList ++ displayPath f.path ++ ['\n'] ++ fence ++ hint f ++ ['\n'] ++ body f.content
    ++ ['\n'] ++ fence ++ ['\n']

def markdown (p : Pack) : Text :=
  "# Packed repository\n\n".toList ++ headline p.tally ++ ['\n'] ++ p.files.flatMap markdownFile

end CodeDigest.Rendering
