import CodeDigest.Text.Basic
import CodeDigest.Text.CharClass

/-! The lines of a text, and what keeps or drops whole lines. -/

namespace CodeDigest.Text

def trim (s : Text) : Text := trimBy CharClass.isBlank s

def trimStart (s : Text) : Text := trimStartBy CharClass.isBlank s

def trimEnd (s : Text) : Text := trimEndBy CharClass.isBlank s

/-- Nothing but white space. -/
def isBlank (s : Text) : Bool := s.all CharClass.isBlank

/-- Drops the piece after the last newline when it is empty, and the carriage return before
each newline. -/
def endLines : List Text → List Text
  | [] => []
  | [last] => if last = [] then [] else [last]
  | line :: next :: rest => chopReturn line :: endLines (next :: rest)

/-- The lines of a text without their line ends. A last line without a newline counts, and
keeps a carriage return. -/
def lines (s : Text) : List Text := endLines (splitOn '\n' s)

def unlines (ls : List Text) : Text := joinWith ['\n'] ls

def dropBlankLines (s : Text) : Text := unlines ((lines s).filter fun l => !isBlank l)

/-- A line behind its number, which is right-aligned in `width` columns. -/
def numberedLine (width number : Nat) (line : Text) : Text :=
  padStart width (ofNat number) ++ [':', ' '] ++ line

/-- Every line behind its number, counted from one and aligned to the widest number. -/
def numberLines (s : Text) : Text :=
  let ls := lines s
  let width := (ofNat ls.length).length
  unlines (ls.mapIdx fun i line => numberedLine width (i + 1) line)

end CodeDigest.Text
