import CodeDigest.CommentRemoval
import CodeDigest.Pack.File

/-! The stages that a file goes through, in their fixed order. -/

namespace CodeDigest

structure Stages where
  removeComments : Bool := false
  removeEmptyLines : Bool := false
  digest : Bool := false
  numberLines : Bool := false
deriving Repr, DecidableEq

namespace Stages

def cleaned (s : Stages) (f : SourceFile) : Text :=
  let content := if s.removeComments then CommentRemoval.removeComments f.path f.content else f.content
  if s.removeEmptyLines then Text.dropBlankLines content else content

def digested (s : Stages) (r : Registry) (f : SourceFile) : Text × Method :=
  let content := s.cleaned f
  if s.digest then
    let outcome := r.digest f.path content
    (outcome.content content, .ofOutcome outcome)
  else (content, .untouched)

def process (s : Stages) (r : Registry) (f : SourceFile) : PackedFile :=
  let (content, method) := s.digested r f
  { path := f.path
    content := if s.numberLines then Text.numberLines content else content
    sourceSize := Text.byteSize f.content
    method
    language := (r.resolvePath? f.path).map (·.name) }

end Stages
end CodeDigest
