import CodeDigest.Languages

/-! Registries: the languages that are known, found by file extension. -/

namespace CodeDigest

/-- The languages in the order in which they were added, and which of them an extension means. -/
structure Registry where
  languages : List Language
  byExtension : List (Text × Nat)

namespace Registry

def empty : Registry := ⟨[], []⟩

/-- Adds a language. Its extensions now mean it, whatever they meant before. -/
def register (r : Registry) (l : Language) : Registry :=
  ⟨r.languages ++ [l],
    l.extensions.foldl (fun known e => (Text.asciiLower e, r.languages.length) :: known) r.byExtension⟩

def resolve? (r : Registry) (extension : Text) : Option Language :=
  (r.byExtension.lookup (Text.asciiLower extension)).bind (r.languages[·]?)

def resolvePath? (r : Registry) (path : Text) : Option Language :=
  (Path.extension? path).bind r.resolve?

def size (r : Registry) : Nat := r.languages.length

def isEmpty (r : Registry) : Bool := r.languages.isEmpty

def readyCount (r : Registry) : Nat := r.languages.countP fun l => l.compiledQuery.isOk

def builtin : Registry := Languages.builtin.foldl register empty

end Registry
end CodeDigest
