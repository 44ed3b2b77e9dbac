import CodeDigest.Capture

/-! Why a file cannot be digested. -/

namespace CodeDigest

inductive DigestError where
  | unsupported (extension : Text)
  | parse (language : Text) (message : Text)
  | query (language : Text) (message : Text)
  | inverted (capture : Capture)
deriving Repr, DecidableEq

namespace DigestError

def message : DigestError → Text
  | .unsupported ext => "No grammar registered for extension '".toList ++ ext ++ ['\'']
  | .parse language m => "Failed to parse ".toList ++ language ++ " source: ".toList ++ m
  | .query language m => "Query execution failed for ".toList ++ language ++ ": ".toList ++ m
  | .inverted c =>
    let place (row column : Nat) : Text := Text.ofNat (row + 1) ++ [':'] ++ Text.ofNat column
    "Cannot classify capture '".toList ++ c.label.toList ++ "' at line ".toList
      ++ Text.ofNat (c.startRow + 1) ++ ": capture ends at ".toList ++ place c.endRow c.endColumn
      ++ " before it starts at ".toList ++ place c.startRow c.startColumn

end DigestError
end CodeDigest
