import CodeDigest.Text.Basic

/-! Why a run ends early. -/

namespace CodeDigest

inductive PackError where
  | config (reason : Text)
  /-- A setting that is needed is in no place. -/
  | missingSetting (name : Text)
  | fileSystem (reason : Text)
  | output (reason : Text)
  | unreadable (problem : Text) (cause : Option Text)
  | cancelled
  | missingPath (path : Text)
  | noWorkers (count : Nat)
  | unknownStyle (name : Text)
deriving Repr, DecidableEq

namespace PackError

def escapedChar (c : Char) : Text :=
  match c with
  | '"' => ['\\', '"']
  | '\\' => ['\\', '\\']
  | '\n' => ['\\', 'n']
  | '\r' => ['\\', 'r']
  | '\t' => ['\\', 't']
  | '\x00' => ['\\', '0']
  | c =>
    if c.toNat < 0x20 || (0x7f ≤ c.toNat && c.toNat < 0xa0) || c.toNat = 0xad || c.toNat = 0x2028
        || c.toNat = 0x2029 then
      ['\\', 'u', '\x7b'] ++ Nat.toDigits 16 c.toNat ++ ['\x7d']
    else [c]

def quoted (s : Text) : Text := '"' :: s.flatMap escapedChar ++ ['"']

def invalid (problem suggestion : Text) : Text :=
  "Validation error: ".toList ++ problem ++ "\nSuggestion: ".toList ++ suggestion

def message : PackError → Text
  | config reason => "Configuration error: ".toList ++ reason
  | missingSetting name =>
    "Configuration error: missing configuration field ".toList ++ quoted name
  | fileSystem reason => "File system error: ".toList ++ reason
  | output reason => "Output format error: ".toList ++ reason
  | unreadable problem _ => "Parse error: ".toList ++ problem
  | cancelled => "Operation cancelled".toList
  | missingPath path =>
    invalid ("Path does not exist: ".toList ++ path) "Pass an existing directory to pack".toList
  | noWorkers count =>
    invalid ("Invalid worker count: ".toList ++ Text.ofNat count) "Use at least one worker".toList
  | unknownStyle name =>
    invalid ("Invalid output style: '".toList ++ name ++ ['\''])
      "Valid styles are: plain, markdown, xml, json".toList

def cause : PackError → Option Text
  | fileSystem reason => some reason
  | unreadable _ cause => cause
  | _ => none

/-- An error for the terminal; in the long form its cause stands on a line of its own. -/
def report (e : PackError) (verbose : Bool) : Text :=
  "\n⚠ Error: ".toList ++ e.message ++
    match verbose, e.cause with
    | true, some cause => "\n  └─ ".toList ++ cause
    | _, _ => []

end PackError
end CodeDigest
