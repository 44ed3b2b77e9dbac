import CodeDigest.Text.Basic

/-! Numerals in texts. -/

namespace CodeDigest.Text

def digitValue? (c : Char) : Option Nat :=
  if c.isDigit then some (c.toNat - '0'.toNat)
  else if 'a' ≤ c && c ≤ 'f' then some (c.toNat - 'a'.toNat + 10)
  else if 'A' ≤ c && c ≤ 'F' then some (c.toNat - 'A'.toNat + 10)
  else none

def ofDigits (base : Nat) (digits : Text) : Nat :=
  digits.foldl (fun n c => base * n + (digitValue? c).getD 0) 0

def isDigitOf (base : Nat) (c : Char) : Bool :=
  match digitValue? c with
  | some n => n < base
  | none => false

def digits? (base : Nat) (s : Text) : Option Nat :=
  if s.isEmpty || !s.all (isDigitOf base) then none else some (ofDigits base s)

def takeSign : Text → Bool × Text
  | '-' :: rest => (true, rest)
  | '+' :: rest => (false, rest)
  | s => (false, s)

def maxWord : Nat := 18446744073709551615

def word? (s : Text) : Option Nat :=
  match s with
  | '-' :: _ => none
  | s => (digits? 10 (takeSign s).2).bind fun n => if n ≤ maxWord then some n else none

def fitsSigned (n : Int) : Bool := -9223372036854775808 ≤ n && n < 9223372036854775808

def signedWord? (s : Text) : Option Int :=
  let (negative, digits) := takeSign s
  (digits? 10 digits).bind fun n =>
    let n : Int := if negative then -n else n
    if fitsSigned n then some n else none

end CodeDigest.Text
