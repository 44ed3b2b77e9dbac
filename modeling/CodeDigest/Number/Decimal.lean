import CodeDigest.Number.Binary
import CodeDigest.Text.Basic

/-! Decimal texts of binary numbers: the fewest digits that read back as the same number, and a
fixed number of decimals. -/

namespace CodeDigest

structure Decimal where
  digits : Nat
  exponent : Int
deriving Repr, DecidableEq

namespace Decimal

def toBinary (f : BinaryFormat) (d : Decimal) : Binary :=
  let (a, b) := scaleBy 10 d.exponent (d.digits, 1)
  Binary.round f a b

def magnitude (a b : Nat) : Int :=
  let guess := ((Text.ofNat a).length : Int) - (Text.ofNat b).length
  let (p, q) := scaleBy 10 (-guess) (a, b)
  if q ≤ p then guess else guess - 1

/-- The two decimals around a number with `n` digits, the nearer one first. -/
def around (x : Binary) (n : Nat) : List Decimal :=
  let (a, b) := x.quotient
  let e := magnitude a b - n + 1
  let (p, q) := scaleBy 10 (-e) (a, b)
  let below := p / q
  if 2 * (p % q) ≤ q then [⟨below, e⟩, ⟨below + 1, e⟩] else [⟨below + 1, e⟩, ⟨below, e⟩]

/-- The first decimal with `n` or more digits that reads back as a number; `fuel` bounds the search. -/
def shortestFrom (f : BinaryFormat) (x : Binary) : (n fuel : Nat) → Decimal
  | _, 0 => ⟨0, 0⟩
  | n, fuel + 1 =>
    match (around x n).find? (fun d => d.toBinary f = x) with
    | some d => d
    | none => shortestFrom f x (n + 1) fuel

/-- The decimal with the fewest digits that reads back as a number; seventeen are always enough. -/
def shortest (f : BinaryFormat) (x : Binary) : Decimal := shortestFrom f x 1 17

/-- A decimal in positional notation, if its first digit stands from five places behind the point to
twelve before the last place, or else in scientific notation. -/
def text (d : Decimal) : Text :=
  let all := Text.ofNat d.digits
  let digits := Text.trimEndBy (· = '0') all
  let e := d.exponent + all.length - 1
  if digits = [] then ['0', '.', '0']
  else if -5 ≤ e && e < 0 then ['0', '.'] ++ List.replicate (-e - 1).toNat '0' ++ digits
  else if 0 ≤ e && e ≤ 12 then
    let whole := digits.take (e.toNat + 1)
    let rest := digits.drop (e.toNat + 1)
    whole ++ List.replicate (e.toNat + 1 - whole.length) '0' ++ ['.'] ++ (if rest = [] then ['0'] else rest)
  else
    let rest := digits.drop 1
    digits.take 1 ++ (if rest = [] then [] else '.' :: rest)
      ++ (if e < 0 then ['e', '-'] else ['e', '+']) ++ Text.ofNat e.natAbs

end Decimal

namespace Binary

def text (f : BinaryFormat) (x : Binary) : Text :=
  if x.significand = 0 then ['0', '.', '0'] else (Decimal.shortest f x).text

def textWithTenths (x : Binary) : Text :=
  let (a, b) := x.quotient
  let tenths := nearest (10 * a) b
  Text.ofNat (tenths / 10) ++ ['.'] ++ Text.ofNat (tenths % 10)

end Binary
end CodeDigest
