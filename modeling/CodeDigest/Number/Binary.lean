/-! Binary floating-point numbers that are not negative, with exact operations rounded to the nearest
number of a format. -/

namespace CodeDigest

structure BinaryFormat where
  precision : Nat
  minExponent : Int
deriving Repr, DecidableEq

namespace BinaryFormat

def single : BinaryFormat := ⟨24, -149⟩

def double : BinaryFormat := ⟨53, -1074⟩

end BinaryFormat

structure Binary where
  significand : Nat
  exponent : Int
deriving Repr, DecidableEq

/-- The nearest natural number to `a / b`; of two, the even one. -/
def nearest (a b : Nat) : Nat :=
  let q := a / b
  let r := a % b
  if 2 * r < b then q else if b < 2 * r then q + 1 else q + q % 2

def scaleBy (base : Nat) (e : Int) (q : Nat × Nat) : Nat × Nat :=
  if 0 ≤ e then (q.1 * base.pow e.toNat, q.2) else (q.1, q.2 * base.pow (-e).toNat)

namespace Binary

def zero : Binary := ⟨0, 0⟩

def quotient (x : Binary) : Nat × Nat := scaleBy 2 x.exponent (x.significand, 1)

def magnitude (a b : Nat) : Int :=
  let guess := (Nat.log2 a : Int) - Nat.log2 b
  let (p, q) := scaleBy 2 (-guess) (a, b)
  if q ≤ p then guess else guess - 1

def round (f : BinaryFormat) (a b : Nat) : Binary :=
  if a = 0 then zero
  else
    let e := max (magnitude a b - f.precision + 1) f.minExponent
    let (p, q) := scaleBy 2 (-e) (a, b)
    let s := nearest p q
    if s = Nat.pow 2 f.precision then ⟨Nat.pow 2 (f.precision - 1), e + 1⟩ else ⟨s, e⟩

def ofNat (f : BinaryFormat) (n : Nat) : Binary := round f n 1

def add (f : BinaryFormat) (x y : Binary) : Binary :=
  let (a, b) := x.quotient
  let (c, d) := y.quotient
  round f (a * d + c * b) (b * d)

/-- The difference, or zero when it would be negative. -/
def sub (f : BinaryFormat) (x y : Binary) : Binary :=
  let (a, b) := x.quotient
  let (c, d) := y.quotient
  round f (a * d - c * b) (b * d)

def mul (f : BinaryFormat) (x y : Binary) : Binary :=
  let (a, b) := x.quotient
  let (c, d) := y.quotient
  round f (a * c) (b * d)

def div (f : BinaryFormat) (x y : Binary) : Binary :=
  let (a, b) := x.quotient
  let (c, d) := y.quotient
  round f (a * d) (b * c)

def lt (x y : Binary) : Bool :=
  let (a, b) := x.quotient
  let (c, d) := y.quotient
  a * d < c * b

def floor (x : Binary) : Nat :=
  let (a, b) := x.quotient
  a / b

/-- The nearest natural number; of two, the greater one. -/
def roundUp (x : Binary) : Nat :=
  let (a, b) := x.quotient
  (2 * a + b) / (2 * b)

end Binary
end CodeDigest
