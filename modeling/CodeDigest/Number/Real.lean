import CodeDigest.Number.Decimal
import CodeDigest.Text.Numeral

/-! Numbers with a fraction, with their sign: those of double precision, the infinite ones, and none. -/

namespace CodeDigest

inductive Real where
  | finite (negative : Bool) (magnitude : Binary)
  | infinite (negative : Bool)
  | notANumber
deriving Repr, DecidableEq

namespace Real

def overflow : Binary := ⟨1, 1024⟩

/-- The decimal exponents beyond which a number is surely infinite or zero. -/
def exponentLimit : Int := 400

def ofDecimal (negative : Bool) (d : Decimal) : Real :=
  let size := d.exponent + (Text.ofNat d.digits).length
  if d.digits = 0 || size < -exponentLimit then .finite negative .zero
  else if exponentLimit < size then .infinite negative
  else
    let x := d.toBinary .double
    if x.lt overflow then .finite negative x else .infinite negative

/-- The digits of a decimal number, and its exponent if it has one; none if it has no digit at all. -/
def unsigned? (s : Text) : Option Decimal :=
  let whole := s.takeWhile Char.isDigit
  let rest := s.drop whole.length
  let fraction := match rest with
    | '.' :: rest => some (rest.takeWhile Char.isDigit)
    | _ => none
  let rest := rest.drop (fraction.elim 0 fun f => f.length + 1)
  let digits := whole ++ fraction.getD []
  let shift : Int := (fraction.getD []).length
  if digits.isEmpty then none
  else
    match rest with
    | [] => some ⟨Text.ofDigits 10 digits, -shift⟩
    | c :: rest =>
      if c.toLower ≠ 'e' then none
      else
        let (negative, power) := Text.takeSign rest
        (Text.digits? 10 power).map fun n =>
          ⟨Text.ofDigits 10 digits, (if negative then -(n : Int) else n) - shift⟩

def ofText? (s : Text) : Option Real :=
  let (negative, rest) := Text.takeSign s
  match String.ofList (Text.asciiLower rest) with
  | "inf" | "infinity" => some (.infinite negative)
  | "nan" => some .notANumber
  | _ => (unsigned? rest).map (ofDecimal negative)

def plainDigits (d : Decimal) : Text :=
  let all := Text.ofNat d.digits
  if 0 ≤ d.exponent then all ++ List.replicate d.exponent.toNat '0'
  else
    let places := (-d.exponent).toNat
    let padded := List.replicate (places + 1 - all.length) '0' ++ all
    let fraction := Text.trimEndBy (· = '0') (padded.drop (padded.length - places))
    padded.take (padded.length - places) ++ if fraction = [] then [] else '.' :: fraction

def text : Real → Text
  | notANumber => "NaN".toList
  | infinite negative => (if negative then ['-'] else []) ++ "inf".toList
  | finite negative x =>
    (if negative then ['-'] else []) ++
      if x.significand = 0 then ['0'] else plainDigits (Decimal.shortest .double x)

def pointedText (x : Real) : Text :=
  match x with
  | finite .. => if x.text.contains '.' then x.text else x.text ++ ['.', '0']
  | _ => x.text

def isZero : Real → Bool
  | finite _ x => x.significand = 0
  | _ => false

def toWord : Real → Nat
  | finite false x => min x.roundUp Text.maxWord
  | infinite false => Text.maxWord
  | _ => 0

end Real
end CodeDigest
