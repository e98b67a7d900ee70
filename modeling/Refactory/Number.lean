import Refactory.Number.Shortest

/-! # Numbers of the tree

A number literal holds an integer of any size, a double, a complex number or a truth value.
Equality is numeric: it looks through the kinds. The text of a double has the fewest digits that
read back. -/

namespace Refactory

/-- The value of a number literal. -/
inductive Number
  | int (value : Int)
  | float (value : Double)
  | complex (real imag : Double)
  | bool (value : Bool)
deriving DecidableEq, Inhabited

/-- Decisions about the text of a double: which exponents are written positionally, and how many
digits an exponent has at least. -/
structure FloatFormat where
  positionalFrom : Int
  positionalBelow : Int
  exponentDigits : Nat

/-- Doubles are positional from `1e-4` to below `1e16` and keep a digit after the point; other
exponents have a sign and at least two digits. -/
def floatFormat : FloatFormat := ⟨-4, 16, 2⟩

namespace FloatFormat

/-- The decimal exponent of the first digit. -/
def leading (d : Double.Decimal) : Int := (Nat.toDigits 10 d.digits).length + d.exponent - 1

/-- Digits with the point after the first `n` of them, zeros added on either side as needed. -/
def positional (digits : List Char) (n : Int) : Text :=
  let zeros (k : Nat) : List Char := List.replicate k '0'
  if n ≤ 0 then Text.ofChars ("0.".toList ++ zeros (-n).toNat ++ digits)
  else if digits.length ≤ n.toNat then
    Text.ofChars (digits ++ zeros (n.toNat - digits.length) ++ ".0".toList)
  else Text.ofChars (digits.take n.toNat ++ '.' :: digits.drop n.toNat)

/-- One digit before the point, the others after it, and the exponent. -/
def scientific (f : FloatFormat) (digits : List Char) (exponent : Int) : Text :=
  let mantissa : List Char := match digits with
    | [] => []
    | [d] => [d]
    | d :: rest => d :: '.' :: rest
  let size := Nat.toDigits 10 exponent.natAbs
  Text.ofChars (mantissa ++ 'e' :: (if exponent < 0 then '-' else '+') ::
    (List.replicate (f.exponentDigits - size.length) '0' ++ size))

/-- The text of a positive decimal. -/
def render (f : FloatFormat) (d : Double.Decimal) : Text :=
  let digits := Nat.toDigits 10 d.digits
  let exponent := leading d
  if f.positionalFrom ≤ exponent ∧ exponent < f.positionalBelow then
    positional digits (exponent + 1)
  else f.scientific digits exponent

end FloatFormat

namespace Double

/-- The text of a double: the fewest digits that read back. -/
def render : Double → Text
  | finite negative m e =>
    let size : Text := if m = 0 then "0.0" else floatFormat.render (shortest m e)
    if negative then "-" ++ size else size
  | infinite negative => if negative then "-inf" else "inf"
  | nan => "nan"

end Double

namespace Number

/-- The truth values are the integers zero and one. -/
def ofBool (b : Bool) : Int := if b then 1 else 0

/-- The real and the imaginary part of a number, an integer kept as such. -/
def parts : Number → (Int ⊕ Double) × Double
  | int n => (.inl n, .finite false 0 Double.leastExponent)
  | bool b => (.inl (ofBool b), .finite false 0 Double.leastExponent)
  | float x => (.inr x, .finite false 0 Double.leastExponent)
  | complex re im => (.inr re, im)

/-- Equality of real parts, an integer equal to the doubles of the same value. -/
def equalReal : Int ⊕ Double → Int ⊕ Double → Bool
  | .inl a, .inl b => a == b
  | .inr a, .inr b => a.equal b
  | .inl a, .inr b => b.toInt? == some a
  | .inr a, .inl b => a.toInt? == some b

/-- Numeric equality across the kinds. -/
def equal (a b : Number) : Bool := equalReal a.parts.1 b.parts.1 && a.parts.2.equal b.parts.2

end Number

end Refactory
