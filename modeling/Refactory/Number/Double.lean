import Refactory.Text.Class

/-! # Binary floating point

The numbers of the IEEE double format, held exactly: a finite one is `± mantissa · 2 ^ exponent`.
A decimal fraction is rounded to the nearest of them, a tie to the even mantissa. -/

namespace Refactory

/-- A double: finite, infinite or not a number. -/
inductive Double
  | finite (negative : Bool) (mantissa : Nat) (exponent : Int)
  | infinite (negative : Bool)
  | nan
deriving DecidableEq, Inhabited

/-- The quotient rounded to the nearest integer, a tie to the even one. -/
def roundDiv (num den : Nat) : Nat :=
  let floor := num / den
  let twice := 2 * (num % den)
  if twice < den then floor
  else if den < twice then floor + 1
  else if floor % 2 = 0 then floor else floor + 1

namespace Double

/-- The number of bits of a mantissa. -/
def precision : Nat := 53

/-- The least exponent of a finite double. -/
def leastExponent : Int := -1074

/-- The greatest exponent of a finite double. -/
def greatestExponent : Int := 971

/-- The double with the given sign nearest to `num / den`. -/
def ofRatio (negative : Bool) (num den : Nat) : Double :=
  if num = 0 then finite negative 0 leastExponent
  else
    let magnitude : Int := (Nat.log2 num : Int) - Nat.log2 den
    let scaled (e : Int) : Nat × Nat :=
      (num * Nat.pow 2 (-e).toNat, den * Nat.pow 2 e.toNat)
    let low := magnitude - precision
    let fits : Nat × Nat := scaled low
    let exponent := max leastExponent
      (if fits.1 / fits.2 < Nat.pow 2 precision then low else low + 1)
    let (n, d) := scaled exponent
    let rounded := roundDiv n d
    let (mantissa, exponent) :=
      if rounded = Nat.pow 2 precision then (Nat.pow 2 (precision - 1), exponent + 1)
      else (rounded, exponent)
    if exponent > greatestExponent then infinite negative
    else finite negative mantissa exponent

/-- The double nearest to `digits · 10 ^ exponent`. Powers that are far out of range are not
computed. -/
def ofDecimal (negative : Bool) (digits : Nat) (exponent : Int) : Double :=
  let size : Int := (Nat.toDigits 10 digits).length + exponent
  if digits = 0 ∨ size < -400 then finite negative 0 leastExponent
  else if size > 400 then infinite negative
  else ofRatio negative (digits * Nat.pow 10 exponent.toNat) (Nat.pow 10 (-exponent).toNat)

/-- Whether the sign bit is set. -/
def isNegative : Double → Bool
  | finite negative _ _ => negative
  | infinite negative => negative
  | nan => false

/-- The double of the other sign. -/
def negate : Double → Double
  | finite negative m e => finite (!negative) m e
  | infinite negative => infinite (!negative)
  | nan => nan

/-- Whether a double is a zero of either sign. -/
def isZero : Double → Bool
  | finite _ m _ => m == 0
  | _ => false

/-- The integer that a finite double is, if it is one. -/
def toInt? : Double → Option Int
  | finite negative m e =>
    let signed (n : Nat) : Int := if negative then -n else n
    if 0 ≤ e then some (signed (m * Nat.pow 2 e.toNat))
    else
      let unit := Nat.pow 2 (-e).toNat
      if m % unit = 0 then some (signed (m / unit)) else none
  | _ => none

/-- Numeric equality: zeros of both signs are equal, and nothing equals a `nan`. -/
def equal : Double → Double → Bool
  | nan, _ => false
  | _, nan => false
  | a, b => (a.isZero && b.isZero) || a == b

/-- The digits at the start of a text, as a number, their count, and what follows. -/
def readDigits (t : Text) : Nat × Nat × Text :=
  let digits := t.takeWhile CodePoint.isAsciiDigit
  (digits.foldl (fun n c => 10 * n + (c.val - 0x30)) 0, digits.length,
    t.dropWhile CodePoint.isAsciiDigit)

/-- The exponent part of a decimal text: nothing, or `e` with an optional sign and digits. -/
def readExponent : Text → Option Int
  | [] => some 0
  | c :: rest =>
    if c = 'e' ∨ c = 'E' then
      let (negative, rest) := match rest with
        | s :: rest' => if s = '-' then (true, rest') else if s = '+' then (false, rest')
          else (false, rest)
        | [] => (false, rest)
      let (n, count, rest) := readDigits rest
      if count = 0 ∨ !rest.isEmpty then none else some (if negative then -(n : Int) else n)
    else none

/-- An unsigned decimal: digits with an optional fraction and an optional exponent. -/
def readUnsigned (negative : Bool) (t : Text) : Option Double :=
  let (whole, wholeCount, rest) := readDigits t
  let (fraction, count, rest) := match rest with
    | c :: rest' => if c = '.' then readDigits rest' else (0, 0, rest)
    | [] => (0, 0, rest)
  if wholeCount + count = 0 then none
  else (readExponent rest).map fun e =>
    ofDecimal negative (whole * Nat.pow 10 count + fraction) (e - count)

/-- The double that a decimal text writes; `inf` and `nan` are words for the others. -/
def read? : Text → Option Double
  | t =>
    let (negative, body) := match t with
      | c :: rest => if c = '-' then (true, rest) else if c = '+' then (false, rest) else (false, t)
      | [] => (false, t)
    if body = "inf" then some (infinite negative)
    else if body = "nan" then some nan
    else readUnsigned negative body

end Double

end Refactory
