import Refactory.Number

/-! # Numerals

Integers in base 2, 8, 10 and 16, decimal fractions with exponents, and imaginary numbers. One
underscore can stand between two digits. A numeral must not run into a word, a few keywords apart.

* `Numeral.read`: the number at the start of a list of characters, and what follows it. -/

namespace Refactory.Grammar

/-- An ASCII letter or digit, an underscore, or any character beyond ASCII. -/
def isWordChar (c : Char) : Bool := c.isAlphanum || c = '_' || 0x80 ≤ c.toNat

namespace Numeral

/-- The value of a digit in bases up to sixteen. -/
def digitValue (c : Char) : Nat :=
  if c.isDigit then c.toNat - 0x30
  else if 'a' ≤ c ∧ c ≤ 'f' then c.toNat - 0x61 + 10
  else if 'A' ≤ c ∧ c ≤ 'F' then c.toNat - 0x41 + 10
  else 16

/-- Whether a character is a digit in the given base. -/
def isDigitOf (base : Nat) (c : Char) : Bool := digitValue c < base

/-- The number that digits write in the given base. -/
def valueOf (base : Nat) (digits : List Char) : Nat :=
  digits.foldl (fun n c => base * n + digitValue c) 0

/-- The digits that follow a digit, and the rest. An underscore must have a digit behind it. -/
def moreDigits (base : Nat) : List Char → Option (List Char × List Char)
  | [] => some ([], [])
  | c :: rest =>
    if c = '_' then
      match rest with
      | [] => none
      | d :: rest' =>
        if isDigitOf base d then (moreDigits base rest').map fun (ds, r) => (d :: ds, r) else none
    else if isDigitOf base c then (moreDigits base rest).map fun (ds, r) => (c :: ds, r)
    else some ([], c :: rest)

/-- The keywords that can follow a numeral without a space. -/
def followers : List (List Char) :=
  ["and", "else", "for", "if", "in", "is", "or", "not"].map String.toList

/-- Whether a numeral can end in front of these characters. -/
def canEndBefore (rest : List Char) : Bool :=
  match rest with
  | [] => true
  | c :: _ => !isWordChar c || followers.any (·.isPrefixOf rest)

/-- The number with what follows it, if it can end there. -/
def ending (value : Number) (rest : List Char) : Option (Number × List Char) :=
  if canEndBefore rest then some (value, rest) else none

/-- The digits after the mark of a base. -/
def based (base : Nat) (cs : List Char) : Option (Number × List Char) :=
  let cs := match cs with
    | '_' :: rest => rest
    | _ => cs
  match cs with
  | [] => none
  | d :: rest =>
    if isDigitOf base d then do
      let (ds, rest) ← moreDigits base rest
      ending (.int (valueOf base (d :: ds))) rest
    else none

/-- Ends a decimal fraction: an imaginary mark, or nothing. -/
def fractionEnd (value : Double) (cs : List Char) : Option (Number × List Char) :=
  match cs with
  | c :: rest =>
    if c = 'j' ∨ c = 'J' then ending (.complex (.finite false 0 Double.leastExponent) value) rest
    else ending (.float value) cs
  | [] => ending (.float value) cs

/-- The digits of an exponent, after its mark. -/
def exponentDigits (cs : List Char) : Option (Int × List Char) :=
  let (negative, cs) := match cs with
    | '-' :: rest => (true, rest)
    | '+' :: rest => (false, rest)
    | _ => (false, cs)
  match cs with
  | d :: rest =>
    if d.isDigit then do
      let (ds, rest) ← moreDigits 10 rest
      let n : Int := valueOf 10 (d :: ds)
      return (if negative then -n else n, rest)
    else none
  | [] => none

/-- What follows the digits of a decimal number: an exponent or not, and the end. `places` is the
number of digits after the point. -/
def afterDigits (whole : Number) (digits : List Char) (places : Nat) (cs : List Char) :
    Option (Number × List Char) :=
  let value (e : Int) := Double.ofDecimal false (valueOf 10 digits) (e - places)
  match cs with
  | c :: rest =>
    if c = 'e' ∨ c = 'E' then
      match rest with
      | d :: _ =>
        if d.isDigit ∨ d = '+' ∨ d = '-' then do
          let (e, rest) ← exponentDigits rest
          fractionEnd (value e) rest
        else ending whole cs
      | [] => ending whole cs
    else if c = 'j' ∨ c = 'J' then fractionEnd (value 0) cs
    else ending whole cs
  | [] => ending whole cs

/-- The digits after a decimal point. -/
def fraction (whole : List Char) (cs : List Char) : Option (Number × List Char) :=
  let finish (digits rest : List Char) :=
    let all := whole ++ digits
    afterDigits (.float (Double.ofDecimal false (valueOf 10 all) (-digits.length))) all
      digits.length rest
  match cs with
  | d :: rest =>
    if d.isDigit then do
      let (ds, rest) ← moreDigits 10 rest
      finish (d :: ds) rest
    else finish [] cs
  | [] => finish [] cs

/-- The number of decimal digits that an integer can have. -/
def mostDigits : Nat := 4300

/-- A decimal number. An integer has no zeros in front, unless it is zero. -/
def decimal (cs : List Char) : Option (Number × List Char) := do
  let (digits, rest) ← moreDigits 10 cs
  match rest with
  | '.' :: rest => fraction digits rest
  | _ =>
    let isInteger : Bool := match rest with
      | c :: d :: _ =>
        !((c = 'j' || c = 'J') || ((c = 'e' || c = 'E') && (d.isDigit || d = '+' || d = '-')))
      | [c] => !(c = 'j' || c = 'J')
      | [] => true
    if isInteger ∧ (mostDigits < digits.length ∨
        (digits.head? = some '0' ∧ digits.any (· ≠ '0'))) then none
    else afterDigits (.int (valueOf 10 digits)) digits 0 rest

/-- The number at the start of a list of characters, which begins with a digit or with a point
before one, and what follows it. -/
def read (cs : List Char) : Option (Number × List Char) :=
  match cs with
  | '.' :: rest => fraction [] rest
  | '0' :: mark :: rest =>
    if mark = 'x' ∨ mark = 'X' then based 16 rest
    else if mark = 'o' ∨ mark = 'O' then based 8 rest
    else if mark = 'b' ∨ mark = 'B' then based 2 rest
    else decimal cs
  | _ => decimal cs

end Numeral

end Refactory.Grammar
