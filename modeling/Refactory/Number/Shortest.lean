import Refactory.Number.Double

/-! # Shortest decimals

Of the decimals that round to a given double, the one with the fewest digits, and of those the
nearest. For each number of digits only the two neighbours of the value on that decimal grid can
qualify, so at most seventeen grids are tried. -/

namespace Refactory.Double

/-- A positive decimal `digits · 10 ^ exponent`. -/
structure Decimal where
  digits : Nat
  exponent : Int
deriving DecidableEq

/-- The decimal without trailing zeros; the fuel bounds the number of digits. -/
def Decimal.reduce : Nat → Decimal → Decimal
  | 0, d => d
  | fuel + 1, d =>
    if d.digits % 10 = 0 ∧ d.digits ≠ 0 then reduce fuel ⟨d.digits / 10, d.exponent + 1⟩ else d

/-- The reals that round to `mantissa · 2 ^ exponent`, as multiples of a quarter of the unit in the
last place, with the value itself. The ends belong to them iff the mantissa is even. -/
structure Interval where
  low : Nat
  value : Nat
  high : Nat
  closed : Bool

/-- The interval around a positive finite double. It is narrower below a power of two. -/
def interval (mantissa : Nat) (exponent : Int) : Interval where
  low := if mantissa = Nat.pow 2 (precision - 1) ∧ exponent ≠ leastExponent then 4 * mantissa - 1
    else 4 * mantissa - 2
  value := 4 * mantissa
  high := 4 * mantissa + 2
  closed := mantissa % 2 == 0

/-- Compares `a · 2 ^ e` with `b · 10 ^ f` exactly. -/
def compareScaled (a : Nat) (e : Int) (b : Nat) (f : Int) : Ordering :=
  compare (a * Nat.pow 2 e.toNat * Nat.pow 10 (-f).toNat)
    (b * Nat.pow 10 f.toNat * Nat.pow 2 (-e).toNat)

/-- Whether `digits · 10 ^ f` lies in the interval, whose unit is `2 ^ e`. -/
def Interval.holds (i : Interval) (e : Int) (digits : Nat) (f : Int) : Bool :=
  let below := compareScaled i.low e digits f
  let above := compareScaled i.high e digits f
  (below == .lt || (i.closed && below == .eq)) && (above == .gt || (i.closed && above == .eq))

/-- The floor of `a · 2 ^ e / 10 ^ f`. -/
def floorScaled (a : Nat) (e f : Int) : Nat :=
  (a * Nat.pow 2 e.toNat * Nat.pow 10 (-f).toNat) / (Nat.pow 10 f.toNat * Nat.pow 2 (-e).toNat)

/-- The decimal on the grid `10 ^ f` that stands for the double, if one of the value's two
neighbours there rounds to it: the nearer one, and of two at equal distance the even one. -/
def onGrid? (i : Interval) (e f : Int) : Option Decimal :=
  let floor := floorScaled i.value e f
  match i.holds e floor f && floor != 0, i.holds e (floor + 1) f with
  | false, false => none
  | true, false => some ⟨floor, f⟩
  | false, true => some ⟨floor + 1, f⟩
  | true, true =>
    match compareScaled (2 * i.value) e (2 * floor + 1) f with
    | .lt => some ⟨floor, f⟩
    | .gt => some ⟨floor + 1, f⟩
    | .eq => some (if floor % 2 = 0 then ⟨floor, f⟩ else ⟨floor + 1, f⟩)

/-- The decimal exponent `k` with `10 ^ (k - 1) ≤ value < 10 ^ k`, searched upwards from `k`. -/
def magnitude (a : Nat) (e : Int) : Nat → Int → Int
  | 0, k => k
  | fuel + 1, k => if compareScaled a e 1 k == .lt then k else magnitude a e fuel (k + 1)

/-- The shortest decimal of `mantissa · 2 ^ exponent`, which is positive. -/
def shortest (mantissa : Nat) (exponent : Int) : Decimal :=
  let i := interval mantissa exponent
  let e := exponent - 2
  let bits : Int := (Nat.log2 i.value : Int) + e
  let k := magnitude i.value e 4 (bits * 30103 / 100000 - 1)
  let grids := (List.range 17).map fun n => k - (n + 1 : Nat)
  match grids.findSome? (onGrid? i e) with
  | some d => d.reduce 18
  | none => ⟨floorScaled i.value e (k - 17), k - 17⟩

end Refactory.Double
