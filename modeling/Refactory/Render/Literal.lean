import Refactory.Fault

/-! # Literals as text

The body of a string literal is escaped point by point, so that it stays on one line and the
delimiter does not occur bare. In literal text of a formatted string, braces are doubled as well.
An integer is written in decimal, up to a limit on its digits. -/

namespace Refactory

/-- The delimiter of a string literal. Any delimiter but the two quotes is left alone. -/
inductive Quote
  | double | single | other
deriving DecidableEq, Inhabited

namespace Quote

/-- The delimiter that a text names. -/
def ofText (t : Text) : Quote := if t = "\"" then double else if t = "'" then single else other

/-- The delimiter itself. -/
def mark : Quote → Text
  | double => "\""
  | single => "'"
  | other => []

end Quote

/-- A control character of either block, which a literal must not hold bare. -/
def CodePoint.isControl (c : CodePoint) : Bool :=
  c.val < 0x20 || (0x7f ≤ c.val && c.val ≤ 0x9f)

/-- A point as it stands in a literal between two `quote`s. -/
def CodePoint.escaped (quote : Quote) (c : CodePoint) : Text :=
  if c = '\\' then "\\\\"
  else if c = '"' ∧ quote = .double then "\\\""
  else if c = '\'' ∧ quote = .single then "\\'"
  else if c = '\n' then "\\n"
  else if c = '\r' then "\\r"
  else if c = '\t' then "\\t"
  else if c.isControl then "\\x" ++ Text.hex 2 c.val
  else
    match c with
    | .surrogate _ => "\\u" ++ Text.hex 4 c.val
    | .scalar _ => [c]

/-- The body of a string literal between two `quote`s. -/
def Text.escaped (quote : Quote) (t : Text) : Text := t.flatMap (CodePoint.escaped quote)

/-- A point with a brace written twice. -/
def CodePoint.braced (c : CodePoint) : Text := if c = '{' ∨ c = '}' then [c, c] else [c]

/-- The text with every brace written twice. -/
def Text.braced (t : Text) : Text := t.flatMap CodePoint.braced

/-- The literal text of a formatted string. -/
def Text.formattedLiteral (t : Text) : Text := (t.escaped .double).braced

/-- The text of a double in a program: an infinity is written as a number out of range. -/
def Double.literal : Double → Text
  | infinite negative => if negative then "-1e309" else "1e309"
  | x => x.render

/-- The number of digits up to which an integer is written in decimal. -/
def digitLimit : Nat := 4300

namespace Number

/-- The text of a complex number: the real part is left out if it is a positive zero. -/
def complexLiteral (re im : Double) : Text :=
  if re.isZero && !re.isNegative then im.literal ++ "j"
  else if im.isNegative then "(" ++ re.literal ++ "-" ++ im.negate.literal ++ "j)"
  else "(" ++ re.literal ++ "+" ++ im.literal ++ "j)"

/-- The text of a number. -/
def render : Number → Except Fault Text
  | int n =>
    if (Nat.toDigits 10 n.natAbs).length ≤ digitLimit then .ok (Text.ofInt n)
    else .error .tooManyDigits
  | float x => .ok x.literal
  | complex re im => .ok (complexLiteral re im)
  | bool b => .ok (if b then "True" else "False")

end Number

end Refactory
