import Refactory.Text.Class
import Refactory.Text.Table.Digit

/-! # Digits of any script

Every decimal digit belongs to a run of ten that begins with its zero. -/

namespace Refactory

namespace CodePoint

/-- A digit of any script, superscripts and circled numbers included. -/
def isDigit (c : CodePoint) : Bool := inClass Text.Table.digit c.val

/-- The value of a decimal digit. -/
def decimal? (c : CodePoint) : Option Nat :=
  (Text.Table.zeros.find? fun start => start ≤ c.val && c.val < start + 10).map (c.val - ·)

end CodePoint

namespace Text

/-- Whether a text is a non-empty run of digits. -/
def isDigits (t : Text) : Bool := !t.isEmpty && t.all CodePoint.isDigit

/-- The number that a run of decimal digits writes. -/
def decimal? (t : Text) : Option Nat :=
  (t.mapM CodePoint.decimal?).map (·.foldl (fun n d => 10 * n + d) 0)

end Text

end Refactory
