import Refactory.Text.Class
import Refactory.Text.Table.Width

/-! # Width on a terminal

A terminal shows a character in one cell, except for marks that take none and wide characters that
take two. -/

namespace Refactory

/-- The number of cells that a code point takes. -/
def CodePoint.cells (c : CodePoint) : Nat :=
  if inClass Text.Table.noCell c.val then 0
  else if inClass Text.Table.twoCells c.val then 2
  else 1

namespace Text

/-- The number of cells that a text takes. -/
def cells (t : Text) : Nat := (t.map CodePoint.cells).foldl (· + ·) 0

/-- The longest beginning of a text that takes at most `n` cells. -/
def takeCells (n : Nat) : Text → Text
  | [] => []
  | c :: rest => if c.cells ≤ n then c :: takeCells (n - c.cells) rest else []

/-- A text followed by as many spaces as it takes to fill `n` cells. -/
def padRight (n : Nat) (t : Text) : Text := t ++ Text.times (n - t.cells) " "

/-- A text in exactly `n` cells: cut and marked as cut, or else padded. -/
def fitted (n : Nat) (t : Text) : Text :=
  if n < t.cells then (t.takeCells (n - 1)).padRight (n - 1) ++ "…" else t.padRight n

/-- A text in the middle of `n` cells, the spare cell on the right. -/
def centred (n : Nat) (t : Text) : Text := (Text.times ((n - t.cells) / 2) " " ++ t).padRight n

end Text

end Refactory
