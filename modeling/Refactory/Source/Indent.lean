import Refactory.Source.Rows

/-! # Indentation of captured text

`dedentLines` takes the indentation of a statement off its later lines, `indentSource` puts one in
front of each line; both leave the rows of strings alone. `dedent` takes off what all lines have in
common. -/

namespace Refactory.Source

/-- The lines after the first with `margin` taken off, unless their row is kept. -/
def dedentTail (margin : Text) (keep : List Int) (row : Int) : List Text → List Text
  | [] => []
  | line :: rest =>
    (if !keep.contains row && margin.isPrefixOf line then line.drop margin.length else line) ::
      dedentTail margin keep (row + 1) rest

/-- Takes `margin` off every line after the first, except on the rows in `keep`. -/
def dedentLines (lines : List Text) (margin : Text) (keep : List Int) (firstRow : Int) : Text :=
  match lines with
  | [] => []
  | first :: rest => Text.join "\n" (first :: dedentTail margin keep (firstRow + 1) rest)

/-- Puts `pad` in front of a line, a blank line becoming empty, unless its row is kept. -/
def indentFrom (pad : Text) (keep : List Nat) (row : Nat) : List Text → List Text
  | [] => []
  | line :: rest =>
    (if keep.contains row then line else if line.isBlank then [] else pad ++ line) ::
      indentFrom pad keep (row + 1) rest

/-- The lines of a text with `pad` in front; the inside of strings stays as it is. -/
def indentSource (t : Text) (pad : Text) : List Text :=
  indentFrom pad (continuationRows t) 1 t.lines

/-- A space or a tab. -/
def isIndent (c : CodePoint) : Bool := c = ' ' || c = '\t'

/-- The longest common beginning of two texts. -/
def commonStart : Text → Text → Text
  | a :: s, b :: t => if a = b then a :: commonStart s t else []
  | _, _ => []

/-- The indentation that all lines with something on them share. -/
def commonIndent (lines : List Text) : Text :=
  match (lines.filter fun l => !l.all isIndent).map (·.takeWhile isIndent) with
  | [] => []
  | first :: rest => rest.foldl commonStart first

/-- The text without the indentation that its lines share; lines of spaces and tabs only become
empty. -/
def dedent (t : Text) : Text :=
  let lines := t.lines.map fun l => if l.all isIndent then [] else l
  let margin := commonIndent lines
  Text.join "\n" (lines.map fun l => if margin.isPrefixOf l then l.drop margin.length else l)

end Refactory.Source
