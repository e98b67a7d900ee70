import Refactory.Text.Width

/-! # Tables

A table is drawn with lines between its columns, each as wide as its widest cell. If that is wider
than the page, the widest columns are narrowed and their cells are broken between words.

* `Table.widths`: the width of every column.
* `wrap`: a cell as lines of a given width.
* `Table.render`: the whole table under its title. -/

namespace Refactory

/-- A titled table of texts; a cell can have several lines. -/
structure Table where
  title : Text
  headers : List Text
  rows : List (List Text)

/-! ## Breaking lines -/

/-- The words of a text, each with the blanks after it; the first also has those before it. -/
def wordsWithBlanks : Nat → Text → List Text
  | 0, _ => []
  | fuel + 1, t =>
    let lead := t.takeWhile CodePoint.isBlank
    let rest := t.drop lead.length
    let word := rest.takeWhile (!·.isBlank)
    if word.isEmpty then []
    else
      let rest := rest.drop word.length
      let trail := rest.takeWhile CodePoint.isBlank
      (lead ++ word ++ trail) :: wordsWithBlanks fuel (rest.drop trail.length)

/-- Puts words on lines of `width` cells, after a line begun that takes `used` cells. A word that is
wider than a line stands on one of its own. -/
def fillLines (width : Nat) (line : Text) (used : Nat) : List Text → List Text
  | [] => [line]
  | word :: rest =>
    let needed := (word.dropEndWhile CodePoint.isBlank).cells
    if used + needed ≤ width then fillLines width (line ++ word) (used + word.cells) rest
    else if line.isEmpty then fillLines width word word.cells rest
    else line :: fillLines width word word.cells rest

/-- The text less the blanks at its end that stand beyond `width`. -/
def trimBeyond (width : Nat) (t : Text) : Text :=
  let blanks := (t.reverse.takeWhile CodePoint.isBlank).length
  t.take (t.length - min blanks (t.length - width))

/-- A cell as lines of exactly `width` cells. -/
def wrap (width : Nat) (cell : Text) : List Text :=
  cell.lines.flatMap fun line =>
    (fillLines width [] 0 (wordsWithBlanks (line.length + 1) line)).map fun l =>
      (trimBeyond width l).fitted width

/-! ## Widths -/

/-- A quotient rounded to the nearest number, a half to the even one. -/
def roundedQuotient (a b : Nat) : Nat :=
  let q := a / b
  if 2 * (a % b) < b ∨ (2 * (a % b) = b ∧ q % 2 = 0) then q else q + 1

/-- Takes `excess` cells from the columns that are `widest`, `sharers` in number, in even shares of
at most `limit`. -/
def shareOut (widest limit : Nat) : (excess sharers : Nat) → List Nat → List Nat
  | _, _, [] => []
  | excess, sharers, w :: rest =>
    if w = widest ∧ 0 < sharers then
      let share := min limit (roundedQuotient excess sharers)
      (w - share) :: shareOut widest limit (excess - share) (sharers - 1) rest
    else w :: shareOut widest limit excess sharers rest

/-- Narrows the widest columns, down to the next widest at a time, until the table fits. -/
def narrow (available : Nat) : Nat → List Nat → List Nat
  | 0, widths => widths
  | fuel + 1, widths =>
    let total := widths.foldl (· + ·) 0
    if total ≤ available then widths
    else
      let excess := total - available
      let widest := widths.foldl max 0
      let next := (widths.filter (· ≠ widest)).foldl max 0
      narrow available fuel
        (shareOut widest (min excess (widest - next)) excess (widths.count widest) widths)

namespace Table

/-- The number of cells in a line of the page. -/
def pageWidth : Nat := 200

/-- The cells of a column, its header first. -/
def column (t : Table) (i : Nat) : List Text :=
  (t.headers :: t.rows).map fun row => row[i]?.getD []

/-- The width of a column that holds all its lines, with a space on either side. -/
def naturalWidth (cells : List Text) : Nat :=
  ((cells.flatMap Text.lines).map Text.cells).foldl max 0 + 2

/-- The width of every column, with a space on either side. -/
def widths (t : Table) : List Nat :=
  let natural := (List.range t.headers.length).map fun i => naturalWidth (t.column i)
  narrow (pageWidth - (t.headers.length + 1)) (natural.foldl (· + ·) 0 + 1) natural

/-! ## Drawing -/

/-- A horizontal line. -/
def rule (widths : List Nat) (left line cross right : Text) : Text :=
  left ++ Text.join cross (widths.map fun w => Text.times w line) ++ right ++ "\n"

/-- The lines of a row, each column in its width and as high as the highest. -/
def row (widths : List Nat) (bar : Text) (cells : List Text) : Text :=
  let columns := (widths.zip cells).map fun (w, cell) => (w, wrap (w - 2) cell)
  let height := (columns.map fun (_, lines) => lines.length).foldl max 1
  ((List.range height).map fun i =>
    bar ++ Text.join bar (columns.map fun (w, lines) =>
      " " ++ (lines[i]?.getD []).padRight (w - 2) ++ " ") ++ bar ++ "\n").flatten

/-- The table as text. -/
def render (t : Table) : Text :=
  let ws := t.widths
  t.title.centred (ws.foldl (· + ·) 0 + ws.length + 1) ++ "\n" ++
    rule ws "┏" "━" "┳" "┓" ++ row ws "┃" t.headers ++ rule ws "┡" "━" "╇" "┩" ++
    (t.rows.map (row ws "│")).flatten ++ rule ws "└" "─" "┴" "┘"

end Table

end Refactory
