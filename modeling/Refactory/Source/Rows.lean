import Refactory.Text.Class

/-! # Rows that continue a string

Lines that begin inside a string literal belong to the literal: indenting must leave them alone.
`continuationRows` finds them by reading a text line by line, keeping only what decides where a
string begins and ends: open brackets, line continuations, indentation and the open string. A text
that does not hold together (a string or a bracket left open, an unindent to no open level) has no
such rows. -/

namespace Refactory.Source

/-- An unfinished string literal: its quote, whether the quote stands three times, and the row on
which it began. -/
structure OpenString where
  quote : CodePoint
  triple : Bool
  row : Nat

/-- What is known between two lines. -/
structure Scan where
  /-- Brackets opened and not closed. -/
  depth : Int := 0
  /-- Whether the last line ended in a backslash. -/
  continued : Bool := false
  opened : Option OpenString := none
  /-- Whether an open string must have a backslash at the end of each line. -/
  needsBackslash : Bool := false
  /-- The indentation levels, the innermost first. -/
  indents : List Nat := [0]
  /-- Rows found so far, in reverse. -/
  rows : List Nat := []

/-- The rest after the end of a string with a single quote, if it ends in this text. -/
def closeSingle (quote : CodePoint) : Text → Option Text
  | [] => none
  | c :: rest =>
    if c = quote then some rest
    else if c = '\\' then
      match rest with
      | d :: rest' => if d = '\n' then none else closeSingle quote rest'
      | [] => none
    else closeSingle quote rest

/-- The rest after the end of a string with a threefold quote, if it ends in this text. -/
def closeTriple (quote : CodePoint) : Text → Option Text
  | [] => none
  | c :: rest =>
    if c = quote then
      match rest with
      | d :: e :: rest' =>
        if d = quote ∧ e = quote then some rest' else closeTriple quote (d :: e :: rest')
      | _ => none
    else if c = '\\' then
      match rest with
      | d :: rest' => if d = '\n' then none else closeTriple quote rest'
      | [] => none
    else closeTriple quote rest

/-- The rest after the end of an open string. -/
def OpenString.close (s : OpenString) (t : Text) : Option Text :=
  if s.triple then closeTriple s.quote t else closeSingle s.quote t

/-- Whether a line ends in a backslash and a line end. -/
def endsInBackslash (line : Text) : Bool :=
  match line.reverse with
  | a :: b :: c :: _ => a = '\n' && (b = '\\' || (b = '\r' && c = '\\'))
  | [a, b] => a = '\n' && b = '\\'
  | _ => false

/-- How a string that stays on its first line ends: with a quote, with a backslash before the line
end, or not at all. -/
inductive FirstLine
  | closed (rest : Text)
  | continued
  | unclosed

/-- Reads the first line of a string with a single quote. -/
def firstLine (quote : CodePoint) : Text → FirstLine
  | [] => .unclosed
  | c :: rest =>
    if c = quote then .closed rest
    else if c = '\n' then .unclosed
    else if c = '\\' then
      match rest with
      | [] => .unclosed
      | d :: rest' =>
        if d = '\n' then .continued
        else if d = '\r' ∧ rest' = "\n" then .continued
        else firstLine quote rest'
    else firstLine quote rest

/-- What the code of a line leaves behind. -/
structure LineEnd where
  depth : Int
  continued : Bool := false
  opened : Option (CodePoint × Bool) := none

/-- Reads the code of a line, outside strings; the fuel bounds its length. -/
def readCode : Nat → Int → Text → LineEnd
  | 0, depth, _ => { depth }
  | _ + 1, depth, [] => { depth }
  | fuel + 1, depth, c :: rest =>
    if c = '#' then
      readCode fuel depth (rest.dropWhile fun d => d ≠ '\r' && d ≠ '\n')
    else if c = '\'' ∨ c = '"' then
      if [c, c].isPrefixOf rest then
        match closeTriple c (rest.drop 2) with
        | some rest' => readCode fuel depth rest'
        | none => { depth, opened := some (c, true) }
      else
        match firstLine c rest with
        | .closed rest' => readCode fuel depth rest'
        | .continued => { depth, opened := some (c, false) }
        | .unclosed => readCode fuel depth rest
    else if c = '\\' ∧ (rest = "\n" ∨ rest = "\r\n") then { depth, continued := true }
    else if c = '(' ∨ c = '[' ∨ c = '{' then readCode fuel (depth + 1) rest
    else if c = ')' ∨ c = ']' ∨ c = '}' then readCode fuel (depth - 1) rest
    else readCode fuel depth rest

/-- The column after leading blanks, and what follows them. -/
def leading (column : Nat) : Text → Nat × Text
  | [] => (column, [])
  | c :: rest =>
    if c = ' ' then leading (column + 1) rest
    else if c = '\t' then leading ((column / 8 + 1) * 8) rest
    else if c = '\x0c' then leading 0 rest
    else (column, c :: rest)

/-- The levels after a line at `column`; none if it unindents to no open level. -/
def reindent (column : Nat) : List Nat → Option (List Nat)
  | [] => none
  | level :: outer =>
    if level < column then some (column :: level :: outer)
    else if level = column then some (level :: outer)
    else unindent column outer
where
  /-- Drops the levels above `column`, which must be open. -/
  unindent (column : Nat) : List Nat → Option (List Nat)
    | [] => none
    | level :: outer =>
      if level = column then some (level :: outer)
      else if level < column then none
      else unindent column outer

/-- Records the rows after the first of a string that ends on `row`. -/
def Scan.record (s : Scan) (first row : Nat) : Scan :=
  { s with rows := (List.range' (first + 1) (row - first)).reverse ++ s.rows }

/-- Reads code on a line and takes over what it leaves. -/
def Scan.code (s : Scan) (row : Nat) (t : Text) : Scan :=
  let e := readCode t.length s.depth t
  { s with
    depth := e.depth
    continued := e.continued
    opened := e.opened.map fun (quote, triple) => ⟨quote, triple, row⟩
    needsBackslash := match e.opened with
      | some (_, false) => true
      | _ => s.needsBackslash }

/-- Reads one line. -/
def Scan.line (s : Scan) (row : Nat) (line : Text) : Option Scan :=
  match s.opened with
  | some o =>
    match o.close line with
    | some rest =>
      some (({ s with opened := none, needsBackslash := false }.record o.row row).code row rest)
    | none =>
      if s.needsBackslash && !endsInBackslash line then
        some ({ s with opened := none }.record o.row row)
      else some s
  | none =>
    if s.depth = 0 ∧ !s.continued then
      match leading 0 line with
      | (_, []) => some s
      | (column, c :: rest) =>
        if c = '#' ∨ c = '\r' ∨ c = '\n' then some s
        else (reindent column s.indents).map fun levels =>
          { s with indents := levels }.code row (c :: rest)
    else some ({ s with continued := false }.code row line)

/-- The lines of a text, each with its line feed; the last may lack it and is not empty. -/
def linesWithEnds (t : Text) : List Text :=
  let parts := t.lines
  let ended := parts.dropLast.map fun l => l ++ Text.ofString "\n"
  match parts.getLast? with
  | some last => if last.isEmpty then ended else ended ++ [last]
  | none => ended

/-- Reads the lines from `row` on. -/
def scanLines (s : Scan) (row : Nat) : List Text → Option Scan
  | [] => if s.opened.isNone && s.depth == 0 && !s.continued then some s else none
  | line :: rest =>
    match s.line row line with
    | some s' => scanLines s' (row + 1) rest
    | none => none

/-- The rows of a text, counted from one, that begin inside a string literal, in order. -/
def continuationRows (t : Text) : List Nat :=
  match scanLines {} 1 (linesWithEnds t) with
  | some s => s.rows.reverse
  | none => []

end Refactory.Source
