import Refactory.Text

/-! # Positions in a source

A position knows its line, its column in bytes and its offset in code points. `placed` gives every
character of a source its position; each of the three line ends becomes one line feed there, so that
readers need to know only that one, while offsets still count what the source holds.

* `Position`, `Span`: a place and the stretch between two places.
* `placed`: the characters of a source with their positions.
* `Span.slice`: the part of a source that a span covers. -/

namespace Refactory.Grammar

/-- A place in a source: its line from one, its column in bytes from zero, and the number of code
points before it. -/
structure Position where
  line : Nat := 1
  column : Nat := 0
  offset : Nat := 0
deriving DecidableEq, Inhabited

/-- The stretch of source from `start` up to `stop`. -/
structure Span where
  start : Position
  stop : Position
deriving DecidableEq, Inhabited

/-- A character with its position. -/
structure Placed where
  char : Char
  at_ : Position
deriving DecidableEq, Inhabited

/-- The position after a character on the same line. -/
def Position.after (p : Position) (c : Char) : Position :=
  { p with column := p.column + c.utf8Size, offset := p.offset + 1 }

/-- The first position of the next line, `width` code points on. -/
def Position.nextLine (p : Position) (width : Nat) : Position :=
  { line := p.line + 1, column := 0, offset := p.offset + width }

/-- Characters with their positions, and the position at which they end. -/
structure Passage where
  chars : List Placed
  stop : Position
deriving Inhabited

/-- Puts a character in front of a passage. -/
def Passage.cons (p : Placed) (s : Passage) : Passage := { s with chars := p :: s.chars }

/-- The position of what comes next in a passage. -/
def Passage.here (s : Passage) : Position :=
  match s.chars with
  | p :: _ => p.at_
  | [] => s.stop

/-- The characters of a source from position `p` on, every line end as a line feed. -/
def placedFrom (p : Position) : List Char → Passage
  | [] => ⟨[], p⟩
  | '\r' :: '\n' :: rest => (placedFrom (p.nextLine 2) rest).cons ⟨'\n', p⟩
  | c :: rest =>
    if c = '\n' ∨ c = '\r' then (placedFrom (p.nextLine 1) rest).cons ⟨'\n', p⟩
    else (placedFrom (p.after c) rest).cons ⟨c, p⟩

/-- The characters of a source with their positions. -/
def placed (source : List Char) : Passage := placedFrom {} source

/-- The passage with a line feed at its end, unless it is empty or has one. -/
def Passage.ended (s : Passage) : Passage :=
  match s.chars.getLast? with
  | none => s
  | some p =>
    if p.char = '\n' then s
    else ⟨s.chars ++ [⟨'\n', s.stop⟩], s.stop.nextLine 0⟩

/-- The part of a source that a span covers. -/
def Span.slice (span : Span) (source : Text) : Text :=
  (source.drop span.start.offset).take (span.stop.offset - span.start.offset)

end Refactory.Grammar
