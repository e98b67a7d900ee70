import Refactory.Grammar.Numeral
import Refactory.Grammar.Token
import Refactory.Text.Compatible
import Refactory.Text.Identifier

/-! # From characters to tokens

Indentation at the start of a logical line becomes `indent` and `dedent` tokens; within brackets
line ends mean nothing. A tab counts twice, as a step to the next multiple of eight and as a single
column, and both counts must agree about what is deeper.

* `tokenize`: the tokens of a passage; none if some part of it is no token or the layout is
  inconsistent. -/

namespace Refactory.Grammar

/-- Operators and delimiters, the longest first. -/
def symbols : List (List Char) :=
  ["**=", "//=", "<<=", ">>=", "...",
    "!=", "%=", "&=", "**", "*=", "+=", "-=", "->", "//", "/=", ":=", "<<", "<=", "<>", "==", ">=",
    ">>", "@=", "^=", "|=",
    "%", "&", "(", ")", "*", "+", ",", "-", ".", "/", ":", ";", "<", "=", ">", "@", "[", "]", "^",
    "\x7b", "|", "\x7d", "~"].map String.toList

/-- The bracket that a bracket closes. -/
def opening? (c : Char) : Option Char :=
  if c = ')' then some '(' else if c = ']' then some '[' else if c = '}' then some '{' else none

/-- A column of indentation, counted in both ways. -/
structure Column where
  wide : Nat := 0
  narrow : Nat := 0
deriving DecidableEq, Inhabited

/-- How many brackets can be open at once. -/
def mostBrackets : Nat := 200

/-- How far a passage has been read. -/
structure Scanner where
  rest : Passage
  /-- Whether indentation comes next. -/
  lineStart : Bool := true
  /-- Brackets left open, the innermost first. -/
  brackets : List Char := []
  /-- The indentation levels above zero, the innermost first. -/
  levels : List Column := []
  /-- How many brackets can be open at once. -/
  mostOpen : Nat := mostBrackets
deriving Inhabited

/-- How many levels of indentation there can be, counting the outermost. -/
def mostLevels : Nat := 100

/-- What a step of reading leads to. -/
inductive Scan
  | more (tokens : List Token) (next : Scanner)
  | done
  | failed

/-- The characters of a passage from its `n`th on. -/
def Passage.drop (n : Nat) (s : Passage) : Passage := { s with chars := s.chars.drop n }

/-- The characters of a passage as long as they satisfy `p`. -/
def Passage.takeWhile (p : Char → Bool) (s : Passage) : List Char :=
  (s.chars.takeWhile (p ·.char)).map (·.char)

/-- Whether the characters come next in a passage. -/
def startsWith : List Char → List Placed → Bool
  | [], _ => true
  | _ :: _, [] => false
  | c :: cs, p :: ps => c = p.char && startsWith cs ps

/-- White space within a line. -/
def isSpace (c : Char) : Bool := c = ' ' || c = '\t' || c = '\x0c'

/-- What follows a backslash that continues a line: the next line, if there is one. -/
def continued : List Placed → Option (List Placed)
  | p :: q :: rest => if p.char = '\n' then some (q :: rest) else none
  | _ => none

/-- The indentation of a line and what comes after it. A backslash fixes the column at which the
continued line counts, if it does not stand at the margin. -/
def indentation : Nat → Column → Nat → List Placed → Option (Column × List Placed)
  | 0, _, _, _ => none
  | fuel + 1, column, fixed, chars =>
    let final : Column := if fixed = 0 then column else ⟨fixed, fixed⟩
    match chars with
    | [] => some (final, [])
    | p :: rest =>
      if p.char = ' ' then indentation fuel ⟨column.wide + 1, column.narrow + 1⟩ fixed rest
      else if p.char = '\t' then
        indentation fuel ⟨(column.wide / 8 + 1) * 8, column.narrow + 1⟩ fixed rest
      else if p.char = '\x0c' then indentation fuel {} fixed rest
      else if p.char = '\\' then do
        let rest ← continued rest
        indentation fuel column (if fixed = 0 then column.wide else fixed) rest
      else some (final, chars)

/-- The levels that a line at `column` closes, dropped; the column must then be a level. -/
def closeLevels (column : Column) : List Column → Option (Nat × List Column)
  | [] => if column = {} then some (0, []) else none
  | level :: outer =>
    if column.wide < level.wide then (closeLevels column outer).map fun (n, ls) => (n + 1, ls)
    else if column = level then some (0, level :: outer)
    else none

/-- Layout tokens for a line at `column`, and the levels that are open on it. -/
def layout (at_ : Position) (column : Column) (levels : List Column) :
    Option (List Token × List Column) :=
  let current := levels.headD {}
  if current.wide < column.wide then
    if current.narrow < column.narrow ∧ levels.length + 1 < mostLevels then
      some ([⟨.indent, ⟨at_, at_⟩⟩], column :: levels)
    else none
  else
    (closeLevels column levels).map fun (n, ls) => (List.replicate n ⟨.dedent, ⟨at_, at_⟩⟩, ls)

/-- Reads the start of a line. Blank lines and comments have no indentation. -/
def Scanner.line (s : Scanner) : Scan :=
  match indentation (s.rest.chars.length + 1) {} 0 s.rest.chars with
  | none => .failed
  | some (column, chars) =>
    let rest : Passage := { s.rest with chars }
    let first := chars.head?.map (·.char)
    if first = some '#' ∨ first = some '\n' then
      match chars.dropWhile (·.char ≠ '\n') with
      | [] => .more [] { s with rest := { rest with chars := [] }, lineStart := false }
      | _ :: chars => .more [] { s with rest := { rest with chars } }
    else if !s.brackets.isEmpty then .more [] { s with rest, lineStart := false }
    else
      match layout rest.here column s.levels with
      | none => .failed
      | some (tokens, levels) => .more tokens { s with rest, levels, lineStart := false }

/-- A token of `n` characters. -/
def Scanner.emit (s : Scanner) (n : Nat) (lexeme : Lexeme) : Scan :=
  let rest := s.rest.drop n
  .more [⟨lexeme, ⟨s.rest.here, rest.here⟩⟩] { s with rest }

/-- The marks that a word in front of a quote stands for. -/
def StringMarks.ofWord (word : List Char) : Option StringMarks :=
  let lower := word.map Char.toLower
  if lower = [] then some {}
  else if lower = ['b'] then some { bytes := true }
  else if lower = ['u'] then some { unicode := word = ['u'] }
  else if lower = ['r'] then some { raw := true }
  else if lower = ['f'] then some { formatted := true }
  else if lower = ['b', 'r'] ∨ lower = ['r', 'b'] then some { raw := true, bytes := true }
  else if lower = ['f', 'r'] ∨ lower = ['r', 'f'] then some { raw := true, formatted := true }
  else none

/-- The number of characters before the closing quote of a string. A backslash takes the character
behind it along, and a single quote must close on its line. -/
def stringLength (quote : Char) (triple : Bool) (n : Nat) : List Placed → Option Nat
  | [] => none
  | p :: rest =>
    if p.char = quote ∧ (!triple ∨ startsWith [quote, quote] rest) then some n
    else if p.char = '\n' ∧ !triple then none
    else if p.char = '\\' then
      match rest with
      | [] => none
      | _ :: rest' => stringLength quote triple (n + 2) rest'
    else stringLength quote triple (n + 1) rest

/-- A string literal behind `skip` characters of marks. -/
def Scanner.string (s : Scanner) (marks : StringMarks) (skip : Nat) (quote : Char) : Scan :=
  let triple := startsWith [quote, quote, quote] (s.rest.drop skip).chars
  let width := if triple then 3 else 1
  let inside := s.rest.drop (skip + width)
  match stringLength quote triple 0 inside.chars with
  | none => .failed
  | some n =>
    s.emit (skip + width + n + width)
      (.string marks ⟨inside.chars.take n, (inside.drop n).here⟩)

/-- A name in its normal form, or a keyword. -/
def Scanner.word (s : Scanner) (word : List Char) : Scan :=
  if word.all (·.toNat < 0x80) then
    let text := String.ofList word
    s.emit word.length (if keywords.contains text then .symbol text else .name (Text.ofChars word))
  else if (Text.ofChars word).isIdentifier then
    s.emit word.length (.name (Text.ofChars (compatibleForm word)))
  else .failed

/-- Whether a character can stand in a numeral or decide how it ends. -/
def isNumeralChar (c : Char) : Bool := isWordChar c || c = '.' || c = '+' || c = '-'

/-- A number. -/
def Scanner.numeral (s : Scanner) : Scan :=
  let chars := s.rest.takeWhile isNumeralChar
  match Numeral.read chars with
  | none => .failed
  | some (value, rest) => s.emit (chars.length - rest.length) (.number value)

/-- An operator or a delimiter. Brackets must match. -/
def Scanner.symbol (s : Scanner) (c : Char) : Scan :=
  match symbols.find? (startsWith · s.rest.chars) with
  | none => .failed
  | some text =>
    let lexeme : Lexeme := .symbol (String.ofList text)
    if c = '(' ∨ c = '[' ∨ c = '{' then
      if s.brackets.length < s.mostOpen then
        { s with brackets := c :: s.brackets }.emit text.length lexeme
      else .failed
    else
      match opening? c with
      | none => s.emit text.length lexeme
      | some left =>
        if s.brackets.head? = some left then
          { s with brackets := s.brackets.tail }.emit text.length lexeme
        else .failed

/-- A string, a word, or a symbol that begins with `c`. -/
def Scanner.wordOrSymbol (s : Scanner) (c : Char) : Scan :=
  let word := s.rest.takeWhile isWordChar
  match (s.rest.drop word.length).chars.head?.map (·.char) with
  | some q =>
    if q = '"' ∨ q = '\'' then
      match StringMarks.ofWord word with
      | some marks => s.string marks word.length q
      | none => s.word word
    else if word.isEmpty then s.symbol c
    else s.word word
  | none => if word.isEmpty then s.symbol c else s.word word

/-- Reads what comes next within a line. -/
def Scanner.inLine (s : Scanner) : Scan :=
  match s.rest.chars with
  | [] => if s.brackets.isEmpty then .done else .failed
  | p :: more =>
    let c := p.char
    if isSpace c then .more [] { s with rest := s.rest.drop 1 }
    else if c = '#' then
      .more [] { s with rest := { s.rest with chars := more.dropWhile (·.char ≠ '\n') } }
    else if c = '\n' then
      if s.brackets.isEmpty then { s with lineStart := true }.emit 1 .newline
      else .more [] { s with rest := s.rest.drop 1, lineStart := true }
    else if c = '\\' then
      match continued more with
      | none => .failed
      | some chars => .more [] { s with rest := { s.rest with chars } }
    else if c.isDigit then s.numeral
    else if c = '.' ∧ (more.head?.map (·.char.isDigit)) = some true then s.numeral
    else s.wordOrSymbol c

/-- Reads what comes next. -/
def Scanner.step (s : Scanner) : Scan := if s.lineStart then s.line else s.inLine

/-- The tokens from here on; the fuel bounds the number of steps. -/
def Scanner.tokens : Nat → Scanner → Option (List Token)
  | 0, _ => none
  | fuel + 1, s =>
    match s.step with
    | .failed => none
    | .done => some []
    | .more tokens next => (next.tokens fuel).map (tokens ++ ·)

/-- The tokens of a passage in which no more than `limit` brackets are open at once. -/
def tokenizeWithin (limit : Nat) (p : Passage) : Option (List Token) :=
  Scanner.tokens (3 * p.chars.length + 3) { rest := p, mostOpen := limit }

/-- The tokens of a passage. -/
def tokenize (p : Passage) : Option (List Token) := tokenizeWithin mostBrackets p

end Refactory.Grammar
