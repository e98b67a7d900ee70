import Refactory.Grammar.Position
import Refactory.Number

/-! # Tokens

A token is a lexeme with the stretch of source that it covers. Keywords, operators and delimiters
are symbols; layout (line ends and changes of indentation) has lexemes of its own.

A string literal is kept as it stands in the source, with the marks in front of it: what its body
means depends on them and is read later. -/

namespace Refactory.Grammar

/-- The marks in front of a string literal: whether backslashes stand for themselves, and what the
literal makes. -/
structure StringMarks where
  raw : Bool := false
  bytes : Bool := false
  formatted : Bool := false
  /-- A small `u`, which nothing but the canonical text of the literal shows. -/
  unicode : Bool := false
deriving DecidableEq, Inhabited

/-- What a token is. -/
inductive Lexeme
  | name (id : Text)
  | symbol (text : String)
  | number (value : Number)
  | string (marks : StringMarks) (body : Passage)
  | newline
  | indent
  | dedent
deriving Inhabited

/-- Whether a lexeme is layout, which the extent of a construct leaves out. -/
def Lexeme.isLayout : Lexeme → Bool
  | newline | indent | dedent => true
  | _ => false

/-- A lexeme and where it stands. -/
structure Token where
  lexeme : Lexeme
  span : Span
deriving Inhabited

end Refactory.Grammar
