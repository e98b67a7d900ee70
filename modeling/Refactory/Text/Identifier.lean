import Refactory.Text.Class
import Refactory.Text.Table.Identifier

/-! # Identifiers and keywords

A name is an identifier when its first character can begin one and the others can continue one;
it can be bound when it is no keyword either. -/

namespace Refactory

namespace CodePoint

/-- Whether an identifier can begin with this point. -/
def beginsIdentifier (c : CodePoint) : Bool := inClass Text.Table.identifierStart c.val

/-- Whether an identifier can go on with this point. -/
def continuesIdentifier (c : CodePoint) : Bool := inClass Text.Table.identifierPart c.val

end CodePoint

/-- The reserved words, which no name can be. -/
def keywords : List String := [
  "False", "None", "True", "and", "as", "assert", "async", "await", "break", "class", "continue",
  "def", "del", "elif", "else", "except", "finally", "for", "from", "global", "if", "import", "in",
  "is", "lambda", "nonlocal", "not", "or", "pass", "raise", "return", "try", "while", "with",
  "yield"]

namespace Text

/-- Whether a text has the form of an identifier, keywords included. -/
def isIdentifier : Text → Bool
  | [] => false
  | c :: rest => c.beginsIdentifier && rest.all CodePoint.continuesIdentifier

/-- Whether a text is a reserved word. -/
def isKeyword (t : Text) : Bool := keywords.any fun k => ofString k == t

/-- Whether a text can name a definition. -/
def isBindable (t : Text) : Bool := t.isIdentifier && !t.isKeyword

/-- The maximal runs of ASCII letters, digits and underscores that do not begin with a digit,
found from left to right. `word` is the run being read, in reverse. -/
def asciiWordsFrom (word : Text) : Text → List Text
  | [] => if word.isEmpty then [] else [word.reverse]
  | c :: rest =>
    if c.isAsciiLetter || (c.isAsciiDigit && !word.isEmpty) then asciiWordsFrom (c :: word) rest
    else if word.isEmpty then asciiWordsFrom [] rest
    else word.reverse :: asciiWordsFrom [] rest

/-- The ASCII identifiers that occur in a text. -/
def asciiWords (t : Text) : List Text := asciiWordsFrom [] t

end Text

end Refactory
