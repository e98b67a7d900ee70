import Refactory.Text.Class
import Refactory.Text.Table.Printable

/-! # Quoted text

How messages and file listings quote a text: in single quotes, unless it holds a single quote and
no double one; a backslash, the quote and every unprintable point are escaped. -/

namespace Refactory

/-- The hexadecimal digits of `n`, padded with zeros to `width`. -/
def Text.hex (width n : Nat) : Text :=
  let digits := Nat.toDigits 16 n
  ofChars (List.replicate (width - digits.length) '0' ++ digits)

namespace CodePoint

/-- Whether a point is shown as itself. -/
def isPrintable (c : CodePoint) : Bool := inClass Text.Table.printable c.val

/-- The shortest numeric escape of a point. -/
def numericEscape (c : CodePoint) : Text :=
  if c.val < 0x100 then "\\x" ++ Text.hex 2 c.val
  else if c.val < 0x10000 then "\\u" ++ Text.hex 4 c.val
  else "\\U" ++ Text.hex 8 c.val

/-- A point as it stands between two `quote`s. -/
def quoted (quote : CodePoint) (c : CodePoint) : Text :=
  if c = quote ∨ c = '\\' then ['\\', c]
  else if c = '\t' then "\\t"
  else if c = '\n' then "\\n"
  else if c = '\r' then "\\r"
  else if c.isPrintable then [c]
  else c.numericEscape

end CodePoint

namespace Text

/-- The quote that a text is put between. -/
def quoteMark (t : Text) : CodePoint :=
  if t.contains (CodePoint.scalar '\'') && !t.contains (CodePoint.scalar '"') then '"' else '\''

/-- The text between quotes. -/
def quoted (t : Text) : Text :=
  [t.quoteMark] ++ t.flatMap (CodePoint.quoted t.quoteMark) ++ [t.quoteMark]

end Text

end Refactory
