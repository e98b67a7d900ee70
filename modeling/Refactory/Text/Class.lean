import Refactory.Text

/-! # Character classes

A class of code points is given by its boundaries, the sorted numbers at which membership changes:
a number is in the class iff an odd number of boundaries do not exceed it. Blanks are the
characters that trimming removes. -/

namespace Refactory

/-- Whether `n` is in the class with the given boundaries. -/
def inClass (bounds : List Nat) (n : Nat) : Bool := bounds.countP (· ≤ n) % 2 == 1

namespace CodePoint

/-- Where the class of blanks begins and ends. -/
def blankBounds : List Nat := [
  0x9, 0xe, 0x1c, 0x21, 0x85, 0x86, 0xa0, 0xa1, 0x1680, 0x1681, 0x2000, 0x200b, 0x2028, 0x202a,
  0x202f, 0x2030, 0x205f, 0x2060, 0x3000, 0x3001]

/-- A blank: white space, a separator of lines or records, or a space of any width. -/
def isBlank (c : CodePoint) : Bool := inClass blankBounds c.val

/-- An ASCII letter or an underscore. -/
def isAsciiLetter (c : CodePoint) : Bool :=
  (0x41 ≤ c.val && c.val ≤ 0x5a) || (0x61 ≤ c.val && c.val ≤ 0x7a) || c.val == 0x5f

/-- An ASCII digit. -/
def isAsciiDigit (c : CodePoint) : Bool := 0x30 ≤ c.val && c.val ≤ 0x39

end CodePoint

namespace Text

/-- The text without the blanks at either end. -/
def stripped (t : Text) : Text := t.trimWhile CodePoint.isBlank

/-- Whether a text holds nothing but blanks. -/
def isBlank (t : Text) : Bool := t.all CodePoint.isBlank

end Text

end Refactory
