/-! # Text

A `Text` is a list of code points. Program text can hold lone surrogates, which no `Char` is,
so a code point is either a Unicode scalar value or a surrogate.

* `Text.ofString`: the text of a string literal, inserted by coercion.
* `Text.chars?`: the characters of a text, if it holds no surrogate.
* `Text.splitOn`, `Text.join`: cutting at a separator and putting back.
* `Text.hasInfix`, `Text.stripped`: searching and trimming. -/

namespace Refactory

/-- A code point: a Unicode scalar value, or the lone surrogate `U+D800 + offset`. -/
inductive CodePoint
  | scalar (c : Char)
  | surrogate (offset : Fin 0x800)
deriving DecidableEq, Inhabited

namespace CodePoint

instance : Coe Char CodePoint := ⟨scalar⟩

/-- The number of a code point. -/
def val : CodePoint → Nat
  | scalar c => c.toNat
  | surrogate offset => 0xD800 + offset.val

/-- The code point of a number, if there is one. -/
def ofNat? (n : Nat) : Option CodePoint :=
  if h : 0xD800 ≤ n ∧ n < 0xE000 then some (surrogate ⟨n - 0xD800, by omega⟩)
  else if n < 0x110000 then some (scalar (Char.ofNat n))
  else none

/-- The scalar value of a code point, if it is one. -/
def char? : CodePoint → Option Char
  | scalar c => some c
  | surrogate _ => none

/-- Whether a code point is a lone surrogate. -/
def isSurrogate : CodePoint → Bool
  | scalar _ => false
  | surrogate _ => true

/-- The character itself, or the replacement character for a surrogate. -/
def display : CodePoint → Char
  | scalar c => c
  | surrogate _ => '\uFFFD'

end CodePoint

/-- Program text: a sequence of code points. -/
abbrev Text := List CodePoint

namespace Text

/-- The text of a string. -/
def ofString (s : String) : Text := s.toList.map .scalar

instance : Coe String Text := ⟨ofString⟩

/-- The text of a list of characters. -/
def ofChars (cs : List Char) : Text := cs.map .scalar

/-- The characters of a text, if it holds no surrogate. -/
def chars? (t : Text) : Option (List Char) := t.mapM CodePoint.char?

/-- The text as a string, a surrogate shown as the replacement character. -/
def display (t : Text) : String := String.ofList (t.map CodePoint.display)

/-- The decimal digits of a natural number. -/
def ofNat (n : Nat) : Text := ofChars (Nat.toDigits 10 n)

/-- The decimal digits of an integer, after a minus sign if it is negative. -/
def ofInt : Int → Text
  | .ofNat n => ofNat n
  | .negSucc n => "-" ++ ofNat (n + 1)

/-- The parts one after the other, `sep` between each two. -/
def join (sep : Text) (parts : List Text) : Text := sep.intercalate parts

/-- The parts between the occurrences of `sep`: one more than there are occurrences. -/
def splitOn (sep : CodePoint) : Text → List Text
  | [] => [[]]
  | c :: rest =>
    match splitOn sep rest with
    | [] => [[c]]
    | first :: others => if c = sep then [] :: first :: others else (c :: first) :: others

/-- The lines of a text, cut at every line feed. -/
def lines (t : Text) : List Text := t.splitOn '\n'

/-- The part before the first `sep`, the whole text if there is none. -/
def before (sep : CodePoint) (t : Text) : Text := t.takeWhile (· ≠ sep)

/-- Whether `part` occurs in the text without gaps. -/
def hasInfix (part : Text) : Text → Bool
  | [] => part.isEmpty
  | c :: rest => part.isPrefixOf (c :: rest) || hasInfix part rest

/-- The text without the trailing points that satisfy `p`. -/
def dropEndWhile (p : CodePoint → Bool) (t : Text) : Text := (t.reverse.dropWhile p).reverse

/-- The text without the points that satisfy `p` at either end. -/
def trimWhile (p : CodePoint → Bool) (t : Text) : Text := dropEndWhile p (t.dropWhile p)

/-- Whether `s` stands before `t` in the order by code points. -/
def lt : Text → Text → Bool
  | _, [] => false
  | [], _ :: _ => true
  | a :: s, b :: t => a.val < b.val || (a.val == b.val && lt s t)

/-- Whether `s` stands before `t` in the order by code points or equals it. -/
def le (s t : Text) : Bool := !lt t s

/-- The texts in increasing order, each once. -/
def sortedSet (ts : List Text) : List Text := (ts.mergeSort le).eraseReps

/-- The first run of points that satisfy `p`: its first point, where it begins and where it ends. -/
def firstRun (p : CodePoint → Bool) (t : Text) : Option (CodePoint × Nat × Nat) :=
  let start := (t.takeWhile (!p ·)).length
  match t.drop start with
  | [] => none
  | c :: rest => some (c, start, start + 1 + (rest.takeWhile p).length)

/-- A text repeated `n` times. -/
def times (n : Nat) (t : Text) : Text := (List.replicate n t).flatten

end Text

end Refactory
