import Refactory.Grammar.Numeral
import Refactory.Text.Names

/-! # Escapes in string literals

A backslash begins an escape: for a character that cannot stand bare, by name or by number, or for
nothing at a line end. In front of anything else it stands for itself.

* `unescape`: the text that the body of a string literal stands for.
* `unescapeBytes`: the bytes that the body of a byte literal stands for. -/

namespace Refactory.Grammar

/-- The character that a one-letter escape stands for. -/
def letterEscape? (c : Char) : Option Char :=
  match c with
  | '\\' => some '\\'
  | '\'' => some '\''
  | '"' => some '"'
  | 'a' => some '\x07'
  | 'b' => some '\x08'
  | 'f' => some '\x0c'
  | 'n' => some '\n'
  | 'r' => some '\r'
  | 't' => some '\t'
  | 'v' => some '\x0b'
  | _ => none

/-- The number written by exactly `n` hexadecimal digits, and what follows them. -/
def hexDigits (n : Nat) (cs : List Char) : Option (Nat × List Char) :=
  let digits := cs.take n
  if digits.length = n ∧ digits.all (Numeral.isDigitOf 16) then
    some (Numeral.valueOf 16 digits, cs.drop n)
  else none

/-- The number written by at most three octal digits, and what follows them. -/
def octalDigits (cs : List Char) : Nat × List Char :=
  let digits := (cs.take 3).takeWhile (Numeral.isDigitOf 8)
  (Numeral.valueOf 8 digits, cs.drop digits.length)

/-- The character named between braces, and what follows them. -/
def namedEscape (cs : List Char) : Option (Text × List Char) :=
  match cs with
  | '{' :: rest =>
    match rest.dropWhile (· ≠ '}') with
    | _ :: after => (Names.find? (rest.takeWhile (· ≠ '}'))).map (·, after)
    | [] => none
  | _ => none

/-- The escape that follows a backslash: what it stands for and what comes after it. -/
def escapeStep (c : Char) (rest : List Char) : Option (Text × List Char) :=
  if c = '\n' then some ([], rest)
  else if Numeral.isDigitOf 8 c then
    let (n, rest) := octalDigits (c :: rest)
    (CodePoint.ofNat? n).map fun p => ([p], rest)
  else if c = 'x' ∨ c = 'u' ∨ c = 'U' then do
    let (n, rest) ← hexDigits (if c = 'x' then 2 else if c = 'u' then 4 else 8) rest
    let p ← CodePoint.ofNat? n
    return ([p], rest)
  else if c = 'N' then namedEscape rest
  else
    match letterEscape? c with
    | some d => some ([.scalar d], rest)
    | none => some ([.scalar '\\', .scalar c], rest)

/-- Reads the body of a string literal; the fuel bounds its length. -/
def unescapeFrom : Nat → List Char → Option Text
  | 0, _ => some []
  | _ + 1, [] => some []
  | fuel + 1, c :: rest =>
    if c = '\\' then
      match rest with
      | [] => some [.scalar '\\']
      | d :: rest' => do
        let (points, rest'') ← escapeStep d rest'
        return points ++ (← unescapeFrom fuel rest'')
    else do return .scalar c :: (← unescapeFrom fuel rest)

/-- The text that the body of a string literal stands for; none if an escape is malformed. -/
def unescape (cs : List Char) : Option Text := unescapeFrom cs.length cs

/-- The escape that follows a backslash in a byte literal. -/
def byteEscapeStep (c : Char) (rest : List Char) : Option (List Nat × List Char) :=
  if c = '\n' then some ([], rest)
  else if Numeral.isDigitOf 8 c then
    let (n, rest) := octalDigits (c :: rest)
    some ([n % 0x100], rest)
  else if c = 'x' then (hexDigits 2 rest).map fun (n, rest) => ([n], rest)
  else
    match letterEscape? c with
    | some d => some ([d.toNat], rest)
    | none => some (['\\'.toNat, c.toNat], rest)

/-- Reads the body of a byte literal; the fuel bounds its length. -/
def unescapeBytesFrom : Nat → List Char → Option (List Nat)
  | 0, _ => some []
  | _ + 1, [] => some []
  | fuel + 1, c :: rest =>
    if c = '\\' then
      match rest with
      | [] => some ['\\'.toNat]
      | d :: rest' => do
        let (bytes, rest'') ← byteEscapeStep d rest'
        return bytes ++ (← unescapeBytesFrom fuel rest'')
    else do return c.toNat :: (← unescapeBytesFrom fuel rest)

/-- The bytes that the body of a byte literal stands for; none if it holds a character beyond ASCII
or an escape is malformed. -/
def unescapeBytes (raw : Bool) (cs : List Char) : Option (List Nat) :=
  if cs.any (0x80 ≤ ·.toNat) then none
  else if raw then some (cs.map Char.toNat)
  else unescapeBytesFrom cs.length cs

end Refactory.Grammar
