import Refactory.Text.Class
import Refactory.Text.Table.Compatibility

/-! # The compatibility normal form

Identifiers are the same when their compatibility normal forms are: every character is decomposed
in full, marks are put into canonical order, and what composes is composed again. -/

namespace Refactory

namespace Compatible

/-- The words of a table: each is a character with the characters that belong to it. -/
def wordsOf (rows : List String) : List (Char × List Char) :=
  rows.flatMap fun row => (row.splitOn " ").filterMap fun word =>
    match word.toList with
    | c :: parts => some (c, parts)
    | [] => none

/-- Characters with their full compatibility decompositions. -/
def decompositions : List (Char × List Char) := wordsOf Text.Table.decompositions

/-- Composed characters with their two components. -/
def compositions : List (Char × List Char) := wordsOf Text.Table.compositions

/-- The parts of a Hangul syllable: lead, vowel and, if it has one, trail. -/
def hangulParts (n : Nat) : List Char :=
  let index := n - 0xac00
  let trail := index % 28
  [Char.ofNat (0x1100 + index / 588), Char.ofNat (0x1161 + index % 588 / 28)] ++
    if trail = 0 then [] else [Char.ofNat (0x11a7 + trail)]

/-- The full compatibility decomposition of a character. -/
def decompose (c : Char) : List Char :=
  if c.toNat < 0x80 then [c]
  else if 0xac00 ≤ c.toNat ∧ c.toNat < 0xd7a4 then hangulParts c.toNat
  else
    match decompositions.find? (·.1 == c) with
    | some (_, parts) => parts
    | none => [c]

/-- The combining class of a character, zero for one that begins a sequence. -/
def combiningClass (c : Char) : Nat :=
  if c.toNat < 0x300 then 0
  else
    match Text.Table.combiningRuns.find? fun (first, last, _) =>
        first ≤ c.toNat && c.toNat ≤ last with
    | some (_, _, k) => k
    | none => 0

/-- Puts a mark into a run of marks, after those of its class and of lower ones. -/
def insertMark (mark : Char) : List Char → List Char
  | [] => [mark]
  | c :: rest =>
    if combiningClass mark < combiningClass c then mark :: c :: rest
    else c :: insertMark mark rest

/-- The characters with every run of marks in canonical order. `marks` is the run being read. -/
def reorder (marks : List Char) : List Char → List Char
  | [] => marks
  | c :: rest =>
    if combiningClass c = 0 then marks ++ c :: reorder [] rest
    else reorder (insertMark c marks) rest

/-- The character that two characters compose to. -/
def composePair (a b : Char) : Option Char :=
  let l := a.toNat
  let r := b.toNat
  if 0x1100 ≤ l ∧ l < 0x1113 ∧ 0x1161 ≤ r ∧ r < 0x1176 then
    some (Char.ofNat (0xac00 + ((l - 0x1100) * 21 + (r - 0x1161)) * 28))
  else if 0xac00 ≤ l ∧ l < 0xd7a4 ∧ (l - 0xac00) % 28 = 0 ∧ 0x11a7 < r ∧ r < 0x11c3 then
    some (Char.ofNat (l + (r - 0x11a7)))
  else (compositions.find? (·.2 == [a, b])).map (·.1)

/-- Composes what follows a `starter`. `kept` holds, in reverse, the marks since then that did not
compose; a mark composes unless one of its class, or a higher one, stands between. -/
def composeAfter (starter : Char) (kept : List Char) : List Char → List Char
  | [] => starter :: kept.reverse
  | c :: rest =>
    let blocked := match kept with
      | [] => false
      | last :: _ => combiningClass c ≤ combiningClass last
    match if blocked then none else composePair starter c with
    | some composed => composeAfter composed kept rest
    | none =>
      if combiningClass c = 0 then starter :: kept.reverse ++ composeAfter c [] rest
      else composeAfter starter (c :: kept) rest

/-- Composes everything after the first starter. -/
def compose : List Char → List Char
  | [] => []
  | c :: rest => if combiningClass c = 0 then composeAfter c [] rest else c :: compose rest

end Compatible

/-- The compatibility normal form of a sequence of characters. -/
def compatibleForm (cs : List Char) : List Char :=
  if cs.all (·.toNat < 0x80) then cs
  else Compatible.compose (Compatible.reorder [] (cs.flatMap Compatible.decompose))

end Refactory
