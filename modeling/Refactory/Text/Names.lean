import Refactory.Text
import Refactory.Text.Table.Name

/-! # Character names

A character has at most one name of its own, and some have further ones. The names of Hangul syllables
and of ideographs are computed, from the sound or from the number of the character. Names can be written
in small letters, but for those of Hangul syllables and of unified ideographs.

* `Names.find?`: the character of a name. -/

namespace Refactory.Names

/-! ## Listed names -/

/-- The words of a name in a run, given those of the name before it. -/
def wordsAfter (before : List String) (entry : String) : List String :=
  match entry.toList with
  | shared :: rest =>
    before.take (shared.toNat - '0'.toNat) ++ (String.ofList rest).splitOn " "
  | [] => []

/-- The character of a name in a run, from the character `n` on. -/
def findInRun (name before : List String) (n : Nat) : List String → Option Nat
  | [] => none
  | entry :: rest =>
    let words := wordsAfter before entry
    if words = name then some n else findInRun name words (n + 1) rest

/-- The character of a name that is in the tables. -/
def listed? (name : List Char) : Option Nat :=
  let name := String.ofList name
  let words := name.splitOn " "
  ((Text.Table.basicNames ++ Text.Table.supplementaryNames).findSome? fun (first, run) =>
      findInRun words [] first ((run.splitOn "\n").flatMap (·.splitOn ";"))).or
    ((Text.Table.furtherNames.find? fun (_, names) => (names.splitOn ";").contains name).map (·.1))

/-! ## Computed names -/

/-- The number that hexadecimal digits in capital letters write. -/
def hexNumber? (digits : List Char) : Option Nat :=
  digits.foldlM (fun n c =>
    if c.isDigit then some (16 * n + (c.toNat - '0'.toNat))
    else if 'A' ≤ c ∧ c ≤ 'F' then some (16 * n + (c.toNat - 'A'.toNat + 10))
    else none) 0

/-- Whether a number lies in one of the ranges, which are given by their first and last numbers. -/
def inRanges (ranges : List (Nat × Nat)) (n : Nat) : Bool :=
  ranges.any fun (first, last) => first ≤ n && n ≤ last

/-- The beginnings of names that end in the number of the character, and where these characters are. -/
def numbered : List (String × List (Nat × Nat)) := [
  ("CJK COMPATIBILITY IDEOGRAPH-", [(0xf900, 0xfa6d), (0xfa70, 0xfad9), (0x2f800, 0x2fa1d)]),
  ("KHITAN SMALL SCRIPT CHARACTER-", [(0x18b00, 0x18cd5)]),
  ("NUSHU CHARACTER-", [(0x1b170, 0x1b2fb)])]

/-- The character of a name that ends in its number, written without leading zeros. -/
def numbered? (name : List Char) : Option Nat :=
  numbered.findSome? fun (beginning, ranges) => do
    let digits ← beginning.toList.isPrefixOf? name
    let n ← hexNumber? digits
    if inRanges ranges n && digits.head? != some '0' then some n else none

/-- Where the unified ideographs are. -/
def ideographs : List (Nat × Nat) := [
  (0x3400, 0x4dbf), (0x4e00, 0x9fff), (0x20000, 0x2a6df), (0x2a700, 0x2b738), (0x2b740, 0x2b81d),
  (0x2b820, 0x2cea1), (0x2ceb0, 0x2ebe0), (0x30000, 0x3134a)]

/-- The unified ideograph with a number of four or five digits. -/
def ideograph? (digits : List Char) : Option Nat :=
  if digits.length = 4 ∨ digits.length = 5 then (hexNumber? digits).filter (inRanges ideographs)
  else none

/-- The sounds that a Hangul syllable can begin with. -/
def leads : List String :=
  ["G", "GG", "N", "D", "DD", "R", "M", "B", "BB", "S", "SS", "", "J", "JJ", "C", "K", "T", "P", "H"]

/-- The vowels of Hangul syllables. -/
def vowels : List String :=
  ["A", "AE", "YA", "YAE", "EO", "E", "YEO", "YE", "O", "WA", "WAE", "OE", "YO", "U", "WEO", "WE", "WI",
    "YU", "EU", "YI", "I"]

/-- The sounds that a Hangul syllable can end in. -/
def trails : List String :=
  ["", "G", "GG", "GS", "N", "NJ", "NH", "D", "L", "LG", "LM", "LB", "LS", "LT", "LP", "LH", "M", "B",
    "BS", "S", "SS", "NG", "J", "C", "K", "T", "P", "H"]

/-- The longest sound that a text begins with, as its place among the sounds, and what follows it. -/
def longest? (sounds : List String) (text : List Char) : Option (Nat × List Char) :=
  (sounds.zipIdx.filterMap fun (sound, i) => (sound.toList.isPrefixOf? text).map (i, ·)).foldl
    (fun best found =>
      match best with
      | some (i, rest) => if found.2.length < rest.length then some found else some (i, rest)
      | none => some found) none

/-- The Hangul syllable that three sounds make. -/
def syllable? (sounds : List Char) : Option Nat := do
  let (lead, rest) ← longest? leads sounds
  let (vowel, rest) ← longest? vowels rest
  let (trail, rest) ← longest? trails rest
  if rest.isEmpty then some (0xac00 + (lead * 21 + vowel) * 28 + trail) else none

/-! ## All names -/

/-- The character of a name. -/
def find? (name : List Char) : Option Text :=
  let n :=
    match "HANGUL SYLLABLE ".toList.isPrefixOf? name with
    | some sounds => syllable? sounds
    | none =>
      match "CJK UNIFIED IDEOGRAPH-".toList.isPrefixOf? name with
      | some digits => ideograph? digits
      | none =>
        let capitals := name.map Char.toUpper
        (numbered? capitals).or (listed? capitals)
  n.map fun n => [.scalar (Char.ofNat n)]

end Refactory.Names
