import Refactory.Text.Class
import Refactory.Text.Table.Lower

/-! # Lower case

The full lower-case mapping. It depends on the context in one place: a capital sigma that ends a
word has a form of its own. -/

namespace Refactory

namespace CodePoint

/-- A cased character, one that is not passed over. -/
def isCased (c : CodePoint) : Bool := inClass Text.Table.cased c.val

/-- A character that is passed over when the neighbours of a sigma are looked at. -/
def isCaseIgnorable (c : CodePoint) : Bool := inClass Text.Table.caseIgnorable c.val

/-- The lower-case form of a point out of context. -/
def lower (c : CodePoint) : Text :=
  if c.val = 0x130 then [Char.ofNat 0x69, Char.ofNat 0x307]
  else
    match Text.Table.lowerRuns.find? fun (first, last, step, _) =>
        first ≤ c.val && c.val ≤ last && (c.val - first) % step == 0 with
    | some (_, _, _, distance) => ((ofNat? (c.val + distance).toNat).getD c) :: []
    | none => [c]

end CodePoint

namespace Text

/-- Whether the first point that is not passed over is cased. -/
def cased (t : Text) : Bool :=
  match t.dropWhile CodePoint.isCaseIgnorable with
  | [] => false
  | c :: _ => c.isCased

/-- The lower-case form of what follows `seen`, which stands in reverse. -/
def lowerAfter (seen : Text) : Text → Text
  | [] => []
  | c :: rest =>
    (if c.val = 0x3a3 then
      [if cased seen && !cased rest then CodePoint.scalar (Char.ofNat 0x3c2)
        else CodePoint.scalar (Char.ofNat 0x3c3)]
    else c.lower) ++ lowerAfter (c :: seen) rest

/-- The lower-case form of a text. -/
def lower (t : Text) : Text := lowerAfter [] t

end Text

end Refactory
