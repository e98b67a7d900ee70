import Refactory.Proofs.Grammar.Primary
import Refactory.Proofs.Render.Shape

/-! # The marks of an expression

`Expr.marksAt` are the marks of an expression in a place that requires at least some strength, in
parentheses if it binds less tightly. For every form there is an equation in terms of the places
inside, and the parts have fewer marks than the whole. -/

namespace Refactory

open Grammar Inks

/-- The marks of an expression in a place that requires at least the given strength. -/
def Expr.marksAt (least : Precedence) (e : Expr) : List Mark := marks (e.inksAt least)

/-- The marks of a keyword argument. -/
def Keyword.marks (k : Keyword) : List Mark := Inks.marks k.inks

/-- The marks of an item of a dictionary. -/
def Expr.entryMarks (x : Option Expr × Expr) : List Mark := marks (Expr.entryInks x)

theorem Expr.marksAt_of_le {e : Expr} {least : Precedence} (h : least.rank ≤ e.strength.rank) :
    e.marksAt least = marks e.inks := by
  rw [Expr.marksAt, Expr.inksAt, enclose, if_neg (Nat.not_lt.2 h)]

theorem Expr.marksAt_of_lt {e : Expr} {least : Precedence} (h : e.strength.rank < least.rank) :
    e.marksAt least = .symbol "(" :: (marks e.inks ++ [.symbol ")"]) := by
  rw [Expr.marksAt, Expr.inksAt, enclose, if_pos h]
  simp

/-- An expression of another strength is written alike in two places that follow each other. -/
theorem Expr.marksAt_next {e : Expr} {p : Precedence} (hp : p.rank < Precedence.atom.rank)
    (h : e.strength ≠ p) : e.marksAt p = e.marksAt p.next := by
  have hnext := next_rank hp
  have hne : e.strength.rank ≠ p.rank := fun heq => h (rank_injective heq)
  rcases Nat.lt_or_ge e.strength.rank p.rank with hlt | hge
  · rw [Expr.marksAt_of_lt hlt, Expr.marksAt_of_lt (by omega)]
  · rw [Expr.marksAt_of_le hge, Expr.marksAt_of_le (by omega)]

variable {mode : RenderMode}

theorem Expr.not_starred {e : Expr} (h : e.isReadable mode false = true) : e.isStarred = false := by
  cases e with
  | starred value => cases h
  | _ => rfl

/-- What can be read back where a star can stand can be elsewhere, unless it is starred. -/
theorem Expr.readable_of_not_starred {e : Expr} {star : Bool} (h : e.isReadable mode star = true)
    (hstar : e.isStarred = false) : e.isReadable mode false = true := by
  cases e with
  | starred value => cases hstar
  | number value => cases value <;> exact h
  | captured kind source => cases source <;> exact h
  | _ => exact h

/-! ## Forms -/

theorem marks_join (sep x : List Ink) (xs : List (List Ink)) :
    marks (join sep (x :: xs)) = marks x ++ xs.flatMap fun y => marks sep ++ marks y := by
  rw [join, marks_append]
  congr 1
  induction xs with
  | nil => rfl
  | cons y ys ih => simp [ih]

theorem marks_commas (es : List Expr) :
    marks (commas (es.map (Expr.inksAt .test))) = commaMarks (Expr.marksAt .test) es := by
  cases es with
  | nil => rfl
  | cons e es =>
    rw [List.map_cons, commas, marks_join, List.flatMap_map]
    rfl

theorem marks_tuple (es : List Expr) (hes : es.length ≠ 1) :
    marks (Inks.tuple (es.map (Expr.inksAt .test))) = commaMarks (Expr.marksAt .test) es := by
  rw [← marks_commas]
  match es with
  | [] => rfl
  | [e] => exact (hes rfl).elim
  | e :: x :: es => rfl

theorem marks_arguments (args : List Expr) (keywords : List Keyword) :
    marks (commas (args.map (Expr.inksAt .test) ++ keywords.map Keyword.inks)) =
      argumentMarks (Expr.marksAt .test) Keyword.marks args keywords := by
  cases args with
  | nil =>
    cases keywords with
    | nil => rfl
    | cons k ks =>
      rw [List.map_nil, List.nil_append, List.map_cons, commas, marks_join, List.flatMap_map]
      rfl
  | cons e es =>
    rw [List.map_cons, List.cons_append, commas, marks_join, List.flatMap_append, List.flatMap_map,
      List.flatMap_map]
    rfl

theorem marks_comparison (ops : List CompareOp) (es : List Expr) :
    marks (Inks.comparison ops (es.map (Expr.inksAt .bitOr))) =
      (ops.zip es).flatMap fun x => compareMarks x.1 ++ x.2.marksAt .bitOr := by
  induction ops generalizing es with
  | nil => cases es <;> rfl
  | cons op ops ih =>
    cases es with
    | nil => rfl
    | cons e es =>
      have hop : marks (ofCompare op) = compareMarks op := by cases op <;> rfl
      simp [Inks.comparison, hop, ih, Expr.marksAt]

theorem marks_call (func : Expr) (args : List Expr) (keywords : List Keyword) :
    marks (Expr.call func args keywords).inks = func.marksAt .atom ++ Mark.symbol "(" ::
      (argumentMarks (Expr.marksAt .test) Keyword.marks args keywords ++ [Mark.symbol ")"]) := by
  rw [Expr.inks_call]
  simp [marks_arguments, Expr.marksAt]

theorem marks_entries (x : Option Expr × Expr) (xs : List (Option Expr × Expr)) :
    marks (commas ((x :: xs).map Expr.entryInks)) =
      Expr.entryMarks x ++ xs.flatMap fun y => .symbol "," :: Expr.entryMarks y := by
  rw [List.map_cons, commas, marks_join, List.flatMap_map]
  rfl

end Refactory
