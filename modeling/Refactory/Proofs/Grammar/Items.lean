import Refactory.Proofs.Grammar.Chains
import Refactory.Proofs.Grammar.Forward

/-! # Expressions in a line

Outside of brackets an expression is followed by a sign, a colon or the end of the line. It is taken
where the next mark does not go on with it (`Expr.takes_expression`, `Expr.takes_star`), and so are
expressions with commas between them (`commaSeparated_takes_star`). At the end of a line nothing is taken
(`rejects_layout`). -/

namespace Refactory

open Grammar Inks

namespace Grammar

variable {α : Type} {p : Reader α} {ms after : List Mark}

/-! ## At the end of a line -/

/-- No token comes next, or one that is layout. -/
def Breaks (after : List Mark) : Prop := ∀ m ∈ after.head?, m ∈ [Mark.newline, .indent, .dedent]

theorem breaks_nil : Breaks [] := fun _ hm => by cases hm

theorem breaks_cons {m : Mark} (h : m ∈ [Mark.newline, .indent, .dedent]) (ms : List Mark) :
    Breaks (m :: ms) := fun _ hm => by
  cases hm
  exact h

theorem Breaks.clear (h : Breaks after) (least : Precedence) : Clear least after := fun m hm => by
  have hattach : ∀ m ∈ [Mark.newline, .indent, .dedent], m.attach = 0 := by decide
  rw [hattach m (h m hm)]
  cases least <;> decide

theorem Breaks.next_mem (h : Breaks after) {m : Mark} (hm : next? after = some m) :
    m ∈ [Mark.newline, .indent, .dedent] := by
  obtain ⟨first, hfirst, rfl⟩ := Option.map_eq_some_iff.1 hm
  have hall : ∀ m ∈ [Mark.newline, .indent, .dedent], m.first ∈ [Mark.newline, .indent, .dedent] := by
    decide
  exact hall first (h first hfirst)

theorem Breaks.head_ne (h : Breaks after) (text : String) : next? after ≠ some (.symbol text) :=
  fun heq => by simpa using h.next_mem heq

/-- What begins with a token that is no layout is not found where a line ends. -/
theorem rejects_layout [Setting] [Begins p] (h : Breaks ms) : Rejects p ms := fun c hc => by
  cases hp : p c with
  | none => rfl
  | some x =>
    obtain ⟨t, ht, hlayout⟩ := Begins.begins hp
    have hmem := h.next_mem (m := t.lexeme.mark) (by rw [← hc.next_eq, ht]; rfl)
    cases hlexeme : t.lexeme with
    | newline | indent | dedent =>
      rw [hlexeme] at hlayout
      cases hlayout
    | string marks body =>
      rw [hlexeme, Lexeme.mark] at hmem
      split at hmem <;> simp at hmem
    | _ =>
      rw [hlexeme] at hmem
      simp [Lexeme.mark] at hmem

/-! ## One expression -/

theorem Term.toExpr?_of [Setting] {e : Option Expr} {t : Option Term}
    (h : Option.Rel (fun e t => Term.Is t e) e t) : Term.toExpr? origin t = .ok e := by
  cases h with
  | none => rfl
  | some ht =>
    rw [Term.toExpr?, ht.toExpr]
    rfl

end Grammar

section

variable [Setting] {mode : RenderMode} {after : List Mark} {depth : Nat} {e : Expr}

theorem Expr.takes_expression (h : e.isReadable mode false = true)
    (hdepth : (e.marksAt .test).length < depth) (hafter : Clear .test after) :
    TakesExpr (deepReaders depth .expression) (e.marksAt .test ++ after) e after := by
  cases depth with
  | zero => cases hdepth
  | succ depth => exact Expr.readsAt h (Nat.le_refl _) depth after (Nat.le_of_lt_succ hdepth) hafter

theorem Expr.takes_bitOr (h : e.isReadable mode false = true)
    (hdepth : (e.marksAt .bitOr).length < depth) (hafter : Clear .bitOr after) :
    TakesExpr (deepReaders depth .bitOr) (e.marksAt .bitOr ++ after) e after := by
  cases depth with
  | zero => cases hdepth
  | succ depth => exact Expr.readsAt h (by decide) depth after (Nat.le_of_lt_succ hdepth) hafter

/-- In a place that an assignment expression can fill, only those and what binds as tightly as a condition
stand without parentheses. -/
theorem Expr.takes_named (h : e.isReadable mode false = true) (hyield : e.strength ≠ .yielding)
    (hdepth : (e.marksAt .named).length < depth) (hafter : Clear .test after)
    (hwalrus : next? after ≠ some (.symbol ":=")) :
    TakesExpr (namedExpression (deepReaders depth)) (e.marksAt .named ++ after) e after := by
  have hnamed : e.marksAt .named = marks e.inks :=
    Expr.marksAt_of_le (by cases e.strength <;> decide)
  rcases Nat.lt_or_ge e.strength.rank Precedence.test.rank with hloose | htest
  · obtain ⟨kind, word, rfl, hword⟩ := Expr.captured_of_loose h hloose
    rw [hnamed, Expr.inks, filterMap_char_ofChars]
    exact hword.namedExpression ((ofCaptured_loose hloose).resolve_right hyield) (by omega) hafter
      hwalrus
  · rw [hnamed, ← Expr.marksAt_of_le htest] at hdepth ⊢
    refine ifNameThen_miss (Expr.named h (by decide) hwalrus) ?_
    refine (Expr.takes_expression h hdepth hafter).next fun t ht => ?_
    exact refuse_pass hwalrus (.pure ⟨ht, rfl⟩)

/-- An expression with a star in front or not. -/
theorem Expr.takes_star (h : e.isReadable mode true = true) (hdepth : (e.marksAt .test).length < depth)
    (hafter : Clear .test after) :
    TakesExpr (starExpression (deepReaders depth)) (e.marksAt .test ++ after) e after := by
  cases hstarred : e.isStarred with
  | false =>
    have hplain := Expr.readable_of_not_starred h hstarred
    exact ifAccept_miss (((Expr.opens hplain .test).append after).head_ne (by decide))
      (Expr.takes_expression hplain hdepth hafter)
  | true =>
    cases e with
    | starred value =>
      rw [Expr.isReadable, Bool.true_and] at h
      have hmarks : (Expr.starred value).marksAt .test = .symbol "*" :: value.marksAt .bitOr :=
        Expr.marksAt_of_le (Nat.le_refl _)
      rw [hmarks, List.length_cons] at hdepth
      rw [hmarks]
      exact ifAccept_hit ((Expr.takes_bitOr h (Nat.lt_of_succ_lt hdepth)
        (hafter.mono (by decide))).next fun t ht => .pure ⟨ht.starred, rfl⟩)
    | _ => cases hstarred

/-- Expressions with commas between them, each with a star in front or not. -/
theorem commaSeparated_takes_star {es : List Expr} (h : ∀ x ∈ e :: es, x.isReadable mode true = true)
    (hdepth : (commaMarks (Expr.marksAt .test) (e :: es)).length < depth)
    (hafter : Clear .test after) (hnext : next? after ≠ some (.symbol ",")) :
    Takes (commaSeparated (starExpression (deepReaders depth)))
      (commaMarks (Expr.marksAt .test) (e :: es) ++ after) fun ts ms' =>
        (List.Forall₂ (fun x t => Term.Is t x) (e :: es) ts.1 ∧ ts.2 = false) ∧ ms' = after := by
  rw [commaMarks, List.append_assoc]
  refine Takes.commaSeparated (fun _ => clear_cons (by decide)) hafter hnext
    fun x hx after' hafter' => ?_
  have hle := length_le_commaMarks (w := Expr.marksAt .test) hx
  exact Expr.takes_star (h x hx) (by omega) hafter'

/-- One expression is no tuple, unless it is written as one. -/
theorem Expr.takes_starExpressions (h : e.isReadable mode true = true)
    (hdepth : (e.marksAt .test).length < depth) (hafter : Clear .test after)
    (hnext : next? after ≠ some (.symbol ",")) :
    TakesExpr (starExpressions (deepReaders depth)) (e.marksAt .test ++ after) e after := by
  have hsingle : commaMarks (Expr.marksAt .test) [e] = e.marksAt .test := by
    rw [commaMarks, List.flatMap_nil, List.append_nil]
  have hplain : ∀ x ∈ [e], x.isReadable mode true = true := List.forall_mem_singleton.2 h
  have htakes := commaSeparated_takes_star hplain (by rw [hsingle]; exact hdepth) hafter hnext
  rw [hsingle] at htakes
  refine htakes.next ?_
  rintro ⟨ts, _⟩ ⟨hts, rfl⟩
  cases hts with
  | cons ht hnil =>
    cases hnil
    exact .pure ⟨ht, rfl⟩

end

end Refactory
