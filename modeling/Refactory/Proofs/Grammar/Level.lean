import Refactory.Build
import Refactory.Proofs.Grammar.Alike
import Refactory.Proofs.Grammar.Reading

/-! # Readers by strength

`level` is the reader for expressions of at least a given strength. What a tighter reader takes, a
looser one takes as well, if the expression does not begin with a prefix operator between the two and
nothing goes on behind it (`level_of_le`). Operators of one strength with their operands are taken at
that strength (`leftGrouped_takes`, `joined_takes`, `comparison_takes`). -/

namespace Refactory.Grammar

/-- The first mark is that of an expression of at least the given strength. -/
def Opens (least : Nat) (ms : List Mark) : Prop := ∃ m ∈ ms.head?, least ≤ m.opens

theorem Opens.head_ne {least : Nat} {ms : List Mark} (h : Opens least ms) {m : Mark}
    (hm : m.starts < least) : next? ms ≠ some m := by
  obtain ⟨first, hfirst, hopens⟩ := h
  rintro heq
  rw [next?, hfirst] at heq
  cases heq
  exact Nat.not_lt.2 (Nat.le_trans hopens first.opens_le_first) hm

theorem Opens.mono {m n : Nat} {ms : List Mark} (h : Opens n ms) (hmn : m ≤ n) : Opens m ms := by
  obtain ⟨first, hfirst, hopens⟩ := h
  exact ⟨first, hfirst, Nat.le_trans hmn hopens⟩

theorem Opens.append {least : Nat} {ms : List Mark} (h : Opens least ms) (rest : List Mark) :
    Opens least (ms ++ rest) := by
  obtain ⟨first, hfirst, hopens⟩ := h
  obtain ⟨ms', rfl⟩ := List.head?_eq_some_iff.1 hfirst
  exact ⟨first, rfl, hopens⟩

theorem binaryToken_injective {op op' : BinaryOp} (h : op.token = op'.token) : op = op' := by
  revert h
  cases op <;> cases op' <;> decide

mutual

/-- Whether no slice stands where elements are unpacked. -/
def Term.isSliceless : Term → Bool
  | .slice .. => false
  | .tuple elements | .list elements => Term.areSliceless elements
  | .starred value => value.isSliceless
  | _ => true

/-- Whether no slice stands where elements of the terms are unpacked. -/
def Term.areSliceless : List Term → Bool
  | [] => true
  | t :: rest => t.isSliceless && Term.areSliceless rest

end

variable [Setting]

/-- The source that is read. -/
def origin : Origin := .ofText (Text.ofChars Setting.chars)

/-- A term of the source stands for an expression. -/
structure Term.Is (t : Term) (e : Expr) : Prop where
  toExpr : t.toExpr origin = .ok e
  sliceless : t.isSliceless = true

/-- A reader takes an expression and stops in front of `after`. -/
def TakesExpr (p : Reader Term) (ms : List Mark) (e : Expr) (after : List Mark) : Prop :=
  Takes p ms fun t ms' => t.Is e ∧ ms' = after

variable {r : Readers} {ms after : List Mark} {e : Expr}

/-! ## Operators -/

theorem operator_takes {ops : List BinaryOp} {op : BinaryOp} (h : op ∈ ops) :
    Takes (operator ops) (.symbol op.token :: ms) fun found ms' => found = op ∧ ms' = ms := by
  refine (advance_takes rfl).next fun l hl => ?_
  rw [Lexeme.mark_symbol.1 hl]
  have hfind : ops.find? (·.token == op.token) = some op := by
    cases hfound : ops.find? (·.token == op.token) with
    | none => exact absurd (List.find?_eq_none.1 hfound op h) (by simp)
    | some op' =>
      have htoken := List.find?_some hfound
      rw [binaryToken_injective (by simpa using htoken : op'.token = op.token)]
  simp only [hfind]
  exact .pure ⟨rfl, rfl⟩

theorem operator_rejects {ops : List BinaryOp} {p : Precedence} (hops : ∀ op ∈ ops, op.precedence = p)
    (hafter : Clear p after) : Rejects (operator ops) after := by
  refine advance_rejects fun l hl c => ?_
  cases l with
  | symbol s =>
    cases hfound : ops.find? (·.token == s) with
    | none =>
      simp only [hfound]
      rfl
    | some op =>
      have htoken : op.token = s := by simpa using List.find?_some hfound
      have hattach := attach_binary op
      rw [hops op (List.mem_of_find?_eq_some hfound), htoken] at hattach
      exact absurd hl (hafter.head_ne (Nat.le_of_eq hattach.symm))
  | _ => rfl

/-- Terms grouped to the left stand for expressions grouped to the left. -/
theorem Term.Is.foldl {t : Term} (h : t.Is e) {us : List (BinaryOp × Term)}
    {chain : List (BinaryOp × Expr)}
    (hus : List.Forall₂ (fun x u => u.1 = x.1 ∧ u.2.Is x.2) chain us) :
    (us.foldl (fun t (op, u) => Term.binary t op u) t).Is
      (chain.foldl (fun l x => .binary l x.1 x.2) e) := by
  induction hus generalizing t e with
  | nil => exact h
  | cons hu _ ih =>
    rename_i x u _ _ _
    obtain ⟨op, u⟩ := u
    obtain ⟨rfl, hu⟩ := hu
    refine ih ⟨?_, rfl⟩
    rw [Term.toExpr, h.toExpr, hu.toExpr]
    rfl

/-- Operands with operators between them, grouped to the left. -/
theorem leftGrouped_takes {operand : Reader Term} {ops : List BinaryOp} {p : Precedence}
    (hops : ∀ op ∈ ops, op.precedence = p) {written : Expr → List Mark}
    {chain : List (BinaryOp × Expr)} (hchain : ∀ x ∈ chain, x.1 ∈ ops) (hafter : Clear p after)
    (hfirst : TakesExpr operand
      (ms ++ (chain.flatMap (fun x => .symbol x.1.token :: written x.2) ++ after)) e
      (chain.flatMap (fun x => .symbol x.1.token :: written x.2) ++ after))
    (hrest : ∀ x ∈ chain, ∀ after', Clear p.next after' →
      TakesExpr operand (written x.2 ++ after') x.2 after') (hnext : p.rank < p.next.rank) :
    TakesExpr (leftGrouped operand ops)
      (ms ++ (chain.flatMap (fun x => .symbol x.1.token :: written x.2) ++ after))
      (chain.foldl (fun l x => .binary l x.1 x.2) e) after := by
  refine hfirst.next fun t ht => ?_
  refine (Takes.many (R := fun x u => u.1 = x.1 ∧ u.2.Is x.2) (operator_rejects hops hafter).bind
    (by simp) fun x ys hys => ?_).next fun us hus => .pure ⟨ht.foldl hus, rfl⟩
  have hx : x ∈ chain := hys.subset List.mem_cons_self
  refine (operator_takes (hchain x hx)).next_eq ?_
  refine (hrest x hx _ ?_).next fun u hu => .pure ⟨⟨rfl, hu⟩, rfl⟩
  cases ys with
  | nil => exact hafter.mono (Nat.le_of_lt hnext)
  | cons y ys =>
    refine clear_cons ?_
    rw [attach_binary, hops _ (hchain y (hys.subset (by simp)))]
    exact hnext

theorem Term.toExprs_of {ts : List Term} {es : List Expr}
    (h : List.Forall₂ (fun e t => Term.Is t e) es ts) : Term.toExprs origin ts = .ok es := by
  induction h with
  | nil => rfl
  | cons ht _ ih =>
    rw [Term.toExprs, ht.toExpr, ih]
    rfl

theorem Term.areSliceless_of {ts : List Term} {es : List Expr}
    (h : List.Forall₂ (fun e t => Term.Is t e) es ts) : Term.areSliceless ts = true := by
  induction h with
  | nil => rfl
  | cons ht _ ih => rw [Term.areSliceless, ht.sliceless, ih]; rfl

/-- Operands of a boolean operator. -/
theorem joined_takes {operand : Reader Term} {op : BoolOp} {written : Expr → List Mark}
    {values : List Expr} (hvalues : values ≠ []) (hafter : Clear op.precedence after)
    (hfirst : TakesExpr operand
      (ms ++ (values.flatMap (fun v => .symbol op.token :: written v) ++ after)) e
      (values.flatMap (fun v => .symbol op.token :: written v) ++ after))
    (hrest : ∀ v ∈ values, ∀ after', Clear op.precedence.next after' →
      TakesExpr operand (written v ++ after') v after') :
    TakesExpr (joined operand op)
      (ms ++ (values.flatMap (fun v => .symbol op.token :: written v) ++ after))
      (.logical op (e :: values)) after := by
  have hnext : op.precedence.rank < op.precedence.next.rank := by cases op <;> decide
  refine hfirst.next fun t ht => ?_
  refine (Takes.many (R := fun v u => Term.Is u v)
    (expect_miss (hafter.head_ne (Nat.le_of_eq (attach_logical op).symm))).bind
    (by simp) fun v vs hvs => ?_).next fun us hus => ?_
  · have hv : v ∈ values := hvs.subset List.mem_cons_self
    refine expect_hit (hrest v hv _ ?_)
    cases vs with
    | nil => exact hafter.mono (Nat.le_of_lt hnext)
    | cons v' vs =>
      refine clear_cons ?_
      rw [attach_logical]
      exact hnext
  · have hus' : us.isEmpty = false := by
      cases hus with
      | nil => exact (hvalues rfl).elim
      | cons _ _ => rfl
    rw [hus', if_neg Bool.false_ne_true]
    refine .pure ⟨⟨?_, rfl⟩, rfl⟩
    rw [Term.toExpr, Term.toExprs_of (.cons ht hus)]
    rfl

theorem joined_single {operand : Reader Term} (op : BoolOp) (h : TakesExpr operand ms e after)
    (hafter : Clear op.precedence after) : TakesExpr (joined operand op) ms e after := by
  refine h.next fun t ht => ?_
  refine (Takes.many_none (expect_miss
    (hafter.head_ne (Nat.le_of_eq (attach_logical op).symm))).bind).next_eq ?_
  exact .pure ⟨ht, rfl⟩

/-! ## Comparisons -/

/-- The marks of a comparison operator. -/
def compareMarks : CompareOp → List Mark
  | .notSame => [.symbol "is", .symbol "not"]
  | .notMember => [.symbol "not", .symbol "in"]
  | op => [.symbol op.token]

theorem compareOperator_takes {op : CompareOp} (h : next? ms ≠ some (.symbol "not")) :
    Takes compareOperator (compareMarks op ++ ms) fun found ms' => found = op ∧ ms' = ms := by
  cases op with
  | same =>
    refine (advance_takes rfl).next fun l hl => ?_
    rw [Lexeme.mark_symbol.1 hl]
    exact ifAccept_miss h (.pure ⟨rfl, rfl⟩)
  | notSame =>
    refine (advance_takes rfl).next fun l hl => ?_
    rw [Lexeme.mark_symbol.1 hl]
    exact ifAccept_hit (.pure ⟨rfl, rfl⟩)
  | notMember =>
    refine (advance_takes rfl).next fun l hl => ?_
    rw [Lexeme.mark_symbol.1 hl]
    exact expect_hit (.pure ⟨rfl, rfl⟩)
  | _ =>
    refine (advance_takes rfl).next fun l hl => ?_
    rw [Lexeme.mark_symbol.1 hl]
    exact .pure ⟨rfl, rfl⟩

omit [Setting] in
theorem compareMarks_head (op : CompareOp) :
    ∃ m ms, compareMarks op = m :: ms ∧ m.attach = Precedence.comparison.rank := by
  cases op <;> exact ⟨_, _, rfl, by decide⟩

theorem compareOperator_rejects (hafter : Clear .comparison after) :
    Rejects compareOperator after := by
  refine advance_rejects fun l hl c => ?_
  cases l with
  | symbol s =>
    have hne : ∀ s', Precedence.comparison.rank ≤ (Mark.symbol s').attach → (s == s') = false := by
      intro s' hs'
      rw [beq_eq_false_iff_ne]
      rintro rfl
      exact hafter.head_ne hs' hl
    have hfind : CompareOp.all.find? (·.token == s) = none := by
      rw [List.find?_eq_none]
      intro op _
      rw [Bool.beq_comm, hne op.token (Nat.le_of_eq (attach_compare op).symm)]
      exact Bool.false_ne_true
    simp only [hne "is" (by decide), hne "not" (by decide), hfind, Bool.false_eq_true, if_false]
    rfl
  | _ => rfl

/-- A chain of comparisons. -/
theorem comparison_takes {written : Expr → List Mark} {others : List (CompareOp × Expr)}
    (hothers : others ≠ []) (hafter : Clear .comparison after)
    (hfirst : TakesExpr (bitOr r)
      (ms ++ (others.flatMap (fun x => compareMarks x.1 ++ written x.2) ++ after)) e
      (others.flatMap (fun x => compareMarks x.1 ++ written x.2) ++ after))
    (hrest : ∀ x ∈ others, Opens Precedence.bitOr.rank (written x.2) ∧
      ∀ after', Clear .bitOr after' → TakesExpr (bitOr r) (written x.2 ++ after') x.2 after') :
    TakesExpr (comparison r)
      (ms ++ (others.flatMap (fun x => compareMarks x.1 ++ written x.2) ++ after))
      (.compare e (others.map (·.1)) (others.map (·.2))) after := by
  refine hfirst.next fun t ht => ?_
  refine (Takes.many (R := fun x u => u.1 = x.1 ∧ Term.Is u.2 x.2)
    (compareOperator_rejects hafter).bind ?_ fun x xs hxs => ?_).next fun us hus => ?_
  · intro x _
    obtain ⟨m, ms, hmarks, -⟩ := compareMarks_head x.1
    simp [hmarks]
  · obtain ⟨hopens, htakes⟩ := hrest x (hxs.subset List.mem_cons_self)
    have hnot : next? (written x.2 ++ (xs.flatMap (fun x => compareMarks x.1 ++ written x.2) ++
        after)) ≠ some (.symbol "not") := (hopens.append _).head_ne (by decide)
    rw [List.append_assoc]
    refine (compareOperator_takes hnot).next_eq ?_
    refine (htakes _ ?_).next fun u hu => .pure ⟨⟨rfl, hu⟩, rfl⟩
    cases xs with
    | nil => exact hafter.mono (by decide)
    | cons y ys =>
      obtain ⟨m, ms, hmarks, hattach⟩ := compareMarks_head y.1
      rw [List.flatMap_cons, hmarks]
      exact clear_cons (by rw [hattach]; decide)
  · have hus' : us.isEmpty = false := by
      cases hus with
      | nil => exact (hothers rfl).elim
      | cons _ _ => rfl
    rw [hus', if_neg Bool.false_ne_true]
    have hops : others.map (·.1) = us.map (·.1) := by
      rw [← List.forall₂_eq_eq_eq, List.forall₂_map_left_iff, List.forall₂_map_right_iff]
      exact hus.imp fun _ _ h => h.1.symm
    have hterms : List.Forall₂ (fun e t => Term.Is t e) (others.map (·.2)) (us.map (·.2)) := by
      rw [List.forall₂_map_left_iff, List.forall₂_map_right_iff]
      exact hus.imp fun _ _ h => h.2
    refine .pure ⟨⟨?_, rfl⟩, rfl⟩
    rw [Term.toExpr, ht.toExpr, Term.toExprs_of hterms, ← hops]
    rfl

theorem comparison_single (h : TakesExpr (bitOr r) ms e after) (hafter : Clear .comparison after) :
    TakesExpr (comparison r) ms e after := by
  refine h.next fun t ht => ?_
  refine (Takes.many_none (compareOperator_rejects hafter).bind).next_eq ?_
  exact .pure ⟨ht, rfl⟩

/-! ## Strengths -/

/-- The reader of expressions of at least the given strength. -/
def level (r : Readers) : Precedence → Reader Term
  | .named | .tuple | .yielding | .test => expression r
  | .disj => disjunction r
  | .conj => conjunction r
  | .negation => inversion r
  | .comparison => comparison r
  | .bitOr => bitOr r
  | .bitXor => bitXor r
  | .bitAnd => bitAnd r
  | .shift => shift r
  | .arith => sum r
  | .term => term r
  | .factor => factor r
  | .power => power r
  | .await => awaited r
  | .atom => primary r

theorem leftGrouped_single {operand : Reader Term} {ops : List BinaryOp} {p : Precedence}
    (hops : ∀ op ∈ ops, op.precedence = p) (h : TakesExpr operand ms e after)
    (hafter : Clear p after) : TakesExpr (leftGrouped operand ops) ms e after := by
  refine h.next fun t ht => ?_
  refine (Takes.many_none (operator_rejects hops hafter).bind).next_eq ?_
  exact .pure ⟨ht, rfl⟩

/-- An expression that begins with no sign is a power. -/
theorem factor_of_power (h : TakesExpr (power r) ms e after)
    (hopens : Opens Precedence.power.rank ms) : TakesExpr (factor r) ms e after := by
  refine peek_takes.next fun l hl => ?_
  cases l with
  | none => exact h
  | some l =>
    cases l with
    | symbol s =>
      have hsign : sign? s = none := by
        rw [sign?, List.find?_eq_none]
        intro op hop
        rw [beq_iff_eq]
        rintro rfl
        refine hopens.head_ne ?_ hl.symm
        revert hop
        cases op <;> decide
      simp only [hsign]
      exact h
    | _ => exact h

/-- From a strength to the next looser one. -/
theorem level_of_next {p : Precedence} (h : TakesExpr (level r p.next) ms e after)
    (hopens : Opens p.next.rank ms) (hafter : Clear p after) : TakesExpr (level r p) ms e after := by
  cases p with
  | named | tuple | yielding => exact h
  | test =>
    refine takes_here fun _ => ifNext_miss (hopens.head_ne (by decide)) ?_
    refine h.next fun t ht => ?_
    exact ifAccept_miss (hafter.head_ne (by decide)) (.pure ⟨ht, rfl⟩)
  | disj => exact joined_single .disj h hafter
  | conj => exact joined_single .conj h hafter
  | negation => exact ifAccept_miss (hopens.head_ne (by decide)) h
  | comparison => exact comparison_single h hafter
  | bitOr => exact leftGrouped_single (by decide) h hafter
  | bitXor => exact leftGrouped_single (by decide) h hafter
  | bitAnd => exact leftGrouped_single (by decide) h hafter
  | shift => exact leftGrouped_single (by decide) h hafter
  | arith => exact leftGrouped_single (by decide) h hafter
  | term => exact leftGrouped_single (by decide) h hafter
  | factor => exact factor_of_power h hopens
  | power =>
    refine h.next fun t ht => ?_
    exact ifAccept_miss (hafter.head_ne (by decide)) (.pure ⟨ht, rfl⟩)
  | await => exact takes_here fun _ => ifAccept_miss (hopens.head_ne (by decide)) h
  | atom => exact h

/-- From a strength to any looser one. -/
theorem level_of_le {p q : Precedence} (hpq : p.rank ≤ q.rank)
    (h : TakesExpr (level r q) ms e after) (hopens : Opens q.rank ms) (hafter : Clear p after) :
    TakesExpr (level r p) ms e after := by
  generalize hn : q.rank - p.rank = n
  induction n generalizing p with
  | zero =>
    have hrank : p.rank = q.rank := by omega
    rwa [rank_injective hrank]
  | succ n ih =>
    have hnext : p.next.rank = p.rank + 1 := next_rank (by have := rank_le_atom q; omega)
    refine level_of_next (ih ?_ (hafter.mono ?_) ?_) (hopens.mono ?_) hafter <;> omega

end Refactory.Grammar
