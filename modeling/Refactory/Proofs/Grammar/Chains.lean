import Refactory.Proofs.Grammar.Recovery

/-! # Readers take what is written: operators

Operators of one strength that group to the left are taken apart into a chain (`Expr.spine`), since the
reader takes them in a loop. Together with atoms this gives the reader of every strength
(`Expr.readsAt`). -/

namespace Refactory

open Grammar Inks

variable {mode : RenderMode} {n depth : Nat} {e : Expr} {after : List Mark}

/-! ## Operators that group to the left -/

/-- The operators of a strength that group to the left. -/
def chained : Precedence → List BinaryOp
  | .bitOr => [.bitOr]
  | .bitXor => [.bitXor]
  | .bitAnd => [.bitAnd]
  | .shift => [.lshift, .rshift]
  | .arith => [.add, .sub]
  | .term => [.mult, .div, .mod, .floorDiv, .matMult]
  | _ => []

theorem chained_precedence {p : Precedence} {op : BinaryOp} (h : op ∈ chained p) :
    op.precedence = p := by
  cases p <;> revert h <;> cases op <;> decide

theorem mem_chained {op : BinaryOp} (h : op ≠ .pow) : op ∈ chained op.precedence := by
  cases op <;> first | decide | exact (h rfl).elim

theorem operands_of_chained {op : BinaryOp} (h : op ≠ .pow) :
    op.operands = (op.precedence, op.precedence.next) := by
  cases op <;> first | rfl | exact (h rfl).elim

theorem level_chained (r : Readers) {op : BinaryOp} (h : op ≠ .pow) :
    level r op.precedence =
      leftGrouped (level r op.precedence.next) (chained op.precedence) := by
  cases op <;> first | rfl | exact (h rfl).elim

theorem marks_binary (left : Expr) (op : BinaryOp) (right : Expr) :
    marks (Expr.binary left op right).inks = left.marksAt op.operands.1 ++
      .symbol op.token :: right.marksAt op.operands.2 := by
  simp [Expr.inks, Expr.marksAt, Expr.inksAt]

/-- The marks of operators with their right operands. -/
def chainMarks (p : Precedence) (chain : List (BinaryOp × Expr)) : List Mark :=
  chain.flatMap fun x => .symbol x.1.token :: x.2.marksAt p.next

theorem rank_of_chained {p : Precedence} {op : BinaryOp} (h : op ∈ chained p) :
    p.rank < p.next.rank ∧ p.rank < Precedence.atom.rank := by
  cases p <;> first | decide | cases h

/-- Where operators group to the left, only these have the strength. -/
theorem Expr.binary_of_strength {p : Precedence} {op : BinaryOp} (hop : op ∈ chained p)
    (h : e.strength = p) : ∃ left op right, e = .binary left op right ∧ op ∈ chained p := by
  subst h
  cases e with
  | binary left op' right =>
    refine ⟨left, op', right, rfl, mem_chained ?_⟩
    rintro rfl
    cases hop
  | unary op' operand => cases op' <;> cases hop
  | logical op' values => cases op' <;> cases hop
  | captured kind source =>
    obtain h | h | h | h | h := ofCaptured_cases kind <;> rw [Expr.strength, h] at hop <;> cases hop
  | _ => cases hop

/-- In a place that requires the strength of operators that group to the left, an expression is a chain
of such operators, which is empty if it has another strength. -/
theorem Expr.spine {p : Precedence} {op : BinaryOp} (hop : op ∈ chained p) : ∀ e : Expr,
    e.isReadable mode false = true → ∃ (first : Expr) (chain : List (BinaryOp × Expr)),
      e = chain.foldl (fun l x => .binary l x.1 x.2) first ∧
      e.marksAt p = first.marksAt p.next ++ chainMarks p chain ∧ first.isReadable mode false = true ∧
      (∀ x ∈ chain, x.1 ∈ chained p ∧ x.2.isReadable mode false = true) ∧ (e.strength = p → chain ≠ []) := by
  refine Expr.induct_children fun e ih h => ?_
  by_cases hstrength : e.strength = p
  · obtain ⟨left, op, right, rfl, hop⟩ := Expr.binary_of_strength hop hstrength
    rw [Expr.isReadable, Bool.and_eq_true] at h
    obtain ⟨first, chain, hfold, hmarks, hfirst, hchain, -⟩ :=
      ih left (by simp [Expr.children]) h.1
    have hprecedence : op.precedence = p := hstrength
    have hpow : op ≠ .pow := by
      rintro rfl
      subst hprecedence
      cases hop
    refine ⟨first, chain ++ [(op, right)], ?_, ?_, hfirst, ?_, fun _ => by simp⟩
    · rw [List.foldl_append, ← hfold]
      rfl
    · rw [Expr.marksAt_of_le (Nat.le_of_eq (congrArg Precedence.rank hstrength.symm)), marks_binary,
        operands_of_chained hpow, hprecedence, hmarks]
      simp [chainMarks]
    · exact List.forall_mem_append.2 ⟨hchain, List.forall_mem_singleton.2 ⟨hop, h.2⟩⟩
  · refine ⟨e, [], rfl, ?_, h, List.forall_mem_nil _, fun h => (hstrength h).elim⟩
    rw [Expr.marksAt_next (rank_of_chained hop).2 hstrength]
    exact (List.append_nil _).symm

/-! ## Other operators -/

/-- Nothing goes on with exactly the strength of a sign. -/
theorem Grammar.Clear.factor (h : Clear .power after) : Clear .factor after := by
  intro m hm
  have hlt := h m hm
  cases m with
  | symbol text =>
    cases hlookup : followers.lookup text with
    | none =>
      rw [Mark.attach, hlookup]
      exact Nat.zero_lt_succ _
    | some p =>
      obtain ⟨front, back, hfollowers, -⟩ := List.lookup_eq_some_iff.1 hlookup
      have hmem : (text, p) ∈ followers := by rw [hfollowers]; simp
      have hall : ∀ x ∈ followers, x.2.rank < Precedence.power.rank →
          x.2.rank < Precedence.factor.rank := by decide
      rw [Mark.attach, hlookup] at hlt ⊢
      exact hall _ hmem hlt
  | newline | indent | dedent => exact Nat.zero_lt_succ _
  | _ => exact absurd hlt (Nat.not_lt.2 (show 16 ≤ 18 by decide))

theorem marks_sign {op : UnaryOp} (h : op ≠ .negation) (operand : Expr) :
    marks (Expr.unary op operand).inks = .symbol op.token :: operand.marksAt .factor := by
  cases op with
  | negation => exact (h rfl).elim
  | _ => rfl

theorem sign?_token {op : UnaryOp} (h : op ≠ .negation) : sign? op.token = some op := by
  cases op <;> first | exact (h rfl).elim | decide

theorem marks_logical (op : BoolOp) (v : Expr) (vs : List Expr) :
    marks (Expr.logical op (v :: vs)).inks = v.marksAt op.precedence.next ++
      vs.flatMap fun w => .symbol op.token :: w.marksAt op.precedence.next := by
  rw [Expr.inks_logical, List.map_cons, marks_join, List.flatMap_map]
  rfl

theorem level_joined (r : Readers) (op : BoolOp) :
    level r op.precedence = joined (level r op.precedence.next) op := by
  cases op <;> rfl

theorem marks_compare (left : Expr) (ops : List CompareOp) (comparators : List Expr) :
    marks (Expr.compare left ops comparators).inks = left.marksAt .bitOr ++
      (ops.zip comparators).flatMap fun x => compareMarks x.1 ++ x.2.marksAt .bitOr := by
  rw [Expr.inks_compare, marks_append, marks_comparison]
  rfl

/-! ## Chains -/

variable [Setting]

theorem TakesBelow.reads_chain (h : TakesBelow n) {left right : Expr} {op : BinaryOp}
    (hpow : op ≠ .pow) (he : (Expr.binary left op right).isReadable mode false = true)
    (hn : (marks (Expr.binary left op right).inks).length ≤ n)
    (hdepth : (marks (Expr.binary left op right).inks).length ≤ depth)
    (hafter : Clear op.precedence after) :
    TakesExpr (level (deepReaders depth) op.precedence) (marks (Expr.binary left op right).inks ++ after)
      (.binary left op right) after := by
  have hop := mem_chained hpow
  obtain ⟨first, chain, hfold, hmarks, hfirst, hchain, hne⟩ := Expr.spine hop _ he
  have hunwrapped : (Expr.binary left op right).marksAt op.precedence =
      marks (Expr.binary left op right).inks := Expr.marksAt_of_le (Nat.le_refl _)
  rw [← hunwrapped, hmarks] at hn hdepth ⊢
  rw [List.length_append] at hn hdepth
  obtain ⟨x, xs, rfl⟩ := List.exists_cons_of_ne_nil (hne rfl)
  have hrank := (rank_of_chained hop).1
  have htest : Precedence.test.rank ≤ op.precedence.next.rank := by cases op <;> decide
  have hlength : ∀ y ∈ x :: xs, (y.2.marksAt op.precedence.next).length <
      (chainMarks op.precedence (x :: xs)).length := fun y hy =>
    length_mem_le_flatMap (f := fun y : BinaryOp × Expr =>
      .symbol y.1.token :: y.2.marksAt op.precedence.next) hy
  have hpos := hlength x List.mem_cons_self
  rw [hfold, level_chained _ hpow, List.append_assoc]
  refine leftGrouped_takes (fun _ h => chained_precedence h) (fun y hy => (hchain y hy).1) hafter
    (h.reads first _ hfirst htest (by omega) depth _ (by omega) ?_) (fun y hy after' hafter' => ?_) hrank
  · refine clear_cons ?_
    rw [attach_binary, chained_precedence (hchain x List.mem_cons_self).1]
    exact hrank
  · have hlt := hlength y hy
    exact h.reads y.2 _ (hchain y hy).2 htest (by omega) depth after' (by omega) hafter'

/-! ## Signs, powers and negations -/

theorem Grammar.Term.Is.unary {t : Term} (h : t.Is e) (op : UnaryOp) :
    (Term.unary op t).Is (.unary op e) := by
  refine ⟨?_, rfl⟩
  rw [Term.toExpr, h.toExpr]
  rfl

theorem Grammar.Term.Is.binary {t u : Term} {left right : Expr} (ht : t.Is left) (hu : u.Is right)
    (op : BinaryOp) : (Term.binary t op u).Is (.binary left op right) := by
  refine ⟨?_, rfl⟩
  rw [Term.toExpr, ht.toExpr, hu.toExpr]
  rfl

theorem TakesBelow.reads_sign (h : TakesBelow n) {op : UnaryOp} {operand : Expr}
    (hop : op ≠ .negation) (he : operand.isReadable mode false = true)
    (hn : (marks (Expr.unary op operand).inks).length ≤ n)
    (hdepth : (marks (Expr.unary op operand).inks).length ≤ depth) (hafter : Clear .factor after) :
    TakesExpr (factor (deepReaders depth)) (marks (Expr.unary op operand).inks ++ after)
      (.unary op operand) after := by
  rw [marks_sign hop] at hn hdepth ⊢
  cases depth with
  | zero => cases hdepth
  | succ depth =>
    rw [List.length_cons] at hn hdepth
    refine peek_takes.next fun l hl => ?_
    obtain ⟨l, rfl, hmark⟩ := Option.map_eq_some_iff.1 hl
    rw [Lexeme.mark_symbol.1 hmark]
    simp only [sign?_token hop]
    refine (advance_takes rfl).next fun _ _ => ?_
    exact (h.reads operand .factor he (by decide) (by omega) depth after (by omega) hafter).next
      fun t ht => .pure ⟨ht.unary op, rfl⟩

theorem TakesBelow.reads_negation (h : TakesBelow n) {operand : Expr}
    (he : operand.isReadable mode false = true)
    (hn : (marks (Expr.unary .negation operand).inks).length ≤ n)
    (hdepth : (marks (Expr.unary .negation operand).inks).length ≤ depth)
    (hafter : Clear .negation after) :
    TakesExpr (inversion (deepReaders depth)) (marks (Expr.unary .negation operand).inks ++ after)
      (.unary .negation operand) after := by
  have hmarks : marks (Expr.unary .negation operand).inks =
      .symbol "not" :: operand.marksAt .negation := rfl
  rw [hmarks] at hn hdepth ⊢
  cases depth with
  | zero => cases hdepth
  | succ depth =>
    rw [List.length_cons] at hn hdepth
    exact ifAccept_hit ((h.reads operand .negation he (by decide) (by omega) depth after (by omega) hafter).next
      fun t ht => .pure ⟨ht.unary .negation, rfl⟩)

theorem TakesBelow.reads_power (h : TakesBelow n) {left right : Expr}
    (hleft : left.isReadable mode false = true) (hright : right.isReadable mode false = true)
    (hn : (marks (Expr.binary left .pow right).inks).length ≤ n)
    (hdepth : (marks (Expr.binary left .pow right).inks).length ≤ depth)
    (hafter : Clear .power after) :
    TakesExpr (power (deepReaders depth)) (marks (Expr.binary left .pow right).inks ++ after)
      (.binary left .pow right) after := by
  have hmarks : marks (Expr.binary left .pow right).inks =
      left.marksAt .await ++ .symbol "**" :: right.marksAt .factor := marks_binary left .pow right
  rw [hmarks] at hn hdepth ⊢
  rw [List.length_append, List.length_cons] at hn hdepth
  rw [List.append_assoc, List.cons_append]
  cases depth with
  | zero => omega
  | succ depth =>
    refine (h.reads left .await hleft (by decide) (by omega) (depth + 1) _ (by omega)
      (clear_cons (by decide))).next fun t ht => ?_
    exact ifAccept_hit ((h.reads right .factor hright (by decide) (by omega) depth after (by omega)
      hafter.factor).next fun u hu => .pure ⟨ht.binary hu .pow, rfl⟩)

/-! ## Connectives and comparisons -/

theorem TakesBelow.reads_logical (h : TakesBelow n) {op : BoolOp} {values : List Expr}
    (he : (Expr.logical op values).isReadable mode false = true)
    (hn : (marks (Expr.logical op values).inks).length ≤ n)
    (hdepth : (marks (Expr.logical op values).inks).length ≤ depth)
    (hafter : Clear op.precedence after) :
    TakesExpr (level (deepReaders depth) op.precedence) (marks (Expr.logical op values).inks ++ after)
      (.logical op values) after := by
  simp only [Expr.isReadable, Bool.and_eq_true, Expr.areReadable_iff, decide_eq_true_iff] at he
  obtain ⟨htwo, hplain⟩ := he
  have hnext : op.precedence.rank < op.precedence.next.rank := by cases op <;> decide
  have hstrength : Precedence.test.rank ≤ op.precedence.next.rank := by cases op <;> decide
  rcases values with _ | ⟨v, _ | ⟨w, vs⟩⟩
  · cases htwo
  · exact absurd htwo (Nat.not_succ_le_self 1)
  · rw [marks_logical, List.length_append] at hn hdepth
    rw [marks_logical, level_joined, List.append_assoc]
    have hlength : ∀ x ∈ w :: vs, (x.marksAt op.precedence.next).length <
        ((w :: vs).flatMap fun x => .symbol op.token :: x.marksAt op.precedence.next).length :=
      fun x hx => length_mem_le_flatMap
        (f := fun x : Expr => .symbol op.token :: x.marksAt op.precedence.next) hx
    have hpos := hlength w List.mem_cons_self
    have hrest : ∀ x ∈ w :: vs, ∀ after', Clear op.precedence.next after' →
        TakesExpr (level (deepReaders depth) op.precedence.next) (x.marksAt op.precedence.next ++ after')
          x after' := fun x hx after' hafter' => by
      have hlt := hlength x hx
      exact h.reads x _ (hplain x (List.mem_cons_of_mem v hx)) hstrength (by omega) depth after'
        (by omega) hafter'
    refine joined_takes (by simp) hafter
      (h.reads v _ (hplain v List.mem_cons_self) hstrength (by omega) depth _ (by omega) ?_) hrest
    refine clear_cons ?_
    rw [attach_logical]
    exact hnext

theorem TakesBelow.reads_compare (h : TakesBelow n) {left : Expr} {ops : List CompareOp}
    {comparators : List Expr} (he : (Expr.compare left ops comparators).isReadable mode false = true)
    (hn : (marks (Expr.compare left ops comparators).inks).length ≤ n)
    (hdepth : (marks (Expr.compare left ops comparators).inks).length ≤ depth)
    (hafter : Clear .comparison after) :
    TakesExpr (comparison (deepReaders depth)) (marks (Expr.compare left ops comparators).inks ++ after)
      (.compare left ops comparators) after := by
  simp only [Expr.isReadable, Bool.and_eq_true, Expr.areReadable_iff, beq_iff_eq, Bool.not_eq_true'] at he
  obtain ⟨⟨⟨hne, hlength⟩, hleft⟩, hplain⟩ := he
  rw [marks_compare] at hn hdepth ⊢
  -- The operators and operands are the two halves of one list of pairs.
  obtain ⟨hops, hcomparators⟩ : (ops.zip comparators).map (·.1) = ops ∧
      (ops.zip comparators).map (·.2) = comparators :=
    ⟨List.map_fst_zip (Nat.le_of_eq hlength), List.map_snd_zip (Nat.le_of_eq hlength.symm)⟩
  generalize ops.zip comparators = others at hn hdepth hops hcomparators ⊢
  subst hops hcomparators
  rw [List.length_append] at hn hdepth
  have hwritten : ∀ x ∈ others, (x.2.marksAt .bitOr).length <
      (others.flatMap fun x => compareMarks x.1 ++ x.2.marksAt .bitOr).length := by
    intro x hx
    have hle := length_mem_le_flatMap
      (f := fun x : CompareOp × Expr => compareMarks x.1 ++ x.2.marksAt .bitOr) hx
    obtain ⟨m, ms, hmarks, -⟩ := compareMarks_head x.1
    rw [hmarks, List.cons_append, List.length_cons, List.length_append] at hle
    omega
  cases others with
  | nil => cases hne
  | cons x xs =>
    have hpos := hwritten x List.mem_cons_self
    rw [List.append_assoc]
    refine comparison_takes (by simp) hafter
      (h.reads left .bitOr hleft (by decide) (by omega) depth _ (by omega) ?_) fun y hy => ?_
    · obtain ⟨m, ms, hmarks, hattach⟩ := compareMarks_head x.1
      rw [List.flatMap_cons, hmarks]
      exact clear_cons (by rw [hattach]; decide)
    · have hlt := hwritten y hy
      have hy2 := hplain y.2 (List.mem_map_of_mem hy)
      exact ⟨Expr.opens hy2 .bitOr, fun after' hafter' =>
        h.reads y.2 .bitOr hy2 (by decide) (by omega) depth after' (by omega) hafter'⟩

/-! ## Every strength -/

/-- An expression is taken at its own strength, if that is no looser than a condition. -/
theorem TakesBelow.reads_own (h : TakesBelow n) (he : e.isReadable mode false = true)
    (htest : Precedence.test.rank ≤ e.strength.rank) (hn : (marks e.inks).length ≤ n)
    (hdepth : (marks e.inks).length ≤ depth) (hafter : Clear e.strength after) :
    TakesExpr (level (deepReaders depth) e.strength) (marks e.inks ++ after) e after := by
  have hatom : e.strength = .atom →
      TakesExpr (level (deepReaders depth) e.strength) (marks e.inks ++ after) e after := by
    intro hstrength
    rw [hstrength] at hafter ⊢
    exact (h.trailing_atom he hstrength hn hdepth hafter.apart).primary hafter
  cases e with
  | binary left op right =>
    by_cases hpow : op = .pow
    · subst hpow
      rw [Expr.isReadable, Bool.and_eq_true] at he
      exact h.reads_power he.1 he.2 hn hdepth hafter
    · exact h.reads_chain hpow he hn hdepth hafter
  | unary op operand =>
    by_cases hop : op = .negation
    · subst hop
      exact h.reads_negation he hn hdepth hafter
    · have hstrength : (Expr.unary op operand).strength = .factor := by
        cases op <;> first | rfl | exact (hop rfl).elim
      rw [hstrength] at hafter ⊢
      exact h.reads_sign hop he hn hdepth hafter
  | logical op values => exact h.reads_logical he hn hdepth hafter
  | compare left ops comparators => exact h.reads_compare he hn hdepth hafter
  | starred value => cases he
  | captured kind source =>
    obtain ⟨-, word, rfl, hword⟩ := Expr.captured_cases he
    have hinks : marks (Expr.captured kind (some (Text.ofChars word))).inks = [.captured kind word] := by
      rw [Expr.inks, filterMap_char_ofChars]
      rfl
    have hstrength : (Expr.captured kind (some (Text.ofChars word))).strength =
      Precedence.ofCaptured kind := rfl
    rw [hstrength] at htest hafter ⊢
    rw [hinks]
    obtain hkind | hkind | hkind | hkind | hkind := ofCaptured_cases kind
    · exact absurd htest (by rw [hkind]; decide)
    · exact absurd htest (by rw [hkind]; decide)
    · rw [hkind] at hafter ⊢
      exact hword.expression hkind (Nat.le_add_right _ _) hafter
    · rw [hkind] at hafter ⊢
      exact hword.awaited hkind (Nat.le_add_right _ _) (hafter.mono (by decide))
    · rw [← hstrength, ← hinks]
      exact hatom hkind
  | _ => exact hatom rfl

/-- Expressions with one mark more are taken as well. -/
theorem TakesBelow.next (h : TakesBelow n) : TakesBelow (n + 1) where
  reads e p he hp hn depth after hdepth hafter := by
    rcases Nat.lt_or_ge e.strength.rank p.rank with hlt | hge
    · rw [Expr.marksAt_of_lt hlt] at hn hdepth ⊢
      rw [List.length_cons, List.length_append] at hn hdepth
      rw [List.cons_append, List.append_assoc]
      have htrailing : Trailing (deepReaders depth) _ e after :=
        h.trailing_parenthesized he (by omega) (by omega) after
      exact level_of_le (q := .atom) (rank_le_atom p)
        (htrailing.primary (hafter.mono (rank_le_atom p)))
        ⟨.symbol "(", Option.mem_some_self _, by decide⟩ hafter
    · have hopens := (Expr.opens he e.strength).append after
      rw [Expr.marksAt_of_le (Nat.le_refl _)] at hopens
      rw [Expr.marksAt_of_le hge] at hn hdepth ⊢
      exact level_of_le hge (h.reads_own he (Nat.le_trans hp hge) (by omega) hdepth (hafter.mono hge))
        hopens hafter
  trails e he hn depth after hdepth hafter := by
    rcases Nat.lt_or_ge e.strength.rank Precedence.atom.rank with hlt | hge
    · rw [Expr.marksAt_of_lt hlt] at hn hdepth ⊢
      rw [List.length_cons, List.length_append] at hn hdepth
      rw [List.cons_append, List.append_assoc]
      exact h.trailing_parenthesized he (by omega) (by omega) after
    · have hstrength : e.strength = .atom :=
        rank_injective (Nat.le_antisymm (rank_le_atom _) hge)
      rw [Expr.marksAt_of_le hge] at hn hdepth ⊢
      exact h.trailing_atom he hstrength (by omega) hdepth hafter

theorem takesBelow (n : Nat) : TakesBelow n := by
  induction n with
  | zero => exact ⟨fun _ _ _ _ hn => absurd hn (Nat.not_lt_zero _), fun _ _ hn =>
      absurd hn (Nat.not_lt_zero _)⟩
  | succ n ih => exact ih.next

/-- In every place that requires at least a condition, the reader of the required strength takes a readable
expression. -/
theorem Expr.readsAt (h : e.isReadable mode false = true) {p : Precedence}
    (hp : Precedence.test.rank ≤ p.rank) : e.ReadsAt p :=
  (takesBelow _).reads e p h hp (Nat.lt_succ_self _)

end Refactory
