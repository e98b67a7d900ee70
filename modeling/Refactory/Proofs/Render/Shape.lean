import Refactory.Proofs.Grammar.Reading
import Refactory.Proofs.Render.Ink

/-! # How a written expression begins and ends

The first mark of a readable expression tells how tightly the expression can bind, and if it is a name,
the next mark goes on with it (`Expr.leads`). No blank stands at either end (`Expr.rests`). -/

namespace Refactory

open Grammar Inks

namespace Inks

@[simp]
theorem marks_nil : marks [] = [] := rfl

@[simp]
theorem marks_gap (inks : List Ink) : marks (.gap :: inks) = marks inks := rfl

@[simp]
theorem marks_mark (m : Mark) (inks : List Ink) : marks (.mark m :: inks) = m :: marks inks := rfl

@[simp]
theorem marks_append (xs ys : List Ink) : marks (xs ++ ys) = marks xs ++ marks ys :=
  List.filterMap_append

/-- A symbol comes next that goes on with an expression. -/
def GoesOn (inks : List Ink) : Prop :=
  ∃ text ms, marks inks = .symbol text :: ms ∧ 0 < (Mark.symbol text).attach

/-- No symbol that ends an expression stands behind a name with which the marks begin, unless it comes
behind them all. -/
def Unbound (ms : List Mark) : Prop :=
  ∀ text after, (Mark.symbol text).attach = 0 → next? after ≠ some (.symbol text) →
    isNameThen text (ms ++ after) = false

/-- The first ink is a mark that an expression of at least the given strength begins with, and the marks
are those of no assignment expression. -/
def Leads (least : Nat) (inks : List Ink) : Prop :=
  ∃ m rest, inks = .mark m :: rest ∧ least ≤ m.opens ∧
    (Precedence.test.rank ≤ least → Unbound (marks inks))

variable {n : Nat} {xs ys : List Ink} {ms : List Mark}

theorem namesThen_false {text : String} {m m' : Mark} (h : m' ≠ .symbol text) (ms : List Mark) :
    namesThen text (m :: m' :: ms) = false := by
  unfold namesThen
  split
  · rename_i heq
    cases heq
    exact beq_eq_false_iff_ne.2 fun hs => h (by rw [hs])
  · rfl

theorem namesThen_single {text : String} (m : Mark) (h : ms.head? ≠ some (.symbol text)) :
    namesThen text (m :: ms) = false := by
  cases ms with
  | nil => cases m <;> rfl
  | cons m' ms => exact namesThen_false (fun hm => h (congrArg some hm)) ms

/-- A mark alone. -/
theorem unbound_single {m : Mark} (hm : m.tokens = [m]) : Unbound [m] := fun text after _ hafter => by
  rw [isNameThen, List.singleton_append, List.flatMap_cons, hm, List.singleton_append]
  exact namesThen_single m (by rwa [← next?_eq])

theorem unbound_symbol (text : String) (ms : List Mark) : Unbound (.symbol text :: ms) :=
  fun _ _ _ _ => rfl

/-- A captured expression that is no assignment expression. -/
theorem unbound_captured {kind : Text} {text : List Char} (h : Verbatim kind text)
    (hkind : kind ≠ "NamedExpr") : Unbound [.captured kind text] := fun s after hs hafter => by
  have hbinding := h.binding.resolve_left hkind
  rw [isNameThen, List.singleton_append, List.flatMap_cons, Mark.tokens_captured kind h.nonempty]
  cases hexcerpt : excerpt text with
  | nil => exact (h.nonempty hexcerpt).elim
  | cons t ts =>
    cases ts with
    | nil =>
      rw [next?_eq] at hafter
      exact namesThen_single _ hafter
    | cons t' ts =>
      rw [hexcerpt] at hbinding
      by_cases hname : ∃ id, t.lexeme = .name id
      · obtain ⟨id, hid⟩ := hname
        refine namesThen_false (fun hsymbol => ?_) _
        rw [List.map_cons, List.map_cons, hid, Lexeme.mark_symbol.1 hsymbol, startsBinding, hs] at hbinding
        cases hbinding
      · rw [List.map_cons, List.cons_append]
        unfold namesThen
        split
        · rename_i id _ _ heq
          exact (hname ⟨id, Lexeme.mark_name.1 (List.cons.inj heq).1⟩).elim
        · rfl

theorem Unbound.append (h : Unbound ms) (hys : GoesOn ys) : Unbound (ms ++ marks ys) :=
  fun text after htext _ => by
    rw [List.append_assoc]
    refine h text _ htext ?_
    obtain ⟨s, ms', hmarks, hattach⟩ := hys
    rw [hmarks]
    rintro ⟨⟩
    exact (Nat.ne_of_gt hattach htext).elim

theorem Leads.mono {m : Nat} (h : Leads n xs) (hmn : m ≤ n) : Leads m xs := by
  obtain ⟨first, rest, hxs, hopens, hunbound⟩ := h
  exact ⟨first, rest, hxs, Nat.le_trans hmn hopens, fun hm => hunbound (Nat.le_trans hm hmn)⟩

theorem Leads.append (h : Leads n xs) (hys : GoesOn ys) : Leads n (xs ++ ys) := by
  obtain ⟨first, rest, rfl, hopens, hunbound⟩ := h
  refine ⟨first, rest ++ ys, rfl, hopens, fun hn => ?_⟩
  rw [marks_append]
  exact (hunbound hn).append hys

theorem leads_symbol {text : String} (h : n ≤ (Mark.symbol text).opens) (inks : List Ink) :
    Leads n (.symbol text :: inks) := ⟨_, inks, rfl, h, fun _ => unbound_symbol text _⟩

theorem leads_single {m : Mark} (h : n ≤ m.opens) (hm : m.tokens = [m]) : Leads n [.mark m] :=
  ⟨m, [], rfl, h, fun _ => unbound_single hm⟩

theorem leads_captured {kind : Text} {text : List Char} (h : Verbatim kind text) :
    Leads (Precedence.ofCaptured kind).rank [.mark (.captured kind text)] := by
  refine ⟨_, [], rfl, Nat.le_min.2 ⟨Nat.le_refl _, h.opens⟩, fun htest => unbound_captured h ?_⟩
  rintro rfl
  exact absurd htest (by decide)

/-- Parentheses bind as tightly as any place requires. -/
theorem Leads.enclose {p : Precedence} (h : Leads p.rank xs) (least : Precedence) :
    Leads least.rank (enclose least (p, xs)) := by
  unfold Inks.enclose
  split
  · exact leads_symbol (rank_le_atom least) _
  · exact h.mono (Nat.le_of_not_lt ‹_›)

/-- The last ink is a mark, which is no colon: the line of an expression is not the head of a block. -/
def Rests (inks : List Ink) : Prop := ∃ init m, inks = init ++ [.mark m] ∧ m ≠ .symbol ":"

theorem Rests.append (h : Rests ys) (xs : List Ink) : Rests (xs ++ ys) := by
  obtain ⟨init, m, rfl, hm⟩ := h
  exact ⟨xs ++ init, m, (List.append_assoc _ _ _).symm, hm⟩

theorem Rests.cons (h : Rests xs) (x : Ink) : Rests (x :: xs) := h.append [x]

theorem rests_mark (xs : List Ink) {m : Mark} (hm : m ≠ .symbol ":") : Rests (xs ++ [.mark m]) :=
  ⟨xs, m, rfl, hm⟩

theorem Rests.enclose (h : Rests xs) (least p : Precedence) : Rests (enclose least (p, xs)) := by
  unfold Inks.enclose
  split
  · exact (rests_mark xs (by decide)).cons _
  · exact h

theorem Rests.join {sep : List Ink} {parts : List (List Ink)} (hparts : parts ≠ [])
    (h : ∀ x ∈ parts, Rests x) : Rests (join sep parts) := by
  induction parts with
  | nil => exact (hparts rfl).elim
  | cons x rest ih =>
    rw [List.forall_mem_cons] at h
    cases rest with
    | nil => simpa [Inks.join] using h.1
    | cons y ys =>
      have hrest := ih (by simp) h.2
      simp only [Inks.join, List.flatMap_cons, List.append_assoc] at hrest ⊢
      exact (hrest.append sep).append x

theorem Rests.comparison {ops : List CompareOp} {parts : List (List Ink)} (hops : ops ≠ [])
    (hlength : ops.length = parts.length) (h : ∀ x ∈ parts, Rests x) :
    Rests (Inks.comparison ops parts) := by
  induction ops generalizing parts with
  | nil => exact (hops rfl).elim
  | cons op ops ih =>
    cases parts with
    | nil => cases hlength
    | cons x rest =>
      rw [List.forall_mem_cons] at h
      refine (((?_ : Rests (x ++ Inks.comparison ops rest)).cons _).append _).cons _
      cases ops with
      | nil => simpa [Inks.comparison] using h.1
      | cons op' ops => exact (ih (by simp) (Nat.succ.inj hlength) h.2).append x

end Inks

variable {mode : RenderMode}

theorem goesOn_symbol {text : String} (h : 0 < (Mark.symbol text).attach) (inks : List Ink) :
    GoesOn (.symbol text :: inks) := ⟨_, marks inks, rfl, h⟩

theorem goesOn_comparison {ops : List CompareOp} {parts : List (List Ink)} (hops : ops ≠ [])
    (hlength : ops.length = parts.length) : GoesOn (Inks.comparison ops parts) := by
  cases ops with
  | nil => exact (hops rfl).elim
  | cons op ops =>
    cases parts with
    | nil => cases hlength
    | cons x rest => cases op <;> exact ⟨_, _, rfl, by decide⟩

/-- The first mark of a readable expression binds as tightly as the expression. -/
theorem Expr.leads : ∀ e : Expr, e.isReadable mode false = true → Leads e.strength.rank e.inks := by
  refine Expr.induct_children fun e ih h => ?_
  cases e with
  | name id => exact leads_single (Nat.le_refl _) rfl
  | string value => exact leads_single (Nat.le_refl _) rfl
  | number value => exact leads_single (Nat.le_refl _) rfl
  | truth value => cases value <;> exact leads_symbol (Nat.le_refl _) _
  | noneLiteral => exact leads_symbol (Nat.le_refl _) _
  | call func args keywords =>
    simp only [Expr.isReadable, Bool.and_eq_true] at h
    rw [Expr.inks_call]
    exact ((ih func (by simp [Expr.children]) h.1.1).enclose .atom).append
      (goesOn_symbol (by decide) _)
  | binary left op right =>
    rw [Expr.isReadable, Bool.and_eq_true] at h
    have hleft := (ih left (by simp [Expr.children]) h.1).enclose op.operands.1
    have hstrength : op.precedence.rank ≤ op.operands.1.rank := by cases op <;> decide
    refine (hleft.mono hstrength).append ⟨op.token, _, rfl, ?_⟩
    rw [attach_binary]
    cases op <;> decide
  | unary op operand => cases op <;> exact leads_symbol (Nat.le_refl _) _
  | logical op values =>
    rw [Expr.inks_logical]
    rcases values with _ | ⟨v, _ | ⟨w, vs⟩⟩
    · cases h
    · cases h
    · simp only [Expr.isReadable, Bool.and_eq_true, Expr.areReadable] at h
      have hfirst := (ih v (by simp [Expr.children]) h.2.1).enclose op.precedence.next
      have hstrength : op.precedence.rank ≤ op.precedence.next.rank := by cases op <;> decide
      refine (hfirst.mono hstrength).append ⟨op.token, _, rfl, ?_⟩
      rw [attach_logical]
      cases op <;> decide
  | compare left ops comparators =>
    simp only [Expr.isReadable, Bool.and_eq_true, beq_iff_eq] at h
    have hleft := (ih left (by simp [Expr.children]) h.1.2).enclose .bitOr
    have hops : ops ≠ [] := by
      rintro rfl
      cases h.1.1.1
    rw [Expr.inks_compare]
    exact (hleft.mono (show Precedence.comparison.rank ≤ _ by decide)).append
      (goesOn_comparison hops (by simpa using h.1.1.2))
  | «attribute» value attr =>
    rw [Expr.isReadable, Bool.and_eq_true] at h
    have hvalue := ih value (by simp [Expr.children]) h.2
    rw [Expr.inks]
    refine Leads.append (Leads.enclose ?_ .atom) (goesOn_symbol (by decide) _)
    split
    · rename_i hnumber
      have hstrength : value.strength = .atom := by
        cases value with
        | number value => rfl
        | _ => cases hnumber
      exact hvalue.mono (by rw [hstrength]; decide)
    · exact hvalue
  | subscript value index =>
    rw [Expr.isReadable, Bool.and_eq_true] at h
    exact ((ih value (by simp [Expr.children]) h.1).enclose .atom).append
      (goesOn_symbol (by decide) _)
  | starred value => cases h
  | tuple elements => exact leads_symbol (Nat.le_refl _) _
  | list elements => exact leads_symbol (Nat.le_refl _) _
  | dict keys values => exact leads_symbol (Nat.le_refl _) _
  | captured kind source =>
    obtain ⟨-, word, rfl, hword⟩ := Expr.captured_cases h
    rw [Expr.inks, filterMap_char_ofChars]
    exact leads_captured hword
  | formatted _ | foreign _ => cases h

/-- A readable expression ends in a mark that is no colon. -/
theorem Expr.rests : ∀ (e : Expr) (star : Bool), e.isReadable mode star = true → Rests e.inks := by
  refine Expr.induct_children fun e ih star h => ?_
  cases e with
  | name _ | string _ | number _ | noneLiteral => exact rests_mark [] (by simp)
  | truth value => cases value <;> exact rests_mark [] (by decide)
  | call func args keywords =>
    rw [Expr.inks_call]
    exact ((rests_mark _ (by decide)).cons _).append _
  | binary left op right =>
    rw [Expr.isReadable, Bool.and_eq_true] at h
    have hright := ih right (by simp [Expr.children]) false h.2
    exact ((((hright.enclose _ _).cons _).cons _).cons _).append _
  | unary op operand =>
    have hoperand := ih operand (by simp [Expr.children]) false h
    cases op with
    | negation => exact ((hoperand.enclose _ _).cons _).cons _
    | _ => exact (hoperand.enclose _ _).cons _
  | logical op values =>
    simp only [Expr.isReadable, Bool.and_eq_true, Expr.areReadable_iff, decide_eq_true_iff] at h
    rw [Expr.inks_logical]
    refine .join ?_ ?_
    · rintro hnil
      rw [List.map_eq_nil_iff.1 hnil] at h
      exact absurd h.1 (by decide)
    · intro x hx
      obtain ⟨v, hv, rfl⟩ := List.mem_map.1 hx
      exact (ih v hv false (h.2 v hv)).enclose _ _
  | compare left ops comparators =>
    simp only [Expr.isReadable, Bool.and_eq_true, beq_iff_eq, Expr.areReadable_iff] at h
    have hops : ops ≠ [] := by
      rintro rfl
      cases h.1.1.1
    rw [Expr.inks_compare]
    refine Rests.append (.comparison hops (by simpa using h.1.1.2) fun x hx => ?_) _
    obtain ⟨v, hv, rfl⟩ := List.mem_map.1 hx
    exact (ih v (by simp [Expr.children, hv]) false (h.2 v hv)).enclose _ _
  | «attribute» value attr => exact ((rests_mark [] (by simp)).cons _).append _
  | subscript value index => exact ((rests_mark _ (by decide)).cons _).append _
  | starred value =>
    rw [Expr.isReadable, Bool.and_eq_true] at h
    exact ((ih value (by simp [Expr.children]) false h.2).enclose _ _).cons _
  | tuple _ | list _ | dict _ _ => exact (rests_mark _ (by decide)).cons _
  | captured kind source =>
    obtain ⟨-, word, rfl, -⟩ := Expr.captured_cases h
    exact rests_mark [] (by simp)
  | formatted _ | foreign _ => cases h

end Refactory
