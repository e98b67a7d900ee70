import Refactory.Proofs.Grammar.Captured
import Refactory.Proofs.Render.Marks

/-! # Readers take what is written: atoms

The reader of a strength takes the marks of an expression in a place that requires this strength
(`Expr.ReadsAt`). This is shown by induction on the number of marks: what stands in brackets and what
calls, subscripts and attributes are of have fewer (`TakesBelow`). -/

namespace Refactory

open Grammar Inks

variable {mode : RenderMode} {n depth : Nat} {e : Expr}

/-! ## How expressions begin -/

theorem Expr.opens (h : e.isReadable mode false = true) (p : Precedence) :
    Opens p.rank (e.marksAt p) := by
  obtain ⟨m, rest, hinks, hopens, -⟩ := (e.leads h).enclose p
  refine ⟨m, ?_, hopens⟩
  rw [Expr.marksAt, Expr.inksAt, hinks]
  rfl

/-- What binds less tightly than a condition is captured. -/
theorem Expr.captured_of_loose (h : e.isReadable mode false = true)
    (hloose : e.strength.rank < Precedence.test.rank) :
    ∃ kind word, e = .captured kind (some (Text.ofChars word)) ∧ Verbatim kind word := by
  cases e with
  | captured kind source =>
    obtain ⟨-, word, rfl, hword⟩ := Expr.captured_cases h
    exact ⟨kind, word, rfl, hword⟩
  | binary left op right => cases op <;> exact absurd hloose (Nat.not_lt.2 (Nat.le_of_ble_eq_true rfl))
  | unary op operand => cases op <;> exact absurd hloose (Nat.not_lt.2 (Nat.le_of_ble_eq_true rfl))
  | logical op values => cases op <;> exact absurd hloose (Nat.not_lt.2 (Nat.le_of_ble_eq_true rfl))
  | _ => exact absurd hloose (Nat.not_lt.2 (Nat.le_of_ble_eq_true rfl))

theorem apart_symbol (text : String) (ms : List Mark) : Apart (.symbol text :: ms) :=
  fun m hm => by cases hm; rfl

/-- No sign of assignment stands behind a name with which an expression begins. -/
theorem Expr.named (h : e.isReadable mode false = true) {text : String} {after : List Mark}
    (htext : (Mark.symbol text).attach = 0) (hafter : next? after ≠ some (.symbol text)) :
    isNameThen text (e.marksAt .test ++ after) = false := by
  obtain ⟨m, rest, -, -, hunbound⟩ := (e.leads h).enclose .test
  exact hunbound (Nat.le_refl _) text after htext hafter

/-! ## Parts have fewer marks -/

theorem length_mem_le_flatMap {α : Type} {f : α → List Mark} {xs : List α} {x : α} (h : x ∈ xs) :
    (f x).length ≤ (xs.flatMap f).length := by
  induction xs with
  | nil => cases h
  | cons y ys ih =>
    rw [List.flatMap_cons, List.length_append]
    rcases List.mem_cons.1 h with rfl | hx
    · exact Nat.le_add_right _ _
    · exact Nat.le_trans (ih hx) (Nat.le_add_left _ _)

theorem length_le_commaMarks {w : Expr → List Mark} {es : List Expr} (h : e ∈ es) :
    (w e).length ≤ (commaMarks w es).length := by
  cases es with
  | nil => cases h
  | cons x xs =>
    rw [commaMarks, List.length_append]
    rcases List.mem_cons.1 h with rfl | he
    · exact Nat.le_add_right _ _
    · have hle := length_mem_le_flatMap (f := fun x => .symbol "," :: w x) he
      rw [List.length_cons] at hle
      omega

theorem length_le_restMarks_of_mem (w : Expr → List Mark) (wk : Keyword → List Mark)
    (es : List Expr) (ks : List Keyword) :
    (∀ x ∈ es, (w x).length ≤ (restMarks w wk es ks).length) ∧
      ∀ x ∈ ks, (wk x).length ≤ (restMarks w wk es ks).length := by
  rw [restMarks, List.length_append]
  constructor
  · intro x hx
    have hle := length_mem_le_flatMap (f := fun x => .symbol "," :: w x) hx
    rw [List.length_cons] at hle
    omega
  · intro x hx
    have hle := length_mem_le_flatMap (f := fun x => .symbol "," :: wk x) hx
    rw [List.length_cons] at hle
    omega

theorem length_le_argumentMarks (w : Expr → List Mark) (wk : Keyword → List Mark) (es : List Expr)
    (ks : List Keyword) : (∀ x ∈ es, (w x).length ≤ (argumentMarks w wk es ks).length) ∧
      ∀ x ∈ ks, (wk x).length ≤ (argumentMarks w wk es ks).length := by
  match es, ks with
  | [], [] => exact ⟨by simp, by simp⟩
  | [], k :: ks =>
    have hrest := (length_le_restMarks_of_mem w wk [] ks).2
    rw [argumentMarks, List.length_append]
    refine ⟨by simp, List.forall_mem_cons.2 ⟨Nat.le_add_right _ _, fun x hx => ?_⟩⟩
    exact Nat.le_trans (hrest x hx) (Nat.le_add_left _ _)
  | e :: es, ks =>
    have hrest := length_le_restMarks_of_mem w wk es ks
    rw [argumentMarks, List.length_append]
    refine ⟨List.forall_mem_cons.2 ⟨Nat.le_add_right _ _, fun x hx => ?_⟩, fun x hx => ?_⟩
    · exact Nat.le_trans (hrest.1 x hx) (Nat.le_add_left _ _)
    · exact Nat.le_trans (hrest.2 x hx) (Nat.le_add_left _ _)

/-! ## In brackets -/

variable [Setting]

/-- The readers that can go so deep around what is captured. -/
abbrev deepReaders (depth : Nat) : Readers := readers (Setting.deep + depth)

/-- The reader of a strength takes the expression from a place that requires this strength, if it may
go as deep as there are marks. -/
def Expr.ReadsAt (p : Precedence) (e : Expr) : Prop :=
  ∀ depth after, (e.marksAt p).length ≤ depth → Clear p after →
    TakesExpr (level (deepReaders depth) p) (e.marksAt p ++ after) e after

/-- In the place of an atom, the loop behind an atom takes the expression, and can go on behind it. -/
def Expr.Trails (e : Expr) : Prop :=
  ∀ depth after, (e.marksAt .atom).length ≤ depth → Apart after →
    Trailing (deepReaders depth) (e.marksAt .atom ++ after) e after

/-- Expressions with fewer marks are taken, where nothing looser than a condition can stand without
parentheses. -/
structure TakesBelow (n : Nat) : Prop where
  reads : ∀ {mode : RenderMode} (e : Expr) (p : Precedence), e.isReadable mode false = true →
    Precedence.test.rank ≤ p.rank → (e.marksAt p).length < n → e.ReadsAt p
  trails : ∀ {mode : RenderMode} (e : Expr), e.isReadable mode false = true →
    (e.marksAt .atom).length < n → e.Trails

theorem TakesBelow.inner (h : TakesBelow n) (he : e.isReadable mode false = true)
    (hn : (e.marksAt .test).length < n) (hdepth : (e.marksAt .test).length < depth) :
    Inner (deepReaders depth) e (e.marksAt .test) where
  starred := Expr.not_starred he
  opens := Expr.opens he .test
  named := fun _ _ htext hafter => Expr.named he htext hafter
  takes := fun after hafter => by
    cases depth with
    | zero => cases hdepth
    | succ depth =>
      exact h.reads e .test he (Nat.le_refl _) hn depth after (Nat.le_of_lt_succ hdepth)
        (hafter.clear _)

theorem TakesBelow.unpacked (h : TakesBelow n) (he : e.isReadable mode false = true)
    (hn : (e.marksAt .bitOr).length < n) (hdepth : (e.marksAt .bitOr).length < depth) :
    Unpacked (deepReaders depth) e (e.marksAt .bitOr) := by
  cases depth with
  | zero => cases hdepth
  | succ depth =>
    have hreads : ∀ after, Ends after → TakesExpr (level (deepReaders depth) .bitOr)
        (e.marksAt .bitOr ++ after) e after := fun after hafter =>
      h.reads e .bitOr he (by decide) hn depth after (Nat.le_of_lt_succ hdepth) (hafter.clear _)
    refine ⟨hreads, fun after hafter => ?_⟩
    exact level_of_le (p := .test) (by decide) (hreads after hafter)
      ((Expr.opens he .bitOr).append after) (hafter.clear _)

theorem TakesBelow.element (h : TakesBelow n) (he : e.isReadable mode true = true)
    (hn : (e.marksAt .test).length < n) (hdepth : (e.marksAt .test).length < depth) :
    Element (deepReaders depth) e (e.marksAt .test) := by
  cases hstarred : e.isStarred with
  | false =>
    exact .plain (h.inner (Expr.readable_of_not_starred he hstarred) hn hdepth)
  | true =>
    cases e with
    | starred value =>
      rw [Expr.isReadable, Bool.true_and] at he
      have hmarks : (Expr.starred value).marksAt .test = .symbol "*" :: value.marksAt .bitOr :=
        Expr.marksAt_of_le (Nat.le_refl _)
      rw [hmarks, List.length_cons] at hn hdepth
      rw [hmarks]
      exact .starred (h.unpacked he (by omega) (by omega))
    | _ => cases hstarred

theorem TakesBelow.passed (h : TakesBelow n) {k : Keyword} (hk : k.value.isReadable mode false = true)
    (hn : k.marks.length < n) (hdepth : k.marks.length < depth) :
    Passed (deepReaders depth) k k.marks := by
  obtain ⟨arg, value⟩ := k
  cases arg with
  | none =>
    have hmarks : (Keyword.mk none value).marks = .symbol "**" :: value.marksAt .bitOr := rfl
    rw [hmarks, List.length_cons] at hn hdepth
    exact .unpacked (h.unpacked hk (by omega) (by omega))
  | some arg =>
    have hmarks : (Keyword.mk (some arg) value).marks =
        .name arg :: .symbol "=" :: value.marksAt .test := rfl
    rw [hmarks, List.length_cons, List.length_cons] at hn hdepth
    exact .named (h.inner hk (by omega) (by omega))

theorem TakesBelow.entry (h : TakesBelow n) {k : Option Expr} {v : Expr}
    (hk : ∀ e ∈ k, e.isReadable mode false = true) (hv : v.isReadable mode false = true)
    (hn : (Expr.entryMarks (k, v)).length < n) (hdepth : (Expr.entryMarks (k, v)).length < depth) :
    DictEntry (deepReaders depth) (k, v) (Expr.entryMarks (k, v)) := by
  cases k with
  | none =>
    have hmarks : Expr.entryMarks (none, v) = .symbol "**" :: v.marksAt .bitOr := rfl
    rw [hmarks, List.length_cons] at hn hdepth
    exact .unpacked (h.unpacked hv (by omega) (by omega))
  | some k =>
    have hmarks : Expr.entryMarks (some k, v) = k.marksAt .test ++ .symbol ":" :: v.marksAt .test := by
      simp [Expr.entryMarks, Expr.entryInks, Expr.marksAt]
    rw [hmarks, List.length_append, List.length_cons] at hn hdepth
    rw [hmarks]
    exact .pair (h.inner (hk k rfl) (by omega) (by omega)) (h.inner hv (by omega) (by omega))

/-! ## Atoms and what stands behind them -/

theorem atom_parenthesized {r : Readers} {ms after : List Mark} (h : Inner r e ms) :
    TakesExpr (atom r) (.symbol "(" :: (ms ++ .symbol ")" :: after)) e after :=
  atom_symbol fun _ => parenthesis_inner h

/-- An expression in parentheses is an atom. -/
theorem TakesBelow.trailing_parenthesized (h : TakesBelow n) (he : e.isReadable mode false = true)
    (hn : (marks e.inks).length < n) (hdepth : (marks e.inks).length < depth) (after : List Mark) :
    Trailing (deepReaders depth) (.symbol "(" :: (marks e.inks ++ .symbol ")" :: after)) e after := by
  refine .atom ?_
  rcases Nat.lt_or_ge e.strength.rank Precedence.test.rank with hloose | htest
  · obtain ⟨kind, word, rfl, hword⟩ := Expr.captured_of_loose he hloose
    rw [Expr.inks, filterMap_char_ofChars]
    exact atom_symbol fun start => hword.parenthesis hloose (Nat.le_add_right _ _) start
  · rw [← Expr.marksAt_of_le htest] at hn hdepth ⊢
    exact atom_parenthesized (h.inner he hn hdepth)

theorem TakesBelow.trailing_call (h : TakesBelow n) {func : Expr} {args : List Expr}
    {keywords : List Keyword} (he : (Expr.call func args keywords).isReadable mode false = true)
    (hn : (marks (Expr.call func args keywords).inks).length ≤ n)
    (hdepth : (marks (Expr.call func args keywords).inks).length ≤ depth) (after : List Mark) :
    Trailing (deepReaders depth) (marks (Expr.call func args keywords).inks ++ after)
      (.call func args keywords) after := by
  simp only [Expr.isReadable, Bool.and_eq_true, Expr.areReadable_iff, Keyword.areReadable_iff] at he
  obtain ⟨hargs, hkeywords⟩ :=
    length_le_argumentMarks (Expr.marksAt .test) Keyword.marks args keywords
  rw [marks_call] at hn hdepth ⊢
  simp only [List.length_append, List.length_cons] at hn hdepth
  simp only [List.append_assoc, List.cons_append, List.nil_append]
  have hfunc := h.trails func he.1.1 (by omega) depth
    (.symbol "(" :: (argumentMarks (Expr.marksAt .test) Keyword.marks args keywords ++
      .symbol ")" :: after)) (by omega) (fun m hm => by cases hm; rfl)
  refine hfunc.call (fun x hx => ?_) fun x hx => ?_
  · have hle := hargs x hx
    exact h.element (he.1.2 x hx) (by omega) (by omega)
  · have hle := hkeywords x hx
    exact h.passed (he.2 x hx).1 (by omega) (by omega)

theorem TakesBelow.trailing_attribute (h : TakesBelow n) {value : Expr} {attr : Text}
    (he : value.isReadable mode false = true)
    (hn : (marks (Expr.attribute value attr).inks).length ≤ n)
    (hdepth : (marks (Expr.attribute value attr).inks).length ≤ depth) (after : List Mark) :
    Trailing (deepReaders depth) (marks (Expr.attribute value attr).inks ++ after)
      (.attribute value attr) after := by
  refine Trailing.attribute ?_
  cases hnumber : value.isNumber with
  | true =>
    have hmarks : marks (Expr.attribute value attr).inks = Mark.symbol "(" ::
        (marks value.inks ++ [Mark.symbol ")", Mark.symbol ".", Mark.name attr]) := by
      simp [Expr.inks, hnumber, enclose, show Precedence.factor.rank < Precedence.atom.rank by decide]
    rw [hmarks] at hn hdepth ⊢
    simp only [List.length_cons, List.length_append] at hn hdepth
    simp only [List.cons_append, List.append_assoc, List.nil_append]
    exact h.trailing_parenthesized he (by omega) (by omega) _
  | false =>
    have hmarks : marks (Expr.attribute value attr).inks =
        value.marksAt .atom ++ [Mark.symbol ".", Mark.name attr] := by
      simp [Expr.inks, hnumber, Expr.marksAt, Expr.inksAt]
    rw [hmarks] at hn hdepth ⊢
    simp only [List.length_cons, List.length_append] at hn hdepth
    simp only [List.cons_append, List.append_assoc, List.nil_append]
    exact h.trails value he (by omega) depth _ (by omega) (apart_symbol _ _)

theorem TakesBelow.trailing_subscript (h : TakesBelow n) {value index : Expr}
    (he : value.isReadable mode false = true) (hi : index.isReadable mode false = true)
    (hn : (marks (Expr.subscript value index).inks).length ≤ n)
    (hdepth : (marks (Expr.subscript value index).inks).length ≤ depth) (after : List Mark) :
    Trailing (deepReaders depth) (marks (Expr.subscript value index).inks ++ after)
      (.subscript value index) after := by
  have hmarks : marks (Expr.subscript value index).inks =
      value.marksAt .atom ++ Mark.symbol "[" :: (index.marksAt .test ++ [Mark.symbol "]"]) := by
    simp [Expr.inks, Expr.marksAt, Expr.inksAt]
  rw [hmarks] at hn hdepth ⊢
  simp only [List.length_cons, List.length_append] at hn hdepth
  simp only [List.cons_append, List.append_assoc, List.nil_append]
  exact Trailing.subscript (h.trails value he (by omega) depth _ (by omega) (apart_symbol _ _))
    (h.inner hi (by omega) (by omega))

/-- A tuple, a list or a dictionary is an atom. -/
theorem TakesBelow.atom_tuple (h : TakesBelow n) {es : List Expr}
    (he : ∀ e ∈ es, e.isReadable mode true = true) (hn : (marks (Expr.tuple es).inks).length ≤ n)
    (hdepth : (marks (Expr.tuple es).inks).length ≤ depth) (after : List Mark) :
    TakesExpr (atom (deepReaders depth)) (marks (Expr.tuple es).inks ++ after) (.tuple es) after := by
  rw [Expr.inks_tuple] at hn hdepth ⊢
  match es, he with
  | [], _ => exact atom_symbol fun _ => parenthesis_empty
  | [e], he =>
    have hmarks :
        marks (Ink.symbol "(" :: (Inks.tuple ([e].map (Expr.inksAt .test)) ++ [Ink.symbol ")"])) =
          Mark.symbol "(" :: (e.marksAt .test ++ [Mark.symbol ",", Mark.symbol ")"]) := by
      simp [Inks.tuple, Expr.marksAt]
    rw [hmarks] at hn hdepth ⊢
    simp only [List.length_cons, List.length_append] at hn hdepth
    simp only [List.cons_append, List.append_assoc, List.nil_append]
    exact atom_symbol fun _ => parenthesis_single
      (h.element (he e List.mem_cons_self) (by omega) (by omega))
  | e :: x :: es, he =>
    rw [marks_mark, marks_append, marks_tuple _ (by simp)] at hn hdepth ⊢
    simp only [List.length_cons, List.length_append] at hn hdepth
    rw [List.cons_append, List.append_assoc]
    refine atom_symbol fun _ => parenthesis_many fun y hy => ?_
    have hle := length_le_commaMarks (w := Expr.marksAt .test) hy
    exact h.element (he y hy) (by omega) (by omega)

theorem TakesBelow.atom_list (h : TakesBelow n) {es : List Expr}
    (he : ∀ e ∈ es, e.isReadable mode true = true) (hn : (marks (Expr.list es).inks).length ≤ n)
    (hdepth : (marks (Expr.list es).inks).length ≤ depth) (after : List Mark) :
    TakesExpr (atom (deepReaders depth)) (marks (Expr.list es).inks ++ after) (.list es) after := by
  rw [Expr.inks_list, marks_mark, marks_append, marks_commas] at hn hdepth ⊢
  simp only [List.length_cons, List.length_append] at hn hdepth
  rw [List.cons_append, List.append_assoc]
  cases es with
  | nil => exact atom_symbol fun _ => bracket_empty
  | cons e es =>
    refine atom_symbol fun _ => bracket_many fun y hy => ?_
    have hle := length_le_commaMarks (w := Expr.marksAt .test) hy
    exact h.element (he y hy) (by omega) (by omega)

theorem TakesBelow.atom_dict (h : TakesBelow n) {keys : List (Option Expr)} {values : List Expr}
    (hlength : keys.length = values.length) (hkeys : ∀ e, some e ∈ keys → e.isReadable mode false = true)
    (hvalues : ∀ e ∈ values, e.isReadable mode false = true)
    (hn : (marks (Expr.dict keys values).inks).length ≤ n)
    (hdepth : (marks (Expr.dict keys values).inks).length ≤ depth) (after : List Mark) :
    TakesExpr (atom (deepReaders depth)) (marks (Expr.dict keys values).inks ++ after)
      (.dict keys values) after := by
  rw [Expr.inks_dict] at hn hdepth ⊢
  have hmap : (keys.zip values).map (·.1) = keys ∧ (keys.zip values).map (·.2) = values :=
    ⟨List.map_fst_zip (Nat.le_of_eq hlength), List.map_snd_zip (Nat.le_of_eq hlength.symm)⟩
  have hmem : ∀ x ∈ keys.zip values, x.1 ∈ keys ∧ x.2 ∈ values := fun x hx => List.of_mem_zip hx
  generalize keys.zip values = xs at hn hdepth hmap hmem
  obtain ⟨rfl, rfl⟩ := hmap
  cases xs with
  | nil => exact atom_symbol fun _ => brace_empty
  | cons x xs =>
    rw [marks_mark, marks_append, marks_entries] at hn hdepth ⊢
    simp only [List.length_cons, List.length_append] at hn hdepth
    simp only [List.cons_append, List.append_assoc, List.nil_append, marks_mark, marks_nil]
    refine atom_symbol fun _ => brace_many (w := Expr.entryMarks) fun y hy => ?_
    have hle : (Expr.entryMarks y).length ≤ (Expr.entryMarks x).length +
        (xs.flatMap fun y => .symbol "," :: Expr.entryMarks y).length := by
      rcases List.mem_cons.1 hy with rfl | hy
      · exact Nat.le_add_right _ _
      · have hle := length_mem_le_flatMap (f := fun y => .symbol "," :: Expr.entryMarks y) hy
        rw [List.length_cons] at hle
        omega
    obtain ⟨k, v⟩ := y
    refine h.entry (fun e he => ?_) (hvalues v (hmem _ hy).2) (by omega) (by omega)
    cases he
    exact hkeys e (hmem _ hy).1

/-- An expression that binds as tightly as an atom. -/
theorem TakesBelow.trailing_atom (h : TakesBelow n) (he : e.isReadable mode false = true)
    (hstrength : e.strength = .atom) (hn : (marks e.inks).length ≤ n)
    (hdepth : (marks e.inks).length ≤ depth) {after : List Mark} (hafter : Apart after) :
    Trailing (deepReaders depth) (marks e.inks ++ after) e after := by
  cases e with
  | name id => exact .atom atom_name
  | string value =>
    obtain ⟨body, hbody, -, hread⟩ := escaped_text value
    rw [Expr.inks, hbody, filterMap_char_ofChars]
    exact .atom (atom_string hread hafter)
  | number value => exact .atom atom_number
  | truth value => exact .atom (atom_truth value)
  | noneLiteral => exact .atom atom_none
  | call func args keywords => exact h.trailing_call he hn hdepth after
  | «attribute» value attr =>
    rw [Expr.isReadable, Bool.and_eq_true] at he
    exact h.trailing_attribute he.2 hn hdepth after
  | subscript value index =>
    rw [Expr.isReadable, Bool.and_eq_true] at he
    exact h.trailing_subscript he.1 he.2 hn hdepth after
  | tuple elements =>
    rw [Expr.isReadable, Expr.areReadable_iff] at he
    exact .atom (h.atom_tuple he hn hdepth after)
  | list elements =>
    rw [Expr.isReadable, Expr.areReadable_iff] at he
    exact .atom (h.atom_list he hn hdepth after)
  | dict keys values =>
    simp only [Expr.isReadable, Bool.and_eq_true, Expr.areReadable_iff, Expr.areReadableKeys_iff,
      beq_iff_eq] at he
    exact .atom (h.atom_dict he.1.1 he.1.2 he.2 hn hdepth after)
  | binary left op right => cases op <;> cases hstrength
  | unary op operand => cases op <;> cases hstrength
  | logical op values => cases op <;> cases hstrength
  | compare left ops comparators => cases hstrength
  | starred value => cases hstrength
  | captured kind source =>
    obtain ⟨-, word, rfl, hword⟩ := Expr.captured_cases he
    rw [Expr.inks, filterMap_char_ofChars]
    exact hword.trailing hstrength (Nat.le_add_right _ _) hafter
  | formatted _ | foreign _ => cases he

end Refactory
