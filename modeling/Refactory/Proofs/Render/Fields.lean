import Refactory.Proofs.Render.Modes

/-! # What can stand in a field

A formatted string is delimited by double quotes, so the text of a field must hold neither such a
quote nor a backslash (`Text.Bare`). The text of a supported expression is bare exactly if no
formatted string stands in it, no string needs an escape or holds a quote of either kind, and all
names are bare (`Expr.render_tells`). -/

namespace Refactory

/-! ## Bare texts -/

/-- A text holds neither a double quote nor a backslash. -/
def Text.Bare (t : Text) : Prop := ∀ c ∈ t, c ≠ CodePoint.scalar '"' ∧ c ≠ CodePoint.scalar '\\'

instance : DecidablePred Text.Bare := fun t =>
  inferInstanceAs (Decidable (∀ c ∈ t, c ≠ CodePoint.scalar '"' ∧ c ≠ CodePoint.scalar '\\'))

namespace Text

variable {s t : Text}

@[simp] theorem bare_append : Bare (s ++ t) ↔ Bare s ∧ Bare t := List.forall_mem_append

theorem bare_flatMap {α : Type} {xs : List α} {f : α → Text} :
    Bare (xs.flatMap f) ↔ ∀ x ∈ xs, Bare (f x) := List.forall_mem_flatMap

theorem bare_join {sep : Text} (hsep : sep.Bare) (ts : List Text) :
    Bare (Text.join sep ts) ↔ ∀ t ∈ ts, t.Bare := by
  cases ts with
  | nil => simp [Text.join, Bare]
  | cons t ts =>
    rw [Inks.join_text_cons, bare_append, bare_flatMap, List.forall_mem_cons]
    simp only [bare_append, hsep, true_and]

theorem bare_wrap (least : Precedence) (rendered : Text × Precedence) :
    Bare (least.wrap rendered) ↔ Bare rendered.1 := by
  unfold Precedence.wrap
  split_ifs
  · simp +decide only [bare_append, true_and, and_true]
  · rfl

theorem Numeral.bare (h : t.Numeral) : t.Bare := by
  obtain ⟨cs, -, hcs, rfl⟩ := h
  refine List.forall_mem_map.2 fun c hc => ⟨?_, ?_⟩ <;> rintro ⟨⟩
  · exact absurd (hcs _ hc) (by decide)
  · exact absurd (hcs _ hc) (by decide)

end Text

/-! ## Literals -/

/-- Whether a point stands for itself between single quotes and also between double ones. -/
def CodePoint.isBare (c : CodePoint) : Bool :=
  c != '"' && c != '\'' && c != '\\' && !c.isControl && !c.isSurrogate

theorem CodePoint.escaped_bare (c : CodePoint) : (c.escaped .single).Bare ↔ c.isBare = true := by
  have hescape : ∀ t : Text, ¬ (Text.ofString "\\x" ++ t).Bare ∧ ¬ (Text.ofString "\\u" ++ t).Bare :=
    fun t => ⟨fun h => absurd (Text.bare_append.1 h).1 (by decide),
      fun h => absurd (Text.bare_append.1 h).1 (by decide)⟩
  unfold CodePoint.escaped
  split_ifs with hslash hdouble hsingle hfeed hreturn htab hcontrol
  · subst hslash
    decide
  · cases hdouble.2
  · obtain ⟨rfl, -⟩ := hsingle
    decide
  · subst hfeed
    decide
  · subst hreturn
    decide
  · subst htab
    decide
  · exact iff_of_false (hescape _).1 (by simp [CodePoint.isBare, hcontrol])
  · cases c with
    | surrogate offset => exact iff_of_false (hescape _).2 (by simp [CodePoint.isBare, isSurrogate])
    | scalar c =>
      have hquote : CodePoint.scalar c ≠ CodePoint.scalar '\'' := fun h => hsingle ⟨h, rfl⟩
      rw [Bool.not_eq_true] at hcontrol
      simp only [Text.Bare, List.forall_mem_singleton, CodePoint.isBare, isSurrogate, hcontrol,
        Bool.not_false, Bool.and_true, Bool.and_eq_true, bne_iff_ne]
      exact ⟨fun h => ⟨⟨h.1, hquote⟩, h.2⟩, fun h => ⟨h.1.1, h.2⟩⟩

theorem Text.escaped_bare (t : Text) : (t.escaped .single).Bare ↔ t.all CodePoint.isBare = true := by
  rw [Text.escaped, Text.bare_flatMap, List.all_eq_true]
  exact forall₂_congr fun c _ => c.escaped_bare

theorem bare_double (x : Double) : x.literal.Bare := by
  cases x with
  | finite negative m e =>
    have hsize : Text.Bare (if m = 0 then "0.0" else floatFormat.render (Double.shortest m e)) := by
      split_ifs
      · decide
      · exact (FloatFormat.numeral_render _ _).bare
    cases negative with
    | false => exact hsize
    | true => exact Text.bare_append.2 ⟨by decide, hsize⟩
  | infinite negative => cases negative <;> decide
  | nan => decide

theorem Number.render_bare {value : Number} {t : Text} (h : value.render = .ok t) : t.Bare := by
  cases value with
  | int n =>
    rw [Number.render] at h
    split_ifs at h
    cases h
    cases n with
    | ofNat n => exact (numeral_ofNat n).bare
    | negSucc n => exact Text.bare_append.2 ⟨by decide, (numeral_ofNat _).bare⟩
  | float x =>
    cases h
    exact bare_double x
  | complex re im =>
    cases h
    unfold Number.complexLiteral
    split_ifs
    · exact Text.bare_append.2 ⟨bare_double im, by decide⟩
    · simp +decide only [Text.bare_append, bare_double, and_true]
    · simp +decide only [Text.bare_append, bare_double, and_true]
  | bool b =>
    cases h
    cases b <;> decide

/-! ## Outcomes -/

/-- What is given, if anything is, is bare exactly if `Q` holds. -/
def Tells {α : Type} (bare : α → Prop) (Q : Prop) (r : Except Fault α) : Prop :=
  ∀ a, r = .ok a → (bare a ↔ Q)

namespace Tells

variable {α β : Type} {bare : α → Prop} {bare' : β → Prop} {Q Q' : Prop} {r : Except Fault α}

theorem ok {a : α} (h : bare a ↔ Q) : Tells bare Q (.ok a) := by
  rintro _ ⟨⟩
  exact h

theorem congr (h : Tells bare Q r) (hQ : Q ↔ Q') : Tells bare Q' r := fun a ha => (h a ha).trans hQ

theorem bind {next : α → Except Fault β} (h : Tells bare Q r)
    (hnext : ∀ a, (bare a ↔ Q) → Tells bare' Q' (next a)) : Tells bare' Q' (r >>= next) := by
  intro b hb
  obtain ⟨a, ha, hb⟩ := bind_ok.1 hb
  exact hnext a (h a ha) b hb

theorem map {g : α → β} (h : Tells bare Q r) (hg : ∀ a, (bare a ↔ Q) → (bare' (g a) ↔ Q')) :
    Tells bare' Q' (r.map g) := by
  cases r with
  | error f => exact nofun
  | ok a => exact ok (hg a (h a rfl))

theorem inOrder_cons {part : Except Fault Text} {parts : List (Except Fault Text)}
    (h : Tells Text.Bare Q part) (hrest : Tells (∀ t ∈ ·, t.Bare) Q' (inOrder parts)) :
    Tells (∀ t ∈ ·, t.Bare) (Q ∧ Q') (inOrder (part :: parts)) := by
  rw [inOrder, List.mapM_cons]
  refine h.bind fun t ht => hrest.bind fun ts hts => ok ?_
  rw [List.forall_mem_cons, ht, hts]

theorem inOrder_map {items : List β} {g : β → Except Fault Text} {F : β → Prop}
    (h : ∀ item ∈ items, Tells Text.Bare (F item) (g item)) :
    Tells (∀ t ∈ ·, t.Bare) (∀ item ∈ items, F item) (inOrder (items.map g)) := by
  induction items with
  | nil => exact ok (iff_of_true (List.forall_mem_nil _) (List.forall_mem_nil _))
  | cons item items ih =>
    rw [List.forall_mem_cons] at h
    exact (inOrder_cons h.1 (ih h.2)).congr List.forall_mem_cons.symm

theorem place {r : Rendered} (h : Tells (·.1.Bare) Q r) (least : Precedence) :
    Tells Text.Bare Q (Refactory.place least r) := h.map fun _ => (Text.bare_wrap _ _).trans

end Tells

/-! ## Expressions -/

/-- Whether an expression can stand in a field, whatever stands inside it: it is no formatted
string, all points of a string stand for themselves, and the names that it gives are bare. -/
def Expr.fitsField : Expr → Bool
  | .name id => decide id.Bare
  | .string value => value.all CodePoint.isBare
  | .call _ _ keywords => keywords.all (·.arg.all fun name => decide name.Bare)
  | .attribute _ attr => decide attr.Bare
  | .formatted _ => false
  | _ => true

/-- Every part of an expression can stand in a field. -/
def Expr.FitsField (e : Expr) : Prop := e.All (·.fitsField = true)

theorem Expr.fitsField_iff {e : Expr} :
    e.FitsField ↔ e.fitsField = true ∧ ∀ c ∈ e.children, c.FitsField := Expr.all_iff

section

variable {mode : RenderMode}

/-- The text that an expression is rendered to tells whether it fits. -/
def Expr.TellsFit (mode : RenderMode) (e : Expr) : Prop :=
  Tells (·.1.Bare) e.FitsField (e.render mode .single)

theorem Expr.renderEach_tells {es : List Expr} (h : ∀ e ∈ es, e.TellsFit mode)
    (least : Precedence) :
    Tells (∀ t ∈ ·, t.Bare) (∀ e ∈ es, e.FitsField)
      (inOrder ((Expr.renderEach mode .single es).map (place least))) := by
  rw [Expr.renderEach_map, List.map_map]
  exact Tells.inOrder_map fun e he => (h e he).place least

theorem Expr.renderKeywords_tells {ks : List Keyword} (h : ∀ k ∈ ks, k.value.TellsFit mode) :
    Tells (∀ t ∈ ·, t.Bare)
      (∀ k ∈ ks, (k.arg.all fun name => decide name.Bare) = true ∧ k.value.FitsField)
      (inOrder (Expr.renderKeywords mode .single ks)) := by
  rw [Expr.renderKeywords_map]
  refine Tells.inOrder_map fun k hk => ?_
  have hvalue := h k hk
  obtain ⟨_ | arg, value⟩ := k
  · refine (Tells.place hvalue .bitOr).map fun t ht => ?_
    simp +decide only [Text.bare_append, ht, Keyword.arg, Option.all_none, true_and]
  · refine (Tells.place hvalue .test).map fun t ht => ?_
    simp +decide only [Text.bare_append, ht, Keyword.arg, Option.all_some, decide_eq_true_iff,
      and_true]

theorem Expr.comparisonParts_tells {ops : List CompareOp} {es : List Expr}
    (h : ∀ e ∈ es, e.TellsFit mode) :
    Tells (∀ t ∈ ·, t.Bare) (∀ e ∈ es, e.FitsField)
      (inOrder (comparisonParts ops (Expr.renderEach mode .single es))) := by
  induction ops generalizing es with
  | nil =>
    cases es with
    | nil => exact Tells.ok (iff_of_true (List.forall_mem_nil _) (List.forall_mem_nil _))
    | cons e es => exact nofun
  | cons op ops ih =>
    cases es with
    | nil => exact nofun
    | cons e es =>
      rw [List.forall_mem_cons] at h
      have hop : Text.Bare op.token := by cases op <;> decide
      refine ((Tells.ok (iff_true_intro hop)).inOrder_cons ((Tells.place h.1 .bitOr).inOrder_cons
        (ih h.2))).congr ?_
      rw [true_and, List.forall_mem_cons]

theorem Expr.dictItems_tells {ks : List (Option Expr)} {vs : List Expr}
    (hks : ∀ e ∈ ks.filterMap id, e.TellsFit mode) (hvs : ∀ e ∈ vs, e.TellsFit mode) :
    Tells (∀ t ∈ ·, t.Bare) (∀ e ∈ ks.filterMap id ++ vs, e.FitsField)
      (inOrder (dictItems (Expr.renderKeys mode .single ks) (Expr.renderEach mode .single vs))) := by
  induction ks generalizing vs with
  | nil =>
    cases vs with
    | nil => exact Tells.ok (iff_of_true (List.forall_mem_nil _) (List.forall_mem_nil _))
    | cons v vs => exact nofun
  | cons k ks ih =>
    cases vs with
    | nil => cases k <;> exact nofun
    | cons v vs =>
      rw [List.forall_mem_cons] at hvs
      cases k with
      | none =>
        have hitem : Tells Text.Bare v.FitsField (dictItem none (v.render mode .single)) :=
          (Tells.place hvs.1 .bitOr).bind fun t ht => Tells.ok (by
            simp +decide only [Text.bare_append, true_and, ht])
        refine (hitem.inOrder_cons (ih hks hvs.2)).congr ?_
        simp only [List.filterMap_cons, id_eq, List.forall_mem_append, List.forall_mem_cons]
        tauto
      | some k =>
        obtain ⟨hk, hks⟩ : k.TellsFit mode ∧ ∀ e ∈ ks.filterMap id, e.TellsFit mode :=
          List.forall_mem_cons.1 hks
        have hitem : Tells Text.Bare (k.FitsField ∧ v.FitsField)
            (dictItem (some (k.render mode .single)) (v.render mode .single)) :=
          (Tells.place hk .test).bind fun key hkey => (Tells.place hvs.1 .test).bind fun t ht =>
            Tells.ok (by simp +decide only [Text.bare_append, and_true, hkey, ht])
        refine (hitem.inOrder_cons (ih hks hvs.2)).congr ?_
        simp only [List.filterMap_cons, id_eq, List.forall_mem_append, List.forall_mem_cons]
        tauto

theorem dotted_bare (isNumber : Bool) (t : Text) : (dotted isNumber t).Bare ↔ t.Bare := by
  unfold dotted
  split_ifs
  · simp +decide only [Text.bare_append, true_and, and_true]
  · rfl

theorem tupleText_bare (ts : List Text) : (tupleText ts).Bare ↔ ∀ t ∈ ts, t.Bare := by
  unfold tupleText
  split
  · simp +decide only [Text.bare_append, true_and, and_true, List.forall_mem_singleton]
  · simp +decide only [Text.bare_append, Text.bare_join, true_and, and_true]

/-- The text of a supported expression, its strings between single quotes as in a field, is bare
exactly if every part of the expression can stand in a field. -/
theorem Expr.render_tells (mode : RenderMode) :
    ∀ e : Expr, e.All (·.unsupported? = none) → e.TellsFit mode := by
  refine Expr.induct_children fun e ih hall => ?_
  obtain ⟨hself, hchildren⟩ := Expr.all_iff.1 hall
  have ih : ∀ c ∈ e.children, c.TellsFit mode := fun c hc => ih c hc (hchildren c hc)
  refine Tells.congr (Q := e.fitsField = true ∧ ∀ c ∈ e.children, c.FitsField) ?_
    Expr.fitsField_iff.symm
  cases e with
  | captured kind source | foreign kind => cases hself
  | name id => exact Tells.ok (by simp [Expr.fitsField, Expr.children])
  | string value =>
    refine Tells.ok ?_
    simp +decide only [Text.bare_append, Text.escaped_bare, Expr.fitsField, Expr.children, true_and,
      and_true, List.not_mem_nil, false_imp_iff, implies_true]
  | truth value =>
    exact Tells.ok (iff_of_true (by cases value <;> decide) ⟨rfl, List.forall_mem_nil _⟩)
  | noneLiteral => exact Tells.ok (iff_of_true (by decide) ⟨rfl, List.forall_mem_nil _⟩)
  | number value =>
    have hvalue : Tells Text.Bare True value.render := fun t ht =>
      iff_true_intro (Number.render_bare ht)
    refine hvalue.bind fun t ht => Tells.ok ?_
    exact ht.trans (iff_of_true trivial ⟨rfl, List.forall_mem_nil _⟩)
  | call func args keywords =>
    obtain ⟨hfirst, hkeywords⟩ := List.forall_mem_append.1 ih
    obtain ⟨hfunc, hargs⟩ := List.forall_mem_cons.1 hfirst
    rw [List.forall_mem_map] at hkeywords
    refine (Expr.renderEach_tells hargs .test).bind fun args' hargs' =>
      (Expr.renderKeywords_tells hkeywords).bind fun keywords' hkeywords' =>
        (Tells.place hfunc .atom).bind fun func' hfunc' => Tells.ok ?_
    simp +decide only [Text.bare_append, Text.bare_join, List.forall_mem_append, hargs', hkeywords',
      hfunc', and_true, Expr.fitsField, Expr.children, List.forall_mem_cons, List.forall_mem_map,
      List.all_eq_true, forall_and]
    tauto
  | binary left op right =>
    obtain ⟨hleft, hright⟩ := List.forall_mem_cons.1 ih
    have hop : Text.Bare op.token := by cases op <;> decide
    refine (Tells.place hleft _).bind fun left' hleft' =>
      (Tells.place (hright right List.mem_cons_self) _).bind fun right' hright' => Tells.ok ?_
    simp +decide only [Text.bare_append, hop, hleft', hright', and_true, Expr.fitsField,
      Expr.children, List.forall_mem_cons, List.not_mem_nil, false_imp_iff, implies_true, true_and]
  | unary op operand =>
    have hoperand := ih operand List.mem_cons_self
    cases op with
    | negation =>
      refine (Tells.place hoperand _).bind fun t ht => Tells.ok ?_
      simp +decide only [Text.bare_append, ht, Expr.fitsField, Expr.children,
        List.forall_mem_singleton, true_and]
    | invert | plus | minus =>
      refine (Tells.place hoperand _).bind fun t ht => Tells.ok ?_
      simp +decide only [Text.bare_append, ht, Expr.fitsField, Expr.children,
        List.forall_mem_singleton, true_and]
  | logical op values =>
    have hop : Text.Bare (" " ++ Text.ofString op.token ++ " ") := by cases op <;> decide
    refine (Expr.renderEach_tells ih _).bind fun ts hts => Tells.ok ?_
    rw [Text.bare_join hop, hts]
    exact (and_iff_right rfl).symm
  | compare left ops comparators =>
    obtain ⟨hleft, hcomparators⟩ := List.forall_mem_cons.1 ih
    refine (Tells.place hleft _).bind fun left' hleft' =>
      (Expr.comparisonParts_tells hcomparators).bind fun ts hts => Tells.ok ?_
    rw [Text.bare_join (by decide), List.forall_mem_cons, hleft', hts, ← List.forall_mem_cons]
    exact (and_iff_right rfl).symm
  | «attribute» value attr =>
    refine (Tells.place (ih value List.mem_cons_self) .atom).bind fun t ht => Tells.ok ?_
    simp +decide only [Text.bare_append, dotted_bare, ht, and_true, Expr.fitsField, Expr.children,
      List.forall_mem_singleton, decide_eq_true_iff]
    exact and_comm
  | subscript value index =>
    obtain ⟨hvalue, hindex⟩ := List.forall_mem_cons.1 ih
    refine (Tells.place hvalue .atom).bind fun v hv =>
      (Tells.place (hindex index List.mem_cons_self) .test).bind fun i hi => Tells.ok ?_
    simp +decide only [Text.bare_append, hv, hi, and_true, Expr.fitsField, Expr.children,
      List.forall_mem_cons, List.not_mem_nil, false_imp_iff, implies_true, true_and]
  | starred value =>
    refine (Tells.place (ih value List.mem_cons_self) .bitOr).bind fun t ht => Tells.ok ?_
    simp +decide only [Text.bare_append, ht, Expr.fitsField, Expr.children,
      List.forall_mem_singleton, true_and]
  | tuple elements =>
    refine (Expr.renderEach_tells ih .test).bind fun ts hts => Tells.ok ?_
    rw [tupleText_bare, hts]
    exact (and_iff_right rfl).symm
  | list elements =>
    refine (Expr.renderEach_tells ih .test).bind fun ts hts => Tells.ok ?_
    simp +decide only [Text.bare_append, Text.bare_join, hts, true_and, and_true]
    exact (and_iff_right rfl).symm
  | dict keys values =>
    obtain ⟨hkeys, hvalues⟩ := List.forall_mem_append.1 ih
    refine (Expr.dictItems_tells hkeys hvalues).bind fun ts hts => Tells.ok ?_
    simp +decide only [Text.bare_append, Text.bare_join, hts, true_and, and_true]
    exact (and_iff_right rfl).symm
  | formatted parts =>
    intro rendered h
    obtain ⟨ts, -, h⟩ := bind_ok.1 h
    cases h
    refine iff_of_false (fun hbare => ?_) fun h => by cases h.1
    exact absurd (Text.bare_append.1 (Text.bare_append.1 hbare).1).1 (by decide)

end

end Refactory
