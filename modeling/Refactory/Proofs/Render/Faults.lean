import Refactory.Proofs.Render.Layout

/-! # The faults that rendering meets

Rendering an expression fails exactly if one of its sub-expressions is at fault by itself, and then
with the fault of one of them (`Expr.render_blames`). In strict mode the same holds of statements
and the expressions that they hold (`Stmt.eachLines_blames`). -/

namespace Refactory

/-- A result fails exactly if there are faults, and then with one of them. -/
def Blames {α : Type} (faults : Fault → Prop) : Except Fault α → Prop
  | .ok _ => ∀ f, ¬ faults f
  | .error f => faults f

namespace Blames

variable {α β : Type} {A B : Fault → Prop} {r : Except Fault α}

theorem congr (h : Blames A r) (hAB : ∀ f, A f ↔ B f) : Blames B r := by
  obtain rfl : A = B := funext fun f => propext (hAB f)
  exact h

theorem ok (a : α) : Blames (fun _ => False) (.ok a) := fun _ => not_false

theorem bind {next : α → Except Fault β} (h : Blames A r) (hnext : ∀ a, Blames B (next a)) :
    Blames (fun f => A f ∨ B f) (r >>= next) := by
  cases r with
  | error f => exact .inl h
  | ok a =>
    show Blames _ (next a)
    have hb := hnext a
    cases hresult : next a with
    | error f =>
      rw [hresult] at hb
      exact .inr hb
    | ok b =>
      rw [hresult] at hb
      exact fun f => not_or.2 ⟨h f, hb f⟩

theorem map (h : Blames A r) (g : α → β) : Blames A (r.map g) := by
  cases r <;> exact h

/-- What is done with the result of a part that can fail cannot fail itself. -/
theorem last {next : α → Except Fault β} (h : Blames A r) (hnext : ∀ a, ∃ b, next a = .ok b) :
    Blames A (r >>= next) := by
  refine (h.bind (B := fun _ => False) fun a => ?_).congr fun f => iff_of_eq (or_false _)
  obtain ⟨b, hb⟩ := hnext a
  rw [hb]
  exact ok b

theorem inOrder_cons {part : Except Fault Text} {parts : List (Except Fault Text)}
    (h : Blames A part) (hrest : Blames B (inOrder parts)) :
    Blames (fun f => A f ∨ B f) (inOrder (part :: parts)) := by
  rw [inOrder, List.mapM_cons]
  exact h.bind fun t => hrest.last fun ts => ⟨t :: ts, rfl⟩

theorem inOrder_map {items : List β} {g : β → Except Fault Text} {F : β → Fault → Prop}
    (h : ∀ item ∈ items, Blames (F item) (g item)) :
    Blames (fun f => ∃ item ∈ items, F item f) (inOrder (items.map g)) := by
  induction items with
  | nil => exact (ok []).congr (by simp)
  | cons item items ih =>
    rw [List.forall_mem_cons] at h
    exact (inOrder_cons h.1 (ih h.2)).congr (by simp)

theorem place {r : Rendered} (h : Blames A r) (least : Precedence) :
    Blames A (Refactory.place least r) := h.map _

end Blames

/-! ## Expressions -/

/-- The fault of an expression by itself, whatever stands inside it. -/
def Expr.ownFault? (mode : RenderMode) : Expr → Option Fault
  | .number (.int n) =>
    if digitLimit < (Nat.toDigits 10 n.natAbs).length then some .tooManyDigits else none
  | .compare _ ops comparators =>
    if ops.length = comparators.length then none
    else some (.unequalLengths (ops.length < comparators.length))
  | .dict keys values =>
    if keys.length = values.length then none
    else some (.unequalLengths (keys.length < values.length))
  | .captured kind source =>
    match mode, source with
    | .passthrough, some (_ :: _) => none
    | _, _ => some (.unsupported kind)
  | .foreign kind => some (.unsupported kind)
  | _ => none

/-- A sub-expression has a fault. -/
def Expr.Faulty (mode : RenderMode) (e : Expr) (f : Fault) : Prop :=
  ∃ n : Expr, n.Within e ∧ n.ownFault? mode = some f

section

variable {mode : RenderMode} {quote : Quote}

theorem Expr.faulty_iff {e : Expr} {f : Fault} :
    e.Faulty mode f ↔ e.ownFault? mode = some f ∨ ∃ c ∈ e.children, c.Faulty mode f := by
  simp only [Expr.Faulty, Expr.within_iff (e := e), or_and_right, exists_or, exists_eq_left]
  refine or_congr_right ⟨?_, ?_⟩
  · rintro ⟨n, ⟨c, hc, hn⟩, hf⟩
    exact ⟨c, hc, n, hn, hf⟩
  · rintro ⟨c, hc, n, hn, hf⟩
    exact ⟨n, ⟨c, hc, hn⟩, hf⟩

theorem Expr.renderEach_map (es : List Expr) :
    Expr.renderEach mode quote es = es.map (·.render mode quote) := by
  induction es with
  | nil => rfl
  | cons e es ih => rw [Expr.renderEach, ih, List.map_cons]

/-- The text of a keyword argument. -/
def Keyword.render (mode : RenderMode) (quote : Quote) : Keyword → Except Fault Text
  | .mk none value => (place .bitOr (value.render mode quote)).map (fun v => "**" ++ v)
  | .mk (some arg) value => (place .test (value.render mode quote)).map (fun v => arg ++ "=" ++ v)

theorem Expr.renderKeywords_map (ks : List Keyword) :
    Expr.renderKeywords mode quote ks = ks.map (Keyword.render mode quote) := by
  induction ks with
  | nil => rfl
  | cons k ks ih =>
    obtain ⟨_ | arg, value⟩ := k <;> rw [Expr.renderKeywords, ih] <;> rfl

/-- The text of a part of a formatted string. -/
def Piece.render (mode : RenderMode) : Piece → Except Fault Text
  | .text t => .ok t.formattedLiteral
  | .field value conversion spec =>
    (place .disj (value.render mode .single)).map (fieldText · conversion spec)

theorem Expr.renderPieces_map (ps : List Piece) :
    Expr.renderPieces mode ps = ps.map (Piece.render mode) := by
  induction ps with
  | nil => rfl
  | cons p ps ih => cases p <;> rw [Expr.renderPieces, ih] <;> rfl

/-- Rendering an expression fails exactly if a sub-expression is at fault. -/
def Expr.Blamed (mode : RenderMode) (e : Expr) : Prop :=
  ∀ quote, Blames (e.Faulty mode) (e.render mode quote)

theorem Expr.renderEach_blames {es : List Expr} (h : ∀ e ∈ es, e.Blamed mode) (least : Precedence) :
    Blames (fun f => ∃ e ∈ es, e.Faulty mode f)
      (inOrder ((Expr.renderEach mode quote es).map (place least))) := by
  rw [Expr.renderEach_map, List.map_map]
  exact Blames.inOrder_map fun e he => (h e he quote).place least

theorem Expr.renderKeywords_blames {ks : List Keyword} (h : ∀ k ∈ ks, k.value.Blamed mode) :
    Blames (fun f => ∃ k ∈ ks, k.value.Faulty mode f)
      (inOrder (Expr.renderKeywords mode quote ks)) := by
  rw [Expr.renderKeywords_map]
  refine Blames.inOrder_map fun k hk => ?_
  have hvalue := h k hk quote
  obtain ⟨_ | arg, value⟩ := k
  · exact (hvalue.place .bitOr).map _
  · exact (hvalue.place .test).map _

theorem Expr.renderPieces_blames {ps : List Piece}
    (h : ∀ e ∈ ps.filterMap Piece.value?, e.Blamed mode) :
    Blames (fun f => ∃ e ∈ ps.filterMap Piece.value?, e.Faulty mode f)
      (inOrder (Expr.renderPieces mode ps)) := by
  rw [Expr.renderPieces_map]
  refine (Blames.inOrder_map (F := fun p f => ∃ e, p.value? = some e ∧ e.Faulty mode f)
    fun p hp => ?_).congr fun f => ?_
  · cases p with
    | text t => exact (Blames.ok _).congr (by simp [Piece.value?])
    | field value conversion spec =>
      have hvalue := h value (List.mem_filterMap.2 ⟨_, hp, rfl⟩) .single
      exact ((hvalue.place .disj).map _).congr (by simp [Piece.value?])
  · simp only [List.mem_filterMap]
    grind

theorem Expr.comparisonParts_blames {ops : List CompareOp} {es : List Expr}
    (h : ∀ e ∈ es, e.Blamed mode) :
    Blames (fun f => (∃ e ∈ es, e.Faulty mode f) ∨
        ops.length ≠ es.length ∧ f = .unequalLengths (ops.length < es.length))
      (inOrder (comparisonParts ops (Expr.renderEach mode quote es))) := by
  induction ops generalizing es with
  | nil =>
    cases es with
    | nil => exact (Blames.ok _).congr (by simp)
    | cons e es => exact .inr ⟨nofun, by simp⟩
  | cons op ops ih =>
    cases es with
    | nil => exact .inr ⟨nofun, by simp⟩
    | cons e es =>
      rw [List.forall_mem_cons] at h
      refine ((Blames.ok _).inOrder_cons (((h.1 quote).place .bitOr).inOrder_cons
        (ih h.2))).congr fun f => ?_
      simp [or_assoc]

theorem Expr.dictItems_blames {ks : List (Option Expr)} {vs : List Expr}
    (hks : ∀ e ∈ ks.filterMap id, e.Blamed mode) (hvs : ∀ e ∈ vs, e.Blamed mode) :
    Blames (fun f => (∃ e ∈ ks.filterMap id ++ vs, e.Faulty mode f) ∨
        ks.length ≠ vs.length ∧ f = .unequalLengths (ks.length < vs.length))
      (inOrder (dictItems (Expr.renderKeys mode quote ks) (Expr.renderEach mode quote vs))) := by
  induction ks generalizing vs with
  | nil =>
    cases vs with
    | nil => exact (Blames.ok _).congr (by simp)
    | cons v vs => exact .inr ⟨nofun, by simp⟩
  | cons k ks ih =>
    cases vs with
    | nil => cases k <;> exact .inr ⟨nofun, by simp⟩
    | cons v vs =>
      rw [List.forall_mem_cons] at hvs
      have hvalue := hvs.1 quote
      cases k with
      | none =>
        refine (((hvalue.place .bitOr).last fun t => ⟨_, rfl⟩).inOrder_cons
          (ih hks hvs.2)).congr fun f => ?_
        simp only [List.filterMap_cons, id_eq, List.mem_append, List.mem_cons, List.length_cons]
        grind
      | some k =>
        obtain ⟨hk, hks⟩ : k.Blamed mode ∧ ∀ e ∈ ks.filterMap id, e.Blamed mode :=
          List.forall_mem_cons.1 hks
        refine ((((hk quote).place .test).bind fun key => (hvalue.place .test).last
          fun t => ⟨_, rfl⟩).inOrder_cons (ih hks hvs.2)).congr fun f => ?_
        simp only [List.filterMap_cons, id_eq, List.mem_append, List.mem_cons, List.length_cons]
        grind

theorem Number.render_blames (mode : RenderMode) (value : Number) :
    Blames ((Expr.number value).ownFault? mode = some ·) value.render := by
  cases value with
  | int n =>
    rw [Number.render]
    split_ifs with hdigits
    · exact (Blames.ok _).congr fun f => by simp [Expr.ownFault?, Nat.not_lt.2 hdigits]
    · simpa [Blames, Expr.ownFault?] using hdigits
  | float x => exact (Blames.ok _).congr fun f => by simp [Expr.ownFault?]
  | complex re im => exact (Blames.ok _).congr fun f => by simp [Expr.ownFault?]
  | bool b => exact (Blames.ok _).congr fun f => by simp [Expr.ownFault?]

/-- Rendering an expression fails exactly if a sub-expression is at fault, and then with such a
fault. -/
theorem Expr.render_blames (mode : RenderMode) : ∀ e : Expr, e.Blamed mode := by
  refine Expr.induct_children fun e ih quote => ?_
  refine Blames.congr (A := fun f => e.ownFault? mode = some f ∨
    ∃ c ∈ e.children, c.Faulty mode f) ?_ fun f => Expr.faulty_iff.symm
  cases e with
  | name id => exact (Blames.ok _).congr (by simp [Expr.ownFault?, Expr.children])
  | string value => exact (Blames.ok _).congr (by simp [Expr.ownFault?, Expr.children])
  | truth value => exact (Blames.ok _).congr (by simp [Expr.ownFault?, Expr.children])
  | noneLiteral => exact (Blames.ok _).congr (by simp [Expr.ownFault?, Expr.children])
  | number value =>
    exact ((Number.render_blames mode value).last fun t => ⟨_, rfl⟩).congr (by simp [Expr.children])
  | call func args keywords =>
    obtain ⟨hfirst, hkeywords⟩ := List.forall_mem_append.1 ih
    obtain ⟨hfunc, hargs⟩ := List.forall_mem_cons.1 hfirst
    rw [List.forall_mem_map] at hkeywords
    refine ((Expr.renderEach_blames hargs .test).bind fun args =>
      (Expr.renderKeywords_blames hkeywords).bind fun keywords =>
        ((hfunc quote).place .atom).last fun func => ⟨_, rfl⟩).congr fun f => ?_
    simp only [Expr.ownFault?, Expr.children, List.mem_append, List.mem_cons, List.mem_map]
    grind
  | binary left op right =>
    obtain ⟨hleft, hright⟩ := List.forall_mem_cons.1 ih
    refine (((hleft quote).place _).bind fun left =>
      ((hright right List.mem_cons_self quote).place _).last fun right => ⟨_, rfl⟩).congr
        (by simp [Expr.ownFault?, Expr.children])
  | unary op operand =>
    have hoperand := ih operand List.mem_cons_self quote
    cases op with
    | negation | invert | plus | minus =>
      exact ((hoperand.place _).last fun t => ⟨_, rfl⟩).congr
        (by simp [Expr.ownFault?, Expr.children])
  | logical op values =>
    exact ((Expr.renderEach_blames ih _).last fun ts => ⟨_, rfl⟩).congr
      (by simp [Expr.ownFault?, Expr.children])
  | compare left ops comparators =>
    obtain ⟨hleft, hcomparators⟩ := List.forall_mem_cons.1 ih
    refine (((hleft quote).place .bitOr).bind fun left =>
      (Expr.comparisonParts_blames hcomparators).last fun parts => ⟨_, rfl⟩).congr fun f => ?_
    simp only [Expr.ownFault?, Expr.children, List.mem_cons]
    grind
  | «attribute» value attr =>
    exact (((ih value List.mem_cons_self quote).place .atom).last fun t => ⟨_, rfl⟩).congr
      (by simp [Expr.ownFault?, Expr.children])
  | subscript value index =>
    obtain ⟨hvalue, hindex⟩ := List.forall_mem_cons.1 ih
    exact (((hvalue quote).place .atom).bind fun v =>
      ((hindex index List.mem_cons_self quote).place .test).last fun i => ⟨_, rfl⟩).congr
        (by simp [Expr.ownFault?, Expr.children])
  | starred value =>
    exact (((ih value List.mem_cons_self quote).place .bitOr).last fun t => ⟨_, rfl⟩).congr
      (by simp [Expr.ownFault?, Expr.children])
  | tuple elements =>
    exact ((Expr.renderEach_blames ih .test).last fun ts => ⟨_, rfl⟩).congr
      (by simp [Expr.ownFault?, Expr.children])
  | list elements =>
    exact ((Expr.renderEach_blames ih .test).last fun ts => ⟨_, rfl⟩).congr
      (by simp [Expr.ownFault?, Expr.children])
  | dict keys values =>
    obtain ⟨hkeys, hvalues⟩ := List.forall_mem_append.1 ih
    refine ((Expr.dictItems_blames hkeys hvalues).last fun ts => ⟨_, rfl⟩).congr fun f => ?_
    simp only [Expr.ownFault?, Expr.children]
    grind
  | formatted parts =>
    exact ((Expr.renderPieces_blames ih).last fun ts => ⟨_, rfl⟩).congr
      (by simp [Expr.ownFault?, Expr.children])
  | captured kind source =>
    cases mode with
    | lenient | strict => exact .inl rfl
    | passthrough =>
      rcases source with _ | _ | ⟨c, rest⟩
      · exact .inl rfl
      · exact .inl rfl
      · exact (Blames.ok _).congr (by simp [Expr.ownFault?, Expr.children])
  | foreign kind => exact .inl rfl

/-! ## Headers -/

theorem Expr.place_blames (mode : RenderMode) (e : Expr) (least : Precedence) :
    Blames (e.Faulty mode) (place least (e.render mode .double)) :=
  (Expr.render_blames mode e .double).place least

theorem decoratorLines_blames (pad : Text) (ds : List Expr) :
    Blames (fun f => ∃ e ∈ ds, e.Faulty mode f) (decoratorLines mode pad ds) :=
  Blames.inOrder_map fun d _ => (d.place_blames mode .named).map _

theorem Param.render_blames (mode : RenderMode) (p : Param) :
    Blames (fun f => ∃ e ∈ p.exprs, e.Faulty mode f) (p.render mode) := by
  obtain ⟨name, kind, hint, default⟩ := p
  cases hint with
  | none =>
    cases default with
    | none => exact (Blames.ok _).congr (by simp [Param.exprs])
    | some d =>
      exact ((d.place_blames mode .test).last fun t => ⟨_, rfl⟩).congr (by simp [Param.exprs])
  | some a =>
    cases default with
    | none =>
      exact ((a.place_blames mode .test).last fun t => ⟨_, rfl⟩).congr (by simp [Param.exprs])
    | some d =>
      exact ((a.place_blames mode .test).bind fun hint =>
        (d.place_blames mode .test).last fun t => ⟨_, rfl⟩).congr (by simp [Param.exprs])

theorem paramItems_blames (mode : RenderMode) (sawStar : Bool) (ps : List Param) :
    Blames (fun f => ∃ e ∈ ps.flatMap Param.exprs, e.Faulty mode f)
      (inOrder (paramItems mode sawStar ps)) := by
  induction ps generalizing sawStar with
  | nil => exact (Blames.ok []).congr (by simp)
  | cons p ps ih =>
    have hp := p.render_blames mode
    have hmark : ∀ {A : Fault → Prop} {parts : List (Except Fault Text)} (mark : Text),
        Blames A (inOrder parts) → Blames A (inOrder (.ok mark :: parts)) := fun mark h =>
      ((Blames.ok mark).inOrder_cons h).congr fun f => iff_of_eq (false_or _)
    have hcons : ∀ (g : Text → Text) (sawStar : Bool),
        Blames (fun f => ∃ e ∈ (p :: ps).flatMap Param.exprs, e.Faulty mode f)
          (inOrder ((p.render mode).map g :: paramItems mode sawStar ps)) := fun g sawStar =>
      ((hp.map g).inOrder_cons (ih sawStar)).congr
        (by simp [-List.mem_flatMap, or_and_right, exists_or])
    have hself : (p.render mode).map id = p.render mode := by cases p.render mode <;> rfl
    rw [paramItems]
    split
    · exact hcons _ _
    · exact hcons _ _
    · split_ifs
      · exact hself ▸ hcons id _
      · exact hmark _ (hself ▸ hcons id _)
    · split_ifs
      · refine (hp.inOrder_cons (hmark _ (ih sawStar))).congr ?_
        simp [-List.mem_flatMap, or_and_right, exists_or]
      · exact hself ▸ hcons id _

theorem FunctionHead.render_blames (mode : RenderMode) (pad : Text) (h : FunctionHead) :
    Blames (fun f => ∃ e ∈ h.decorators ++ h.params.flatMap Param.exprs ++ h.returns.toList,
      e.Faulty mode f) (h.render mode pad) := by
  simp only [List.mem_append, or_and_right, exists_or, or_assoc]
  refine (decoratorLines_blames pad h.decorators).bind fun decorators =>
    (paramItems_blames mode false h.params).bind fun params => ?_
  cases hr : h.returns with
  | none => exact (Blames.ok _).congr (by simp)
  | some r => exact ((r.place_blames mode .test).last fun t => ⟨_, rfl⟩).congr (by simp)

theorem ClassHead.render_blames (mode : RenderMode) (pad : Text) (c : ClassHead) :
    Blames (fun f => ∃ e ∈ c.decorators ++ c.bases ++ c.keywords.map Keyword.value,
      e.Faulty mode f) (c.render mode pad) := by
  simp only [List.mem_append, or_and_right, exists_or, or_assoc, List.mem_map,
    exists_exists_and_eq_and]
  refine (decoratorLines_blames pad c.decorators).bind fun decorators =>
    (Blames.inOrder_map fun b _ => b.place_blames mode .test).bind fun bases =>
      (Expr.renderKeywords_blames fun k _ => Expr.render_blames mode k.value).last
        fun keywords => ⟨_, rfl⟩

theorem handlerHeads_blames (mode : RenderMode) (pad : Text) (hs : List Handler) :
    Blames (fun f => ∃ e ∈ hs.filterMap Handler.type, e.Faulty mode f)
      (inOrder (hs.map (handlerHead mode pad))) := by
  refine (Blames.inOrder_map (F := fun h f => ∃ e, h.type = some e ∧ e.Faulty mode f)
    fun h _ => ?_).congr fun f => ?_
  · obtain ⟨_ | type, name, body⟩ := h
    · exact (Blames.ok _).congr (by simp [Handler.type])
    · exact ((type.place_blames mode .test).last fun t => ⟨_, rfl⟩).congr (by simp [Handler.type])
  · simp only [List.mem_filterMap]
    grind

/-! ## Statements -/

/-- The fault of a statement by itself. -/
def Stmt.ownFault? (mode : RenderMode) : Stmt → Option Fault
  | .captured kind source _ =>
    match mode, source with
    | .passthrough, some (_ :: _) => none
    | _, _ => some (.unsupported kind)
  | .foreign kind => some (.unsupported kind)
  | _ => none

/-- A statement or an expression that it holds has a fault, nested statements left out. -/
def Stmt.Faulty (mode : RenderMode) (s : Stmt) (f : Fault) : Prop :=
  s.ownFault? mode = some f ∨ ∃ e ∈ s.exprs, e.Faulty mode f

/-- A statement without blocks. -/
theorem Stmt.plain_blames (mode : RenderMode) (level : Int) {s : Stmt} (h : s.blocks = []) :
    Blames (s.Faulty mode) (s.ownLines mode level) := by
  cases s with
  | function head body location | classDef head body location => cases h
  | tryExcept body handlers orelse finalbody location => cases h
  | importNames names location => exact (Blames.ok _).congr (by simp [Faulty, ownFault?, exprs])
  | importFrom module names level location =>
    exact (Blames.ok _).congr (by simp [Faulty, ownFault?, exprs])
  | pass location => exact (Blames.ok _).congr (by simp [Faulty, ownFault?, exprs])
  | assign targets value location =>
    exact ((Blames.inOrder_map fun t _ => t.place_blames mode .test).bind fun targets =>
      (value.place_blames mode .yielding).last fun t => ⟨_, rfl⟩).congr
        (by simp [Faulty, ownFault?, exprs, or_and_right, exists_or])
  | ret value location =>
    cases value with
    | none => exact (Blames.ok _).congr (by simp [Faulty, ownFault?, exprs])
    | some value =>
      exact ((value.place_blames mode .test).last fun t => ⟨_, rfl⟩).congr
        (by simp [Faulty, ownFault?, exprs])
  | expr value location =>
    exact ((value.place_blames mode .yielding).last fun t => ⟨_, rfl⟩).congr
      (by simp [Faulty, ownFault?, exprs])
  | captured kind source location =>
    cases mode with
    | lenient | strict => exact .inl rfl
    | passthrough =>
      rcases source with _ | _ | ⟨c, rest⟩
      · exact .inl rfl
      · exact .inl rfl
      · exact (Blames.ok _).congr (by simp [Faulty, ownFault?, exprs])
  | foreign kind => exact .inl rfl

theorem RenderMode.recover_strict {α : Type} (g : Text → α) (r : Except Fault α) :
    RenderMode.strict.recover g r = r := by
  unfold RenderMode.recover
  split
  · exact if_pos rfl
  · rfl

end

mutual

theorem Stmt.ownLines_blames (level : Int) : ∀ s : Stmt,
    Blames (fun f => ∃ t ∈ s.nodes, t.Faulty .strict f) (s.ownLines .strict level)
  | .function head body location => by
    refine ((head.render_blames .strict _).bind fun header =>
      (Stmt.eachLines_blames (level + 1) body).last fun lines => ⟨_, rfl⟩).congr fun f => ?_
    simp [Stmt.nodes, Stmt.Faulty, Stmt.ownFault?, Stmt.exprs]
  | .classDef head body location => by
    refine ((head.render_blames .strict _).bind fun header =>
      (Stmt.eachLines_blames (level + 1) body).last fun lines => ⟨_, rfl⟩).congr fun f => ?_
    simp [Stmt.nodes, Stmt.Faulty, Stmt.ownFault?, Stmt.exprs]
  | .tryExcept body handlers orelse finalbody location => by
    refine ((handlerHeads_blames .strict _ handlers).bind fun heads =>
      (Stmt.eachLines_blames (level + 1) body).bind fun body =>
        (Stmt.handlerLines_blames (level + 1) handlers).bind fun bodies =>
          (Stmt.eachLines_blames (level + 1) orelse).bind fun orelse =>
            (Stmt.eachLines_blames (level + 1) finalbody).last fun _ => ⟨_, rfl⟩).congr fun f => ?_
    have hself : (Stmt.tryExcept body handlers orelse finalbody location).Faulty .strict f ↔
        ∃ e ∈ handlers.filterMap Handler.type, e.Faulty .strict f := by
      simp [Stmt.Faulty, Stmt.ownFault?, Stmt.exprs]
    simp only [Stmt.nodes, List.mem_cons, exists_eq_or_imp, hself]
    simp only [List.mem_append, or_and_right, exists_or, or_assoc]
  | .importNames .. | .importFrom .. | .assign .. | .ret .. | .pass _ | .expr .. | .captured ..
  | .foreign _ => (Stmt.plain_blames .strict level rfl).congr (by simp [Stmt.nodes])

/-- In strict mode, rendering a block fails exactly if a statement inside it or an expression that
such a statement holds is at fault, and then with such a fault. -/
theorem Stmt.eachLines_blames (level : Int) : ∀ b : List Stmt,
    Blames (fun f => ∃ t ∈ Stmt.nodesIn b, t.Faulty .strict f) (Stmt.eachLines .strict level b)
  | [] => (Blames.ok _).congr (by simp [Stmt.nodesIn])
  | s :: rest => by
    rw [Stmt.eachLines, RenderMode.recoverLines, RenderMode.recover_strict]
    exact ((Stmt.ownLines_blames level s).bind fun lines =>
      (Stmt.eachLines_blames level rest).last fun _ => ⟨_, rfl⟩).congr
        (by simp [Stmt.nodesIn, or_and_right, exists_or])

theorem Stmt.handlerLines_blames (level : Int) : ∀ hs : List Handler,
    Blames (fun f => ∃ t ∈ Handler.nodesIn hs, t.Faulty .strict f)
      (Stmt.handlerLines .strict level hs)
  | [] => (Blames.ok _).congr (by simp [Handler.nodesIn])
  | .mk _ _ body :: rest =>
    ((Stmt.eachLines_blames level body).bind fun lines =>
      (Stmt.handlerLines_blames level rest).last fun _ => ⟨_, rfl⟩).congr
        (by simp [Handler.nodesIn, or_and_right, exists_or])

end

end Refactory
