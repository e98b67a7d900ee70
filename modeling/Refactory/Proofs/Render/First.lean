import Refactory.Proofs.Render.Modes

/-! # The fault that rendering meets first

Rendering goes through an expression in an order of its own: the arguments of a call come before its
function, and keys and values of a dictionary in turn (`Expr.visited`). Where all lists pair up, a
rendering fails with the first fault in that order (`Expr.render_raises`), and so do the lines of a
statement with the first fault of its own (`Stmt.ownLines_raises`). -/

namespace Refactory

/-! ## Outcomes -/

/-- A result fails with the first of the faults, or succeeds if there are none. -/
def Raises {α : Type} (faults : List Fault) : Except Fault α → Prop
  | .ok _ => faults = []
  | .error f => faults.head? = some f

namespace Raises

variable {α β : Type} {A B : List Fault} {r : Except Fault α}

theorem ok (a : α) : Raises [] (.ok a) := rfl

theorem of_eq (h : Raises A r) (hAB : A = B) : Raises B r := hAB ▸ h

theorem bind {next : α → Except Fault β} (h : Raises A r) (hnext : ∀ a, Raises B (next a)) :
    Raises (A ++ B) (r >>= next) := by
  cases r with
  | error f =>
    obtain ⟨rest, rfl⟩ := List.head?_eq_some_iff.1 h
    rfl
  | ok a =>
    cases (h : A = [])
    exact hnext a

theorem map (h : Raises A r) (g : α → β) : Raises A (r.map g) := by
  cases r <;> exact h

/-- What is done with the result of a part that can fail cannot fail itself. -/
theorem last {next : α → Except Fault β} (h : Raises A r) (hnext : ∀ a, ∃ b, next a = .ok b) :
    Raises A (r >>= next) := by
  have hbind : Raises (A ++ []) (r >>= next) := h.bind fun a => by
    obtain ⟨b, hb⟩ := hnext a
    rw [hb]
    exact ok b
  rwa [List.append_nil] at hbind

theorem place {r : Rendered} (h : Raises A r) (least : Precedence) :
    Raises A (Refactory.place least r) := h.map _

theorem inOrder_cons {part : Except Fault Text} {parts : List (Except Fault Text)}
    (h : Raises A part) (hrest : Raises B (inOrder parts)) :
    Raises (A ++ B) (inOrder (part :: parts)) := by
  rw [inOrder, List.mapM_cons]
  exact h.bind fun t => hrest.last fun ts => ⟨t :: ts, rfl⟩

theorem inOrder_map {items : List β} {g : β → Except Fault Text} {F : β → List Fault}
    (h : ∀ item ∈ items, Raises (F item) (g item)) :
    Raises (items.flatMap F) (inOrder (items.map g)) := by
  induction items with
  | nil => exact ok []
  | cons item items ih =>
    rw [List.forall_mem_cons] at h
    exact inOrder_cons h.1 (ih h.2)

theorem error {f : Fault} {rest : List Fault} (h : Raises (f :: rest) r) : r = .error f := by
  cases r with
  | ok a => cases (h : f :: rest = [])
  | error f' => cases h; rfl

end Raises

/-! ## The order of rendering -/

/-- The keys and values of a dictionary in turn, then what is left over of either. -/
def entryParts {α : Type} : List (Option α) → List α → List α
  | k :: ks, v :: vs => k.toList ++ v :: entryParts ks vs
  | [], vs => vs
  | k :: ks, [] => (k :: ks).filterMap id

theorem entryParts_map {α β : Type} (f : α → β) (ks : List (Option α)) (vs : List α) :
    entryParts (ks.map (Option.map f)) (vs.map f) = (entryParts ks vs).map f := by
  induction ks generalizing vs with
  | nil => simp [entryParts]
  | cons k ks ih =>
    cases vs with
    | nil =>
      rw [List.map_nil, List.map_cons, entryParts, entryParts, ← List.map_cons, List.filterMap_map,
        List.map_filterMap]
      rfl
    | cons v vs =>
      rw [List.map_cons, List.map_cons, entryParts, entryParts, ih]
      cases k <;> simp

theorem mem_entryParts {α : Type} {a : α} (ks : List (Option α)) (vs : List α) :
    a ∈ entryParts ks vs ↔ a ∈ ks.filterMap id ++ vs := by
  induction ks generalizing vs with
  | nil => simp [entryParts]
  | cons k ks ih =>
    cases vs with
    | nil => simp [entryParts]
    | cons v vs =>
      rw [entryParts, List.mem_append, List.mem_cons, ih]
      cases k <;> simp [or_left_comm]

mutual

/-- An expression and its sub-expressions in the order in which rendering goes through them. -/
def Expr.visited : Expr → List Expr
  | .call func args keywords =>
    .call func args keywords ::
      ((Expr.visitedEach args).flatten ++ (Keyword.visitedEach keywords).flatten ++ func.visited)
  | .binary left op right => .binary left op right :: (left.visited ++ right.visited)
  | .unary op operand => .unary op operand :: operand.visited
  | .logical op values => .logical op values :: (Expr.visitedEach values).flatten
  | .compare left ops comparators =>
    .compare left ops comparators :: (left.visited ++ (Expr.visitedEach comparators).flatten)
  | .attribute value attr => .attribute value attr :: value.visited
  | .subscript value index => .subscript value index :: (value.visited ++ index.visited)
  | .starred value => .starred value :: value.visited
  | .tuple elements => .tuple elements :: (Expr.visitedEach elements).flatten
  | .list elements => .list elements :: (Expr.visitedEach elements).flatten
  | .dict keys values =>
    .dict keys values :: (entryParts (Expr.visitedKeys keys) (Expr.visitedEach values)).flatten
  | .formatted parts => .formatted parts :: (Piece.visitedEach parts).flatten
  | .name id => [.name id]
  | .string value => [.string value]
  | .number value => [.number value]
  | .truth value => [.truth value]
  | .noneLiteral => [.noneLiteral]
  | .captured kind source => [.captured kind source]
  | .foreign kind => [.foreign kind]

/-- What is visited of each of several expressions. -/
def Expr.visitedEach : List Expr → List (List Expr)
  | [] => []
  | e :: rest => e.visited :: Expr.visitedEach rest

/-- What is visited of expressions that can be absent. -/
def Expr.visitedKeys : List (Option Expr) → List (Option (List Expr))
  | [] => []
  | none :: rest => none :: Expr.visitedKeys rest
  | some e :: rest => some e.visited :: Expr.visitedKeys rest

/-- What is visited of the values of keyword arguments. -/
def Keyword.visitedEach : List Keyword → List (List Expr)
  | [] => []
  | .mk _ value :: rest => value.visited :: Keyword.visitedEach rest

/-- What is visited of the fields of a formatted string. -/
def Piece.visitedEach : List Piece → List (List Expr)
  | [] => []
  | .text _ :: rest => Piece.visitedEach rest
  | .field value _ _ :: rest => value.visited :: Piece.visitedEach rest

end

/-- The expressions directly inside an expression in the order of rendering. -/
def Expr.parts : Expr → List Expr
  | .call func args keywords => args ++ keywords.map Keyword.value ++ [func]
  | .dict keys values => entryParts keys values
  | e => e.children

theorem Expr.visitedEach_eq (es : List Expr) : Expr.visitedEach es = es.map Expr.visited := by
  induction es with
  | nil => rfl
  | cons e es ih => rw [Expr.visitedEach, ih, List.map_cons]

theorem Expr.visitedKeys_eq (ks : List (Option Expr)) :
    Expr.visitedKeys ks = ks.map (Option.map Expr.visited) := by
  induction ks with
  | nil => rfl
  | cons k ks ih => cases k <;> rw [Expr.visitedKeys, ih] <;> rfl

theorem Keyword.visitedEach_eq (ks : List Keyword) :
    Keyword.visitedEach ks = (ks.map Keyword.value).map Expr.visited := by
  induction ks with
  | nil => rfl
  | cons k ks ih =>
    obtain ⟨arg, value⟩ := k
    rw [Keyword.visitedEach, ih]
    rfl

theorem Piece.visitedEach_eq (ps : List Piece) :
    Piece.visitedEach ps = (ps.filterMap Piece.value?).map Expr.visited := by
  induction ps with
  | nil => rfl
  | cons p ps ih => cases p <;> rw [Piece.visitedEach, ih] <;> rfl

theorem Expr.visited_eq (e : Expr) : e.visited = e :: e.parts.flatMap Expr.visited := by
  cases e <;> simp [Expr.visited, Expr.parts, Expr.children, Expr.visitedEach_eq,
    Expr.visitedKeys_eq, Keyword.visitedEach_eq, Piece.visitedEach_eq, entryParts_map,
    List.flatMap_def]

theorem Expr.mem_parts {c e : Expr} : c ∈ e.parts ↔ c ∈ e.children := by
  cases e with
  | call func args keywords =>
    simp only [Expr.parts, Expr.children, List.mem_append, List.mem_cons, List.not_mem_nil,
      or_false]
    grind
  | dict keys values => exact mem_entryParts keys values
  | _ => rfl

/-- Rendering goes through all sub-expressions. -/
theorem Expr.mem_visited {n : Expr} : ∀ e : Expr, n ∈ e.visited ↔ n.Within e := by
  refine Expr.induct_children fun e ih => ?_
  rw [Expr.visited_eq, Expr.within_iff, List.mem_cons, List.mem_flatMap]
  refine or_congr_right ⟨?_, ?_⟩
  · rintro ⟨c, hc, hn⟩
    have hc := Expr.mem_parts.1 hc
    exact ⟨c, hc, (ih c hc).1 hn⟩
  · rintro ⟨c, hc, hn⟩
    exact ⟨c, Expr.mem_parts.2 hc, (ih c hc).2 hn⟩

/-! ## Expressions -/

/-- The faults of an expression in the order of rendering. -/
def Expr.faults (mode : RenderMode) (e : Expr) : List Fault :=
  e.visited.filterMap (Expr.ownFault? mode)

theorem Expr.faults_eq (mode : RenderMode) (e : Expr) :
    e.faults mode = (e.ownFault? mode).toList ++ e.parts.flatMap (Expr.faults mode) := by
  rw [Expr.faults, Expr.visited_eq, List.filterMap_cons, List.filterMap_flatMap]
  cases e.ownFault? mode <;> rfl

/-- Rendering an expression fails with the first of its faults. -/
def Expr.Raised (mode : RenderMode) (e : Expr) : Prop :=
  ∀ quote, Raises (e.faults mode) (e.render mode quote)

section

variable {mode : RenderMode} {quote : Quote}

theorem Expr.renderEach_raises {es : List Expr} (h : ∀ e ∈ es, e.Raised mode)
    (least : Precedence) :
    Raises (es.flatMap (Expr.faults mode))
      (inOrder ((Expr.renderEach mode quote es).map (place least))) := by
  rw [Expr.renderEach_map, List.map_map]
  exact Raises.inOrder_map fun e he => (h e he quote).place least

theorem Expr.renderKeywords_raises {ks : List Keyword} (h : ∀ k ∈ ks, k.value.Raised mode) :
    Raises ((ks.map Keyword.value).flatMap (Expr.faults mode))
      (inOrder (Expr.renderKeywords mode quote ks)) := by
  rw [Expr.renderKeywords_map, List.flatMap_map]
  refine Raises.inOrder_map fun k hk => ?_
  have hvalue := h k hk quote
  obtain ⟨_ | arg, value⟩ := k
  · exact (hvalue.place .bitOr).map _
  · exact (hvalue.place .test).map _

theorem Expr.renderPieces_raises {ps : List Piece}
    (h : ∀ e ∈ ps.filterMap Piece.value?, e.Raised mode) :
    Raises ((ps.filterMap Piece.value?).flatMap (Expr.faults mode))
      (inOrder (Expr.renderPieces mode ps)) := by
  rw [Expr.renderPieces_map]
  induction ps with
  | nil => exact .ok []
  | cons p ps ih =>
    cases p with
    | text t => exact (Raises.ok _).inOrder_cons (ih h)
    | field value conversion spec =>
      obtain ⟨hvalue, h⟩ : value.Raised mode ∧ ∀ e ∈ ps.filterMap Piece.value?, e.Raised mode :=
        List.forall_mem_cons.1 h
      exact (((hvalue .single).place .disj).map _).inOrder_cons (ih h)

theorem Expr.comparisonParts_raises {ops : List CompareOp} {es : List Expr}
    (hlength : ops.length = es.length) (h : ∀ e ∈ es, e.Raised mode) :
    Raises (es.flatMap (Expr.faults mode))
      (inOrder (comparisonParts ops (Expr.renderEach mode quote es))) := by
  induction ops generalizing es with
  | nil =>
    cases es with
    | nil => exact .ok []
    | cons e es => cases hlength
  | cons op ops ih =>
    cases es with
    | nil => cases hlength
    | cons e es =>
      rw [List.forall_mem_cons] at h
      have hrest := ((h.1 quote).place .bitOr).inOrder_cons (ih (Nat.succ.inj hlength) h.2)
      exact ((Raises.ok _).inOrder_cons hrest).of_eq rfl

theorem Expr.dictItems_raises {ks : List (Option Expr)} {vs : List Expr}
    (hlength : ks.length = vs.length) (h : ∀ e ∈ ks.filterMap id ++ vs, e.Raised mode) :
    Raises ((entryParts ks vs).flatMap (Expr.faults mode))
      (inOrder (dictItems (Expr.renderKeys mode quote ks) (Expr.renderEach mode quote vs))) := by
  induction ks generalizing vs with
  | nil =>
    cases vs with
    | nil => exact .ok []
    | cons v vs => cases hlength
  | cons k ks ih =>
    cases vs with
    | nil => cases hlength
    | cons v vs =>
      obtain ⟨hks, hvs⟩ := List.forall_mem_append.1 h
      rw [List.forall_mem_cons] at hvs
      have hvalue := hvs.1 quote
      cases k with
      | none =>
        exact ((hvalue.place .bitOr).last fun t => ⟨_, rfl⟩).inOrder_cons
          (ih (Nat.succ.inj hlength) (List.forall_mem_append.2 ⟨hks, hvs.2⟩))
      | some k =>
        obtain ⟨hk, hks⟩ : k.Raised mode ∧ ∀ e ∈ ks.filterMap id, e.Raised mode :=
          List.forall_mem_cons.1 hks
        have hentry := ((hk quote).place .test).bind fun key =>
          (hvalue.place .test).last fun t => ⟨key ++ ": " ++ t, rfl⟩
        have hall := hentry.inOrder_cons
          (ih (Nat.succ.inj hlength) (List.forall_mem_append.2 ⟨hks, hvs.2⟩))
        rwa [List.append_assoc] at hall

theorem Number.render_raises (mode : RenderMode) (value : Number) :
    Raises ((Expr.number value).ownFault? mode).toList value.render := by
  cases value with
  | int n =>
    rw [Number.render, Expr.ownFault?]
    by_cases hdigits : (Nat.toDigits 10 n.natAbs).length ≤ digitLimit
    · rw [if_pos hdigits, if_neg (Nat.not_lt.2 hdigits)]
      exact .ok _
    · rw [if_neg hdigits, if_pos (Nat.not_le.1 hdigits)]
      rfl
  | float x => exact .ok _
  | complex re im => exact .ok _
  | bool b => exact .ok _

/-- An expression whose lists pair up fails with the first of its faults. -/
theorem Expr.render_raises (mode : RenderMode) :
    ∀ e : Expr, e.All (·.isPaired = true) → e.Raised mode := by
  refine Expr.induct_children fun e ih hpaired quote => ?_
  obtain ⟨hself, hchildren⟩ := Expr.all_iff.1 hpaired
  have ih : ∀ c ∈ e.children, c.Raised mode := fun c hc => ih c hc (hchildren c hc)
  rw [Expr.faults_eq]
  cases e with
  | name id => exact .ok _
  | string value => exact .ok _
  | truth value => exact .ok _
  | noneLiteral => exact .ok _
  | number value =>
    exact ((Number.render_raises mode value).last fun t => ⟨_, rfl⟩).of_eq
      (List.append_nil _).symm
  | call func args keywords =>
    obtain ⟨hfirst, hkeywords⟩ := List.forall_mem_append.1 ih
    obtain ⟨hfunc, hargs⟩ := List.forall_mem_cons.1 hfirst
    rw [List.forall_mem_map] at hkeywords
    exact ((Expr.renderEach_raises hargs .test).bind fun args =>
      (Expr.renderKeywords_raises hkeywords).bind fun keywords =>
        ((hfunc quote).place .atom).last fun func => ⟨_, rfl⟩).of_eq
          (by simp [Expr.ownFault?, Expr.parts])
  | binary left op right =>
    obtain ⟨hleft, hright⟩ := List.forall_mem_cons.1 ih
    exact (((hleft quote).place _).bind fun left =>
      ((hright right List.mem_cons_self quote).place _).last fun right => ⟨_, rfl⟩).of_eq
        (by simp [Expr.ownFault?, Expr.parts, Expr.children])
  | unary op operand =>
    have hoperand := ih operand List.mem_cons_self quote
    cases op with
    | negation | invert | plus | minus =>
      exact ((hoperand.place _).last fun t => ⟨_, rfl⟩).of_eq
        (by simp [Expr.ownFault?, Expr.parts, Expr.children])
  | logical op values =>
    exact (Expr.renderEach_raises ih _).last fun ts => ⟨_, rfl⟩
  | compare left ops comparators =>
    obtain ⟨hleft, hcomparators⟩ := List.forall_mem_cons.1 ih
    have hlength : ops.length = comparators.length := by simpa [Expr.isPaired] using hself
    exact (((hleft quote).place .bitOr).bind fun left =>
      (Expr.comparisonParts_raises hlength hcomparators).last fun parts => ⟨_, rfl⟩).of_eq
        (by simp [Expr.ownFault?, Expr.parts, Expr.children, hlength])
  | «attribute» value attr =>
    exact (((ih value List.mem_cons_self quote).place .atom).last fun t => ⟨_, rfl⟩).of_eq
      (by simp [Expr.ownFault?, Expr.parts, Expr.children])
  | subscript value index =>
    obtain ⟨hvalue, hindex⟩ := List.forall_mem_cons.1 ih
    exact (((hvalue quote).place .atom).bind fun v =>
      ((hindex index List.mem_cons_self quote).place .test).last fun i => ⟨_, rfl⟩).of_eq
        (by simp [Expr.ownFault?, Expr.parts, Expr.children])
  | starred value =>
    exact (((ih value List.mem_cons_self quote).place .bitOr).last fun t => ⟨_, rfl⟩).of_eq
      (by simp [Expr.ownFault?, Expr.parts, Expr.children])
  | tuple elements => exact (Expr.renderEach_raises ih .test).last fun ts => ⟨_, rfl⟩
  | list elements => exact (Expr.renderEach_raises ih .test).last fun ts => ⟨_, rfl⟩
  | dict keys values =>
    have hlength : keys.length = values.length := by simpa [Expr.isPaired] using hself
    exact ((Expr.dictItems_raises hlength ih).last fun ts => ⟨_, rfl⟩).of_eq
      (by simp [Expr.ownFault?, Expr.parts, hlength])
  | formatted parts => exact (Expr.renderPieces_raises ih).last fun ts => ⟨_, rfl⟩
  | captured kind source =>
    cases mode with
    | lenient | strict => rfl
    | passthrough =>
      rcases source with _ | _ | ⟨c, rest⟩
      · rfl
      · rfl
      · exact .ok _
  | foreign kind => rfl

/-! ## Statements -/

/-- The faults of a statement and the expressions that it holds, in the order of rendering. -/
def Stmt.faults (mode : RenderMode) (s : Stmt) : List Fault :=
  (s.ownFault? mode).toList ++ s.exprs.flatMap (Expr.faults mode)

theorem Expr.place_raises {e : Expr} (h : e.Raised mode) (least : Precedence) :
    Raises (e.faults mode) (place least (e.render mode .double)) := (h .double).place least

theorem decoratorLines_raises {ds : List Expr} (h : ∀ d ∈ ds, d.Raised mode) (pad : Text) :
    Raises (ds.flatMap (Expr.faults mode)) (decoratorLines mode pad ds) :=
  Raises.inOrder_map fun d hd => (Expr.place_raises (h d hd) .named).map _

theorem Param.render_raises {p : Param} (h : ∀ e ∈ p.exprs, e.Raised mode) :
    Raises (p.exprs.flatMap (Expr.faults mode)) (p.render mode) := by
  obtain ⟨name, kind, hint, default⟩ := p
  obtain ⟨hhint, hdefault⟩ := List.forall_mem_append.1 h
  cases hint with
  | none =>
    cases default with
    | none => exact .ok _
    | some d =>
      have hd := Expr.place_raises (hdefault d List.mem_cons_self) .test
      exact (hd.last fun t => ⟨_, rfl⟩).of_eq (by simp [Param.exprs])
  | some a =>
    have ha := Expr.place_raises (hhint a List.mem_cons_self) .test
    cases default with
    | none => exact (ha.last fun t => ⟨_, rfl⟩).of_eq (by simp [Param.exprs])
    | some d =>
      have hd := Expr.place_raises (hdefault d List.mem_cons_self) .test
      exact (ha.bind fun hint => hd.last fun t => ⟨_, rfl⟩).of_eq (by simp [Param.exprs])

theorem paramItems_raises {ps : List Param} (h : ∀ e ∈ ps.flatMap Param.exprs, e.Raised mode)
    (sawStar : Bool) :
    Raises ((ps.flatMap Param.exprs).flatMap (Expr.faults mode))
      (inOrder (paramItems mode sawStar ps)) := by
  induction ps generalizing sawStar with
  | nil => exact .ok []
  | cons p ps ih =>
    rw [List.flatMap_cons, List.forall_mem_append] at h
    rw [List.flatMap_cons, List.flatMap_append]
    have hp := Param.render_raises h.1
    have hrest := ih h.2
    rw [paramItems]
    split
    · exact (hp.map _).inOrder_cons (hrest true)
    · exact (hp.map _).inOrder_cons (hrest sawStar)
    · split_ifs
      · exact hp.inOrder_cons (hrest true)
      · exact (Raises.ok _).inOrder_cons (hp.inOrder_cons (hrest true))
    · split_ifs
      · exact hp.inOrder_cons ((Raises.ok _).inOrder_cons (hrest sawStar))
      · exact hp.inOrder_cons (hrest sawStar)

theorem FunctionHead.render_raises {head : FunctionHead}
    (h : ∀ e ∈ head.decorators ++ head.params.flatMap Param.exprs ++ head.returns.toList,
      e.Raised mode) (pad : Text) :
    Raises ((head.decorators ++ head.params.flatMap Param.exprs ++ head.returns.toList).flatMap
      (Expr.faults mode)) (head.render mode pad) := by
  obtain ⟨h, hreturns⟩ := List.forall_mem_append.1 h
  obtain ⟨hdecorators, hparams⟩ := List.forall_mem_append.1 h
  rw [List.flatMap_append, List.flatMap_append, List.append_assoc]
  refine (decoratorLines_raises hdecorators pad).bind fun decorators =>
    (paramItems_raises hparams false).bind fun params => ?_
  cases hr : head.returns with
  | none => exact .ok _
  | some r =>
    rw [hr] at hreturns
    have hplace := Expr.place_raises (hreturns r List.mem_cons_self) .test
    exact (hplace.last fun t => ⟨_, rfl⟩).of_eq (by simp)

theorem ClassHead.render_raises {head : ClassHead}
    (h : ∀ e ∈ head.decorators ++ head.bases ++ head.keywords.map Keyword.value, e.Raised mode)
    (pad : Text) :
    Raises ((head.decorators ++ head.bases ++ head.keywords.map Keyword.value).flatMap
      (Expr.faults mode)) (head.render mode pad) := by
  obtain ⟨h, hkeywords⟩ := List.forall_mem_append.1 h
  obtain ⟨hdecorators, hbases⟩ := List.forall_mem_append.1 h
  rw [List.forall_mem_map] at hkeywords
  rw [List.flatMap_append, List.flatMap_append, List.append_assoc]
  exact (decoratorLines_raises hdecorators pad).bind fun decorators =>
    (Raises.inOrder_map fun b hb => Expr.place_raises (hbases b hb) .test).bind fun bases =>
      (Expr.renderKeywords_raises hkeywords).last fun keywords => ⟨_, rfl⟩

theorem handlerHeads_raises {hs : List Handler}
    (h : ∀ e ∈ hs.filterMap Handler.type, e.Raised mode) (pad : Text) :
    Raises ((hs.filterMap Handler.type).flatMap (Expr.faults mode))
      (inOrder (hs.map (handlerHead mode pad))) := by
  induction hs with
  | nil => exact .ok []
  | cons handler hs ih =>
    obtain ⟨_ | type, name, body⟩ := handler
    · exact (Raises.ok _).inOrder_cons (ih h)
    · obtain ⟨htype, h⟩ : type.Raised mode ∧ ∀ e ∈ hs.filterMap Handler.type, e.Raised mode :=
        List.forall_mem_cons.1 h
      exact ((Expr.place_raises htype .test).last fun t => ⟨_, rfl⟩).inOrder_cons (ih h)

/-- A statement without blocks fails with the first of its faults. -/
theorem Stmt.plain_raises {s : Stmt} (hblocks : s.blocks = []) (h : ∀ e ∈ s.exprs, e.Raised mode)
    (level : Int) : Raises (s.faults mode) (s.ownLines mode level) := by
  cases s with
  | function | classDef | tryExcept => cases hblocks
  | importNames | importFrom | pass => exact .ok _
  | assign targets value location =>
    obtain ⟨htargets, hvalue⟩ := List.forall_mem_append.1 h
    exact ((Raises.inOrder_map fun t ht => Expr.place_raises (htargets t ht) .test).bind
      fun targets => (Expr.place_raises (hvalue value List.mem_cons_self) .yielding).last
        fun t => ⟨_, rfl⟩).of_eq (by simp [Stmt.faults, Stmt.ownFault?, Stmt.exprs])
  | ret value location =>
    cases value with
    | none => exact .ok _
    | some value =>
      exact ((Expr.place_raises (h value List.mem_cons_self) .test).last fun t => ⟨_, rfl⟩).of_eq
        (by simp [Stmt.faults, Stmt.ownFault?, Stmt.exprs])
  | expr value location =>
    exact ((Expr.place_raises (h value List.mem_cons_self) .yielding).last fun t => ⟨_, rfl⟩).of_eq
      (by simp [Stmt.faults, Stmt.ownFault?, Stmt.exprs])
  | captured kind source location =>
    cases mode with
    | lenient | strict => rfl
    | passthrough =>
      rcases source with _ | _ | ⟨c, rest⟩
      · rfl
      · rfl
      · exact .ok _
  | foreign kind => rfl

/-- The first fault that a statement has of its own is met before its blocks are rendered. -/
theorem Stmt.ownLines_raises {s : Stmt} (h : ∀ e ∈ s.exprs, e.Raised mode) {f : Fault}
    {rest : List Fault} (hfaults : s.faults mode = f :: rest) (level : Int) :
    s.ownLines mode level = .error f := by
  cases s with
  | function head body location =>
    have hhead := (FunctionHead.render_raises h (levelPad level)).of_eq hfaults
    rw [Stmt.ownLines, hhead.error]
    rfl
  | classDef head body location =>
    have hhead := (ClassHead.render_raises h (levelPad level)).of_eq hfaults
    rw [Stmt.ownLines, hhead.error]
    rfl
  | tryExcept body handlers orelse finalbody location =>
    have hheads := (handlerHeads_raises h (levelPad level)).of_eq hfaults
    rw [Stmt.ownLines, hheads.error]
    rfl
  | _ => exact ((Stmt.plain_raises rfl h level).of_eq hfaults).error

end

end Refactory
