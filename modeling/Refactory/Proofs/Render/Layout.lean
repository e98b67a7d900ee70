import Refactory.Proofs.Render.Outline
import Refactory.Render.Stmt

/-! # The layout of rendered modules

`Stmt.outline` says what the lines of a statement are and which of its blocks is nested in which of
them. Rendering writes that outline down (`Stmt.eachLines_eq`), on lines of code only, so that the
indentation of the lines gives it back. Main statement: `Module.toText_layout`. -/

namespace Refactory

/-! ## Shaped modules -/

/-- Whether both names of an alias are names. -/
def Alias.isShaped (a : Alias) : Bool := a.name.isQualified && a.asName.all Text.isQualified

/-- Whether a statement by itself is such as a parser builds: something is assigned to, something is
imported, names are names, and nothing is captured. -/
def Stmt.isShaped : Stmt → Bool
  | .function head _ _ => head.name.isQualified && head.params.all (·.name.isQualified)
  | .classDef head _ _ => head.name.isQualified && head.keywords.all (·.arg.all Text.isQualified)
  | .importNames names _ => !names.isEmpty && names.all Alias.isShaped
  | .importFrom module names _ _ =>
    module.all Text.isQualified && !names.isEmpty && names.all Alias.isShaped
  | .assign targets _ _ => !targets.isEmpty
  | .tryExcept _ handlers _ _ _ => handlers.all (·.name.all Text.isQualified)
  | .ret .. | .pass _ | .expr .. => true
  | .captured .. | .foreign _ => false

/-- Every statement of a module and every expression in it is such as a parser builds. -/
def Module.Shaped (m : Module) : Prop :=
  ∀ s ∈ Stmt.nodesIn m.body, s.isShaped = true ∧ ∀ e ∈ s.exprs, e.All (·.isShaped = true)

/-- Somewhere in a module stands an integer with more digits than are written. -/
def Module.HasLongInteger (m : Module) : Prop :=
  ∃ s ∈ Stmt.nodesIn m.body, ∃ e ∈ s.exprs, ∃ n : Expr, n.Within e ∧ n.isLong = true

/-- A shaped statement without long integers, unless `long`. -/
def Stmt.Fits (long : Prop) (s : Stmt) : Prop :=
  s.isShaped = true ∧ ∀ e ∈ s.exprs, e.All (Expr.Fits long)

/-! ## Outlines of statements -/

/-- Lines of which the last has something nested in it. -/
def headed (inner : List Outline) : List Text → List Outline
  | [] => []
  | [line] => [.mk line inner]
  | line :: rest => .mk line [] :: headed inner rest

/-- What a block that has to be there shows: those of its statements, and a `pass` if there are none. -/
def nested : List (List Outline) → List Outline
  | [] => [.mk "pass" []]
  | statements => statements.flatten

/-- A block that is left out if it is empty. -/
def region (header : Text) : List (List Outline) → List Outline
  | [] => []
  | statements => [.mk header statements.flatten]

mutual

/-- The lines of a statement, with its blocks nested in their headers. -/
def Stmt.outline (mode : RenderMode) : Stmt → Except Fault (List Outline)
  | .function head body _ => do
    let header ← head.render mode []
    return headed (nested (← Stmt.outlineEach mode body)) header
  | .classDef head body _ => do
    let header ← head.render mode []
    return headed (nested (← Stmt.outlineEach mode body)) header
  | .tryExcept body handlers orelse finalbody _ => do
    let heads ← inOrder (handlers.map (handlerHead mode []))
    let body ← Stmt.outlineEach mode body
    let bodies ← Stmt.outlineHandlers mode handlers
    let orelse ← Stmt.outlineEach mode orelse
    let finalbody ← Stmt.outlineEach mode finalbody
    return .mk "try:" (nested body) ::
      heads.zipWith (fun head inner => .mk head (nested inner)) bodies ++
      region "else:" orelse ++ region "finally:" finalbody
  | s => do return (← s.ownLines mode 0).map (.mk · [])

/-- The lines of each statement of a block. -/
def Stmt.outlineEach (mode : RenderMode) : List Stmt → Except Fault (List (List Outline))
  | [] => .ok []
  | s :: ss => do
    let os ← s.outline mode
    return os :: (← Stmt.outlineEach mode ss)

/-- The lines of each statement of each handler. -/
def Stmt.outlineHandlers (mode : RenderMode) :
    List Handler → Except Fault (List (List (List Outline)))
  | [] => .ok []
  | .mk _ _ body :: hs => do
    let oss ← Stmt.outlineEach mode body
    return oss :: (← Stmt.outlineHandlers mode hs)

end

/-! ## Headers -/

theorem levelPad_natCast (depth : Nat) : levelPad depth = Text.times (4 * depth) " " := rfl

theorem inOrder_map (g : Text → Text) (parts : List (Except Fault Text)) :
    inOrder (parts.map (Except.map g)) = (inOrder parts).map (List.map g) := by
  induction parts with
  | nil => rfl
  | cons r rest ih =>
    rw [inOrder, List.map_cons, List.mapM_cons, inOrder, List.mapM_cons]
    rw [inOrder, inOrder] at ih
    rw [ih]
    cases r with
    | error f => rfl
    | ok t => cases rest.mapM id <;> rfl

theorem decoratorLines_pad (mode : RenderMode) (pad : Text) (ds : List Expr) :
    decoratorLines mode pad ds = (decoratorLines mode [] ds).map (List.map (pad ++ ·)) := by
  rw [decoratorLines, decoratorLines, ← inOrder_map, List.map_map]
  congr 1
  refine List.map_congr_left fun d _ => ?_
  simp only [Function.comp_apply]
  cases place .named (d.render mode .double) with
  | error f => rfl
  | ok t => simp [Except.map]

theorem FunctionHead.render_pad (mode : RenderMode) (pad : Text) (f : FunctionHead) :
    f.render mode pad = (f.render mode []).map (List.map (pad ++ ·)) := by
  rw [FunctionHead.render, FunctionHead.render, decoratorLines_pad]
  cases decoratorLines mode [] f.decorators with
  | error f => rfl
  | ok decorators =>
    cases inOrder (paramItems mode false f.params) with
    | error f => rfl
    | ok params =>
      cases f.returns with
      | none => simp [Except.map, bind, Except.bind, pure, Except.pure]
      | some r =>
        simp only [Except.map, bind, Except.bind, pure, Except.pure]
        cases place .test (r.render mode .double) with
        | error f => rfl
        | ok t => simp

theorem ClassHead.render_pad (mode : RenderMode) (pad : Text) (c : ClassHead) :
    c.render mode pad = (c.render mode []).map (List.map (pad ++ ·)) := by
  rw [ClassHead.render, ClassHead.render, decoratorLines_pad]
  cases decoratorLines mode [] c.decorators with
  | error f => rfl
  | ok decorators =>
    cases inOrder (c.bases.map fun b => place .test (b.render mode .double)) with
    | error f => rfl
    | ok bases =>
      cases inOrder (Expr.renderKeywords mode .double c.keywords) with
      | error f => rfl
      | ok keywords => simp [Except.map, bind, Except.bind, pure, Except.pure]

theorem handlerHead_pad (mode : RenderMode) (pad : Text) (h : Handler) :
    handlerHead mode pad h = (handlerHead mode [] h).map (pad ++ ·) := by
  obtain ⟨type, name, body⟩ := h
  rw [handlerHead, handlerHead]
  cases type with
  | none => simp [Except.map, pure, Except.pure, Handler.type]
  | some type =>
    simp only [Handler.type]
    cases place .test (type.render mode .double) with
    | error f => rfl
    | ok t => simp [Except.map, bind, Except.bind, pure, Except.pure]

/-- A statement without blocks is a line that is indented by its level. -/
theorem Stmt.ownLines_pad {s : Stmt} (mode : RenderMode) (depth : Nat) (hshape : s.isShaped = true)
    (h : s.blocks = []) :
    s.ownLines mode depth =
      (s.ownLines mode 0).map (List.map (Text.times (4 * depth) " " ++ ·)) := by
  have hzero : levelPad 0 = [] := rfl
  cases s with
  | function head body location | classDef head body location => cases h
  | tryExcept body handlers orelse finalbody location => cases h
  | captured kind source location | foreign kind => cases hshape
  | importNames names location | pass location =>
    simp [Stmt.ownLines, levelPad_natCast, hzero, Except.map]
  | importFrom module names level location =>
    simp [Stmt.ownLines, levelPad_natCast, hzero, Except.map]
  | assign targets value location =>
    rw [Stmt.ownLines, Stmt.ownLines]
    cases inOrder (targets.map fun t => place .test (t.render mode .double)) with
    | error f => rfl
    | ok ts =>
      cases place .yielding (value.render mode .double) with
      | error f => rfl
      | ok t =>
        simp [levelPad_natCast, hzero, Except.map, bind, Except.bind, pure, Except.pure]
  | ret value location =>
    cases value with
    | none => simp [Stmt.ownLines, levelPad_natCast, hzero, Except.map]
    | some value =>
      rw [Stmt.ownLines, Stmt.ownLines]
      cases place .test (value.render mode .double) with
      | error f => rfl
      | ok t => simp [levelPad_natCast, hzero, Except.map, bind, Except.bind, pure, Except.pure]
  | expr value location =>
    rw [Stmt.ownLines, Stmt.ownLines]
    cases place .yielding (value.render mode .double) with
    | error f => rfl
    | ok t => simp [levelPad_natCast, hzero, Except.map, bind, Except.bind, pure, Except.pure]

section

variable {long : Prop} {mode : RenderMode}

/-- Lines of code, at least one. -/
def Lines (ts : List Text) : Prop := ts ≠ [] ∧ ∀ t ∈ ts, t.Written

theorem Expr.Renders.place {e : Expr} (h : e.Renders long mode) (least : Precedence) :
    Yields long Text.Written (Refactory.place least (e.render mode .double)) :=
  (h .double (by decide)).place least

theorem decoratorLines_yields {ds : List Expr} (h : ∀ d ∈ ds, d.Renders long mode) :
    Yields long (∀ t ∈ ·, t.Written) (decoratorLines mode [] ds) := by
  refine (Yields.inOrder (P := Text.Written) fun r hr => ?_).mono fun ts hts => hts.2
  obtain ⟨d, hd, rfl⟩ := List.mem_map.1 hr
  exact ((h d hd).place .named).map fun t ht => Text.Written.append (by decide) ht.oneLine

theorem Param.render_yields {p : Param} (hname : p.name.isQualified = true)
    (h : ∀ e ∈ p.exprs, e.Renders long mode) : Yields long Text.Written (p.render mode) := by
  obtain ⟨name, kind, hint, default⟩ := p
  obtain ⟨hhint, hdefault⟩ := List.forall_mem_append.1 h
  have hname := Text.written_qualified hname
  cases hint with
  | none =>
    cases default with
    | none => exact (hname.append Text.oneLine_nil).append Text.oneLine_nil
    | some d =>
      refine ((hdefault d List.mem_cons_self).place .test).bind fun t ht => ?_
      exact (hname.append Text.oneLine_nil).append
        (Text.oneLine_append (s := "=").2 ⟨by decide, ht.oneLine⟩)
  | some a =>
    refine ((hhint a List.mem_cons_self).place .test).bind fun hint hhint => ?_
    have hhint := hname.append (Text.oneLine_append (s := ": ").2 ⟨by decide, hhint.oneLine⟩)
    cases default with
    | none => exact hhint.append Text.oneLine_nil
    | some d =>
      refine ((hdefault d List.mem_cons_self).place .test).bind fun t ht => ?_
      exact hhint.append (Text.oneLine_append (s := " = ").2 ⟨by decide, ht.oneLine⟩)

theorem paramItems_yields {ps : List Param} (hnames : ps.all (·.name.isQualified) = true)
    (h : ∀ e ∈ ps.flatMap Param.exprs, e.Renders long mode) (sawStar : Bool) :
    ∀ r ∈ paramItems mode sawStar ps, Yields long Text.Written r := by
  induction ps generalizing sawStar with
  | nil => exact List.forall_mem_nil _
  | cons p ps ih =>
    rw [List.all_cons, Bool.and_eq_true] at hnames
    rw [List.flatMap_cons, List.forall_mem_append] at h
    have hp := Param.render_yields hnames.1 h.1
    have hrest := ih hnames.2 h.2
    have hmark : ∀ mark : Text, mark.Written → Yields long Text.Written (.ok mark) := fun _ h => h
    rw [paramItems]
    split
    · exact List.forall_mem_cons.2
        ⟨hp.map fun t ht => Text.Written.append (by decide) ht.oneLine, hrest _⟩
    · exact List.forall_mem_cons.2
        ⟨hp.map fun t ht => Text.Written.append (by decide) ht.oneLine, hrest _⟩
    · refine List.forall_mem_append.2 ⟨?_, List.forall_mem_cons.2 ⟨hp, hrest _⟩⟩
      split_ifs
      · exact List.forall_mem_nil _
      · exact List.forall_mem_singleton.2 (hmark "*" (by decide))
    · refine List.forall_mem_append.2 ⟨List.forall_mem_cons.2 ⟨hp, ?_⟩, hrest _⟩
      split_ifs
      · exact List.forall_mem_singleton.2 (hmark "/" (by decide))
      · exact List.forall_mem_nil _

theorem FunctionHead.render_yields {f : FunctionHead}
    (hnames : (f.name.isQualified && f.params.all (·.name.isQualified)) = true)
    (h : ∀ e ∈ f.decorators ++ f.params.flatMap Param.exprs ++ f.returns.toList,
      e.Renders long mode) : Yields long Lines (f.render mode []) := by
  rw [Bool.and_eq_true] at hnames
  obtain ⟨h, hreturns⟩ := List.forall_mem_append.1 h
  obtain ⟨hdecorators, hparams⟩ := List.forall_mem_append.1 h
  have hname := (Text.written_qualified hnames.1).oneLine
  refine (decoratorLines_yields hdecorators).bind fun decorators hdecorators =>
    (Yields.inOrder (paramItems_yields hnames.2 hparams false)).bind fun params hparams => ?_
  have hparams : (Text.join ", " params).OneLine :=
    Text.OneLine.join (by decide) fun t ht => (hparams.2 t ht).oneLine
  have hlines : ∀ keyword returns : Text, keyword.Written → returns.OneLine → Lines (decorators ++
      [(([] : Text) ++ keyword ++ f.name ++ "(" ++ Text.join ", " params ++ ")" ++ returns ++ ":" :
        Text)]) := by
    intro keyword returns hkeyword hreturns
    refine ⟨by simp, List.forall_mem_append.2 ⟨hdecorators, List.forall_mem_singleton.2 ?_⟩⟩
    exact (((((hkeyword.append hname).append (by decide)).append hparams).append (by decide)).append
      hreturns).append (by decide)
  have hkeyword : Text.Written (if f.isAsync then "async def " else "def ") := by
    split_ifs <;> decide
  cases hr : f.returns with
  | none => exact hlines _ [] hkeyword Text.oneLine_nil
  | some r =>
    rw [hr] at hreturns
    refine ((hreturns r List.mem_cons_self).place .test).bind fun t ht => ?_
    exact hlines _ (" -> " ++ t) hkeyword (Text.oneLine_append.2 ⟨by decide, ht.oneLine⟩)

theorem ClassHead.render_yields {c : ClassHead}
    (hnames : (c.name.isQualified && c.keywords.all (·.arg.all Text.isQualified)) = true)
    (h : ∀ e ∈ c.decorators ++ c.bases ++ c.keywords.map Keyword.value, e.Renders long mode) :
    Yields long Lines (c.render mode []) := by
  rw [Bool.and_eq_true] at hnames
  obtain ⟨h, hkeywords⟩ := List.forall_mem_append.1 h
  obtain ⟨hdecorators, hbases⟩ := List.forall_mem_append.1 h
  rw [List.forall_mem_map] at hkeywords
  have hname := (Text.written_qualified hnames.1).oneLine
  have hbases : ∀ r ∈ c.bases.map fun b => place .test (b.render mode .double),
      Yields long Text.Written r := fun r hr => by
    obtain ⟨b, hb, rfl⟩ := List.mem_map.1 hr
    exact (hbases b hb).place .test
  refine (decoratorLines_yields hdecorators).bind fun decorators hdecorators =>
    (Yields.inOrder hbases).bind fun bases hbases =>
    (Yields.inOrder (Expr.renderKeywords_yields (by decide) hkeywords hnames.2)).bind
    fun keywords hkeywords => ?_
  have hall : ∀ t ∈ bases ++ keywords, t.OneLine := List.forall_mem_append.2
    ⟨fun t ht => (hbases.2 t ht).oneLine, fun t ht => (hkeywords.2 t ht).oneLine⟩
  refine ⟨by simp, List.forall_mem_append.2 ⟨hdecorators, List.forall_mem_singleton.2 ?_⟩⟩
  refine ((Text.Written.append (by decide) hname).append ?_).append (by decide)
  split
  · exact Text.oneLine_nil
  · exact (Text.Written.paren (Text.OneLine.join (by decide) hall)).oneLine

theorem handlerHead_yields {h : Handler} (hname : h.name.all Text.isQualified = true)
    (htype : ∀ e ∈ h.type, e.Renders long mode) : Yields long Text.Written (handlerHead mode [] h) := by
  obtain ⟨type, name, body⟩ := h
  cases type with
  | none => exact (by decide : Text.Written "except:")
  | some type =>
    refine ((htype type rfl).place .test).bind fun t ht => ?_
    refine ((Text.Written.append (by decide) ht.oneLine).append ?_).append (by decide)
    cases name with
    | none => exact Text.oneLine_nil
    | some name =>
      split
      · exact Text.oneLine_nil
      · exact Text.oneLine_append.2 ⟨by decide, (Text.written_qualified hname).oneLine⟩

theorem Alias.oneLine_render {a : Alias} (h : a.isShaped = true) : a.render.OneLine := by
  obtain ⟨name, asName⟩ := a
  rw [Alias.isShaped, Bool.and_eq_true] at h
  have hname := (Text.written_qualified h.1).oneLine
  rw [Alias.render]
  cases asName with
  | none => exact hname
  | some asName =>
    rw [Option.getD_some]
    split
    · exact hname
    · exact Text.oneLine_append.2 ⟨Text.oneLine_append.2 ⟨hname, by decide⟩,
        (Text.written_qualified h.2).oneLine⟩

theorem oneLine_aliases {names : List Alias} (h : names.all Alias.isShaped = true) :
    (Text.join ", " (names.map Alias.render)).OneLine := by
  refine Text.OneLine.join (by decide) (List.forall_mem_map.2 fun a ha => ?_)
  exact Alias.oneLine_render (List.all_eq_true.1 h a ha)

theorem oneLine_importSource {module : Option Text} (h : module.all Text.isQualified = true)
    (level : Int) : (importSource module level).OneLine := by
  refine Text.oneLine_append.2 ⟨Text.OneLine.flatten fun t ht => ?_, ?_⟩
  · rw [List.eq_of_mem_replicate ht]
    decide
  · cases module with
    | none => exact Text.oneLine_nil
    | some module => exact (Text.written_qualified h).oneLine

/-- A statement without blocks is one line of code. -/
theorem Stmt.ownLines_yields {s : Stmt} (hshape : s.isShaped = true) (hblocks : s.blocks = [])
    (h : ∀ e ∈ s.exprs, e.Renders long mode) : Yields long Lines (s.ownLines mode 0) := by
  have hline : ∀ t : Text, t.Written → Lines [t] := fun t ht =>
    ⟨List.cons_ne_nil _ _, List.forall_mem_singleton.2 ht⟩
  cases s with
  | function head body location | classDef head body location => cases hblocks
  | tryExcept body handlers orelse finalbody location => cases hblocks
  | captured kind source location | foreign kind => cases hshape
  | importNames names location =>
    rw [Stmt.isShaped, Bool.and_eq_true] at hshape
    exact hline _ (Text.Written.append (by decide) (oneLine_aliases hshape.2))
  | importFrom module names level location =>
    rw [Stmt.isShaped, Bool.and_eq_true, Bool.and_eq_true] at hshape
    refine hline _ (((Text.Written.append (by decide) ?_).append (by decide)).append
      (oneLine_aliases hshape.2))
    split
    · decide
    · exact oneLine_importSource hshape.1.1 level
  | assign targets value location =>
    have hne : targets ≠ [] := by simpa [Stmt.isShaped] using hshape
    obtain ⟨htargets, hvalue⟩ := List.forall_mem_append.1 h
    have hparts : ∀ r ∈ targets.map fun t => place .test (t.render mode .double),
        Yields long Text.Written r := fun r hr => by
      obtain ⟨t, ht, rfl⟩ := List.mem_map.1 hr
      exact (htargets t ht).place .test
    refine (Yields.inOrder hparts).bind fun ts hts =>
      ((hvalue value List.mem_cons_self).place .yielding).bind fun t ht => ?_
    have hsome : ts ≠ [] := fun hnil => by
      have hlength := hts.1
      rw [hnil, List.length_map] at hlength
      exact hne (List.length_eq_zero_iff.1 hlength.symm)
    exact hline _ (((Text.Written.join hsome (by decide) hts.2).append (by decide)).append ht.oneLine)
  | ret value location =>
    cases value with
    | none => exact hline "return" (by decide)
    | some value =>
      refine ((h value List.mem_cons_self).place .test).bind fun t ht => ?_
      exact hline _ (Text.Written.append (by decide) ht.oneLine)
  | pass location => exact hline "pass" (by decide)
  | expr value location =>
    exact ((h value List.mem_cons_self).place .yielding).bind fun t ht => hline _ ht

/-! ## Outlines of shaped statements -/

/-- Outlines of which all lines are code, at least one. -/
def Sheet (os : List Outline) : Prop := os ≠ [] ∧ ∀ t ∈ Outline.textsIn os, t.Written

theorem textsIn_leaves (ts : List Text) : Outline.textsIn (ts.map (.mk · [])) = ts := by
  induction ts with
  | nil => rfl
  | cons t ts ih => rw [List.map_cons, Outline.textsIn, ih]; rfl

theorem Sheet.headed {inner : List Outline} (hinner : Sheet inner) {ts : List Text} (h : Lines ts) :
    Sheet (headed inner ts) := by
  obtain ⟨hne, hts⟩ := h
  induction ts with
  | nil => exact (hne rfl).elim
  | cons t ts ih =>
    rw [List.forall_mem_cons] at hts
    cases ts with
    | nil =>
      refine ⟨List.cons_ne_nil _ _, ?_⟩
      rw [Refactory.headed, Outline.textsIn, Outline.texts, Outline.textsIn, List.append_nil]
      exact List.forall_mem_cons.2 ⟨hts.1, hinner.2⟩
    | cons u ts =>
      refine ⟨List.cons_ne_nil _ _, ?_⟩
      rw [Refactory.headed, Outline.textsIn, Outline.texts, Outline.textsIn]
      · exact List.forall_mem_cons.2 ⟨hts.1, (ih (List.cons_ne_nil u ts) hts.2).2⟩
      · exact nofun

theorem Sheet.flatten {oss : List (List Outline)} (hne : oss ≠ []) (h : ∀ os ∈ oss, Sheet os) :
    Sheet oss.flatten := by
  induction oss with
  | nil => exact (hne rfl).elim
  | cons os oss ih =>
    rw [List.forall_mem_cons] at h
    rw [List.flatten_cons]
    refine ⟨fun hnil => h.1.1 (List.append_eq_nil_iff.1 hnil).1, ?_⟩
    rw [Outline.textsIn_append, List.forall_mem_append]
    refine ⟨h.1.2, ?_⟩
    cases oss with
    | nil => exact List.forall_mem_nil _
    | cons os' oss => exact (ih (List.cons_ne_nil _ _) h.2).2

theorem Sheet.nested {oss : List (List Outline)} (h : ∀ os ∈ oss, Sheet os) : Sheet (nested oss) := by
  cases oss with
  | nil => exact ⟨List.cons_ne_nil _ _, List.forall_mem_singleton.2 (by decide)⟩
  | cons os oss => exact Sheet.flatten (List.cons_ne_nil os oss) h

theorem written_region {header : Text} (hheader : header.Written) {oss : List (List Outline)}
    (h : ∀ os ∈ oss, Sheet os) : ∀ t ∈ Outline.textsIn (region header oss), t.Written := by
  cases oss with
  | nil => exact List.forall_mem_nil _
  | cons os oss =>
    rw [region, Outline.textsIn, Outline.texts, Outline.textsIn, List.append_nil]
    · exact List.forall_mem_cons.2 ⟨hheader, (Sheet.flatten (List.cons_ne_nil os oss) h).2⟩
    · exact nofun

theorem written_handlers {heads : List Text} (hheads : ∀ t ∈ heads, t.Written)
    {bodies : List (List (List Outline))} (h : ∀ oss ∈ bodies, ∀ os ∈ oss, Sheet os) :
    ∀ t ∈ Outline.textsIn (heads.zipWith (fun head inner => .mk head (nested inner)) bodies),
      t.Written := by
  induction heads generalizing bodies with
  | nil => exact List.forall_mem_nil _
  | cons t heads ih =>
    cases bodies with
    | nil => exact List.forall_mem_nil _
    | cons oss bodies =>
      rw [List.forall_mem_cons] at hheads h
      rw [List.zipWith_cons_cons, Outline.textsIn, Outline.texts]
      exact List.forall_mem_cons.2 ⟨hheads.1, List.forall_mem_append.2
        ⟨(Sheet.nested h.1).2, ih hheads.2 h.2⟩⟩

theorem Stmt.Fits.renders {s : Stmt} (h : s.Fits long) : ∀ e ∈ s.exprs, e.Renders long mode :=
  fun e he => Expr.render_yields mode e (h.2 e he)

/-- A statement without blocks has the outline of its line. -/
theorem Stmt.outline_plain {s : Stmt} (h : s.blocks = []) :
    s.outline mode = (s.ownLines mode 0).map (List.map (.mk · [])) := by
  cases s with
  | function head body location | classDef head body location => cases h
  | tryExcept body handlers orelse finalbody location => cases h
  | _ => rfl

mutual

theorem Stmt.outline_yields : ∀ s : Stmt, (∀ t ∈ s.nodes, t.Fits long) →
    Yields long Sheet (s.outline mode)
  | .function head body location, h => by
    rw [Stmt.nodes, List.forall_mem_cons] at h
    rw [Stmt.outline]
    refine (FunctionHead.render_yields h.1.1 h.1.renders).bind fun header hheader =>
      (Stmt.outlineEach_yields body h.2).bind fun oss hoss => ?_
    exact (Sheet.nested hoss).headed hheader
  | .classDef head body location, h => by
    rw [Stmt.nodes, List.forall_mem_cons] at h
    rw [Stmt.outline]
    refine (ClassHead.render_yields h.1.1 h.1.renders).bind fun header hheader =>
      (Stmt.outlineEach_yields body h.2).bind fun oss hoss => ?_
    exact (Sheet.nested hoss).headed hheader
  | .tryExcept body handlers orelse finalbody location, h => by
    rw [Stmt.nodes, List.forall_mem_cons, List.forall_mem_append, List.forall_mem_append,
      List.forall_mem_append] at h
    obtain ⟨hself, ⟨⟨hbody, hhandlers⟩, horelse⟩, hfinal⟩ := h
    have hheads : ∀ r ∈ handlers.map (handlerHead mode []), Yields long Text.Written r := by
      intro r hr
      obtain ⟨handler, hhandler, rfl⟩ := List.mem_map.1 hr
      refine handlerHead_yields (List.all_eq_true.1 hself.1 handler hhandler) fun e he => ?_
      exact hself.renders e (List.mem_filterMap.2 ⟨handler, hhandler, he⟩)
    rw [Stmt.outline]
    refine (Yields.inOrder hheads).bind fun heads hheads =>
      (Stmt.outlineEach_yields body hbody).bind fun body hbody =>
      (Stmt.outlineHandlers_yields handlers hhandlers).bind fun bodies hbodies =>
      (Stmt.outlineEach_yields orelse horelse).bind fun orelse horelse =>
      (Stmt.outlineEach_yields finalbody hfinal).bind fun finalbody hfinal => ?_
    refine ⟨List.cons_ne_nil _ _, ?_⟩
    rw [Outline.textsIn_append, Outline.textsIn_append, Outline.textsIn, Outline.texts]
    refine List.forall_mem_append.2 ⟨List.forall_mem_append.2 ⟨List.forall_mem_cons.2
      ⟨by decide, List.forall_mem_append.2 ⟨(Sheet.nested hbody).2, ?_⟩⟩, ?_⟩, ?_⟩
    · exact written_handlers hheads.2 hbodies
    · exact written_region (by decide) horelse
    · exact written_region (by decide) hfinal
  | .importNames .., h | .importFrom .., h | .assign .., h | .ret .., h | .pass _, h | .expr .., h
  | .captured .., h | .foreign _, h => by
    rw [Stmt.outline_plain rfl]
    have hself := h _ List.mem_cons_self
    refine (Stmt.ownLines_yields hself.1 rfl hself.renders).map fun ts hts => ?_
    exact ⟨fun hnil => hts.1 (List.map_eq_nil_iff.1 hnil), by rw [textsIn_leaves]; exact hts.2⟩

theorem Stmt.outlineEach_yields : ∀ b : List Stmt, (∀ t ∈ Stmt.nodesIn b, t.Fits long) →
    Yields long (∀ os ∈ ·, Sheet os) (Stmt.outlineEach mode b)
  | [], _ => List.forall_mem_nil _
  | s :: ss, h => by
    rw [Stmt.nodesIn, List.forall_mem_append] at h
    rw [Stmt.outlineEach]
    exact (Stmt.outline_yields s h.1).bind fun os hos =>
      (Stmt.outlineEach_yields ss h.2).bind fun oss hoss => List.forall_mem_cons.2 ⟨hos, hoss⟩

theorem Stmt.outlineHandlers_yields : ∀ hs : List Handler, (∀ t ∈ Handler.nodesIn hs, t.Fits long) →
    Yields long (∀ oss ∈ ·, ∀ os ∈ oss, Sheet os) (Stmt.outlineHandlers mode hs)
  | [], _ => List.forall_mem_nil _
  | .mk _ _ body :: hs, h => by
    rw [Handler.nodesIn, List.forall_mem_append] at h
    rw [Stmt.outlineHandlers]
    exact (Stmt.outlineEach_yields body h.1).bind fun oss hoss =>
      (Stmt.outlineHandlers_yields hs h.2).bind fun rest hrest =>
        List.forall_mem_cons.2 ⟨hoss, hrest⟩

end

/-! ## Outlines are what is rendered -/

theorem linesIn_leaves (depth : Nat) (ts : List Text) :
    Outline.linesIn depth (ts.map (.mk · [])) = ts.map (Text.times (4 * depth) " " ++ ·) := by
  induction ts with
  | nil => rfl
  | cons t ts ih => rw [List.map_cons, Outline.linesIn, ih]; rfl

theorem linesIn_flatten (depth : Nat) (oss : List (List Outline)) :
    Outline.linesIn depth oss.flatten = (oss.map (Outline.linesIn depth)).flatten := by
  induction oss with
  | nil => rfl
  | cons os oss ih =>
    rw [List.flatten_cons, Outline.linesIn_append, ih, List.map_cons, List.flatten_cons]

theorem linesIn_headed (depth : Nat) (inner : List Outline) {ts : List Text} (h : ts ≠ []) :
    Outline.linesIn depth (headed inner ts) =
      ts.map (Text.times (4 * depth) " " ++ ·) ++ Outline.linesIn (depth + 1) inner := by
  induction ts with
  | nil => exact (h rfl).elim
  | cons t ts ih =>
    cases ts with
    | nil =>
      rw [headed, Outline.linesIn, Outline.lines, Outline.linesIn, List.append_nil]
      rfl
    | cons u ts =>
      rw [headed, Outline.linesIn, Outline.lines, ih (List.cons_ne_nil u ts)]
      · rfl
      · exact nofun

theorem isCode_line {c : CodePoint} (h : c.isInk = true) (rest : Text) (depth : Nat) :
    isCode (Text.times (4 * depth) " " ++ c :: rest) = true := by
  have hink : c.isBlank = false ∧ c ≠ CodePoint.scalar '#' := by
    simpa [CodePoint.isInk] using h
  rw [isCode, times_blank, List.dropWhile_append_of_pos fun d hd => by
    rw [List.eq_of_mem_replicate hd]; rfl, List.dropWhile_cons, hink.1]
  simpa using hink.2

/-- A block shows its statements, or a `pass`. -/
theorem blockLines_eq (depth : Nat) {oss : List (List Outline)} (h : ∀ os ∈ oss, Sheet os) :
    blockLines depth (oss.map (Outline.linesIn depth)) = Outline.linesIn depth (nested oss) := by
  cases oss with
  | nil => rfl
  | cons os oss =>
    have hflat : (List.map (Outline.linesIn depth) (os :: oss)).flatten =
        Outline.linesIn depth (nested (os :: oss)) := (linesIn_flatten depth _).symm
    rw [blockLines, hflat, if_pos]
    obtain ⟨hne, hall⟩ := Sheet.nested h
    cases hnested : nested (os :: oss) with
    | nil => exact (hne hnested).elim
    | cons o rest =>
      obtain ⟨line, inner⟩ := o
      rw [hnested] at hall
      have hline : line.Written := hall line List.mem_cons_self
      refine List.any_eq_true.2 ⟨_, List.mem_cons_self, ?_⟩
      cases line with
      | nil => cases hline.opens
      | cons c rest => exact isCode_line hline.opens rest depth

theorem optionalRegion_eq (depth : Nat) (header : Text) {oss : List (List Outline)}
    (h : ∀ os ∈ oss, Sheet os) :
    optionalRegion (Text.times (4 * depth) " " ++ header) (depth + 1 : Nat)
      (oss.map (Outline.linesIn (depth + 1))) = Outline.linesIn depth (region header oss) := by
  cases oss with
  | nil => rfl
  | cons os oss =>
    have hblock := blockLines_eq (depth + 1) h
    rw [List.map_cons] at hblock ⊢
    rw [optionalRegion, hblock, region, Outline.linesIn, Outline.lines, Outline.linesIn,
      List.append_nil]
    · rfl
    · exact nofun
    · exact nofun

theorem handlers_eq (depth : Nat) (heads : List Text) {bodies : List (List (List Outline))}
    (h : ∀ oss ∈ bodies, ∀ os ∈ oss, Sheet os) :
    ((heads.map (Text.times (4 * depth) " " ++ ·)).zipWith
      (fun head lines => head :: blockLines (depth + 1 : Nat) lines)
      (bodies.map (List.map (Outline.linesIn (depth + 1))))).flatten =
    Outline.linesIn depth (heads.zipWith (fun head inner => .mk head (nested inner)) bodies) := by
  induction heads generalizing bodies with
  | nil => rfl
  | cons head heads ih =>
    cases bodies with
    | nil => rfl
    | cons oss bodies =>
      rw [List.forall_mem_cons] at h
      rw [List.map_cons, List.map_cons, List.zipWith_cons_cons, List.flatten_cons, ih h.2,
        blockLines_eq (depth + 1) h.1, List.zipWith_cons_cons, Outline.linesIn, Outline.lines]

/-- A fault for too many digits is none that is recovered from. -/
theorem Yields.recoverLines {α : Type} {P : α → Prop} {r : Except Fault α} (h : Yields long P r)
    (level : Int) (f : α → List Text) : mode.recoverLines level (r.map f) = r.map f := by
  cases r with
  | ok a => rfl
  | error fault =>
    obtain ⟨rfl, -⟩ := h
    rfl

/-- A definition is its header with its body nested in it. -/
theorem definition_eq (depth : Nat) {header : Except Fault (List Text)}
    (hheader : Yields long Lines header) {body : Except Fault (List (List Outline))}
    (hbody : Yields long (∀ os ∈ ·, Sheet os) body) :
    (do
      let header ← header.map (List.map (Text.times (4 * depth) " " ++ ·))
      return header ++
        blockLines (depth + 1 : Nat) (← body.map (List.map (Outline.linesIn (depth + 1))))) =
    (do
      let header ← header
      return headed (nested (← body)) header : Except Fault _).map (Outline.linesIn depth) := by
  cases header with
  | error f => rfl
  | ok header =>
    cases body with
    | error f => rfl
    | ok oss =>
      refine congrArg Except.ok ?_
      rw [blockLines_eq (depth + 1) hbody, linesIn_headed depth _ hheader.1]

/-- A `try` statement is its headers, each with its block nested in it. -/
theorem try_eq (depth : Nat) {heads : Except Fault (List Text)}
    {body orelse finalbody : Except Fault (List (List Outline))}
    {bodies : Except Fault (List (List (List Outline)))}
    (hbody : Yields long (∀ os ∈ ·, Sheet os) body)
    (hbodies : Yields long (∀ oss ∈ ·, ∀ os ∈ oss, Sheet os) bodies)
    (horelse : Yields long (∀ os ∈ ·, Sheet os) orelse)
    (hfinal : Yields long (∀ os ∈ ·, Sheet os) finalbody) :
    (do
      let heads ← heads.map (List.map (Text.times (4 * depth) " " ++ ·))
      let body ← body.map (List.map (Outline.linesIn (depth + 1)))
      let bodies ← bodies.map (List.map (List.map (Outline.linesIn (depth + 1))))
      let orelse ← orelse.map (List.map (Outline.linesIn (depth + 1)))
      let finalbody ← finalbody.map (List.map (Outline.linesIn (depth + 1)))
      return (Text.times (4 * depth) " " ++ "try:") :: blockLines (depth + 1 : Nat) body ++
        (heads.zipWith (fun head lines => head :: blockLines (depth + 1 : Nat) lines)
          bodies).flatten ++
        optionalRegion (Text.times (4 * depth) " " ++ "else:") (depth + 1 : Nat) orelse ++
        optionalRegion (Text.times (4 * depth) " " ++ "finally:") (depth + 1 : Nat) finalbody) =
    (do
      let heads ← heads
      let body ← body
      let bodies ← bodies
      let orelse ← orelse
      let finalbody ← finalbody
      return Outline.mk "try:" (nested body) ::
        heads.zipWith (fun head inner => Outline.mk head (nested inner)) bodies ++
        region "else:" orelse ++ region "finally:" finalbody : Except Fault (List Outline)).map
      (Outline.linesIn depth) := by
  cases heads with
  | error f => rfl
  | ok heads =>
    cases body with
    | error f => rfl
    | ok body =>
      cases bodies with
      | error f => rfl
      | ok bodies =>
        cases orelse with
        | error f => rfl
        | ok orelse =>
          cases finalbody with
          | error f => rfl
          | ok finalbody =>
            refine congrArg Except.ok ?_
            rw [blockLines_eq (depth + 1) hbody, handlers_eq depth heads hbodies,
              optionalRegion_eq depth _ horelse, optionalRegion_eq depth _ hfinal,
              Outline.linesIn_append, Outline.linesIn_append, Outline.linesIn, Outline.lines]

mutual

/-- A statement is rendered as its outline. -/
theorem Stmt.ownLines_eq (depth : Nat) : ∀ s : Stmt, (∀ t ∈ s.nodes, t.Fits long) →
    s.ownLines mode depth = (s.outline mode).map (Outline.linesIn depth)
  | .function head body location, h => by
    rw [Stmt.nodes, List.forall_mem_cons] at h
    rw [Stmt.ownLines, Stmt.outline, FunctionHead.render_pad, levelPad_natCast, ← Int.natCast_succ,
      Stmt.eachLines_eq (depth + 1) body h.2]
    exact definition_eq depth (FunctionHead.render_yields h.1.1 h.1.renders)
      (Stmt.outlineEach_yields body h.2)
  | .classDef head body location, h => by
    rw [Stmt.nodes, List.forall_mem_cons] at h
    rw [Stmt.ownLines, Stmt.outline, ClassHead.render_pad, levelPad_natCast, ← Int.natCast_succ,
      Stmt.eachLines_eq (depth + 1) body h.2]
    exact definition_eq depth (ClassHead.render_yields h.1.1 h.1.renders)
      (Stmt.outlineEach_yields body h.2)
  | .tryExcept body handlers orelse finalbody location, h => by
    rw [Stmt.nodes, List.forall_mem_cons, List.forall_mem_append, List.forall_mem_append,
      List.forall_mem_append] at h
    obtain ⟨hself, ⟨⟨hbody, hhandlers⟩, horelse⟩, hfinal⟩ := h
    have hheads : handlers.map (handlerHead mode (levelPad depth)) =
        (handlers.map (handlerHead mode [])).map (Except.map (Text.times (4 * depth) " " ++ ·)) := by
      rw [List.map_map]
      exact List.map_congr_left fun h _ => handlerHead_pad mode _ h
    rw [Stmt.ownLines, Stmt.outline, hheads, inOrder_map, ← Int.natCast_succ,
      Stmt.eachLines_eq (depth + 1) body hbody, Stmt.handlerLines_eq (depth + 1) handlers hhandlers,
      Stmt.eachLines_eq (depth + 1) orelse horelse,
      Stmt.eachLines_eq (depth + 1) finalbody hfinal]
    exact try_eq depth (Stmt.outlineEach_yields body hbody)
      (Stmt.outlineHandlers_yields handlers hhandlers) (Stmt.outlineEach_yields orelse horelse)
      (Stmt.outlineEach_yields finalbody hfinal)
  | .importNames .., h | .importFrom .., h | .assign .., h | .ret .., h | .pass _, h | .expr .., h
  | .captured .., h | .foreign _, h => by
    rw [Stmt.outline_plain rfl, Stmt.ownLines_pad mode depth (h _ List.mem_cons_self).1 rfl]
    cases Stmt.ownLines mode 0 _ with
    | error f => rfl
    | ok ts => exact congrArg Except.ok (linesIn_leaves depth ts).symm

theorem Stmt.eachLines_eq (depth : Nat) : ∀ b : List Stmt, (∀ t ∈ Stmt.nodesIn b, t.Fits long) →
    Stmt.eachLines mode depth b =
      (Stmt.outlineEach mode b).map (List.map (Outline.linesIn depth))
  | [], _ => rfl
  | s :: ss, h => by
    rw [Stmt.nodesIn, List.forall_mem_append] at h
    rw [Stmt.eachLines, Stmt.outlineEach, Stmt.ownLines_eq depth s h.1,
      (Stmt.outline_yields s h.1).recoverLines, Stmt.eachLines_eq depth ss h.2]
    cases s.outline mode with
    | error f => rfl
    | ok os => cases Stmt.outlineEach mode ss <;> rfl

theorem Stmt.handlerLines_eq (depth : Nat) : ∀ hs : List Handler,
    (∀ t ∈ Handler.nodesIn hs, t.Fits long) → Stmt.handlerLines mode depth hs =
      (Stmt.outlineHandlers mode hs).map (List.map (List.map (Outline.linesIn depth)))
  | [], _ => rfl
  | .mk _ _ body :: hs, h => by
    rw [Handler.nodesIn, List.forall_mem_append] at h
    rw [Stmt.handlerLines, Stmt.outlineHandlers, Stmt.eachLines_eq depth body h.1,
      Stmt.handlerLines_eq depth hs h.2]
    cases Stmt.outlineEach mode body with
    | error f => rfl
    | ok oss => cases Stmt.outlineHandlers mode hs <;> rfl

end

end

/-! ## Lines of a text -/

theorem Text.splitOn_of_not_mem {sep : CodePoint} {t : Text} (h : sep ∉ t) :
    t.splitOn sep = [t] := by
  induction t with
  | nil => rfl
  | cons c rest ih =>
    rw [List.mem_cons, not_or] at h
    simp only [Text.splitOn, ih h.2, if_neg fun heq : c = sep => h.1 heq.symm]

theorem Text.splitOn_append {sep : CodePoint} {t : Text} (h : sep ∉ t) (rest : Text) :
    (t ++ sep :: rest).splitOn sep = t :: rest.splitOn sep := by
  induction t with
  | nil =>
    rw [List.nil_append, Text.splitOn]
    cases hrest : Text.splitOn sep rest with
    | nil => exact (Text.splitOn_ne_nil sep rest hrest).elim
    | cons first others => simp
  | cons c t ih =>
    rw [List.mem_cons, not_or] at h
    simp only [List.cons_append, Text.splitOn, ih h.2, if_neg fun heq : c = sep => h.1 heq.symm]

/-- The lines that a text was put together from. -/
theorem Text.lines_join {ts : List Text} (hne : ts ≠ []) (h : ∀ t ∈ ts, t.OneLine) :
    (Text.join "\n" ts).lines = ts := by
  induction ts with
  | nil => exact (hne rfl).elim
  | cons t ts ih =>
    rw [List.forall_mem_cons] at h
    cases ts with
    | nil => simpa [Text.lines, Text.join, List.intercalate] using Text.splitOn_of_not_mem h.1
    | cons u ts =>
      have hjoin : Text.join "\n" (t :: u :: ts) =
          t ++ CodePoint.scalar '\n' :: Text.join "\n" (u :: ts) := by
        simp only [Inks.join_text_cons, List.flatMap_cons, List.append_assoc]
        rfl
      rw [hjoin, Text.lines, Text.splitOn_append h.1]
      exact congrArg (t :: ·) (ih (List.cons_ne_nil u ts) h.2)

theorem times_add (j k : Nat) (t : Text) :
    Text.times (j + k) t = Text.times j t ++ Text.times k t := by
  rw [Text.times, ← List.replicate_append_replicate, List.flatten_append]
  rfl

mutual

theorem Outline.lines_add (n depth : Nat) : ∀ o : Outline,
    o.lines (n + depth) = (o.lines depth).map (Text.times (4 * n) " " ++ ·)
  | .mk line inner => by
    rw [Outline.lines, Outline.lines, List.map_cons, Nat.mul_add, times_add, List.append_assoc,
      Nat.add_assoc, Outline.linesIn_add n (depth + 1) inner]

/-- Lines that are put further in have more blanks in front. -/
theorem Outline.linesIn_add (n depth : Nat) : ∀ os : List Outline,
    Outline.linesIn (n + depth) os =
      (Outline.linesIn depth os).map (Text.times (4 * n) " " ++ ·)
  | [] => rfl
  | o :: os => by
    rw [Outline.linesIn, Outline.linesIn, List.map_append, Outline.lines_add n depth o,
      Outline.linesIn_add n depth os]

theorem Outline.oneLine_lines : ∀ (o : Outline) (depth : Nat), (∀ t ∈ o.texts, t.Written) →
    ∀ line ∈ o.lines depth, line.OneLine
  | .mk line inner, depth, h => by
    rw [Outline.texts, List.forall_mem_cons] at h
    refine List.forall_mem_cons.2 ⟨Text.oneLine_append.2 ⟨?_, h.1.oneLine⟩,
      Outline.oneLine_linesIn inner (depth + 1) h.2⟩
    intro hmem
    rw [times_blank] at hmem
    exact absurd (List.eq_of_mem_replicate hmem) (by decide)

theorem Outline.oneLine_linesIn : ∀ (os : List Outline) (depth : Nat),
    (∀ t ∈ Outline.textsIn os, t.Written) → ∀ line ∈ Outline.linesIn depth os, line.OneLine
  | [], _, _ => List.forall_mem_nil _
  | o :: os, depth, h => by
    rw [Outline.textsIn, List.forall_mem_append] at h
    exact List.forall_mem_append.2
      ⟨Outline.oneLine_lines o depth h.1, Outline.oneLine_linesIn os depth h.2⟩

end

/-- A statement at a level is the statement at the outermost level, with blanks in front of each of its
lines. -/
theorem Stmt.toText_indented {long : Prop} {s : Stmt} (h : ∀ t ∈ s.nodes, t.Fits long)
    (mode : RenderMode) (n : Nat) :
    s.toText mode n = (s.toText mode 0).map fun t =>
      Text.join "\n" (t.lines.map (Text.times (4 * n) " " ++ ·)) := by
  have hyields : Yields long Sheet (s.outline mode) := Stmt.outline_yields s h
  have hlines : ∀ depth : Nat, s.lines mode depth = (s.outline mode).map (Outline.linesIn depth) :=
    fun depth => by rw [Stmt.lines, Stmt.ownLines_eq depth s h, hyields.recoverLines]
  have hzero : s.lines mode 0 = (s.outline mode).map (Outline.linesIn 0) := hlines 0
  rw [Stmt.toText, Stmt.toText, hlines n, hzero]
  cases hos : s.outline mode with
  | error f => rfl
  | ok os =>
    rw [hos] at hyields
    have hne : Outline.linesIn 0 os ≠ [] := by
      cases os with
      | nil => exact (hyields.1 rfl).elim
      | cons o os =>
        cases o
        exact List.cons_ne_nil _ _
    refine congrArg Except.ok ?_
    show _ = Text.join "\n" (Text.lines (Text.join "\n" (Outline.linesIn 0 os)) |>.map _)
    rw [Text.lines_join hne (Outline.oneLine_linesIn os 0 hyields.2), ← Outline.linesIn_add,
      Nat.add_zero]

theorem Module.Shaped.fits {m : Module} (h : m.Shaped) :
    ∀ s ∈ Stmt.nodesIn m.body, s.Fits m.HasLongInteger := fun s hs =>
  ⟨(h s hs).1, fun e he n hn => ⟨(h s hs).2 e he n hn, fun hlong => ⟨s, hs, e, he, n, hn, hlong⟩⟩⟩

/-- A shaped module is rendered, unless one of its integers is too long, to the lines of its outline:
each is one line of code behind four blanks a level, and grouping them by indentation gives the outline
back. A statement at a level has as many blanks more in front of its lines. -/
theorem Module.toText_layout {m : Module} (h : m.Shaped) (mode : RenderMode) :
    ((m.toText mode = .error .tooManyDigits ∧ m.HasLongInteger) ∨
      ∃ oss, Stmt.outlineEach mode m.body = .ok oss ∧
        m.toText mode = .ok ((Outline.linesIn 0 oss.flatten).flatMap fun line => line ++ "\n") ∧
        (∀ t ∈ Outline.textsIn oss.flatten, CodePoint.scalar '\n' ∉ t ∧
          ∃ c rest, t = c :: rest ∧ c ≠ CodePoint.scalar ' ') ∧
        group (Outline.linesIn 0 oss.flatten) = some oss.flatten) ∧
    ∀ s ∈ Stmt.nodesIn m.body, ∀ n : Nat, s.toText mode n = (s.toText mode 0).map fun t =>
      Text.join "\n" (t.lines.map (Text.times (4 * n) " " ++ ·)) := by
  refine ⟨?_, fun s hs n => Stmt.toText_indented (fun t ht => h.fits t ?_) mode n⟩
  · have hyields : Yields m.HasLongInteger (∀ os ∈ ·, Sheet os) (Stmt.outlineEach mode m.body) :=
      Stmt.outlineEach_yields m.body h.fits
    have heach : Stmt.eachLines mode 0 m.body = _ := Stmt.eachLines_eq 0 m.body h.fits
    rw [Module.toText, heach]
    cases hoss : Stmt.outlineEach mode m.body with
    | error f =>
      rw [hoss] at hyields
      obtain ⟨rfl, hlong⟩ := hyields
      exact .inl ⟨rfl, hlong⟩
    | ok oss =>
      rw [hoss] at hyields
      have hwritten : ∀ t ∈ Outline.textsIn oss.flatten, t.Written := by
        cases oss with
        | nil => exact List.forall_mem_nil _
        | cons os oss => exact (Sheet.flatten (List.cons_ne_nil os oss) hyields).2
      refine .inr ⟨oss, rfl, ?_, fun t ht => ⟨(hwritten t ht).oneLine, ?_⟩, group_linesIn hwritten⟩
      · rw [linesIn_flatten]
        rfl
      · have hopens := (hwritten t ht).opens
        cases t with
        | nil => cases hopens
        | cons c rest =>
          refine ⟨c, rest, rfl, ?_⟩
          rintro rfl
          have hink : (CodePoint.scalar ' ').isInk = true := hopens
          exact absurd hink (by decide)
  · exact Stmt.nodesIn_trans m.body hs ht

/-- A decorated function without a body, and a `try` with a handler that holds nothing; texts with line
feeds in them stay on one line. -/
theorem Module.toText_layout_sample :
    let m : Module := ⟨[
      .function ⟨"f", [⟨"x", .positional, none, some (.string "a\nb")⟩], none, [.name "d"], true⟩ []
        none,
      .tryExcept [.expr (.formatted [.text "\n", .field (.name "x") (some "r") none]) none]
        [⟨some (.name "E"), some "e", []⟩] [] [.pass none] none]⟩
    m.Shaped ∧ ∃ oss, Stmt.outlineEach .strict m.body = .ok oss ∧
      m.toText .strict = .ok (Text.ofString ("@d\nasync def f(x=\"a\\nb\"):\n    pass\n" ++
        "try:\n    f\"\\n\x7bx!r\x7d\"\nexcept E as e:\n    pass\nfinally:\n    pass\n")) ∧
      group (Outline.linesIn 0 oss.flatten) = some oss.flatten := by
  intro m
  have hleaf : ∀ e : Expr, e.isShaped = true → e.children = [] → e.All (·.isShaped = true) :=
    fun e he hnone => Expr.all_iff.2 ⟨he, by rw [hnone]; exact List.forall_mem_nil _⟩
  have hnames : ∀ id ∈ ([("d" : Text), ("x" : Text), ("E" : Text)] : List Text),
      (Expr.name id).All (·.isShaped = true) := fun id hid =>
    hleaf _ ((by decide +kernel : ∀ id ∈ ([("d" : Text), ("x" : Text), ("E" : Text)] : List Text),
      id.isQualified = true) id hid) rfl
  have h : m.Shaped := by
    refine List.forall_mem_cons.2 ⟨⟨by decide +kernel, ?_⟩, List.forall_mem_cons.2
      ⟨⟨by decide +kernel, ?_⟩, List.forall_mem_cons.2 ⟨⟨rfl, ?_⟩, List.forall_mem_cons.2
      ⟨⟨rfl, List.forall_mem_nil _⟩, List.forall_mem_nil _⟩⟩⟩⟩
    · exact List.forall_mem_cons.2 ⟨hnames _ (by simp),
        List.forall_mem_singleton.2 (hleaf _ rfl rfl)⟩
    · exact List.forall_mem_singleton.2 (hnames _ (by simp))
    · exact List.forall_mem_singleton.2 (Expr.all_iff.2 ⟨by decide,
        List.forall_mem_singleton.2 (hnames _ (by simp))⟩)
  have hsome : (m.toText .strict).toOption = some (Text.ofString ("@d\nasync def f(x=\"a\\nb\"):\n" ++
      "    pass\ntry:\n    f\"\\n\x7bx!r\x7d\"\nexcept E as e:\n    pass\nfinally:\n    pass\n")) := by
    decide +kernel
  obtain ⟨⟨herror, -⟩ | ⟨oss, hoss, htext, -, hgroup⟩, -⟩ := Module.toText_layout h .strict
  · rw [herror] at hsome
    cases hsome
  · refine ⟨h, oss, hoss, ?_, hgroup⟩
    rw [htext] at hsome ⊢
    exact congrArg Except.ok (Option.some.inj hsome)

end Refactory
