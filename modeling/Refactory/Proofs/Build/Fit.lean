import Refactory.Proofs.Build.Escapes
import Refactory.Proofs.Build.Tally
import Refactory.Proofs.Modernize.Honest
import Refactory.Proofs.Render.Modes

/-! # Modules that are fit

A module is fit if walks over it meet nothing but nodes, lists that belong together have one length, and
imports import something. Walks, passes and renderers rely on it. What is read from a source is fit
(`parseSource_fit`). -/

namespace Refactory

open Grammar

/-! ## Fit modules -/

/-- Walks can go on at an expression and everywhere inside it, and lists that belong together have one
length. -/
def Expr.Fit (e : Expr) : Prop := e.All fun n => n.isSound = true ∧ n.isPaired = true

/-- A statement is a node and the expressions that it holds itself are fit. -/
structure Stmt.Fit (s : Stmt) : Prop where
  isNode : s.isNode = true
  exprs : ∀ e ∈ s.exprs, e.Fit

/-- All statements of a module are fit, and its imports import something. -/
structure Module.Fit (m : Module) : Prop where
  nodes : ∀ s ∈ Stmt.nodesIn m.body, s.Fit
  named : m.Named

theorem Expr.Fit.of_children {e : Expr} (he : e.isSound = true ∧ e.isPaired = true)
    (h : ∀ c ∈ e.children, c.Fit) : e.Fit :=
  Expr.all_iff.2 ⟨he, h⟩

theorem Stmt.Fit.sound {s : Stmt} (h : s.Fit) : s.Sound :=
  ⟨h.isNode, fun e he => (h.exprs e he).mono fun _ hn => hn.1⟩

theorem Module.Fit.sound {m : Module} (h : m.Fit) : m.Sound := fun s hs => (h.nodes s hs).sound

theorem Module.Fit.paired {m : Module} (h : m.Fit) : m.Paired :=
  fun s hs e he => ((h.nodes s hs).exprs e he).mono fun _ hn => hn.2

/-! ## Expressions that are built -/

namespace Grammar

section

variable {o : Origin}

/-- A captured expression has nothing inside. -/
theorem capture_fit {kind : Text} {span : Span} {t : Term} {e : Expr}
    (h : capture o kind span t = .ok e) : e.Fit := by
  obtain ⟨text, rfl⟩ := capture_ok h
  exact .of_children ⟨rfl, rfl⟩ (List.forall_mem_nil _)

theorem Term.toExprs_length {ts : List Term} {es : List Expr} (h : Term.toExprs o ts = .ok es) :
    es.length = ts.length := by
  induction ts generalizing es with
  | nil => cases h; rfl
  | cons t ts ih =>
    obtain ⟨e, -, h⟩ := bind_ok.1 h
    obtain ⟨es', hes, hx⟩ := bind_ok.1 h
    cases hx
    rw [List.length_cons, List.length_cons, ih hes]

theorem Term.toKeys_length {ts : List (Option Term)} {ks : List (Option Expr)}
    (h : Term.toKeys o ts = .ok ks) : ks.length = ts.length := by
  induction ts generalizing ks with
  | nil => cases h; rfl
  | cons t ts ih =>
    cases t with
    | none =>
      obtain ⟨ks', hks, hx⟩ := bind_ok.1 h
      cases hx
      rw [List.length_cons, List.length_cons, ih hks]
    | some t =>
      obtain ⟨e, -, h⟩ := bind_ok.1 h
      obtain ⟨ks', hks, hx⟩ := bind_ok.1 h
      cases hx
      rw [List.length_cons, List.length_cons, ih hks]

mutual

/-- The tree of a whole term is fit. -/
theorem Term.toExpr_fit : ∀ (t : Term) {e : Expr}, t.Whole → t.toExpr o = .ok e → e.Fit
  | .name _, _, _, h | .string .., _, _, h | .number _, _, _, h | .truth _, _, _, h
  | .noneLiteral, _, _, h => by
    cases h
    exact .of_children ⟨rfl, rfl⟩ (List.forall_mem_nil _)
  | .call func args keywords, _, hw, h => by
    obtain ⟨f, hf, h⟩ := bind_ok.1 h
    obtain ⟨as, has, h⟩ := bind_ok.1 h
    obtain ⟨ks, hks, h⟩ := bind_ok.1 h
    cases h
    obtain ⟨hfunc, hrest⟩ := List.forall_mem_cons.1 (Term.whole_iff.1 hw).2
    obtain ⟨hargs, hkeywords⟩ := List.forall_mem_append.1 hrest
    exact .of_children ⟨rfl, rfl⟩ (List.forall_mem_cons.2 ⟨Term.toExpr_fit func hfunc hf,
      List.forall_mem_append.2 ⟨Term.toExprs_fit args hargs has,
        Argument.toKeywords_fit keywords hkeywords hks⟩⟩)
  | .binary left _ right, _, hw, h => by
    obtain ⟨l, hl, h⟩ := bind_ok.1 h
    obtain ⟨r, hr, h⟩ := bind_ok.1 h
    cases h
    obtain ⟨hleft, hright⟩ := List.forall_mem_cons.1 (Term.whole_iff.1 hw).2
    exact .of_children ⟨rfl, rfl⟩ (List.forall_mem_cons.2 ⟨Term.toExpr_fit left hleft hl,
      List.forall_mem_singleton.2 (Term.toExpr_fit right (List.forall_mem_singleton.1 hright) hr)⟩)
  | .unary _ operand, _, hw, h | .starred operand, _, hw, h | .attribute operand _, _, hw, h => by
    obtain ⟨e, he, h⟩ := bind_ok.1 h
    cases h
    exact .of_children ⟨rfl, rfl⟩ (List.forall_mem_singleton.2
      (Term.toExpr_fit operand (List.forall_mem_singleton.1 (Term.whole_iff.1 hw).2) he))
  | .logical _ values, _, hw, h | .tuple values, _, hw, h | .list values, _, hw, h => by
    obtain ⟨es, hes, h⟩ := bind_ok.1 h
    cases h
    exact .of_children ⟨rfl, rfl⟩ (Term.toExprs_fit values (Term.whole_iff.1 hw).2 hes)
  | .compare left ops comparators, _, hw, h => by
    obtain ⟨l, hl, h⟩ := bind_ok.1 h
    obtain ⟨es, hes, h⟩ := bind_ok.1 h
    cases h
    obtain ⟨hpaired, hchildren⟩ := Term.whole_iff.1 hw
    obtain ⟨hleft, hcomparators⟩ := List.forall_mem_cons.1 hchildren
    refine .of_children ⟨rfl, ?_⟩ (List.forall_mem_cons.2 ⟨Term.toExpr_fit left hleft hl,
      Term.toExprs_fit comparators hcomparators hes⟩)
    rw [Expr.isPaired, Term.toExprs_length hes]
    exact hpaired
  | .subscript span value index, e, hw, h => by
    by_cases hslice : ∃ inner lower upper step, index = .slice inner lower upper step
    · obtain ⟨inner, lower, upper, step, rfl⟩ := hslice
      exact capture_fit h
    · have hindex := fun inner lower upper step h => hslice ⟨inner, lower, upper, step, h⟩
      have hconverted : Term.toExpr o (.subscript span value index) =
          (do return .subscript (← value.toExpr o) (← index.toExpr o)) := by
        rw [Term.toExpr]
        exact hindex
      rw [hconverted] at h
      obtain ⟨v, hv, h⟩ := bind_ok.1 h
      obtain ⟨i, hi, h⟩ := bind_ok.1 h
      cases h
      obtain ⟨hvalue, hinside⟩ := List.forall_mem_cons.1 (Term.whole_iff.1 hw).2
      exact .of_children ⟨rfl, rfl⟩ (List.forall_mem_cons.2 ⟨Term.toExpr_fit value hvalue hv,
        List.forall_mem_singleton.2 (Term.toExpr_fit index (List.forall_mem_singleton.1 hinside) hi)⟩)
  | .dict keys values, _, hw, h => by
    obtain ⟨ks, hks, h⟩ := bind_ok.1 h
    obtain ⟨vs, hvs, h⟩ := bind_ok.1 h
    cases h
    obtain ⟨hpaired, hchildren⟩ := Term.whole_iff.1 hw
    obtain ⟨hkeys, hvalues⟩ := List.forall_mem_append.1 hchildren
    have hlength : decide (ks.length = vs.length) = true := by
      rw [Term.toKeys_length hks, Term.toExprs_length hvs]
      exact hpaired
    exact .of_children ⟨hlength, hlength⟩ (List.forall_mem_append.2
      ⟨Term.toKeys_fit keys hkeys hks, Term.toExprs_fit values hvalues hvs⟩)
  | .formatted span parts, e, hw, h => by
    obtain ⟨pieces, hpieces, h⟩ := bind_ok.1 h
    cases pieces with
    | none => exact capture_fit h
    | some pieces =>
      cases h
      exact .of_children ⟨rfl, rfl⟩ (Part.toPieces_fit parts (Term.whole_iff.1 hw).2 hpieces)
  | .bytes .., _, _, h | .ellipsis _, _, _, h | .slice .., _, _, h | .set .., _, _, h
  | .lambda .., _, _, h | .conditional .., _, _, h | .named .., _, _, h | .listComp .., _, _, h
  | .setComp .., _, _, h | .dictComp .., _, _, h | .generator .., _, _, h | .await .., _, _, h
  | .yield .., _, _, h | .yieldFrom .., _, _, h => capture_fit h

theorem Term.toExprs_fit : ∀ (ts : List Term) {es : List Expr}, (∀ t ∈ ts, t.Whole) →
    Term.toExprs o ts = .ok es → ∀ e ∈ es, e.Fit
  | [], _, _, h => by
    cases h
    exact List.forall_mem_nil _
  | t :: rest, _, hw, h => by
    obtain ⟨e, he, h⟩ := bind_ok.1 h
    obtain ⟨es, hes, h⟩ := bind_ok.1 h
    cases h
    rw [List.forall_mem_cons] at hw
    exact List.forall_mem_cons.2 ⟨Term.toExpr_fit t hw.1 he, Term.toExprs_fit rest hw.2 hes⟩

theorem Term.toKeys_fit : ∀ (ts : List (Option Term)) {ks : List (Option Expr)},
    (∀ t ∈ ts.filterMap id, t.Whole) → Term.toKeys o ts = .ok ks → ∀ e ∈ ks.filterMap id, e.Fit
  | [], _, _, h => by
    cases h
    exact List.forall_mem_nil _
  | none :: rest, _, hw, h => by
    obtain ⟨ks, hks, h⟩ := bind_ok.1 h
    cases h
    rw [List.filterMap_cons_none rfl]
    exact Term.toKeys_fit rest hw hks
  | some t :: rest, _, hw, h => by
    obtain ⟨e, he, h⟩ := bind_ok.1 h
    obtain ⟨ks, hks, h⟩ := bind_ok.1 h
    cases h
    obtain ⟨ht, hrest⟩ := List.forall_mem_cons.1 hw
    exact List.forall_mem_cons.2 ⟨Term.toExpr_fit t ht he, Term.toKeys_fit rest hrest hks⟩

theorem Argument.toKeywords_fit : ∀ (as : List Argument) {ks : List Keyword},
    (∀ t ∈ as.map Argument.value, t.Whole) → Argument.toKeywords o as = .ok ks →
      ∀ e ∈ ks.map Keyword.value, e.Fit
  | [], _, _, h => by
    cases h
    exact List.forall_mem_nil _
  | .mk _ value :: rest, _, hw, h => by
    obtain ⟨e, he, h⟩ := bind_ok.1 h
    obtain ⟨ks, hks, h⟩ := bind_ok.1 h
    cases h
    obtain ⟨hvalue, hrest⟩ := List.forall_mem_cons.1 hw
    exact List.forall_mem_cons.2
      ⟨Term.toExpr_fit value hvalue he, Argument.toKeywords_fit rest hrest hks⟩

theorem Part.toPieces_fit : ∀ (ps : List Part) {pieces : List Piece},
    (∀ t ∈ Part.valuesEach ps, t.Whole) → Part.toPieces o ps = .ok (some pieces) →
      ∀ e ∈ pieces.filterMap Piece.value?, e.Fit
  | [], _, _, h => by
    cases h
    exact List.forall_mem_nil _
  | .text _ :: rest, _, hw, h => by
    obtain ⟨others, hothers, h⟩ := bind_ok.1 h
    obtain ⟨others, rfl, rfl⟩ := Option.map_eq_some_iff.1 (Except.ok.inj h)
    rw [List.filterMap_cons]
    exact Part.toPieces_fit rest hw hothers
  | .field value _ none :: rest, _, hw, h => by
    obtain ⟨e, he, h⟩ := bind_ok.1 h
    obtain ⟨others, hothers, h⟩ := bind_ok.1 h
    obtain ⟨others, rfl, rfl⟩ := Option.map_eq_some_iff.1 (Except.ok.inj h)
    obtain ⟨hvalue, hrest⟩ := List.forall_mem_cons.1 hw
    rw [List.filterMap_cons, Piece.value?, List.forall_mem_cons]
    exact ⟨Term.toExpr_fit value hvalue he, Part.toPieces_fit rest hrest hothers⟩
  | .field value _ (some spec) :: rest, _, hw, h => by
    rw [Part.toPieces] at h
    cases hspec : plainSpec spec with
    | none =>
      rw [hspec] at h
      cases h
    | some text =>
      rw [hspec] at h
      obtain ⟨e, he, h⟩ := bind_ok.1 h
      obtain ⟨others, hothers, h⟩ := bind_ok.1 h
      obtain ⟨others, rfl, rfl⟩ := Option.map_eq_some_iff.1 (Except.ok.inj h)
      obtain ⟨hvalues, hrest⟩ := List.forall_mem_append.1 hw
      obtain ⟨hvalue, -⟩ := List.forall_mem_cons.1 hvalues
      rw [List.filterMap_cons, Piece.value?, List.forall_mem_cons]
      exact ⟨Term.toExpr_fit value hvalue he, Part.toPieces_fit rest hrest hothers⟩

end

theorem Term.toExpr?_fit {t : Option Term} {e : Option Expr} (ht : ∀ u ∈ t, u.Whole)
    (h : Term.toExpr? o t = .ok e) : ∀ x ∈ e.toList, x.Fit := by
  cases t with
  | none =>
    cases h
    exact List.forall_mem_nil _
  | some t =>
    obtain ⟨x, hx, h⟩ := bind_ok.1 h
    cases h
    exact List.forall_mem_singleton.2 (Term.toExpr_fit t (ht t rfl) hx)

/-! ## Parameters that are built -/

/-- The expressions of a parameter are those of its name and its default. -/
theorem ParamName.toParam_fit {n : ParamName} {kind : ParamKind} {default : Option Term} {p : Param}
    (hn : ∀ t ∈ n.terms, t.Whole) (hdefault : ∀ t ∈ default, t.Whole)
    (h : n.toParam o kind default = .ok p) : ∀ e ∈ p.exprs, e.Fit := by
  obtain ⟨name, hint⟩ := n
  obtain ⟨hint', hhint, h⟩ := bind_ok.1 h
  obtain ⟨default', hdefault', h⟩ := bind_ok.1 h
  cases h
  exact List.forall_mem_append.2
    ⟨Term.toExpr?_fit (fun t ht => hn t (Option.mem_toList.2 ht)) hhint,
      Term.toExpr?_fit hdefault hdefault'⟩

theorem mapM_mem {α β : Type} {f : α → Except Fault β} {as : List α} {bs : List β} {b : β}
    (h : as.mapM f = .ok bs) (hb : b ∈ bs) : ∃ a ∈ as, f a = .ok b := by
  have hmem : .ok b ∈ as.map f := mapM_ok.1 h ▸ List.mem_map_of_mem hb
  exact List.mem_map.1 hmem

theorem mem_alignDefaults {α : Type} {count : Nat} {defaults : List α} {d : α}
    (h : some d ∈ alignDefaults count defaults) : d ∈ defaults := by
  rcases List.mem_append.1 h with h | h
  · cases List.eq_of_mem_replicate h
  · obtain ⟨d', hd', heq⟩ := List.mem_map.1 h
    exact Option.some.inj heq ▸ hd'

theorem Params.toParams_fit {ps : Params} {params : List Param} (hps : ∀ t ∈ ps.terms, t.Whole)
    (h : ps.toParams o = .ok params) : ∀ e ∈ params.flatMap Param.exprs, e.Fit := by
  obtain ⟨positionalOnly, positional, varPositional, keywordOnly, keywordDefaults, varKeyword,
    defaults⟩ := ps
  simp only [Params.terms, List.flatMap_append, List.forall_mem_append, List.forall_mem_flatMap]
    at hps
  obtain ⟨⟨⟨⟨⟨⟨hfirst, hpositional⟩, hstar⟩, hkeywordOnly⟩, hdouble⟩, hgiven⟩, hdefaults⟩ := hps
  obtain ⟨first, hfirsts, h⟩ := bind_ok.1 h
  obtain ⟨rest, hrest, h⟩ := bind_ok.1 h
  obtain ⟨keywords, hkeywords, h⟩ := bind_ok.1 h
  obtain ⟨last, hlast, h⟩ := bind_ok.1 h
  cases h
  rw [List.forall_mem_flatMap]
  intro p hp
  rcases List.mem_append.1 hp with hp | hp
  rcases List.mem_append.1 hp with hp | hp
  rcases List.mem_append.1 hp with hp | hp
  · obtain ⟨⟨⟨name, kind⟩, default⟩, hmem, hname⟩ := mapM_mem hfirsts hp
    obtain ⟨hnames, hdefault⟩ := List.of_mem_zip hmem
    have hgivens : ∀ t ∈ default, t.Whole := by
      rintro t rfl
      exact hdefaults t (mem_alignDefaults hdefault)
    refine ParamName.toParam_fit ?_ hgivens hname
    rcases List.mem_append.1 hnames with hname | hname <;>
      obtain ⟨name', hname', heq⟩ := List.mem_map.1 hname <;> cases heq
    · exact hfirst _ hname'
    · exact hpositional _ hname'
  · obtain ⟨name, hmem, hname⟩ := mapM_mem hrest hp
    exact ParamName.toParam_fit (hstar name hmem) (fun t ht => by cases ht) hname
  · obtain ⟨⟨name, default⟩, hmem, hname⟩ := mapM_mem hkeywords hp
    obtain ⟨hnames, hdefault⟩ := List.of_mem_zip hmem
    refine ParamName.toParam_fit (hkeywordOnly name hnames) (fun t ht => ?_) hname
    exact hgiven t (List.mem_filterMap.2 ⟨default, hdefault, ht⟩)
  · obtain ⟨name, hmem, hname⟩ := mapM_mem hlast hp
    exact ParamName.toParam_fit (hdouble name hmem) (fun t ht => by cases ht) hname

/-! ## Statements that are built -/

/-- The tree of a statement is fit, and the imports in it import something. -/
def Statement.BuildsFit (o : Origin) (s : Statement) : Prop :=
  ∀ t, s.toStmt o = .ok t → ∀ n ∈ t.nodes, n.Fit ∧ n.importsNothing = false

theorem Statement.toBlock_fit {ss : List Statement} {b : Block} (hss : ∀ s ∈ ss, s.BuildsFit o)
    (h : Statement.toBlock o ss = .ok b) : ∀ n ∈ Stmt.nodesIn b, n.Fit ∧ n.importsNothing = false := by
  induction ss generalizing b with
  | nil =>
    cases h
    exact List.forall_mem_nil _
  | cons s ss ih =>
    obtain ⟨t, ht, h⟩ := bind_ok.1 h
    obtain ⟨rest, hrest, hx⟩ := bind_ok.1 h
    cases hx
    rw [List.forall_mem_cons] at hss
    exact List.forall_mem_append.2 ⟨hss.1 t ht, ih hss.2 hrest⟩

theorem Catch.toHandlers_fit {cs : List Catch} {hs : List Handler}
    (hcs : ∀ c ∈ cs, c.Each (·.BuildsFit o)) (h : Catch.toHandlers o cs = .ok hs) :
    (∀ e ∈ hs.filterMap Handler.type, e.Fit) ∧
      ∀ n ∈ Handler.nodesIn hs, n.Fit ∧ n.importsNothing = false := by
  induction cs generalizing hs with
  | nil =>
    cases h
    exact ⟨List.forall_mem_nil _, List.forall_mem_nil _⟩
  | cons c cs ih =>
    obtain ⟨type, name, body⟩ := c
    obtain ⟨t, ht, h⟩ := bind_ok.1 h
    obtain ⟨b, hb, h⟩ := bind_ok.1 h
    obtain ⟨rest, hrest, hx⟩ := bind_ok.1 h
    cases hx
    rw [List.forall_mem_cons] at hcs
    obtain ⟨htypes, hnodes⟩ := ih hcs.2 hrest
    refine ⟨?_, List.forall_mem_append.2 ⟨Statement.toBlock_fit hcs.1.2 hb, hnodes⟩⟩
    have htype := Term.toExpr?_fit hcs.1.1 ht
    cases t with
    | none => exact htypes
    | some t => exact List.forall_mem_cons.2 ⟨List.forall_mem_singleton.1 htype, htypes⟩

theorem assignTargets_whole {t : Term} (h : t.Whole) : ∀ u ∈ assignTargets t, u.Whole := by
  unfold assignTargets
  split
  · exact (Term.whole_iff.1 h).2
  · exact List.forall_mem_singleton.2 h

theorem captureStmt_fit {kind : Text} {span : Span} {s : Stmt} (h : captureStmt o kind span = .ok s) :
    ∀ n ∈ s.nodes, n.Fit ∧ n.importsNothing = false := by
  unfold captureStmt at h
  split at h
  · cases h
  · cases h
    exact List.forall_mem_singleton.2 ⟨⟨rfl, List.forall_mem_nil _⟩, rfl⟩

theorem Statement.buildsFit_hereditary (n : Nat) : Hereditary n (Statement.BuildsFit o) where
  function _ hterms hreturns hdecorators hbody := by
    rintro t h
    obtain ⟨ps, hps, h⟩ := bind_ok.1 h
    obtain ⟨block, hblock, h⟩ := bind_ok.1 h
    obtain ⟨rs, hrs, h⟩ := bind_ok.1 h
    obtain ⟨ds, hds, h⟩ := bind_ok.1 h
    cases h
    exact List.forall_mem_cons.2 ⟨⟨⟨rfl, List.forall_mem_append.2 ⟨List.forall_mem_append.2
      ⟨Term.toExprs_fit _ hdecorators hds, Params.toParams_fit hterms hps⟩,
        Term.toExpr?_fit hreturns hrs⟩⟩, rfl⟩, toBlock_fit hbody hblock⟩
  classDef hbases hdecorators hbody := by
    rintro t h
    obtain ⟨bs, hbs, h⟩ := bind_ok.1 h
    obtain ⟨block, hblock, h⟩ := bind_ok.1 h
    obtain ⟨ks, hks, h⟩ := bind_ok.1 h
    obtain ⟨ds, hds, h⟩ := bind_ok.1 h
    cases h
    exact List.forall_mem_cons.2 ⟨⟨⟨rfl, List.forall_mem_append.2 ⟨List.forall_mem_append.2
      ⟨Term.toExprs_fit _ hdecorators hds, Term.toExprs_fit _ hbases.args hbs⟩,
        Argument.toKeywords_fit _ hbases.keywords hks⟩⟩, rfl⟩, toBlock_fit hbody hblock⟩
  tryExcept hbody hhandlers horelse hfinal := by
    rintro t h
    obtain ⟨b, hb, h⟩ := bind_ok.1 h
    obtain ⟨hs, hhs, h⟩ := bind_ok.1 h
    obtain ⟨e, he, h⟩ := bind_ok.1 h
    obtain ⟨f, hf, h⟩ := bind_ok.1 h
    cases h
    obtain ⟨htypes, hnodes⟩ := Catch.toHandlers_fit hhandlers hhs
    refine List.forall_mem_cons.2 ⟨⟨⟨rfl, htypes⟩, rfl⟩, ?_⟩
    exact List.forall_mem_append.2 ⟨List.forall_mem_append.2 ⟨List.forall_mem_append.2
      ⟨toBlock_fit hbody hb, hnodes⟩, toBlock_fit horelse he⟩, toBlock_fit hfinal hf⟩
  assign {_ targets value} htargets hvalue _ := match targets with
    | [target] => by
      rintro t h
      obtain ⟨ts, hts, h⟩ := bind_ok.1 h
      obtain ⟨v, hv, h⟩ := bind_ok.1 h
      cases h
      have hwhole := assignTargets_whole (List.forall_mem_singleton.1 htargets)
      exact List.forall_mem_singleton.2 ⟨⟨rfl, List.forall_mem_append.2
        ⟨Term.toExprs_fit _ hwhole hts,
          List.forall_mem_singleton.2 (Term.toExpr_fit _ hvalue hv)⟩⟩, rfl⟩
    | [] | _ :: _ :: _ => fun _ => captureStmt_fit
  other _ _ := captureStmt_fit
  importNames hnames := by
    rintro t h
    cases h
    refine List.forall_mem_singleton.2 ⟨⟨rfl, List.forall_mem_nil _⟩, ?_⟩
    simpa [Stmt.importsNothing] using hnames
  importFrom hnames := by
    rintro t h
    cases h
    refine List.forall_mem_singleton.2 ⟨⟨rfl, List.forall_mem_nil _⟩, ?_⟩
    simpa [Stmt.importsNothing] using hnames
  ret hvalue := by
    rintro t h
    obtain ⟨v, hv, h⟩ := bind_ok.1 h
    cases h
    exact List.forall_mem_singleton.2 ⟨⟨rfl, Term.toExpr?_fit hvalue hv⟩, rfl⟩
  pass := by
    rintro span t h
    cases h
    exact List.forall_mem_singleton.2 ⟨⟨rfl, List.forall_mem_nil _⟩, rfl⟩
  expr hvalue := by
    rintro t h
    obtain ⟨v, hv, h⟩ := bind_ok.1 h
    cases h
    exact List.forall_mem_singleton.2
      ⟨⟨rfl, List.forall_mem_singleton.2 (Term.toExpr_fit _ hvalue hv)⟩, rfl⟩

end

end Grammar

/-- What is read from a source is fit. -/
theorem parseSource_fit {source path : Text} {parsed : Parsed}
    (h : parseSource source path = .ok parsed) : parsed.module.Fit := by
  cases hprogram : readSource source with
  | none => cases h.symm.trans (parseSource_none hprogram)
  | some program =>
    rw [parseSource_some hprogram] at h
    obtain ⟨b, hb, h⟩ := bind_ok.1 h
    cases h
    obtain ⟨chars, -, hread⟩ := Option.bind_eq_some_iff.1 hprogram
    split at hread
    · cases hread
    · have hfit := Statement.toBlock_fit
        (readProgram_hereditary Statement.buildsFit_hereditary hread) hb
      refine ⟨fun s hs => (hfit s hs).1, fun s hs => ?_⟩
      rw [← Stmt.filter_nodesIn] at hs
      exact (hfit s (List.mem_filter.1 hs).1).2

end Refactory
