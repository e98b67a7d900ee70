import Refactory.Proofs.Grammar.Unwritable
import Refactory.Proofs.Render.Faults
import Refactory.Proofs.Tree.Names

/-! # Render modes

A module whose lists pair up is rendered in strict mode exactly if walks meet nothing captured or
foreign in it and its integers can be written, and every mode then gives the same text; the other
modes do without the text of what is unsupported, so only an integer can stop them
(`Module.toText_modes`). One integer is enough for that (`Module.toText_long_integer`). -/

namespace Refactory

open Grammar

/-! ## Unsupported nodes -/

/-- The kind of an expression that the tree does not model. -/
def Expr.unsupported? : Expr → Option Text
  | .captured kind _ => some kind
  | .foreign kind => some kind
  | _ => none

/-- The kind of a statement that the tree does not model. -/
def Stmt.unsupported? : Stmt → Option Text
  | .captured kind _ _ => some kind
  | .foreign kind => some kind
  | _ => none

/-- Whether the lists of an expression that belong together have one length. -/
def Expr.isPaired : Expr → Bool
  | .compare _ ops comparators => ops.length = comparators.length
  | .dict keys values => keys.length = values.length
  | _ => true

/-- The lists of all expressions of a module pair up. -/
def Module.Paired (m : Module) : Prop :=
  ∀ s ∈ Stmt.nodesIn m.body, ∀ e ∈ s.exprs, e.All (·.isPaired = true)

/-- A statement and the expressions that it holds are all modelled. -/
def Stmt.Supported (s : Stmt) : Prop :=
  s.unsupported? = none ∧ ∀ e ∈ s.exprs, e.All (·.unsupported? = none)

section

variable {mode : RenderMode} {f : Fault}

theorem Expr.ownFault?_cases {e : Expr} (h : e.ownFault? mode = some f) :
    (∃ kind, e.unsupported? = some kind ∧ f = .unsupported kind) ∨
      (e.isLong = true ∧ f = .tooManyDigits) ∨
      e.isPaired = false ∧ ∃ longer, f = .unequalLengths longer := by
  cases e with
  | number value =>
    cases value with
    | int n =>
      simp only [Expr.ownFault?, Option.ite_none_right_eq_some, Option.some.injEq] at h
      exact .inr (.inl ⟨by simpa [Expr.isLong] using h.1, h.2.symm⟩)
    | float | complex | bool => cases h
  | compare left ops comparators =>
    simp only [Expr.ownFault?, Option.ite_none_left_eq_some, Option.some.injEq] at h
    exact .inr (.inr ⟨by simpa [Expr.isPaired] using h.1, _, h.2.symm⟩)
  | dict keys values =>
    simp only [Expr.ownFault?, Option.ite_none_left_eq_some, Option.some.injEq] at h
    exact .inr (.inr ⟨by simpa [Expr.isPaired] using h.1, _, h.2.symm⟩)
  | captured kind source =>
    rw [Expr.ownFault?.eq_def] at h
    dsimp only at h
    split at h <;> cases h
    exact .inl ⟨kind, rfl, rfl⟩
  | foreign kind =>
    cases h
    exact .inl ⟨kind, rfl, rfl⟩
  | _ => cases h

theorem Expr.ownFault?_unsupported {e : Expr} {kind : Text} (h : e.unsupported? = some kind) :
    e.ownFault? .strict = some (.unsupported kind) := by
  cases e <;> cases h <;> rfl

theorem Expr.ownFault?_long {e : Expr} (h : e.isLong = true) :
    e.ownFault? mode = some .tooManyDigits := by
  cases e with
  | number value =>
    cases value with
    | int n => exact if_pos (by simpa [Expr.isLong] using h)
    | float | complex | bool => cases h
  | _ => cases h

theorem Stmt.ownFault?_cases {s : Stmt} (h : s.ownFault? mode = some f) :
    ∃ kind, s.unsupported? = some kind ∧ f = .unsupported kind := by
  cases s with
  | captured kind source location =>
    rw [Stmt.ownFault?.eq_def] at h
    dsimp only at h
    split at h <;> cases h
    exact ⟨kind, rfl, rfl⟩
  | foreign kind =>
    cases h
    exact ⟨kind, rfl, rfl⟩
  | _ => cases h

theorem Stmt.ownFault?_unsupported {s : Stmt} {kind : Text} (h : s.unsupported? = some kind) :
    s.ownFault? .strict = some (.unsupported kind) := by
  cases s <;> cases h <;> rfl

/-- A fault of a statement whose lists pair up is the lack of support for a node or the length of an
integer. -/
theorem Stmt.Faulty.cases {s : Stmt} (hpaired : ∀ e ∈ s.exprs, e.All (·.isPaired = true))
    (h : s.Faulty mode f) :
    (∃ kind, f = .unsupported kind ∧ (s.unsupported? = some kind ∨
      ∃ e ∈ s.exprs, ∃ n : Expr, n.Within e ∧ n.unsupported? = some kind)) ∨
    f = .tooManyDigits ∧ ∃ e ∈ s.exprs, ∃ n : Expr, n.Within e ∧ n.isLong = true := by
  rcases h with h | ⟨e, he, n, hn, h⟩
  · obtain ⟨kind, hkind, rfl⟩ := Stmt.ownFault?_cases h
    exact .inl ⟨kind, rfl, .inl hkind⟩
  · rcases Expr.ownFault?_cases h with ⟨kind, hkind, rfl⟩ | ⟨hlong, rfl⟩ | ⟨hunpaired, -⟩
    · exact .inl ⟨kind, rfl, .inr ⟨e, he, n, hn, hkind⟩⟩
    · exact .inr ⟨rfl, e, he, n, hn, hlong⟩
    · cases hunpaired.symm.trans (hpaired e he n hn)

theorem Stmt.Supported.not_faulty {s : Stmt} (h : s.Supported) (kind : Text) :
    ¬ s.Faulty mode (.unsupported kind) := by
  rintro (hfault | ⟨e, he, n, hn, hfault⟩)
  · obtain ⟨kind', hkind, -⟩ := Stmt.ownFault?_cases hfault
    cases h.1.symm.trans hkind
  · rcases Expr.ownFault?_cases hfault with ⟨kind', hkind, -⟩ | ⟨-, hfault⟩ | ⟨-, _, hfault⟩
    · cases (h.2 e he n hn).symm.trans hkind
    · cases hfault
    · cases hfault

end

/-! ## Walks -/

/-- A walk that ends early does so at a node that it has met. -/
def Walk.Halts {α : Type} (w : Walk α) (good : α → Bool) : Prop :=
  (∀ a ∈ w.items, good a = true) → w.fault = none

namespace Walk.Halts

variable {α : Type} {v w : Walk α} {good : α → Bool}

theorem cons (h : w.Halts good) (a : α) : (Walk.cons a w).Halts good := fun hitems =>
  h fun b hb => hitems b (List.mem_cons_of_mem _ hb)

theorem stop {a : α} (ha : good a = false) (f : Fault) :
    (Walk.cons a (Walk.stop f)).Halts good := fun hitems => by
  rw [hitems a List.mem_cons_self] at ha
  cases ha

theorem append (hv : v.Halts good) (hw : w.Halts good) : (v.append w).Halts good := by
  unfold Walk.append
  split
  · exact hv
  · rename_i hfault
    exact fun hitems => hw fun a ha => hitems a (List.mem_append_right _ ha)

theorem concat {ws : List (Walk α)} (h : ∀ w ∈ ws, w.Halts good) : (Walk.concat ws).Halts good := by
  induction ws with
  | nil => exact fun _ => rfl
  | cons w ws ih =>
    rw [List.forall_mem_cons] at h
    exact h.1.append (ih h.2)

end Walk.Halts

theorem interleave_mem {keys : List (Option (Walk Expr))} {values : List (Walk Expr)}
    {w : Walk Expr} (h : w ∈ interleave keys values) : some w ∈ keys ∨ w ∈ values := by
  fun_induction interleave keys values <;> grind

theorem Expr.walk_halts : ∀ e : Expr, e.All (·.isPaired = true) →
    e.walk.Halts (·.unsupported?.isNone) := by
  refine Expr.induct_children fun e ih hpaired => ?_
  obtain ⟨hself, hchildren⟩ := Expr.all_iff.1 hpaired
  have ih : ∀ c ∈ e.children, c.walk.Halts (·.unsupported?.isNone) := fun c hc =>
    ih c hc (hchildren c hc)
  by_cases hforeign : ∃ kind, e = .foreign kind
  · obtain ⟨kind, rfl⟩ := hforeign
    exact .stop rfl _
  by_cases hdict : ∃ keys values, e = .dict keys values
  · obtain ⟨keys, values, rfl⟩ := hdict
    have hlength : keys.length = values.length := by simpa [Expr.isPaired] using hself
    rw [Expr.walk, Expr.walkKeys_eq, Expr.walkEach_eq, entryWalk, List.length_map, List.length_map,
      if_pos hlength]
    refine .cons (.concat fun w hw => ?_) _
    rcases interleave_mem hw with hw | hw
    · obtain ⟨key, hkey, heq⟩ := List.mem_map.1 hw
      obtain ⟨k, rfl, rfl⟩ := Option.map_eq_some_iff.1 heq
      exact ih k (List.mem_append_left _ (List.mem_filterMap.2 ⟨_, hkey, rfl⟩))
    · obtain ⟨v, hv, rfl⟩ := List.mem_map.1 hw
      exact ih v (List.mem_append_right _ hv)
  · rw [Expr.walk_eq (fun keys values h => hdict ⟨keys, values, h⟩)
      fun kind h => hforeign ⟨kind, h⟩]
    exact .cons (.concat (List.forall_mem_map.2 ih)) _

mutual

theorem Stmt.walkAt_halts (path : Path) :
    ∀ s : Stmt, (s.walkAt path).Halts (·.2.unsupported?.isNone)
  | .function _ body _ => (Stmt.walkBlock_halts path 0 body).cons _
  | .classDef _ body _ => (Stmt.walkBlock_halts path 0 body).cons _
  | .tryExcept body handlers orelse finalbody _ =>
    ((Stmt.walkBlock_halts path _ body).append ((Handler.walkEach_halts path _ handlers).append
      ((Stmt.walkBlock_halts path _ orelse).append (Stmt.walkBlock_halts path _ finalbody)))).cons _
  | .foreign _ => .stop rfl _
  | .importNames .. | .importFrom .. | .assign .. | .ret .. | .pass _ | .expr ..
  | .captured .. => fun _ => rfl

theorem Stmt.walkBlock_halts (path : Path) : ∀ (first : Nat) (b : List Stmt),
    (Stmt.walkBlock path first b).Halts (·.2.unsupported?.isNone)
  | _, [] => fun _ => rfl
  | first, s :: rest =>
    (Stmt.walkAt_halts (path ++ [(first : Int)]) s).append
      (Stmt.walkBlock_halts path (first + 1) rest)

theorem Handler.walkEach_halts (path : Path) : ∀ (first : Nat) (hs : List Handler),
    (Handler.walkEach path first hs).Halts (·.2.unsupported?.isNone)
  | _, [] => fun _ => rfl
  | first, .mk _ _ body :: rest =>
    (Stmt.walkBlock_halts path first body).append (Handler.walkEach_halts path _ rest)

end

theorem Expr.isSound_of_supported {e : Expr} (h : e.unsupported? = none)
    (hpaired : e.isPaired = true) : e.isSound = true := by
  cases e with
  | foreign kind => cases h
  | dict keys values => exact hpaired
  | _ => rfl

theorem Stmt.isNode_of_supported {s : Stmt} (h : s.unsupported? = none) : s.isNode = true := by
  cases s with
  | foreign kind => cases h
  | _ => rfl

/-- Walks meet nothing unsupported exactly if there is nothing unsupported. -/
theorem Stmt.walkExprs_supported {s : Stmt} (hpaired : ∀ e ∈ s.exprs, e.All (·.isPaired = true)) :
    (∀ n ∈ s.walkExprs.items, n.unsupported? = none) ↔
      ∀ e ∈ s.exprs, e.All (·.unsupported? = none) := by
  have hcovers := s.walkExprs_covers
  have hhalts : s.walkExprs.Halts (·.unsupported?.isNone) :=
    .concat (List.forall_mem_map.2 fun e he => e.walk_halts (hpaired e he))
  constructor
  · intro h e he n hn
    have hfault := hhalts fun n hn => Option.isNone_iff_eq_none.2 (h n hn)
    exact h n ((hcovers.items hfault n).2 ⟨e, he, hn⟩)
  · intro h n hn
    have hfault : s.walkExprs.fault = none := hcovers.fault.2 fun n ⟨e, he, hwithin⟩ =>
      Expr.isSound_of_supported (h e he n hwithin) (hpaired e he n hwithin)
    obtain ⟨e, he, hwithin⟩ := (hcovers.items hfault n).1 hn
    exact h e he n hwithin

theorem Module.walk_supported {m : Module} (hpaired : m.Paired) :
    (∀ item ∈ m.walk.items, item.2.unsupported? = none ∧
      ∀ n ∈ item.2.walkExprs.items, n.unsupported? = none) ↔
    ∀ s ∈ Stmt.nodesIn m.body, s.Supported := by
  constructor
  · intro h s hs
    have hfault := Stmt.walkBlock_halts [] 0 m.body fun item hitem =>
      Option.isNone_iff_eq_none.2 (h item hitem).1
    have hs' := hs
    rw [← Module.walk_items hfault] at hs'
    obtain ⟨item, hitem, rfl⟩ := List.mem_map.1 hs'
    exact ⟨(h item hitem).1, (Stmt.walkExprs_supported (hpaired _ hs)).1 (h item hitem).2⟩
  · intro h item hitem
    have hfault := Module.walk_fault fun s hs => Stmt.isNode_of_supported (h s hs).1
    have hs : item.2 ∈ Stmt.nodesIn m.body := by
      rw [← Module.walk_items hfault]
      exact List.mem_map_of_mem hitem
    exact ⟨(h _ hs).1, (Stmt.walkExprs_supported (hpaired _ hs)).2 (h _ hs).2⟩

/-! ## Agreement -/

section

variable {mode mode' : RenderMode} {quote : Quote}

/-- Two modes render an expression in the same way. -/
def Expr.Agrees (mode mode' : RenderMode) (e : Expr) : Prop :=
  ∀ quote, e.render mode quote = e.render mode' quote

theorem Expr.renderEach_agrees {es : List Expr} (h : ∀ e ∈ es, e.Agrees mode mode') :
    Expr.renderEach mode quote es = Expr.renderEach mode' quote es := by
  rw [Expr.renderEach_map, Expr.renderEach_map]
  exact List.map_congr_left fun e he => h e he quote

theorem Expr.renderKeywords_agrees {ks : List Keyword} (h : ∀ k ∈ ks, k.value.Agrees mode mode') :
    Expr.renderKeywords mode quote ks = Expr.renderKeywords mode' quote ks := by
  rw [Expr.renderKeywords_map, Expr.renderKeywords_map]
  refine List.map_congr_left fun k hk => ?_
  obtain ⟨arg, value⟩ := k
  have hvalue : value.render mode quote = value.render mode' quote := h _ hk quote
  cases arg <;> rw [Keyword.render, Keyword.render, hvalue]

theorem Expr.renderKeys_agrees {ks : List (Option Expr)}
    (h : ∀ e ∈ ks.filterMap id, e.Agrees mode mode') :
    Expr.renderKeys mode quote ks = Expr.renderKeys mode' quote ks := by
  induction ks with
  | nil => rfl
  | cons k ks ih =>
    cases k with
    | none => exact congrArg (none :: ·) (ih h)
    | some k =>
      obtain ⟨hk, h⟩ := List.forall_mem_cons.1 h
      rw [Expr.renderKeys, Expr.renderKeys, hk quote, ih h]

theorem Expr.renderPieces_agrees {ps : List Piece}
    (h : ∀ e ∈ ps.filterMap Piece.value?, e.Agrees mode mode') :
    Expr.renderPieces mode ps = Expr.renderPieces mode' ps := by
  rw [Expr.renderPieces_map, Expr.renderPieces_map]
  refine List.map_congr_left fun p hp => ?_
  cases p with
  | text t => rfl
  | field value conversion spec =>
    have hvalue := h value (List.mem_filterMap.2 ⟨_, hp, rfl⟩) .single
    rw [Piece.render, Piece.render, hvalue]

/-- What is supported is rendered in the same way in every mode. -/
theorem Expr.render_agrees (mode mode' : RenderMode) :
    ∀ e : Expr, e.All (·.unsupported? = none) → e.Agrees mode mode' := by
  refine Expr.induct_children fun e ih hall quote => ?_
  obtain ⟨hself, hchildren⟩ := Expr.all_iff.1 hall
  have ih : ∀ c ∈ e.children, c.Agrees mode mode' := fun c hc => ih c hc (hchildren c hc)
  cases e with
  | name | string | number | truth | noneLiteral => rfl
  | captured kind source | foreign kind => cases hself
  | call func args keywords =>
    obtain ⟨hfirst, hkeywords⟩ := List.forall_mem_append.1 ih
    obtain ⟨hfunc, hargs⟩ := List.forall_mem_cons.1 hfirst
    rw [List.forall_mem_map] at hkeywords
    rw [Expr.render, Expr.render, Expr.renderEach_agrees hargs,
      Expr.renderKeywords_agrees hkeywords, hfunc quote]
  | binary left op right =>
    rw [Expr.render, Expr.render, ih left List.mem_cons_self quote,
      ih right (List.mem_cons_of_mem _ List.mem_cons_self) quote]
  | unary op operand =>
    cases op <;> rw [Expr.render, Expr.render, ih operand List.mem_cons_self quote] <;>
      (intro hop; cases hop)
  | logical op values =>
    have hvalues : ∀ v ∈ values, v.Agrees mode mode' := ih
    rw [Expr.render, Expr.render, Expr.renderEach_agrees hvalues]
  | compare left ops comparators =>
    obtain ⟨hleft, hcomparators⟩ := List.forall_mem_cons.1 ih
    rw [Expr.render, Expr.render, hleft quote, Expr.renderEach_agrees hcomparators]
  | «attribute» value attr => rw [Expr.render, Expr.render, ih value List.mem_cons_self quote]
  | subscript value index =>
    rw [Expr.render, Expr.render, ih value List.mem_cons_self quote,
      ih index (List.mem_cons_of_mem _ List.mem_cons_self) quote]
  | starred value => rw [Expr.render, Expr.render, ih value List.mem_cons_self quote]
  | tuple elements =>
    have helements : ∀ e ∈ elements, e.Agrees mode mode' := ih
    rw [Expr.render, Expr.render, Expr.renderEach_agrees helements]
  | list elements =>
    have helements : ∀ e ∈ elements, e.Agrees mode mode' := ih
    rw [Expr.render, Expr.render, Expr.renderEach_agrees helements]
  | dict keys values =>
    obtain ⟨hkeys, hvalues⟩ := List.forall_mem_append.1 ih
    rw [Expr.render, Expr.render, Expr.renderKeys_agrees hkeys, Expr.renderEach_agrees hvalues]
  | formatted parts =>
    have hfields : ∀ e ∈ parts.filterMap Piece.value?, e.Agrees mode mode' := ih
    rw [Expr.render, Expr.render, Expr.renderPieces_agrees hfields]

theorem decoratorLines_agrees {ds : List Expr} (h : ∀ d ∈ ds, d.Agrees mode mode') (pad : Text) :
    decoratorLines mode pad ds = decoratorLines mode' pad ds := by
  refine congrArg inOrder (List.map_congr_left fun d hd => ?_)
  rw [h d hd .double]

theorem Param.render_agrees {p : Param} (h : ∀ e ∈ p.exprs, e.Agrees mode mode') :
    p.render mode = p.render mode' := by
  obtain ⟨name, kind, hint, default⟩ := p
  obtain ⟨hhint, hdefault⟩ := List.forall_mem_append.1 h
  rw [Param.render, Param.render]
  cases hint <;> cases default <;> simp_all [Expr.Agrees]

theorem paramItems_agrees {ps : List Param} (h : ∀ e ∈ ps.flatMap Param.exprs, e.Agrees mode mode')
    (sawStar : Bool) : paramItems mode sawStar ps = paramItems mode' sawStar ps := by
  induction ps generalizing sawStar with
  | nil => rfl
  | cons p ps ih =>
    rw [List.flatMap_cons, List.forall_mem_append] at h
    rw [paramItems, paramItems, Param.render_agrees h.1, ih h.2 true, ih h.2 sawStar]

theorem FunctionHead.render_agrees {head : FunctionHead}
    (h : ∀ e ∈ head.decorators ++ head.params.flatMap Param.exprs ++ head.returns.toList,
      e.Agrees mode mode') (pad : Text) : head.render mode pad = head.render mode' pad := by
  obtain ⟨h, hreturns⟩ := List.forall_mem_append.1 h
  obtain ⟨hdecorators, hparams⟩ := List.forall_mem_append.1 h
  rw [FunctionHead.render, FunctionHead.render, decoratorLines_agrees hdecorators,
    paramItems_agrees hparams]
  cases hr : head.returns with
  | none => rfl
  | some r =>
    rw [hr] at hreturns
    simp only [hreturns r List.mem_cons_self .double]

theorem ClassHead.render_agrees {head : ClassHead}
    (h : ∀ e ∈ head.decorators ++ head.bases ++ head.keywords.map Keyword.value,
      e.Agrees mode mode') (pad : Text) : head.render mode pad = head.render mode' pad := by
  obtain ⟨h, hkeywords⟩ := List.forall_mem_append.1 h
  obtain ⟨hdecorators, hbases⟩ := List.forall_mem_append.1 h
  rw [List.forall_mem_map] at hkeywords
  have hbases : (head.bases.map fun b => place .test (b.render mode .double)) =
      head.bases.map fun b => place .test (b.render mode' .double) :=
    List.map_congr_left fun b hb => by rw [hbases b hb .double]
  rw [ClassHead.render, ClassHead.render, decoratorLines_agrees hdecorators, hbases,
    Expr.renderKeywords_agrees hkeywords]

theorem handlerHeads_agrees {hs : List Handler}
    (h : ∀ e ∈ hs.filterMap Handler.type, e.Agrees mode mode') (pad : Text) :
    hs.map (handlerHead mode pad) = hs.map (handlerHead mode' pad) := by
  refine List.map_congr_left fun handler hmem => ?_
  obtain ⟨_ | type, name, body⟩ := handler
  · rfl
  · have htype := h type (List.mem_filterMap.2 ⟨_, hmem, rfl⟩) .double
    simp only [handlerHead, Handler.type, htype]

/-- A statement without blocks. -/
theorem Stmt.plain_agrees {s : Stmt} (hblocks : s.blocks = []) (h : s.Supported) (level : Int) :
    s.ownLines mode level = s.ownLines mode' level := by
  have hexprs : ∀ e ∈ s.exprs, e.render mode .double = e.render mode' .double := fun e he =>
    e.render_agrees mode mode' (h.2 e he) .double
  cases s with
  | function | classDef | tryExcept => cases hblocks
  | importNames | importFrom | pass => rfl
  | captured | foreign => cases h.1
  | assign targets value location =>
    obtain ⟨htargets, hvalue⟩ := List.forall_mem_append.1 hexprs
    have htargets : (targets.map fun t => place .test (t.render mode .double)) =
        targets.map fun t => place .test (t.render mode' .double) :=
      List.map_congr_left fun t ht => by rw [htargets t ht]
    rw [Stmt.ownLines, Stmt.ownLines, htargets, hvalue value List.mem_cons_self]
  | ret value location =>
    cases value with
    | none => rfl
    | some value => rw [Stmt.ownLines, Stmt.ownLines, hexprs value List.mem_cons_self]
  | expr value location => rw [Stmt.ownLines, Stmt.ownLines, hexprs value List.mem_cons_self]

theorem Stmt.Supported.agrees {s : Stmt} (h : s.Supported) (mode mode' : RenderMode) :
    ∀ e ∈ s.exprs, e.Agrees mode mode' := fun e he => e.render_agrees mode mode' (h.2 e he)

/-- Where nothing is unsupported there is nothing to recover from. -/
theorem Stmt.recoverLines_supported {s : Stmt} (h : ∀ t ∈ s.nodes, t.Supported) (level : Int) :
    mode.recoverLines level (s.ownLines .strict level) = s.ownLines .strict level := by
  have hblames := Stmt.ownLines_blames level s
  cases hlines : s.ownLines .strict level with
  | ok lines => rfl
  | error f =>
    rw [hlines] at hblames
    obtain ⟨t, ht, hfault⟩ := hblames
    unfold RenderMode.recoverLines RenderMode.recover
    split
    · rename_i kind heq
      cases heq
      exact ((h t ht).not_faulty kind hfault).elim
    · rfl

end

mutual

theorem Stmt.ownLines_agrees (mode : RenderMode) (level : Int) :
    ∀ s : Stmt, (∀ t ∈ s.nodes, t.Supported) → s.ownLines mode level = s.ownLines .strict level
  | .function head body location, h => by
    obtain ⟨hself, hbody⟩ := List.forall_mem_cons.1 h
    rw [Stmt.ownLines, Stmt.ownLines, FunctionHead.render_agrees (hself.agrees mode .strict),
      Stmt.eachLines_agrees mode (level + 1) body hbody]
  | .classDef head body location, h => by
    obtain ⟨hself, hbody⟩ := List.forall_mem_cons.1 h
    rw [Stmt.ownLines, Stmt.ownLines, ClassHead.render_agrees (hself.agrees mode .strict),
      Stmt.eachLines_agrees mode (level + 1) body hbody]
  | .tryExcept body handlers orelse finalbody location, h => by
    obtain ⟨hself, hblocks⟩ := List.forall_mem_cons.1 h
    rw [List.forall_mem_append, List.forall_mem_append, List.forall_mem_append] at hblocks
    obtain ⟨⟨⟨hbody, hhandlers⟩, horelse⟩, hfinal⟩ := hblocks
    rw [Stmt.ownLines, Stmt.ownLines, handlerHeads_agrees (hself.agrees mode .strict),
      Stmt.eachLines_agrees mode (level + 1) body hbody,
      Stmt.handlerLines_agrees mode (level + 1) handlers hhandlers,
      Stmt.eachLines_agrees mode (level + 1) orelse horelse,
      Stmt.eachLines_agrees mode (level + 1) finalbody hfinal]
  | .importNames .., h | .importFrom .., h | .assign .., h | .ret .., h | .pass _, h | .expr .., h
  | .captured .., h | .foreign _, h =>
    Stmt.plain_agrees rfl (List.forall_mem_singleton.1 h) level

/-- A block in which all is supported is rendered in the same way in every mode. -/
theorem Stmt.eachLines_agrees (mode : RenderMode) (level : Int) : ∀ b : List Stmt,
    (∀ t ∈ Stmt.nodesIn b, t.Supported) →
      Stmt.eachLines mode level b = Stmt.eachLines .strict level b
  | [], _ => rfl
  | s :: rest, h => by
    obtain ⟨hs, hrest⟩ := List.forall_mem_append.1 h
    rw [Stmt.eachLines, Stmt.eachLines, Stmt.ownLines_agrees mode level s hs,
      Stmt.recoverLines_supported hs, Stmt.recoverLines_supported hs,
      Stmt.eachLines_agrees mode level rest hrest]

theorem Stmt.handlerLines_agrees (mode : RenderMode) (level : Int) : ∀ hs : List Handler,
    (∀ t ∈ Handler.nodesIn hs, t.Supported) →
      Stmt.handlerLines mode level hs = Stmt.handlerLines .strict level hs
  | [], _ => rfl
  | .mk _ _ body :: rest, h => by
    obtain ⟨hbody, hrest⟩ := List.forall_mem_append.1 h
    rw [Stmt.handlerLines, Stmt.handlerLines, Stmt.eachLines_agrees mode level body hbody,
      Stmt.handlerLines_agrees mode level rest hrest]

end

/-! ## Recovery -/

/-- Lack of support for a node, or one of the given faults. -/
def OrUnsupported (P : Fault → Prop) (f : Fault) : Prop := (∃ kind, f = .unsupported kind) ∨ P f

section

variable {α : Type} {mode : RenderMode} {P : Fault → Prop} {r : Except Fault α}

theorem Grammar.FailsBy.orUnsupported (h : FailsBy P r) : FailsBy (OrUnsupported P) r :=
  ⟨fun hf => .inr (h.fault hf)⟩

/-- Outside strict mode, what lacks support is recovered from. -/
theorem Grammar.FailsBy.recover (hmode : mode ≠ .strict) (h : FailsBy (OrUnsupported P) r)
    (g : Text → α) : FailsBy P (mode.recover g r) where
  fault {f} hf := by
    unfold RenderMode.recover at hf
    split at hf
    · rw [if_neg hmode] at hf
      cases hf
    · rename_i hother
      exact (h.fault hf).resolve_left fun ⟨kind, hkind⟩ => hother kind (hkind ▸ hf)

theorem Blames.failsBy {A : Fault → Prop} (h : Blames A r) (hA : ∀ f, A f → P f) : FailsBy P r where
  fault {f} hf := by
    rw [hf] at h
    exact hA f h

mutual

theorem Stmt.ownLines_fails (hmode : mode ≠ .strict) (level : Int) :
    ∀ s : Stmt, (∀ t ∈ s.nodes, ∀ f, t.Faulty mode f → OrUnsupported P f) →
      FailsBy (OrUnsupported P) (s.ownLines mode level)
  | .function head body location, h => by
    obtain ⟨hself, hbody⟩ := List.forall_mem_cons.1 h
    have hhead : Blames ((Stmt.function head body location).Faulty mode) _ :=
      (head.render_blames mode (levelPad level)).congr
        (by simp [Stmt.Faulty, Stmt.ownFault?, Stmt.exprs])
    exact (hhead.failsBy hself).bind fun header _ =>
      (Stmt.eachLines_fails hmode (level + 1) body hbody).orUnsupported.bind fun lines _ =>
        inferInstance
  | .classDef head body location, h => by
    obtain ⟨hself, hbody⟩ := List.forall_mem_cons.1 h
    have hhead : Blames ((Stmt.classDef head body location).Faulty mode) _ :=
      (head.render_blames mode (levelPad level)).congr
        (by simp [Stmt.Faulty, Stmt.ownFault?, Stmt.exprs])
    exact (hhead.failsBy hself).bind fun header _ =>
      (Stmt.eachLines_fails hmode (level + 1) body hbody).orUnsupported.bind fun lines _ =>
        inferInstance
  | .tryExcept body handlers orelse finalbody location, h => by
    obtain ⟨hself, hblocks⟩ := List.forall_mem_cons.1 h
    rw [List.forall_mem_append, List.forall_mem_append, List.forall_mem_append] at hblocks
    obtain ⟨⟨⟨hbody, hhandlers⟩, horelse⟩, hfinal⟩ := hblocks
    have hheads : Blames ((Stmt.tryExcept body handlers orelse finalbody location).Faulty mode) _ :=
      (handlerHeads_blames mode (levelPad level) handlers).congr
        (by simp [Stmt.Faulty, Stmt.ownFault?, Stmt.exprs])
    exact (hheads.failsBy hself).bind fun heads _ =>
      (Stmt.eachLines_fails hmode (level + 1) body hbody).orUnsupported.bind fun body _ =>
        (Stmt.handlerLines_fails hmode (level + 1) handlers hhandlers).orUnsupported.bind
          fun bodies _ =>
            (Stmt.eachLines_fails hmode (level + 1) orelse horelse).orUnsupported.bind
              fun orelse _ =>
                (Stmt.eachLines_fails hmode (level + 1) finalbody hfinal).orUnsupported.bind
                  fun _ _ => inferInstance
  | .importNames .., h | .importFrom .., h | .assign .., h | .ret .., h | .pass _, h | .expr .., h
  | .captured .., h | .foreign _, h =>
    (Stmt.plain_blames mode level rfl).failsBy (List.forall_mem_singleton.1 h)

/-- Outside strict mode, rendering a block fails with none but the faults of its statements, lack of
support left out. -/
theorem Stmt.eachLines_fails (hmode : mode ≠ .strict) (level : Int) :
    ∀ b : List Stmt, (∀ t ∈ Stmt.nodesIn b, ∀ f, t.Faulty mode f → OrUnsupported P f) →
      FailsBy P (Stmt.eachLines mode level b)
  | [], _ => inferInstanceAs (FailsBy P (.ok []))
  | s :: rest, h => by
    obtain ⟨hs, hrest⟩ := List.forall_mem_append.1 h
    exact ((Stmt.ownLines_fails hmode level s hs).recover hmode _).bind fun lines _ =>
      (Stmt.eachLines_fails hmode level rest hrest).bind fun _ _ => inferInstance

theorem Stmt.handlerLines_fails (hmode : mode ≠ .strict) (level : Int) :
    ∀ hs : List Handler, (∀ t ∈ Handler.nodesIn hs, ∀ f, t.Faulty mode f → OrUnsupported P f) →
      FailsBy P (Stmt.handlerLines mode level hs)
  | [], _ => inferInstanceAs (FailsBy P (.ok []))
  | .mk _ _ body :: rest, h => by
    obtain ⟨hbody, hrest⟩ := List.forall_mem_append.1 h
    exact (Stmt.eachLines_fails hmode level body hbody).bind fun lines _ =>
      (Stmt.handlerLines_fails hmode level rest hrest).bind fun _ _ => inferInstance

end

end

/-- The lists of the expressions of a statement pair up and its integers can be written, unless
`long`. -/
def Stmt.Tame (long : Prop) (s : Stmt) : Prop :=
  ∀ e ∈ s.exprs, e.All fun n => n.isPaired = true ∧ (n.isLong = true → long)

/-- Outside strict mode, a block whose lists pair up is rendered unless one of its integers is too
long. -/
theorem Stmt.eachLines_tame {mode : RenderMode} {long : Prop} (hmode : mode ≠ .strict) (level : Int)
    (b : List Stmt) (h : ∀ t ∈ Stmt.nodesIn b, t.Tame long) :
    Yields long (fun _ => True) (Stmt.eachLines mode level b) := by
  have hfails : FailsBy (fun f => f = .tooManyDigits ∧ long) (Stmt.eachLines mode level b) := by
    refine Stmt.eachLines_fails hmode level b fun t ht f hf => ?_
    rcases hf.cases fun e he n hn => (h t ht e he n hn).1 with ⟨kind, hkind, -⟩ |
      ⟨rfl, e, he, n, hn, hlong⟩
    · exact .inl ⟨kind, hkind⟩
    · exact .inr ⟨rfl, (h t ht e he n hn).2 hlong⟩
  cases hresult : Stmt.eachLines mode level b with
  | ok lines => trivial
  | error f => exact hfails.fault hresult

/-! ## Modules -/

/-- A module has a node of a kind that the tree does not model. -/
def Module.HasUnsupported (m : Module) (kind : Text) : Prop :=
  ∃ s ∈ Stmt.nodesIn m.body, s.unsupported? = some kind ∨
    ∃ e ∈ s.exprs, ∃ n : Expr, n.Within e ∧ n.unsupported? = some kind

/-- A module has a fault in strict mode. -/
def Module.Faulty (m : Module) (f : Fault) : Prop :=
  ∃ s ∈ Stmt.nodesIn m.body, s.Faulty .strict f

theorem Module.toText_blames (m : Module) : Blames m.Faulty (m.toText .strict) :=
  (Stmt.eachLines_blames 0 m.body).map _

theorem Module.Faulty.cases {m : Module} (h : m.Paired) {f : Fault} (hf : m.Faulty f) :
    (∃ kind, f = .unsupported kind ∧ m.HasUnsupported kind) ∨
      f = .tooManyDigits ∧ m.HasLongInteger := by
  obtain ⟨s, hs, hf⟩ := hf
  rcases hf.cases (h s hs) with ⟨kind, rfl, hkind⟩ | ⟨rfl, hlong⟩
  · exact .inl ⟨kind, rfl, s, hs, hkind⟩
  · exact .inr ⟨rfl, s, hs, hlong⟩

theorem Module.HasLongInteger.faulty {m : Module} (h : m.HasLongInteger) :
    m.Faulty .tooManyDigits := by
  obtain ⟨s, hs, e, he, n, hn, hlong⟩ := h
  exact ⟨s, hs, .inr ⟨e, he, n, hn, Expr.ownFault?_long hlong⟩⟩

theorem Module.HasUnsupported.faulty {m : Module} {kind : Text} (h : m.HasUnsupported kind) :
    m.Faulty (.unsupported kind) := by
  obtain ⟨s, hs, hkind | ⟨e, he, n, hn, hkind⟩⟩ := h
  · exact ⟨s, hs, .inl (Stmt.ownFault?_unsupported hkind)⟩
  · exact ⟨s, hs, .inr ⟨e, he, n, hn, Expr.ownFault?_unsupported hkind⟩⟩

theorem Module.supported_iff {m : Module} :
    (∀ s ∈ Stmt.nodesIn m.body, s.Supported) ↔ ∀ kind, ¬ m.HasUnsupported kind := by
  constructor
  · rintro h kind ⟨s, hs, hkind | ⟨e, he, n, hn, hkind⟩⟩
    · cases (h s hs).1.symm.trans hkind
    · cases ((h s hs).2 e he n hn).symm.trans hkind
  · intro h s hs
    refine ⟨Option.eq_none_iff_forall_ne_some.2 fun kind hkind => h kind ⟨s, hs, .inl hkind⟩,
      fun e he n hn => Option.eq_none_iff_forall_ne_some.2 fun kind hkind => ?_⟩
    exact h kind ⟨s, hs, .inr ⟨e, he, n, hn, hkind⟩⟩

/-- A module whose lists pair up is rendered in strict mode exactly if walks meet nothing captured
or foreign and no integer is too long. A fault is the lack of support for a node of the module, or
such an integer. What strict mode renders, every mode renders to the same text; the other modes fail
only for such an integer. -/
theorem Module.toText_modes {m : Module} (h : m.Paired) :
    ((∃ t, m.toText .strict = .ok t) ↔
      (∀ item ∈ m.walk.items, item.2.unsupported? = none ∧
        ∀ n ∈ item.2.walkExprs.items, n.unsupported? = none) ∧ ¬ m.HasLongInteger) ∧
    (∀ f, m.toText .strict = .error f →
      (∃ kind, f = .unsupported kind ∧ m.HasUnsupported kind) ∨
        f = .tooManyDigits ∧ m.HasLongInteger) ∧
    (∀ mode t, m.toText .strict = .ok t → m.toText mode = .ok t) ∧
    ∀ mode f, mode ≠ .strict → m.toText mode = .error f →
      f = .tooManyDigits ∧ m.HasLongInteger := by
  have hblames := m.toText_blames
  have hok : ∀ t, m.toText .strict = .ok t → ∀ f, ¬ m.Faulty f := fun t ht => by
    rw [ht] at hblames
    exact hblames
  have hsupported : (∀ f, ¬ m.Faulty f) → ∀ s ∈ Stmt.nodesIn m.body, s.Supported := fun hno =>
    Module.supported_iff.2 fun kind hkind => hno _ hkind.faulty
  refine ⟨?_, fun f hf => ?_, fun mode t ht => ?_, fun mode f hmode hf => ?_⟩
  · rw [Module.walk_supported h]
    constructor
    · rintro ⟨t, ht⟩
      exact ⟨hsupported (hok t ht), fun hlong => hok t ht _ hlong.faulty⟩
    · rintro ⟨hall, hshort⟩
      cases htext : m.toText .strict with
      | ok t => exact ⟨t, rfl⟩
      | error f =>
        rw [htext] at hblames
        rcases Module.Faulty.cases h hblames with ⟨kind, -, hkind⟩ | ⟨-, hlong⟩
        · exact (Module.supported_iff.1 hall kind hkind).elim
        · exact (hshort hlong).elim
  · rw [hf] at hblames
    exact Module.Faulty.cases h hblames
  · rw [Module.toText, Stmt.eachLines_agrees mode 0 m.body (hsupported (hok t ht))]
    exact ht
  · have htame : ∀ s ∈ Stmt.nodesIn m.body, s.Tame m.HasLongInteger := fun s hs e he n hn =>
      ⟨h s hs e he n hn, fun hlong => ⟨s, hs, e, he, n, hn, hlong⟩⟩
    have hyields : Yields m.HasLongInteger (fun _ => True) (m.toText mode) :=
      (Stmt.eachLines_tame hmode 0 m.body htame).map fun _ _ => trivial
    rw [hf] at hyields
    exact hyields

/-- A captured expression among the handlers, past a comparison and a dictionary. -/
theorem Module.toText_modes_sample :
    let m : Module := ⟨[
      .expr (.compare (.name "a") [.lt] [.dict [none] [.name "b"]]) none,
      .tryExcept [.pass none] [⟨some (.captured "Lambda" none), none, []⟩] [] [] none]⟩
    m.Paired ∧ (∃ kind, m.toText .strict = .error (.unsupported kind) ∧ m.HasUnsupported kind) ∧
      ∃ t, m.toText .lenient = .ok t := by
  intro m
  have hall : ∀ {P : Expr → Prop}, P (.compare (.name "a") [.lt] [.dict [none] [.name "b"]]) →
      P (.dict [none] [.name "b"]) → (∀ id, P (.name id)) → P (.captured "Lambda" none) →
      ∀ s ∈ Stmt.nodesIn m.body, ∀ e ∈ s.exprs, e.All P := by
    intro P hcompare hdict hname hcaptured
    refine List.forall_mem_cons.2 ⟨List.forall_mem_singleton.2 (Expr.all_iff.2 ⟨hcompare,
      List.forall_mem_cons.2 ⟨Expr.all_leaf (hname _) rfl, List.forall_mem_singleton.2
        (Expr.all_iff.2 ⟨hdict, List.forall_mem_singleton.2 (Expr.all_leaf (hname _) rfl)⟩)⟩⟩), ?_⟩
    exact List.forall_mem_cons.2 ⟨List.forall_mem_singleton.2 (Expr.all_leaf hcaptured rfl),
      List.forall_mem_singleton.2 (List.forall_mem_nil _)⟩
  have hpaired : m.Paired := hall rfl rfl (fun _ => rfl) rfl
  have hshort : ¬ m.HasLongInteger := by
    rintro ⟨s, hs, e, he, n, hn, hlong⟩
    have hno := hall (P := (·.isLong = false)) rfl rfl (fun _ => rfl) rfl s hs e he n hn
    cases hno.symm.trans hlong
  obtain ⟨-, hfault, -, hother⟩ := Module.toText_modes hpaired
  refine ⟨hpaired, ?_, ?_⟩
  · cases htext : m.toText .strict with
    | ok t =>
      have hstrict : (m.toText .strict).toOption = none := by decide +kernel
      rw [htext] at hstrict
      cases hstrict
    | error f =>
      rcases hfault f htext with ⟨kind, rfl, hkind⟩ | ⟨-, hlong⟩
      · exact ⟨kind, rfl, hkind⟩
      · exact (hshort hlong).elim
  · cases htext : m.toText .lenient with
    | ok t => exact ⟨t, rfl⟩
    | error f => exact (hshort (hother .lenient f (by decide) htext).2).elim

/-- An assignment of an integer with one digit more than are written: nothing in it is unsupported,
and it is rendered in no mode. -/
theorem Module.toText_long_integer :
    let m : Module := ⟨[.assign [.name "x"] (.number (.int (Nat.pow 10 digitLimit))) none]⟩
    m.Paired ∧ (∀ item ∈ m.walk.items, item.2.unsupported? = none ∧
      ∀ n ∈ item.2.walkExprs.items, n.unsupported? = none) ∧
    ∀ mode, m.toText mode = .error .tooManyDigits := by
  have hdigits : ∀ limit, 0 < limit → ¬ (Nat.toDigits 10 (Nat.pow 10 limit)).length ≤ limit :=
    fun limit hlimit => by
      rw [Nat.length_toDigits_le_iff (by decide) hlimit]
      exact Nat.lt_irrefl _
  have hlong := hdigits digitLimit (by decide)
  generalize Nat.pow 10 digitLimit = n at hlong
  intro m
  have hpaired : m.Paired := List.forall_mem_singleton.2 (List.forall_mem_cons.2
    ⟨Expr.all_leaf rfl rfl, List.forall_mem_singleton.2 (Expr.all_leaf rfl rfl)⟩)
  have hsupported : ∀ s ∈ Stmt.nodesIn m.body, s.Supported := List.forall_mem_singleton.2
    ⟨rfl, List.forall_mem_cons.2
      ⟨Expr.all_leaf rfl rfl, List.forall_mem_singleton.2 (Expr.all_leaf rfl rfl)⟩⟩
  refine ⟨hpaired, (Module.walk_supported hpaired).2 hsupported, fun mode => ?_⟩
  have hrender : (Expr.number (.int n)).render mode .double = .error .tooManyDigits := by
    rw [Expr.render, Number.render, Int.natAbs_natCast, if_neg hlong]
    rfl
  rw [Module.toText, Stmt.eachLines, Stmt.ownLines, hrender]
  rfl

end Refactory
