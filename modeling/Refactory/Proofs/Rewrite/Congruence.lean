import Mathlib.Data.List.Forall2
import Refactory.Proofs.Tree.Nodes

/-! # What a pass over expressions relates

Two nodes are congruent by a relation if they are alike but for their sub-expressions, which are
related. Whatever a pass gives for an expression is related to it as soon as the rewriter relates
congruent nodes (`Expr.rewrite_related`), and the statements that a pass gives are congruent to those
that it was given, one by one (`Stmt.rewriteBlock_congr`). -/

namespace Refactory

/-! ## Congruence -/

section

variable (R : Expr → Expr → Prop)

/-- Keyword arguments of one name with related values. -/
inductive Keyword.Congr : Keyword → Keyword → Prop
  | mk {arg value value'} (h : R value value') : Congr (.mk arg value) (.mk arg value')

/-- Parts of formatted strings: the same text, or fields that differ only in related values. -/
inductive Piece.Congr : Piece → Piece → Prop
  | text {value} : Congr (.text value) (.text value)
  | field {value value' conversion spec} (h : R value value') :
    Congr (.field value conversion spec) (.field value' conversion spec)

/-- Expressions that are alike but for their sub-expressions, which are related. -/
inductive Expr.Congr : Expr → Expr → Prop
  | call {func func' args args' keywords keywords'} (hfunc : R func func')
    (hargs : List.Forall₂ R args args')
    (hkeywords : List.Forall₂ (Keyword.Congr R) keywords keywords') :
    Congr (.call func args keywords) (.call func' args' keywords')
  | binary {left left' op right right'} (hleft : R left left') (hright : R right right') :
    Congr (.binary left op right) (.binary left' op right')
  | unary {op operand operand'} (h : R operand operand') :
    Congr (.unary op operand) (.unary op operand')
  | logical {op values values'} (h : List.Forall₂ R values values') :
    Congr (.logical op values) (.logical op values')
  | compare {left left' ops comparators comparators'} (hleft : R left left')
    (hcomparators : List.Forall₂ R comparators comparators') :
    Congr (.compare left ops comparators) (.compare left' ops comparators')
  | attribute {value value' attr} (h : R value value') :
    Congr (.attribute value attr) (.attribute value' attr)
  | subscript {value value' index index'} (hvalue : R value value') (hindex : R index index') :
    Congr (.subscript value index) (.subscript value' index')
  | starred {value value'} (h : R value value') : Congr (.starred value) (.starred value')
  | tuple {elements elements'} (h : List.Forall₂ R elements elements') :
    Congr (.tuple elements) (.tuple elements')
  | list {elements elements'} (h : List.Forall₂ R elements elements') :
    Congr (.list elements) (.list elements')
  | dict {keys keys' values values'} (hkeys : List.Forall₂ (Option.Rel R) keys keys')
    (hvalues : List.Forall₂ R values values') : Congr (.dict keys values) (.dict keys' values')
  | formatted {parts parts'} (h : List.Forall₂ (Piece.Congr R) parts parts') :
    Congr (.formatted parts) (.formatted parts')
  | name {id} : Congr (.name id) (.name id)
  | string {value} : Congr (.string value) (.string value)
  | number {value} : Congr (.number value) (.number value)
  | truth {value} : Congr (.truth value) (.truth value)
  | noneLiteral : Congr .noneLiteral .noneLiteral
  | captured {kind source} : Congr (.captured kind source) (.captured kind source)

/-- Parameters that are alike but for related annotations and defaults. -/
structure Param.Congr (p q : Param) : Prop where
  name : p.name = q.name
  kind : p.kind = q.kind
  hint : Option.Rel R p.hint q.hint
  default : Option.Rel R p.default q.default

/-- Heads of functions that are alike but for related expressions. -/
structure FunctionHead.Congr (h h' : FunctionHead) : Prop where
  name : h.name = h'.name
  decorators : List.Forall₂ R h.decorators h'.decorators
  params : List.Forall₂ (Param.Congr R) h.params h'.params
  returns : Option.Rel R h.returns h'.returns
  isAsync : h.isAsync = h'.isAsync

/-- Heads of classes that are alike but for related expressions. -/
structure ClassHead.Congr (h h' : ClassHead) : Prop where
  name : h.name = h'.name
  decorators : List.Forall₂ R h.decorators h'.decorators
  bases : List.Forall₂ R h.bases h'.bases
  keywords : List.Forall₂ (Keyword.Congr R) h.keywords h'.keywords

/-- Statements that are alike but for their own expressions, which are related, and their blocks. -/
inductive Stmt.Congr : Stmt → Stmt → Prop
  | function {head head' body body' location} (h : head.Congr R head') :
    Congr (.function head body location) (.function head' body' location)
  | classDef {head head' body body' location} (h : head.Congr R head') :
    Congr (.classDef head body location) (.classDef head' body' location)
  | assign {targets targets' value value' location} (htargets : List.Forall₂ R targets targets')
    (hvalue : R value value') : Congr (.assign targets value location) (.assign targets' value' location)
  | ret {value value' location} (h : Option.Rel R value value') :
    Congr (.ret value location) (.ret value' location)
  | expr {value value' location} (h : R value value') :
    Congr (.expr value location) (.expr value' location)
  | tryExcept {body body' handlers handlers' orelse orelse' finalbody finalbody' location}
    (htypes : List.Forall₂ (Option.Rel R) (handlers.map Handler.type) (handlers'.map Handler.type))
    (hnames : handlers.map Handler.name = handlers'.map Handler.name) :
    Congr (.tryExcept body handlers orelse finalbody location)
      (.tryExcept body' handlers' orelse' finalbody' location)
  | importNames {names location} : Congr (.importNames names location) (.importNames names location)
  | importFrom {module names level location} :
    Congr (.importFrom module names level location) (.importFrom module names level location)
  | pass {location} : Congr (.pass location) (.pass location)
  | captured {kind source location} :
    Congr (.captured kind source location) (.captured kind source location)

end

/-! ## Expressions -/

namespace Visit

variable {α β : Type}

theorem Gives.mono {v : Visit α} {P Q : α → Prop} (h : v.Gives P) (himp : ∀ a, P a → Q a) :
    v.Gives Q := fun a ha => himp a (h a ha)

/-- A visited node is replaced by what the rewriter gives, or stays. -/
theorem Gives.show_ {v : Visit Expr} {f : Rewriter} {P Q : Expr → Prop} (h : v.Gives P)
    (hkeep : ∀ e, P e → f e = .ok none → Q e)
    (hreplace : ∀ e new, P e → f e = .ok (some new) → Q new) : (v.show_ f).Gives Q := by
  intro e' he'
  obtain ⟨left, result, seen, count⟩ := v
  cases result with
  | error fault => cases he'
  | ok node =>
    cases hf : f node with
    | error fault => simp [Visit.show_, hf] at he'
    | ok replacement =>
      cases replacement with
      | none =>
        simp only [Visit.show_, hf, Except.ok.injEq] at he'
        exact he' ▸ hkeep node (h node rfl) hf
      | some new =>
        simp only [Visit.show_, hf, Except.ok.injEq] at he'
        exact he' ▸ hreplace node new (h node rfl) hf

end Visit

open Visit (Gives)

/-- The rewriter relates an expression to what becomes of a congruent one: itself, or its
replacement. -/
structure Rewriter.Relates (f : Rewriter) (R : Expr → Expr → Prop) : Prop where
  keep : ∀ {e node}, Expr.Congr R e node → f node = .ok none → R e node
  replace : ∀ {e node new}, Expr.Congr R e node → f node = .ok (some new) → R e new

section

variable {f : Rewriter} {R : Expr → Expr → Prop}

theorem Rewriter.Relates.show_ (hf : f.Relates R) {v : Visit Expr} {e : Expr}
    (h : v.Gives (Expr.Congr R e)) : (v.show_ f).Gives (R e) :=
  Gives.show_ h (fun _ hcongr hnone => hf.keep hcongr hnone)
    fun _ _ hcongr hsome => hf.replace hcongr hsome

mutual

/-- What a pass gives for an expression is related to it. -/
theorem Expr.rewrite_related (hf : f.Relates R) : ∀ e : Expr, (e.rewrite f).Gives (R e)
  | .call func args keywords =>
    hf.show_ ((((Expr.rewrite_related hf func).pair (Expr.rewriteAll_related hf args)).pair
      (Keyword.rewriteEach_related hf keywords)).map fun _ h => .call h.1.1 h.1.2 h.2)
  | .binary left _ right =>
    hf.show_ (((Expr.rewrite_related hf left).pair (Expr.rewrite_related hf right)).map
      fun _ h => .binary h.1 h.2)
  | .unary _ operand => hf.show_ ((Expr.rewrite_related hf operand).map fun _ h => .unary h)
  | .logical _ values => hf.show_ ((Expr.rewriteAll_related hf values).map fun _ h => .logical h)
  | .compare left _ comparators =>
    hf.show_ (((Expr.rewrite_related hf left).pair (Expr.rewriteAll_related hf comparators)).map
      fun _ h => .compare h.1 h.2)
  | .attribute value _ => hf.show_ ((Expr.rewrite_related hf value).map fun _ h => .attribute h)
  | .subscript value index =>
    hf.show_ (((Expr.rewrite_related hf value).pair (Expr.rewrite_related hf index)).map
      fun _ h => .subscript h.1 h.2)
  | .starred value => hf.show_ ((Expr.rewrite_related hf value).map fun _ h => .starred h)
  | .tuple elements => hf.show_ ((Expr.rewriteAll_related hf elements).map fun _ h => .tuple h)
  | .list elements => hf.show_ ((Expr.rewriteAll_related hf elements).map fun _ h => .list h)
  | .dict keys values =>
    hf.show_ (((Expr.rewriteKeys_related hf keys).pair (Expr.rewriteAll_related hf values)).map
      fun _ h => .dict h.1 h.2)
  | .formatted parts =>
    hf.show_ ((Piece.rewriteEach_related hf parts).map fun _ h => .formatted h)
  | .foreign _ => .fail _ _
  | .name _ => hf.show_ (.keep .name)
  | .string _ => hf.show_ (.keep .string)
  | .number _ => hf.show_ (.keep .number)
  | .truth _ => hf.show_ (.keep .truth)
  | .noneLiteral => hf.show_ (.keep .noneLiteral)
  | .captured .. => hf.show_ (.keep .captured)

theorem Expr.rewriteAll_related (hf : f.Relates R) :
    ∀ es : List Expr, (Expr.rewriteAll f es).Gives (List.Forall₂ R es)
  | [] => .keep .nil
  | e :: rest =>
    (Expr.rewrite_related hf e).consAll (Expr.rewriteAll_related hf rest) fun _ _ => .cons

theorem Expr.rewriteKeys_related (hf : f.Relates R) :
    ∀ ks : List (Option Expr), (Expr.rewriteKeys f ks).Gives (List.Forall₂ (Option.Rel R) ks)
  | [] => .keep .nil
  | none :: rest =>
    (Gives.keep Option.Rel.none).consAll (Expr.rewriteKeys_related hf rest) fun _ _ => .cons
  | some e :: rest => by
    have h : ((e.rewrite f).map some).Gives (Option.Rel R (some e)) :=
      (Expr.rewrite_related hf e).map fun _ h => .some h
    exact Gives.consAll (P := Option.Rel R (some e)) h (Expr.rewriteKeys_related hf rest)
      fun _ _ => .cons

theorem Keyword.rewriteEach_related (hf : f.Relates R) :
    ∀ ks : List Keyword, (Keyword.rewriteEach f ks).Gives (List.Forall₂ (Keyword.Congr R) ks)
  | [] => .keep .nil
  | .mk _ value :: rest =>
    ((Expr.rewrite_related hf value).map fun _ h => Keyword.Congr.mk h).consEach
      (Keyword.rewriteEach_related hf rest) fun _ _ => .cons

theorem Piece.rewriteEach_related (hf : f.Relates R) :
    ∀ ps : List Piece, (Piece.rewriteEach f ps).Gives (List.Forall₂ (Piece.Congr R) ps)
  | [] => .keep .nil
  | .text _ :: rest =>
    (Gives.keep Piece.Congr.text).consEach (Piece.rewriteEach_related hf rest) fun _ _ => .cons
  | .field value _ _ :: rest =>
    ((Expr.rewrite_related hf value).map fun _ h => Piece.Congr.field h).consEach
      (Piece.rewriteEach_related hf rest) fun _ _ => .cons

end

theorem Expr.rewriteOption_related (hf : f.Relates R) :
    ∀ e : Option Expr, (Expr.rewriteOption f e).Gives (Option.Rel R e)
  | none => .keep .none
  | some e => (Expr.rewrite_related hf e).map fun _ h => .some h

/-! ## Statements -/

theorem Param.rewrite_related (hf : f.Relates R) (p : Param) : (p.rewrite f).Gives (p.Congr R) :=
  ((Expr.rewriteOption_related hf p.hint).pair (Expr.rewriteOption_related hf p.default)).map
    fun _ h => ⟨rfl, rfl, h.1, h.2⟩

theorem Param.rewriteEach_related (hf : f.Relates R) :
    ∀ ps : List Param, (Param.rewriteEach f ps).Gives (List.Forall₂ (Param.Congr R) ps)
  | [] => .keep .nil
  | p :: rest =>
    (Param.rewrite_related hf p).consEach (Param.rewriteEach_related hf rest) fun _ _ => .cons

theorem FunctionHead.rewrite_related (hf : f.Relates R) (h : FunctionHead) :
    (h.rewrite f).Gives (h.Congr R) :=
  (((Expr.rewriteAll_related hf h.decorators).pair (Param.rewriteEach_related hf h.params)).pair
    (Expr.rewriteOption_related hf h.returns)).map
    fun _ hx => ⟨rfl, hx.1.1, hx.1.2, hx.2, rfl⟩

theorem ClassHead.rewrite_related (hf : f.Relates R) (h : ClassHead) :
    (h.rewrite f).Gives (h.Congr R) :=
  (((Expr.rewriteAll_related hf h.decorators).pair (Expr.rewriteAll_related hf h.bases)).pair
    (Keyword.rewriteEach_related hf h.keywords)).map fun _ hx => ⟨rfl, hx.1.1, hx.1.2, hx.2⟩

theorem Handler.rewriteTypes_related (hf : f.Relates R) :
    ∀ hs : List Handler,
      (Handler.rewriteTypes f hs).Gives (List.Forall₂ (Option.Rel R) (hs.map Handler.type)) := by
  intro hs
  induction hs with
  | nil => exact .keep .nil
  | cons h rest ih =>
    obtain ⟨type, name, body⟩ := h
    exact (Expr.rewriteOption_related hf type).consEach ih fun _ _ => .cons

theorem Handler.rebuild_names {hs : List Handler} {types : List (Option Expr)}
    {bodies : List Block} (htypes : types.length = hs.length) (hbodies : bodies.length = hs.length) :
    (Handler.rebuild hs types bodies).map Handler.type = types ∧
      (Handler.rebuild hs types bodies).map Handler.name = hs.map Handler.name := by
  induction hs generalizing types bodies with
  | nil => simp_all [Handler.rebuild]
  | cons h hs ih =>
    obtain ⟨t, ts, rfl⟩ := List.exists_cons_of_length_eq_add_one htypes
    obtain ⟨b, bs, rfl⟩ := List.exists_cons_of_length_eq_add_one hbodies
    obtain ⟨type, name, body⟩ := h
    obtain ⟨htypes', hnames⟩ := ih (Nat.succ.inj htypes) (Nat.succ.inj hbodies)
    simp only [Handler.rebuild, List.map_cons, htypes', hnames]
    exact ⟨rfl, rfl⟩

mutual

theorem Stmt.rewriteExprs_congr (hf : f.Relates R) :
    ∀ s : Stmt, (s.rewriteExprs f).Gives fun s' => List.Forall₂ (Stmt.Congr R) s.nodes s'.nodes
  | .function head body _ =>
    ((FunctionHead.rewrite_related hf head).pair (Stmt.rewriteBlock_congr hf body)).map
      fun _ hx => .cons (.function hx.1) hx.2
  | .classDef head body _ =>
    ((ClassHead.rewrite_related hf head).pair (Stmt.rewriteBlock_congr hf body)).map
      fun _ hx => .cons (.classDef hx.1) hx.2
  | .assign targets value _ =>
    ((Expr.rewriteAll_related hf targets).pair (Expr.rewrite_related hf value)).map
      fun _ hx => .cons (.assign hx.1 hx.2) .nil
  | .ret value _ => (Expr.rewriteOption_related hf value).map fun _ hx => .cons (.ret hx) .nil
  | .expr value _ => (Expr.rewrite_related hf value).map fun _ hx => .cons (.expr hx) .nil
  | .tryExcept body handlers orelse finalbody _ =>
    (((((Handler.rewriteTypes_related hf handlers).pair (Stmt.rewriteBlock_congr hf body)).pair
      (Handler.rewriteBodies_congr hf handlers)).pair (Stmt.rewriteBlock_congr hf orelse)).pair
      (Stmt.rewriteBlock_congr hf finalbody)).map fun _ ⟨⟨⟨⟨ht, hb⟩, hl, hh⟩, ho⟩, hfinal⟩ => by
        have hlength := ht.length_eq.symm
        rw [List.length_map] at hlength
        obtain ⟨htypes, hnames⟩ := Handler.rebuild_names hlength hl
        rw [Stmt.nodes, Stmt.nodes, Handler.nodesIn_eq, Handler.nodesIn_eq,
          Handler.rebuild_bodies hlength hl]
        refine .cons (.tryExcept ?_ hnames.symm)
          (List.rel_append (List.rel_append (List.rel_append hb hh) ho) hfinal)
        rwa [htypes]
  | .foreign _ => .fail _ _
  | .importNames .. => .keep (.cons .importNames .nil)
  | .importFrom .. => .keep (.cons .importFrom .nil)
  | .pass _ => .keep (.cons .pass .nil)
  | .captured .. => .keep (.cons .captured .nil)

/-- The statements that a pass over expressions gives are congruent to those that it was given. -/
theorem Stmt.rewriteBlock_congr (hf : f.Relates R) :
    ∀ b : List Stmt, (Stmt.rewriteBlock f b).Gives fun b' =>
      List.Forall₂ (Stmt.Congr R) (Stmt.nodesIn b) (Stmt.nodesIn b')
  | [] => .keep .nil
  | s :: rest =>
    (Stmt.rewriteExprs_congr hf s).consEach (Stmt.rewriteBlock_congr hf rest)
      fun _ _ hs hrest => List.rel_append hs hrest

theorem Handler.rewriteBodies_congr (hf : f.Relates R) :
    ∀ hs : List Handler, (Handler.rewriteBodies f hs).Gives fun bs =>
      bs.length = hs.length ∧ List.Forall₂ (Stmt.Congr R)
        ((hs.map Handler.body).flatMap Stmt.nodesIn) (bs.flatMap Stmt.nodesIn)
  | [] => .keep ⟨rfl, .nil⟩
  | .mk _ _ body :: rest =>
    (Stmt.rewriteBlock_congr hf body).consEach (Handler.rewriteBodies_congr hf rest)
      fun _ _ hb hrest => ⟨by simp [hrest.1], List.rel_append hb hrest.2⟩

end

end

end Refactory
