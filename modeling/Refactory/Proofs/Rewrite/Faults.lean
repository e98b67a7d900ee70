import Refactory.Proofs.Modernize.Honest
import Refactory.Proofs.Rewrite.Children
import Refactory.Proofs.Tree.Names

/-! # Faults of passes

A pass over the expressions of a tree of nodes fails only if the rewriter does, at a node that is
congruent to one of the tree (`Expr.rewrite_ends`, `Stmt.rewriteBlock_failsBy`). A pass over the statements
of such a tree never fails (`Stmt.replaceBlock_nodes`). -/

namespace Refactory

/-! ## Expressions -/

namespace Visit

variable {α β : Type} {F : Fault → Prop}

/-- The fault that a visit ends in, if it fails, satisfies `F`. -/
def FailsBy (v : Visit α) (F : Fault → Prop) : Prop := ∀ fault, v.result = .error fault → F fault

theorem FailsBy.keep (a : α) : (Visit.keep a).FailsBy F := nofun

theorem FailsBy.map {v : Visit α} {make : α → β} (h : v.FailsBy F) : (v.map make).FailsBy F := by
  intro fault hfault
  obtain ⟨left, result, seen, count⟩ := v
  cases result with
  | error f =>
    cases hfault
    exact h fault rfl
  | ok a => cases hfault

theorem FailsBy.pair {v : Visit α} {w : Visit β} {b : β} (h : v.FailsBy F) (h' : w.FailsBy F) :
    (v.pair b w).FailsBy F := by
  intro fault hfault
  obtain ⟨left, result, seen, count⟩ := v
  obtain ⟨left', result', seen', count'⟩ := w
  cases result with
  | error f =>
    cases hfault
    exact h fault rfl
  | ok a =>
    cases result' with
    | error f =>
      cases hfault
      exact h' fault rfl
    | ok c => cases hfault

theorem FailsBy.consEach {v : Visit α} {w : Visit (List α)} {as : List α} (h : v.FailsBy F)
    (h' : w.FailsBy F) : (v.consEach as w).FailsBy F := (h.pair h').map

theorem FailsBy.consAll {v : Visit α} {w : Visit (List α)} {as : List α} (h : v.FailsBy F)
    (h' : w.FailsBy F) : (v.consAll as w).FailsBy F := by
  intro fault hfault
  obtain ⟨left, result, seen, count⟩ := v
  obtain ⟨left', result', seen', count'⟩ := w
  cases result with
  | error f =>
    cases hfault
    exact h fault rfl
  | ok a =>
    cases result' with
    | error f =>
      cases hfault
      exact h' fault rfl
    | ok c => cases hfault

/-- What a visit gives if it succeeds satisfies `P`, and the fault that it ends in otherwise `F`. -/
structure Ends (v : Visit α) (P : α → Prop) (F : Fault → Prop) : Prop where
  gives : v.Gives P
  fails : v.FailsBy F

theorem Ends.keep {P : α → Prop} {a : α} (h : P a) : (Visit.keep a).Ends P F := ⟨.keep h, .keep a⟩

theorem Ends.map {v : Visit α} {P : α → Prop} {Q : β → Prop} {make : α → β} (h : v.Ends P F)
    (hmake : ∀ a, P a → Q (make a)) : (v.map make).Ends Q F := ⟨h.gives.map hmake, h.fails.map⟩

theorem Ends.pair {v : Visit α} {w : Visit β} {P : α → Prop} {Q : β → Prop} {b : β}
    (h : v.Ends P F) (h' : w.Ends Q F) : (v.pair b w).Ends (fun x => P x.1 ∧ Q x.2) F :=
  ⟨h.gives.pair h'.gives, h.fails.pair h'.fails⟩

theorem Ends.consEach {v : Visit α} {w : Visit (List α)} {P : α → Prop} {Q R : List α → Prop}
    {as : List α} (h : v.Ends P F) (h' : w.Ends Q F) (hcons : ∀ a as, P a → Q as → R (a :: as)) :
    (v.consEach as w).Ends R F :=
  ⟨h.gives.consEach h'.gives hcons, h.fails.consEach h'.fails⟩

theorem Ends.consAll {v : Visit α} {w : Visit (List α)} {P : α → Prop} {Q R : List α → Prop}
    {as : List α} (h : v.Ends P F) (h' : w.Ends Q F) (hcons : ∀ a as, P a → Q as → R (a :: as)) :
    (v.consAll as w).Ends R F :=
  ⟨h.gives.consAll h'.gives hcons, h.fails.consAll h'.fails⟩

/-- A visited node is shown to the rewriter, which can fail. -/
theorem Ends.show_ {v : Visit Expr} {f : Rewriter} {R : Expr → Expr → Prop} {e : Expr}
    (h : v.Ends (Expr.Congr R e) F) (hf : f.Relates R)
    (hfault : ∀ node fault, Expr.Congr R e node → f node = .error fault → F fault) :
    (v.show_ f).Ends (R e) F := by
  refine ⟨hf.show_ h.gives, fun fault hshown => ?_⟩
  obtain ⟨left, result, seen, count⟩ := v
  cases result with
  | error fault' => exact h.fails fault hshown
  | ok node =>
    cases hnode : f node with
    | error fault' =>
      simp only [Visit.show_, hnode, Except.error.injEq] at hshown
      exact hshown ▸ hfault node fault' (h.gives node rfl) hnode
    | ok replacement => cases replacement <;> simp [Visit.show_, hnode] at hshown

end Visit

open Visit (Ends FailsBy)

section

variable {f : Rewriter} {R : Expr → Expr → Prop} {F : Fault → Prop}

theorem Expr.rewriteAll_ends {es : List Expr} (h : ∀ e ∈ es, (e.rewrite f).Ends (R e) F) :
    (Expr.rewriteAll f es).Ends (List.Forall₂ R es) F := by
  induction es with
  | nil => exact .keep .nil
  | cons e es ih =>
    rw [List.forall_mem_cons] at h
    exact h.1.consAll (ih h.2) fun _ _ => .cons

theorem Expr.rewriteKeys_ends {ks : List (Option Expr)}
    (h : ∀ e ∈ ks.filterMap id, (e.rewrite f).Ends (R e) F) :
    (Expr.rewriteKeys f ks).Ends (List.Forall₂ (Option.Rel R) ks) F := by
  induction ks with
  | nil => exact .keep .nil
  | cons k ks ih =>
    cases k with
    | none => exact (Ends.keep Option.Rel.none).consAll (ih h) fun _ _ => .cons
    | some e =>
      have h := List.forall_mem_cons.1 h
      have hsome : ((e.rewrite f).map some).Ends (Option.Rel R (some e)) F :=
        h.1.map fun _ h => .some h
      exact Ends.consAll (P := Option.Rel R (some e)) ⟨hsome.gives, hsome.fails⟩ (ih h.2)
        fun _ _ => .cons

theorem Keyword.rewriteEach_ends {ks : List Keyword}
    (h : ∀ e ∈ ks.map Keyword.value, (e.rewrite f).Ends (R e) F) :
    (Keyword.rewriteEach f ks).Ends (List.Forall₂ (Keyword.Congr R) ks) F := by
  induction ks with
  | nil => exact .keep .nil
  | cons k ks ih =>
    obtain ⟨arg, value⟩ := k
    have h := List.forall_mem_cons.1 h
    exact (h.1.map fun _ h => Keyword.Congr.mk h).consEach (ih h.2) fun _ _ => .cons

theorem Piece.rewriteEach_ends {ps : List Piece}
    (h : ∀ e ∈ ps.filterMap Piece.value?, (e.rewrite f).Ends (R e) F) :
    (Piece.rewriteEach f ps).Ends (List.Forall₂ (Piece.Congr R) ps) F := by
  induction ps with
  | nil => exact .keep .nil
  | cons p ps ih =>
    cases p with
    | text value => exact (Ends.keep Piece.Congr.text).consEach (ih h) fun _ _ => .cons
    | field value conversion spec =>
      have h := List.forall_mem_cons.1 h
      exact (h.1.map fun _ h => Piece.Congr.field h).consEach (ih h.2) fun _ _ => .cons

/-- A pass over an expression of nodes fails only if the rewriter does. -/
theorem Expr.rewrite_ends (hf : f.Relates R) {e : Expr}
    (h : e.All fun n => n.isNode = true ∧
      ∀ node fault, Expr.Congr R n node → f node = .error fault → F fault) :
    (e.rewrite f).Ends (R e) F := by
  induction e using Expr.induct_children with
  | h e ih =>
  obtain ⟨⟨hnode, hfault⟩, hchildren⟩ := Expr.all_iff.1 h
  have ih : ∀ c ∈ e.children, (c.rewrite f).Ends (R c) F := fun c hc => ih c hc (hchildren c hc)
  cases e with
  | call func args keywords =>
    rw [Expr.children, List.forall_mem_append, List.forall_mem_cons] at ih
    exact (((ih.1.1.pair (Expr.rewriteAll_ends ih.1.2)).pair
      (Keyword.rewriteEach_ends ih.2)).map fun _ h => .call h.1.1 h.1.2 h.2).show_ hf hfault
  | binary left op right =>
    have hpair := (ih left (by simp [children])).pair (b := right) (ih right (by simp [children]))
    exact (hpair.map fun _ h => .binary h.1 h.2).show_ hf hfault
  | unary op operand =>
    exact ((ih operand (by simp [children])).map fun _ h => .unary h).show_ hf hfault
  | logical op values =>
    exact ((Expr.rewriteAll_ends ih).map fun _ h => .logical h).show_ hf hfault
  | compare left ops comparators =>
    rw [Expr.children, List.forall_mem_cons] at ih
    exact ((ih.1.pair (Expr.rewriteAll_ends ih.2)).map fun _ h => .compare h.1 h.2).show_ hf hfault
  | «attribute» value attr =>
    exact ((ih value (by simp [children])).map fun _ h => .attribute h).show_ hf hfault
  | subscript value index =>
    have hpair := (ih value (by simp [children])).pair (b := index) (ih index (by simp [children]))
    exact (hpair.map fun _ h => .subscript h.1 h.2).show_ hf hfault
  | starred value =>
    exact ((ih value (by simp [children])).map fun _ h => .starred h).show_ hf hfault
  | tuple elements => exact ((Expr.rewriteAll_ends ih).map fun _ h => .tuple h).show_ hf hfault
  | list elements => exact ((Expr.rewriteAll_ends ih).map fun _ h => .list h).show_ hf hfault
  | dict keys values =>
    rw [Expr.children, List.forall_mem_append] at ih
    exact (((Expr.rewriteKeys_ends ih.1).pair (Expr.rewriteAll_ends ih.2)).map
      fun _ h => .dict h.1 h.2).show_ hf hfault
  | formatted parts =>
    exact ((Piece.rewriteEach_ends ih).map fun _ h => .formatted h).show_ hf hfault
  | foreign kind => cases hnode
  | name id => exact (Ends.keep .name).show_ hf hfault
  | string value => exact (Ends.keep .string).show_ hf hfault
  | number value => exact (Ends.keep .number).show_ hf hfault
  | truth value => exact (Ends.keep .truth).show_ hf hfault
  | noneLiteral => exact (Ends.keep .noneLiteral).show_ hf hfault
  | captured kind source => exact (Ends.keep .captured).show_ hf hfault

/-! ## Expressions of statements -/

theorem Expr.rewriteAll_failsBy {es : List Expr} (h : ∀ e ∈ es, (e.rewrite f).FailsBy F) :
    (Expr.rewriteAll f es).FailsBy F := by
  induction es with
  | nil => exact .keep []
  | cons e es ih =>
    rw [List.forall_mem_cons] at h
    exact h.1.consAll (ih h.2)

theorem Expr.rewriteOption_failsBy {e : Option Expr} (h : ∀ c ∈ e.toList, (c.rewrite f).FailsBy F) :
    (Expr.rewriteOption f e).FailsBy F := by
  cases e with
  | none => exact .keep none
  | some e => exact (h e (by simp)).map

theorem Keyword.rewriteEach_failsBy {ks : List Keyword}
    (h : ∀ e ∈ ks.map Keyword.value, (e.rewrite f).FailsBy F) :
    (Keyword.rewriteEach f ks).FailsBy F := by
  induction ks with
  | nil => exact .keep []
  | cons k ks ih =>
    obtain ⟨arg, value⟩ := k
    have h := List.forall_mem_cons.1 h
    exact h.1.map.consEach (ih h.2)

theorem Param.rewriteEach_failsBy {ps : List Param}
    (h : ∀ c ∈ ps.flatMap Param.exprs, (c.rewrite f).FailsBy F) :
    (Param.rewriteEach f ps).FailsBy F := by
  induction ps with
  | nil => exact .keep []
  | cons p ps ih =>
    rw [List.flatMap_cons, List.forall_mem_append, Param.exprs, List.forall_mem_append] at h
    exact ((Expr.rewriteOption_failsBy h.1.1).pair (Expr.rewriteOption_failsBy h.1.2)).map.consEach
      (ih h.2)

theorem Handler.rewriteTypes_failsBy {hs : List Handler}
    (h : ∀ c ∈ hs.filterMap Handler.type, (c.rewrite f).FailsBy F) :
    (Handler.rewriteTypes f hs).FailsBy F := by
  induction hs with
  | nil => exact .keep []
  | cons handler hs ih =>
    obtain ⟨type, name, body⟩ := handler
    rw [List.filterMap_cons] at h
    cases type with
    | none => exact (Expr.rewriteOption_failsBy (by simp)).consEach (ih h)
    | some e =>
      have h := List.forall_mem_cons.1 h
      exact (Expr.rewriteOption_failsBy (by simpa using h.1)).consEach (ih h.2)

mutual

theorem Stmt.rewriteExprs_failsBy :
    ∀ s : Stmt, (∀ t ∈ s.nodes, t.isNode = true ∧ ∀ e ∈ t.exprs, (e.rewrite f).FailsBy F) →
      (s.rewriteExprs f).FailsBy F
  | .function head body location, h => by
    obtain ⟨⟨-, hexprs⟩, hbody⟩ := List.forall_mem_cons.1 h
    rw [Stmt.exprs, List.forall_mem_append, List.forall_mem_append] at hexprs
    rw [Stmt.rewriteExprs, FunctionHead.rewrite]
    exact ((((Expr.rewriteAll_failsBy hexprs.1.1).pair (Param.rewriteEach_failsBy hexprs.1.2)).pair
      (Expr.rewriteOption_failsBy hexprs.2)).map.pair (Stmt.rewriteBlock_failsBy body hbody)).map
  | .classDef head body location, h => by
    obtain ⟨⟨-, hexprs⟩, hbody⟩ := List.forall_mem_cons.1 h
    rw [Stmt.exprs, List.forall_mem_append, List.forall_mem_append] at hexprs
    rw [Stmt.rewriteExprs, ClassHead.rewrite]
    exact ((((Expr.rewriteAll_failsBy hexprs.1.1).pair (Expr.rewriteAll_failsBy hexprs.1.2)).pair
      (Keyword.rewriteEach_failsBy hexprs.2)).map.pair (Stmt.rewriteBlock_failsBy body hbody)).map
  | .assign targets value location, h => by
    obtain ⟨-, hexprs⟩ := List.forall_mem_singleton.1 h
    rw [Stmt.exprs, List.forall_mem_append] at hexprs
    rw [Stmt.rewriteExprs]
    exact ((Expr.rewriteAll_failsBy hexprs.1).pair (hexprs.2 value (by simp))).map
  | .ret value location, h => by
    rw [Stmt.rewriteExprs]
    exact (Expr.rewriteOption_failsBy (List.forall_mem_singleton.1 h).2).map
  | .expr value location, h => by
    rw [Stmt.rewriteExprs]
    exact ((List.forall_mem_singleton.1 h).2 value (by simp [Stmt.exprs])).map
  | .tryExcept body handlers orelse finalbody location, h => by
    obtain ⟨⟨-, hexprs⟩, hblocks⟩ := List.forall_mem_cons.1 h
    rw [List.forall_mem_append, List.forall_mem_append, List.forall_mem_append] at hblocks
    obtain ⟨⟨⟨hbody, hhandlers⟩, horelse⟩, hfinal⟩ := hblocks
    rw [Stmt.rewriteExprs]
    exact (((((Handler.rewriteTypes_failsBy hexprs).pair (Stmt.rewriteBlock_failsBy body hbody)).pair
      (Handler.rewriteBodies_failsBy handlers hhandlers)).pair
      (Stmt.rewriteBlock_failsBy orelse horelse)).pair
      (Stmt.rewriteBlock_failsBy finalbody hfinal)).map
  | .foreign _, h => by cases (List.forall_mem_singleton.1 h).1
  | .importNames .., _ | .importFrom .., _ | .pass _, _ | .captured .., _ => .keep _

/-- A pass over the expressions of a block of nodes fails only if that over one of them does. -/
theorem Stmt.rewriteBlock_failsBy :
    ∀ b : List Stmt,
      (∀ t ∈ Stmt.nodesIn b, t.isNode = true ∧ ∀ e ∈ t.exprs, (e.rewrite f).FailsBy F) →
        (Stmt.rewriteBlock f b).FailsBy F
  | [], _ => .keep []
  | s :: rest, h => by
    rw [Stmt.nodesIn, List.forall_mem_append] at h
    exact (Stmt.rewriteExprs_failsBy s h.1).consEach (Stmt.rewriteBlock_failsBy rest h.2)

theorem Handler.rewriteBodies_failsBy :
    ∀ hs : List Handler,
      (∀ t ∈ Handler.nodesIn hs, t.isNode = true ∧ ∀ e ∈ t.exprs, (e.rewrite f).FailsBy F) →
        (Handler.rewriteBodies f hs).FailsBy F
  | [], _ => .keep []
  | .mk _ _ body :: rest, h => by
    rw [Handler.nodesIn, List.forall_mem_append] at h
    exact (Stmt.rewriteBlock_failsBy body h.1).consEach (Handler.rewriteBodies_failsBy rest h.2)

end

/-- A pass over the expressions of a sound module succeeds, or fails where the rewriter does. -/
theorem rewriteExprs_outcome (hf : f.Relates R) {m : Module} (hm : m.Sound)
    (hfault : ∀ s ∈ Stmt.nodesIn m.body, ∀ e ∈ s.exprs, e.All fun n =>
      ∀ node fault, Expr.Congr R n node → f node = .error fault → F fault) :
    (∃ n m', (rewriteExprs f).perform m = (.ok n, m')) ∨
      ∃ fault m', (rewriteExprs f).perform m = (.error fault, m') ∧ F fault := by
  have hfails : (m.rewriteExprs f).FailsBy F := by
    refine Stmt.rewriteBlock_failsBy m.body fun s hs => ⟨(hm s hs).isNode, fun e he => ?_⟩
    refine (Expr.rewrite_ends hf fun n hn => ⟨?_, hfault s hs e he n hn⟩).fails
    have hsound := (hm s hs).exprs e he n hn
    cases n <;> first | rfl | cases hsound
  change (∃ n m', ((m.rewriteExprs f).result.map fun _ => (m.rewriteExprs f).count, _) = _) ∨
    ∃ fault m', ((m.rewriteExprs f).result.map fun _ => (m.rewriteExprs f).count, _) = _ ∧ _
  cases hresult : (m.rewriteExprs f).result with
  | ok b => exact .inl ⟨_, _, rfl⟩
  | error fault => exact .inr ⟨fault, _, rfl, hfails fault hresult⟩

end

/-! ## Statements -/

section

variable {g : Stmt → Option (List Stmt)} {P : Stmt → Prop}

theorem Stmt.replaceBlock_each {b : List Stmt}
    (h : ∀ s ∈ b, (s.replace g).fault = none ∧ ∀ t ∈ Stmt.nodesIn (s.replace g).now, P t) :
    (Stmt.replaceBlock g b).fault = none ∧ ∀ t ∈ Stmt.nodesIn (Stmt.replaceBlock g b).now, P t := by
  induction b with
  | nil => exact ⟨rfl, fun _ ht => by cases ht⟩
  | cons s b ih =>
    rw [List.forall_mem_cons] at h
    obtain ⟨hfault, hnodes⟩ := ih h.2
    obtain ⟨hcons, hnow⟩ := Stmt.replaceBlock_cons (g := g) s b
    rw [hcons, hnow h.1.1, h.1.1, hfault, Stmt.nodesIn_append, List.forall_mem_append]
    exact ⟨rfl, h.1.2, hnodes⟩

/-- A pass over nodes that satisfy a property succeeds and leaves such nodes, if replacements do and
the property does not look into blocks. -/
theorem Stmt.replaceBlock_nodes (hnode : ∀ s, P s → s.isNode = true)
    (hsurface : ∀ s : Stmt, P s.surface ↔ P s)
    (hg : ∀ s new, g s = some new → (∀ t ∈ s.nodes, P t) → ∀ t ∈ Stmt.nodesIn new, P t)
    {b : List Stmt} (hb : ∀ t ∈ Stmt.nodesIn b, P t) :
    (Stmt.replaceBlock g b).fault = none ∧
      ∀ t ∈ Stmt.nodesIn (Stmt.replaceBlock g b).now, P t := by
  refine Stmt.replaceBlock_each fun s hmem => ?_
  have hs : ∀ t ∈ s.nodes, P t := fun t ht => hb t (Stmt.mem_nodesIn hmem ht)
  clear hb hmem
  induction s using Stmt.induct_children with
  | h s ih =>
  cases hnew : g s with
  | some new =>
    rw [Stmt.replace_some hnew]
    exact ⟨rfl, hg s new hnew hs⟩
  | none =>
    rw [Stmt.nodes_children, List.forall_mem_cons] at hs
    obtain ⟨hfault, hnodes⟩ := Stmt.replaceBlock_each fun c hc =>
      ih c hc fun t ht => hs.2 t (Stmt.mem_nodesIn hc ht)
    obtain ⟨hsame, hleft⟩ := Stmt.replace_none (hnode s hs.1) hnew
    obtain ⟨s', hnow, hsurf, hchildren⟩ := hleft (hsame.trans hfault)
    refine ⟨hsame.trans hfault, ?_⟩
    rw [hnow, Stmt.nodesIn, Stmt.nodesIn, List.append_nil, Stmt.nodes_children, hchildren,
      List.forall_mem_cons]
    refine ⟨(hsurface s').1 ?_, hnodes⟩
    rw [hsurf]
    exact (hsurface s).2 hs.1

/-- A pass over the statements of a sound module succeeds and leaves a sound module, if replacements
are sound. -/
theorem replaceStmts_sound {m : Module} (hm : m.Sound)
    (hg : ∀ s new, g s = some new → (∀ t ∈ s.nodes, t.Sound) → ∀ t ∈ Stmt.nodesIn new, t.Sound) :
    (m.replaceStmts g).fault = none ∧ Module.Sound ⟨(m.replaceStmts g).now⟩ :=
  Stmt.replaceBlock_nodes (fun _ h => h.isNode) Stmt.surface_sound hg hm

end

end Refactory
