import Refactory.Rewrite

/-! # What passes over a tree give

A pass over the expressions of a tree that succeeds without a replacement gives the tree back
(`Stmt.rewriteBlock_keeps`), and so does a pass over its statements (`Stmt.replaceBlock_keeps`). Each
is proved once for every way of putting visited parts together (`Visit.Keeps`, `Replaced.Follows`)
and then follows the tree. `Visit.Gives` does the same for any predicate on the result. -/

namespace Refactory

/-! ## Expressions -/

namespace Visit

variable {α β : Type}

/-- A visit that succeeds without replacing a node gives back the part that was visited. -/
def Keeps (v : Visit α) (a : α) : Prop := v.count = 0 → ∀ b, v.result = .ok b → b = a

theorem Keeps.keep (a : α) : (Visit.keep a).Keeps a := by
  intro _ b h
  cases h
  rfl

theorem Keeps.fail (a : α) (f : Fault) : (Visit.fail a f).Keeps a := by
  intro _ b h
  cases h

theorem Keeps.map {v : Visit α} {a : α} (make : α → β) (h : v.Keeps a) :
    (v.map make).Keeps (make a) := by
  intro hcount b hb
  obtain ⟨left, result, seen, count⟩ := v
  cases result with
  | error f => cases hb
  | ok a' =>
    cases hb
    rw [h hcount a' rfl]

theorem Keeps.pair {v : Visit α} {w : Visit β} {a : α} {b : β} (h : v.Keeps a)
    (h' : w.Keeps b) : (v.pair b w).Keeps (a, b) := by
  intro hcount p hp
  obtain ⟨left, result, seen, count⟩ := v
  cases result with
  | error f => cases hp
  | ok a' =>
    obtain ⟨left', result', seen', count'⟩ := w
    cases result' with
    | error f => cases hp
    | ok b' =>
      have hsum : count + count' = 0 := hcount
      cases hp
      rw [h (by change count = 0; omega) a' rfl, h' (by change count' = 0; omega) b' rfl]

theorem Keeps.consEach {v : Visit α} {w : Visit (List α)} {a : α} {as : List α} (h : v.Keeps a)
    (h' : w.Keeps as) : (v.consEach as w).Keeps (a :: as) := (h.pair h').map _

theorem Keeps.consAll {v : Visit α} {w : Visit (List α)} {a : α} {as : List α} (h : v.Keeps a)
    (h' : w.Keeps as) : (v.consAll as w).Keeps (a :: as) := by
  intro hcount p hp
  obtain ⟨left, result, seen, count⟩ := v
  cases result with
  | error f => cases hp
  | ok a' =>
    obtain ⟨left', result', seen', count'⟩ := w
    cases result' with
    | error f => cases hp
    | ok as' =>
      have hsum : count + count' = 0 := hcount
      cases hp
      rw [h (by change count = 0; omega) a' rfl, h' (by change count' = 0; omega) as' rfl]

theorem Keeps.show_ {v : Visit Expr} {e : Expr} (f : Rewriter) (h : v.Keeps e) :
    (v.show_ f).Keeps e := by
  intro hcount e' he'
  obtain ⟨left, result, seen, count⟩ := v
  cases result with
  | error f => cases he'
  | ok node =>
    cases hf : f node with
    | error fault => simp [Visit.show_, hf] at he'
    | ok replacement =>
      cases replacement with
      | none =>
        simp only [Visit.show_, hf] at hcount he'
        cases he'
        exact h hcount _ rfl
      | some new => simp [Visit.show_, hf] at hcount

/-- Whatever a visit gives if it succeeds satisfies `P`. -/
def Gives (v : Visit α) (P : α → Prop) : Prop := ∀ a, v.result = .ok a → P a

theorem Gives.keep {P : α → Prop} {a : α} (h : P a) : (Visit.keep a).Gives P := by
  intro a' ha
  cases ha
  exact h

theorem Gives.fail {P : α → Prop} (a : α) (f : Fault) : (Visit.fail a f).Gives P := by
  intro a' ha
  cases ha

theorem Gives.trivial (v : Visit α) : v.Gives fun _ => True := fun _ _ => True.intro

theorem Gives.map {v : Visit α} {P : α → Prop} {Q : β → Prop} {make : α → β} (h : v.Gives P)
    (hmake : ∀ a, P a → Q (make a)) : (v.map make).Gives Q := by
  intro b hb
  obtain ⟨left, result, seen, count⟩ := v
  cases result with
  | error f => cases hb
  | ok a =>
    cases hb
    exact hmake a (h a rfl)

theorem Gives.pair {v : Visit α} {w : Visit β} {P : α → Prop} {Q : β → Prop} {b : β}
    (h : v.Gives P) (h' : w.Gives Q) : (v.pair b w).Gives fun x => P x.1 ∧ Q x.2 := by
  intro x hx
  obtain ⟨left, result, seen, count⟩ := v
  cases result with
  | error f => cases hx
  | ok a =>
    obtain ⟨left', result', seen', count'⟩ := w
    cases result' with
    | error f => cases hx
    | ok b' =>
      cases hx
      exact ⟨h a rfl, h' b' rfl⟩

theorem Gives.consEach {v : Visit α} {w : Visit (List α)} {P : α → Prop} {Q R : List α → Prop}
    {as : List α} (h : v.Gives P) (h' : w.Gives Q) (hcons : ∀ a as, P a → Q as → R (a :: as)) :
    (v.consEach as w).Gives R :=
  (h.pair h').map fun x hx => hcons x.1 x.2 hx.1 hx.2

theorem Gives.consAll {v : Visit α} {w : Visit (List α)} {P : α → Prop} {Q R : List α → Prop}
    {as : List α} (h : v.Gives P) (h' : w.Gives Q) (hcons : ∀ a as, P a → Q as → R (a :: as)) :
    (v.consAll as w).Gives R := by
  intro x hx
  obtain ⟨left, result, seen, count⟩ := v
  cases result with
  | error f => cases hx
  | ok a =>
    obtain ⟨left', result', seen', count'⟩ := w
    cases result' with
    | error f => cases hx
    | ok as' =>
      cases hx
      exact hcons a as' (h a rfl) (h' as' rfl)

end Visit

open Visit (Keeps)

mutual

theorem Expr.rewrite_keeps (f : Rewriter) : ∀ e : Expr, (e.rewrite f).Keeps e
  | .call func args keywords =>
    ((((Expr.rewrite_keeps f func).pair (Expr.rewriteAll_keeps f args)).pair
      (Keyword.rewriteEach_keeps f keywords)).map _).show_ f
  | .binary left _ right =>
    (((Expr.rewrite_keeps f left).pair (Expr.rewrite_keeps f right)).map _).show_ f
  | .unary _ operand => ((Expr.rewrite_keeps f operand).map _).show_ f
  | .logical _ values => ((Expr.rewriteAll_keeps f values).map _).show_ f
  | .compare left _ comparators =>
    (((Expr.rewrite_keeps f left).pair (Expr.rewriteAll_keeps f comparators)).map _).show_ f
  | .attribute value _ => ((Expr.rewrite_keeps f value).map _).show_ f
  | .subscript value index =>
    (((Expr.rewrite_keeps f value).pair (Expr.rewrite_keeps f index)).map _).show_ f
  | .starred value => ((Expr.rewrite_keeps f value).map _).show_ f
  | .tuple elements => ((Expr.rewriteAll_keeps f elements).map _).show_ f
  | .list elements => ((Expr.rewriteAll_keeps f elements).map _).show_ f
  | .dict keys values =>
    (((Expr.rewriteKeys_keeps f keys).pair (Expr.rewriteAll_keeps f values)).map _).show_ f
  | .formatted parts => ((Piece.rewriteEach_keeps f parts).map _).show_ f
  | .foreign _ => .fail _ _
  | .name _ | .string _ | .number _ | .truth _ | .noneLiteral | .captured .. => (Keeps.keep _).show_ f

theorem Expr.rewriteAll_keeps (f : Rewriter) : ∀ es : List Expr, (Expr.rewriteAll f es).Keeps es
  | [] => .keep []
  | e :: rest => (Expr.rewrite_keeps f e).consAll (Expr.rewriteAll_keeps f rest)

theorem Expr.rewriteKeys_keeps (f : Rewriter) :
    ∀ ks : List (Option Expr), (Expr.rewriteKeys f ks).Keeps ks
  | [] => .keep []
  | none :: rest => (Keeps.keep none).consAll (Expr.rewriteKeys_keeps f rest)
  | some e :: rest => by
    refine Keeps.consAll ?_ (Expr.rewriteKeys_keeps f rest)
    intro hcount k hk
    exact (Expr.rewrite_keeps f e).map some hcount k hk

theorem Keyword.rewriteEach_keeps (f : Rewriter) :
    ∀ ks : List Keyword, (Keyword.rewriteEach f ks).Keeps ks
  | [] => .keep []
  | .mk _ value :: rest =>
    ((Expr.rewrite_keeps f value).map _).consEach (Keyword.rewriteEach_keeps f rest)

theorem Piece.rewriteEach_keeps (f : Rewriter) :
    ∀ ps : List Piece, (Piece.rewriteEach f ps).Keeps ps
  | [] => .keep []
  | .text _ :: rest => (Keeps.keep _).consEach (Piece.rewriteEach_keeps f rest)
  | .field value _ _ :: rest =>
    ((Expr.rewrite_keeps f value).map _).consEach (Piece.rewriteEach_keeps f rest)

end

theorem Expr.rewriteOption_keeps (f : Rewriter) :
    ∀ e : Option Expr, (Expr.rewriteOption f e).Keeps e
  | none => .keep none
  | some e => (Expr.rewrite_keeps f e).map some

theorem Param.rewriteEach_keeps (f : Rewriter) :
    ∀ ps : List Param, (Param.rewriteEach f ps).Keeps ps
  | [] => .keep []
  | p :: rest =>
    (((Expr.rewriteOption_keeps f p.hint).pair (Expr.rewriteOption_keeps f p.default)).map
      _).consEach (Param.rewriteEach_keeps f rest)

theorem FunctionHead.rewrite_keeps (f : Rewriter) (h : FunctionHead) : (h.rewrite f).Keeps h :=
  (((Expr.rewriteAll_keeps f h.decorators).pair (Param.rewriteEach_keeps f h.params)).pair
    (Expr.rewriteOption_keeps f h.returns)).map _

theorem ClassHead.rewrite_keeps (f : Rewriter) (h : ClassHead) : (h.rewrite f).Keeps h :=
  (((Expr.rewriteAll_keeps f h.decorators).pair (Expr.rewriteAll_keeps f h.bases)).pair
    (Keyword.rewriteEach_keeps f h.keywords)).map _

theorem Handler.rewriteTypes_keeps (f : Rewriter) :
    ∀ hs : List Handler, (Handler.rewriteTypes f hs).Keeps (hs.map Handler.type)
  | [] => .keep []
  | .mk type _ _ :: rest =>
    (Expr.rewriteOption_keeps f type).consEach (Handler.rewriteTypes_keeps f rest)

theorem Handler.rebuild_self :
    ∀ hs : List Handler, Handler.rebuild hs (hs.map Handler.type) (hs.map Handler.body) = hs
  | [] => rfl
  | .mk type name body :: rest => by
    simp only [List.map_cons, Handler.rebuild, Handler.rebuild_self rest]
    rfl

mutual

theorem Stmt.rewriteExprs_keeps (f : Rewriter) : ∀ s : Stmt, (s.rewriteExprs f).Keeps s
  | .function head body _ =>
    ((FunctionHead.rewrite_keeps f head).pair (Stmt.rewriteBlock_keeps f body)).map _
  | .classDef head body _ =>
    ((ClassHead.rewrite_keeps f head).pair (Stmt.rewriteBlock_keeps f body)).map _
  | .assign targets value _ =>
    ((Expr.rewriteAll_keeps f targets).pair (Expr.rewrite_keeps f value)).map _
  | .ret value _ => (Expr.rewriteOption_keeps f value).map _
  | .expr value _ => (Expr.rewrite_keeps f value).map _
  | .tryExcept body handlers orelse finalbody location => by
    have h := ((((Handler.rewriteTypes_keeps f handlers).pair
      (Stmt.rewriteBlock_keeps f body)).pair (Handler.rewriteBodies_keeps f handlers)).pair
      (Stmt.rewriteBlock_keeps f orelse)).pair (Stmt.rewriteBlock_keeps f finalbody)
    have h' := h.map fun ((((types, body), bodies), orelse), finalbody) =>
      Stmt.tryExcept body (Handler.rebuild handlers types bodies) orelse finalbody location
    simp only [Handler.rebuild_self] at h'
    exact h'
  | .foreign _ => .fail _ _
  | .importNames .. | .importFrom .. | .pass _ | .captured .. => .keep _

/-- A pass over the expressions of a block that replaces none gives the block back. -/
theorem Stmt.rewriteBlock_keeps (f : Rewriter) :
    ∀ b : List Stmt, (Stmt.rewriteBlock f b).Keeps b
  | [] => .keep []
  | s :: rest => (Stmt.rewriteExprs_keeps f s).consEach (Stmt.rewriteBlock_keeps f rest)

theorem Handler.rewriteBodies_keeps (f : Rewriter) :
    ∀ hs : List Handler, (Handler.rewriteBodies f hs).Keeps (hs.map Handler.body)
  | [] => .keep []
  | .mk _ _ body :: rest =>
    (Stmt.rewriteBlock_keeps f body).consEach (Handler.rewriteBodies_keeps f rest)

end

/-! ## Statements -/

namespace Replaced

variable {α β : Type} {g : Stmt → Option (List Stmt)}

/-- The number of replacements is that of the statements shown that `g` replaces, and if there are
none the part is as it was. -/
structure Follows (g : Stmt → Option (List Stmt)) (r : Replaced α) (a : α) : Prop where
  count : r.count = r.seen.countP (g · |>.isSome)
  keeps : (∀ s ∈ r.seen, g s = none) → r.now = a

theorem Follows.leaf (a : α) (fault : Option Fault) :
    Follows g { now := a, fault : Replaced α } a := ⟨rfl, fun _ => rfl⟩

theorem Follows.map {r : Replaced α} {a : α} (make : α → β) (h : r.Follows g a) :
    (r.map make).Follows g (make a) := ⟨h.count, fun hs => congrArg make (h.keeps hs)⟩

theorem Follows.pair {r : Replaced α} {s : Replaced β} {a : α} {b : β} (h : r.Follows g a)
    (h' : s.Follows g b) : (r.pair b s).Follows g (a, b) := by
  unfold Replaced.pair
  cases r.fault with
  | some f => exact ⟨h.count, fun hs => by rw [h.keeps hs]⟩
  | none =>
    refine ⟨?_, fun hs => ?_⟩
    · simp only [h.count, h'.count, List.countP_append]
    · rw [h.keeps fun t ht => hs t (List.mem_append_left _ ht),
        h'.keeps fun t ht => hs t (List.mem_append_right _ ht)]

theorem Follows.choose {s : Stmt} {inside : Replaced Stmt} (h : inside.Follows g s) :
    (Replaced.choose (g s) s inside).Follows g [s] := by
  cases hg : g s with
  | some new => exact ⟨by simp [Replaced.choose, hg], fun hs => by simp [Replaced.choose, hg] at hs⟩
  | none =>
    refine ⟨?_, fun hs => ?_⟩
    · simp [Replaced.choose, hg, h.count]
    · change [inside.now] = [s]
      rw [h.keeps fun t ht => hs t (List.mem_cons_of_mem _ ht)]

/-- What a pass leaves if it ends well satisfies `P`. -/
def Leaves (r : Replaced α) (P : α → Prop) : Prop := r.fault = none → P r.now

theorem Leaves.map {r : Replaced α} {P : α → Prop} {Q : β → Prop} {make : α → β} (h : r.Leaves P)
    (hmake : ∀ a, P a → Q (make a)) : (r.map make).Leaves Q := fun hfault => hmake r.now (h hfault)

theorem Leaves.pair {r : Replaced α} {s : Replaced β} {P : α → Prop} {Q : β → Prop} {b : β}
    (h : r.Leaves P) (h' : s.Leaves Q) : (r.pair b s).Leaves fun x => P x.1 ∧ Q x.2 := by
  unfold Replaced.pair
  cases hr : r.fault with
  | some f => intro hfault; cases hfault
  | none => exact fun hfault => ⟨h hr, h' hfault⟩

end Replaced

open Replaced (Follows)

mutual

theorem Stmt.replace_follows (g : Stmt → Option (List Stmt)) :
    ∀ s : Stmt, (s.replace g).Follows g [s]
  | .function head body location =>
    ((Stmt.replaceBlock_follows g body).map (Stmt.function head · location)).choose
  | .classDef head body location =>
    ((Stmt.replaceBlock_follows g body).map (Stmt.classDef head · location)).choose
  | .tryExcept body handlers orelse finalbody location => by
    have h := (((Stmt.replaceBlock_follows g body).pair
      (Handler.replaceBodies_follows g handlers)).pair
      (Stmt.replaceBlock_follows g orelse)).pair (Stmt.replaceBlock_follows g finalbody)
    have h' := h.map fun (((body, bodies), orelse), finalbody) =>
      Stmt.tryExcept body (Handler.rebuild handlers (handlers.map Handler.type) bodies) orelse
        finalbody location
    simp only [Handler.rebuild_self] at h'
    exact h'.choose
  | .foreign _ | .importNames .. | .importFrom .. | .assign .. | .ret .. | .pass _ | .expr ..
  | .captured .. => (Follows.leaf _ _).choose

/-- What a pass over the statements of a block shows to `g`, counts and keeps. -/
theorem Stmt.replaceBlock_follows (g : Stmt → Option (List Stmt)) :
    ∀ b : List Stmt, (Stmt.replaceBlock g b).Follows g b
  | [] => .leaf _ _
  | s :: rest => ((Stmt.replace_follows g s).pair (Stmt.replaceBlock_follows g rest)).map _

theorem Handler.replaceBodies_follows (g : Stmt → Option (List Stmt)) :
    ∀ hs : List Handler, (Handler.replaceBodies g hs).Follows g (hs.map Handler.body)
  | [] => .leaf _ _
  | .mk _ _ body :: rest =>
    ((Stmt.replaceBlock_follows g body).pair (Handler.replaceBodies_follows g rest)).map _

end

/-- A pass over the statements of a block that replaces none gives the block back. -/
theorem Stmt.replaceBlock_keeps (g : Stmt → Option (List Stmt)) (b : List Stmt)
    (h : (Stmt.replaceBlock g b).count = 0) : (Stmt.replaceBlock g b).now = b := by
  have follows := Stmt.replaceBlock_follows g b
  apply follows.keeps
  intro s hs
  rw [follows.count, List.countP_eq_zero] at h
  simpa using h s hs

end Refactory
