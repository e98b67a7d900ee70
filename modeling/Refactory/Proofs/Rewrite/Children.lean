import Refactory.Proofs.Modernize.Splice
import Refactory.Proofs.Tree.Content
import Refactory.Proofs.Tree.Paths
import Refactory.Proofs.Rewrite.Congruence

/-! # Passes by surface and children

What a pass does to a statement is what it does to its surface and, as one block, to its children
(`Stmt.replace_none`, `Stmt.rewriteExprs_children`, `Stmt.splice_children`). So a proof about a pass can
go by induction on the children of statements, whatever blocks they stand in. -/

namespace Refactory

/-! ## Handlers -/

/-- The type and the name of a handler. -/
def Handler.surface (h : Handler) : Handler := .mk h.type h.name []

theorem Handler.surface_eq {hs hs' : List Handler} (htypes : hs.map Handler.type = hs'.map Handler.type)
    (hnames : hs.map Handler.name = hs'.map Handler.name) :
    hs.map Handler.surface = hs'.map Handler.surface := by
  induction hs generalizing hs' with
  | nil => cases hs' with
    | nil => rfl
    | cons h hs' => cases htypes
  | cons h hs ih =>
    cases hs' with
    | nil => cases htypes
    | cons h' hs' =>
      rw [List.map_cons, List.map_cons, List.cons.injEq] at htypes hnames
      rw [List.map_cons, List.map_cons, ih htypes.2 hnames.2, Handler.surface, Handler.surface,
        htypes.1, hnames.1]

theorem Handler.rebuild_surface {hs : List Handler} {types : List (Option Expr)}
    {bodies : List Block} (htypes : types.length = hs.length) (hbodies : bodies.length = hs.length) :
    Handler.rebuild (hs.map Handler.surface) types (hs.map fun _ => []) =
      (Handler.rebuild hs types bodies).map Handler.surface := by
  induction hs generalizing types bodies with
  | nil => simp [Handler.rebuild]
  | cons handler hs ih =>
    obtain ⟨t, ts, rfl⟩ := List.exists_cons_of_length_eq_add_one htypes
    obtain ⟨b, bs, rfl⟩ := List.exists_cons_of_length_eq_add_one hbodies
    obtain ⟨type, name, body⟩ := handler
    rw [List.map_cons, List.map_cons, Handler.surface, Handler.rebuild, Handler.rebuild,
      ih (Nat.succ.inj htypes) (Nat.succ.inj hbodies)]
    rfl

/-! ## Statements that are replaced -/

section

variable {α β : Type} {g : Stmt → Option (List Stmt)}

theorem Replaced.pair_fault (r : Replaced α) (b : β) (s : Replaced β) :
    (r.pair b s).fault = r.fault.or s.fault := by
  unfold Replaced.pair
  cases r.fault <;> rfl

theorem Replaced.pair_now {r : Replaced α} (h : r.fault = none) (b : β) (s : Replaced β) :
    (r.pair b s).now = (r.now, s.now) := by
  unfold Replaced.pair
  rw [h]

theorem Stmt.replaceBlock_cons (s : Stmt) (b : List Stmt) :
    (Stmt.replaceBlock g (s :: b)).fault = (s.replace g).fault.or (Stmt.replaceBlock g b).fault ∧
      ((s.replace g).fault = none →
        (Stmt.replaceBlock g (s :: b)).now = (s.replace g).now ++ (Stmt.replaceBlock g b).now) := by
  rw [Stmt.replaceBlock, Replaced.map]
  exact ⟨Replaced.pair_fault .., fun h => by rw [Replaced.pair_now h]⟩

/-- A pass over two blocks in a row is one over the first and then one over the second. -/
theorem Stmt.replaceBlock_concat (b c : List Stmt) :
    Stmt.replaceBlock g (b ++ c) =
      ((Stmt.replaceBlock g b).pair c (Stmt.replaceBlock g c)).map fun (b, c) => b ++ c := by
  induction b with
  | nil => simp [Stmt.replaceBlock, Replaced.pair, Replaced.map]
  | cons s b ih =>
    rw [List.cons_append, Stmt.replaceBlock, ih, Stmt.replaceBlock]
    unfold Replaced.pair
    cases (s.replace g).fault with
    | some f => simp [Replaced.map]
    | none =>
      simp only [Replaced.map]
      cases (Stmt.replaceBlock g b).fault <;> simp [Nat.add_assoc]

theorem Stmt.replaceBlock_append (b c : List Stmt) :
    (Stmt.replaceBlock g (b ++ c)).fault =
        (Stmt.replaceBlock g b).fault.or (Stmt.replaceBlock g c).fault ∧
      ((Stmt.replaceBlock g b).fault = none →
        (Stmt.replaceBlock g (b ++ c)).now =
          (Stmt.replaceBlock g b).now ++ (Stmt.replaceBlock g c).now) := by
  rw [Stmt.replaceBlock_concat, Replaced.map]
  exact ⟨Replaced.pair_fault .., fun h => by rw [Replaced.pair_now h]⟩

theorem Handler.replaceBodies_children (hs : List Handler) :
    (Handler.replaceBodies g hs).fault =
        (Stmt.replaceBlock g (hs.map Handler.body).flatten).fault ∧
      ((Handler.replaceBodies g hs).fault = none →
        (Handler.replaceBodies g hs).now.length = hs.length ∧
          (Handler.replaceBodies g hs).now.flatten =
            (Stmt.replaceBlock g (hs.map Handler.body).flatten).now) := by
  induction hs with
  | nil => exact ⟨rfl, fun _ => ⟨rfl, rfl⟩⟩
  | cons handler hs ih =>
    obtain ⟨type, name, body⟩ := handler
    obtain ⟨hfault, hnow⟩ :=
      Stmt.replaceBlock_append (g := g) body (hs.map Handler.body).flatten
    rw [Handler.replaceBodies, Replaced.map, List.map_cons, List.flatten_cons, Handler.body, hfault,
      Replaced.pair_fault, ih.1]
    refine ⟨rfl, fun h => ?_⟩
    obtain ⟨hbody, hrest⟩ := Option.or_eq_none_iff.1 h
    obtain ⟨hlength, hflat⟩ := ih.2 (ih.1.trans hrest)
    rw [Replaced.pair_now hbody, hnow hbody, ← hflat]
    exact ⟨congrArg (· + 1) hlength, rfl⟩

theorem Stmt.replace_some {s : Stmt} {new : List Stmt} (h : g s = some new) :
    s.replace g = { now := new, seen := [s], count := 1 } := by
  cases s <;> rw [Stmt.replace, h] <;> rfl

/-- A statement that is not replaced keeps its surface, and its children are replaced. -/
theorem Stmt.replace_none {s : Stmt} (hnode : s.isNode = true) (h : g s = none) :
    (s.replace g).fault = (Stmt.replaceBlock g s.children).fault ∧
      ((s.replace g).fault = none → ∃ s', (s.replace g).now = [s'] ∧ s'.surface = s.surface ∧
        s'.children = (Stmt.replaceBlock g s.children).now) := by
  cases s with
  | function head body location =>
    rw [Stmt.replace, h, Stmt.children, Stmt.blocks, List.flatten_singleton]
    exact ⟨rfl, fun _ => ⟨_, rfl, rfl, List.flatten_singleton⟩⟩
  | classDef head body location =>
    rw [Stmt.replace, h, Stmt.children, Stmt.blocks, List.flatten_singleton]
    exact ⟨rfl, fun _ => ⟨_, rfl, rfl, List.flatten_singleton⟩⟩
  | tryExcept body handlers orelse finalbody location =>
    obtain ⟨hhandlers, hbodies⟩ := Handler.replaceBodies_children (g := g) handlers
    have hchildren : (Stmt.tryExcept body handlers orelse finalbody location).children =
        body ++ ((handlers.map Handler.body).flatten ++ (orelse ++ finalbody)) := by
      simp [Stmt.children, Stmt.blocks]
    rw [Stmt.replace, h, hchildren]
    change (Replaced.pair _ _ _).fault = _ ∧ ((Replaced.pair _ _ _).fault = none → _)
    rw [Replaced.pair_fault, Replaced.pair_fault, Replaced.pair_fault, (Stmt.replaceBlock_append _ _).1,
      (Stmt.replaceBlock_append _ _).1, (Stmt.replaceBlock_append _ _).1, hhandlers, Option.or_assoc,
      Option.or_assoc]
    refine ⟨rfl, fun hfault => ?_⟩
    obtain ⟨hb, hfault⟩ := Option.or_eq_none_iff.1 hfault
    obtain ⟨hh, hfault⟩ := Option.or_eq_none_iff.1 hfault
    obtain ⟨ho, hf⟩ := Option.or_eq_none_iff.1 hfault
    obtain ⟨hlength, hflat⟩ := hbodies (hhandlers.trans hh)
    have htypes : (handlers.map Handler.type).length = handlers.length := List.length_map _
    obtain ⟨ht, hn⟩ := Handler.rebuild_names htypes hlength
    rw [Replaced.choose, Replaced.map, Replaced.pair_now, Replaced.pair_now, Replaced.pair_now hb]
    · refine ⟨_, rfl, congrArg (Stmt.tryExcept [] · [] [] location) (Handler.surface_eq ht hn), ?_⟩
      rw [(Stmt.replaceBlock_append _ _).2 hb, (Stmt.replaceBlock_append _ _).2 hh,
        (Stmt.replaceBlock_append _ _).2 ho, ← hflat]
      simp [Stmt.children, Stmt.blocks, Handler.rebuild_bodies htypes hlength]
    · rw [Replaced.pair_fault, hb, hhandlers, hh]
      rfl
    · rw [Replaced.pair_fault, Replaced.pair_fault, hb, hhandlers, hh, ho]
      rfl
  | foreign kind => cases hnode
  | _ =>
    rw [Stmt.replace, h]
    exact ⟨rfl, fun _ => ⟨_, rfl, rfl, rfl⟩⟩

end

/-! ## Expressions that are rewritten -/

section

variable {α β : Type} {f : Rewriter}

theorem Visit.map_ok {v : Visit α} {make : α → β} {b : β} :
    (v.map make).result = .ok b ↔ ∃ a, v.result = .ok a ∧ make a = b := by
  rw [Visit.map]
  cases v.result <;> simp [Except.map]

theorem Visit.pair_ok {v : Visit α} {b : β} {w : Visit β} {x : α × β} :
    (v.pair b w).result = .ok x ↔ v.result = .ok x.1 ∧ w.result = .ok x.2 := by
  rw [Visit.pair]
  obtain ⟨a, c⟩ := x
  cases v.result with
  | error fault => simp
  | ok a' => cases w.result <;> simp [Except.map]

theorem Visit.consEach_ok {v : Visit α} {as : List α} {w : Visit (List α)} {bs : List α} :
    (v.consEach as w).result = .ok bs ↔
      ∃ b rest, v.result = .ok b ∧ w.result = .ok rest ∧ bs = b :: rest := by
  rw [Visit.consEach, Visit.map_ok]
  constructor
  · rintro ⟨⟨b, rest⟩, h, rfl⟩
    obtain ⟨hb, hrest⟩ := Visit.pair_ok.1 h
    exact ⟨b, rest, hb, hrest, rfl⟩
  · rintro ⟨b, rest, hb, hrest, rfl⟩
    exact ⟨(b, rest), Visit.pair_ok.2 ⟨hb, hrest⟩, rfl⟩

theorem Stmt.rewriteBlock_append {b c d : List Stmt} :
    (Stmt.rewriteBlock f (b ++ c)).result = .ok d ↔
      ∃ b' c', (Stmt.rewriteBlock f b).result = .ok b' ∧ (Stmt.rewriteBlock f c).result = .ok c' ∧
        d = b' ++ c' := by
  induction b generalizing d with
  | nil => simp [Stmt.rewriteBlock, Visit.keep]
  | cons s b ih =>
    rw [List.cons_append, Stmt.rewriteBlock, Stmt.rewriteBlock, Visit.consEach_ok]
    constructor
    · rintro ⟨s', rest, hs, hrest, rfl⟩
      obtain ⟨b', c', hb, hc, rfl⟩ := ih.1 hrest
      exact ⟨s' :: b', c', Visit.consEach_ok.2 ⟨s', b', hs, hb, rfl⟩, hc, rfl⟩
    · rintro ⟨_, c', hcons, hc, rfl⟩
      obtain ⟨s', b', hs, hb, rfl⟩ := Visit.consEach_ok.1 hcons
      exact ⟨s', b' ++ c', hs, ih.2 ⟨b', c', hb, hc, rfl⟩, rfl⟩

theorem Handler.rewriteBodies_children {hs : List Handler} {bodies : List Block}
    (h : (Handler.rewriteBodies f hs).result = .ok bodies) : bodies.length = hs.length ∧
      (Stmt.rewriteBlock f (hs.map Handler.body).flatten).result = .ok bodies.flatten := by
  induction hs generalizing bodies with
  | nil =>
    cases h
    exact ⟨rfl, rfl⟩
  | cons handler hs ih =>
    obtain ⟨type, name, body⟩ := handler
    rw [Handler.rewriteBodies, Visit.consEach_ok] at h
    obtain ⟨body', rest, hbody, hrest, rfl⟩ := h
    obtain ⟨hlength, hflat⟩ := ih hrest
    exact ⟨congrArg (· + 1) hlength,
      Stmt.rewriteBlock_append.2 ⟨body', rest.flatten, hbody, hflat, rfl⟩⟩

theorem Handler.rewriteTypes_surface (hs : List Handler) :
    Handler.rewriteTypes f (hs.map Handler.surface) = Handler.rewriteTypes f hs := by
  induction hs with
  | nil => rfl
  | cons handler hs ih =>
    obtain ⟨type, name, body⟩ := handler
    rw [List.map_cons, Handler.surface, Handler.rewriteTypes, ih, Handler.rewriteTypes, List.map_map]
    rfl

theorem Handler.rewriteBodies_surface (hs : List Handler) :
    (Handler.rewriteBodies f (hs.map Handler.surface)).result = .ok (hs.map fun _ => []) := by
  induction hs with
  | nil => rfl
  | cons handler hs ih => exact Visit.consEach_ok.2 ⟨[], _, rfl, ih, rfl⟩

/-- Rewriting the expressions of a statement rewrites those of its surface and of its children. -/
theorem Stmt.rewriteExprs_children {s s' : Stmt} (h : (s.rewriteExprs f).result = .ok s') :
    (s.surface.rewriteExprs f).result = .ok s'.surface ∧
      (Stmt.rewriteBlock f s.children).result = .ok s'.children := by
  cases s with
  | function head body location =>
    rw [Stmt.rewriteExprs, Visit.map_ok] at h
    obtain ⟨⟨head', body'⟩, h, rfl⟩ := h
    obtain ⟨hhead, hbody⟩ := Visit.pair_ok.1 h
    refine ⟨Visit.map_ok.2 ⟨(head', []), Visit.pair_ok.2 ⟨hhead, rfl⟩, rfl⟩, ?_⟩
    rw [Stmt.children, Stmt.children, Stmt.blocks, Stmt.blocks, List.flatten_singleton,
      List.flatten_singleton]
    exact hbody
  | classDef head body location =>
    rw [Stmt.rewriteExprs, Visit.map_ok] at h
    obtain ⟨⟨head', body'⟩, h, rfl⟩ := h
    obtain ⟨hhead, hbody⟩ := Visit.pair_ok.1 h
    refine ⟨Visit.map_ok.2 ⟨(head', []), Visit.pair_ok.2 ⟨hhead, rfl⟩, rfl⟩, ?_⟩
    rw [Stmt.children, Stmt.children, Stmt.blocks, Stmt.blocks, List.flatten_singleton,
      List.flatten_singleton]
    exact hbody
  | tryExcept body handlers orelse finalbody location =>
    rw [Stmt.rewriteExprs, Visit.map_ok] at h
    obtain ⟨⟨⟨⟨⟨types, body'⟩, bodies⟩, orelse'⟩, finalbody'⟩, h, rfl⟩ := h
    simp only [Visit.pair_ok] at h
    obtain ⟨⟨⟨⟨htypes, hbody⟩, hbodies⟩, horelse⟩, hfinal⟩ := h
    obtain ⟨hlength, hflat⟩ := Handler.rewriteBodies_children hbodies
    have htypes' := Handler.rewriteTypes_length f handlers types htypes
    constructor
    · refine Visit.map_ok.2 ⟨((((types, []), handlers.map fun _ => []), []), []), ?_, ?_⟩
      · simp only [Visit.pair_ok]
        refine ⟨⟨⟨⟨?_, rfl⟩, Handler.rewriteBodies_surface handlers⟩, rfl⟩, rfl⟩
        exact (congrArg Visit.result (Handler.rewriteTypes_surface handlers)).trans htypes
      · exact congrArg (Stmt.tryExcept [] · [] [] location)
          (Handler.rebuild_surface htypes' hlength)
    · have hchildren : ∀ (b o e : Block) (hs : List Handler),
          (Stmt.tryExcept b hs o e location).children =
            b ++ ((hs.map Handler.body).flatten ++ (o ++ e)) := by
        intro b o e hs
        simp [Stmt.children, Stmt.blocks]
      rw [hchildren, hchildren, Handler.rebuild_bodies htypes' hlength]
      exact Stmt.rewriteBlock_append.2 ⟨_, _, hbody, Stmt.rewriteBlock_append.2 ⟨_, _, hflat,
        Stmt.rewriteBlock_append.2 ⟨_, _, horelse, hfinal, rfl⟩, rfl⟩, rfl⟩
  | foreign kind => cases h
  | assign targets value location =>
    obtain ⟨_, -, rfl⟩ := Visit.map_ok.1 h
    exact ⟨h, rfl⟩
  | ret value location =>
    obtain ⟨_, -, rfl⟩ := Visit.map_ok.1 h
    exact ⟨h, rfl⟩
  | expr value location =>
    obtain ⟨_, -, rfl⟩ := Visit.map_ok.1 h
    exact ⟨h, rfl⟩
  | _ =>
    cases h
    exact ⟨rfl, rfl⟩

end

/-! ## Imports that are spliced in -/

section

variable {isIt : Stmt → Bool}

theorem Handler.spliceEach_children (news : List (List Stmt)) (hs : List Handler) :
    (Handler.spliceEach isIt news hs).1.map Handler.surface = hs.map Handler.surface ∧
      ((Handler.spliceEach isIt news hs).1.map Handler.body).flatten =
        (Stmt.spliceBlock isIt news (hs.map Handler.body).flatten).1 ∧
      (Handler.spliceEach isIt news hs).2 =
        (Stmt.spliceBlock isIt news (hs.map Handler.body).flatten).2 := by
  induction hs generalizing news with
  | nil => exact ⟨rfl, rfl, rfl⟩
  | cons handler hs ih =>
    obtain ⟨type, name, body⟩ := handler
    obtain ⟨hsurface, hbodies, hnews⟩ := ih (Stmt.spliceBlock isIt news body).2
    simp only [Handler.spliceEach, List.map_cons, List.flatten_cons, Handler.body,
      Stmt.spliceBlock_append, hsurface, hbodies, hnews]
    exact ⟨congrArg (· :: _) rfl, trivial, trivial⟩

/-- A splice of imports keeps the surface of other statements and goes on with their children. -/
theorem Stmt.splice_children (hisIt : ∀ s, isIt s = true → s.isImport = true)
    (news : List (List Stmt)) {s : Stmt} (hs : s.isImport = false) :
    ∃ s', s.splice isIt news = ([s'], (Stmt.spliceBlock isIt news s.children).2) ∧
      s'.surface = s.surface ∧ s'.children = (Stmt.spliceBlock isIt news s.children).1 := by
  cases s with
  | function head body location =>
    rw [Stmt.children, Stmt.blocks, List.flatten_singleton]
    exact ⟨_, rfl, rfl, List.flatten_singleton⟩
  | classDef head body location =>
    rw [Stmt.children, Stmt.blocks, List.flatten_singleton]
    exact ⟨_, rfl, rfl, List.flatten_singleton⟩
  | tryExcept body handlers orelse finalbody location =>
    obtain ⟨hsurface, hbodies, hnews⟩ :=
      @Handler.spliceEach_children isIt (Stmt.spliceBlock isIt news body).2 handlers
    have hchildren : (Stmt.tryExcept body handlers orelse finalbody location).children =
        body ++ ((handlers.map Handler.body).flatten ++ (orelse ++ finalbody)) := by
      simp [Stmt.children, Stmt.blocks]
    refine ⟨_, Prod.ext rfl ?_, congrArg (Stmt.tryExcept [] · [] [] location) hsurface, ?_⟩
    · simp only [Stmt.splice, hchildren, Stmt.spliceBlock_append, hnews]
    · simp only [hchildren, Stmt.spliceBlock_append, ← hbodies, ← hnews]
      simp [Stmt.children, Stmt.blocks]
  | importNames names location => cases hs
  | importFrom module names level location => cases hs
  | _ => exact ⟨_, Stmt.splice_plain hisIt rfl rfl news, rfl, rfl⟩

end

end Refactory
