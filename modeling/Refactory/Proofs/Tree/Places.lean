import Refactory.Proofs.Tree.Paths

/-! # Trees of one shape

Two statements hold the same places if they are of the same kind, with the same name and location, and
their children do in turn (`Stmt.SamePlaces`). Their expressions can differ, and the sources of imports.
The same paths lead into both (`Block.SamePlaces.follow`), and a walk meets them in the same order
(`Stmt.SamePlaces.walkAt`), so the same references are found in either tree (`Module.findNodes_same`). -/

namespace Refactory

/-- Statements of one kind, name and location, whose children hold the same places in turn. -/
inductive Stmt.SamePlaces : Stmt → Stmt → Prop
  | mk {s s' : Stmt} (kind : s'.kind = s.kind) (name : s'.name? = s.name?)
    (location : s'.location = s.location) (children : List.Forall₂ SamePlaces s.children s'.children) :
    SamePlaces s s'

/-- Blocks whose statements hold the same places one by one. -/
def Block.SamePlaces (b b' : Block) : Prop := List.Forall₂ Stmt.SamePlaces b b'

namespace Stmt.SamePlaces

theorem refl (s : Stmt) : s.SamePlaces s := by
  induction s using Stmt.induct_children with
  | h s ih => exact .mk rfl rfl rfl (List.forall₂_same.2 ih)

/-- Statements with one block each. -/
theorem block {s s' : Stmt} {body body' : Block} (kind : s'.kind = s.kind) (name : s'.name? = s.name?)
    (location : s'.location = s.location) (hs : s.blocks = [body]) (hs' : s'.blocks = [body'])
    (h : body.SamePlaces body') : s.SamePlaces s' := by
  refine .mk kind name location ?_
  rw [Stmt.children, Stmt.children, hs, hs', List.flatten_singleton, List.flatten_singleton]
  exact h

theorem kind {s s' : Stmt} (h : s.SamePlaces s') : s'.kind = s.kind := by
  obtain ⟨hkind, -, -, -⟩ := h
  exact hkind

theorem trans {s t u : Stmt} (h : s.SamePlaces t) (h' : t.SamePlaces u) : s.SamePlaces u := by
  induction s using Stmt.induct_children generalizing t u with
  | h s ih =>
    obtain ⟨hkind, hname, hlocation, hchildren⟩ := h
    obtain ⟨hkind', hname', hlocation', hchildren'⟩ := h'
    refine .mk (hkind'.trans hkind) (hname'.trans hname) (hlocation'.trans hlocation) ?_
    refine List.forall₂_iff_get.2 ⟨hchildren.length_eq.trans hchildren'.length_eq, fun i hs hu => ?_⟩
    exact ih _ (List.get_mem ..) (hchildren.get hs (hchildren.length_eq ▸ hs))
      (hchildren'.get (hchildren.length_eq ▸ hs) hu)

theorem children {s s' : Stmt} (h : s.SamePlaces s') : Block.SamePlaces s.children s'.children := by
  obtain ⟨-, -, -, hchildren⟩ := h
  exact hchildren

/-- A reference to one is a reference to the other. -/
theorem ref {s s' : Stmt} (h : s.SamePlaces s') (path : Path) : Ref.of path s' = Ref.of path s := by
  obtain ⟨hkind, hname, hlocation, -⟩ := h
  rw [Ref.of, Ref.of, hkind, hname, hlocation]

theorem isNode {s s' : Stmt} (h : s.SamePlaces s') : s'.isNode = s.isNode := by
  have hnode : ∀ t : Stmt, t.isNode = t.kind.isOk := fun t => by cases t <;> rfl
  rw [hnode, hnode, h.kind]

end Stmt.SamePlaces

theorem Block.SamePlaces.refl (b : Block) : b.SamePlaces b :=
  List.forall₂_same.2 fun s _ => .refl s

theorem Block.SamePlaces.trans {b c d : Block} (h : b.SamePlaces c) (h' : c.SamePlaces d) :
    b.SamePlaces d := by
  refine List.forall₂_iff_get.2 ⟨h.length_eq.trans h'.length_eq, fun i hb hd => ?_⟩
  exact (h.get hb (h.length_eq ▸ hb)).trans (h'.get (h.length_eq ▸ hb) hd)

/-! ## Paths -/

theorem Block.SamePlaces.child? {b b' : Block} (h : b.SamePlaces b') {step : Int} {s : Stmt}
    (hs : b.child? step = some s) : ∃ s', b'.child? step = some s' ∧ s.SamePlaces s' := by
  obtain ⟨i, rfl, hs⟩ := Block.child?_eq_some.1 hs
  obtain ⟨hi, rfl⟩ := List.getElem?_eq_some_iff.1 hs
  have hi' : i < b'.length := h.length_eq ▸ hi
  exact ⟨b'[i], Block.child?_eq_some.2 ⟨i, rfl, List.getElem?_eq_getElem hi'⟩, h.get hi hi'⟩

theorem Stmt.SamePlaces.descend {s s' t : Stmt} (h : s.SamePlaces s') {path : Path}
    (ht : s.descend path = some t) : ∃ t', s'.descend path = some t' ∧ t.SamePlaces t' := by
  induction path generalizing s s' with
  | nil =>
    cases ht
    exact ⟨s', rfl, h⟩
  | cons step rest ih =>
    obtain ⟨c, hc, ht⟩ := Option.bind_eq_some_iff.1 ht
    obtain ⟨c', hc', hsame⟩ := h.children.child? hc
    obtain ⟨t', ht', htt'⟩ := ih hsame ht
    exact ⟨t', Option.bind_eq_some_iff.2 ⟨c', hc', ht'⟩, htt'⟩

/-- A path leads to statements that hold the same places. -/
theorem Block.SamePlaces.follow {b b' : Block} (h : b.SamePlaces b') {path : Path} {t : Stmt}
    (ht : Block.follow b path = some t) : ∃ t', Block.follow b' path = some t' ∧ t.SamePlaces t' := by
  cases path with
  | nil => cases ht
  | cons step rest =>
    obtain ⟨c, hc, ht⟩ := Option.bind_eq_some_iff.1 ht
    obtain ⟨c', hc', hsame⟩ := h.child? hc
    obtain ⟨t', ht', htt'⟩ := hsame.descend ht
    exact ⟨t', Option.bind_eq_some_iff.2 ⟨c', hc', ht'⟩, htt'⟩

/-! ## Walks -/

/-- Two walks end alike and meet statements that the same references lead to. -/
structure Walk.SameRefs (w w' : Walk (Path × Stmt)) : Prop where
  fault : w'.fault = w.fault
  refs : w'.items.map (fun i => Ref.of i.1 i.2) = w.items.map fun i => Ref.of i.1 i.2

namespace Walk.SameRefs

variable {v v' w w' : Walk (Path × Stmt)}

theorem append (h : v.SameRefs v') (h' : w.SameRefs w') : (v.append w).SameRefs (v'.append w') := by
  unfold Walk.append
  rw [h.fault]
  cases v.fault with
  | some f => exact h
  | none => exact ⟨h'.fault, by rw [List.map_append, List.map_append, h.refs, h'.refs]⟩

theorem cons {path : Path} {s s' : Stmt} (hs : s.SamePlaces s') (h : w.SameRefs w') :
    (Walk.cons (path, s) w).SameRefs (Walk.cons (path, s') w') := by
  refine ⟨h.fault, ?_⟩
  rw [Walk.cons, Walk.cons, List.map_cons, List.map_cons, h.refs, hs.ref]

theorem block {b b' : List Stmt} (h : Block.SamePlaces b b')
    (hwalk : ∀ c ∈ b, ∀ c' : Stmt, c.SamePlaces c' → ∀ path, (c.walkAt path).SameRefs (c'.walkAt path))
    (path : Path) (first : Nat) :
    (Stmt.walkBlock path first b).SameRefs (Stmt.walkBlock path first b') := by
  induction h generalizing first with
  | nil => exact ⟨rfl, rfl⟩
  | cons hs _ ih =>
    rw [List.forall_mem_cons] at hwalk
    exact (hwalk.1 _ hs _).append (ih hwalk.2 (first + 1))

end Walk.SameRefs

/-- A walk from either of two statements that hold the same places meets the same. -/
theorem Stmt.SamePlaces.walkAt {s s' : Stmt} (h : s.SamePlaces s') (path : Path) :
    (s.walkAt path).SameRefs (s'.walkAt path) := by
  induction s using Stmt.induct_children generalizing s' path with
  | h s ih =>
  have hnode := h.isNode
  cases hs : s.isNode with
  | true =>
    rw [Stmt.walkAt_eq path hs, Stmt.walkAt_eq path (hnode.trans hs)]
    exact .cons h (.block h.children (fun c hc c' hsame path => ih c hc hsame path) path 0)
  | false =>
    cases s with
    | foreign kind =>
      cases s' with
      | foreign kind' =>
        cases h.kind
        exact ⟨rfl, rfl⟩
      | _ => cases hnode
    | _ => cases hs

namespace Module

variable {m m' : Module}

theorem walk_same (h : Block.SamePlaces m.body m'.body) : m.walk.SameRefs m'.walk :=
  .block h (fun _ _ _ hsame path => hsame.walkAt path) [] 0

/-- The same references are found in modules that hold the same places. -/
theorem findNodes_same (h : Block.SamePlaces m.body m'.body) (kind : Option NodeKind) :
    findNodes m' kind = findNodes m kind := by
  have hmapM : ∀ items : List (Path × Stmt),
      items.mapM (fun i => Ref.of i.1 i.2) = (items.map fun i => Ref.of i.1 i.2).mapM id :=
    fun items => (List.mapM_map (f := fun i : Path × Stmt => Ref.of i.1 i.2) (g := id)).symm
  have hcollect : m'.walk.collect (fun i => Ref.of i.1 i.2) =
      m.walk.collect fun i => Ref.of i.1 i.2 := by
    rw [Walk.collect, Walk.collect, hmapM, hmapM, (walk_same h).refs, Walk.finish, Walk.finish,
      (walk_same h).fault]
  exact congrArg (· >>= fun refs => .ok (refs.filter fun r => kind.all (· == r.kind))) hcollect

theorem isNode_same (h : Block.SamePlaces m.body m'.body)
    (hm : ∀ s ∈ Stmt.nodesIn m.body, s.isNode = true) : ∀ s ∈ Stmt.nodesIn m'.body, s.isNode = true := by
  have hfault : m'.walk.fault = none := (walk_same h).fault.trans (walk_fault hm)
  exact (Stmt.walkBlock_meets [] 0 m'.body).fault.1 hfault

end Module

end Refactory
