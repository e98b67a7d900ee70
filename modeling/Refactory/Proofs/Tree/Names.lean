import Refactory.Proofs.Rewrite.Perform
import Refactory.Proofs.Rewrite.Settle
import Refactory.Proofs.Tree.Content
import Refactory.Query

/-! # Names in use

A module has used names if every statement is sound, and they are those that some statement mentions
(`usedNames_ok`, `usedNames_of_sound`). Neither depends on imports. -/

namespace Refactory

/-- A statement is a node, and a walk over the expressions that it holds itself ends well. -/
structure Stmt.Sound (s : Stmt) : Prop where
  isNode : s.isNode = true
  exprs : ∀ e ∈ s.exprs, e.All (·.isSound = true)

/-- The words of the source text that a statement is captured with. -/
def Stmt.capturedWords : Stmt → List Text
  | .captured _ source _ => (source.getD []).asciiWords
  | _ => []

/-- A statement refers to a name itself: in its expressions, in what it lists or quotes, or in the
source text that it is captured with. -/
def Stmt.Mentions (x : Text) (s : Stmt) : Prop :=
  (∃ e ∈ s.exprs, ∃ n : Expr, n.Within e ∧ x ∈ n.mentions) ∨ x ∈ s.quotedUses ∨ x ∈ s.capturedWords

/-- All statements of a module are sound. -/
def Module.Sound (m : Module) : Prop := ∀ s ∈ Stmt.nodesIn m.body, s.Sound

/-- Some statement of a module refers to a name. -/
def Module.Uses (m : Module) (x : Text) : Prop := ∃ s ∈ Stmt.nodesIn m.body, s.Mentions x

/-! ## Walks over the expressions of a statement -/

theorem Stmt.walkExprs_covers (s : Stmt) :
    s.walkExprs.Covers fun n => ∃ e ∈ s.exprs, n.Within e :=
  Walk.Covers.concat fun e _ => e.walk_covers

theorem Stmt.walkExprs_all {s : Stmt} {exprs : List Expr} (h : s.walkExprs.all = .ok exprs) :
    (∀ e ∈ s.exprs, e.All (·.isSound = true)) ∧
      ∀ n, n ∈ exprs ↔ ∃ e ∈ s.exprs, n.Within e := by
  obtain ⟨hfault, rfl⟩ := Walk.all_ok.1 h
  exact ⟨fun e he n hn => s.walkExprs_covers.fault.1 hfault n ⟨e, he, hn⟩,
    s.walkExprs_covers.items hfault⟩

theorem Stmt.walkExprs_of_sound {s : Stmt} (h : ∀ e ∈ s.exprs, e.All (·.isSound = true)) :
    ∃ exprs, s.walkExprs.all = .ok exprs :=
  ⟨_, Walk.all_ok.2 ⟨s.walkExprs_covers.fault.2 fun n ⟨e, he, hn⟩ => h e he n hn, rfl⟩⟩

/-! ## Statements -/

theorem Stmt.uses_ok {s : Stmt} {names : List Text} (h : s.uses = .ok names) :
    (∀ e ∈ s.exprs, e.All (·.isSound = true)) ∧ ∀ x, x ∈ names ↔ s.Mentions x := by
  unfold Stmt.uses at h
  split at h
  · cases h
    simp [Stmt.Mentions, Stmt.exprs, Stmt.quotedUses, Stmt.capturedWords]
  · rename_i hcaptured
    have hwords : s.capturedWords = [] := by
      cases s with
      | captured kind source location => exact (hcaptured _ _ _ rfl).elim
      | _ => rfl
    cases hexprs : s.walkExprs.all with
    | error f => simp [hexprs, bind, Except.bind] at h
    | ok exprs =>
      obtain ⟨hsound, hmem⟩ := Stmt.walkExprs_all hexprs
      simp only [hexprs, bind, Except.bind] at h
      cases h
      refine ⟨hsound, fun x => ?_⟩
      simp only [List.mem_append, List.mem_flatMap, hmem, Stmt.Mentions, hwords, List.not_mem_nil,
        or_false]
      refine or_congr_left ⟨?_, ?_⟩
      · rintro ⟨n, ⟨e, he, hn⟩, hx⟩
        exact ⟨e, he, n, hn, hx⟩
      · rintro ⟨e, he, n, hn, hx⟩
        exact ⟨n, ⟨e, he, hn⟩, hx⟩

theorem Stmt.uses_of_sound {s : Stmt} (h : s.Sound) : ∃ names, s.uses = .ok names := by
  unfold Stmt.uses
  split
  · exact ⟨_, rfl⟩
  · obtain ⟨exprs, hexprs⟩ := Stmt.walkExprs_of_sound h.exprs
    exact ⟨_, by rw [hexprs]; rfl⟩

theorem Stmt.binds_of_sound {s : Stmt} (h : s.Sound) (skip : Option Nat) :
    ∃ names, s.binds skip = .ok names := by
  cases s with
  | assign targets value location =>
    have hcovers : (Walk.concat (targets.map Expr.walk)).Covers fun n => ∃ e ∈ targets, n.Within e :=
      Walk.Covers.concat fun e _ => e.walk_covers
    have hfault := hcovers.fault.2 fun n ⟨e, he, hn⟩ =>
      h.exprs e (List.mem_append_left _ he) n hn
    exact ⟨_, by rw [Stmt.binds, Walk.all_ok.2 ⟨hfault, rfl⟩]; rfl⟩
  | _ => exact ⟨_, rfl⟩

/-! ## Modules -/

theorem Walk.collect_ok {α β : Type} {w : Walk α} {f : α → Except Fault β} {bs : List β} :
    w.collect f = .ok bs ↔ w.items.map f = bs.map .ok ∧ w.fault = none := by
  unfold Walk.collect Walk.finish
  rw [← mapM_ok]
  cases w.items.mapM f with
  | error f => simp [bind, Except.bind]
  | ok cs => cases w.fault <;> simp [bind, Except.bind, pure, Except.pure]

theorem Module.walk_fault {m : Module} (h : ∀ s ∈ Stmt.nodesIn m.body, s.isNode = true) :
    m.walk.fault = none := (Stmt.walkBlock_meets [] 0 m.body).fault.2 h

theorem Module.walk_items {m : Module} (h : m.walk.fault = none) :
    m.walk.items.map (·.2) = Stmt.nodesIn m.body := (Stmt.walkBlock_meets [] 0 m.body).items h

/-- A question that everything met on a walk answers is answered. -/
theorem Walk.collect_exists {α β : Type} {w : Walk α} {f : α → Except Fault β}
    (hfault : w.fault = none) (h : ∀ a ∈ w.items, ∃ b, f a = .ok b) :
    ∃ bs, w.collect f = .ok bs := by
  have hanswers : ∃ bs : List β, w.items.map f = bs.map .ok := by
    revert h
    generalize w.items = items
    intro h
    induction items with
    | nil => exact ⟨[], rfl⟩
    | cons a items ih =>
      rw [List.forall_mem_cons] at h
      obtain ⟨bs, hbs⟩ := ih h.2
      obtain ⟨b, hb⟩ := h.1
      exact ⟨b :: bs, by rw [List.map_cons, hbs, List.map_cons, ← hb]⟩
  obtain ⟨bs, hbs⟩ := hanswers
  exact ⟨bs, Walk.collect_ok.2 ⟨hbs, hfault⟩⟩

/-- A question that every sound statement answers is answered about a sound module. -/
theorem Module.collect_exists {m : Module} {β : Type} {f : Path × Stmt → Except Fault β}
    (hm : m.Sound) (hf : ∀ path, ∀ s : Stmt, s.Sound → ∃ b, f (path, s) = .ok b) :
    ∃ bs, m.walk.collect f = .ok bs := by
  have hfault : m.walk.fault = none := Module.walk_fault fun s hs => (hm s hs).isNode
  exact Walk.collect_exists hfault fun i hi =>
    hf i.1 i.2 (hm i.2 (Module.walk_items hfault ▸ List.mem_map_of_mem hi))

/-- Used names are those that a statement of a sound module mentions. -/
theorem usedNames_ok {m : Module} {used : List Text} (h : usedNames m = .ok used) :
    m.Sound ∧ ∀ x, x ∈ used ↔ m.Uses x := by
  rw [usedNames] at h
  obtain ⟨lists, hcollect, h⟩ := bind_ok.1 h
  cases h
  obtain ⟨hlists, hfault⟩ := Walk.collect_ok.1 hcollect
  have huses : (Stmt.nodesIn m.body).map Stmt.uses = lists.map .ok := by
    rw [← Module.walk_items hfault, List.map_map]
    exact hlists
  have hnode := (Stmt.walkBlock_meets [] 0 m.body).fault.1 hfault
  have hanswer : ∀ s ∈ Stmt.nodesIn m.body, ∃ names ∈ lists, s.uses = .ok names := by
    intro s hs
    have hmem := List.mem_map_of_mem (f := Stmt.uses) hs
    rw [huses, List.mem_map] at hmem
    obtain ⟨names, hnames, heq⟩ := hmem
    exact ⟨names, hnames, heq.symm⟩
  refine ⟨fun s hs => ?_, fun x => ?_⟩
  · obtain ⟨names, -, hs'⟩ := hanswer s hs
    exact ⟨hnode s hs, (Stmt.uses_ok hs').1⟩
  · rw [List.mem_flatten]
    constructor
    · rintro ⟨names, hnames, hx⟩
      have hmem := List.mem_map_of_mem (f := (Except.ok : _ → Except Fault _)) hnames
      rw [← huses, List.mem_map] at hmem
      obtain ⟨s, hs, hs'⟩ := hmem
      exact ⟨s, hs, ((Stmt.uses_ok hs').2 x).1 hx⟩
    · rintro ⟨s, hs, hx⟩
      obtain ⟨names, hnames, hs'⟩ := hanswer s hs
      exact ⟨names, hnames, ((Stmt.uses_ok hs').2 x).2 hx⟩

theorem usedNames_of_sound {m : Module} (hm : m.Sound) : ∃ used, usedNames m = .ok used := by
  obtain ⟨lists, h⟩ := Module.collect_exists (f := fun i => i.2.uses) hm
    fun _ _ hs => Stmt.uses_of_sound hs
  refine ⟨lists.flatten, ?_⟩
  rw [usedNames]
  exact bind_ok.2 ⟨lists, h, rfl⟩

theorem boundNames_of_sound {m : Module} (hm : m.Sound) (skip : Option (Path × Nat)) :
    ∃ names, boundNames m skip = .ok names := by
  obtain ⟨lists, h⟩ := Module.collect_exists
    (f := fun i => i.2.binds (skip.bind fun q => if q.1 = i.1 then some q.2 else none)) hm
    fun _ _ hs => Stmt.binds_of_sound hs _
  exact ⟨_, by rw [boundNames, h]; rfl⟩

/-! ## Content -/

theorem Stmt.surface_exprs (s : Stmt) : s.surface.exprs = s.exprs := by
  cases s with
  | tryExcept body handlers orelse finalbody location =>
    rw [Stmt.surface, Stmt.exprs, Stmt.exprs, List.filterMap_map]
    rfl
  | _ => rfl

theorem Stmt.surface_isNode (s : Stmt) : s.surface.isNode = s.isNode := by
  cases s <;> rfl

theorem Stmt.surface_sound (s : Stmt) : s.surface.Sound ↔ s.Sound := by
  constructor <;> rintro ⟨hnode, hexprs⟩
  · exact ⟨s.surface_isNode ▸ hnode, s.surface_exprs ▸ hexprs⟩
  · exact ⟨s.surface_isNode.trans hnode, s.surface_exprs.symm ▸ hexprs⟩

theorem Stmt.surface_atRest (f : Rewriter) (s : Stmt) : s.surface.AtRest f ↔ s.AtRest f := by
  constructor <;> rintro ⟨hnode, hexprs⟩
  · exact ⟨s.surface_isNode ▸ hnode, s.surface_exprs ▸ hexprs⟩
  · exact ⟨s.surface_isNode.trans hnode, s.surface_exprs.symm ▸ hexprs⟩

theorem Stmt.surface_mentions (x : Text) (s : Stmt) : s.surface.Mentions x ↔ s.Mentions x := by
  have hquoted : s.surface.quotedUses = s.quotedUses := by cases s <;> rfl
  have hwords : s.surface.capturedWords = s.capturedWords := by cases s <;> rfl
  rw [Stmt.Mentions, Stmt.Mentions, s.surface_exprs, hquoted, hwords]

theorem Stmt.isImport_sound {s : Stmt} (h : s.isImport = true) : s.Sound :=
  ⟨Stmt.isImport_isNode h, by simp [Stmt.isImport_exprs h]⟩

theorem Stmt.isImport_atRest {s : Stmt} (f : Rewriter) (h : s.isImport = true) : s.AtRest f :=
  ⟨Stmt.isImport_isNode h, by simp [Stmt.isImport_exprs h]⟩

theorem Stmt.isImport_mentions {s : Stmt} {x : Text} (h : s.isImport = true) : ¬s.Mentions x := by
  have hexprs := Stmt.isImport_exprs h
  cases s with
  | importNames names location | importFrom module names level location =>
    simp [Stmt.Mentions, hexprs, Stmt.quotedUses, Stmt.capturedWords]
  | _ => cases h

section

variable {m m' : Module} (h : Stmt.content m.body = Stmt.content m'.body)
include h

theorem Module.sound_of_content (hm : m.Sound) : m'.Sound := by
  have htransport := Stmt.content_forall (fun _ => Stmt.isImport_sound) Stmt.surface_sound
  rw [Module.Sound, htransport] at hm ⊢
  rwa [← h]

theorem Module.atRest_of_content {f : Rewriter} (hm : ∀ s ∈ Stmt.nodesIn m.body, s.AtRest f) :
    ∀ s ∈ Stmt.nodesIn m'.body, s.AtRest f := by
  have htransport := Stmt.content_forall (fun _ => Stmt.isImport_atRest f) (Stmt.surface_atRest f)
  rw [htransport] at hm ⊢
  rwa [← h]

theorem Module.isNode_of_content (hm : ∀ s ∈ Stmt.nodesIn m.body, s.isNode = true) :
    ∀ s ∈ Stmt.nodesIn m'.body, s.isNode = true := by
  have htransport := Stmt.content_forall (P := fun s => s.isNode = true)
    (fun _ => Stmt.isImport_isNode) fun s => by rw [s.surface_isNode]
  rw [htransport] at hm ⊢
  rwa [← h]

theorem Module.uses_of_content (x : Text) : m.Uses x ↔ m'.Uses x := by
  have htransport := Stmt.content_forall (P := fun s => ¬s.Mentions x)
    (fun _ => Stmt.isImport_mentions) fun s => not_congr (s.surface_mentions x)
  have hnone : ∀ m : Module, ¬m.Uses x ↔ ∀ s ∈ Stmt.nodesIn m.body, ¬s.Mentions x := by
    simp [Module.Uses]
  rw [← not_iff_not, hnone, hnone, htransport, htransport, h]

end

end Refactory
