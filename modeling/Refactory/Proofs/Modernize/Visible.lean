import Mathlib.Tactic.FinCases
import Refactory.Proofs.Modernize.Complete
import Refactory.Proofs.Modernize.Naming
import Refactory.Proofs.Modernize.Standing

/-! # Calls that see their import

The import of the new function goes in front of the first old import, wherever that stands, or is one
that the module has already, wherever that stands. So a statement that gets a call sees an import of the
function if it saw the first old import or the one that is reused, and only then
(`modernizeVersions_visible`). That each lookup saw an old import of its own is not enough: of two old
ones in two functions only the first is replaced (`modernizeVersions_unseen`).

The stages are followed one by one: while lookups are rewritten statements stay where they are
(`VersionRun.afterRewrite_views`), and inserting and dropping imports are splices
(`VersionRun.afterInsert_views`, `VersionRun.dropped_views`). -/

namespace Refactory

theorem forall₂_trans {α β γ : Type} {R : α → β → Prop} {S : β → γ → Prop}
    {T : α → γ → Prop} {as : List α} {bs : List β} {cs : List γ} (h : List.Forall₂ R as bs) (h' : List.Forall₂ S bs cs)
    (htrans : ∀ a b c, R a b → S b c → T a c) : List.Forall₂ T as cs := by
  induction h generalizing cs with
  | nil =>
    cases h'
    exact .nil
  | cons hab _ ih =>
    cases h' with
    | cons hbc hrest => exact .cons (htrans _ _ _ hab hbc) (ih hrest)

/-! ## Imports of the function -/

/-- An import takes a name from a module and binds another to it. -/
def Stmt.Provides (source name bound : Text) (s : Stmt) : Prop :=
  ∃ a ∈ s.takenFrom source, a.name = name ∧ a.memberBinding = bound

/-- A statement that satisfies `P` is visible at a path. -/
def Module.Sees (m : Module) (p : Path) (P : Stmt → Prop) : Prop :=
  ∃ item ∈ m.walk.items, p.Sees item.1 ∧ P item.2

section

variable {source name bound : Text} {s : Stmt}

theorem Stmt.Provides.isImport (h : s.Provides source name bound) : s.isImport = true :=
  h.elim fun _ ha => Stmt.takesFrom_isImport (Stmt.takesFrom_of_mem ha.1)

theorem Module.sees_iff {m : Module} {p : Path} :
    m.Sees p (Stmt.Provides source name bound) ↔
      InView m.walk.items (fun j => j.2.Provides source name bound) p := by
  constructor
  · rintro ⟨item, hitem, hsees, hprovides⟩
    exact ⟨item, hitem, hprovides.isImport, hsees, hprovides⟩
  · rintro ⟨item, hitem, -, hsees, hprovides⟩
    exact ⟨item, hitem, hsees, hprovides⟩

theorem Stmt.Provides.binds (h : s.Provides source name bound) : ∃ i, s.BindsBy bound (some i) := by
  obtain ⟨a, ha, -, hbound⟩ := h
  cases s with
  | importFrom module names level location =>
    rw [Stmt.takenFrom] at ha
    split at ha
    · obtain ⟨i, hi⟩ := List.mem_iff_getElem?.1 ha
      exact ⟨i, .importFrom hi hbound⟩
    · cases ha
  | _ => cases ha

/-- What is left of an old import provides a name that is used just as the import did. -/
theorem Stmt.pruned_provides {used : List Text} (hs : s.takesFrom legacyVersionModule = true)
    (hused : bound ∈ used) :
    (∃ t ∈ s.pruned used, t.Provides source name bound) ↔ s.Provides source name bound := by
  cases s with
  | importFrom module names level location =>
    have hlegacy : level = 0 ∧ module = some legacyVersionModule := by
      simpa [Stmt.takesFrom] using hs
    have hkept : ∀ a, a ∈ LegacyImport.kept used ⟨.importFrom module names level location, true⟩ ↔
        a ∈ names ∧ (a.memberBinding ∈ used ∨ a.name = Text.ofString "*") := by
      intro a
      rw [LegacyImport.kept, List.mem_filter, Stmt.takenFrom, if_pos hlegacy]
      simp
    rw [Stmt.pruned, LegacyImport.replacement_importFrom]
    constructor
    · rintro ⟨t, ht, a, ha, hname, hbound⟩
      split at ht
      · cases ht
      cases List.mem_singleton.1 ht
      refine ⟨a, ?_, hname, hbound⟩
      rw [Stmt.takenFrom] at ha ⊢
      split at ha
      · rename_i hsource
        rw [if_pos hsource]
        exact ((hkept a).1 ha).1
      · cases ha
    · rintro ⟨a, ha, hname, rfl⟩
      rw [Stmt.takenFrom] at ha
      split at ha
      · rename_i hsource
        have hmem := (hkept a).2 ⟨ha, .inl hused⟩
        rw [if_neg (List.ne_nil_of_mem hmem)]
        exact ⟨_, List.mem_singleton_self _, a, by rwa [Stmt.takenFrom, if_pos hsource], hname, rfl⟩
      · cases ha
  | _ => cases hs

end

theorem freeName_eq_nil {preferred : Text} {taken : List Text} (h : freeName preferred taken = []) :
    preferred = [] := by
  rcases freeName_cases preferred taken with ⟨-, heq⟩ | ⟨-, n, -, heq, -⟩
  · exact heq.symm.trans h
  · cases heq.symm.trans h

namespace VersionPlan

variable {p : VersionPlan} {targetModule targetFunction : Text} {m : Module}

/-- The import of the function binds it to its name. -/
theorem Of.memberBinding (of : p.Of targetModule targetFunction m) (hnone : p.existing = none) :
    Alias.memberBinding ⟨targetFunction, p.asName targetFunction⟩ = p.function := by
  rcases of.function with hsome | ⟨-, bound, used, -, -, hfresh⟩
  · cases hnone.symm.trans hsome
  by_cases hname : p.function = targetFunction
  · rw [asName, if_pos hname]
    exact hname.symm
  · have hne : p.function ≠ [] := fun hnil =>
      hname (hnil.trans (freeName_eq_nil (hfresh.symm.trans hnil)).symm)
    simp [asName, hname, Alias.memberBinding, hne]

theorem Of.newImport_provides (of : p.Of targetModule targetFunction m) (hnone : p.existing = none) :
    (p.newImport targetModule targetFunction).Provides targetModule targetFunction p.function :=
  ⟨_, by simp [newImport, Stmt.takenFrom], rfl, of.memberBinding hnone⟩

theorem Of.newImport_pruned (of : p.Of targetModule targetFunction m) (hnone : p.existing = none)
    (htarget : targetModule = legacyVersionModule) {used : List Text} (hused : p.function ∈ used) :
    (p.newImport targetModule targetFunction).pruned used =
      [p.newImport targetModule targetFunction] := by
  have hkept : LegacyImport.kept used ⟨p.newImport targetModule targetFunction, true⟩ =
      [⟨targetFunction, p.asName targetFunction⟩] := by
    simp [LegacyImport.kept, newImport, Stmt.takenFrom, htarget, of.memberBinding hnone, hused]
  rw [newImport] at hkept ⊢
  rw [Stmt.pruned, LegacyImport.replacement_importFrom, hkept, if_neg (List.cons_ne_nil _ _)]

end VersionPlan

/-! ## Runs -/

namespace VersionRun

variable {p : VersionPlan} {targetModule targetFunction : Text} {m m' : Module}
  {report : Option VersionReport}

/-- Guarded lookups collapse where they stand, and the expressions of the others are rewritten. -/
theorem stand (r : VersionRun p targetModule targetFunction m report m') :
    List.Forall₂ (fun i i' => i'.1 = i.1 ∧ i.2.Becomes p.collapse p.lookup i'.2)
      (outside (fun s => (p.collapse s).isSome) m.walk.items) r.afterRewrite.walk.items := by
  obtain ⟨hfault, -, hafter⟩ := replaceStmts_ok r.collapse
  have hrewrite := (rewriteExprs_ok r.rewrite).1
  rw [hafter] at hrewrite
  have hnodes := (Stmt.walkBlock_meets [] 0 m.body).fault.1 (Walk.all_ok.1 r.of.walk).1
  refine (Stmt.stand (fun s new hs => ?_) hnodes [] 0 r.afterRewrite.body hfault hrewrite).2
  obtain ⟨targets, -, -, -, location, argument, -, -, rfl⟩ := collapse_some hs
  exact ⟨_, rfl, rfl⟩

theorem becomes_isImport {s s' : Stmt} (h : s.Becomes p.collapse p.lookup s') :
    s'.isImport = s.isImport ∧ (s.isImport = true → s' = s) := by
  refine h.isImport fun t ht => ?_
  obtain ⟨targets, value, at_, handlers, location, argument, rfl, -, hassign⟩ := collapse_some ht
  cases hassign
  exact ⟨rfl, rfl⟩

/-- Imports stay where they are while lookups are rewritten. -/
theorem imports_stand (r : VersionRun p targetModule targetFunction m report m') :
    (outside (fun s => (p.collapse s).isSome) m.walk.items).filter (·.2.isImport) =
      r.afterRewrite.walk.items.filter (·.2.isImport) := by
  have hfilter := List.rel_filter (p := (·.2.isImport)) (q := (·.2.isImport)) ?_ r.stand
  · have hsame : List.Forall₂ (· = ·) _ _ := forall₂_imp_mem hfilter fun i hi i' _ hrel =>
      (Prod.ext hrel.1 ((becomes_isImport hrel.2).2 (List.mem_filter.1 hi).2)).symm
    rwa [List.forall₂_eq_eq_eq] at hsame
  · intro i i' hrel
    simp only [(becomes_isImport hrel.2).1]

/-- What is visible at a statement stays visible while lookups are rewritten. -/
theorem afterRewrite_views (r : VersionRun p targetModule targetFunction m report m')
    (Q : Path × Stmt → Prop) :
    List.Forall₂ (fun i i' => i.2.Becomes p.collapse p.lookup i'.2 ∧
        (InView r.afterRewrite.walk.items Q i'.1 ↔ InView m.walk.items Q i.1))
      (plain (outside (fun s => (p.collapse s).isSome) m.walk.items))
      (plain r.afterRewrite.walk.items) := by
  have hfilter := List.rel_filter (p := (!·.2.isImport)) (q := (!·.2.isImport)) ?_ r.stand
  · refine forall₂_imp_mem hfilter fun i hi i' _ hrel => ⟨hrel.2, ?_⟩
    rw [hrel.1, ← outside_inView (mem_plain.1 hi).1, inView_filter, inView_filter, r.imports_stand]
  · intro i i' hrel
    simp only [(becomes_isImport hrel.2).1]

theorem afterRewrite_isNode (r : VersionRun p targetModule targetFunction m report m') :
    ∀ t ∈ Stmt.nodesIn r.afterRewrite.body, t.isNode = true :=
  Stmt.rewriteBlock_isNode (rewriteExprs_ok r.rewrite).1

/-- The first old import still stands where it stood when an import is put in front of it. -/
theorem first_stands (r : VersionRun p targetModule targetFunction m report m') {first : Path × Stmt}
    (hfirst : m.walk.items.find? (·.2.takesFrom legacyVersionModule) = some first)
    (hinserted : r.inserted = true) :
    r.afterRewrite.walk.items.find? (·.2.takesFrom legacyVersionModule) = some first ∧
      r.afterInsert.body = (Stmt.spliceBlock (·.takesFrom legacyVersionModule)
        [[p.newImport targetModule targetFunction, first.2]] r.afterRewrite.body).1 := by
  obtain ⟨anchor, rest, hlegacy, hafter⟩ := insertImport_ok (r.insert hinserted)
  have hnew : Stmt.importFrom (some targetModule) [⟨targetFunction, p.asName targetFunction⟩] 0
      anchor.location = p.newImport targetModule targetFunction := by
    rw [VersionPlan.newImport, hlegacy]
    rfl
  obtain ⟨old, olds, hitems, hanchor, -⟩ := List.map_eq_cons_iff.1 hlegacy
  rw [← (Walk.all_ok.1 r.of.walk).2] at hitems hanchor
  have hold : old = first := by
    rw [← List.head?_filter, hitems] at hfirst
    exact Option.some.inj hfirst
  subst hold
  obtain ⟨hstmt, hattached⟩ := LegacyImport.mk.inj hanchor
  refine ⟨?_, by rw [hafter, hnew, ← hstmt]⟩
  have hhits : ∀ items : List (Path × Stmt), items.filter (·.2.takesFrom legacyVersionModule) =
      (items.filter (·.2.isImport)).filter (·.2.takesFrom legacyVersionModule) := by
    intro items
    rw [List.filter_filter]
    refine List.filter_congr fun i _ => ?_
    cases htakes : i.2.takesFrom legacyVersionModule with
    | true => exact (Stmt.takesFrom_isImport htakes).symm
    | false => rfl
  have hclear : ((m.walk.items.filter fun i => (p.collapse i.2).isSome).map (·.1)).any
      (·.isPrefixOf old.1.dropLast) = false := by
    simp only [(Walk.all_ok.1 r.of.walk).2, Bool.not_eq_true', List.any_eq_false,
      List.isPrefixOf_iff_prefix] at hattached ⊢
    intro path hpath hstarts
    have houter := List.dropLast_prefix old.1
    exact hattached path hpath (hstarts.trans houter)
  rw [← List.head?_filter, hhits, ← r.imports_stand, ← hhits, outside, clearOf, List.filter_comm,
    hitems, List.filter_cons_of_pos (by rw [hclear]; rfl)]
  rfl

theorem existing_none (r : VersionRun p targetModule targetFunction m report m')
    (h : r.inserted = true) : p.existing = none := by
  have hinserted := r.inserted_eq.symm.trans h
  rw [Bool.and_eq_true] at hinserted
  exact Option.isNone_iff_eq_none.1 hinserted.1

/-- Where an import stands before the new one is inserted that will satisfy `Q`: it is the first
old one, if the new one satisfies `Q`, or satisfies `Q` itself. -/
def Precedes (r : VersionRun p targetModule targetFunction m report m') (first : Path × Stmt)
    (Q : Stmt → Prop) (j : Path × Stmt) : Prop :=
  (r.inserted = true ∧ j = first ∧ Q (p.newImport targetModule targetFunction)) ∨ Q j.2

theorem precedes_reused (r : VersionRun p targetModule targetFunction m report m')
    (h : r.inserted = false) (first : Path × Stmt) (Q : Stmt → Prop) :
    r.Precedes first Q = (Q ·.2) := by
  funext j
  simp [Precedes, h]

/-- What is visible once the import of the function is in the tree. -/
theorem afterInsert_views (r : VersionRun p targetModule targetFunction m report m')
    {first : Path × Stmt}
    (hfirst : m.walk.items.find? (·.2.takesFrom legacyVersionModule) = some first)
    (Q : Stmt → Prop) :
    List.Forall₂ (fun i i' => i'.2.surface = i.2.surface ∧
        (InView r.afterInsert.walk.items (Q ·.2) i'.1 ↔
          InView r.afterRewrite.walk.items (r.Precedes first Q) i.1))
      (plain r.afterRewrite.walk.items) (plain r.afterInsert.walk.items) := by
  cases hinserted : r.inserted with
  | false =>
    rw [r.noInsert hinserted, r.precedes_reused hinserted, List.forall₂_same]
    exact fun _ _ => ⟨rfl, .rfl⟩
  | true =>
    obtain ⟨hstands, hbody⟩ := r.first_stands hfirst hinserted
    have htakes : first.2.takesFrom legacyVersionModule = true := by
      simpa using List.find?_some hfirst
    have hdistinct : r.afterRewrite.walk.items.Nodup := by
      refine List.Nodup.of_map _ ((Module.walk_sorted r.afterRewrite_isNode).imp ?_)
      rintro path _ hlt rfl
      exact List.lt_irrefl _ hlt
    simp only [Module.walk, hbody]
    refine Stmt.spliceBlock_inView (fun _ => Stmt.takesFrom_isImport) r.afterRewrite_isNode
      (.first hstands hdistinct ?_ ?_ ?_)
    · exact List.forall_mem_cons.2
        ⟨rfl, List.forall_mem_singleton.2 (Stmt.takesFrom_isImport htakes)⟩
    · simp [Precedes, hinserted]
    · intro i _ hne _
      simp [Precedes, hne]

/-- Old imports that lose names stay visible as far as a name that is used goes. -/
theorem dropped_views (r : VersionRun p targetModule targetFunction m report m')
    (hused : p.function ∈ r.used) :
    List.Forall₂ (fun i i' => i'.2.surface = i.2.surface ∧
        (InView m'.walk.items
            (fun j => j.2.Provides targetModule targetFunction p.function) i'.1 ↔
          InView r.afterInsert.walk.items
            (fun j => j.2.Provides targetModule targetFunction p.function) i.1))
      (plain r.afterInsert.walk.items) (plain m'.walk.items) := by
  have hnodes : ∀ t ∈ Stmt.nodesIn r.afterInsert.body, t.isNode = true :=
    Module.isNode_of_content r.content.1 r.afterRewrite_isNode
  have hnews : r.before ++ (p.legacy.filter (·.attached)).map (·.replacement r.used) =
      (r.afterInsert.walk.items.filter (·.2.takesFrom legacyVersionModule)).map
        (·.2.pruned r.used) := by
    have hitems := Module.walk_items (Module.walk_fault hnodes)
    have hhits : (r.afterInsert.walk.items.filter (·.2.takesFrom legacyVersionModule)).map (·.2) =
        r.before.flatten ++ (p.legacy.filter (·.attached)).map (·.stmt) := by
      rw [← r.legacy_inserted, Stmt.filter_importListIn fun _ => Stmt.takesFrom_isImport, ← hitems,
        List.filter_map]
      rfl
    have hbefore : r.before.flatten.map (·.pruned r.used) = r.before := by
      unfold before
      split
      · rename_i hlegacy
        rw [Bool.and_eq_true, decide_eq_true_eq] at hlegacy
        rw [List.flatten_singleton, List.map_singleton,
          r.of.newImport_pruned (r.existing_none hlegacy.1) hlegacy.2 hused]
      · rfl
    have hmap := congrArg (List.map fun s : Stmt => s.pruned r.used) hhits
    rw [List.map_map, List.map_append, hbefore, List.map_map] at hmap
    refine Eq.trans ?_ hmap.symm
    congr 1
  simp only [Module.walk, r.body_eq, hnews]
  refine Stmt.spliceBlock_inView (fun _ => Stmt.takesFrom_isImport) hnodes
    (.each ?_ ?_ ?_)
  · intro j _ htakes t ht
    obtain ⟨-, module, names, level, location, -, rfl⟩ := LegacyImport.mem_replacement htakes ht
    rfl
  · intro j _ htakes
    exact (Stmt.pruned_provides htakes hused).symm
  · intro j _ _ _
    rfl

/-- In the input, what will be an import of the function is the first old import, if one is inserted, or
an import of the function. -/
theorem target_inView (r : VersionRun p targetModule targetFunction m report m') {first : Path × Stmt}
    (hfirst : m.walk.items.find? (·.2.takesFrom legacyVersionModule) = some first) (path : Path) :
    InView m.walk.items
        (r.Precedes first (Stmt.Provides targetModule targetFunction p.function)) path ↔
      if r.inserted then path.Sees first.1
      else m.Sees path (Stmt.Provides targetModule targetFunction p.function) := by
  cases hinserted : r.inserted with
  | false =>
    rw [if_neg Bool.false_ne_true, Module.sees_iff, r.precedes_reused hinserted]
  | true =>
    have hnone := r.existing_none hinserted
    have hfresh : ∀ j ∈ m.walk.items, ¬j.2.Provides targetModule targetFunction p.function := by
      intro j hj hprovides
      obtain ⟨i, hi⟩ := hprovides.binds
      exact (r.of.fresh hnone).1 j hj _ hi
    rw [if_pos rfl]
    constructor
    · rintro ⟨j, hj, -, hsees, ⟨-, rfl, -⟩ | hprovides⟩
      · exact hsees
      · exact (hfresh j hj hprovides).elim
    · intro hsees
      have htakes : first.2.takesFrom legacyVersionModule = true := by
        simpa using List.find?_some hfirst
      exact ⟨first, List.mem_of_find?_eq_some hfirst, Stmt.takesFrom_isImport htakes, hsees,
        .inl ⟨hinserted, rfl, r.of.newImport_provides hnone⟩⟩

theorem surfaces (r : VersionRun p targetModule targetFunction m report m') :
    List.Forall₂ (fun i i' => i'.2.surface = i.2.surface) (plain r.afterRewrite.walk.items)
      (plain m'.walk.items) := by
  have hcontent : ∀ {m : Module}, (∀ t ∈ Stmt.nodesIn m.body, t.isNode = true) →
      (plain m.walk.items).map (·.2.surface) = Stmt.content m.body := by
    intro m hnodes
    rw [Stmt.content, ← Module.walk_items (Module.walk_fault hnodes), List.filter_map, List.map_map]
    rfl
  have hsame := r.content.1.trans r.content.2
  have hmap : (plain m'.walk.items).map (·.2.surface) =
      (plain r.afterRewrite.walk.items).map (·.2.surface) := by
    rw [hcontent r.afterRewrite_isNode, hsame,
      hcontent (Module.isNode_of_content hsame r.afterRewrite_isNode)]
  rw [← List.forall₂_eq_eq_eq, List.forall₂_map_left_iff, List.forall₂_map_right_iff] at hmap
  exact hmap.flip

/-- A statement that gets a call sees an import of the function just if it saw the first old import, or
the import that is reused. -/
theorem calls_views (r : VersionRun p targetModule targetFunction m report m') {first : Path × Stmt}
    (hfirst : m.walk.items.find? (·.2.takesFrom legacyVersionModule) = some first) :
    List.Forall₂ (fun old new => old.2.Becomes p.collapse p.lookup new.2 ∧
        ((p.collapse old.2).isSome = true ∨ old.2.LooksUp p.callers →
          (m'.Sees new.1 (Stmt.Provides targetModule targetFunction p.function) ↔
            if r.inserted then old.1.Sees first.1
            else m.Sees old.1 (Stmt.Provides targetModule targetFunction p.function))))
      (plain (outside (fun s => (p.collapse s).isSome) m.walk.items)) (plain m'.walk.items) := by
  have hbecomes : ∀ {s t u : Stmt}, s.Becomes p.collapse p.lookup t → u.surface = t.surface →
      s.Becomes p.collapse p.lookup u := by
    rintro s t u ⟨v, hv, hsurface⟩ hsame
    exact ⟨v, hv, hsame ▸ hsurface⟩
  by_cases hused : p.function ∈ r.used
  · have hviews := forall₂_trans (r.afterInsert_views hfirst _) (r.dropped_views hused)
      fun _ _ _ h h' => And.intro (h'.1.trans h.1) (h'.2.trans h.2)
    refine forall₂_trans (r.afterRewrite_views (r.Precedes first
      (Stmt.Provides targetModule targetFunction p.function))) hviews fun old mid new h h' => ?_
    refine ⟨hbecomes h.1 h'.1, fun _ => ?_⟩
    rw [Module.sees_iff, h'.2, h.2]
    exact r.target_inView hfirst old.1
  · refine forall₂_imp_mem (forall₂_trans (r.afterRewrite_views fun _ => False) r.surfaces
      fun _ _ _ h h' => hbecomes h.1 h') fun old _ new hnew hrel => ⟨hrel, fun hcall => ?_⟩
    -- A call would mention the function, which is in use then.
    have hsame := r.content.1.trans r.content.2
    have hnodes := Module.isNode_of_content hsame r.afterRewrite_isNode
    have hitems := Module.walk_items (Module.walk_fault hnodes)
    have hmem : new.2 ∈ Stmt.nodesIn m'.body := hitems ▸ List.mem_map_of_mem (mem_plain.1 hnew).1
    have huses : r.afterInsert.Uses p.function :=
      (Module.uses_of_content r.content.2 _).2 ⟨new.2, hmem, hrel.mentions hcall⟩
    exact (hused (((usedNames_ok r.usedNames).2 _).2 huses)).elim

end VersionRun

/-- Statements besides imports stay, except those inside guarded lookups that collapse. One that gets
a call sees an import of the function afterwards just if it saw the first old import before, or, where
none is inserted, an import of the function. -/
theorem modernizeVersions_visible {targetModule targetFunction : Text} {m m' : Module}
    {done : VersionReport}
    (h : (modernizeVersions targetModule targetFunction).perform m = (.ok (some done), m')) :
    ∃ function first, m.walk.items.find? (·.2.takesFrom legacyVersionModule) = some first ∧
      List.Forall₂ (fun old new =>
          old.2.Becomes (collapse m.lookupNames m.notFoundNames function)
            (fun e => .ok (lookupCall m.lookupNames function e)) new.2 ∧
          ((collapse m.lookupNames m.notFoundNames function old.2).isSome = true ∨
              old.2.LooksUp m.lookupNames →
            (m'.Sees new.1 (Stmt.Provides targetModule targetFunction function) ↔
              if done.inserted then old.1.Sees first.1
              else m.Sees old.1 (Stmt.Provides targetModule targetFunction function))))
        (plain (outside
          (fun s => (collapse m.lookupNames m.notFoundNames function s).isSome) m.walk.items))
        (plain m'.walk.items) := by
  obtain ⟨hnone, -⟩ | ⟨p, hcallers, ⟨r⟩⟩ := modernizeVersions_ok h
  · cases hnone
  obtain ⟨-, -, hinserted⟩ := r.report_some rfl
  have hfirst : (m.walk.items.find? (·.2.takesFrom legacyVersionModule)).isSome = true := by
    rw [List.find?_isSome, (Walk.all_ok.1 r.of.walk).2]
    exact VersionPlan.exists_legacy hcallers
  obtain ⟨first, hfirst⟩ := Option.isSome_iff_exists.1 hfirst
  have hviews := r.calls_views hfirst
  rw [hinserted, ← VersionPlan.callers_eq r.of.walk, ← VersionPlan.notFound_eq r.of.walk]
  exact ⟨p.function, first, hfirst, hviews⟩

/-- Two functions with a lookup and an old import each. -/
def localImportsSample : Module :=
  ⟨[.function ⟨"f", [], none, [], false⟩
      [.importFrom (some "pkg_resources") [⟨"get_distribution", none⟩] 0 none,
        .ret (some (.attribute (.call (.name "get_distribution") [.string "a"] []) "version")) none]
      none,
    .function ⟨"g", [], none, [], false⟩
      [.importFrom (some "pkg_resources") [⟨"get_distribution", none⟩] 0 none,
        .ret (some (.attribute (.call (.name "get_distribution") [.string "b"] []) "version")) none]
      none]⟩

theorem modernizeVersions_visible_sample :
    ∃ done m', (modernizeVersions "importlib.metadata" "version").perform localImportsSample =
        (.ok (some done), m') ∧ done.rewritten = 2 ∧
      ∃ function gone, List.Forall₂ (fun old new =>
          old.2.LooksUp localImportsSample.lookupNames →
            (m'.Sees new.1 (Stmt.Provides "importlib.metadata" "version" function) ↔
              old.1.Sees [0, 0]))
        (plain (outside gone localImportsSample.walk.items)) (plain m'.walk.items) := by
  have hrun : ∃ done m', (modernizeVersions "importlib.metadata" "version").perform
      localImportsSample = (.ok (some done), m') ∧ done.rewritten = 2 ∧ done.inserted = true :=
    ⟨_, _, rfl, rfl, rfl⟩
  obtain ⟨done, m', hrun, hrewritten, hinserted⟩ := hrun
  obtain ⟨function, first, hfirst, hviews⟩ := modernizeVersions_visible hrun
  refine ⟨done, m', hrun, hrewritten, function, _, hviews.imp fun old new hrel hlooksUp => ?_⟩
  have hpath : first.1 = [0, 0] := by
    cases hfirst
    rfl
  rw [← hpath, hrel.2 (.inr hlooksUp), if_pos hinserted]

/-- Both lookups see an old import, but the second one becomes a call that sees no import. -/
theorem modernizeVersions_unseen :
    ∃ done m', (modernizeVersions "importlib.metadata" "version").perform localImportsSample =
        (.ok (some done), m') ∧
      (∀ item ∈ localImportsSample.walk.items, item.2.LooksUp localImportsSample.lookupNames →
        localImportsSample.Sees item.1
          (Stmt.Provides legacyVersionModule legacyVersionFunction "get_distribution")) ∧
      ([1, 0], .ret (some (.call (.name "version") [.string "b"] [])) none) ∈ m'.walk.items ∧
      ¬m'.Sees [1, 0] (Stmt.Provides "importlib.metadata" "version" "version") := by
  refine ⟨⟨0, 2, ["get_distribution", "get_distribution"], true⟩,
    ⟨[.function ⟨"f", [], none, [], false⟩
        [.importFrom (some "importlib.metadata") [⟨"version", none⟩] 0 none,
          .ret (some (.call (.name "version") [.string "a"] [])) none] none,
      .function ⟨"g", [], none, [], false⟩
        [.ret (some (.call (.name "version") [.string "b"] [])) none] none]⟩, rfl, ?_, ?_, ?_⟩
  · rintro ⟨path, s⟩ hitem ⟨e, he, -⟩
    have hpath : ∃ k : Int, path = [k, 1] ∧
        ∃ s, ([k, 0], s) ∈ localImportsSample.walk.items ∧
          s.Provides legacyVersionModule legacyVersionFunction "get_distribution" := by
      fin_cases hitem
      · cases he
      · cases he
      · exact ⟨0, rfl, _, .tail _ (.head _), _, .head _, rfl, rfl⟩
      · cases he
      · cases he
      · exact ⟨1, rfl, _, .tail _ (.tail _ (.tail _ (.tail _ (.head _)))), _, .head _, rfl, rfl⟩
    obtain ⟨k, rfl, t, ht, hprovides⟩ := hpath
    exact ⟨_, ht, List.prefix_rfl, hprovides⟩
  · exact .tail _ (.tail _ (.tail _ (.tail _ (.head _))))
  · rintro ⟨⟨path, s⟩, hitem, hsees, a, ha, -⟩
    fin_cases hitem
    · cases ha
    · have hsees : ([0] : Path) <+: [1] := hsees
      exact absurd hsees (by decide)
    · cases ha
    · cases ha
    · cases ha

end Refactory
