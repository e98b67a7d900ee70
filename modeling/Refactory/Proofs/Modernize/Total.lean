import Refactory.Proofs.Modernize.Complete
import Refactory.Proofs.Modernize.Naming
import Refactory.Proofs.Rewrite.Faults

/-! # Modernizations that come to an end

On a module that passes validation and whose imports import something, a modernization succeeds, with
two exceptions. Version lookups are given up when an old import stands inside a guarded lookup that
collapses, so that it is no longer in the tree when it is to be replaced (`modernizeVersions_reaches`).
Templates are given up at a field that is named by digits that are no number, or too many
(`modernizeStrings_outcome`). Main statement: `modernizations_end`. -/

namespace Refactory

/-! ## Validation -/

theorem Stmt.walkExprs_finish (s : Stmt) :
    s.walkExprs.finish = .ok () ↔ ∀ e ∈ s.exprs, e.All (·.isSound = true) := by
  have hcovers := s.walkExprs_covers.fault
  unfold Walk.finish
  cases hfault : s.walkExprs.fault with
  | none =>
    simp only [true_iff]
    exact fun e he n hn => hcovers.1 hfault n ⟨e, he, hn⟩
  | some f =>
    simp only [reduceCtorEq, false_iff]
    intro hall
    have hclear := hcovers.2 (by rintro n ⟨e, he, hn⟩; exact hall e he n hn)
    rw [hclear] at hfault
    cases hfault

theorem Module.collect_finish {m : Module} :
    (∃ us, m.walk.collect (fun i => i.2.walkExprs.finish) = .ok us) ↔ m.Sound := by
  constructor
  · rintro ⟨us, hus⟩
    obtain ⟨hitems, hfault⟩ := Walk.collect_ok.1 hus
    intro s hs
    refine ⟨(Stmt.walkBlock_meets [] 0 m.body).fault.1 hfault s hs, s.walkExprs_finish.1 ?_⟩
    rw [← Module.walk_items hfault] at hs
    obtain ⟨item, hitem, rfl⟩ := List.mem_map.1 hs
    have hmem := List.mem_map_of_mem (f := fun i : Path × Stmt => i.2.walkExprs.finish) hitem
    rw [hitems] at hmem
    obtain ⟨u, -, hu⟩ := List.mem_map.1 hmem
    exact hu.symm
  · intro hm
    exact Module.collect_exists hm fun _ s hs => ⟨(), s.walkExprs_finish.2 hs.exprs⟩

/-- A module that passes validation is sound, and not empty unless that is allowed. -/
theorem Module.validate_ok {m : Module} {allowEmpty : Bool} :
    m.validate allowEmpty = .ok () ↔ (allowEmpty = false → m.body ≠ []) ∧ m.Sound := by
  rw [Module.validate, ← Module.collect_finish]
  cases hempty : (m.body.isEmpty && !allowEmpty) with
  | true =>
    simp at hempty
    simp [hempty]
  | false =>
    have hbody : allowEmpty = false → m.body ≠ [] := by
      rintro rfl hnil
      simp [hnil] at hempty
    rw [if_neg Bool.false_ne_true, bind_ok]
    constructor
    · rintro ⟨us, hus, -⟩
      exact ⟨hbody, us, hus⟩
    · rintro ⟨-, us, hus⟩
      exact ⟨us, hus, rfl⟩

/-! ## Imports, their order and annotations -/

theorem renameImports_sound (old new : Text) {m : Module} (hm : m.Sound) :
    ∃ n m', (renameImports old new).perform m = (.ok n, m') ∧ m'.Sound := by
  let g : Stmt → Option (List Stmt) := fun s =>
    if s.importsOf old = 0 then none else some [s.renameImport old new]
  have hg : ∀ s news, g s = some news → (∀ t ∈ s.nodes, t.Sound) →
      ∀ t ∈ Stmt.nodesIn news, t.Sound := by
    intro s news hnews _ t ht
    rw [Option.ite_none_left_eq_some, Option.some.injEq] at hnews
    obtain ⟨hold, rfl⟩ := hnews
    have himport : ∀ t ∈ [s.renameImport old new], t.isImport = true := by
      rw [List.forall_mem_singleton, Stmt.renameImport_isImport]
      exact Stmt.isImport_of_importsOf hold
    rw [Stmt.nodesIn_of_imports himport] at ht
    exact Stmt.isImport_sound (himport t ht)
  obtain ⟨hfault, hsound⟩ := replaceStmts_sound hm hg
  refine ⟨((m.replaceStmts g).seen.map (Stmt.importsOf old)).foldr (· + ·) 0,
    ⟨(m.replaceStmts g).now⟩, ?_, hsound⟩
  change renameImports old new m = _
  rw [renameImports]
  simp only [g, hfault]

theorem renameThrough_sound (table : List (Text × Text)) {m : Module} (hm : m.Sound) :
    ∃ applied m', (renameThrough table).perform m = (.ok applied, m') := by
  induction table generalizing m with
  | nil => exact ⟨_, _, rfl⟩
  | cons entry table ih =>
    obtain ⟨old, new⟩ := entry
    obtain ⟨n, mid, hfirst, hmid⟩ := renameImports_sound old new hm
    obtain ⟨applied, m', hrest⟩ := ih hmid
    refine ⟨if n = 0 then applied else (old, new) :: applied, m', ?_⟩
    rw [renameThrough, Edit.perform_bind_ok]
    refine ⟨n, mid, hfirst, ?_⟩
    rw [Edit.perform_bind_ok]
    exact ⟨applied, m', hrest, rfl⟩

theorem dropUnusedImports_sound {m : Module} (hm : m.Sound) :
    ∃ removed m', dropUnusedImports.perform m = (.ok removed, m') := by
  obtain ⟨used, hused⟩ := usedNames_of_sound hm
  refine ⟨m.body.flatMap (·.unusedNames used),
    ⟨(m.body.map (·.dropUnused used)).filter (!·.importsNothing)⟩, ?_⟩
  rw [dropUnusedImports, Edit.perform_bind_ok]
  exact ⟨used, m, by rw [Edit.perform_ask, hused], rfl⟩

theorem Stmt.importKey_of_named {s : Stmt} (himport : s.isImport = true)
    (hnamed : s.importsNothing = false) : ∃ key, s.importKey = .ok key := by
  cases s with
  | importNames names location =>
    cases names with
    | nil => cases hnamed
    | cons a names => exact ⟨_, rfl⟩
  | importFrom module names level location => exact ⟨_, rfl⟩
  | _ => cases himport

/-- A run of imports that have a key each can be ordered. -/
theorem sortRun_of_keys {run : List Stmt} (h : ∀ s ∈ run, ∃ key, s.importKey = .ok key) :
    ∃ sorted changed, sortRun run = .ok (sorted, changed) := by
  have hkeys : ∃ keys, run.mapM Stmt.importKey = .ok keys := by
    induction run with
    | nil => exact ⟨[], rfl⟩
    | cons s run ih =>
      rw [List.forall_mem_cons] at h
      obtain ⟨key, hkey⟩ := h.1
      obtain ⟨keys, hkeys⟩ := ih h.2
      exact ⟨key :: keys, by rw [List.mapM_cons, hkey, hkeys]; rfl⟩
  obtain ⟨keys, hkeys⟩ := hkeys
  rw [sortRun, hkeys]
  cases hordered : keysOrdered keys with
  | true => exact ⟨_, _, if_pos hordered⟩
  | false => exact ⟨_, _, if_neg (by simp [hordered])⟩

theorem sortRuns_of_keys {run rest : List Stmt} (hrun : ∀ s ∈ run, ∃ key, s.importKey = .ok key)
    (hrest : ∀ s ∈ rest, s.isImport = true → ∃ key, s.importKey = .ok key) :
    ∃ n, (sortRuns run rest).2 = .ok n := by
  induction rest generalizing run with
  | nil =>
    obtain ⟨sorted, changed, hsorted⟩ := sortRun_of_keys fun s hs => hrun s (List.mem_reverse.1 hs)
    rw [sortRuns, hsorted]
    exact ⟨_, rfl⟩
  | cons s rest ih =>
    rw [List.forall_mem_cons] at hrest
    rw [sortRuns]
    split
    · rename_i himport
      exact ih (List.forall_mem_cons.2 ⟨hrest.1 himport, hrun⟩) hrest.2
    · obtain ⟨sorted, changed, hsorted⟩ := sortRun_of_keys fun s hs => hrun s (List.mem_reverse.1 hs)
      obtain ⟨n, hn⟩ : ∃ n, (sortRuns [] rest).2 = .ok n :=
        ih (List.forall_mem_nil _) hrest.2
      rw [hsorted]
      exact ⟨_, by simp only [hn]; rfl⟩

theorem sortImports_named {m : Module} (hm : m.Named) :
    ∃ n m', sortImports.perform m = (.ok n, m') := by
  rw [Module.Named, Stmt.eachImport_iff] at hm
  obtain ⟨n, hn⟩ : ∃ n, (sortRuns [] m.body).2 = .ok n := by
    refine sortRuns_of_keys (List.forall_mem_nil _) fun s hs himport => ?_
    exact Stmt.importKey_of_named himport ((Stmt.eachImport_singleton.1 (hm s hs)).1 himport)
  exact ⟨n, ⟨(sortRuns [] m.body).1⟩, Prod.ext hn rfl⟩

theorem annotateReturns_always (hints : List (Text × Expr)) (m : Module) :
    ∃ names m', (annotateReturns hints).perform m = (.ok names, m') := ⟨_, _, rfl⟩

/-! ## Version lookups -/

/-- The argument of a lookup lies inside it. -/
theorem versionArgument?_within {callers : List Text} {e argument : Expr}
    (h : versionArgument? callers e = some argument) : argument.Within e := by
  unfold versionArgument? at h
  split at h
  · rename_i id argument' attr
    rw [Option.ite_none_right_eq_some, Option.some.injEq] at h
    obtain ⟨-, rfl⟩ := h
    have hcall : Expr.call (.name id) [argument'] [] ∈
        (Expr.attribute (.call (.name id) [argument'] []) attr).children := by simp [Expr.children]
    exact .inside hcall (.inside (by simp [Expr.children]) .self)
  · cases h

theorem Expr.Within.trans {n e d : Expr} (h : n.Within e) (h' : e.Within d) : n.Within d := by
  induction h' with
  | self => exact h
  | inside hc _ ih => exact .inside hc ih

/-- What holds throughout the argument of a call of a plain name holds throughout the call, if it holds
of the two nodes that are added. -/
theorem Expr.call_all {P : Expr → Prop} {function : Text} {argument : Expr}
    (hcall : P (.call (.name function) [argument] [])) (hname : P (.name function))
    (h : argument.All P) : (Expr.call (.name function) [argument] []).All P := by
  refine Expr.all_iff.2 ⟨hcall, fun c hc => ?_⟩
  have hc : c = .name function ∨ c = argument := by simpa [Expr.children] using hc
  rcases hc with rfl | rfl
  · exact Expr.all_leaf hname rfl
  · exact h

/-- The expressions of what a guarded lookup collapses to were there before, but for a call of the new
function with what was inside one of them. -/
theorem collapse_nodes {callers notFound : List Text} {function : Text} {s : Stmt} {new : List Stmt}
    (h : collapse callers notFound function s = some new) :
    ∀ t ∈ Stmt.nodesIn new, t.isNode = true ∧ ∀ e ∈ t.exprs, ∃ u ∈ s.nodes, ∃ d ∈ u.exprs, e = d ∨
      ∃ argument : Expr, argument.Within d ∧ e = .call (.name function) [argument] [] := by
  obtain ⟨targets, value, at_, handlers, location, argument, rfl, hargument, rfl⟩ := collapse_some h
  intro t ht
  cases List.mem_singleton.1 ht
  have hmem : Stmt.assign targets value at_ ∈
      (Stmt.tryExcept [.assign targets value at_] handlers [] [] location).nodes := by
    simp [Stmt.nodes, Stmt.nodesIn]
  refine ⟨rfl, fun e he => ⟨_, hmem, ?_⟩⟩
  rcases List.mem_append.1 he with he | he
  · exact ⟨e, List.mem_append_left _ he, .inl rfl⟩
  · refine ⟨value, List.mem_append_right _ List.mem_cons_self, .inr ?_⟩
    exact ⟨argument, versionArgument?_within hargument, List.mem_singleton.1 he⟩

theorem collapse_sound {callers notFound : List Text} {function : Text} {s : Stmt} {new : List Stmt}
    (h : collapse callers notFound function s = some new) (hs : ∀ t ∈ s.nodes, t.Sound) :
    ∀ t ∈ Stmt.nodesIn new, t.Sound := by
  intro t ht
  obtain ⟨hnode, hexprs⟩ := collapse_nodes h t ht
  refine ⟨hnode, fun e he => ?_⟩
  obtain ⟨u, hu, d, hd, rfl | ⟨argument, hargument, rfl⟩⟩ := hexprs e he
  · exact (hs u hu).exprs e hd
  · exact Expr.call_all rfl rfl fun n hn => (hs u hu).exprs d hd n (hn.trans hargument)

/-- A lookup becomes a call that is as sound. -/
theorem lookupCall_relates (callers : List Text) (function : Text) :
    Rewriter.Relates (fun e => .ok (lookupCall callers function e)) fun e e' =>
      e.All (·.isSound = true) → e'.All (·.isSound = true) where
  keep hcongr _ he := Expr.all_iff.2 ⟨hcongr.isSound (he _ .self), hcongr.children_all (fun h => h) he⟩
  replace hcongr hnew he := by
    rw [Except.ok.injEq, lookupCall, Option.map_eq_some_iff] at hnew
    obtain ⟨argument, hargument, rfl⟩ := hnew
    have hnode : Expr.All (·.isSound = true) _ :=
      Expr.all_iff.2 ⟨hcongr.isSound (he _ .self), hcongr.children_all (fun h => h) he⟩
    exact Expr.call_all rfl rfl fun n hn => hnode n (hn.trans (versionArgument?_within hargument))

/-- A pass that turns lookups into calls succeeds and leaves a sound module. -/
theorem rewriteLookups_sound (callers : List Text) (function : Text) {m : Module} (hm : m.Sound) :
    ∃ n m', (rewriteExprs fun e => .ok (lookupCall callers function e)).perform m = (.ok n, m') ∧
      m'.Sound := by
  have hrelates := lookupCall_relates callers function
  have houtcome := rewriteExprs_outcome (F := fun _ => False) hrelates hm
    fun _ _ _ _ _ _ _ _ _ h => by cases h
  rcases houtcome with ⟨n, m', hrun⟩ | ⟨fault, m', -, hnever⟩
  · refine ⟨n, m', hrun, fun s' hs' => ?_⟩
    obtain ⟨s, hs, hcongr⟩ :=
      forall₂_mem_right (Stmt.rewriteBlock_congr hrelates m.body m'.body (rewriteExprs_ok hrun).1) hs'
    exact hcongr.sound (fun h => h) (hm s hs)
  · exact hnever.elim

/-- An old import that is no longer in the tree stood in a statement that has collapsed. -/
theorem legacyImports_unattached {items : List (Path × Stmt)} {collapses : Stmt → Bool}
    {l : LegacyImport} (hl : l ∈ legacyImports items collapses) (h : l.attached = false) :
    ∃ guarded ∈ items, ∃ old ∈ items, collapses guarded.2 = true ∧
      old.2.takesFrom legacyVersionModule = true ∧ guarded.1 <+: old.1 := by
  obtain ⟨old, hold, rfl⟩ := List.mem_map.1 hl
  obtain ⟨hold, htakes⟩ := List.mem_filter.1 hold
  simp only [Bool.not_eq_false', List.any_map, List.any_eq_true, List.mem_filter] at h
  obtain ⟨guarded, ⟨hguarded, hcollapses⟩, hprefix⟩ := h
  exact ⟨guarded, hguarded, old, hold, hcollapses, htakes, List.isPrefixOf_iff_prefix.1 hprefix⟩

/-- An edit succeeds in a way that satisfies `P`, or else finds an import detached, which means `D`. -/
def Edit.Reaches {α : Type} (e : Edit α) (m : Module) (P : α → Module → Prop) (D : Prop) : Prop :=
  (∃ a m', e.perform m = (.ok a, m') ∧ P a m') ∨ (∃ m', e.perform m = (.error .detached, m')) ∧ D

theorem Edit.Reaches.ok {α : Type} {e : Edit α} {m m' : Module} {a : α} {P : α → Module → Prop}
    {D : Prop} (h : e.perform m = (.ok a, m')) (hP : P a m') : e.Reaches m P D :=
  .inl ⟨a, m', h, hP⟩

theorem Edit.Reaches.bind {α β : Type} {e : Edit α} {next : α → Edit β} {m : Module}
    {P : α → Module → Prop} {Q : β → Module → Prop} {D : Prop} (h : e.Reaches m P D)
    (hnext : ∀ a m', P a m' → (next a).Reaches m' Q D) : (e >>= next).Reaches m Q D := by
  rcases h with ⟨a, mid, he, hP⟩ | ⟨⟨mid, he⟩, hD⟩
  · have hbind : ∀ r m', (next a).perform mid = (r, m') → (e >>= next).perform m = (r, m') := by
      intro r m' h
      rw [Edit.perform_bind, he]
      exact h
    rcases hnext a mid hP with ⟨b, m', h, hQ⟩ | ⟨⟨m', h⟩, hD⟩
    · exact .inl ⟨b, m', hbind _ _ h, hQ⟩
    · exact .inr ⟨⟨m', hbind _ _ h⟩, hD⟩
  · exact .inr ⟨⟨mid, by rw [Edit.perform_bind, he]⟩, hD⟩

theorem Edit.Reaches.ask {α β : Type} {question : Module → Except Fault α} {next : α → Edit β}
    {m : Module} {a : α} {Q : β → Module → Prop} {D : Prop} (h : question m = .ok a)
    (hnext : (next a).Reaches m Q D) : (Edit.ask question >>= next).Reaches m Q D := by
  have hask : (Edit.ask question).Reaches m (fun b mid => b = a ∧ mid = m) D :=
    .ok ((Edit.perform_ask question m).trans (congrArg (·, m) h)) ⟨rfl, rfl⟩
  refine hask.bind fun b mid hb => ?_
  obtain ⟨rfl, rfl⟩ := hb
  exact hnext

theorem insertImport_reaches {legacy : List LegacyImport} (hlegacy : legacy ≠ [])
    (hanchor : ∀ l ∈ legacy, l.stmt.isImport = true) (source name : Text) (asName : Option Text)
    {m : Module} (hm : m.Sound) :
    (insertImport legacy source name asName).Reaches m (fun _ m' => m'.Sound)
      (∃ l ∈ legacy, l.attached = false) := by
  obtain ⟨⟨anchor, attached⟩, rest, rfl⟩ := List.exists_cons_of_ne_nil hlegacy
  cases attached with
  | true =>
    refine .ok rfl (Module.sound_of_content (m := m) ?_ hm)
    refine (Stmt.spliceBlock_content (fun _ => Stmt.takesFrom_isImport) _ _ ?_).1.symm
    rw [List.forall_mem_singleton]
    exact List.forall_mem_cons.2
      ⟨rfl, List.forall_mem_singleton.2 (hanchor _ List.mem_cons_self)⟩
  | false => exact .inr ⟨⟨m, rfl⟩, _, List.mem_cons_self, rfl⟩

theorem dropLegacyImports_reaches (legacy : List LegacyImport) (used : List Text)
    (before : List (List Stmt)) (m : Module) :
    (dropLegacyImports legacy used before).Reaches m (fun _ _ => True)
      (∃ l ∈ legacy, l.attached = false) := by
  by_cases hattached : ∀ l ∈ legacy, l.attached = true
  · exact .ok (dropLegacyImports_all hattached m) trivial
  · have hdetached : ∃ l ∈ legacy, l.attached = false := by simpa using hattached
    rw [Edit.Reaches, dropLegacyImports, Edit.perform_bind, Edit.perform_modify]
    dsimp only
    split
    · exact .inr ⟨⟨_, rfl⟩, hdetached⟩
    · exact .inl ⟨_, _, rfl, trivial⟩

/-- The stages of a modernization succeed on a sound module, unless an old import has gone. -/
theorem VersionPlan.carryOut_reaches {p : VersionPlan} {m : Module} (hm : m.Sound)
    (hwalk : m.walk.all = .ok p.items) (hlegacy : p.legacy ≠ []) (targetModule targetFunction : Text) :
    (p.carryOut targetModule targetFunction).Reaches m (fun _ _ => True)
      (∃ l ∈ p.legacy, l.attached = false) := by
  obtain ⟨hfault, hmid⟩ := replaceStmts_sound (g := p.collapse) hm fun _ _ => collapse_sound
  have hcollapse : (replaceStmts p.collapse).perform m =
      (.ok (m.replaceStmts p.collapse).count, ⟨(m.replaceStmts p.collapse).now⟩) := by
    change replaceStmts p.collapse m = _
    rw [replaceStmts]
    simp only [hfault]
  have hfinish : ∀ {mid : Module} (before : List (List Stmt)) (next : List Text → Edit (Option VersionReport)),
      mid.Sound → (∀ used mid, (next used).Reaches mid (fun _ _ => True)
        (∃ l ∈ p.legacy, l.attached = false)) →
      (Edit.ask usedNames >>= fun used => dropLegacyImports p.legacy used before >>= fun _ =>
        next used).Reaches mid (fun _ _ => True) (∃ l ∈ p.legacy, l.attached = false) := by
    intro mid before next hmid hnext
    obtain ⟨used, hused⟩ := usedNames_of_sound hmid
    exact .ask hused (.bind (dropLegacyImports_reaches _ _ _ _) fun _ mid _ => hnext used mid)
  refine .bind (.ok (P := fun _ m => m.Sound) hcollapse hmid) fun collapsed mid hmid => ?_
  obtain ⟨rewritten, after, hrewrite, hafter⟩ := rewriteLookups_sound p.callers p.function hmid
  refine .bind (.ok (P := fun _ m => m.Sound) hrewrite hafter) fun rewritten after hafter => ?_
  dsimp only
  split
  · refine .bind (insertImport_reaches hlegacy (fun l hl => Stmt.takesFrom_isImport (mem_legacy hwalk hl).2) _ _ _ hafter) fun _ mid hmid => ?_
    refine hfinish _ _ hmid fun used mid => ?_
    split <;> exact .ok rfl trivial
  · refine hfinish _ _ hafter fun used mid => ?_
    split <;> exact .ok rfl trivial

/-- An old import stands inside a guarded lookup that collapses. -/
def Module.GuardsImport (m : Module) : Prop :=
  ∃ guarded ∈ m.walk.items, ∃ old ∈ m.walk.items,
    (∃ function new, collapse m.lookupNames m.notFoundNames function guarded.2 = some new) ∧
    old.2.takesFrom legacyVersionModule = true ∧ guarded.1 <+: old.1

/-- The modernization of version lookups succeeds on a sound module in which no old import stands
inside a guarded lookup. -/
theorem modernizeVersions_reaches {m : Module} (hm : m.Sound) (targetModule targetFunction : Text) :
    (modernizeVersions targetModule targetFunction).Reaches m (fun _ _ => True) m.GuardsImport := by
  have hwalk : m.walk.all = .ok m.walk.items :=
    Walk.all_ok.2 ⟨Module.walk_fault fun s hs => (hm s hs).isNode, rfl⟩
  -- An old import that has gone stood inside a guarded lookup.
  have hcarryOut : ∀ p : VersionPlan, p.items = m.walk.items → p.callers ≠ [] →
      (p.carryOut targetModule targetFunction).Reaches m (fun _ _ => True) m.GuardsImport := by
    rintro p hitems hcallers
    rw [← hitems] at hwalk
    have hlegacy : p.legacy ≠ [] := by
      obtain ⟨item, hitem, htakes⟩ := VersionPlan.exists_legacy hcallers
      rw [VersionPlan.legacy, legacyImports, ne_eq, List.map_eq_nil_iff, List.filter_eq_nil_iff]
      exact fun hnone => hnone item hitem htakes
    refine (VersionPlan.carryOut_reaches hm hwalk hlegacy targetModule targetFunction).imp_right
      (And.imp_right ?_)
    rintro ⟨l, hl, hgone⟩
    obtain ⟨guarded, hguarded, old, hold, hcollapses, htakes, hprefix⟩ :=
      legacyImports_unattached hl hgone
    rw [hitems] at hguarded hold
    obtain ⟨new, hnew⟩ := Option.isSome_iff_exists.1 hcollapses
    rw [VersionPlan.collapse, VersionPlan.callers_eq hwalk, VersionPlan.notFound_eq hwalk] at hnew
    exact ⟨guarded, hguarded, old, hold, ⟨_, new, hnew⟩, htakes, hprefix⟩
  obtain ⟨existing, hexisting⟩ :=
    firstUnshared_of_sound hm (bindingSites targetModule targetFunction m.walk.items)
  rw [modernizeVersions_eq]
  refine .ask hwalk ?_
  split
  · exact .ok rfl trivial
  rename_i hcallers
  have hcallers : ∀ existing function, (VersionPlan.mk m.walk.items existing function).callers ≠ [] :=
    fun _ _ hnil => hcallers (List.isEmpty_iff.2 hnil)
  refine .ask hexisting ?_
  cases existing with
  | some function => exact hcarryOut _ rfl (hcallers _ _)
  | none =>
    obtain ⟨bound, hbound⟩ := boundNames_of_sound hm none
    obtain ⟨used, hused⟩ := usedNames_of_sound hm
    refine .ask (a := freeName targetFunction (bound ++ used)) ?_ (hcarryOut _ rfl (hcallers _ _))
    rw [hbound, hused]
    rfl

/-! ## Templates -/

/-- A sequence fails when its first part does, or the rest does. -/
theorem bind_error {ε α β : Type} {x : Except ε α} {next : α → Except ε β} {e : ε} :
    (x >>= next) = .error e ↔ x = .error e ∨ ∃ a, x = .ok a ∧ next a = .error e := by
  cases x <;> simp [bind, Except.bind]

/-- A field is named by digits that cannot be read as a number. -/
def BracePiece.Misnumbered (fault : Fault) (piece : BracePiece) : Prop :=
  ∃ field, piece.field = some field ∧ field.name.isDigits = true ∧
    readDigits field.name = .error fault

theorem Numbering.resolve_error {n : Numbering} {name : Text} {count : Nat} {fault : Fault}
    (h : n.resolve name count = .error fault) :
    name.isDigits = true ∧ readDigits name = .error fault := by
  unfold Numbering.resolve at h
  split at h
  · cases h
  · split at h
    · rename_i hdigits
      split at h
      · cases h
      · rename_i hread
        cases h
        exact ⟨hdigits, hread⟩
    · cases h

theorem formatParts_error {args : List Expr} {n : Numbering} {pieces : List BracePiece}
    {fault : Fault} (h : formatParts args n pieces = .error fault) :
    ∃ piece ∈ pieces, piece.Misnumbered fault := by
  induction pieces generalizing n with
  | nil => cases h
  | cons piece rest ih =>
    have hrest : ∀ {n}, formatParts args n rest = .error fault →
        ∃ piece' ∈ piece :: rest, piece'.Misnumbered fault := by
      intro n h
      obtain ⟨piece', hpiece', hfield⟩ := ih h
      exact ⟨piece', List.mem_cons_of_mem _ hpiece', hfield⟩
    rw [formatParts] at h
    split at h
    · rcases bind_error.1 h with h | ⟨_, -, h⟩
      · exact hrest h
      · cases h
    · rename_i field hfield
      rcases bind_error.1 h with h | ⟨_, -, h⟩
      · obtain ⟨hdigits, hread⟩ := Numbering.resolve_error h
        exact ⟨piece, List.mem_cons_self, field, hfield, hdigits, hread⟩
      · split at h
        · split at h
          · rcases bind_error.1 h with h | ⟨_, -, h⟩
            · exact hrest h
            · cases h
          · cases h
        · cases h

/-- An expression formats a template with simple arguments, and a field of the template is named by
digits that cannot be read as a number. -/
inductive Expr.Misnumbers (fault : Fault) : Expr → Prop
  | format {template args pieces piece} (hsimple : args.all Expr.isSimple = true)
    (hpieces : braceTemplate template = some pieces) (hpiece : piece ∈ pieces)
    (h : piece.Misnumbered fault) :
    Misnumbers fault (.call (.attribute (.string template) "format") args [])

theorem modernizeFormat_error {e : Expr} {fault : Fault} (h : modernizeFormat e = .error fault) :
    e.Misnumbers fault := by
  unfold modernizeFormat at h
  split at h
  · cases h
  · rename_i template attr args
    split at h
    · rename_i hformat
      obtain ⟨rfl, hsimple⟩ := hformat
      rcases bind_error.1 h with h | ⟨_, -, h⟩
      · unfold formatToPieces at h
        split at h
        · cases h
        · rename_i pieces hpieces
          rcases bind_error.1 h with h | ⟨_, -, h⟩
          · obtain ⟨piece, hpiece, hfield⟩ := formatParts_error h
            exact .format hsimple hpieces hpiece hfield
          · cases h
      · cases h
    · cases h
  · cases h

/-- What an expression has become is the expression itself, if it is a string, an attribute of one, or
simple. -/
structure Expr.Recalls (e e' : Expr) : Prop where
  string : ∀ value, e' = .string value → e = e'
  ofString : ∀ value attr, e' = .attribute (.string value) attr → e = e'
  simple : e'.isSimple = true → e = e'

theorem Expr.isSimple_of_chain {e : Expr} (h : e.chain?.isSome = true) : e.isSimple = true := by
  cases e <;> first | exact h | rfl | cases h

theorem Expr.Recalls.keep {e node : Expr} (h : Expr.Congr Recalls e node) : e.Recalls node where
  string value := by
    rintro rfl
    cases h
    rfl
  ofString value attr := by
    rintro rfl
    cases h with
    | «attribute» hvalue => rw [hvalue.string value rfl]
  simple hsimple := by
    cases h with
    | «attribute» hvalue =>
      have hchain : (Expr.chain? _).isSome = true := hsimple
      rw [Expr.chain?, Option.isSome_map] at hchain
      rw [hvalue.simple (Expr.isSimple_of_chain hchain)]
    | @subscript value value' index index' hvalue hindex =>
      cases index' with
      | name id => rw [hvalue.simple hsimple, hindex.simple rfl]
      | number n => rw [hvalue.simple hsimple, hindex.simple rfl]
      | _ => cases hsimple
    | name | number => rfl
    | _ => cases hsimple

theorem modernizeFormat_recalls : Rewriter.Relates modernizeFormat Expr.Recalls where
  keep hcongr _ := .keep hcongr
  replace _ hnew := by
    obtain ⟨parts, args, rfl, -⟩ := modernizeFormat_some hnew
    exact ⟨nofun, nofun, nofun⟩

theorem Expr.Recalls.all_eq {es es' : List Expr} (h : List.Forall₂ Recalls es es')
    (hsimple : es'.all Expr.isSimple = true) : es = es' := by
  induction h with
  | nil => rfl
  | cons hhead _ ih =>
    rw [List.all_cons, Bool.and_eq_true] at hsimple
    rw [hhead.simple hsimple.1, ih hsimple.2]

/-- An expression that has become one with a field that cannot be read had the field already. -/
theorem Expr.Recalls.misnumbers {e node : Expr} {fault : Fault} (h : Expr.Congr Recalls e node)
    (hnode : node.Misnumbers fault) : e.Misnumbers fault := by
  cases hnode with
  | format hsimple hpieces hpiece hfield =>
    cases h with
    | call hfunc hargs hkeywords =>
      cases hkeywords
      rw [hfunc.ofString _ _ rfl, Expr.Recalls.all_eq hargs hsimple]
      exact .format hsimple hpieces hpiece hfield

/-- Some expression of a module formats a template in which a field is named by digits that cannot be
read as a number. -/
def Module.Misnumbers (m : Module) (fault : Fault) : Prop :=
  ∃ s ∈ Stmt.nodesIn m.body, ∃ e ∈ s.exprs, ∃ n : Expr, n.Within e ∧ n.Misnumbers fault

theorem modernizeStrings_outcome {m : Module} (hm : m.Sound) :
    (∃ n m', modernizeStrings.perform m = (.ok n, m')) ∨
      ∃ fault m', modernizeStrings.perform m = (.error fault, m') ∧ m.Misnumbers fault := by
  refine rewriteExprs_outcome modernizeFormat_recalls hm ?_
  intro s hs e he n hn node fault hcongr hfault
  exact ⟨s, hs, e, he, n, hn, Expr.Recalls.misnumbers hcongr (modernizeFormat_error hfault)⟩

/-- A superscript is a digit, but not a decimal one. -/
example : readDigits "\u00b2" = .error (.notDecimal "\u00b2") := by cbv

/-! ## All modernizations -/

/-- An edit of a module succeeds. -/
def Edit.Succeeds {α : Type} (e : Edit α) (m : Module) : Prop := ∃ a m', e.perform m = (.ok a, m')

/-- On a module that passes validation and whose imports import something, every modernization
succeeds, unless an old import stands inside a guarded lookup that collapses, or a field of a template
is named by digits that cannot be read as a number. -/
theorem modernizations_end {m : Module} (hvalid : m.validate true = .ok ()) (hnamed : m.Named) :
    (∀ table, (renameLegacyImports table).Succeeds m) ∧ dropUnusedImports.Succeeds m ∧
      sortImports.Succeeds m ∧ (∀ hints, (annotateReturns hints).Succeeds m) ∧
      (∀ targetModule targetFunction, (modernizeVersions targetModule targetFunction).Succeeds m ∨
        m.GuardsImport ∧
          ∃ m', (modernizeVersions targetModule targetFunction).perform m = (.error .detached, m')) ∧
      (modernizeStrings.Succeeds m ∨
        ∃ fault, m.Misnumbers fault ∧ ∃ m', modernizeStrings.perform m = (.error fault, m')) := by
  have hm : m.Sound := (Module.validate_ok.1 hvalid).2
  refine ⟨fun table => renameThrough_sound _ hm, dropUnusedImports_sound hm, sortImports_named hnamed,
    fun hints => annotateReturns_always hints m, fun targetModule targetFunction => ?_, ?_⟩
  · rcases modernizeVersions_reaches hm targetModule targetFunction with
      ⟨report, m', hrun, -⟩ | ⟨hdetached, hguards⟩
    · exact .inl ⟨report, m', hrun⟩
    · exact .inr ⟨hguards, hdetached⟩
  · rcases modernizeStrings_outcome hm with hok | ⟨fault, m', hrun, hmisnumbers⟩
    · exact .inl hok
    · exact .inr ⟨fault, hmisnumbers, m', hrun⟩

theorem modernizations_end_sample :
    lookupSample.validate true = .ok () ∧ lookupSample.Named ∧ sortImports.Succeeds lookupSample ∧
      dropUnusedImports.Succeeds lookupSample := by
  have hvalid : lookupSample.validate true = .ok () := rfl
  have hnamed : lookupSample.Named := by
    intro s hs
    cases List.mem_singleton.1 hs
    rfl
  obtain ⟨-, hdrop, hsort, -⟩ := modernizations_end hvalid hnamed
  exact ⟨hvalid, hnamed, hsort, hdrop⟩

/-- A guarded lookup by a name that only its handler imports. -/
def guardedImportSample : Module :=
  ⟨[.tryExcept [.assign [.name "v"]
      (.attribute (.call (.name "get_distribution") [.string "x"] []) "version") none]
    [.mk (some (.name "DistributionNotFound")) none
      [.importFrom (some "pkg_resources") [⟨"get_distribution", none⟩] 0 none]] [] [] none]⟩

/-- The import goes with the handler, and what is to stand in front of it cannot be put anywhere. -/
theorem modernizeVersions_detached :
    guardedImportSample.validate true = .ok () ∧ guardedImportSample.Named ∧
      (modernizeVersions "importlib.metadata" "version").perform guardedImportSample =
        (.error .detached, ⟨[.assign [.name "v"] (.call (.name "version") [.string "x"] []) none]⟩) ∧
      ¬(modernizeVersions "importlib.metadata" "version").Succeeds guardedImportSample := by
  have hrun : (modernizeVersions "importlib.metadata" "version").perform guardedImportSample =
      (.error .detached, ⟨[.assign [.name "v"] (.call (.name "version") [.string "x"] []) none]⟩) := rfl
  refine ⟨rfl, ?_, hrun, ?_⟩
  · intro s hs
    cases List.mem_singleton.1 hs
    rfl
  · rintro ⟨a, m', hok⟩
    cases hrun.symm.trans hok

end Refactory
