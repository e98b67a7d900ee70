import Mathlib.Data.List.TakeWhile
import Refactory.Proofs.Modernize.Attached
import Refactory.Proofs.Modernize.Strings

/-! # No version lookup left

After version lookups have been modernized none is left, and every old import that is still there is
needed (`VersionRun.lookupsDone`). On a module like that the modernization does nothing
(`Module.LookupsDone.idle`). -/

namespace Refactory

/-- The names that a module binds to the old function. -/
def Module.lookupNames (m : Module) : List Text :=
  bindingsOf legacyVersionFunction
    ((Stmt.nodesIn m.body).flatMap (·.takenFrom legacyVersionModule))

/-- No expression looks a version up by one of the names. -/
def Module.NoLookup (m : Module) (callers : List Text) : Prop :=
  ∀ s ∈ Stmt.nodesIn m.body, ∀ e ∈ s.exprs, e.All fun n => versionArgument? callers n = none

/-- An import takes names from the old module, each of which is used or stands for all. -/
structure Stmt.Needed (m : Module) (s : Stmt) : Prop where
  named : s.importsNothing = false
  used : ∀ a ∈ s.takenFrom legacyVersionModule, m.Uses a.memberBinding ∨ a.name = Text.ofString "*"

/-- The names can be told, nothing is looked up, and old imports are needed. -/
structure Module.LookupsDone (m : Module) : Prop where
  sound : m.Sound
  noLookup : m.NoLookup m.lookupNames
  needed : ∀ s ∈ Stmt.importListIn m.body, s.takesFrom legacyVersionModule = true → s.Needed m

/-! ## Names -/

theorem Stmt.takesFrom_of_mem {source : Text} {s : Stmt} {a : Alias} (h : a ∈ s.takenFrom source) :
    s.takesFrom source = true := by
  cases s with
  | importFrom module names level location =>
    simp only [Stmt.takenFrom] at h
    split at h
    · rename_i hsource
      simp [Stmt.takesFrom, hsource]
    · cases h
  | _ => cases h

theorem Module.mem_lookupNames {m : Module} {x : Text} :
    x ∈ m.lookupNames ↔ ∃ s ∈ Stmt.importListIn m.body, ∃ a ∈ s.takenFrom legacyVersionModule,
      a.name = legacyVersionFunction ∧ a.memberBinding = x := by
  have himport : ∀ s : Stmt, (∃ a, a ∈ s.takenFrom legacyVersionModule) → s.isImport = true :=
    fun s ⟨_, ha⟩ => Stmt.takesFrom_isImport (Stmt.takesFrom_of_mem ha)
  simp only [lookupNames, bindingsOf, List.mem_map, List.mem_filter, List.mem_flatMap, beq_iff_eq,
    ← Stmt.filter_nodesIn]
  constructor
  · rintro ⟨a, ⟨⟨s, hs, ha⟩, hname⟩, hx⟩
    exact ⟨s, ⟨hs, himport s ⟨a, ha⟩⟩, a, ha, hname, hx⟩
  · rintro ⟨s, ⟨hs, -⟩, a, ha, hname, hx⟩
    exact ⟨a, ⟨⟨s, hs, ha⟩, hname⟩, hx⟩

theorem VersionPlan.callers_eq {p : VersionPlan} {m : Module} (hwalk : m.walk.all = .ok p.items) :
    p.callers = m.lookupNames := by
  rw [callers, bindings, Module.lookupNames, ← Module.walk_all hwalk, List.flatMap_map]

/-- Where something is looked up there is an old import. -/
theorem VersionPlan.exists_legacy {p : VersionPlan} (h : p.callers ≠ []) :
    ∃ item ∈ p.items, item.2.takesFrom legacyVersionModule = true := by
  obtain ⟨x, hx⟩ := List.exists_mem_of_ne_nil _ h
  obtain ⟨a, ha, -⟩ := List.mem_map.1 hx
  obtain ⟨item, hitem, ha⟩ := List.mem_flatMap.1 (List.mem_filter.1 ha).1
  exact ⟨item, hitem, Stmt.takesFrom_of_mem ha⟩

theorem versionArgument?_mono {callers callers' : List Text} (hsub : callers' ⊆ callers) {e : Expr}
    (h : versionArgument? callers e = none) : versionArgument? callers' e = none := by
  unfold versionArgument? at h ⊢
  split
  · rename_i id argument attr
    rw [ite_eq_right_iff] at h ⊢
    rintro ⟨hattr, hid⟩
    exact h ⟨hattr, by simpa using hsub (by simpa using hid)⟩
  · rfl

theorem Module.NoLookup.mono {m : Module} {callers callers' : List Text} (h : m.NoLookup callers)
    (hsub : callers' ⊆ callers) : m.NoLookup callers' :=
  fun s hs e he n hn => versionArgument?_mono hsub (h s hs e he n hn)

/-! ## Nothing to do -/

theorem replaceStmts_idle {g : Stmt → Option (List Stmt)} {m : Module}
    (h : ∀ s ∈ Stmt.nodesIn m.body, g s = none ∧ s.isNode = true) :
    (replaceStmts g).perform m = (.ok 0, m) := by
  have hstays := Stmt.replaceBlock_stays m.body h
  change replaceStmts g m = _
  rw [replaceStmts]
  simp only [Module.replaceStmts, hstays.fault, hstays.count, hstays.now]

theorem rewriteExprs_idle {f : Rewriter} {m : Module} (h : ∀ s ∈ Stmt.nodesIn m.body, s.AtRest f) :
    (rewriteExprs f).perform m = (.ok 0, m) := by
  have hstays := Stmt.rewriteBlock_stays m.body h
  change ((Stmt.rewriteBlock f m.body).result.map fun _ => (Stmt.rewriteBlock f m.body).count,
    Module.mk (Stmt.rewriteBlock f m.body).now) = _
  rw [Visit.now, hstays.result, hstays.count]
  rfl

/-- A guarded lookup would be a lookup. -/
theorem Module.NoLookup.collapse {m : Module} {callers : List Text} (h : m.NoLookup callers)
    (notFound : List Text) (function : Text) {s : Stmt} (hs : s ∈ Stmt.nodesIn m.body) :
    collapse callers notFound function s = none := by
  unfold Refactory.collapse
  split
  · rename_i targets value location handlers location'
    have hassign : Stmt.assign targets value location ∈ Stmt.nodesIn m.body :=
      Stmt.nodesIn_trans _ hs (by simp [Stmt.nodes, Stmt.nodesIn])
    rw [h _ hassign value (by simp [Stmt.exprs]) value .self, Option.map_none, ite_self]
  · rfl

theorem Module.NoLookup.atRest {m : Module} {callers : List Text} (h : m.NoLookup callers)
    (hm : m.Sound) (function : Text) {s : Stmt} (hs : s ∈ Stmt.nodesIn m.body) :
    s.AtRest fun e => .ok (lookupCall callers function e) := by
  refine ⟨(hm s hs).isNode, fun e he n hn => ⟨?_, ?_⟩⟩
  · rw [lookupCall, h s hs e he n hn, Option.map_none]
  · have hsound := (hm s hs).exprs e he n hn
    cases n <;> first | rfl | cases hsound

theorem dropLegacyImports_all {legacy : List LegacyImport} {used : List Text}
    {before : List (List Stmt)} (h : ∀ l ∈ legacy, l.attached = true) (m : Module) :
    (dropLegacyImports legacy used before).perform m =
      (.ok (), ⟨(Stmt.spliceBlock (·.takesFrom legacyVersionModule)
        (before ++ (legacy.filter (·.attached)).map (·.replacement used)) m.body).1⟩) := by
  have hall : legacy.takeWhile (fun l => l.attached || !(l.kept used).isEmpty) = legacy := by
    rw [List.takeWhile_eq_self_iff]
    exact fun l hl => by simp [h l hl]
  rw [dropLegacyImports, hall, Edit.perform_bind, Edit.perform_modify]
  simp

/-- With no lookup left, all stages do nothing. -/
theorem VersionPlan.carryOut_idle {p : VersionPlan} {m : Module} (hm : m.LookupsDone)
    (hwalk : m.walk.all = .ok p.items) (targetModule targetFunction : Text) :
    (p.carryOut targetModule targetFunction).perform m = (.ok none, m) := by
  have hno : m.NoLookup p.callers := VersionPlan.callers_eq hwalk ▸ hm.noLookup
  have hnone : ∀ s ∈ Stmt.nodesIn m.body, p.collapse s = none := fun s hs =>
    hno.collapse _ _ hs
  have hcollapse : (replaceStmts p.collapse).perform m = (.ok 0, m) :=
    replaceStmts_idle fun s hs => ⟨hnone s hs, (hm.sound s hs).isNode⟩
  have hrewrite : (rewriteExprs p.lookup).perform m = (.ok 0, m) :=
    rewriteExprs_idle fun s hs => hno.atRest hm.sound p.function hs
  obtain ⟨used, hused⟩ := usedNames_of_sound hm.sound
  have huses := (usedNames_ok hused).2
  have hattached := attached_of_none hwalk hnone
  have hdropped : ∀ l ∈ p.legacy, l.dropped used = [] := fun l hl => by
    obtain ⟨hmem, htakes⟩ := mem_legacy hwalk hl
    have hneeded := (hm.needed _ hmem htakes).used
    simp only [LegacyImport.dropped, List.map_eq_nil_iff, List.filter_eq_nil_iff]
    intro a ha
    simpa [huses, or_iff_not_imp_left] using hneeded a ha
  have hkept : ∀ l ∈ p.legacy, l.replacement used = [l.stmt] := fun l hl => by
    obtain ⟨hmem, htakes⟩ := mem_legacy hwalk hl
    exact LegacyImport.replacement_self htakes (hm.needed _ hmem htakes).named (hdropped l hl)
  have hremoved : p.legacy.flatMap (·.dropped used) = [] := List.flatMap_eq_nil_iff.2 hdropped
  have hdrop : (dropLegacyImports p.legacy used []).perform m = (.ok (), m) := by
    rw [dropLegacyImports_all hattached, List.nil_append, splice_legacy hwalk hattached hkept]
  rw [carryOut, Edit.perform_bind_ok]
  refine ⟨0, m, hcollapse, ?_⟩
  rw [Edit.perform_bind_ok]
  refine ⟨0, m, hrewrite, ?_⟩
  have hinserted : (p.existing.isNone && (decide (0 < 0) || decide (0 < 0))) = false := by simp
  simp only [hinserted, Bool.false_eq_true, if_false]
  rw [Edit.perform_bind_ok]
  refine ⟨used, m, by rw [Edit.perform_ask, hused], ?_⟩
  rw [Edit.perform_bind_ok]
  exact ⟨(), m, by simpa using hdrop, by simp [hremoved]⟩

theorem firstUnshared_of_sound {m : Module} (hm : m.Sound) (sites : List (Path × Nat × Text)) :
    ∃ existing, firstUnshared m sites = .ok existing := by
  induction sites with
  | nil => exact ⟨none, rfl⟩
  | cons site rest ih =>
    obtain ⟨path, i, bound⟩ := site
    obtain ⟨names, hnames⟩ := boundNames_of_sound hm (some (path, i))
    obtain ⟨existing, hexisting⟩ := ih
    simp only [firstUnshared, hnames]
    by_cases h : names.contains bound = true
    · exact ⟨existing, (if_pos h).trans hexisting⟩
    · exact ⟨some bound, if_neg h⟩

/-- With no name bound to the old function, there is nothing to look for. -/
theorem modernizeVersions_unbound {m : Module} (hnode : ∀ s ∈ Stmt.nodesIn m.body, s.isNode = true)
    (hnone : m.lookupNames = []) (targetModule targetFunction : Text) :
    (modernizeVersions targetModule targetFunction).perform m = (.ok none, m) := by
  have hwalk : m.walk.all = .ok m.walk.items := Walk.all_ok.2 ⟨Module.walk_fault hnode, rfl⟩
  have hcallers : (VersionPlan.mk m.walk.items none []).callers = [] :=
    (VersionPlan.callers_eq hwalk).trans hnone
  rw [modernizeVersions_eq, Edit.perform_bind_ok]
  refine ⟨m.walk.items, m, by rw [Edit.perform_ask, hwalk], ?_⟩
  rw [hcallers]
  rfl

/-- With no lookup left, the modernization does nothing. -/
theorem Module.LookupsDone.idle {m : Module} (hm : m.LookupsDone)
    (targetModule targetFunction : Text) :
    (modernizeVersions targetModule targetFunction).perform m = (.ok none, m) := by
  have hnode : ∀ s ∈ Stmt.nodesIn m.body, s.isNode = true := fun s hs => (hm.sound s hs).isNode
  by_cases hnone : m.lookupNames = []
  · exact modernizeVersions_unbound hnode hnone targetModule targetFunction
  have hwalk : m.walk.all = .ok m.walk.items := Walk.all_ok.2 ⟨Module.walk_fault hnode, rfl⟩
  have hcallers : (VersionPlan.mk m.walk.items none []).callers ≠ [] := fun h =>
    hnone ((VersionPlan.callers_eq hwalk).symm.trans h)
  obtain ⟨existing, hexisting⟩ :=
    firstUnshared_of_sound hm.sound (bindingSites targetModule targetFunction m.walk.items)
  rw [modernizeVersions_eq, Edit.perform_bind_ok]
  refine ⟨m.walk.items, m, by rw [Edit.perform_ask, hwalk], ?_⟩
  rw [if_neg (by simpa using hcallers), Edit.perform_bind_ok]
  refine ⟨existing, m, by rw [Edit.perform_ask, hexisting], ?_⟩
  cases existing with
  | some function => exact VersionPlan.carryOut_idle hm hwalk targetModule targetFunction
  | none =>
    obtain ⟨bound, hbound⟩ := boundNames_of_sound hm.sound none
    obtain ⟨used, hused⟩ := usedNames_of_sound hm.sound
    rw [Edit.perform_bind_ok]
    refine ⟨freeName targetFunction (bound ++ used), m, ?_,
      VersionPlan.carryOut_idle hm hwalk targetModule targetFunction⟩
    rw [Edit.perform_ask, hbound, hused]
    rfl

/-! ## After the modernization -/

namespace VersionRun

variable {p : VersionPlan} {targetModule targetFunction : Text} {m m' : Module}
  {report : Option VersionReport}

theorem replacement_isImport (r : VersionRun p targetModule targetFunction m report m') :
    ∀ new ∈ (p.legacy.filter (·.attached)).map (·.replacement r.used), ∀ t ∈ new,
      t.isImport = true := by
  intro new hnew t ht
  obtain ⟨l, hl, rfl⟩ := List.mem_map.1 hnew
  obtain ⟨-, htakes⟩ := VersionPlan.mem_legacy r.of.walk (List.mem_filter.1 hl).1
  obtain ⟨-, _, _, _, _, -, rfl⟩ := LegacyImport.mem_replacement htakes ht
  rfl

/-- What is put in front of the old imports when they are dropped: the import of the new function, if
it looks like one of them. -/
def before (r : VersionRun p targetModule targetFunction m report m') : List (List Stmt) :=
  if r.inserted && targetModule = legacyVersionModule then [[p.newImport targetModule targetFunction]]
  else []

theorem before_of_ne (r : VersionRun p targetModule targetFunction m report m')
    (htarget : targetModule ≠ legacyVersionModule) : r.before = [] := by
  rw [before, if_neg (by simp [htarget])]

theorem before_isImport (r : VersionRun p targetModule targetFunction m report m') :
    ∀ new ∈ r.before, ∀ t ∈ new, t.isImport = true := by
  unfold before
  split
  · exact List.forall_mem_singleton.2 (List.forall_mem_singleton.2 rfl)
  · exact fun _ hnew => by cases hnew

theorem body_eq (r : VersionRun p targetModule targetFunction m report m') :
    m'.body = (Stmt.spliceBlock (·.takesFrom legacyVersionModule)
      (r.before ++ (p.legacy.filter (·.attached)).map (·.replacement r.used))
      r.afterInsert.body).1 :=
  congrArg Module.body (dropLegacyImports_ok r.drop).2

theorem spliced_isImport (r : VersionRun p targetModule targetFunction m report m') :
    ∀ new ∈ r.before ++ (p.legacy.filter (·.attached)).map (·.replacement r.used), ∀ t ∈ new,
      t.isImport = true :=
  List.forall_mem_append.2 ⟨r.before_isImport, r.replacement_isImport⟩

/-- What stands in the tree besides imports is settled by the rewriting. -/
theorem content (r : VersionRun p targetModule targetFunction m report m') :
    Stmt.content r.afterRewrite.body = Stmt.content r.afterInsert.body ∧
      Stmt.content r.afterInsert.body = Stmt.content m'.body := by
  constructor
  · cases hinserted : r.inserted with
    | false => rw [r.noInsert hinserted]
    | true =>
      obtain ⟨anchor, rest, heq, hafter⟩ := insertImport_ok (r.insert hinserted)
      obtain ⟨-, htakes⟩ := VersionPlan.mem_legacy r.of.walk (heq ▸ List.mem_cons_self)
      rw [hafter]
      refine (Stmt.spliceBlock_content (fun _ => Stmt.takesFrom_isImport) _ _ ?_).1.symm
      rw [List.forall_mem_singleton]
      exact List.forall_mem_cons.2
        ⟨rfl, List.forall_mem_singleton.2 (Stmt.takesFrom_isImport htakes)⟩
  · rw [r.body_eq]
    exact (Stmt.spliceBlock_content (fun _ => Stmt.takesFrom_isImport) _ _ r.spliced_isImport).1.symm

/-- The imports from the old module before the drop: the new one, if it looks like an old one, and
those that are attached. -/
theorem legacy_inserted (r : VersionRun p targetModule targetFunction m report m') :
    (Stmt.importListIn r.afterInsert.body).filter (·.takesFrom legacyVersionModule) =
      r.before.flatten ++ (p.legacy.filter (·.attached)).map (·.stmt) := by
  have hrewrite : (Stmt.importListIn r.afterRewrite.body).filter (·.takesFrom legacyVersionModule) =
      (p.legacy.filter (·.attached)).map (·.stmt) := by
    rw [Stmt.rewriteBlock_importList _ _ r.afterRewrite.body (rewriteExprs_ok r.rewrite).1]
    exact r.attached_imports.symm
  cases hinserted : r.inserted with
  | false =>
    rw [r.noInsert hinserted, hrewrite, before, hinserted]
    rfl
  | true =>
    obtain ⟨anchor, rest, heq, hafter⟩ := insertImport_ok (r.insert hinserted)
    have hanchor := (VersionPlan.mem_legacy r.of.walk (heq ▸ List.mem_cons_self)).2
    have hnew : (Stmt.importFrom (some targetModule) [⟨targetFunction, p.asName targetFunction⟩] 0
        anchor.location) = p.newImport targetModule targetFunction := by
      rw [VersionPlan.newImport, heq]
      rfl
    have htakes : (p.newImport targetModule targetFunction).takesFrom legacyVersionModule =
        decide (targetModule = legacyVersionModule) := by
      simp [VersionPlan.newImport, Stmt.takesFrom]
    have hbefore : r.before.flatten =
        [p.newImport targetModule targetFunction].filter (·.takesFrom legacyVersionModule) := by
      rw [before, hinserted, Bool.true_and, List.filter_singleton, htakes]
      cases decide (targetModule = legacyVersionModule) <;> rfl
    rw [hafter, hnew, Stmt.spliceBlock_filter (fun _ => Stmt.takesFrom_isImport), hrewrite, heq]
    · rw [hbefore, List.flatten_singleton, ← List.singleton_append, List.filter_append]
      simp [hanchor]
    · rw [List.forall_mem_singleton]
      exact List.forall_mem_cons.2
        ⟨rfl, List.forall_mem_singleton.2 (Stmt.takesFrom_isImport hanchor)⟩
    · rw [hrewrite, heq]
      simp

/-- The imports from the old module in the end: the new one, if it looks like an old one, and what is
left of those that are attached. -/
theorem legacy_dropped (r : VersionRun p targetModule targetFunction m report m') :
    (Stmt.importListIn m'.body).filter (·.takesFrom legacyVersionModule) =
      r.before.flatten ++ (p.legacy.filter (·.attached)).flatMap (·.replacement r.used) := by
  have hlength : r.before.flatten.length = r.before.length := by
    unfold before
    split <;> rfl
  have htakes : ∀ t ∈ (r.before ++ (p.legacy.filter (·.attached)).map
      (·.replacement r.used)).flatten, t.takesFrom legacyVersionModule = true := by
    rw [List.flatten_append, ← List.flatMap_def]
    refine List.forall_mem_append.2 ⟨fun t ht => ?_, fun t ht => ?_⟩
    · unfold before at ht
      split at ht
      · rename_i hbefore
        rw [Bool.and_eq_true, decide_eq_true_eq] at hbefore
        cases List.mem_singleton.1 ht
        simp [VersionPlan.newImport, Stmt.takesFrom, hbefore.2]
      · cases ht
    · obtain ⟨l, hl, ht⟩ := List.mem_flatMap.1 ht
      obtain ⟨-, hlegacy⟩ := VersionPlan.mem_legacy r.of.walk (List.mem_filter.1 hl).1
      obtain ⟨-, module, names, level, location, hstmt, rfl⟩ :=
        LegacyImport.mem_replacement hlegacy ht
      rw [hstmt] at hlegacy
      exact hlegacy
  rw [r.body_eq, Stmt.spliceBlock_filter (fun _ => Stmt.takesFrom_isImport) r.spliced_isImport,
    r.legacy_inserted, List.filter_eq_self.2 htakes, List.flatten_append, ← List.flatMap_def]
  · rw [List.drop_of_length_le, List.append_nil]
    simp [hlength]
  · rw [r.legacy_inserted]
    simp [hlength]

/-- An old import that is left is what is left of one. -/
theorem legacy_left (r : VersionRun p targetModule targetFunction m report m')
    (htarget : targetModule ≠ legacyVersionModule) {t : Stmt} (ht : t ∈ Stmt.importListIn m'.body)
    (htakes : t.takesFrom legacyVersionModule = true) :
    ∃ l ∈ p.legacy, t ∈ l.replacement r.used := by
  have hmem := List.mem_filter.2 ⟨ht, htakes⟩
  rw [r.legacy_dropped, r.before_of_ne htarget, List.flatten_nil, List.nil_append,
    List.mem_flatMap] at hmem
  obtain ⟨l, hl, ht⟩ := hmem
  exact ⟨l, (List.mem_filter.1 hl).1, ht⟩

/-- The names that an old import still takes were taken before and are needed. -/
theorem mem_takenFrom (r : VersionRun p targetModule targetFunction m report m')
    (htarget : targetModule ≠ legacyVersionModule) {t : Stmt} (ht : t ∈ Stmt.importListIn m'.body)
    (htakes : t.takesFrom legacyVersionModule = true) :
    t.importsNothing = false ∧ ∀ a ∈ t.takenFrom legacyVersionModule,
      (∃ s ∈ Stmt.importListIn m.body, a ∈ s.takenFrom legacyVersionModule) ∧
        (a.memberBinding ∈ r.used ∨ a.name = Text.ofString "*") := by
  obtain ⟨l, hl, ht'⟩ := r.legacy_left htarget ht htakes
  obtain ⟨hmem, hlegacy⟩ := VersionPlan.mem_legacy r.of.walk hl
  obtain ⟨hkept, module, names, level, location, hstmt, rfl⟩ :=
    LegacyImport.mem_replacement hlegacy ht'
  refine ⟨by simpa [Stmt.importsNothing] using hkept, fun a ha => ?_⟩
  have ha : a ∈ l.kept r.used := by
    rw [Stmt.takenFrom] at ha
    split at ha
    · exact ha
    · cases ha
  rw [LegacyImport.kept, List.mem_filter] at ha
  exact ⟨⟨l.stmt, hmem, ha.1⟩, by simpa using ha.2⟩

/-- No expression that is left looks a version up by one of the old names. -/
theorem noLookup (r : VersionRun p targetModule targetFunction m report m') :
    m'.NoLookup p.callers := by
  intro s hs e he n hn
  have hrest := Module.atRest_of_content (r.content.1.trans r.content.2)
    (Stmt.rewriteBlock_atRest (lookupCall_settles p.callers p.function) _ r.afterRewrite.body
      (rewriteExprs_ok r.rewrite).1)
  have hnone := ((hrest s hs).exprs e he n hn).1
  rwa [Except.ok.injEq, lookupCall, Option.map_eq_none_iff] at hnone

/-- No lookup is left after the modernization. -/
theorem lookupsDone (r : VersionRun p targetModule targetFunction m report m')
    (htarget : targetModule ≠ legacyVersionModule) : m'.LookupsDone := by
  have hinsert := r.content.2
  obtain ⟨hsound, huses⟩ := usedNames_ok r.usedNames
  refine ⟨Module.sound_of_content hinsert hsound, r.noLookup.mono fun x hx => ?_,
    fun s hs htakes => ?_⟩
  · obtain ⟨t, ht, a, ha, hname, rfl⟩ := Module.mem_lookupNames.1 hx
    obtain ⟨⟨s, hs, ha'⟩, -⟩ :=
      (r.mem_takenFrom htarget ht (Stmt.takesFrom_of_mem ha)).2 a ha
    rw [VersionPlan.callers_eq r.of.walk]
    exact Module.mem_lookupNames.2 ⟨s, hs, a, ha', hname, rfl⟩
  · obtain ⟨hnamed, hused⟩ := r.mem_takenFrom htarget hs htakes
    exact ⟨hnamed, fun a ha => (hused a ha).2.imp_left fun h =>
      (Module.uses_of_content hinsert _).1 ((huses _).1 h)⟩

end VersionRun

end Refactory
