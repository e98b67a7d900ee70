import Refactory.Proofs.Modernize.Lookups

/-! # What the modernization of version lookups leaves

A modernization that succeeds has found every lookup, the names that it reports as removed are used
nowhere, and of the old imports only what is used is left (`modernizeVersions_complete`). This holds
for every target, also if the new function is itself taken from the old module: its import is then
the first from that module, in front of what is left of the old ones. -/

namespace Refactory

/-! ## Names that are used -/

theorem LegacyImport.kept_congr {used used' : List Text} (h : ∀ x, x ∈ used ↔ x ∈ used')
    (l : LegacyImport) : l.kept used = l.kept used' := by
  unfold LegacyImport.kept
  refine List.filter_congr fun a _ => ?_
  have hcontains : used.contains a.memberBinding = used'.contains a.memberBinding := by
    rw [Bool.eq_iff_iff, List.contains_iff_mem, List.contains_iff_mem, h]
  rw [hcontains]

theorem LegacyImport.replacement_congr {used used' : List Text} (h : ∀ x, x ∈ used ↔ x ∈ used')
    (l : LegacyImport) : l.replacement used = l.replacement used' := by
  rw [LegacyImport.replacement, LegacyImport.replacement, l.kept_congr h]

theorem LegacyImport.not_mem_dropped {used : List Text} {l : LegacyImport} {x : Text}
    (h : x ∈ l.dropped used) : x ∉ used := by
  rw [LegacyImport.dropped, List.mem_map] at h
  obtain ⟨a, ha, rfl⟩ := h
  have hunused := (List.mem_filter.1 ha).2
  simp only [Bool.not_eq_true', Bool.or_eq_false_iff] at hunused
  exact fun hmem => Bool.noConfusion (hunused.1.symm.trans (List.contains_iff_mem.2 hmem))

/-- What is left of a statement that takes names from the old module. -/
def Stmt.pruned (used : List Text) (s : Stmt) : List Stmt := LegacyImport.replacement used ⟨s, true⟩

/-- A name that is left is used, or stands for all. -/
theorem Stmt.mem_pruned {used : List Text} {s t : Stmt}
    (hs : s.takesFrom legacyVersionModule = true) (ht : t ∈ s.pruned used) {a : Alias}
    (ha : a ∈ t.takenFrom legacyVersionModule) :
    a ∈ s.takenFrom legacyVersionModule ∧
      (a.name = Text.ofString "*" ∨ a.memberBinding ∈ used) := by
  obtain ⟨-, module, names, level, location, -, rfl⟩ := LegacyImport.mem_replacement hs ht
  rw [Stmt.takenFrom] at ha
  split at ha
  · rw [LegacyImport.kept, List.mem_filter] at ha
    refine ⟨ha.1, ?_⟩
    simpa [or_comm] using ha.2
  · cases ha

/-! ## Runs -/

namespace VersionRun

variable {p : VersionPlan} {targetModule targetFunction : Text} {m m' : Module}
  {report : Option VersionReport}

/-- The names in use are not changed by imports that come or go. -/
theorem usedNames_after (r : VersionRun p targetModule targetFunction m report m') :
    ∃ used, Refactory.usedNames m' = .ok used ∧ ∀ x, x ∈ r.used ↔ x ∈ used := by
  obtain ⟨hsound, huses⟩ := usedNames_ok r.usedNames
  obtain ⟨used, hused⟩ := usedNames_of_sound (Module.sound_of_content r.content.2 hsound)
  refine ⟨used, hused, fun x => ?_⟩
  rw [huses, (usedNames_ok hused).2]
  exact Module.uses_of_content r.content.2 x

/-- The import of the new function is among those from the old module only if it was inserted. -/
theorem before_ne_nil (r : VersionRun p targetModule targetFunction m report m')
    (h : r.before.flatten ≠ []) :
    targetModule = legacyVersionModule ∧ r.inserted = true ∧
      r.before.flatten = [p.newImport targetModule targetFunction] := by
  unfold before at h ⊢
  split at h
  · rename_i hbefore
    rw [if_pos hbefore]
    rw [Bool.and_eq_true, decide_eq_true_eq] at hbefore
    exact ⟨hbefore.2, hbefore.1, rfl⟩
  · exact (h rfl).elim

theorem report_inserted (r : VersionRun p targetModule targetFunction m report m')
    (h : r.inserted = true) : ∃ done, report = some done ∧ done.inserted = true := by
  have hreport := r.report_eq
  rw [if_neg (by simp [h])] at hreport
  exact ⟨_, hreport, h⟩

theorem report_removed (r : VersionRun p targetModule targetFunction m report m')
    {done : VersionReport} (h : report = some done) :
    done.removed = p.legacy.flatMap (·.dropped r.used) := by
  have hreport := h.symm.trans r.report_eq
  split at hreport
  · cases hreport
  · cases hreport
    rfl

end VersionRun

/-! ## Completeness -/

/-- After a modernization that succeeds on a module in which the old function has a name, no
expression is a lookup by such a name, no removed name is used, and the imports from the old module
are what is left of some that were there, with every name used or standing for all. In front of them
there is at most the import of the new function. -/
theorem modernizeVersions_complete {targetModule targetFunction : Text} {m m' : Module}
    {report : Option VersionReport}
    (h : (modernizeVersions targetModule targetFunction).perform m = (.ok report, m'))
    (hnames : m.lookupNames ≠ []) :
    ∃ items used, m'.walk.all = .ok items ∧ usedNames m' = .ok used ∧
      (∀ item ∈ items, ∃ exprs, item.2.walkExprs.all = .ok exprs ∧
        ∀ caller ∈ m.lookupNames, ∀ argument,
          Expr.attribute (.call (.name caller) [argument] []) "version" ∉ exprs) ∧
      (∀ done, report = some done → ∀ x ∈ done.removed, x ∉ used) ∧
      ∃ new old left, (items.map (·.2)).filter (·.takesFrom legacyVersionModule) = new ++ old ∧
        (new ≠ [] → targetModule = legacyVersionModule ∧
          (∃ done, report = some done ∧ done.inserted = true) ∧
          ∃ asName location, new =
            [.importFrom (some targetModule) [⟨targetFunction, asName⟩] 0 location]) ∧
        List.Sublist left
          ((Stmt.nodesIn m.body).filter (·.takesFrom legacyVersionModule)) ∧
        old = left.flatMap (Stmt.pruned used) ∧
        ∀ s ∈ old, ∀ a ∈ s.takenFrom legacyVersionModule,
          a.name = Text.ofString "*" ∨ a.memberBinding ∈ used := by
  rcases modernizeVersions_ok h with ⟨-, -, p, hwalk, hcallers⟩ | ⟨p, -, ⟨r⟩⟩
  · exact (hnames ((VersionPlan.callers_eq hwalk).symm.trans hcallers)).elim
  have hcallers : p.callers = m.lookupNames := VersionPlan.callers_eq r.of.walk
  obtain ⟨used, hused, hsame⟩ := r.usedNames_after
  have hsound := (usedNames_ok hused).1
  have hwalk : m'.walk.all = .ok m'.walk.items :=
    Walk.all_ok.2 ⟨Module.walk_fault fun s hs => (hsound s hs).isNode, rfl⟩
  have hitems : m'.walk.items.map (·.2) = Stmt.nodesIn m'.body := Module.walk_all hwalk
  refine ⟨m'.walk.items, used, hwalk, hused, ?_, ?_, r.before.flatten, _,
    (p.legacy.filter (·.attached)).map (·.stmt), ?_, ?_, ?_, rfl, ?_⟩
  · intro item hitem
    have hmem : item.2 ∈ Stmt.nodesIn m'.body := hitems ▸ List.mem_map_of_mem hitem
    obtain ⟨exprs, hexprs⟩ := Stmt.walkExprs_of_sound (hsound _ hmem).exprs
    refine ⟨exprs, hexprs, fun caller hcaller argument hlookup => ?_⟩
    obtain ⟨e, he, hwithin⟩ := ((Stmt.walkExprs_all hexprs).2 _).1 hlookup
    have hnone := r.noLookup item.2 hmem e he _ hwithin
    rw [hcallers] at hnone
    simp [versionArgument?, hcaller] at hnone
  · intro done hdone x hx
    rw [r.report_removed hdone, List.mem_flatMap] at hx
    obtain ⟨l, -, hx⟩ := hx
    rw [← hsame]
    exact LegacyImport.not_mem_dropped hx
  · rw [hitems, ← Stmt.filter_importListIn fun _ => Stmt.takesFrom_isImport, r.legacy_dropped,
      List.flatMap_map]
    congr 1
    refine List.flatMap_congr fun l hl => ?_
    rw [l.replacement_congr hsame]
    obtain ⟨stmt, attached⟩ := l
    rw [show attached = true from (List.mem_filter.1 hl).2]
    rfl
  · intro hnew
    obtain ⟨htarget, hinserted, heq⟩ := r.before_ne_nil hnew
    exact ⟨htarget, r.report_inserted hinserted, _, _, heq⟩
  · rw [← Stmt.filter_importListIn fun _ => Stmt.takesFrom_isImport,
      ← VersionPlan.legacy_stmt r.of.walk]
    exact List.filter_sublist.map _
  · intro s hs a ha
    obtain ⟨t, ht, hs⟩ := List.mem_flatMap.1 hs
    obtain ⟨l, hl, rfl⟩ := List.mem_map.1 ht
    have htakes := (VersionPlan.mem_legacy r.of.walk (List.mem_filter.1 hl).1).2
    exact (Stmt.mem_pruned htakes hs ha).2

/-- A guarded lookup, a lookup in the argument of another, and an old import of which one name is
used. -/
def lookupSample : Module :=
  ⟨[.importFrom (some "pkg_resources") [⟨"get_distribution", some "gd"⟩,
      ⟨"DistributionNotFound", none⟩, ⟨"resource_stream", none⟩] 0 none,
    .tryExcept [.assign [.name "v"] (.attribute (.call (.name "gd") [.name "a"] []) "version") none]
      [.mk (some (.name "DistributionNotFound")) none [.pass none]] [] [] none,
    .expr (.attribute (.call (.name "gd")
      [.attribute (.call (.name "gd") [.name "resource_stream"] []) "version"] []) "version") none]⟩

theorem modernizeVersions_complete_sample :
    ∃ done m', (modernizeVersions "importlib.metadata" "version").perform lookupSample =
        (.ok (some done), m') ∧ done.removed = ["gd", "DistributionNotFound"] ∧
      ∃ used, usedNames m' = .ok used ∧ ∀ x ∈ done.removed, x ∉ used := by
  have hrun : ∃ done m', (modernizeVersions "importlib.metadata" "version").perform lookupSample =
      (.ok (some done), m') ∧ done.removed = ["gd", "DistributionNotFound"] := ⟨_, _, rfl, rfl⟩
  obtain ⟨done, m', hrun, hremoved⟩ := hrun
  obtain ⟨-, used, -, hused, -, hunused, -⟩ := modernizeVersions_complete hrun (by decide)
  exact ⟨done, m', hrun, hremoved, used, hused, hunused done rfl⟩

end Refactory
