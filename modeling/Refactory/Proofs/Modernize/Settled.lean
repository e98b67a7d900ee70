import Refactory.Proofs.Modernize.Lookups
import Refactory.Proofs.Modernize.Order

/-! # Modules with nothing left to modernize

For each modernization, what it leaves behind (`_settled`), on which it does nothing when it is run
again (`idle`): no import of a module that has moved, no version lookup, no template, no unused import,
imports in order. -/

namespace Refactory

/-! ## Sources of imports -/

/-- An import of none of the modules. -/
def Stmt.Avoids (olds : List Text) (s : Stmt) : Prop := ∀ old ∈ olds, s.importsOf old = 0

/-- A renamed import imports neither the old module nor what it did not import before. -/
theorem Stmt.renameImport_importsOf {old new key : Text} {s : Stmt} (hnew : new ≠ key)
    (h : key = old ∨ s.importsOf key = 0) : (s.renameImport old new).importsOf key = 0 := by
  cases s with
  | importNames names location =>
    simp only [Stmt.renameImport, Stmt.importsOf, List.countP_eq_zero, List.forall_mem_map] at h ⊢
    intro a ha
    split
    · simpa using hnew
    · rename_i hname
      rcases h with rfl | h
      · simpa using hname
      · exact h a ha
  | importFrom module names level location =>
    simp only [Stmt.renameImport, Stmt.importsOf, ite_eq_right_iff, Nat.one_ne_zero, imp_false,
      not_and] at h ⊢
    intro hlevel
    split
    · simpa using hnew
    · rename_i hmodule
      rcases h with rfl | h
      · exact fun hkey => hmodule ⟨hlevel, hkey⟩
      · exact h hlevel
  | _ => rfl

theorem renameImports_settled {old new : Text} {olds : List Text} {m m' : Module} {n : Nat}
    (hnew : new ∉ old :: olds) (hm : Stmt.EachImport (Stmt.Avoids olds) m.body)
    (h : (renameImports old new).perform m = (.ok n, m')) :
    Stmt.EachImport (Stmt.Avoids (old :: olds)) m'.body ∧
      ∀ s ∈ Stmt.nodesIn m'.body, s.isNode = true := by
  rw [List.mem_cons, not_or] at hnew
  obtain ⟨hfault, -, rfl⟩ := renameImports_ok h
  constructor
  · refine Stmt.replaceBlock_eachImport (renameImport_turnsImports (p := Stmt.Avoids olds)
      (q := Stmt.Avoids (old :: olds)) old new ?_ ?_) m.body hm hfault
    · exact fun s hold hs => List.forall_mem_cons.2 ⟨hold, hs⟩
    · refine fun s _ hs => List.forall_mem_cons.2
        ⟨Stmt.renameImport_importsOf hnew.1 (.inl rfl), fun key hkey => ?_⟩
      exact Stmt.renameImport_importsOf (fun heq => hnew.2 (heq ▸ hkey)) (.inr (hs key hkey))
  · refine Stmt.replaceBlock_isNode (fun s new hs => ?_) m.body hfault
    simp only [Option.ite_none_left_eq_some, Option.some.injEq] at hs
    obtain ⟨hold, rfl⟩ := hs
    have himport : ∀ t ∈ [s.renameImport old new], t.isImport = true := by
      rw [List.forall_mem_singleton, Stmt.renameImport_isImport]
      exact Stmt.isImport_of_importsOf hold
    rw [Stmt.nodesIn_of_imports himport]
    exact fun t ht => Stmt.isImport_isNode (himport t ht)

/-- After a table whose new modules are none of its old ones, none of the old ones is imported. -/
theorem renameThrough_settled {table : List (Text × Text)} {olds : List Text} {m m' : Module}
    {applied : List (Text × Text)}
    (htable : ∀ e ∈ table, e.2 ∉ (table.map (·.1)).reverse ++ olds)
    (hm : Stmt.EachImport (Stmt.Avoids olds) m.body)
    (hnode : table = [] → ∀ s ∈ Stmt.nodesIn m.body, s.isNode = true)
    (h : (renameThrough table).perform m = (.ok applied, m')) :
    Stmt.EachImport (Stmt.Avoids ((table.map (·.1)).reverse ++ olds)) m'.body ∧
      ∀ s ∈ Stmt.nodesIn m'.body, s.isNode = true := by
  induction table generalizing olds m m' applied with
  | nil =>
    cases h
    exact ⟨hm, hnode rfl⟩
  | cons entry rest ih =>
    obtain ⟨old, new⟩ := entry
    simp only [List.map_cons, List.reverse_cons, List.append_assoc, List.singleton_append] at htable ⊢
    rw [List.forall_mem_cons] at htable
    rw [renameThrough, Edit.perform_bind_ok] at h
    obtain ⟨count, mid, hfirst, h⟩ := h
    rw [Edit.perform_bind_ok] at h
    obtain ⟨others, _, hrest, h⟩ := h
    obtain ⟨-, rfl⟩ := Prod.mk.inj h
    obtain ⟨hmid, hnode'⟩ := renameImports_settled
      (fun hmem => htable.1 (List.mem_append_right _ hmem)) hm hfirst
    exact ih htable.2 hmid (fun _ => hnode') hrest

theorem renameImports_idle {old new : Text} {m : Module}
    (hnode : ∀ s ∈ Stmt.nodesIn m.body, s.isNode = true)
    (hm : ∀ s ∈ Stmt.nodesIn m.body, s.importsOf old = 0) :
    (renameImports old new).perform m = (.ok 0, m) := by
  have hstays := Stmt.replaceBlock_stays
    (g := fun s => if s.importsOf old = 0 then none else some [s.renameImport old new])
    m.body fun s hs => ⟨if_pos (hm s hs), hnode s hs⟩
  have hsum : ((Stmt.nodesIn m.body).map (Stmt.importsOf old)).foldr (· + ·) 0 = 0 :=
    foldr_add_eq_zero.2 (List.forall_mem_map.2 hm)
  change renameImports old new m = _
  rw [renameImports]
  simp only [Module.replaceStmts, hstays.fault, hstays.now, hstays.seen, hsum]

theorem renameThrough_idle {table : List (Text × Text)} {m : Module}
    (hnode : ∀ s ∈ Stmt.nodesIn m.body, s.isNode = true)
    (hm : Stmt.EachImport (Stmt.Avoids (table.map (·.1))) m.body) :
    (renameThrough table).perform m = (.ok [], m) := by
  have hall : ∀ s ∈ Stmt.nodesIn m.body, s.Avoids (table.map (·.1)) := by
    intro s hs old hold
    cases himport : s.isImport with
    | false => exact Stmt.importsOf_other himport old
    | true =>
      refine hm s ?_ old hold
      rw [← Stmt.filter_nodesIn]
      exact List.mem_filter.2 ⟨hs, himport⟩
  clear hm
  induction table with
  | nil => rfl
  | cons entry rest ih =>
    obtain ⟨old, new⟩ := entry
    rw [renameThrough, Edit.perform_bind_ok]
    refine ⟨0, m, renameImports_idle hnode fun s hs => hall s hs old List.mem_cons_self, ?_⟩
    rw [Edit.perform_bind_ok]
    exact ⟨[], m, ih fun s hs key hkey => hall s hs key (List.mem_cons_of_mem _ hkey), rfl⟩

/-- No module that has moved is imported. -/
structure Module.SourcesSettled (m : Module) : Prop where
  isNode : ∀ s ∈ Stmt.nodesIn m.body, s.isNode = true
  avoids : Stmt.EachImport (Stmt.Avoids (legacyModules.map (·.1))) m.body

theorem Module.SourcesSettled.idle {m : Module} (hm : m.SourcesSettled) :
    (renameLegacyImports []).perform m = (.ok [], m) := renameThrough_idle hm.isNode hm.avoids

theorem renameLegacyImports_settled {m m' : Module} {applied : List (Text × Text)}
    (h : (renameLegacyImports []).perform m = (.ok applied, m')) : m'.SourcesSettled := by
  have htable : ∀ e ∈ legacyModules, e.2 ∉ (legacyModules.map (·.1)).reverse ++ [] := by
    decide +kernel
  have hnone : Stmt.EachImport (Stmt.Avoids []) m.body := fun _ _ _ hmem => by cases hmem
  obtain ⟨havoids, hnode⟩ := renameThrough_settled htable hnone (fun hnil => by cases hnil) h
  exact ⟨hnode, fun s hs old hold => havoids s hs old (by simpa using hold)⟩

/-! ## Versions -/

/-- No version is looked up, or there is no name to look it up by. -/
def Module.VersionsSettled (m : Module) : Prop :=
  (∀ s ∈ Stmt.nodesIn m.body, s.isNode = true) ∧ m.lookupNames = [] ∨ m.LookupsDone

theorem Module.VersionsSettled.idle {m : Module} (hm : m.VersionsSettled)
    (targetModule targetFunction : Text) :
    (modernizeVersions targetModule targetFunction).perform m = (.ok none, m) := by
  rcases hm with ⟨hnode, hnone⟩ | hdone
  · exact modernizeVersions_unbound hnode hnone targetModule targetFunction
  · exact hdone.idle targetModule targetFunction

theorem modernizeVersions_settled {targetModule targetFunction : Text} {m m' : Module}
    {report : Option VersionReport} (htarget : targetModule ≠ legacyVersionModule)
    (h : (modernizeVersions targetModule targetFunction).perform m = (.ok report, m')) :
    m'.VersionsSettled := by
  rcases modernizeVersions_ok h with ⟨-, rfl, p, hwalk, hcallers⟩ | ⟨p, -, ⟨r⟩⟩
  · refine .inl ⟨?_, (VersionPlan.callers_eq hwalk).symm.trans hcallers⟩
    exact (Stmt.walkBlock_meets [] 0 m'.body).fault.1 (Walk.all_ok.1 hwalk).1
  · exact .inr (r.lookupsDone htarget)

/-- The import of the new function brings no module back that has moved. -/
theorem Module.SourcesSettled.modernizeVersions {targetModule targetFunction : Text} {m m' : Module}
    {report : Option VersionReport} (hm : m.SourcesSettled)
    (hlegacy : targetModule ∉ legacyModules.map (·.1)) (htarget : targetModule ≠ legacyVersionModule)
    (h : (modernizeVersions targetModule targetFunction).perform m = (.ok report, m')) :
    m'.SourcesSettled := by
  rcases modernizeVersions_ok h with ⟨-, rfl, -⟩ | ⟨p, -, ⟨r⟩⟩
  · exact hm
  refine ⟨fun s hs => ((r.lookupsDone htarget).sound s hs).isNode, r.eachImport hm.avoids ?_ ?_⟩
  · intro location old hold
    have hne : targetModule ≠ old := fun heq => hlegacy (heq ▸ hold)
    simp [Stmt.importsOf, hne]
  · intro l hl hstmt s hs old hold
    obtain ⟨-, module, names, level, location, heq, rfl⟩ :=
      LegacyImport.mem_replacement (VersionPlan.mem_legacy r.of.walk hl).2 hs
    have hold' := hstmt old hold
    rwa [heq] at hold'

/-! ## Strings -/

/-- No template is left that a formatted string could stand for. -/
def Module.StringsSettled (m : Module) : Prop :=
  ∀ s ∈ Stmt.nodesIn m.body, s.AtRest modernizeFormat

theorem Module.StringsSettled.idle {m : Module} (hm : m.StringsSettled) :
    modernizeStrings.perform m = (.ok 0, m) := rewriteExprs_idle hm

theorem modernizeStrings_settled {m m' : Module} {n : Nat}
    (h : modernizeStrings.perform m = (.ok n, m')) : m'.StringsSettled :=
  Stmt.rewriteBlock_atRest modernizeFormat_settles m.body m'.body (rewriteExprs_ok h).1

/-! ## Unused imports -/

/-- Every name of a top-level import is used or stands for all. -/
structure Module.ImportsUsed (m : Module) : Prop where
  sound : m.Sound
  named : ∀ s ∈ m.body, s.importsNothing = false
  used : ∀ s ∈ m.body, ∀ names binding, s.droppable = some (names, binding) →
    ∀ a ∈ names, a.name = Text.ofString "*" ∨ m.Uses (binding a)

theorem Stmt.unusedNames_of_used {s : Stmt} {used : List Text}
    (h : ∀ names binding, s.droppable = some (names, binding) →
      ∀ a ∈ names, a.name = Text.ofString "*" ∨ binding a ∈ used) : s.unusedNames used = [] := by
  unfold Stmt.unusedNames
  split
  · rename_i names binding hs
    simp only [List.map_eq_nil_iff, List.filter_eq_nil_iff]
    exact fun a ha => by simpa [Alias.isKept, or_iff_not_imp_left] using h names binding hs a ha
  · rfl

theorem Module.ImportsUsed.idle {m : Module} (hm : m.ImportsUsed) :
    dropUnusedImports.perform m = (.ok [], m) := by
  obtain ⟨used, hused⟩ := usedNames_of_sound hm.sound
  have huses := (usedNames_ok hused).2
  have hnone : ∀ s ∈ m.body, s.unusedNames used = [] := fun s hs =>
    Stmt.unusedNames_of_used fun names binding hs' a ha =>
      (hm.used s hs names binding hs' a ha).imp_right (huses _).2
  have hself : m.body.map (·.dropUnused used) = m.body :=
    (List.map_congr_left fun s hs => Stmt.dropUnused_self (hnone s hs)).trans (List.map_id _)
  have hnamed : m.body.filter (!·.importsNothing) = m.body := by
    rw [List.filter_eq_self]
    exact fun s hs => by simp [hm.named s hs]
  rw [dropUnusedImports, Edit.perform_bind_ok]
  refine ⟨used, m, by rw [Edit.perform_ask, hused], ?_⟩
  rw [Edit.perform_bind_ok]
  refine ⟨m, m, rfl, ?_⟩
  rw [Edit.perform_bind_ok]
  refine ⟨(), m, ?_, ?_⟩
  · rw [hself, hnamed]
    rfl
  · rw [List.flatMap_eq_nil_iff.2 hnone]
    rfl

/-- Dropping unused imports changes nothing else. -/
theorem dropUnused_content (used : List Text) (b : List Stmt) :
    Stmt.content ((b.map (·.dropUnused used)).filter (!·.importsNothing)) = Stmt.content b := by
  induction b with
  | nil => rfl
  | cons s rest ih =>
    rw [Stmt.content_cons s, List.map_cons, List.filter_cons]
    cases hs : s.isImport with
    | true =>
      have hs' := (Stmt.dropUnused_isImport used s).trans hs
      rw [Stmt.content_import hs, List.nil_append]
      split
      · rw [Stmt.content_cons, Stmt.content_import hs', ih, List.nil_append]
      · exact ih
    | false =>
      rw [Stmt.dropUnused_other hs, if_pos (by rw [Stmt.importsNothing_other hs, Bool.not_false]),
        Stmt.content_cons, ih]

theorem Stmt.droppable_dropUnused {used : List Text} {s : Stmt} {names : List Alias}
    {binding : Alias → Text} (h : (s.dropUnused used).droppable = some (names, binding)) :
    ∀ a ∈ names, a.isKept used binding = true := by
  cases s with
  | importNames names' location =>
    simp only [Stmt.dropUnused, Stmt.droppable, Stmt.setAliases, Option.some.injEq,
      Prod.mk.injEq] at h
    obtain ⟨rfl, rfl⟩ := h
    exact fun a ha => (List.mem_filter.1 ha).2
  | importFrom module names' level location =>
    by_cases hfuture : module = some (Text.ofString "__future__")
    · simp [Stmt.dropUnused, Stmt.droppable, hfuture] at h
    · simp only [Stmt.dropUnused, Stmt.droppable, hfuture, if_false, Stmt.setAliases,
        Option.some.injEq, Prod.mk.injEq] at h
      obtain ⟨rfl, rfl⟩ := h
      exact fun a ha => (List.mem_filter.1 ha).2
  | _ => cases h

theorem dropUnusedImports_settled {m m' : Module} {removed : List Text}
    (h : dropUnusedImports.perform m = (.ok removed, m')) : m'.ImportsUsed := by
  obtain ⟨used, hused, -, rfl⟩ := dropUnusedImports_ok h
  obtain ⟨hsound, huses⟩ := usedNames_ok hused
  have hcontent := (dropUnused_content used m.body).symm
  refine ⟨Module.sound_of_content hcontent hsound, fun s hs => ?_, fun s hs names binding hs' a ha => ?_⟩
  · simpa using (List.mem_filter.1 hs).2
  · obtain ⟨s₀, -, rfl⟩ := List.mem_map.1 (List.mem_filter.1 hs).1
    have hkept := Stmt.droppable_dropUnused hs' a ha
    simp only [Alias.isKept, Bool.or_eq_true, beq_iff_eq, List.contains_iff_mem] at hkept
    exact hkept.imp_right fun hx => (Module.uses_of_content hcontent _).1 ((huses _).1 hx)

/-! ## Order -/

/-- The runs of imports are in order. -/
def Module.ImportsSorted (m : Module) : Prop := sortRuns [] m.body = (m.body, .ok 0)

theorem Module.ImportsSorted.idle {m : Module} (hm : m.ImportsSorted) :
    sortImports.perform m = (.ok 0, m) := by
  change ((sortRuns [] m.body).2, Module.mk (sortRuns [] m.body).1) = _
  rw [hm]

theorem sortImports_settled {m m' : Module} {n : Nat} (h : sortImports.perform m = (.ok n, m')) :
    m'.ImportsSorted := (sortRuns_again (by simp) (sortImports_ok h)).1

end Refactory
