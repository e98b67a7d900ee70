import Refactory.Modernize.Version
import Refactory.Proofs.Modernize.Honest

/-! # Stages of modernizing version lookups

`VersionPlan` is what the modernization of version lookups finds out before it changes anything, and
`VersionRun` what happens when it succeeds: the module after each stage and what is reported
(`modernizeVersions_ok`). A run that reports nothing has put every old import back in its place
(`modernizeVersions_honest`). -/

namespace Refactory

/-- What is known about a module before its version lookups are changed. -/
structure VersionPlan where
  /-- The statements with their paths. -/
  items : List (Path × Stmt)
  /-- The name that the new function already has, if nothing else binds it. -/
  existing : Option Text
  /-- The name by which the new function is called. -/
  function : Text

namespace VersionPlan

/-- The names that old imports bind to a name of the old module. -/
def bindings (p : VersionPlan) (name : Text) : List Text :=
  bindingsOf name (p.items.flatMap (·.2.takenFrom legacyVersionModule))

/-- The names of the old function. -/
def callers (p : VersionPlan) : List Text := p.bindings legacyVersionFunction

/-- What a guarded lookup collapses into. -/
def collapse (p : VersionPlan) : Stmt → Option (List Stmt) :=
  Refactory.collapse p.callers (p.bindings legacyNotFound) p.function

/-- What becomes of an expression. -/
def lookup (p : VersionPlan) : Rewriter := fun e => .ok (lookupCall p.callers p.function e)

/-- The old imports. -/
def legacy (p : VersionPlan) : List LegacyImport :=
  legacyImports p.items fun s => (p.collapse s).isSome

/-- The name under which the new function is imported, if it is not its own. -/
def asName (p : VersionPlan) (targetFunction : Text) : Option Text :=
  if p.function = targetFunction then none else some p.function

/-- The import of the new function, where the first old import stands. -/
def newImport (p : VersionPlan) (targetModule targetFunction : Text) : Stmt :=
  .importFrom (some targetModule) [⟨targetFunction, p.asName targetFunction⟩] 0
    ((p.legacy.head?.map (·.stmt.location)).getD none)

/-- A plan is what a module gives. -/
structure Of (p : VersionPlan) (targetModule targetFunction : Text) (m : Module) : Prop where
  walk : m.walk.all = .ok p.items
  existing : firstUnshared m (bindingSites targetModule targetFunction p.items) = .ok p.existing
  function : p.existing = some p.function ∨ p.existing = none ∧ ∃ bound used,
    boundNames m none = .ok bound ∧ usedNames m = .ok used ∧
      p.function = freeName targetFunction (bound ++ used)

end VersionPlan

/-- The stages of a modernization that succeeds. -/
structure VersionRun (p : VersionPlan) (targetModule targetFunction : Text) (m : Module)
    (report : Option VersionReport) (m' : Module) where
  of : p.Of targetModule targetFunction m
  collapsed : Nat
  afterCollapse : Module
  collapse : (replaceStmts p.collapse).perform m = (.ok collapsed, afterCollapse)
  rewritten : Nat
  afterRewrite : Module
  rewrite : (rewriteExprs p.lookup).perform afterCollapse = (.ok rewritten, afterRewrite)
  inserted : Bool
  inserted_eq : inserted = (p.existing.isNone && (0 < collapsed || 0 < rewritten))
  afterInsert : Module
  insert : inserted = true → (insertImport p.legacy targetModule targetFunction
    (p.asName targetFunction)).perform afterRewrite = (.ok (), afterInsert)
  noInsert : inserted = false → afterInsert = afterRewrite
  used : List Text
  usedNames : usedNames afterInsert = .ok used
  drop : (dropLegacyImports p.legacy used
    (if inserted && targetModule = legacyVersionModule then [[p.newImport targetModule targetFunction]]
      else [])).perform afterInsert = (.ok (), m')
  report_eq : report =
    if collapsed = 0 && rewritten = 0 && !inserted && (p.legacy.flatMap (·.dropped used)).isEmpty then
      none
    else some ⟨collapsed, rewritten, p.legacy.flatMap (·.dropped used), inserted⟩

/-- The stages that change the module. -/
def VersionPlan.carryOut (p : VersionPlan) (targetModule targetFunction : Text) :
    Edit (Option VersionReport) := do
  let collapsed ← replaceStmts p.collapse
  let rewritten ← rewriteExprs p.lookup
  let inserted := p.existing.isNone && (0 < collapsed || 0 < rewritten)
  if inserted then insertImport p.legacy targetModule targetFunction (p.asName targetFunction)
  let used ← Edit.ask usedNames
  dropLegacyImports p.legacy used
    (if inserted && targetModule = legacyVersionModule then [[p.newImport targetModule targetFunction]]
      else [])
  let removed := p.legacy.flatMap (·.dropped used)
  if collapsed = 0 && rewritten = 0 && !inserted && removed.isEmpty then return none
  else return some ⟨collapsed, rewritten, removed, inserted⟩

theorem modernizeVersions_eq (targetModule targetFunction : Text) :
    modernizeVersions targetModule targetFunction = (do
      let items ← Edit.ask fun m => m.walk.all
      if (VersionPlan.mk items none []).callers.isEmpty then return none
      else
        let existing ← Edit.ask fun m =>
          firstUnshared m (bindingSites targetModule targetFunction items)
        let function ← match existing with
          | some name => pure name
          | none => Edit.ask fun m => do
            return freeName targetFunction ((← boundNames m none) ++ (← usedNames m))
        (VersionPlan.mk items existing function).carryOut targetModule targetFunction) := rfl

theorem VersionPlan.carryOut_ok {p : VersionPlan} {targetModule targetFunction : Text}
    {m m' : Module} {report : Option VersionReport} (of : p.Of targetModule targetFunction m)
    (h : (p.carryOut targetModule targetFunction).perform m = (.ok report, m')) :
    Nonempty (VersionRun p targetModule targetFunction m report m') := by
  rw [carryOut, Edit.perform_bind_ok] at h
  obtain ⟨collapsed, afterCollapse, hcollapse, h⟩ := h
  rw [Edit.perform_bind_ok] at h
  obtain ⟨rewritten, afterRewrite, hrewrite, h⟩ := h
  dsimp only at h
  generalize hinserted : (p.existing.isNone && (0 < collapsed || 0 < rewritten)) = inserted at h
  have htail : ∃ afterInsert, (inserted = true → (insertImport p.legacy targetModule targetFunction
      (p.asName targetFunction)).perform afterRewrite = (.ok (), afterInsert)) ∧
      (inserted = false → afterInsert = afterRewrite) ∧ Edit.perform (do
        let used ← Edit.ask usedNames
        dropLegacyImports p.legacy used
          (if inserted && targetModule = legacyVersionModule then
            [[p.newImport targetModule targetFunction]] else [])
        if collapsed = 0 && rewritten = 0 && !inserted &&
          (p.legacy.flatMap (·.dropped used)).isEmpty then return none
        else return some ⟨collapsed, rewritten, p.legacy.flatMap (·.dropped used), inserted⟩)
        afterInsert = (.ok report, m') := by
    cases inserted with
    | true =>
      rw [if_pos rfl, Edit.perform_bind_ok] at h
      obtain ⟨_, afterInsert, hinsert, h⟩ := h
      exact ⟨afterInsert, fun _ => hinsert, Bool.noConfusion, h⟩
    | false => exact ⟨afterRewrite, Bool.noConfusion, fun _ => rfl, h⟩
  obtain ⟨afterInsert, hinsert, hnoInsert, h⟩ := htail
  rw [Edit.perform_bind_ok] at h
  obtain ⟨used, _, hask, h⟩ := h
  obtain ⟨hused, rfl⟩ := Edit.perform_ask_ok hask
  rw [Edit.perform_bind_ok] at h
  obtain ⟨_, afterDrop, hdrop, h⟩ := h
  have hreport : m' = afterDrop ∧ report =
      if collapsed = 0 && rewritten = 0 && !inserted && (p.legacy.flatMap (·.dropped used)).isEmpty
      then none else some ⟨collapsed, rewritten, p.legacy.flatMap (·.dropped used), inserted⟩ := by
    split at h <;> rename_i hif <;> obtain ⟨hreport, rfl⟩ := Prod.mk.inj h
    · exact ⟨rfl, by rw [if_pos hif]; exact (Except.ok.inj hreport).symm⟩
    · exact ⟨rfl, by rw [if_neg hif]; exact (Except.ok.inj hreport).symm⟩
  obtain ⟨rfl, hreport⟩ := hreport
  exact ⟨⟨of, collapsed, afterCollapse, hcollapse, rewritten, afterRewrite, hrewrite, inserted,
    hinserted.symm, afterInsert, hinsert, hnoInsert, used, hused, hdrop, hreport⟩⟩

/-- A modernization that succeeds has nothing to do, or goes through all stages. -/
theorem modernizeVersions_ok {targetModule targetFunction : Text} {m m' : Module}
    {report : Option VersionReport}
    (h : (modernizeVersions targetModule targetFunction).perform m = (.ok report, m')) :
    (report = none ∧ m' = m ∧
      ∃ p : VersionPlan, m.walk.all = .ok p.items ∧ p.callers = []) ∨
    ∃ p, p.callers ≠ [] ∧ Nonempty (VersionRun p targetModule targetFunction m report m') := by
  rw [modernizeVersions_eq, Edit.perform_bind_ok] at h
  obtain ⟨items, _, hask, h⟩ := h
  obtain ⟨hitems, rfl⟩ := Edit.perform_ask_ok hask
  split at h
  · rename_i hcallers
    obtain ⟨hreport, rfl⟩ := Prod.mk.inj h
    exact .inl ⟨(Except.ok.inj hreport).symm, rfl, _, hitems, List.isEmpty_iff.1 hcallers⟩
  rename_i hcallers
  rw [Edit.perform_bind_ok] at h
  obtain ⟨existing, _, hask, h⟩ := h
  obtain ⟨hexisting, rfl⟩ := Edit.perform_ask_ok hask
  refine .inr ?_
  cases existing with
  | some function =>
    exact ⟨⟨items, some function, function⟩, fun hnone => hcallers (List.isEmpty_iff.2 hnone),
      VersionPlan.carryOut_ok ⟨hitems, hexisting, .inl rfl⟩ h⟩
  | none =>
    simp only [Edit.perform_bind_ok] at h
    obtain ⟨function, _, hfunction, h⟩ := h
    obtain ⟨hname, rfl⟩ := Edit.perform_ask_ok hfunction
    refine ⟨⟨items, none, function⟩, fun hnone => hcallers (List.isEmpty_iff.2 hnone),
      VersionPlan.carryOut_ok ⟨hitems, hexisting, .inr ⟨rfl, ?_⟩⟩ h⟩
    cases hbound : boundNames m none with
    | error f => simp [hbound, bind, Except.bind] at hname
    | ok bound =>
      cases hused : usedNames m with
      | error f => simp [hbound, hused, bind, Except.bind] at hname
      | ok used =>
        simp only [hbound, hused, bind, Except.bind] at hname
        exact ⟨bound, used, rfl, rfl, (Except.ok.inj hname).symm⟩

/-! ## Imports in place -/

theorem Stmt.takesFrom_isImport {source : Text} {s : Stmt} (h : s.takesFrom source = true) :
    s.isImport = true := by
  cases s with
  | importFrom module names level location => rfl
  | _ => cases h

/-- What a splice puts in keeps a property of all imports. -/
theorem Stmt.spliceBlock_eachImport {p : Stmt → Prop} (source : Text) {news : List (List Stmt)}
    {b : List Stmt} (hnews : ∀ new ∈ news, Stmt.EachImport p new) (hb : Stmt.EachImport p b) :
    Stmt.EachImport p (Stmt.spliceBlock (·.takesFrom source) news b).1 := by
  rw [Stmt.EachImport,
    (Stmt.spliceBlock_importList (fun _ => Stmt.takesFrom_isImport) news b).1]
  have himports := Stmt.importListIn_isImport b
  change ∀ s ∈ _, _ at hb
  generalize Stmt.importListIn b = imports at hb himports
  change Stmt.EachImport p _
  induction imports generalizing news with
  | nil => simp [Stmt.spliceBlock]
  | cons s rest ih =>
    rw [List.forall_mem_cons] at hb himports
    have hs : Stmt.EachImport p [s] := by
      rw [Stmt.eachImport_singleton, Stmt.isImport_blocks himports.1]
      exact ⟨fun _ => hb.1, by simp⟩
    simp only [Stmt.spliceBlock, Stmt.eachImport_append]
    cases hit : s.takesFrom source with
    | false =>
      rw [Stmt.splice_other (Stmt.isImport_blocks himports.1) hit]
      exact ⟨hs, ih hnews hb.2 himports.2⟩
    | true =>
      cases news with
      | nil =>
        rw [Stmt.splice_nil (Stmt.isImport_blocks himports.1)]
        exact ⟨hs, ih hnews hb.2 himports.2⟩
      | cons new news =>
        rw [List.forall_mem_cons] at hnews
        rw [Stmt.splice_hit himports.1 hit]
        exact ⟨hnews.1, ih hnews.2 hb.2 himports.2⟩

theorem insertImport_ok {legacy : List LegacyImport} {source name : Text} {asName : Option Text}
    {m m' : Module} (h : (insertImport legacy source name asName).perform m = (.ok (), m')) :
    ∃ anchor rest, legacy = ⟨anchor, true⟩ :: rest ∧
      m' = ⟨(Stmt.spliceBlock (·.takesFrom legacyVersionModule)
        [[.importFrom (some source) [⟨name, asName⟩] 0 anchor.location, anchor]] m.body).1⟩ := by
  unfold insertImport at h
  split at h
  · rename_i anchor hhead
    obtain ⟨rest, rfl⟩ := List.head?_eq_some_iff.1 hhead
    exact ⟨anchor, rest, rfl, (Prod.mk.inj h).2.symm⟩
  · cases h

/-- Old imports are dropped only if each one can be reached. -/
theorem dropLegacyImports_ok {legacy : List LegacyImport} {used : List Text}
    {before : List (List Stmt)} {m m' : Module}
    (h : (dropLegacyImports legacy used before).perform m = (.ok (), m')) :
    (∀ l ∈ legacy, l.attached = true ∨ l.kept used ≠ []) ∧
      m' = ⟨(Stmt.spliceBlock (·.takesFrom legacyVersionModule)
        (before ++ (legacy.filter (·.attached)).map (·.replacement used)) m.body).1⟩ := by
  rw [dropLegacyImports, Edit.perform_bind_ok] at h
  obtain ⟨_, mid, hmodify, h⟩ := h
  rw [Edit.perform_modify, Prod.mk.injEq] at hmodify
  split at h
  · cases h
  rename_i hlength
  have hall : legacy.takeWhile (fun l => l.attached || !(l.kept used).isEmpty) = legacy :=
    (List.takeWhile_prefix _).eq_of_length_le (by omega)
  rw [hall] at hmodify
  refine ⟨fun l hl => ?_, (Prod.mk.inj h).2.symm.trans hmodify.2.symm⟩
  rw [← hall] at hl
  simpa using List.all_eq_true.1 List.all_takeWhile l hl

namespace VersionPlan

variable {p : VersionPlan} {targetModule targetFunction : Text} {m : Module}

/-- The old imports of a plan are those of its module. -/
theorem legacy_stmt (hwalk : m.walk.all = .ok p.items) :
    p.legacy.map (·.stmt) =
      (Stmt.importListIn m.body).filter (·.takesFrom legacyVersionModule) := by
  rw [Stmt.filter_importListIn fun _ => Stmt.takesFrom_isImport, ← Module.walk_all hwalk,
    List.filter_map, legacy, legacyImports, List.map_map]
  rfl

theorem mem_legacy (hwalk : m.walk.all = .ok p.items) {l : LegacyImport} (hl : l ∈ p.legacy) :
    l.stmt ∈ Stmt.importListIn m.body ∧ l.stmt.takesFrom legacyVersionModule = true := by
  have hmem := List.mem_map_of_mem (f := LegacyImport.stmt) hl
  rwa [legacy_stmt hwalk, List.mem_filter] at hmem

/-- If nothing collapses, every old import is still in the tree. -/
theorem attached_of_none (hwalk : m.walk.all = .ok p.items)
    (hnone : ∀ s ∈ Stmt.nodesIn m.body, p.collapse s = none) :
    ∀ l ∈ p.legacy, l.attached = true := by
  have hgone : p.items.filter (fun i => (p.collapse i.2).isSome) = [] := by
    rw [List.filter_eq_nil_iff]
    intro i hi
    have hmem := List.mem_map_of_mem (f := Prod.snd) hi
    rw [Module.walk_all hwalk] at hmem
    simp [hnone _ hmem]
  intro l hl
  unfold legacy legacyImports at hl
  rw [hgone] at hl
  obtain ⟨i, -, rfl⟩ := List.mem_map.1 hl
  rfl

/-- Old imports that are in the tree and keep their names are put back where they stood. -/
theorem splice_legacy (hwalk : m.walk.all = .ok p.items) {used : List Text}
    (hattached : ∀ l ∈ p.legacy, l.attached = true)
    (hkept : ∀ l ∈ p.legacy, l.replacement used = [l.stmt]) :
    (Stmt.spliceBlock (·.takesFrom legacyVersionModule)
      ((p.legacy.filter (·.attached)).map (·.replacement used)) m.body).1 = m.body := by
  rw [List.filter_eq_self.2 hattached, List.map_congr_left hkept]
  have hself := Stmt.spliceBlock_self (@Stmt.takesFrom_isImport legacyVersionModule) [] m.body
  rw [← legacy_stmt hwalk, List.append_nil, List.map_map] at hself
  exact congrArg Prod.fst hself

end VersionPlan

namespace LegacyImport

theorem replacement_importFrom (used : List Text) (module : Option Text) (names : List Alias)
    (level : Int) (location : Option Location) (attached : Bool) :
    let l : LegacyImport := ⟨.importFrom module names level location, attached⟩
    l.replacement used =
      if l.kept used = [] then [] else [.importFrom module (l.kept used) level location] := by
  intro l
  unfold replacement
  cases l.kept used <;> rfl

/-- What is left of an old import is the import of the names that are kept. -/
theorem mem_replacement {used : List Text} {l : LegacyImport} {s : Stmt}
    (hl : l.stmt.takesFrom legacyVersionModule = true) (hs : s ∈ l.replacement used) :
    l.kept used ≠ [] ∧ ∃ module names level location,
      l.stmt = .importFrom module names level location ∧
        s = .importFrom module (l.kept used) level location := by
  obtain ⟨stmt, attached⟩ := l
  cases stmt with
  | importFrom module names level location =>
    rw [replacement_importFrom] at hs
    split at hs
    · cases hs
    · rename_i hkept
      exact ⟨hkept, module, names, level, location, rfl, List.mem_singleton.1 hs⟩
  | _ => cases hl

/-- An old import of which nothing is dropped stays as it is. -/
theorem replacement_self {used : List Text} {l : LegacyImport}
    (hl : l.stmt.takesFrom legacyVersionModule = true) (hnamed : l.stmt.importsNothing = false)
    (hdropped : l.dropped used = []) : l.replacement used = [l.stmt] := by
  obtain ⟨stmt, attached⟩ := l
  cases stmt with
  | importFrom module names level location =>
    have hsource : level = 0 ∧ module = some legacyVersionModule := by
      simpa [Stmt.takesFrom] using hl
    have hkept : kept used ⟨.importFrom module names level location, attached⟩ = names := by
      simp only [dropped, List.map_eq_nil_iff, List.filter_eq_nil_iff, Stmt.takenFrom,
        if_pos hsource, Bool.not_eq_true', Bool.not_eq_false] at hdropped
      simp only [kept, Stmt.takenFrom, if_pos hsource, List.filter_eq_self]
      exact hdropped
    have hne : names ≠ [] := by simpa [Stmt.importsNothing] using hnamed
    rw [replacement_importFrom, hkept, if_neg hne]
  | _ => cases hl

end LegacyImport

/-! ## Honesty -/

/-- What collapses is a guarded lookup, and what is left of it is an assignment of a call. -/
theorem collapse_some {callers notFound : List Text} {function : Text} {s : Stmt} {new : List Stmt}
    (h : collapse callers notFound function s = some new) :
    ∃ targets value at_ handlers location argument,
      s = .tryExcept [.assign targets value at_] handlers [] [] location ∧
        versionArgument? callers value = some argument ∧
        new = [.assign targets (.call (.name function) [argument] []) location] := by
  unfold collapse at h
  split at h
  · rename_i targets value at_ handlers location
    rw [Option.ite_none_right_eq_some, Option.map_eq_some_iff] at h
    obtain ⟨-, argument, hargument, rfl⟩ := h
    exact ⟨targets, value, at_, handlers, location, argument, rfl, hargument, rfl⟩
  · cases h

theorem collapse_turnsImports {q : Stmt → Prop} (callers notFound : List Text) (function : Text) :
    TurnsImports q q (collapse callers notFound function) where
  replace s new h _ := by
    obtain ⟨targets, value, at_, handlers, location, argument, -, -, rfl⟩ := collapse_some h
    simp [Stmt.eachImport_singleton, Stmt.isImport, Stmt.blocks]
  keep _ _ _ h := h

namespace VersionRun

variable {p : VersionPlan} {targetModule targetFunction : Text} {m m' : Module}
  {report : Option VersionReport}

/-- What the imports of a module satisfy, the import of the new function and what is left of an old
import, all imports satisfy in the end. -/
theorem eachImport {q : Stmt → Prop} (r : VersionRun p targetModule targetFunction m report m')
    (hm : Stmt.EachImport q m.body)
    (hnew : ∀ location, q (.importFrom (some targetModule)
      [⟨targetFunction, p.asName targetFunction⟩] 0 location))
    (hkept : ∀ l ∈ p.legacy, q l.stmt → ∀ s ∈ l.replacement r.used, q s) :
    Stmt.EachImport q m'.body := by
  have hlegacy : ∀ l ∈ p.legacy, l.stmt.takesFrom legacyVersionModule = true ∧ q l.stmt :=
    fun l hl => (VersionPlan.mem_legacy r.of.walk hl).symm.imp_right (hm _)
  have hcollapse : Stmt.EachImport q r.afterCollapse.body := by
    obtain ⟨hfault, -, hafter⟩ := replaceStmts_ok r.collapse
    rw [hafter]
    exact Stmt.replaceBlock_eachImport (collapse_turnsImports _ _ _) m.body hm hfault
  have hrewrite : Stmt.EachImport q r.afterRewrite.body := by
    rw [Stmt.EachImport,
      Stmt.rewriteBlock_importList _ _ r.afterRewrite.body (rewriteExprs_ok r.rewrite).1]
    exact hcollapse
  have hinsert : Stmt.EachImport q r.afterInsert.body := by
    cases hinserted : r.inserted with
    | false => exact r.noInsert hinserted ▸ hrewrite
    | true =>
      obtain ⟨anchor, rest, heq, hafter⟩ := insertImport_ok (r.insert hinserted)
      obtain ⟨htakes, hanchor⟩ := hlegacy _ (heq ▸ List.mem_cons_self)
      rw [hafter]
      refine Stmt.spliceBlock_eachImport _ ?_ hrewrite
      rw [List.forall_mem_singleton, Stmt.eachImport_imports]
      · exact List.forall_mem_cons.2 ⟨hnew _, List.forall_mem_singleton.2 hanchor⟩
      · exact List.forall_mem_cons.2
          ⟨rfl, List.forall_mem_singleton.2 (Stmt.takesFrom_isImport htakes)⟩
  rw [(dropLegacyImports_ok r.drop).2]
  refine Stmt.spliceBlock_eachImport _ ?_ hinsert
  intro new hmem
  rcases List.mem_append.1 hmem with hbefore | hafter
  · split at hbefore
    · cases List.mem_singleton.1 hbefore
      exact (Stmt.eachImport_imports (by simp [VersionPlan.newImport, Stmt.isImport])).2
        (List.forall_mem_singleton.2 (hnew _))
    · cases hbefore
  · obtain ⟨l, hl, rfl⟩ := List.mem_map.1 hafter
    have hl := (List.mem_filter.1 hl).1
    refine (Stmt.eachImport_imports fun s hs => ?_).2 (hkept l hl (hlegacy l hl).2)
    obtain ⟨-, _, _, _, _, -, rfl⟩ := LegacyImport.mem_replacement (hlegacy l hl).1 hs
    rfl

/-- The module is named after each stage. -/
theorem named (r : VersionRun p targetModule targetFunction m report m') (hm : m.Named) :
    m'.Named := by
  refine r.eachImport hm (fun _ => rfl) fun l hl _ s hs => ?_
  obtain ⟨hkept, _, _, _, _, -, rfl⟩ :=
    LegacyImport.mem_replacement (VersionPlan.mem_legacy r.of.walk hl).2 hs
  simpa [Stmt.importsNothing] using hkept

theorem report_none (r : VersionRun p targetModule targetFunction m report m')
    (h : report = none) : r.collapsed = 0 ∧ r.rewritten = 0 ∧ r.inserted = false ∧
      ∀ l ∈ p.legacy, l.dropped r.used = [] := by
  have hreport := h.symm.trans r.report_eq
  split at hreport
  · rename_i hnone
    simpa [and_assoc] using hnone
  · cases hreport

/-- With nothing to report, every old import is put back where it stood. -/
theorem unchanged (r : VersionRun p targetModule targetFunction m report m') (hm : m.Named)
    (h : report = none) : m' = m := by
  obtain ⟨hcollapsed, hrewritten, hinserted, hdropped⟩ := r.report_none h
  obtain ⟨hfault, hcount, hafter⟩ := replaceStmts_ok r.collapse
  have hcollapse : r.afterCollapse = m := by
    rw [hafter, Module.replaceStmts, Stmt.replaceBlock_keeps _ _ (hcount.symm.trans hcollapsed)]
  have hrewrite : r.afterRewrite = m := by
    have hnamed : r.afterCollapse.Named := by rwa [hcollapse]
    rw [(rewriteExprs_honest _ hnamed r.rewrite).2 hrewritten, hcollapse]
  have hinsert : r.afterInsert = m := (r.noInsert hinserted).trans hrewrite
  have hattached := VersionPlan.attached_of_none r.of.walk
    (Stmt.replaceBlock_none hfault (hcount.symm.trans hcollapsed))
  have hkept : ∀ l ∈ p.legacy, l.replacement r.used = [l.stmt] := fun l hl => by
    obtain ⟨hmem, htakes⟩ := VersionPlan.mem_legacy r.of.walk hl
    exact LegacyImport.replacement_self htakes (hm _ hmem) (hdropped l hl)
  rw [(dropLegacyImports_ok r.drop).2, hinsert, hinserted]
  exact congrArg Module.mk (VersionPlan.splice_legacy r.of.walk hattached hkept)

end VersionRun

theorem modernizeVersions_honest (targetModule targetFunction : Text) :
    (modernizeVersions targetModule targetFunction).Honest (· = none) := by
  intro m report m' hm h
  rcases modernizeVersions_ok h with ⟨-, rfl, -⟩ | ⟨p, -, ⟨r⟩⟩
  · exact ⟨hm, fun _ => rfl⟩
  · exact ⟨r.named hm, r.unchanged hm⟩

end Refactory
