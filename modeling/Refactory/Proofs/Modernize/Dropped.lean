import Refactory.Proofs.Modernize.Settled

/-! # What dropping unused imports changes

An imported name stays at the top level just if it is used, stands for all names, or is taken from
`__future__` (`ImportInfo.Stays`). An import loses the names that do not stay, and goes if none does; all
other statements are as they were (`KeepsUsed`). The names in use depend on the content of a module
only (`usedNames_of_content`), and so are the same afterwards. Main statement:
`dropUnusedImports_effect`. -/

namespace Refactory

/-! ## Imported names -/

/-- An imported name is kept: it is used, stands for all names, or is taken from `__future__`. -/
def ImportInfo.Stays (used : List Text) (i : ImportInfo) : Prop :=
  i.boundName ∈ used ∨ i.name = Text.ofString "*" ∨
    (i.isFrom = true ∧ i.source = some (Text.ofString "__future__"))

instance (used : List Text) (i : ImportInfo) : Decidable (i.Stays used) :=
  inferInstanceAs (Decidable (_ ∨ _ ∨ _))

/-- Imports of a block lose the names that do not stay, and go if none does. -/
inductive KeepsUsed (used : List Text) : List Stmt → List Stmt → Prop
  | nil : KeepsUsed used [] []
  | other {s : Stmt} {b b' : List Stmt} (hs : s.isImport = false) (rest : KeepsUsed used b b') :
    KeepsUsed used (s :: b) (s :: b')
  | keep {s : Stmt} {names : List Alias} {b b' : List Stmt} (hs : s.isImport = true)
    (hsome : ∃ i ∈ s.imports, i.Stays used)
    (himports : (s.setAliases names).imports = s.imports.filter fun i => i.Stays used)
    (rest : KeepsUsed used b b') : KeepsUsed used (s :: b) (s.setAliases names :: b')
  | drop {s : Stmt} {b b' : List Stmt} (hs : s.isImport = true)
    (hnone : ∀ i ∈ s.imports, ¬i.Stays used) (rest : KeepsUsed used b b') :
    KeepsUsed used (s :: b) b'

/-- What can be dropped from an import is recorded with the name that it binds. -/
theorem Stmt.droppable_imports {s : Stmt} {names : List Alias} {binding : Alias → Text}
    (h : s.droppable = some (names, binding)) :
    ∃ record : Alias → ImportInfo, s.imports = names.map record ∧
      (∀ others, (s.setAliases others).imports = others.map record) ∧
      (∀ a, (record a).boundName = binding a) ∧
      ∀ used a, (record a).Stays used ↔ a.isKept used binding = true := by
  cases s with
  | importNames aliases location =>
    cases h
    refine ⟨_, rfl, fun _ => rfl, fun _ => rfl, ?_⟩
    intro used a
    simp [Alias.isKept, ImportInfo.Stays, ImportInfo.boundName, or_comm]
  | importFrom module aliases level location =>
    rw [droppable, Option.ite_none_left_eq_some] at h
    obtain ⟨hmodule, h⟩ := h
    cases h
    refine ⟨_, rfl, fun _ => rfl, fun _ => rfl, ?_⟩
    intro used a
    simp [Alias.isKept, ImportInfo.Stays, ImportInfo.boundName, or_comm, hmodule]
  | _ => cases h

/-- All names stay of a statement from which none can be dropped. -/
theorem Stmt.stays_of_droppable {s : Stmt} (h : s.droppable = none) (used : List Text) :
    ∀ i ∈ s.imports, i.Stays used := by
  cases s with
  | importNames aliases location => cases h
  | importFrom module aliases level location =>
    rw [droppable, ite_eq_left_iff] at h
    have hmodule : module = some (Text.ofString "__future__") := by
      by_contra hother
      cases h hother
    intro i hi
    obtain ⟨a, -, rfl⟩ := List.mem_map.1 hi
    exact .inr (.inr ⟨rfl, hmodule⟩)
  | _ => exact List.forall_mem_nil _

theorem Stmt.dropUnused_imports (used : List Text) (s : Stmt) :
    (s.dropUnused used).imports = s.imports.filter fun i => i.Stays used := by
  unfold dropUnused
  split
  · rename_i names binding hs
    obtain ⟨record, himports, hset, -, hstays⟩ := droppable_imports hs
    rw [himports, hset, List.filter_map]
    refine congrArg _ (List.filter_congr ?_)
    intro a _
    rw [Bool.eq_iff_iff, ← hstays]
    simp
  · rename_i hs
    refine (List.filter_eq_self.2 ?_).symm
    intro i hi
    exact decide_eq_true (stays_of_droppable hs used i hi)

theorem Stmt.unusedNames_eq (used : List Text) (s : Stmt) :
    s.unusedNames used = (s.imports.filter fun i => ¬i.Stays used).map ImportInfo.boundName := by
  unfold unusedNames
  split
  · rename_i names binding hs
    obtain ⟨record, himports, -, hbound, hstays⟩ := droppable_imports hs
    rw [himports, List.filter_map, List.map_map]
    have hnames : ImportInfo.boundName ∘ record = binding := funext hbound
    rw [hnames]
    refine congrArg _ (List.filter_congr ?_)
    intro a _
    rw [Bool.eq_iff_iff, Bool.not_eq_true', ← Bool.not_eq_true, ← hstays]
    simp
  · rename_i hs
    rw [List.filter_eq_nil_iff.2, List.map_nil]
    intro i hi
    simpa using stays_of_droppable hs used i hi

theorem Stmt.dropUnused_setAliases (used : List Text) {s : Stmt} (hs : s.isImport = true) :
    ∃ names, s.dropUnused used = s.setAliases names := by
  unfold dropUnused
  split
  · exact ⟨_, rfl⟩
  · cases s with
    | importNames aliases location | importFrom module aliases level location =>
      exact ⟨aliases, rfl⟩
    | _ => cases hs

theorem Stmt.importsNothing_iff {s : Stmt} (hs : s.isImport = true) :
    s.importsNothing = true ↔ s.imports = [] := by
  cases s with
  | importNames aliases location | importFrom module aliases level location =>
    simp [importsNothing, imports]
  | _ => cases hs

/-- The block that is left without unused imports. -/
theorem keepsUsed_dropUnused (used : List Text) (b : List Stmt) :
    KeepsUsed used b ((b.map (·.dropUnused used)).filter (!·.importsNothing)) := by
  induction b with
  | nil => exact .nil
  | cons s rest ih =>
    rw [List.map_cons]
    cases hs : s.isImport with
    | false =>
      rw [Stmt.dropUnused_other hs, List.filter_cons_of_pos (by rw [Stmt.importsNothing_other hs]; rfl)]
      exact .other hs ih
    | true =>
      have himport : (s.dropUnused used).isImport = true := (Stmt.dropUnused_isImport used s).trans hs
      have hnothing := Stmt.importsNothing_iff himport
      have himports := Stmt.dropUnused_imports used s
      cases hkept : (s.dropUnused used).importsNothing with
      | true =>
        rw [List.filter_cons_of_neg (by simp [hkept])]
        refine .drop hs ?_ ih
        rw [himports, List.filter_eq_nil_iff] at hnothing
        simpa using hnothing.1 hkept
      | false =>
        rw [List.filter_cons_of_pos (by simp [hkept])]
        obtain ⟨names, hnames⟩ := Stmt.dropUnused_setAliases used hs
        rw [hnames] at himports ⊢
        refine .keep hs ?_ himports ih
        by_contra hnone
        have hempty : (s.setAliases names).imports = [] := by
          rw [himports, List.filter_eq_nil_iff]
          simpa using hnone
        rw [hnames, hempty] at hnothing
        rw [hnames, hnothing.2 rfl] at hkept
        cases hkept

/-! ## Names in use -/

/-- The names that statements use, one after the other. -/
def Stmt.usesEach : List Stmt → Except Fault (List Text)
  | [] => .ok []
  | s :: rest => do return (← s.uses) ++ (← usesEach rest)

theorem Stmt.usesEach_eq (b : List Stmt) :
    Stmt.usesEach b = (b.mapM Stmt.uses).map List.flatten := by
  induction b with
  | nil => rfl
  | cons s rest ih =>
    rw [usesEach, ih, List.mapM_cons]
    cases s.uses with
    | error f => rfl
    | ok names => cases rest.mapM Stmt.uses <;> rfl

theorem usedNames_eq {m : Module} (hm : ∀ s ∈ Stmt.nodesIn m.body, s.isNode = true) :
    usedNames m = Stmt.usesEach (Stmt.nodesIn m.body) := by
  have hfault := Module.walk_fault hm
  rw [Stmt.usesEach_eq, ← Module.walk_items hfault, List.mapM_map]
  change usedNames m = (m.walk.items.mapM fun i : Path × Stmt => i.2.uses).map List.flatten
  rw [usedNames, Walk.collect, Walk.finish, hfault]
  cases m.walk.items.mapM fun i : Path × Stmt => i.2.uses <;> rfl

theorem Stmt.surface_uses (s : Stmt) : s.surface.uses = s.uses := by
  cases s with
  | tryExcept body handlers orelse finalbody location =>
    have hexprs := surface_exprs (.tryExcept body handlers orelse finalbody location)
    change (do return (← (surface _).walkExprs.all).flatMap Expr.mentions ++ []) = _
    rw [walkExprs, hexprs]
    rfl
  | _ => rfl

theorem Stmt.isImport_uses {s : Stmt} (hs : s.isImport = true) : s.uses = .ok [] := by
  cases s with
  | importNames aliases location | importFrom module aliases level location => rfl
  | _ => cases hs

/-- Imports and blocks do not matter for the names in use. -/
theorem Stmt.usesEach_content (b : List Stmt) :
    Stmt.usesEach (Stmt.content b) = Stmt.usesEach (Stmt.nodesIn b) := by
  rw [content]
  induction nodesIn b with
  | nil => rfl
  | cons s rest ih =>
    cases hs : s.isImport with
    | true =>
      rw [List.filter_cons_of_neg (by simp [hs]), ih, usesEach, isImport_uses hs]
      cases usesEach rest <;> rfl
    | false =>
      rw [List.filter_cons_of_pos (by simp [hs]), List.map_cons, usesEach, usesEach, ih, surface_uses]

/-- Modules with the same content use the same names. -/
theorem usedNames_of_content {m m' : Module} (h : Stmt.content m.body = Stmt.content m'.body)
    (hm : ∀ s ∈ Stmt.nodesIn m.body, s.isNode = true) : usedNames m' = usedNames m := by
  rw [usedNames_eq hm, usedNames_eq (Module.isNode_of_content h hm), ← Stmt.usesEach_content, ← h,
    Stmt.usesEach_content]

/-! ## Modules -/

theorem findImports_all {m : Module} (hm : ∀ s ∈ Stmt.nodesIn m.body, s.isNode = true) :
    findImports m none = .ok ((Stmt.nodesIn m.body).flatMap Stmt.imports) := by
  have hfault := Module.walk_fault hm
  rw [findImports, Walk.all_ok.2 ⟨hfault, rfl⟩, ← Module.walk_items hfault, List.flatMap_map]
  exact congrArg Except.ok (List.filter_eq_self.2 fun _ _ => rfl)

/-- Dropping the unused imports of a module whose names in use can be told keeps the imported names that
are used, stand for all or are taken from `__future__`, by the names that the records of imports say are
bound, and reports the others in order. The statements that are no imports stay as they are, and the
names in use are the same afterwards. -/
theorem dropUnusedImports_effect {m : Module} {used : List Text} (h : usedNames m = .ok used) :
    ∃ removed m', dropUnusedImports.perform m = (.ok removed, m') ∧
      findImports m none = .ok ((Stmt.nodesIn m.body).flatMap Stmt.imports) ∧
      KeepsUsed used m.body m'.body ∧
      removed = ((m.body.flatMap Stmt.imports).filter fun i => ¬i.Stays used).map
        ImportInfo.boundName ∧
      usedNames m' = .ok used := by
  have hnode : ∀ s ∈ Stmt.nodesIn m.body, s.isNode = true := fun s hs =>
    ((usedNames_ok h).1 s hs).isNode
  have hrun : dropUnusedImports.perform m = (.ok (m.body.flatMap (·.unusedNames used)),
      ⟨(m.body.map (·.dropUnused used)).filter (!·.importsNothing)⟩) := by
    rw [dropUnusedImports, Edit.perform_bind_ok]
    exact ⟨used, m, by rw [Edit.perform_ask, h], rfl⟩
  refine ⟨_, _, hrun, findImports_all hnode, keepsUsed_dropUnused used m.body, ?_, ?_⟩
  · rw [List.filter_flatMap, List.map_flatMap]
    exact List.flatMap_congr fun s _ => s.unusedNames_eq used
  · rw [usedNames_of_content (dropUnused_content used m.body).symm hnode, h]

/-- A module of imports that are used, used in part, kept for what they are, and not used. -/
def droppedSample : Module :=
  ⟨[.importFrom (some "__future__") [⟨"annotations", none⟩] 0 none,
    .importFrom (some "typing") [⟨"List", none⟩, ⟨"Dict", none⟩] 0 none,
    .importNames [⟨"os.path", none⟩, ⟨"sys", some "system"⟩] none, .importNames [⟨"re", none⟩] none,
    .importFrom (some "base") [⟨"*", none⟩] 1 none,
    .function ⟨"f", [], some (.string "List[str]"), [], false⟩
      [.importNames [⟨"json", none⟩] none, .captured "Delete" (some "del system.x") none] none]⟩

theorem dropUnusedImports_effect_sample :
    ∃ used m', usedNames droppedSample = .ok used ∧
      dropUnusedImports.perform droppedSample =
        (.ok [Text.ofString "Dict", "os", "re"], m') ∧
      KeepsUsed used droppedSample.body m'.body ∧ usedNames m' = .ok used := by
  have hused : usedNames droppedSample = .ok
      [Text.ofString "List", "str", "del", "system", "x"] := rfl
  obtain ⟨removed, m', hrun, -, hkeeps, hremoved, hsame⟩ := dropUnusedImports_effect hused
  have hnames : removed = [Text.ofString "Dict", "os", "re"] := hremoved.trans (by decide)
  exact ⟨_, m', hused, hnames ▸ hrun, hkeeps, hsame⟩

end Refactory
