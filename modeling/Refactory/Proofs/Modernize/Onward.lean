import Refactory.Proofs.Modernize.Settled

/-! # What later modernizations keep

The modernizations of a plan come in a fixed order, and none brings back what one before it has
settled. Formatted strings, dropped imports and ordered imports are all of one kind (`Module.Onward`):
no name that was used gets lost, no lookup comes up, and imports stay or lose unused names. -/

namespace Refactory

/-- From a module to one whose imports are among its own or have lost unused names, where everything
that was used is still used and nothing is looked up that was not. -/
structure Module.Onward (m m' : Module) : Prop where
  isNode : (∀ s ∈ Stmt.nodesIn m.body, s.isNode = true) →
    ∀ s ∈ Stmt.nodesIn m'.body, s.isNode = true
  sound : m.Sound → m'.Sound
  noLookup : ∀ callers, m.NoLookup callers → m'.NoLookup callers
  uses : ∀ x, m.Uses x → m'.Uses x
  imports : ∀ t ∈ Stmt.importListIn m'.body, ∃ s ∈ Stmt.importListIn m.body,
    t = s ∨ ∃ used, (∀ x, m.Uses x → x ∈ used) ∧ t = s.dropUnused used

theorem Module.Onward.refl (m : Module) : m.Onward m :=
  ⟨id, id, fun _ => id, fun _ => id, fun t ht => ⟨t, ht, .inl rfl⟩⟩

/-! ## Imports that lose names -/

theorem Stmt.dropUnused_importsOf (used : List Text) (s : Stmt) (old : Text) :
    (s.dropUnused used).importsOf old ≤ s.importsOf old := by
  cases s with
  | importNames names location => exact List.filter_sublist.countP_le
  | importFrom module names level location =>
    by_cases h : module = some (Text.ofString "__future__") <;>
      simp [Stmt.dropUnused, Stmt.droppable, h, Stmt.setAliases, Stmt.importsOf]
  | _ => exact Nat.le_refl _

theorem Stmt.dropUnused_takesFrom (used : List Text) (s : Stmt) (source : Text) :
    (s.dropUnused used).takesFrom source = s.takesFrom source := by
  cases s with
  | importFrom module names level location =>
    by_cases h : module = some (Text.ofString "__future__") <;>
      simp [Stmt.dropUnused, Stmt.droppable, h, Stmt.setAliases, Stmt.takesFrom]
  | _ => rfl

theorem Stmt.dropUnused_takenFrom {used : List Text} {s : Stmt} {source : Text} {a : Alias}
    (h : a ∈ (s.dropUnused used).takenFrom source) : a ∈ s.takenFrom source := by
  cases s with
  | importFrom module names level location =>
    by_cases hfuture : module = some (Text.ofString "__future__")
    · simpa [Stmt.dropUnused, Stmt.droppable, hfuture] using h
    · simp only [Stmt.dropUnused, Stmt.droppable, hfuture, if_false, Stmt.setAliases,
        Stmt.takenFrom] at h ⊢
      split at h
      · rename_i hsource
        rw [if_pos hsource]
        exact (List.mem_filter.1 h).1
      · cases h
  | _ => cases h

/-- An import that is needed loses no name. -/
theorem Stmt.Needed.dropUnused {m : Module} {s : Stmt} (h : s.Needed m)
    (htakes : s.takesFrom legacyVersionModule = true) {used : List Text}
    (hused : ∀ x, m.Uses x → x ∈ used) : s.dropUnused used = s := by
  refine Stmt.dropUnused_self (Stmt.unusedNames_of_used fun names binding hs a ha => ?_)
  cases s with
  | importFrom module names' level location =>
    have hsource : level = 0 ∧ module = some legacyVersionModule := by
      simpa [Stmt.takesFrom] using htakes
    simp only [Stmt.droppable, Option.ite_none_left_eq_some, Option.some.injEq, Prod.mk.injEq] at hs
    obtain ⟨-, rfl, rfl⟩ := hs
    exact (h.used a (by rwa [Stmt.takenFrom, if_pos hsource])).symm.imp_right (hused _)
  | _ => cases htakes

/-! ## What is kept -/

namespace Module.Onward

variable {m m' : Module} (h : m.Onward m')
include h

theorem sourcesSettled (hm : m.SourcesSettled) : m'.SourcesSettled := by
  refine ⟨h.isNode hm.isNode, fun t ht old hold => ?_⟩
  obtain ⟨s, hs, rfl | ⟨used, -, rfl⟩⟩ := h.imports t ht
  · exact hm.avoids t hs old hold
  · have hle := Stmt.dropUnused_importsOf used s old
    rw [hm.avoids s hs old hold] at hle
    exact Nat.le_zero.1 hle

theorem lookupNames : m'.lookupNames ⊆ m.lookupNames := by
  intro x hx
  obtain ⟨t, ht, a, ha, hname, rfl⟩ := Module.mem_lookupNames.1 hx
  obtain ⟨s, hs, rfl | ⟨used, -, rfl⟩⟩ := h.imports t ht
  · exact Module.mem_lookupNames.2 ⟨t, hs, a, ha, hname, rfl⟩
  · exact Module.mem_lookupNames.2 ⟨s, hs, a, Stmt.dropUnused_takenFrom ha, hname, rfl⟩

theorem versionsSettled (hm : m.VersionsSettled) : m'.VersionsSettled := by
  rcases hm with ⟨hnode, hnone⟩ | hdone
  · exact .inl ⟨h.isNode hnode, List.subset_nil.1 (hnone ▸ h.lookupNames)⟩
  · refine .inr ⟨h.sound hdone.sound, (h.noLookup _ hdone.noLookup).mono h.lookupNames, ?_⟩
    intro t ht htakes
    obtain ⟨s, hs, hts⟩ := h.imports t ht
    have hsource : s.takesFrom legacyVersionModule = true := by
      rcases hts with rfl | ⟨used, -, rfl⟩
      · exact htakes
      · rwa [Stmt.dropUnused_takesFrom] at htakes
    have hneeded := hdone.needed s hs hsource
    have hself : t = s := by
      rcases hts with rfl | ⟨used, hused, rfl⟩
      · rfl
      · exact hneeded.dropUnused hsource hused
    rw [hself]
    exact ⟨hneeded.named, fun a ha => (hneeded.used a ha).imp_left (h.uses _)⟩

end Module.Onward

/-! ## Later modernizations -/

theorem Module.noLookup_of_content {m m' : Module} (h : Stmt.content m.body = Stmt.content m'.body)
    {callers : List Text} (hm : m.NoLookup callers) : m'.NoLookup callers := by
  have htransport := Stmt.content_forall
    (P := fun s => ∀ e ∈ s.exprs, e.All fun n => versionArgument? callers n = none)
    (fun s hs => by simp [Stmt.isImport_exprs hs])
    fun s => by rw [s.surface_exprs]
  rw [Module.NoLookup, htransport] at hm ⊢
  rwa [← h]

/-- A module with the same content and no more imports than have lost unused names. -/
theorem Module.Onward.of_content {m m' : Module} (h : Stmt.content m.body = Stmt.content m'.body)
    (himports : ∀ t ∈ Stmt.importListIn m'.body, ∃ s ∈ Stmt.importListIn m.body,
      t = s ∨ ∃ used, (∀ x, m.Uses x → x ∈ used) ∧ t = s.dropUnused used) : m.Onward m' where
  isNode := Module.isNode_of_content h
  sound := Module.sound_of_content h
  noLookup _ := Module.noLookup_of_content h
  uses x := (Module.uses_of_content h x).1
  imports := himports

theorem modernizeStrings_onward {m m' : Module} {n : Nat}
    (h : modernizeStrings.perform m = (.ok n, m')) : m.Onward m' := by
  have hresult := (rewriteExprs_ok h).1
  have hcongr := Stmt.rewriteBlock_congr modernizeFormat_relates m.body m'.body hresult
  have himports := Stmt.rewriteBlock_importList modernizeFormat m.body m'.body hresult
  refine ⟨fun _ s' hs' => ?_, fun hm s' hs' => ?_, fun callers hm s' hs' e' he' => ?_,
    fun x ⟨s, hs, hx⟩ => ?_, fun t ht => ⟨t, himports ▸ ht, .inl rfl⟩⟩
  · obtain ⟨s, -, hss'⟩ := forall₂_mem_right hcongr hs'
    exact hss'.isNode
  · obtain ⟨s, hs, hss'⟩ := forall₂_mem_right hcongr hs'
    exact hss'.sound (fun h => h.sound) (hm s hs)
  · obtain ⟨s, hs, hss'⟩ := forall₂_mem_right hcongr hs'
    obtain ⟨e, he, hrefines⟩ := forall₂_mem_right hss'.exprs he'
    exact hrefines.lookup callers (hm s hs e he)
  · obtain ⟨s', hs', hss'⟩ := forall₂_mem_left hcongr hs
    exact ⟨s', hs', hss'.mentions hx⟩

theorem dropUnusedImports_onward {m m' : Module} {removed : List Text}
    (h : dropUnusedImports.perform m = (.ok removed, m')) :
    m.Onward m' ∧ Stmt.content m.body = Stmt.content m'.body := by
  obtain ⟨used, hused, -, rfl⟩ := dropUnusedImports_ok h
  have huses := (usedNames_ok hused).2
  have hcontent := (dropUnused_content used m.body).symm
  refine ⟨.of_content hcontent fun t ht => ?_, hcontent⟩
  simp only [Stmt.importListIn_eq, List.mem_flatMap, List.mem_filter, List.mem_map] at ht ⊢
  obtain ⟨_, ⟨⟨s, hs, rfl⟩, -⟩, ht⟩ := ht
  cases himport : s.isImport with
  | false =>
    rw [Stmt.dropUnused_other himport] at ht
    exact ⟨t, ⟨s, hs, ht⟩, .inl rfl⟩
  | true =>
    rw [Stmt.importList_eq, Stmt.dropUnused_isImport, if_pos himport, List.mem_singleton] at ht
    refine ⟨s, ⟨s, hs, ?_⟩, .inr ⟨used, fun x => (huses x).2, ht⟩⟩
    rw [Stmt.importList_eq, if_pos himport]
    exact List.mem_singleton_self s

theorem sortImports_onward {m m' : Module} {n : Nat} (h : sortImports.perform m = (.ok n, m')) :
    m.Onward m' ∧ Stmt.content m.body = Stmt.content m'.body := by
  have hruns := sortImports_ok h
  have hcontent := (sortRuns_again (by simp) hruns).2.symm
  refine ⟨.of_content hcontent fun t ht => ⟨t, ?_, .inl rfl⟩, hcontent⟩
  rw [Stmt.importListIn_eq, List.mem_flatMap] at ht ⊢
  obtain ⟨s, hs, ht⟩ := ht
  exact ⟨s, (sortRuns_perm hruns).1.mem_iff.1 hs, ht⟩

theorem Module.ImportsUsed.sortImports {m m' : Module} {n : Nat} (hm : m.ImportsUsed)
    (h : sortImports.perform m = (.ok n, m')) : m'.ImportsUsed := by
  have hcontent := (sortImports_onward h).2
  have hperm := (sortRuns_perm (sortImports_ok h)).1
  refine ⟨Module.sound_of_content hcontent hm.sound, fun s hs => hm.named s (hperm.mem_iff.1 hs),
    fun s hs names binding hs' a ha => ?_⟩
  exact (hm.used s (hperm.mem_iff.1 hs) names binding hs' a ha).imp_right
    (Module.uses_of_content hcontent _).1

end Refactory
