import Refactory.Batch.Plan
import Refactory.Proofs.Modernize.Onward
import Refactory.Proofs.Session.Effect

/-! # Plans of modernizations are idempotent

A plan that only modernizes leaves a session in which every modernization that it asks for is settled
(`Plan.apply_settled`), and so there is nothing left to do for a second run
(`Plan.apply_again`). -/

namespace Refactory

namespace Session

variable {α : Type}

/-- A recorded edit that succeeds gives the module, and touches nothing but the log besides. -/
theorem record_ok {edit : Edit α} {log : α → Option Change} {s s' : Session} {a : α}
    (h : (record edit log).perform s = (.ok a, s')) :
    edit.perform s.module = (.ok a, s'.module) ∧ s'.targetModule = s.targetModule := by
  rw [perform_record] at h
  rcases hedit : edit.perform s.module with ⟨f | b, after⟩
  · simp [hedit] at h
  · simp only [hedit] at h
    split at h <;> cases h <;> exact ⟨rfl, rfl⟩

theorem record_idle {edit : Edit α} {log : α → Option Change} {s : Session} {a : α}
    (h : edit.perform s.module = (.ok a, s.module)) (hlog : log a = none) :
    (record edit log).perform s = (.ok a, s) := by
  rw [perform_record, h]
  simp only [hlog]

end Session

namespace Step

variable {α β : Type}

theorem perform_bind_ok {p : Step α} {next : α → Step β} {s s' : Session} {b : β} :
    (p >>= next).perform s = (.ok b, s') ↔
      ∃ a mid, p.perform s = (.ok a, mid) ∧ (next a).perform mid = (.ok b, s') := by
  rw [perform_bind]
  constructor
  · intro h
    rcases hp : p.perform s with ⟨f | a, mid⟩ <;> rw [hp] at h
    · cases h
    · exact ⟨a, mid, rfl, h⟩
  · rintro ⟨a, mid, hp, h⟩
    rw [hp]
    exact h

/-- A step of a plan that is done if the plan asks for it. -/
def optional (asked : Bool) (p : Step α) : Step Unit := if asked then (do let _ ← p) else pure ()

theorem optional_bind (asked : Bool) (p : Step α) (next : Step β) :
    (do optional asked p; next) = if asked then (do let _ ← p; next) else next := by
  cases asked <;> simp [optional]

theorem optional_ok {asked : Bool} {p : Step α} {s s' : Session}
    (h : (optional asked p).perform s = (.ok (), s')) :
    (asked = true ∧ ∃ a, p.perform s = (.ok a, s')) ∨ (asked = false ∧ s' = s) := by
  cases asked with
  | false => exact .inr ⟨rfl, (Prod.mk.inj h).2.symm⟩
  | true =>
    obtain ⟨a, mid, hp, h⟩ := perform_bind_ok.1 h
    exact .inl ⟨rfl, a, by rw [hp, (Prod.mk.inj h).2]⟩

theorem optional_idle {asked : Bool} {p : Step α} {s : Session}
    (h : asked = true → ∃ a, p.perform s = (.ok a, s)) :
    (optional asked p).perform s = (.ok (), s) := by
  cases asked with
  | false => rfl
  | true =>
    obtain ⟨a, hp⟩ := h rfl
    exact perform_bind_ok.2 ⟨a, s, hp, rfl⟩

end Step

namespace Plan

/-- A plan that neither renames nor replaces. -/
structure Modernizes (p : Plan) : Prop where
  renameFunctions : p.renameFunctions = []
  renameClasses : p.renameClasses = []
  replaceImports : p.replaceImports = []

/-- The renames of a plan and the imports that it points elsewhere. -/
def front (p : Plan) : Step Unit := do
  p.renameFunctions.forM fun pair => renameIfThere .function pair.1 pair.2
  p.renameClasses.forM fun pair => renameIfThere .classDef pair.1 pair.2
  p.replaceImports.forM fun pair => do let _ ← Session.replaceImport pair.1 pair.2
  Step.optional p.modernizeImports Session.modernizeImports

theorem apply_eq (p : Plan) : p.apply = (do
    p.front
    Step.optional p.versions (Session.modernizeVersions none none)
    Step.optional p.strings Session.modernizeStrings
    Step.optional p.unusedImports Session.dropUnusedImports
    Step.optional p.sortImports Session.sortImports) := by
  unfold apply front
  simp only [bind_assoc, Step.optional_bind]
  rfl

theorem Modernizes.front_eq {p : Plan} (hp : p.Modernizes) :
    p.front = Step.optional p.modernizeImports Session.modernizeImports := by
  unfold front
  rw [hp.renameFunctions, hp.renameClasses, hp.replaceImports]
  rfl

/-- Every modernization that a plan asks for is settled. -/
structure Settled (p : Plan) (m : Module) : Prop where
  sources : p.modernizeImports = true → m.SourcesSettled
  versions : p.versions = true → m.VersionsSettled
  strings : p.strings = true → m.StringsSettled
  unused : p.unusedImports = true → m.ImportsUsed
  sorted : p.sortImports = true → m.ImportsSorted

theorem Settled.idle {p : Plan} (hp : p.Modernizes) {s : Session} (hs : p.Settled s.module) :
    p.apply.perform s = (.ok (), s) := by
  have hsources := Step.optional_idle (p := Session.modernizeImports) fun h =>
    ⟨[], Session.record_idle (hs.sources h).idle rfl⟩
  have hversions := Step.optional_idle (p := Session.modernizeVersions none none) fun h =>
    ⟨false, Step.perform_bind_ok.2 ⟨s, s, rfl, Step.perform_bind_ok.2
      ⟨none, s, Session.record_idle ((hs.versions h).idle _ _) rfl, rfl⟩⟩⟩
  have hstrings := Step.optional_idle (p := Session.modernizeStrings) fun h =>
    ⟨0, Session.record_idle (hs.strings h).idle rfl⟩
  have hunused := Step.optional_idle (p := Session.dropUnusedImports) fun h =>
    ⟨[], Session.record_idle (hs.unused h).idle rfl⟩
  have hsorted := Step.optional_idle (p := Session.sortImports) fun h =>
    ⟨false, Session.record_idle (Edit.perform_map_ok.2 ⟨0, (hs.sorted h).idle, rfl⟩) rfl⟩
  rw [apply_eq, hp.front_eq]
  exact Step.perform_bind_ok.2 ⟨(), s, hsources, Step.perform_bind_ok.2 ⟨(), s, hversions,
    Step.perform_bind_ok.2 ⟨(), s, hstrings, Step.perform_bind_ok.2 ⟨(), s, hunused, hsorted⟩⟩⟩⟩

theorem modernizeVersions_ok {s s' : Session} {done : Bool}
    (h : (Session.modernizeVersions none none).perform s = (.ok done, s')) :
    (∃ report, (Refactory.modernizeVersions s.targetModule s.targetFunction).perform s.module =
      (.ok report, s'.module)) ∧ s'.targetModule = s.targetModule := by
  obtain ⟨_, _, hget, h⟩ := Step.perform_bind_ok.1 h
  cases hget
  obtain ⟨report, mid, hrecord, h⟩ := Step.perform_bind_ok.1 h
  obtain ⟨-, rfl⟩ := Prod.mk.inj h
  obtain ⟨hedit, htarget⟩ := Session.record_ok hrecord
  exact ⟨⟨report, hedit⟩, htarget⟩

/-- A plan of modernizations settles what it asks for: each step settles its own part, and no later
step brings an earlier one back. -/
theorem apply_settled {p : Plan} (hp : p.Modernizes) {s s' : Session}
    (hlegacy : s.targetModule ∉ legacyModules.map (·.1))
    (htarget : s.targetModule ≠ legacyVersionModule) (h : p.apply.perform s = (.ok (), s')) :
    p.Settled s'.module := by
  rw [apply_eq, hp.front_eq] at h
  obtain ⟨_, s₁, h₁, h⟩ := Step.perform_bind_ok.1 h
  obtain ⟨_, s₂, h₂, h⟩ := Step.perform_bind_ok.1 h
  obtain ⟨_, s₃, h₃, h⟩ := Step.perform_bind_ok.1 h
  obtain ⟨_, s₄, h₄, h₅⟩ := Step.perform_bind_ok.1 h
  have hsources : (p.modernizeImports = true → s₁.module.SourcesSettled) ∧
      s₁.targetModule = s.targetModule := by
    rcases Step.optional_ok h₁ with ⟨-, a, hstep⟩ | ⟨hoff, rfl⟩
    · obtain ⟨hedit, hsame⟩ := Session.record_ok hstep
      exact ⟨fun _ => renameLegacyImports_settled hedit, hsame⟩
    · exact ⟨fun hon => by simp [hoff] at hon, rfl⟩
  obtain ⟨hsources, hsame⟩ := hsources
  rw [← hsame] at hlegacy htarget
  have hversions : (p.modernizeImports = true → s₂.module.SourcesSettled) ∧
      (p.versions = true → s₂.module.VersionsSettled) := by
    rcases Step.optional_ok h₂ with ⟨-, a, hstep⟩ | ⟨hoff, rfl⟩
    · obtain ⟨⟨report, hedit⟩, -⟩ := modernizeVersions_ok hstep
      exact ⟨fun hon => (hsources hon).modernizeVersions hlegacy htarget hedit,
        fun _ => modernizeVersions_settled htarget hedit⟩
    · exact ⟨hsources, fun hon => by simp [hoff] at hon⟩
  have hstrings : s₂.module.Onward s₃.module ∧ (p.strings = true → s₃.module.StringsSettled) := by
    rcases Step.optional_ok h₃ with ⟨-, a, hstep⟩ | ⟨hoff, rfl⟩
    · obtain ⟨hedit, -⟩ := Session.record_ok hstep
      exact ⟨modernizeStrings_onward hedit, fun _ => modernizeStrings_settled hedit⟩
    · exact ⟨.refl _, fun hon => by simp [hoff] at hon⟩
  have hunused : s₃.module.Onward s₄.module ∧
      Stmt.content s₃.module.body = Stmt.content s₄.module.body ∧
      (p.unusedImports = true → s₄.module.ImportsUsed) := by
    rcases Step.optional_ok h₄ with ⟨-, a, hstep⟩ | ⟨hoff, rfl⟩
    · obtain ⟨hedit, -⟩ := Session.record_ok hstep
      obtain ⟨honward, hcontent⟩ := dropUnusedImports_onward hedit
      exact ⟨honward, hcontent, fun _ => dropUnusedImports_settled hedit⟩
    · exact ⟨.refl _, rfl, fun hon => by simp [hoff] at hon⟩
  have hsorted : s₄.module.Onward s'.module ∧
      Stmt.content s₄.module.body = Stmt.content s'.module.body ∧
      (s₄.module.ImportsUsed → s'.module.ImportsUsed) ∧
      (p.sortImports = true → s'.module.ImportsSorted) := by
    rcases Step.optional_ok h₅ with ⟨-, a, hstep⟩ | ⟨hoff, rfl⟩
    · obtain ⟨hedit, -⟩ := Session.record_ok hstep
      obtain ⟨n, hedit, -⟩ := Edit.perform_map_ok.1 hedit
      obtain ⟨honward, hcontent⟩ := sortImports_onward hedit
      exact ⟨honward, hcontent, fun hused => hused.sortImports hedit,
        fun _ => sortImports_settled hedit⟩
    · exact ⟨.refl _, rfl, id, fun hon => by simp [hoff] at hon⟩
  obtain ⟨honward₃, hstrings⟩ := hstrings
  obtain ⟨honward₄, hcontent₄, hunused⟩ := hunused
  obtain ⟨honward₅, hcontent₅, hused, hsorted⟩ := hsorted
  exact {
    sources := fun hon => honward₅.sourcesSettled
      (honward₄.sourcesSettled (honward₃.sourcesSettled (hversions.1 hon)))
    versions := fun hon => honward₅.versionsSettled
      (honward₄.versionsSettled (honward₃.versionsSettled (hversions.2 hon)))
    strings := fun hon => Module.atRest_of_content (hcontent₄.trans hcontent₅) (hstrings hon)
    unused := fun hon => hused (hunused hon)
    sorted := hsorted }

/-- A plan of modernizations that has been applied has nothing to do when it is applied again: it
succeeds and leaves the session, module and log, as it was. -/
theorem apply_again {p : Plan} (hp : p.Modernizes) {s s' : Session}
    (hlegacy : s.targetModule ∉ legacyModules.map (·.1))
    (htarget : s.targetModule ≠ legacyVersionModule) (h : p.apply.perform s = (.ok (), s')) :
    p.apply.perform s' = (.ok (), s') :=
  (apply_settled hp hlegacy htarget h).idle hp

/-- A plan with all modernizations, four of which find something to do. -/
theorem apply_again_sample :
    let p : Plan := ⟨[], [], [], true, true, true, true, true⟩
    let s : Session := ⟨⟨[
      .importFrom (some "base") [⟨"run", none⟩, ⟨"stop", none⟩] 1 none,
      .function ⟨"show", [], none, [], false⟩ [
        .importNames [⟨"Queue", none⟩] none,
        .importFrom (some "pkg_resources") [⟨"get_distribution", none⟩] 0 none,
        .ret (some (.attribute (.call (.name "get_distribution") [
          .binary (.string "%s") .mod (.tuple [.name "run"])] []) "version")) none] none]⟩,
      [], none, .lenient, "importlib.metadata", "version"⟩
    p.Modernizes ∧ s.targetModule ∉ legacyModules.map (·.1) ∧ s.targetModule ≠ legacyVersionModule ∧
      ∃ s', p.apply.perform s = (.ok (), s') ∧ s'.history.length = 4 ∧
        p.apply.perform s' = (.ok (), s') := by
  intro p s
  have hp : p.Modernizes := ⟨rfl, rfl, rfl⟩
  have hlegacy : s.targetModule ∉ legacyModules.map (·.1) := by decide
  have htarget : s.targetModule ≠ legacyVersionModule := by decide
  have hrun : (p.apply.perform s).1.toBool = true ∧ (p.apply.perform s).2.history.length = 4 := by
    decide +kernel
  have h : p.apply.perform s = (.ok (), (p.apply.perform s).2) := by
    rcases hresult : p.apply.perform s with ⟨_ | ⟨⟩, s'⟩
    · simp [hresult, Except.toBool] at hrun
    · rfl
  exact ⟨hp, hlegacy, htarget, _, h, hrun.2, apply_again hp hlegacy htarget h⟩

end Plan

end Refactory
