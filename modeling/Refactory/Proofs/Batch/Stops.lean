import Refactory.Proofs.Batch.Idempotent
import Refactory.Proofs.Modernize.Fit

/-! # What stops a plan

A plan leaves a fit module when it is applied to one, unless it stops on the way (`Plan.apply_ends`).
Only two of its steps can stop it: the modernization of version lookups, at an old import that stands
inside a guarded lookup, and that of templates, at a field that is named by digits that cannot be read as
a number. Both are said of the module that the steps before have led to (`Plan.Stops`). -/

namespace Refactory

/-! ## Steps -/

namespace Step

variable {α β : Type} {p : Step α} {s : Session} {F : Fault → Prop}

theorem perform_tryCatch (p : Step α) (handle : Fault → Step α) (s : Session) :
    Step.perform (tryCatch p handle) s = match p.perform s with
      | (.ok a, s') => (.ok a, s')
      | (.error f, s') => (handle f).perform s' := by
  change StateT.run (ExceptT.run (ExceptT.tryCatch p handle)) s = _
  simp only [ExceptT.tryCatch, ExceptT.run, ExceptT.mk, StateT.run_bind, Step.perform]
  rcases StateT.run p s with ⟨_ | _, _⟩ <;> rfl

/-- A step leaves a fit module, or it fails with a fault of a kind. -/
def Ends (p : Step α) (s : Session) (F : Fault → Prop) : Prop :=
  (∃ a s', p.perform s = (.ok a, s') ∧ s'.module.Fit) ∨
    ∃ f s', p.perform s = (.error f, s') ∧ F f

theorem Ends.bind {next : α → Step β} (h : p.Ends s F)
    (hnext : ∀ a s', p.perform s = (.ok a, s') → s'.module.Fit → (next a).Ends s' F) :
    (p >>= next).Ends s F := by
  rcases h with ⟨a, mid, hp, hfit⟩ | ⟨f, mid, hp, hf⟩
  · have hstep : (p >>= next).perform s = (next a).perform mid := by rw [perform_bind, hp]
    rw [Ends, hstep]
    exact hnext a mid hp hfit
  · exact .inr ⟨f, mid, by rw [perform_bind, hp], hf⟩

theorem forM_ends {f : α → Step Unit} (hf : ∀ a s, s.module.Fit → (f a).Ends s F) (as : List α)
    (hs : s.module.Fit) : (as.forM f).Ends s F := by
  induction as generalizing s with
  | nil => exact .inl ⟨(), s, rfl, hs⟩
  | cons a as ih => exact (hf a s hs).bind fun _ _ _ hmid => ih hmid

theorem optional_ends {asked : Bool} (hs : s.module.Fit) (hp : asked = true → p.Ends s F) :
    (optional asked p).Ends s F := by
  cases asked with
  | false => exact .inl ⟨(), s, rfl, hs⟩
  | true => exact (hp rfl).bind fun _ s' _ hs' => .inl ⟨(), s', rfl, hs'⟩

/-- A step made of an edit ends as the edit does. -/
theorem record_ends {edit : Edit α} {log : α → Option Change} (hfit : edit.KeepsFit)
    (hs : s.module.Fit)
    (h : edit.Succeeds s.module ∨ ∃ f m, edit.perform s.module = (.error f, m) ∧ F f) :
    (Session.record edit log).Ends s F := by
  rw [Ends, Session.perform_record]
  rcases h with ⟨a, m, hedit⟩ | ⟨f, m, hedit, hf⟩
  · simp only [hedit]
    refine .inl ?_
    split <;> exact ⟨_, _, rfl, hfit hs hedit⟩
  · simp only [hedit]
    exact .inr ⟨f, s, rfl, hf⟩

end Step

theorem Edit.KeepsFit.map {α β : Type} {e : Edit α} (h : e.KeepsFit) (f : α → β) :
    (f <$> e).KeepsFit := by
  intro m b m' hm hmap
  obtain ⟨a, he, -⟩ := Edit.perform_map_ok.1 hmap
  exact h hm he

theorem Edit.Succeeds.map {α β : Type} {e : Edit α} {m : Module} (h : e.Succeeds m) (f : α → β) :
    (f <$> e).Succeeds m := by
  obtain ⟨a, m', he⟩ := h
  exact ⟨f a, m', Edit.perform_map_ok.2 ⟨a, he, rfl⟩⟩

namespace Session

variable {s : Session} {F : Fault → Prop}

theorem replaceImport_ends (old new : Text) (hs : s.module.Fit) :
    (replaceImport old new).Ends s F := by
  unfold replaceImport
  split
  · exact .inl ⟨false, s, rfl, hs⟩
  · obtain ⟨n, m', hrun, -⟩ := renameImports_sound old new hs.sound
    exact Step.record_ends ((renameImports_fit old new).map _) hs
      (.inl (Edit.Succeeds.map ⟨n, m', hrun⟩ _))

theorem modernizeImports_ends (hs : s.module.Fit) : modernizeImports.Ends s F :=
  Step.record_ends (renameLegacyImports_fit []) hs (.inl (renameThrough_sound _ hs.sound))

theorem modernizeVersions_ends (hs : s.module.Fit)
    (hF : s.module.GuardsImport → F .detached) : (modernizeVersions none none).Ends s F := by
  refine Step.Ends.bind (.inl ⟨s, s, rfl, hs⟩) fun _ s' hget _ => ?_
  cases hget
  refine Step.Ends.bind (Step.record_ends (modernizeVersions_fit _ _) hs ?_)
    fun report s' _ hs' => .inl ⟨report.isSome, s', rfl, hs'⟩
  rcases modernizeVersions_reaches hs.sound s.targetModule s.targetFunction with
    ⟨report, m', hrun, -⟩ | ⟨⟨m', hrun⟩, hguards⟩
  · exact .inl ⟨report, m', hrun⟩
  · exact .inr ⟨_, m', hrun, hF hguards⟩

theorem modernizeStrings_ends (hs : s.module.Fit) (hF : ∀ f, s.module.Misnumbers f → F f) :
    modernizeStrings.Ends s F := by
  refine Step.record_ends modernizeStrings_fit hs ?_
  rcases modernizeStrings_outcome hs.sound with hok | ⟨f, m', hrun, hf⟩
  · exact .inl hok
  · exact .inr ⟨f, m', hrun, hF f hf⟩

theorem dropUnusedImports_ends (hs : s.module.Fit) : dropUnusedImports.Ends s F :=
  Step.record_ends dropUnusedImports_fit hs (.inl (dropUnusedImports_sound hs.sound))

theorem sortImports_ends (hs : s.module.Fit) : sortImports.Ends s F :=
  Step.record_ends (sortImports_fit.map _) hs (.inl (Edit.Succeeds.map (sortImports_named hs.named) _))

/-- A rename that is refused is left out, and nothing else goes wrong with one. -/
theorem renameIfThere_ends (what : Definition) (old new : Text) (hs : s.module.Fit) :
    (Plan.renameIfThere what old new).Ends s F := by
  rw [Step.Ends, Plan.renameIfThere, Step.perform_tryCatch, rename, Step.perform_bind,
    perform_record]
  rcases renameDefinitions_outcome what old new s.module with ⟨f, hrun, hrefusal⟩ | ⟨location, hrun⟩
  · simp only [Edit.perform_bind, hrun, hrefusal, if_true]
    exact .inl ⟨(), s, rfl, hs⟩
  · simp only [Edit.perform_bind, hrun]
    exact .inl ⟨(), _, rfl, renameDefinitions_fit what old new hs hrun⟩

end Session

/-! ## Plans -/

/-- Digits that cannot be read as a number are too many or not all decimal. -/
theorem readDigits_error {digits : Text} {f : Fault} (h : readDigits digits = .error f) :
    (∃ count, f = .longNumeral count) ∨ ∃ digits, f = .notDecimal digits := by
  unfold readDigits at h
  dsimp only at h
  split at h
  · cases h
    exact .inl ⟨_, rfl⟩
  · split at h <;> cases h
    exact .inr ⟨_, rfl⟩

namespace Plan

/-- A plan up to the modernization of version lookups. -/
def beforeVersions (p : Plan) : Plan :=
  { p with versions := false, strings := false, unusedImports := false, sortImports := false }

/-- A plan up to the modernization of templates. -/
def beforeStrings (p : Plan) : Plan :=
  { p with strings := false, unusedImports := false, sortImports := false }

/-- What stops a plan on the way. -/
inductive Stops (p : Plan) (s : Session) : Fault → Prop
  /-- An old import stands inside a guarded lookup that collapses. -/
  | guarded {mid : Session} (hasked : p.versions = true)
      (hmid : p.beforeVersions.apply.perform s = (.ok (), mid)) (h : mid.module.GuardsImport) :
      Stops p s .detached
  /-- A field of a template is named by digits that cannot be read as a number. -/
  | misnumbered {mid : Session} {f : Fault} (hasked : p.strings = true)
      (hmid : p.beforeStrings.apply.perform s = (.ok (), mid)) (h : mid.module.Misnumbers f) :
      Stops p s f

theorem Stops.fault {p : Plan} {s : Session} {f : Fault} (h : p.Stops s f) :
    f = .detached ∨ (∃ count, f = .longNumeral count) ∨ ∃ digits, f = .notDecimal digits := by
  cases h with
  | guarded => exact .inl rfl
  | misnumbered _ _ h =>
    obtain ⟨_, -, _, -, _, -, ⟨-, -, -, ⟨field, -, -, hread⟩⟩⟩ := h
    exact .inr (readDigits_error hread)

theorem beforeVersions_apply (p : Plan) : p.beforeVersions.apply = p.front := by
  rw [apply_eq]
  exact bind_pure_unit

theorem beforeStrings_apply (p : Plan) : p.beforeStrings.apply = (do
    p.front
    Step.optional p.versions (Session.modernizeVersions none none)) := by
  rw [apply_eq]
  exact congrArg (p.front >>= ·) (funext fun _ => bind_pure_unit)

theorem front_ends (p : Plan) {s : Session} {F : Fault → Prop} (hs : s.module.Fit) :
    p.front.Ends s F := by
  refine (Step.forM_ends (fun _ _ hs => Session.renameIfThere_ends _ _ _ hs) _ hs).bind
    fun _ _ _ hs => ?_
  refine (Step.forM_ends (fun _ _ hs => Session.renameIfThere_ends _ _ _ hs) _ hs).bind
    fun _ _ _ hs => ?_
  refine (Step.forM_ends (fun _ _ hs => ?_) _ hs).bind fun _ _ _ hs => ?_
  · exact (Session.replaceImport_ends _ _ hs).bind fun _ s' _ hs' => .inl ⟨(), s', rfl, hs'⟩
  · exact Step.optional_ends hs fun _ => Session.modernizeImports_ends hs

/-- A plan that is applied to a session over a fit module leaves one, unless something stops it. -/
theorem apply_ends (p : Plan) {s : Session} (hs : s.module.Fit) : p.apply.Ends s (p.Stops s) := by
  rw [apply_eq]
  refine (p.front_ends hs).bind fun _ s₁ h₁ hs₁ => ?_
  rw [← beforeVersions_apply] at h₁
  refine (Step.optional_ends hs₁ fun hasked =>
    Session.modernizeVersions_ends hs₁ fun h => .guarded hasked h₁ h).bind fun _ s₂ h₂ hs₂ => ?_
  have hmid : p.beforeStrings.apply.perform s = (.ok (), s₂) := by
    rw [beforeVersions_apply] at h₁
    rw [beforeStrings_apply, Step.perform_bind_ok]
    exact ⟨(), s₁, h₁, h₂⟩
  refine (Step.optional_ends hs₂ fun hasked =>
    Session.modernizeStrings_ends hs₂ fun _ h => .misnumbered hasked hmid h).bind fun _ s₃ _ hs₃ => ?_
  refine (Step.optional_ends hs₃ fun _ => Session.dropUnusedImports_ends hs₃).bind
    fun _ s₄ _ hs₄ => ?_
  exact Step.optional_ends hs₄ fun _ => Session.sortImports_ends hs₄

end Plan

end Refactory
