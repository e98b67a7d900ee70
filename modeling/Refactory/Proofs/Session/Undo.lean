import Refactory.Proofs.Session.Effect

/-! # Undoing

A session that went through a run of actions is where it started, or where the action left it that
made the latest change still logged (`Session.run_latest`): everything since had no effect or has been
undone. So undoing gives back the whole session in which that action was taken, and undoing as often as
there are changes gives back the session as it was opened (`Session.run_undo_all`). -/

namespace Refactory

namespace Session

/-- The session after an action, whatever it reports. -/
def after (s : Session) (a : Action) : Session := (a.step.perform s).2

/-- The session after a run of actions. -/
def run (s : Session) (as : List Action) : Session := as.foldl after s

/-- What the actions of a run bring in imports something wherever it imports. -/
def NamedRun : Session → List Action → Prop
  | _, [] => True
  | s, a :: as => a.NamedIn s ∧ NamedRun (s.after a) as

variable {s : Session} {a : Action} {as bs : List Action}

@[simp] theorem run_nil : s.run [] = s := rfl

@[simp] theorem run_append : s.run (as ++ bs) = (s.run as).run bs := by
  simp [run, List.foldl_append]

@[simp] theorem run_cons : s.run (a :: as) = (s.after a).run as := rfl

theorem namedRun_append : s.NamedRun (as ++ bs) ↔ s.NamedRun as ∧ (s.run as).NamedRun bs := by
  induction as generalizing s with
  | nil => simp [NamedRun]
  | cons a as ih => simp [NamedRun, ih, and_assoc]

theorem undo_nil (h : s.history = []) : undo.perform s = (.error .nothingToUndo, s) := by
  simp [Step.perform, StateT.run, ExceptT.run, undo, h]

theorem undo_cons {change : Change} {m : Module} {rest : List (Change × Module)}
    (h : s.history = (change, m) :: rest) :
    undo.perform s = (.ok change, { s with module := m, history := rest }) := by
  simp [Step.perform, StateT.run, ExceptT.run, undo, h]

theorem after_undo : s.after .undo = (undo.perform s).2 := by
  rw [after, Action.step, Step.perform_map]

/-- An action keeps a session named. -/
theorem Named.after (hs : s.Named) (ha : a.NamedIn s) : (s.after a).Named := by
  by_cases hundo : a = .undo
  · subst hundo
    cases h : s.history with
    | nil => rwa [after_undo, undo_nil h]
    | cons entry rest =>
      rw [after_undo, undo_cons h]
      have hhistory := hs.history
      rw [h, List.forall_mem_cons] at hhistory
      exact ⟨hhistory.1, hhistory.2⟩
  · exact (Action.step_leads hs hundo ha).named hs

theorem Named.run (hs : s.Named) (has : s.NamedRun as) : (s.run as).Named := by
  induction as generalizing s with
  | nil => exact hs
  | cons a as ih => exact ih (hs.after has.1) has.2

/-- The latest change of a session that went through `as` was logged by an action that was taken after
`pre`, and the session is still as this action left it. -/
structure Latest (s : Session) (as : List Action) (pre : List Action) (a : Action)
    (change : Change) : Prop where
  taken : ∃ post, as = pre ++ a :: post
  action : a ≠ .undo
  logged : Effect.logged.Of (s.run pre) (a.step.perform (s.run pre))
  same : s.run as = s.run (pre ++ [a])
  history : (s.run as).history = (change, (s.run pre).module) :: (s.run pre).history

theorem Latest.undo {pre : List Action} {change : Change} (h : s.Latest as pre a change) :
    Session.undo.perform (s.run as) = (.ok change, s.run pre) := by
  obtain ⟨reply, change', m, hlogged⟩ := h.logged
  have hsession : s.run as = { s.run pre with
      module := m, history := (change', (s.run pre).module) :: (s.run pre).history } := by
    rw [h.same, run_append, run_cons, run_nil, Session.after, hlogged]
  rw [undo_cons h.history, hsession]

/-- A run of actions ends where it started, or right where the action left the session that made the
latest change still logged. -/
theorem run_latest (hs : s.Named) (hempty : s.history = []) (has : s.NamedRun as) :
    s.run as = s ∨ ∃ pre a change, s.Latest as pre a change := by
  -- By the length of the run: undoing leads back to the end of a shorter one.
  induction hn : as.length using Nat.strongRecOn generalizing as with
  | _ n ih =>
  obtain rfl | ⟨init, a, rfl⟩ := List.eq_nil_or_concat as
  · exact .inl rfl
  rw [List.concat_eq_append] at has hn ⊢
  rw [List.length_append, List.length_singleton] at hn
  obtain ⟨hinit, ha, -⟩ := namedRun_append.1 has
  have hnamed : (s.run init).Named := hs.run hinit
  have extend : ∀ pre more : List Action, init ++ [a] = pre ++ more →
      s.run (init ++ [a]) = s.run pre → pre.length < n →
      s.run (init ++ [a]) = s ∨ ∃ pre a' change, s.Latest (init ++ [a]) pre a' change := by
    intro pre more hsplit hrun hlength
    have hpre : s.NamedRun pre := (namedRun_append.1 (hsplit ▸ has)).1
    rcases ih pre.length hlength hpre rfl with hstart | ⟨pre', a', change, hlatest⟩
    · exact .inl (hrun.trans hstart)
    · obtain ⟨post, rfl⟩ := hlatest.taken
      refine .inr ⟨pre', a', change, ⟨post ++ more, by simp [hsplit]⟩, hlatest.action,
        hlatest.logged, hrun.trans hlatest.same, ?_⟩
      rw [hrun, hlatest.history]
  by_cases hundo : a = .undo
  · subst hundo
    rcases ih init.length (by omega) hinit rfl with hstart | ⟨pre, a, change, hlatest⟩
    · refine .inl ?_
      rw [run_append, run_cons, run_nil, hstart, after_undo, undo_nil hempty]
    · obtain ⟨post, rfl⟩ := hlatest.taken
      refine extend pre (a :: post ++ [.undo]) (by simp) ?_ (by simp at hn; omega)
      rw [run_append, run_cons, run_nil, after_undo, hlatest.undo]
  · have hleads := Action.step_leads hnamed hundo ha
    have hafter : s.run (init ++ [a]) = (a.step.perform (s.run init)).2 := by
      rw [run_append, run_cons, run_nil, after]
    obtain ⟨e, he⟩ := hleads.effect
    cases e with
    | failed =>
      obtain ⟨f, hf⟩ := he
      exact extend init [a] rfl (by rw [hafter, hf]) (by omega)
    | idle =>
      obtain ⟨reply, hreply⟩ := he
      exact extend init [a] rfl (by rw [hafter, hreply]) (by omega)
    | logged =>
      obtain ⟨reply, change, m, hreply⟩ := he
      refine .inr ⟨init, a, change, ⟨[], rfl⟩, hundo, ⟨reply, change, m, hreply⟩, rfl, ?_⟩
      rw [hafter, hreply]

/-- Undoing as often as there are changes gives back the session as it was opened. -/
theorem run_undo_all (hs : s.Named) (hempty : s.history = []) (has : s.NamedRun as) :
    (s.run as).run (List.replicate (s.run as).history.length .undo) = s := by
  induction hn : as.length using Nat.strongRecOn generalizing as with
  | _ n ih =>
  rcases run_latest hs hempty has with hstart | ⟨pre, a, change, hlatest⟩
  · rw [hstart, hempty]
    rfl
  · obtain ⟨post, rfl⟩ := hlatest.taken
    have hpre := (namedRun_append.1 has).1
    rw [hlatest.history, List.length_cons, List.replicate_succ, run_cons, after_undo, hlatest.undo]
    exact ih pre.length (by simp at hn; omega) hpre rfl

theorem start_ok {m : Module} {path : Option Text} {o : Options} (h : Session.start m path o = .ok s) :
    ∃ mode, RenderMode.ofText o.mode = .ok mode ∧
      s = ⟨m, [], path, mode, o.targetModule, o.targetFunction⟩ := by
  unfold Session.start at h
  cases hmode : RenderMode.ofText o.mode with
  | error f => simp [hmode, bind, Except.bind] at h
  | ok mode =>
    simp only [hmode, bind, Except.bind] at h
    cases h
    exact ⟨mode, rfl, rfl⟩

/-- In every session that a run of actions leads to: an action other than undoing has exactly one of
the three effects; undoing gives back the session in which the latest change still logged was made;
and undoing until the log is empty gives back the module that the session was opened with. -/
theorem start_run_undoable {m : Module} {path : Option Text} {o : Options}
    (hstart : Session.start m path o = .ok s) (hm : m.Named) (has : s.NamedRun as) :
    (∀ a : Action, a ≠ .undo → a.NamedIn (s.run as) →
      ∃ e : Effect, e.Of (s.run as) (a.step.perform (s.run as)) ∧
        ∀ e' : Effect, e'.Of (s.run as) (a.step.perform (s.run as)) → e' = e) ∧
    ((s.run as).history ≠ [] → ∃ pre a change, s.Latest as pre a change ∧
      Session.undo.perform (s.run as) = (.ok change, s.run pre)) ∧
    ((s.run as).run (List.replicate (s.run as).history.length .undo)).module = m ∧
    ((s.run as).run (List.replicate (s.run as).history.length .undo)).history = [] := by
  obtain ⟨mode, hmode, hs⟩ := start_ok hstart
  have hempty : s.history = [] := by rw [hs]
  have hnamed : s.Named := by
    rw [hs]
    exact ⟨hm, by simp⟩
  refine ⟨fun a hundo ha => ?_, fun hne => ?_, ?_⟩
  · obtain ⟨e, he⟩ := (Action.step_leads (hnamed.run has) hundo ha).effect
    exact ⟨e, he, fun e' he' => he'.eq.trans he.eq.symm⟩
  · rcases run_latest hnamed hempty has with hsame | ⟨pre, a, change, hlatest⟩
    · rw [hsame] at hne
      exact absurd hempty hne
    · exact ⟨pre, a, change, hlatest, hlatest.undo⟩
  · rw [run_undo_all hnamed hempty has, hs]
    exact ⟨rfl, rfl⟩

/-- A run with two failed actions, an idle one, three that log a change and two that undo. -/
theorem start_run_undoable_sample :
    let m : Module := ⟨[.importNames [⟨"os", none⟩] none, .assign [.name "x"] (.name "os") none]⟩
    let as : List Action := [.rename .variable "z" "y", .dropUnusedImports, .rename .variable "x" "y",
      .insertBefore ⟨[0], .importNames, none, none⟩ (.one (.importNames [⟨"sys", none⟩] none)),
      .dropUnusedImports, .undo, .undo, .removeNode ⟨[3], .assign, none, none⟩]
    ∃ s, Session.start m none {} = .ok s ∧ m.Named ∧ s.NamedRun as ∧ (s.run as).history.length = 1 ∧
      ∃ pre a change, s.Latest as pre a change ∧
        Session.undo.perform (s.run as) = (.ok change, s.run pre) := by
  intro m as
  let s : Session := ⟨m, [], none, .lenient, "importlib.metadata", "version"⟩
  have hstart : Session.start m none {} = .ok s := rfl
  have hm : m.Named := by
    simp [Module.Named, m, Stmt.EachImport, Stmt.importListIn, Stmt.importList, Stmt.importsNothing]
  have hinsertion : (Insertion.one (.importNames [⟨"sys", none⟩] none)).Named := by
    intro b hb
    cases hb
    simp [Stmt.EachImport, Stmt.importListIn, Stmt.importList, Stmt.importsNothing]
  have has : s.NamedRun as :=
    ⟨trivial, trivial, trivial, hinsertion, trivial, trivial, trivial, trivial, trivial⟩
  have hlength : (s.run as).history.length = 1 := by decide +kernel
  refine ⟨s, hstart, hm, has, hlength, (start_run_undoable hstart hm has).2.1 fun hnil => ?_⟩
  rw [hnil] at hlength
  cases hlength

end Session

end Refactory
