import Refactory.Proofs.Modernize.Version
import Refactory.Session

/-! # What a step does to a session

Every step other than undoing does one of three things (`Effect`): it fails and leaves the session as
it was, it succeeds and leaves it as it was, or it logs one change together with the module as it
stood before. `Session.record` makes such a step of an honest edit (`Session.record_leads`), and all
actions come from there (`Action.step_leads`). -/

namespace Refactory

/-- What a step can do to a session. -/
inductive Effect
  | failed | idle | logged
deriving DecidableEq

/-- What a step reports and the session that it leaves, by its effect on the session `s`. -/
def Effect.Of {α : Type} (s : Session) (outcome : Except Fault α × Session) : Effect → Prop
  | failed => ∃ f, outcome = (.error f, s)
  | idle => ∃ a, outcome = (.ok a, s)
  | logged => ∃ a change m, outcome =
      (.ok a, { s with module := m, history := (change, s.module) :: s.history })

/-- The effect of an outcome can be told from what is reported and the length of the log. -/
theorem Effect.Of.eq {α : Type} {s : Session} {outcome : Except Fault α × Session} {e : Effect}
    (h : e.Of s outcome) :
    e = match outcome.1 with
      | .error _ => .failed
      | .ok _ => if outcome.2.history.length = s.history.length then .idle else .logged := by
  cases e with
  | failed =>
    obtain ⟨f, rfl⟩ := h
    rfl
  | idle =>
    obtain ⟨a, rfl⟩ := h
    simp
  | logged =>
    obtain ⟨a, change, m, rfl⟩ := h
    simp

/-! ## Named sessions -/

/-- Every import imports something, in the module and in those kept with the log. -/
structure Session.Named (s : Session) : Prop where
  module : s.module.Named
  history : ∀ entry ∈ s.history, entry.2.Named

/-- A step leads from a session to a named one, in one of the three ways. -/
inductive Leads {α : Type} (s : Session) : Except Fault α × Session → Prop
  | failed (f : Fault) : Leads s (.error f, s)
  | idle (a : α) : Leads s (.ok a, s)
  | logged (a : α) (change : Change) (m : Module) (named : m.Named) :
    Leads s (.ok a, { s with module := m, history := (change, s.module) :: s.history })

namespace Leads

variable {α β : Type} {s : Session} {outcome : Except Fault α × Session}

theorem effect (h : Leads s outcome) : ∃ e : Effect, e.Of s outcome := by
  cases h with
  | failed f => exact ⟨.failed, f, rfl⟩
  | idle a => exact ⟨.idle, a, rfl⟩
  | logged a change m _ => exact ⟨.logged, a, change, m, rfl⟩

theorem named (h : Leads s outcome) (hs : s.Named) : outcome.2.Named := by
  cases h with
  | failed f => exact hs
  | idle a => exact hs
  | logged a change m hm => exact ⟨hm, List.forall_mem_cons.2 ⟨hs.module, hs.history⟩⟩

theorem map (f : α → β) {p : Step α} (h : Leads s (p.perform s)) : Leads s ((f <$> p).perform s) := by
  rw [Step.perform_map]
  cases h' : p.perform s with
  | mk result s' =>
    rw [h'] at h
    cases h with
    | failed fault => exact .failed fault
    | idle a => exact .idle (f a)
    | logged a change m hm => exact .logged (f a) change m hm

/-- A step that first asks for something which leaves the session alone. -/
theorem ask {q : Step α} {next : α → Step β} (hq : (q.perform s).2 = s)
    (h : ∀ a, q.perform s = (.ok a, s) → Leads s ((next a).perform s)) :
    Leads s ((q >>= next).perform s) := by
  rw [Step.perform_bind]
  rcases hq' : q.perform s with ⟨fault | a, s'⟩ <;> rw [hq'] at hq <;> cases hq
  · exact .failed fault
  · exact h a hq'

end Leads

namespace Session

variable {α β : Type} {s : Session}

theorem perform_record (edit : Edit α) (log : α → Option Change) (s : Session) :
    (record edit log).perform s =
      match edit.perform s.module with
      | (.error f, _) => (.error f, s)
      | (.ok a, after) =>
        match log a with
        | none => (.ok a, { s with module := after })
        | some change =>
          (.ok a, { s with module := after, history := (change, s.module) :: s.history }) := rfl

/-- A step made of an edit that has changed nothing if there is nothing to log. -/
theorem record_leads_of {edit : Edit α} {log : α → Option Change}
    (hedit : ∀ a m, edit.perform s.module = (.ok a, m) →
      m.Named ∧ (log a = none → m = s.module)) : Leads s ((record edit log).perform s) := by
  rw [perform_record]
  rcases h : edit.perform s.module with ⟨f | a, after⟩
  · exact .failed f
  · obtain ⟨hnamed, hidle⟩ := hedit a after h
    cases hchange : log a with
    | none =>
      simp only [hchange]
      cases hidle hchange
      exact .idle a
    | some change =>
      simp only [hchange]
      exact .logged a change after hnamed

/-- A step made of an edit that tells what it does. -/
theorem record_leads {edit : Edit α} {log : α → Option Change} {nothing : α → Prop}
    (hedit : edit.Honest nothing) (hlog : ∀ a, log a = none → nothing a) (hs : s.Named) :
    Leads s ((record edit log).perform s) :=
  record_leads_of fun a _ h => (hedit hs.module h).imp_right fun hidle hnone => hidle (hlog a hnone)

end Session

/-! ## Actions -/

/-- What is put in imports something wherever it imports. -/
def Insertion.Named (i : Insertion) : Prop :=
  ∀ b, i.statements = .ok b → Stmt.EachImport (fun s => s.importsNothing = false) b

/-- What an action brings into a session imports something wherever it imports: the statements that
are put in, and the module that an edit of the caller's leaves. -/
def Action.NamedIn (s : Session) : Action → Prop
  | replaceNode _ new | insertBefore _ new | insertAfter _ new => new.Named
  | transform _ edit => ∀ n m, edit.perform s.module = (.ok n, m) → m.Named
  | _ => True

theorem Edit.Honest.andReturn {α β : Type} {e : Edit α} (h : e.Honest fun _ => False) (f : α → β) :
    Edit.Honest (e >>= fun a => pure (f a)) fun _ => False := by
  intro m b m' hm he
  rw [Edit.perform_bind_ok] at he
  obtain ⟨a, mid, he, hpure⟩ := he
  cases hpure
  exact ⟨(h hm he).1, False.elim⟩

/-- An edit that reports whether there was something to do. -/
theorem Edit.Honest.report {α β : Type} {e : Edit α} {nothing : α → Prop} (h : e.Honest nothing)
    (f : α → β) : (f <$> e).Honest fun b => ∀ a, f a = b → nothing a := by
  intro m b m' hm hmap
  obtain ⟨a, he, rfl⟩ := Edit.perform_map_ok.1 hmap
  exact ⟨(h hm he).1, fun hnothing => (h hm he).2 (hnothing a rfl)⟩

/-- A step leaves the session alone. -/
def Step.IsQuestion {α : Type} (p : Step α) : Prop := ∀ s, (p.perform s).2 = s

theorem Step.IsQuestion.bind {α β : Type} {p : Step α} {next : α → Step β} (hp : p.IsQuestion)
    (hnext : ∀ a, (next a).IsQuestion) : (p >>= next).IsQuestion := by
  intro s
  rw [Step.perform_bind]
  have h := hp s
  rcases hperform : p.perform s with ⟨f | a, s'⟩ <;> rw [hperform] at h
  · exact h
  · exact (congrArg (fun t => ((next a).perform t).2) h).trans (hnext a s)

theorem Step.IsQuestion.ofExcept {α : Type} (e : Except Fault α) :
    Step.IsQuestion (liftM e : Step α) := fun s => by rw [Step.perform_liftExcept]

theorem Step.IsQuestion.mapM {α β : Type} {f : α → Step β} (hf : ∀ a, (f a).IsQuestion)
    (as : List α) : (as.mapM f).IsQuestion := by
  induction as with
  | nil => exact fun _ => rfl
  | cons a as ih =>
    rw [List.mapM_cons]
    exact (hf a).bind fun b => ih.bind fun bs _ => rfl

section

variable {s : Session} (hs : s.Named)
include hs

theorem Session.editRef_leads (r : Ref) {edit : Block → Nat → Block} (change : Change)
    (hedit : ∀ b i, Stmt.EachImport (fun s => s.importsNothing = false) b →
      Stmt.EachImport (fun s => s.importsNothing = false) (edit b i)) :
    Leads s ((Session.record (do
      editRef r edit
      return change) some).perform s) :=
  Session.record_leads ((editRef_honest r hedit).andReturn fun _ => change)
    (fun _ h => by cases h) hs

/-- An edit by reference that puts statements in. -/
theorem Session.insertion_leads (r : Ref) {new : Insertion} (hnew : new.Named)
    {edit : List Stmt → Block → Nat → Block} (change : List Stmt → Change)
    (hedit : ∀ p new b i, Stmt.EachImport p new → Stmt.EachImport p b →
      Stmt.EachImport p (edit new b i)) :
    Leads s (Step.perform (do
      let new ← new.statements
      Session.record (do
        editRef r (edit new)
        return change new) some) s) := by
  refine Leads.ask (Step.IsQuestion.ofExcept _ s) fun b hb => ?_
  rw [Step.perform_liftExcept] at hb
  exact Session.editRef_leads hs r (change b)
    fun c i hc => hedit _ b c i (hnew b (Prod.mk.inj hb).1) hc

end

theorem Stmt.EachImport.sublist {p : Stmt → Prop} {b c : List Stmt} (h : Stmt.EachImport p b)
    (hc : c.Sublist b) : Stmt.EachImport p c := by
  rw [Stmt.eachImport_iff] at h ⊢
  exact fun s hs => h s (hc.mem hs)

/-- Every action but undoing fails, has nothing to do, or logs one change. -/
theorem Action.step_leads {s : Session} (hs : s.Named) {a : Action} (hundo : a ≠ .undo)
    (ha : a.NamedIn s) : Leads s (a.step.perform s) := by
  cases a with
  | rename what old new =>
    exact .map _ (Session.record_leads ((renameDefinitions_honest what old new).andReturn _)
      (fun _ h => by cases h) hs)
  | replaceImport old new =>
    refine .map _ ?_
    unfold Session.replaceImport
    split
    · exact .idle false
    · refine Session.record_leads ((renameImports_honest old new).report _) ?_ hs
      intro changed h
      cases changed with
      | false => simp
      | true => cases h
  | modernizeImports =>
    refine .map _ (Session.record_leads (renameLegacyImports_honest []) ?_ hs)
    intro applied h
    cases applied with
    | nil => rfl
    | cons entry rest => cases h
  | modernizeVersions module function =>
    refine .map _ (Leads.ask rfl fun t ht => ?_)
    cases ht
    refine Leads.map _ (Session.record_leads (modernizeVersions_honest _ _) ?_ hs)
    exact fun report h => Option.map_eq_none_iff.1 h
  | dropUnusedImports =>
    refine .map _ (Session.record_leads dropUnusedImports_honest ?_ hs)
    intro removed h
    cases removed with
    | nil => rfl
    | cons name rest => cases h
  | sortImports =>
    refine .map _ (Session.record_leads (sortImports_honest.report _) ?_ hs)
    intro changed h
    cases changed with
    | false => simp
    | true => cases h
  | modernizeStrings =>
    refine .map _ (Session.record_leads modernizeStrings_honest ?_ hs)
    intro count h
    cases count with
    | zero => rfl
    | succ n => cases h
  | annotate hints =>
    refine .map _ (Leads.ask (Step.IsQuestion.mapM (fun entry => ?_) _ s) fun parsed _ => ?_)
    · exact (Step.IsQuestion.ofExcept _).bind fun _ _ => rfl
    refine Session.record_leads (annotateReturns_honest parsed) ?_ hs
    intro names h
    cases names with
    | nil => rfl
    | cons name rest => cases h
  | replaceNode ref new =>
    refine .map _ (Session.insertion_leads hs ref ha _ fun p new b i hnew hb => ?_)
    exact Stmt.eachImport_append.2 ⟨Stmt.eachImport_append.2
      ⟨hb.sublist (List.take_sublist ..), hnew⟩, hb.sublist (List.drop_sublist ..)⟩
  | insertBefore ref new =>
    refine .map _ (Session.insertion_leads hs ref ha _ fun p new b i hnew hb => ?_)
    exact Stmt.eachImport_append.2 ⟨Stmt.eachImport_append.2
      ⟨hb.sublist (List.take_sublist ..), hnew⟩, hb.sublist (List.drop_sublist ..)⟩
  | insertAfter ref new =>
    refine .map _ (Session.insertion_leads hs ref ha _ fun p new b i hnew hb => ?_)
    exact Stmt.eachImport_append.2 ⟨Stmt.eachImport_append.2
      ⟨hb.sublist (List.take_sublist ..), hnew⟩, hb.sublist (List.drop_sublist ..)⟩
  | removeNode ref =>
    exact .map _ (Session.editRef_leads hs ref _ fun b i hb => hb.sublist (List.eraseIdx_sublist ..))
  | transform description edit =>
    refine .map _ ?_
    refine Session.record_leads_of fun n m h => ?_
    rw [Edit.perform_bind_ok] at h
    obtain ⟨n', mid, hedit, h⟩ := h
    rw [Edit.perform_bind_ok] at h
    obtain ⟨_, _, hask, h⟩ := h
    obtain ⟨-, rfl⟩ := Edit.perform_ask_ok hask
    cases h
    exact ⟨ha _ _ hedit, fun hnone => by cases hnone⟩
  | undo => exact absurd rfl hundo

end Refactory
