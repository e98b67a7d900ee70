import Refactory.Rewrite
import Refactory.Session

/-! # Running edits and steps

What an edit of a module or a step of a session reports and leaves, for each way of putting it
together. A sequence succeeds when each part does (`Edit.perform_bind_ok`). -/

namespace Refactory

variable {α β : Type}

/-- A sequence succeeds when both parts do. -/
theorem bind_ok {ε : Type} {x : Except ε α} {next : α → Except ε β} {b : β} :
    (x >>= next) = .ok b ↔ ∃ a, x = .ok a ∧ next a = .ok b := by
  cases x <;> simp [bind, Except.bind]

theorem toOption_eq_some {ε : Type} {x : Except ε α} {a : α} : x.toOption = some a ↔ x = .ok a := by
  cases x <;> simp [Except.toOption]

/-- A function succeeds on every member of a list when what it gives are successes. -/
theorem mapM_ok {f : α → Except Fault β} {as : List α} {bs : List β} :
    as.mapM f = .ok bs ↔ as.map f = bs.map .ok := by
  induction as generalizing bs with
  | nil => cases bs <;> simp [pure, Except.pure]
  | cons a as ih =>
    rw [List.mapM_cons, List.map_cons]
    cases hf : f a with
    | error e => cases bs <;> simp [bind, Except.bind]
    | ok b =>
      cases hrest : as.mapM f with
      | error e =>
        have hne : ∀ bs : List β, as.map f ≠ bs.map .ok := fun bs h => by
          rw [ih.2 h] at hrest
          cases hrest
        cases bs <;> simp [bind, Except.bind, hne]
      | ok rest =>
        rw [ih.1 hrest]
        cases bs with
        | nil => simp [bind, Except.bind, pure, Except.pure]
        | cons c cs =>
          have hinj : rest.map Except.ok = cs.map (Except.ok : β → Except Fault β) ↔ rest = cs :=
            List.map_inj_right fun _ _ h => Except.ok.inj h
          simp [bind, Except.bind, pure, Except.pure, hinj]

namespace Edit

theorem perform_bind (e : Edit α) (next : α → Edit β) (m : Module) :
    (e >>= next).perform m =
      match e.perform m with
      | (.ok a, m') => (next a).perform m'
      | (.error f, m') => (.error f, m') := by
  change Edit.perform (ExceptT.bind e next) m = _
  simp only [Edit.perform, ExceptT.run, ExceptT.bind, ExceptT.mk, StateT.run_bind]
  rcases StateT.run e m with ⟨_ | _, _⟩ <;> rfl

/-- A sequence of two edits succeeds when the first does and the second does on what it leaves. -/
theorem perform_bind_ok {e : Edit α} {next : α → Edit β} {m m' : Module} {b : β} :
    (e >>= next).perform m = (.ok b, m') ↔
      ∃ a mid, e.perform m = (.ok a, mid) ∧ (next a).perform mid = (.ok b, m') := by
  rw [perform_bind]
  constructor
  · intro h
    rcases he : e.perform m with ⟨f | a, mid⟩ <;> rw [he] at h
    · cases h
    · exact ⟨a, mid, rfl, h⟩
  · rintro ⟨a, mid, he, h⟩
    rw [he]
    exact h

theorem perform_map_ok {e : Edit α} {f : α → β} {m m' : Module} {b : β} :
    (f <$> e).perform m = (.ok b, m') ↔ ∃ a, e.perform m = (.ok a, m') ∧ f a = b := by
  rw [map_eq_pure_bind, perform_bind_ok]
  constructor
  · rintro ⟨a, mid, h, h'⟩
    cases h'
    exact ⟨a, h, rfl⟩
  · rintro ⟨a, h, rfl⟩
    exact ⟨a, m', h, rfl⟩

@[simp] theorem perform_pure (a : α) (m : Module) : (pure a : Edit α).perform m = (.ok a, m) := rfl

@[simp] theorem perform_throw (f : Fault) (m : Module) :
    (throw f : Edit α).perform m = (.error f, m) := rfl

@[simp] theorem perform_get (m : Module) : (get : Edit Module).perform m = (.ok m, m) := rfl

@[simp] theorem perform_set (new m : Module) : (set new : Edit Unit).perform m = (.ok (), new) := rfl

@[simp] theorem perform_modify (f : Module → Module) (m : Module) :
    (modify f : Edit Unit).perform m = (.ok (), f m) := rfl

@[simp] theorem perform_ask (question : Module → Except Fault α) (m : Module) :
    (Edit.ask question).perform m = (question m, m) := rfl

theorem perform_ask_ok {question : Module → Except Fault α} {m m' : Module} {a : α}
    (h : (Edit.ask question).perform m = (.ok a, m')) : question m = .ok a ∧ m = m' :=
  Prod.mk.inj h

end Edit

namespace Step

theorem perform_bind (p : Step α) (next : α → Step β) (s : Session) :
    (p >>= next).perform s =
      match p.perform s with
      | (.ok a, s') => (next a).perform s'
      | (.error f, s') => (.error f, s') := by
  change Step.perform (ExceptT.bind p next) s = _
  simp only [Step.perform, ExceptT.run, ExceptT.bind, ExceptT.mk, StateT.run_bind]
  rcases StateT.run p s with ⟨_ | _, _⟩ <;> rfl

theorem perform_map (f : α → β) (p : Step α) (s : Session) :
    (f <$> p).perform s = ((p.perform s).1.map f, (p.perform s).2) := by
  rw [map_eq_pure_bind, perform_bind]
  rcases p.perform s with ⟨_ | _, _⟩ <;> rfl

theorem perform_liftExcept (e : Except Fault α) (s : Session) :
    (liftM e : Step α).perform s = (e, s) := by
  cases e <;> rfl

@[simp] theorem perform_pure (a : α) (s : Session) : (pure a : Step α).perform s = (.ok a, s) := rfl

@[simp] theorem perform_get (s : Session) : (get : Step Session).perform s = (.ok s, s) := rfl

end Step

end Refactory
