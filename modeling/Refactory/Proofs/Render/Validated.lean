import Refactory.Proofs.Modernize.Total
import Refactory.Proofs.Render.Modes

/-! # Rendering what passes validation

Validation sees that a tree holds nothing but nodes and that the keys and values of its dictionaries pair
up; it does not look at the operators of a comparison. So a module that passes it is rendered in every
mode, apart from the lack of support in strict mode, unless one of its integers is too long or one of
its comparisons has not as many operators as operands (`Module.toText_validated`). One such comparison
is enough (`Module.toText_uneven`). -/

namespace Refactory

open Grammar

/-- A comparison in a module has not as many operators as operands behind them, which is the fault. -/
def Module.HasUnevenComparison (m : Module) (f : Fault) : Prop :=
  ∃ s ∈ Stmt.nodesIn m.body, ∃ e ∈ s.exprs, ∃ left ops comparators,
    (Expr.compare left ops comparators).Within e ∧ ops.length ≠ comparators.length ∧
      f = .unequalLengths (ops.length < comparators.length)

/-- What keeps a module that passes validation from being rendered although its nodes are supported: the
length of an integer or a comparison. -/
def Module.Withholds (m : Module) (f : Fault) : Prop :=
  (f = .tooManyDigits ∧ m.HasLongInteger) ∨ m.HasUnevenComparison f

section

variable {m : Module} {mode : RenderMode} {f : Fault}

theorem Module.Withholds.category (h : m.Withholds f) : f.category = "ValueError" := by
  rcases h with ⟨rfl, -⟩ | ⟨s, -, e, -, left, ops, comparators, -, -, rfl⟩ <;> rfl

/-- Where walks can go on, lists of unequal length are those of a comparison. -/
theorem Expr.uneven_of_sound {e : Expr} (hsound : e.isSound = true) (h : e.isPaired = false) :
    ∃ left ops comparators, e = .compare left ops comparators ∧ ops.length ≠ comparators.length := by
  cases e with
  | compare left ops comparators => exact ⟨left, ops, comparators, rfl, of_decide_eq_false h⟩
  | dict keys values => cases hsound.symm.trans h
  | _ => cases h

/-- A fault in a sound module is the lack of support for one of its nodes, or withholds its text. -/
theorem Stmt.Faulty.of_sound (hm : m.Sound) {s : Stmt} (hs : s ∈ Stmt.nodesIn m.body)
    (h : s.Faulty mode f) :
    (∃ kind, f = .unsupported kind ∧ m.HasUnsupported kind) ∨ m.Withholds f := by
  rcases h with hown | ⟨e, he, n, hn, hown⟩
  · obtain ⟨kind, hkind, rfl⟩ := Stmt.ownFault?_cases hown
    exact .inl ⟨kind, rfl, s, hs, .inl hkind⟩
  · rcases Expr.ownFault?_cases hown with ⟨kind, hkind, rfl⟩ | ⟨hlong, rfl⟩ | ⟨hpaired, -⟩
    · exact .inl ⟨kind, rfl, s, hs, .inr ⟨e, he, n, hn, hkind⟩⟩
    · exact .inr (.inl ⟨rfl, s, hs, e, he, n, hn, hlong⟩)
    · obtain ⟨left, ops, comparators, rfl, hlengths⟩ :=
        Expr.uneven_of_sound ((hm s hs).exprs e he n hn) hpaired
      rw [Expr.ownFault?, if_neg hlengths, Option.some.injEq] at hown
      exact .inr (.inr ⟨s, hs, e, he, left, ops, comparators, hn, hlengths, hown.symm⟩)

/-- Strict mode gives what there is to blame. -/
theorem Module.toText_strict_of_sound (hm : m.Sound) (h : m.toText .strict = .error f) :
    (∃ kind, f = .unsupported kind ∧ m.HasUnsupported kind) ∨ m.Withholds f := by
  have hblames := m.toText_blames
  rw [h] at hblames
  obtain ⟨s, hs, hfaulty⟩ := hblames
  exact hfaulty.of_sound hm hs

/-- The other modes recover from the lack of support. -/
theorem Module.toText_of_sound (hm : m.Sound) (hmode : mode ≠ .strict)
    (h : m.toText mode = .error f) : m.Withholds f := by
  have hfails : FailsBy m.Withholds (Stmt.eachLines mode 0 m.body) :=
    Stmt.eachLines_fails hmode 0 m.body fun s hs f hfaulty =>
      (hfaulty.of_sound hm hs).imp_left fun ⟨kind, hkind, _⟩ => ⟨kind, hkind⟩
  have htext : FailsBy m.Withholds (m.toText mode) :=
    inferInstanceAs (FailsBy m.Withholds ((Stmt.eachLines mode 0 m.body).map _))
  exact htext.fault h

/-- A module that passes validation is rendered. In strict mode it may be a structural error instead, for
a captured node of the module; in any mode, a value error for an integer that is too long or a
comparison that has not as many operators as operands. -/
theorem Module.toText_validated (h : m.validate true = .ok ()) (mode : RenderMode) :
    (∃ t, m.toText mode = .ok t) ∨ ∃ f, m.toText mode = .error f ∧
      ((mode = .strict ∧ f.category = "StructureError" ∧
          ∃ kind, f = .unsupported kind ∧ m.HasUnsupported kind) ∨
        (f.category = "ValueError" ∧ m.Withholds f)) := by
  have hm : m.Sound := (Module.validate_ok.1 h).2
  cases htext : m.toText mode with
  | ok t => exact .inl ⟨t, rfl⟩
  | error f =>
    refine .inr ⟨f, rfl, ?_⟩
    by_cases hmode : mode = .strict
    · subst hmode
      rcases Module.toText_strict_of_sound hm htext with ⟨kind, rfl, hkind⟩ | hwithholds
      · exact .inl ⟨rfl, rfl, kind, rfl, hkind⟩
      · exact .inr ⟨hwithholds.category, hwithholds⟩
    · have hwithholds := Module.toText_of_sound hm hmode htext
      exact .inr ⟨hwithholds.category, hwithholds⟩

end

/-- A captured statement behind a comparison and a dictionary whose lists pair up. -/
theorem Module.toText_validated_sample :
    let m : Module := ⟨[
      .expr (.compare (.name "a") [.lt] [.dict [none] [.name "b"]]) none,
      .captured "Delete" (some "del x") none]⟩
    m.validate true = .ok () ∧ ∀ mode, (∃ t, m.toText mode = .ok t) ∨
      ∃ f, m.toText mode = .error f ∧
        ((mode = .strict ∧ f.category = "StructureError" ∧
            ∃ kind, f = .unsupported kind ∧ m.HasUnsupported kind) ∨
          (f.category = "ValueError" ∧ m.Withholds f)) := by
  intro m
  have hvalid : m.validate true = .ok () := rfl
  exact ⟨hvalid, Module.toText_validated hvalid⟩

/-- A comparison with an operator and nothing behind it passes validation and is rendered in no mode. -/
theorem Module.toText_uneven :
    let m : Module := ⟨[.expr (.compare (.name "x") [.eq] []) none]⟩
    m.validate true = .ok () ∧ ∀ mode, m.toText mode = .error (.unequalLengths false) := by
  refine ⟨rfl, fun mode => ?_⟩
  cases mode <;> rfl

end Refactory
