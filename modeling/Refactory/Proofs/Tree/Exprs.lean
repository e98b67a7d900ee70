import Mathlib.Data.List.Forall2
import Refactory.Proofs.Tree.Nodes

/-! # The sub-expressions of an expression

`Expr.Within` relates an expression to itself and to all its sub-expressions. A walk ends well if each
of them is sound, and has then met exactly these (`Expr.walk_covers`). -/

namespace Refactory

namespace Expr

/-- The expressions directly inside an expression. -/
def children : Expr → List Expr
  | .call func args keywords => func :: args ++ keywords.map Keyword.value
  | .binary left _ right => [left, right]
  | .unary _ operand => [operand]
  | .logical _ values => values
  | .compare left _ comparators => left :: comparators
  | .attribute value _ => [value]
  | .subscript value index => [value, index]
  | .starred value => [value]
  | .tuple elements => elements
  | .list elements => elements
  | .dict keys values => keys.filterMap id ++ values
  | .formatted parts => parts.filterMap Piece.value?
  | .name _ | .string _ | .number _ | .truth _ | .noneLiteral | .captured .. | .foreign _ => []

/-- Whether a walk can go on at an expression: it is a node, and a dictionary's keys and values pair
up. -/
def isSound : Expr → Bool
  | .foreign _ => false
  | .dict keys values => keys.length = values.length
  | _ => true

end Expr

section

variable {P : Expr → Prop}

mutual

/-- What holds of an expression if it holds of those directly inside holds of all. -/
theorem Expr.induct_children (h : ∀ e : Expr, (∀ c ∈ e.children, P c) → P e) : ∀ e : Expr, P e
  | .call func args keywords => h _ (List.forall_mem_append.2
      ⟨List.forall_mem_cons.2 ⟨Expr.induct_children h func, Expr.induct_list h args⟩,
        Keyword.induct_list h keywords⟩)
  | .binary left _ right => h _ (List.forall_mem_cons.2
      ⟨Expr.induct_children h left, List.forall_mem_singleton.2 (Expr.induct_children h right)⟩)
  | .unary _ operand => h _ (List.forall_mem_singleton.2 (Expr.induct_children h operand))
  | .logical _ values => h _ (Expr.induct_list h values)
  | .compare left _ comparators => h _ (List.forall_mem_cons.2
      ⟨Expr.induct_children h left, Expr.induct_list h comparators⟩)
  | .attribute value _ => h _ (List.forall_mem_singleton.2 (Expr.induct_children h value))
  | .subscript value index => h _ (List.forall_mem_cons.2
      ⟨Expr.induct_children h value, List.forall_mem_singleton.2 (Expr.induct_children h index)⟩)
  | .starred value => h _ (List.forall_mem_singleton.2 (Expr.induct_children h value))
  | .tuple elements => h _ (Expr.induct_list h elements)
  | .list elements => h _ (Expr.induct_list h elements)
  | .dict keys values => h _ (List.forall_mem_append.2
      ⟨Expr.induct_keys h keys, Expr.induct_list h values⟩)
  | .formatted parts => h _ (Piece.induct_list h parts)
  | .name _ | .string _ | .number _ | .truth _ | .noneLiteral | .captured .. | .foreign _ =>
    h _ fun _ hc => by cases hc

theorem Expr.induct_list (h : ∀ e : Expr, (∀ c ∈ e.children, P c) → P e) :
    ∀ (es : List Expr), ∀ c ∈ es, P c
  | [] => fun _ hc => by cases hc
  | e :: rest => List.forall_mem_cons.2 ⟨Expr.induct_children h e, Expr.induct_list h rest⟩

theorem Expr.induct_keys (h : ∀ e : Expr, (∀ c ∈ e.children, P c) → P e) :
    ∀ (ks : List (Option Expr)), ∀ c ∈ ks.filterMap id, P c
  | [] => fun _ hc => by cases hc
  | none :: rest => Expr.induct_keys h rest
  | some e :: rest => List.forall_mem_cons.2 ⟨Expr.induct_children h e, Expr.induct_keys h rest⟩

theorem Keyword.induct_list (h : ∀ e : Expr, (∀ c ∈ e.children, P c) → P e) :
    ∀ (ks : List Keyword), ∀ c ∈ ks.map Keyword.value, P c
  | [] => fun _ hc => by cases hc
  | .mk _ value :: rest =>
    List.forall_mem_cons.2 ⟨Expr.induct_children h value, Keyword.induct_list h rest⟩

theorem Piece.induct_list (h : ∀ e : Expr, (∀ c ∈ e.children, P c) → P e) :
    ∀ (ps : List Piece), ∀ c ∈ ps.filterMap Piece.value?, P c
  | [] => fun _ hc => by cases hc
  | .text _ :: rest => Piece.induct_list h rest
  | .field value _ _ :: rest =>
    List.forall_mem_cons.2 ⟨Expr.induct_children h value, Piece.induct_list h rest⟩

end

end

/-! ## Sub-expressions -/

/-- An expression is another one or lies inside it. -/
inductive Expr.Within (n : Expr) : Expr → Prop
  | self : Within n n
  | inside {e c} (hc : c ∈ e.children) (h : Within n c) : Within n e

/-- Every sub-expression satisfies `P`, the expression itself included. -/
def Expr.All (P : Expr → Prop) (e : Expr) : Prop := ∀ n : Expr, n.Within e → P n

theorem Expr.within_iff {n e : Expr} : n.Within e ↔ n = e ∨ ∃ c ∈ e.children, n.Within c := by
  constructor
  · rintro (_ | ⟨hc, h⟩)
    · exact .inl rfl
    · exact .inr ⟨_, hc, h⟩
  · rintro (rfl | ⟨c, hc, h⟩)
    · exact .self
    · exact .inside hc h

theorem Expr.all_iff {P : Expr → Prop} {e : Expr} :
    e.All P ↔ P e ∧ ∀ c ∈ e.children, c.All P := by
  constructor
  · intro h
    exact ⟨h e .self, fun c hc n hn => h n (.inside hc hn)⟩
  · rintro ⟨he, hchildren⟩ n hn
    rcases hn with _ | ⟨hc, hn⟩
    · exact he
    · exact hchildren _ hc n hn

theorem Expr.all_leaf {P : Expr → Prop} {e : Expr} (he : P e) (hnone : e.children = []) : e.All P :=
  Expr.all_iff.2 ⟨he, by rw [hnone]; exact List.forall_mem_nil _⟩

theorem Expr.All.mono {P Q : Expr → Prop} {e : Expr} (h : e.All P) (himp : ∀ n, P n → Q n) :
    e.All Q := fun n hn => himp n (h n hn)

/-! ## Walks -/

namespace Walk

/-- A walk ends well if everything inside is sound, and has then met just that. -/
structure Covers (w : Walk Expr) (inside : Expr → Prop) : Prop where
  fault : w.fault = none ↔ ∀ n, inside n → n.isSound = true
  items : w.fault = none → ∀ n, n ∈ w.items ↔ inside n

theorem Covers.congr {w : Walk Expr} {A B : Expr → Prop} (h : w.Covers A) (hAB : ∀ n, A n ↔ B n) :
    w.Covers B := by
  obtain rfl : A = B := funext fun n => propext (hAB n)
  exact h

theorem Covers.empty : (Walk.empty : Walk Expr).Covers fun _ => False :=
  ⟨by simp [Walk.empty], fun _ => by simp [Walk.empty]⟩

theorem Covers.cons {w : Walk Expr} {A : Expr → Prop} {e : Expr} (h : w.Covers A)
    (he : e.isSound = true) : (Walk.cons e w).Covers fun n => n = e ∨ A n := by
  refine ⟨?_, fun hf n => ?_⟩
  · simp only [or_imp, forall_and, forall_eq, he, true_and]
    exact h.fault
  · rw [Walk.cons, List.mem_cons, h.items hf]

theorem Covers.append {v w : Walk Expr} {A B : Expr → Prop} (h : v.Covers A) (h' : w.Covers B) :
    (v.append w).Covers fun n => A n ∨ B n := by
  unfold Walk.append
  cases hv : v.fault with
  | some fault =>
    have hbad : ¬ ∀ n, A n → n.isSound = true := fun H => by
      rw [h.fault.2 H] at hv
      cases hv
    refine ⟨?_, fun hf => ?_⟩
    · simp only [hv, reduceCtorEq, false_iff]
      exact fun H => hbad fun n hn => H n (.inl hn)
    · rw [hf] at hv
      cases hv
  | none =>
    refine ⟨?_, fun hf n => ?_⟩
    · simp only [or_imp, forall_and, h'.fault]
      exact ⟨fun H => ⟨h.fault.1 hv, H⟩, fun H => H.2⟩
    · rw [List.mem_append, h.items hv, h'.items hf]

theorem Covers.concat {es : List Expr} (h : ∀ e ∈ es, e.walk.Covers (·.Within e)) :
    (Walk.concat (es.map Expr.walk)).Covers fun n => ∃ e ∈ es, n.Within e := by
  induction es with
  | nil => exact Covers.empty.congr (by simp)
  | cons e es ih =>
    rw [List.forall_mem_cons] at h
    exact (h.1.append (ih h.2)).congr (by simp)

/-- Keys and values in turn, as many of one as of the other. -/
theorem Covers.interleave {keys : List (Option Expr)} {values : List Expr}
    (hlength : keys.length = values.length)
    (hkeys : ∀ e ∈ keys.filterMap id, e.walk.Covers (·.Within e))
    (hvalues : ∀ e ∈ values, e.walk.Covers (·.Within e)) :
    (Walk.concat (Refactory.interleave (keys.map (·.map Expr.walk)) (values.map Expr.walk))).Covers
      fun n => ∃ e ∈ keys.filterMap id ++ values, n.Within e := by
  induction keys generalizing values with
  | nil =>
    cases List.length_eq_zero_iff.1 hlength.symm
    exact Covers.empty.congr (by simp)
  | cons key keys ih =>
    obtain ⟨value, values, rfl⟩ := List.exists_cons_of_length_eq_add_one hlength.symm
    rw [List.forall_mem_cons] at hvalues
    have hlength' : keys.length = values.length := Nat.succ.inj hlength
    cases key with
    | none =>
      refine (hvalues.1.append (ih hlength' hkeys hvalues.2)).congr fun n => ?_
      simp only [List.filterMap_cons, id_eq, List.mem_append, List.mem_cons]
      grind
    | some key =>
      have hkeys := List.forall_mem_cons.1 hkeys
      refine (hkeys.1.append (hvalues.1.append (ih hlength' hkeys.2 hvalues.2))).congr fun n => ?_
      simp only [List.filterMap_cons, id_eq, List.mem_append, List.mem_cons]
      grind

theorem append_empty (w : Walk Expr) : w.append Walk.empty = w := by
  unfold Walk.append
  cases h : w.fault <;> simp [Walk.empty, ← h]

end Walk

theorem Expr.walkEach_eq (es : List Expr) : Expr.walkEach es = es.map Expr.walk := by
  induction es with
  | nil => rfl
  | cons e es ih => rw [Expr.walkEach, ih, List.map_cons]

theorem Expr.walkKeys_eq (ks : List (Option Expr)) :
    Expr.walkKeys ks = ks.map (·.map Expr.walk) := by
  induction ks with
  | nil => rfl
  | cons k ks ih => cases k <;> rw [Expr.walkKeys, ih] <;> rfl

theorem Keyword.walkEach_eq (ks : List Keyword) :
    Keyword.walkEach ks = (ks.map Keyword.value).map Expr.walk := by
  induction ks with
  | nil => rfl
  | cons k ks ih =>
    obtain ⟨arg, value⟩ := k
    rw [Keyword.walkEach, ih]
    rfl

theorem Piece.walkEach_eq (ps : List Piece) :
    Piece.walkEach ps = (ps.filterMap Piece.value?).map Expr.walk := by
  induction ps with
  | nil => rfl
  | cons p ps ih => cases p <;> rw [Piece.walkEach, ih] <;> rfl

/-- Except for dictionaries and foreign objects, a walk is a walk over what is directly inside. -/
theorem Expr.walk_eq {e : Expr} (hdict : ∀ keys values, e ≠ .dict keys values)
    (hforeign : ∀ kind, e ≠ .foreign kind) :
    e.walk = Walk.cons e (Walk.concat (e.children.map Expr.walk)) := by
  cases e <;> simp_all [Expr.walk, Expr.children, Walk.concat, Walk.append_empty, Expr.walkEach_eq,
    Keyword.walkEach_eq, Piece.walkEach_eq]

/-- A walk over an expression ends well if every sub-expression is sound, and has then met them. -/
theorem Expr.walk_covers (e : Expr) : e.walk.Covers (·.Within e) := by
  induction e using Expr.induct_children with
  | h e ih =>
  by_cases hforeign : ∃ kind, e = .foreign kind
  · obtain ⟨kind, rfl⟩ := hforeign
    refine ⟨?_, fun h => by cases h⟩
    simp only [Expr.walk, Walk.cons, Walk.stop, reduceCtorEq, false_iff]
    exact fun H => by cases H _ .self
  by_cases hdict : ∃ keys values, e = .dict keys values
  · obtain ⟨keys, values, rfl⟩ := hdict
    rw [Expr.walk, Expr.walkKeys_eq, Expr.walkEach_eq, entryWalk, List.length_map, List.length_map]
    split
    · rename_i hlength
      have hcovers := Walk.Covers.interleave hlength
        (fun e he => ih e (List.mem_append_left _ he)) fun e he => ih e (List.mem_append_right _ he)
      exact (hcovers.cons (by simpa [Expr.isSound] using hlength)).congr fun n =>
        Expr.within_iff.symm
    · rename_i hlength
      refine ⟨?_, fun h => by cases h⟩
      simp only [Walk.cons, Walk.stop, reduceCtorEq, false_iff]
      intro H
      exact hlength (by simpa [Expr.isSound] using H _ .self)
  · rw [Expr.walk_eq (fun keys values h => hdict ⟨keys, values, h⟩) fun kind h => hforeign ⟨kind, h⟩]
    have hsound : e.isSound = true := by
      cases e <;> simp_all [Expr.isSound]
    exact ((Walk.Covers.concat ih).cons hsound).congr fun n => Expr.within_iff.symm

end Refactory
