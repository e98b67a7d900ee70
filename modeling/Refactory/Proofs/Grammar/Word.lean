import Mathlib.Data.List.Chain
import Refactory.Grammar.Lexer

/-! # The characters of names

A class of characters that changes nowhere within a range is constant there (`inClass_of_constantOn`), so
that a check of the boundaries settles what holds of every character: those of names are no blanks, and
are read as parts of a word. -/

namespace Refactory

/-! ## Deciding

What holds of the characters of a list is decided on these, not on all characters there are. -/

instance decidableForallChars {p : Char → Prop} [DecidablePred p] (cs : List Char) :
    Decidable (∀ c ∈ cs, p c) :=
  List.decidableBAll p cs

instance decidableForallChar {p : Char → Prop} [DecidablePred p] (o : Option Char) :
    Decidable (∀ c ∈ o, p c) :=
  Option.decidableForallMem o

/-! ## Classes -/

/-- The ranges that make up a class. -/
def classRanges : List Nat → List (Nat × Nat)
  | a :: b :: bounds => (a, b) :: classRanges bounds
  | _ => []

/-- Whether the numbers from `low` on and below `high` are all in the class, or all outside of it if
`inside` is false. Sorted boundaries are looked at no further than to the first one behind `low`. -/
def constantOn (low high : Nat) : Bool → List Nat → Bool
  | inside, [] => !inside
  | inside, b :: bounds =>
    bif b.ble low then constantOn low high (!inside) bounds else high.ble b && !inside

theorem inClass_of_lt {bounds : List Nat} {n : Nat} (h : ∀ b ∈ bounds, n < b) :
    inClass bounds n = false := by
  have hcount : bounds.countP (· ≤ n) = 0 := by
    refine List.countP_eq_zero.2 fun b hb => ?_
    simpa using h b hb
  rw [inClass, hcount]
  rfl

theorem inClass_cons_of_le {b n : Nat} (bounds : List Nat) (h : b ≤ n) :
    inClass (b :: bounds) n = !inClass bounds n := by
  rw [inClass, inClass, List.countP_cons_of_pos (by simpa using h)]
  rcases Nat.mod_two_eq_zero_or_one (bounds.countP (· ≤ n)) with heven | hodd
  · rw [heven, Nat.add_mod, heven]
    rfl
  · rw [hodd, Nat.add_mod, hodd]
    rfl

theorem inClass_of_constantOn {bounds : List Nat} {low high n : Nat} {inside : Bool}
    (hsorted : bounds.IsChain (· ≤ ·)) (h : constantOn low high inside bounds = true)
    (hlow : low ≤ n) (hhigh : n < high) : inClass bounds n = inside := by
  induction bounds generalizing inside with
  | nil =>
    cases inside with
    | false => rfl
    | true => cases h
  | cons b bounds ih =>
    rw [constantOn] at h
    cases hb : b.ble low with
    | true =>
      rw [hb, cond_true] at h
      rw [inClass_cons_of_le bounds ((Nat.le_of_ble_eq_true hb).trans hlow), ih hsorted.tail h,
        Bool.not_not]
    | false =>
      rw [hb, cond_false, Bool.and_eq_true, Bool.not_eq_true'] at h
      have hbehind : high ≤ b := Nat.le_of_ble_eq_true h.1
      rw [h.2]
      apply inClass_of_lt
      intro b' hb'
      refine Nat.lt_of_lt_of_le hhigh (hbehind.trans ?_)
      rcases List.mem_cons.1 hb' with rfl | hb'
      · exact Nat.le_refl _
      · exact (List.pairwise_cons.1 (List.isChain_iff_pairwise.1 hsorted)).1 b' hb'

/-- A number in a class lies in one of its ranges. -/
theorem mem_classRanges {bounds : List Nat} {n : Nat} (heven : bounds.length % 2 = 0)
    (hranges : ∀ r ∈ classRanges bounds, r.1 ≤ r.2) (h : inClass bounds n = true) :
    ∃ r ∈ classRanges bounds, r.1 ≤ n ∧ n < r.2 := by
  fun_induction classRanges bounds with
  | case1 a b bounds ih =>
    rw [List.forall_mem_cons] at hranges
    by_cases hn : a ≤ n ∧ n < b
    · exact ⟨(a, b), List.mem_cons_self, hn⟩
    · have hrest : inClass bounds n = true := by
        have hab : a ≤ b := hranges.1
        simp only [inClass, List.countP_cons, beq_iff_eq] at h ⊢
        by_cases ha : a ≤ n <;> by_cases hb : b ≤ n <;> simp [ha, hb] at h <;> omega
      obtain ⟨r, hr, hin⟩ := ih (by rw [List.length_cons, List.length_cons] at heven; omega)
        hranges.2 hrest
      exact ⟨r, List.mem_cons_of_mem _ hr, hin⟩
  | case2 bounds hshort =>
    match bounds, hshort with
    | [], _ => cases h
    | [a], _ => cases heven
    | a :: b :: bounds, hshort => exact (hshort a b bounds rfl).elim

/-- Two classes have nothing in common if one avoids the ranges of the other. -/
theorem inClass_disjoint {bounds others : List Nat} {n : Nat} (heven : bounds.length % 2 = 0)
    (hsorted : others.IsChain (· ≤ ·))
    (hranges : ∀ r ∈ classRanges bounds, r.1 ≤ r.2 ∧ constantOn r.1 r.2 false others = true)
    (h : inClass others n = true) : inClass bounds n = false := by
  rw [← Bool.not_eq_true]
  intro hin
  obtain ⟨r, hr, hlow, hhigh⟩ := mem_classRanges heven (fun r hr => (hranges r hr).1) hin
  rw [inClass_of_constantOn hsorted (hranges r hr).2 hlow hhigh] at h
  cases h

namespace CodePoint

theorem not_blank_of_begins {c : CodePoint} (h : c.beginsIdentifier = true) : c.isBlank = false :=
  inClass_disjoint (by decide) (by decide +kernel) (by decide +kernel) h

theorem not_blank_of_continues {c : CodePoint} (h : c.continuesIdentifier = true) :
    c.isBlank = false :=
  inClass_disjoint (by decide) (by decide +kernel) (by decide +kernel) h

end CodePoint

namespace Grammar

/-- Within ASCII only the boundaries there count. -/
theorem inClass_ascii (bounds : List Nat) {n : Nat} (h : n < 0x80) :
    inClass bounds n = inClass (bounds.filter (Nat.blt · 0x80)) n := by
  have hcount : (bounds.filter (Nat.blt · 0x80)).countP (· ≤ n) = bounds.countP (· ≤ n) := by
    rw [List.countP_filter]
    refine List.countP_congr fun b _ => ?_
    simp only [Nat.blt_eq, Bool.and_eq_true, decide_eq_true_iff]
    omega
  rw [inClass, inClass, hcount]

theorem identifierPart_ascii {n : Nat} (h : n < 0x80) :
    inClass Text.Table.identifierPart n =
      inClass [0x30, 0x3a, 0x41, 0x5b, 0x5f, 0x60, 0x61, 0x7b] n := by
  have hascii : Text.Table.identifierPart.filter (Nat.blt · 0x80) =
      [0x30, 0x3a, 0x41, 0x5b, 0x5f, 0x60, 0x61, 0x7b] := by decide +kernel
  rw [inClass_ascii _ h, hascii]

theorem identifierStart_ascii {n : Nat} (h : n < 0x80) :
    inClass Text.Table.identifierStart n = inClass [0x41, 0x5b, 0x5f, 0x60, 0x61, 0x7b] n := by
  have hascii : Text.Table.identifierStart.filter (Nat.blt · 0x80) =
      [0x41, 0x5b, 0x5f, 0x60, 0x61, 0x7b] := by decide +kernel
  rw [inClass_ascii _ h, hascii]

theorem isWordChar_of_high {c : Char} (h : 0x80 ≤ c.toNat) : isWordChar c = true := by
  simp [isWordChar, h]

theorem isWordChar_of_continues {c : Char} (h : (CodePoint.scalar c).continuesIdentifier = true) :
    isWordChar c = true := by
  rcases Nat.lt_or_ge c.toNat 0x80 with hc | hc
  · have hword : ∀ n < 0x80, inClass [0x30, 0x3a, 0x41, 0x5b, 0x5f, 0x60, 0x61, 0x7b] n = true →
        isWordChar (Char.ofNat n) = true := by decide
    rw [CodePoint.continuesIdentifier, CodePoint.val, identifierPart_ascii hc] at h
    have hchar := hword c.toNat hc h
    rwa [Char.ofNat_toNat] at hchar
  · exact isWordChar_of_high hc

theorem isWordChar_of_begins {c : Char} (h : (CodePoint.scalar c).beginsIdentifier = true) :
    isWordChar c = true ∧ c.isDigit = false := by
  rcases Nat.lt_or_ge c.toNat 0x80 with hc | hc
  · have hword : ∀ n < 0x80, inClass [0x41, 0x5b, 0x5f, 0x60, 0x61, 0x7b] n = true →
        isWordChar (Char.ofNat n) = true ∧ (Char.ofNat n).isDigit = false := by decide
    rw [CodePoint.beginsIdentifier, CodePoint.val, identifierStart_ascii hc] at h
    have hchar := hword c.toNat hc h
    rwa [Char.ofNat_toNat] at hchar
  · refine ⟨isWordChar_of_high hc, ?_⟩
    rw [← Bool.not_eq_true]
    intro hdigit
    have hle : c.toNat ≤ 57 := (Char.isDigit_iff_toNat.1 hdigit).2
    omega

end Grammar

end Refactory
