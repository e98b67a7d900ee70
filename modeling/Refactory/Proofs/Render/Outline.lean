import Refactory.Proofs.Render.OneLine

/-! # Lines grouped by indentation

An outline is a line with the lines nested in it, written with four more blanks a level
(`Outline.lines`). Lines are grouped the way indentation is read (`group`): a line that is indented
further opens a block, one that is indented less closes blocks down to one with just its indentation.
Grouping gives back the outline that was written (`group_linesIn`). -/

namespace Refactory

/-- A line without its indentation, and what is nested in it. -/
inductive Outline
  | mk (line : Text) (inner : List Outline)

namespace Outline

mutual

/-- The lines of an outline, the first one `depth` levels deep. -/
def lines (depth : Nat) : Outline → List Text
  | mk line inner => (Text.times (4 * depth) " " ++ line) :: linesIn (depth + 1) inner

/-- The lines of several outlines at one depth. -/
def linesIn (depth : Nat) : List Outline → List Text
  | [] => []
  | o :: os => o.lines depth ++ linesIn depth os

end

mutual

/-- The lines of an outline without indentation. -/
def texts : Outline → List Text
  | mk line inner => line :: textsIn inner

/-- The lines of several outlines without indentation. -/
def textsIn : List Outline → List Text
  | [] => []
  | o :: os => o.texts ++ textsIn os

end

theorem linesIn_append (depth : Nat) (os ps : List Outline) :
    linesIn depth (os ++ ps) = linesIn depth os ++ linesIn depth ps := by
  induction os with
  | nil => rfl
  | cons o os ih => rw [List.cons_append, linesIn, linesIn, ih, List.append_assoc]

theorem textsIn_append (os ps : List Outline) : textsIn (os ++ ps) = textsIn os ++ textsIn ps := by
  induction os with
  | nil => rfl
  | cons o os ih => rw [List.cons_append, textsIn, textsIn, ih, List.append_assoc]

end Outline

/-! ## Grouping -/

/-- The number of blanks in front of a line. -/
def Text.indentation (line : Text) : Nat := (line.takeWhile (· == CodePoint.scalar ' ')).length

/-- How far lines have been grouped: the indentation of the open block and what it holds, the latest
first, and the same for the blocks around it. -/
structure Grouping where
  indent : Nat
  held : List Outline
  around : List (Nat × List Outline)

namespace Grouping

/-- Nests outlines in the latest line. -/
def nest (inner : List Outline) : List Outline → List Outline
  | .mk line _ :: before => .mk line inner :: before
  | [] => []

/-- Closes blocks until the open one is indented by `n`; there has to be one. -/
def dedent (n indent : Nat) (held : List Outline) : List (Nat × List Outline) → Option Grouping
  | [] => if indent = n then some ⟨indent, held, []⟩ else none
  | (outer, before) :: around =>
    if indent = n then some ⟨indent, held, (outer, before) :: around⟩
    else if n < indent then dedent n outer (nest held.reverse before) around
    else none

/-- The grouping with blocks closed down to indentation `n`. -/
def close (n : Nat) (g : Grouping) : Option Grouping := dedent n g.indent g.held g.around

/-- Adds a line: further indented, it opens a block in the latest line. -/
def add (g : Grouping) (line : Text) : Option Grouping :=
  let n := line.indentation
  let leaf := Outline.mk (line.drop n) []
  if g.indent < n then
    if g.held.isEmpty then none else some ⟨n, [leaf], (g.indent, g.held) :: g.around⟩
  else (g.close n).map fun g => { g with held := leaf :: g.held }

end Grouping

/-- Lines grouped by their indentation, beginning with none. -/
def group (lines : List Text) : Option (List Outline) := do
  let g ← lines.foldlM Grouping.add ⟨0, [], []⟩
  let g ← g.close 0
  return g.held.reverse

theorem times_blank (k : Nat) : Text.times k " " = List.replicate k (CodePoint.scalar ' ') := by
  induction k with
  | zero => rfl
  | succ k ih =>
    rw [Text.times, List.replicate_succ, List.flatten_cons, List.replicate_succ, ← ih]
    rfl

/-- The blanks in front of a written text are its indentation. -/
theorem indentation_times {t : Text} (h : t.Written) (k : Nat) :
    (Text.times k " " ++ t).indentation = k ∧ (Text.times k " " ++ t).drop k = t := by
  rw [times_blank, Text.indentation]
  constructor
  · rw [List.takeWhile_append_of_pos fun c hc => by rw [List.eq_of_mem_replicate hc]; rfl,
      List.length_append, List.length_replicate]
    cases t with
    | nil => rfl
    | cons c rest =>
      have hc : (c == CodePoint.scalar ' ') = false := by
        refine beq_false_of_ne ?_
        rintro rfl
        have hink : (CodePoint.scalar ' ').isInk = true := h.opens
        exact absurd hink (by decide)
      rw [List.takeWhile_cons, hc]
      rfl
  · exact List.drop_left' (List.length_replicate)

namespace Grouping

variable {g g' : Grouping} {held : List Outline} {around : List (Nat × List Outline)} {n : Nat}

theorem close_self (n : Nat) (held : List Outline) (around : List (Nat × List Outline)) :
    close n ⟨n, held, around⟩ = some ⟨n, held, around⟩ := by
  cases around <;> simp [close, dedent]

theorem le_of_close (h : g.close n = some g') : n ≤ g.indent := by
  obtain ⟨indent, held, around⟩ := g
  unfold close at h
  cases around with
  | nil =>
    rw [dedent] at h
    split_ifs at h with hindent
    exact Nat.le_of_eq hindent.symm
  | cons block around =>
    rw [dedent] at h
    split_ifs at h with hindent hlt
    · exact Nat.le_of_eq hindent.symm
    · exact Nat.le_of_lt hlt

/-- Blocks are closed one by one. -/
theorem close_close {m : Nat} (h : g.close n = some g') (hm : m ≤ n) : g.close m = g'.close m := by
  obtain ⟨indent, held, around⟩ := g
  simp only [close] at h
  induction around generalizing indent held with
  | nil =>
    rw [dedent] at h
    split_ifs at h
    cases h
    rfl
  | cons block around ih =>
    obtain ⟨outer, before⟩ := block
    rw [dedent] at h
    split_ifs at h with hindent hlt
    · cases h
      rfl
    · rw [← ih outer (nest held.reverse before) h]
      have hne : indent ≠ m := by omega
      have hlt' : m < indent := by omega
      simp only [close, dedent, hne, hlt', if_false, if_true]

/-- The next line at a depth goes behind `held`. -/
def Ready (g : Grouping) (depth : Nat) (held : List Outline) (around : List (Nat × List Outline)) :
    Prop :=
  ∀ t : Text, t.Written →
    g.add (Text.times (4 * depth) " " ++ t) = some ⟨4 * depth, .mk t [] :: held, around⟩

theorem ready_of_close {depth : Nat} (h : g.close (4 * depth) = some ⟨4 * depth, held, around⟩) :
    g.Ready depth held around := by
  intro t ht
  obtain ⟨hindent, hdrop⟩ := indentation_times ht (4 * depth)
  have hle := le_of_close h
  rw [add]
  simp only [hindent, hdrop, h, Nat.not_lt.2 hle, if_false, Option.map_some]

/-- A line one level deeper goes into the latest line. -/
theorem ready_inner {depth : Nat} (hheld : held ≠ []) :
    Ready ⟨4 * depth, held, around⟩ (depth + 1) [] ((4 * depth, held) :: around) := by
  intro t ht
  obtain ⟨hindent, hdrop⟩ := indentation_times ht (4 * (depth + 1))
  have hlt : 4 * depth < 4 * (depth + 1) := by omega
  have hempty : held.isEmpty = false := by simpa using hheld
  rw [add]
  simp only [hindent, hdrop, hlt, hempty, if_true, Bool.false_eq_true, if_false]

end Grouping

open Grouping

mutual

/-- Adding the lines of an outline adds the outline. -/
theorem Outline.add_lines : ∀ (o : Outline) {g : Grouping} {depth : Nat} {held : List Outline}
    {around : List (Nat × List Outline)}, (∀ t ∈ o.texts, t.Written) → g.Ready depth held around →
      ∃ g', (o.lines depth).foldlM Grouping.add g = some g' ∧
        g'.close (4 * depth) = some ⟨4 * depth, o :: held, around⟩
  | .mk line inner, g, depth, held, around, htexts, hready => by
    rw [Outline.texts, List.forall_mem_cons] at htexts
    rw [Outline.lines, List.foldlM_cons, hready line htexts.1]
    cases inner with
    | nil => exact ⟨_, rfl, close_self _ _ _⟩
    | cons o os =>
      -- The nested lines open a block, which is closed into the line above it.
      have hready : Ready ⟨4 * depth, .mk line [] :: held, around⟩ (depth + 1) []
          ((4 * depth, .mk line [] :: held) :: around) := ready_inner (List.cons_ne_nil _ _)
      obtain ⟨g', hrun, hclose⟩ :=
        Outline.add_linesIn (o :: os) (List.cons_ne_nil o os) htexts.2 hready
      refine ⟨g', hrun, ?_⟩
      have hne : 4 * (depth + 1) ≠ 4 * depth := by omega
      have hlt : 4 * depth < 4 * (depth + 1) := by omega
      rw [close_close hclose (Nat.le_of_lt hlt), close, dedent, if_neg hne, if_pos hlt,
        List.append_nil, List.reverse_reverse]
      exact close_self _ _ _

theorem Outline.add_linesIn : ∀ (os : List Outline) {g : Grouping} {depth : Nat}
    {held : List Outline} {around : List (Nat × List Outline)}, os ≠ [] →
      (∀ t ∈ Outline.textsIn os, t.Written) → g.Ready depth held around →
      ∃ g', (Outline.linesIn depth os).foldlM Grouping.add g = some g' ∧
        g'.close (4 * depth) = some ⟨4 * depth, os.reverse ++ held, around⟩
  | [], _, _, _, _, hne, _, _ => (hne rfl).elim
  | o :: os, g, depth, held, around, _, htexts, hready => by
    rw [Outline.textsIn, List.forall_mem_append] at htexts
    obtain ⟨g', hrun, hclose⟩ := Outline.add_lines o htexts.1 hready
    rw [Outline.linesIn, List.foldlM_append, hrun]
    cases os with
    | nil => exact ⟨g', rfl, hclose⟩
    | cons p os =>
      obtain ⟨g'', hrun', hclose'⟩ := Outline.add_linesIn (p :: os) (List.cons_ne_nil p os) htexts.2
        (ready_of_close hclose)
      refine ⟨g'', hrun', ?_⟩
      rw [hclose', List.reverse_cons (a := o), List.append_assoc]
      rfl

end

/-- Grouping the lines of outlines gives them back. -/
theorem group_linesIn {os : List Outline} (h : ∀ t ∈ Outline.textsIn os, t.Written) :
    group (Outline.linesIn 0 os) = some os := by
  cases os with
  | nil => rfl
  | cons o os =>
    obtain ⟨g, hrun, hclose⟩ := Outline.add_linesIn (o :: os) (List.cons_ne_nil o os) h
      (ready_of_close (close_self (4 * 0) [] []))
    rw [group]
    simp only [hrun, bind, Option.bind, pure, hclose, List.append_nil, List.reverse_reverse]

end Refactory
