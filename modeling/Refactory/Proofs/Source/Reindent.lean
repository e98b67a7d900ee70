import Refactory.Proofs.Render.Suites

/-! # Indentation taken off and put back

A captured statement is dedented when it is read and indented when it is written. The two number the
rows of its text differently, one from the row on which the statement began and the other from one;
where both agree about which rows begin inside a string, the lines come back as they were, except that
blank lines outside of strings become empty (`indentSource_dedentLines`). -/

namespace Refactory.Source

variable {margin line : Text}

theorem isBlank_of_isIndent {c : CodePoint} (h : isIndent c = true) : c.isBlank = true := by
  rcases Bool.or_eq_true_iff.1 h with hc | hc
  · rw [of_decide_eq_true hc]
    decide
  · rw [of_decide_eq_true hc]
    decide

theorem isBlank_margin (h : ∀ c ∈ margin, isIndent c = true) : margin.isBlank = true :=
  List.all_eq_true.2 fun c hc => isBlank_of_isIndent (h c hc)

/-- Taking a margin off leaves a blank line blank, and no other. -/
theorem isBlank_drop_margin (hmargin : ∀ c ∈ margin, isIndent c = true) (h : margin <+: line) :
    Text.isBlank (line.drop margin.length) = line.isBlank := by
  obtain ⟨rest, rfl⟩ := h
  rw [List.drop_left, Text.isBlank_pad (isBlank_margin hmargin)]

/-! ## One line -/

/-- A line outside of strings, dedented. -/
def dedentLine (margin line : Text) : Text :=
  if margin.isPrefixOf line then line.drop margin.length else line

/-- A line outside of strings, indented. -/
def indentLine (margin line : Text) : Text := if line.isBlank then [] else margin ++ line

theorem isBlank_dedentLine (hmargin : ∀ c ∈ margin, isIndent c = true) :
    (dedentLine margin line).isBlank = line.isBlank := by
  unfold dedentLine
  split_ifs with h
  · exact isBlank_drop_margin hmargin (List.isPrefixOf_iff_prefix.1 h)
  · rfl

/-- A line that has the margin gets it back, and a blank one becomes empty. -/
theorem indentLine_dedentLine (hmargin : ∀ c ∈ margin, isIndent c = true)
    (h : line.isBlank = false → margin <+: line) :
    indentLine margin (dedentLine margin line) = if line.isBlank then [] else line := by
  rw [indentLine, isBlank_dedentLine hmargin]
  split_ifs with hblank
  · rfl
  · have hprefix := h (Bool.not_eq_true _ ▸ hblank)
    rw [dedentLine, if_pos (List.isPrefixOf_iff_prefix.2 hprefix)]
    exact List.prefix_iff_eq_append.1 hprefix

/-! ## Several lines -/

/-- Lines behind the first, indented again: `row` is the row of the first of them in the source, and
`n` its row in the dedented text. -/
theorem indentFrom_dedentTail {keep : List Int} {rows : List Nat} {lines : List Text} {row : Int}
    {n : Nat} (hmargin : ∀ c ∈ margin, isIndent c = true)
    (hrows : ∀ i < lines.length, n + i ∈ rows ↔ row + i ∈ keep)
    (hlines : ∀ (i : Nat) (hi : i < lines.length), row + i ∉ keep → lines[i].isBlank = false →
      margin <+: lines[i]) :
    indentFrom margin rows n (dedentTail margin keep row lines) =
      lines.mapIdx fun i (line : Text) =>
        if row + i ∉ keep ∧ line.isBlank = true then [] else line := by
  have hshift : ∀ (row : Int) (i : Nat), row + ((i + 1 : Nat) : Int) = row + 1 + i := by omega
  induction lines generalizing row n with
  | nil => rfl
  | cons line lines ih =>
    have hfirst := hrows 0 (Nat.succ_pos _)
    have hmargined := hlines 0 (Nat.succ_pos _)
    rw [Nat.add_zero, Int.natCast_zero, Int.add_zero] at hfirst
    rw [Int.natCast_zero, Int.add_zero, List.getElem_cons_zero] at hmargined
    have hrowsTail : ∀ i < lines.length, n + 1 + i ∈ rows ↔ row + 1 + i ∈ keep := fun i hi => by
      rw [← hshift, ← hrows (i + 1) (Nat.succ_lt_succ hi), Nat.add_right_comm, Nat.add_assoc]
    have hlinesTail : ∀ (i : Nat) (hi : i < lines.length), row + 1 + i ∉ keep →
        lines[i].isBlank = false → margin <+: lines[i] := fun i hi hkeep =>
      hlines (i + 1) (Nat.succ_lt_succ hi) (by rwa [hshift])
    rw [dedentTail, indentFrom, ih hrowsTail hlinesTail, List.mapIdx_cons]
    congr 1
    · by_cases hkeep : row ∈ keep
      · simp [hfirst, hkeep]
      · have hline := indentLine_dedentLine hmargin (hmargined hkeep)
        rw [indentLine, dedentLine] at hline
        simpa [hfirst, hkeep] using hline
    · refine congrArg (fun f => List.mapIdx f lines) (funext fun i => funext fun line => ?_)
      rw [hshift]

variable {first : Text} {rest : List Text} {keep : List Int} {row : Int}

/-- Every line of a dedented text is one line. -/
theorem oneLine_dedentTail (h : ∀ line ∈ rest, line.OneLine) :
    ∀ line ∈ dedentTail margin keep row rest, line.OneLine := by
  induction rest generalizing row with
  | nil => exact List.forall_mem_nil _
  | cons line rest ih =>
    rw [List.forall_mem_cons] at h
    refine List.forall_mem_cons.2 ⟨?_, ih h.2⟩
    split_ifs
    · exact fun hfeed => h.1 (List.mem_of_mem_drop hfeed)
    · exact h.1

theorem lines_dedentLines (h : ∀ line ∈ first :: rest, line.OneLine) :
    (dedentLines (first :: rest) margin keep row).lines =
      first :: dedentTail margin keep (row + 1) rest := by
  rw [List.forall_mem_cons] at h
  exact Text.lines_join (List.cons_ne_nil _ _)
    (List.forall_mem_cons.2 ⟨h.1, oneLine_dedentTail h.2⟩)

/-- Indenting undoes dedenting. The first of the lines stands on `row` and has no margin; of the others,
those with something on them that begin outside of strings have it. If the rows of the dedented text
that continue a string are those that were kept, counted from one, then every line comes back as it
was, the first with the margin in front, except that blank lines outside of strings become empty. -/
theorem indentSource_dedentLines (honeLine : ∀ line ∈ first :: rest, line.OneLine)
    (hmargin : ∀ c ∈ margin, isIndent c = true) (hrow : row ∉ keep) (hfirst : first.isBlank = false)
    (hrest : ∀ (i : Nat) (hi : i < rest.length), row + 1 + i ∉ keep → rest[i].isBlank = false →
      margin <+: rest[i])
    (hrows : ∀ n : Nat, n ∈ continuationRows (dedentLines (first :: rest) margin keep row) ↔
      1 ≤ n ∧ n ≤ (first :: rest).length ∧ row + n - 1 ∈ keep) :
    indentSource (dedentLines (first :: rest) margin keep row) margin =
      (margin ++ first) :: rest.mapIdx fun i line =>
        if row + 1 + i ∉ keep ∧ line.isBlank = true then [] else line := by
  have hone : 1 ∉ continuationRows (dedentLines (first :: rest) margin keep row) := fun hmem => by
    have hkeep := ((hrows 1).1 hmem).2.2
    rw [Int.natCast_one, Int.add_sub_cancel] at hkeep
    exact hrow hkeep
  rw [indentSource, lines_dedentLines honeLine, indentFrom]
  congr 1
  · rw [if_neg (by rwa [List.contains_iff_mem]), if_neg (by rw [hfirst]; exact Bool.false_ne_true)]
  · refine indentFrom_dedentTail hmargin (fun i hi => ?_) hrest
    have hshift : row + ((1 + 1 + i : Nat) : Int) - 1 = row + 1 + i := by omega
    rw [hrows, hshift, List.length_cons]
    exact ⟨fun h => h.2.2, fun h => ⟨by omega, by omega, h⟩⟩

/-- A loop on the third row of a source: a string over three rows, one of them blank, a blank row with
less than the margin, and a row behind it. -/
theorem indentSource_dedentLines_sample :
    let first : Text := "while x:"
    let rest : List Text := ["        t = \"\"\"", "  in", "", "    \"\"\"", "  ", "\t", "        y"]
    let margin : Text := "    "
    let keep : List Int := [5, 6, 7]
    (∀ line ∈ first :: rest, line.OneLine) ∧ (∀ c ∈ margin, isIndent c = true) ∧ 3 ∉ keep ∧
    first.isBlank = false ∧
    (∀ (i : Nat) (hi : i < rest.length), (3 : Int) + 1 + i ∉ keep → rest[i].isBlank = false →
      margin <+: rest[i]) ∧
    (∀ n : Nat, n ∈ continuationRows (dedentLines (first :: rest) margin keep 3) ↔
      1 ≤ n ∧ n ≤ (first :: rest).length ∧ (3 : Int) + n - 1 ∈ keep) ∧
    indentSource (dedentLines (first :: rest) margin keep 3) margin = (margin ++ first) ::
      (["        t = \"\"\"", "  in", "", "    \"\"\"", "", "", "        y"] : List Text) := by
  intro first rest margin keep
  have honeLine : ∀ line ∈ first :: rest, line.OneLine := by decide
  have hmargin : ∀ c ∈ margin, isIndent c = true := by decide
  have hrest : ∀ (i : Nat) (hi : i < rest.length), (3 : Int) + 1 + i ∉ keep →
      rest[i].isBlank = false → margin <+: rest[i] := by decide
  have hrows : continuationRows (dedentLines (first :: rest) margin keep 3) = [3, 4, 5] := by
    decide +kernel
  have hkept : ∀ n : Nat, n ∈ continuationRows (dedentLines (first :: rest) margin keep 3) ↔
      1 ≤ n ∧ n ≤ (first :: rest).length ∧ (3 : Int) + n - 1 ∈ keep := fun n => by
    rw [hrows]
    simp only [keep, List.mem_cons, List.not_mem_nil, or_false]
    change _ ↔ 1 ≤ n ∧ n ≤ 8 ∧ _
    omega
  refine ⟨honeLine, hmargin, by decide, by decide, hrest, hkept, ?_⟩
  rw [indentSource_dedentLines honeLine hmargin (by decide) (by decide) hrest hkept]
  decide

end Refactory.Source
