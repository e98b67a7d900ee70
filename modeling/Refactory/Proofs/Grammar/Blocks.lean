import Refactory.Proofs.Grammar.Lexing

/-! # Indented lines are read as blocks

Legible lines, indented by four blanks a level, are read as the marks of the lines with layout between
them: a line end behind each, and around what is nested in a line the beginning and the end of a block
(`Printed`). Main statement: `Printed.tokenize`. -/

namespace Refactory.Grammar

open Inks

/-! ## The start of a line -/

/-- The levels of indentation that are open in a block, the innermost first. -/
def openLevels : Nat → List Column
  | 0 => []
  | d + 1 => ⟨4 * (d + 1), 4 * (d + 1)⟩ :: openLevels d

/-- The blanks in front of a line. -/
def blanks (d : Nat) : List Char := List.replicate (4 * d) ' '

/-- The layout in front of a line, by the depths of the line above and its own. -/
def layoutMarks (above d : Nat) : List Mark :=
  if above < d then [.indent] else List.replicate (above - d) .dedent

theorem indentation_blanks {k : Nat} (fuel : Nat) (column : Column) {ps : List Placed}
    {cs : List Char}
    (hps : ps.map (·.char) = List.replicate k ' ' ++ cs)
    (hcs : ∀ c ∈ cs.head?, isInkChar c = true) :
    ∃ rest, rest.map (·.char) = cs ∧ rest = ps.drop k ∧ indentation (fuel + k + 1) column 0 ps =
      some (⟨column.wide + k, column.narrow + k⟩, rest) := by
  induction k generalizing ps column with
  | zero =>
    refine ⟨ps, hps, rfl, ?_⟩
    cases ps with
    | nil => simp [indentation]
    | cons p ps =>
      have hp := hcs p.char (by rw [← List.nil_append cs, ← List.replicate_zero, ← hps]; rfl)
      simp only [isInkChar, Bool.and_eq_true, Bool.not_eq_true', bne_iff_ne] at hp
      have hne : ∀ d, (CodePoint.scalar d).isBlank = true → p.char ≠ d := by
        rintro d hd heq
        rw [heq, hd] at hp
        cases hp.1.1
      simp [indentation, hne ' ' rfl, hne '\t' rfl, hne '\x0c' rfl, hp.1.2]
  | succ k ih =>
    rw [List.replicate_succ, List.cons_append] at hps
    obtain ⟨p, ps, rfl, hp, hrest⟩ := List.map_eq_cons_iff.1 hps
    obtain ⟨rest, hrest, hdrop, hindent⟩ := ih ⟨column.wide + 1, column.narrow + 1⟩ hrest
    refine ⟨rest, hrest, hdrop, ?_⟩
    rw [show fuel + (k + 1) + 1 = fuel + k + 1 + 1 by omega, indentation]
    simp only [hp, if_true, hindent]
    rw [Nat.add_assoc, Nat.add_assoc, Nat.add_comm 1 k]

theorem headD_openLevels (d : Nat) : (openLevels d).headD {} = ⟨4 * d, 4 * d⟩ := by
  cases d <;> rfl

theorem length_openLevels (d : Nat) : (openLevels d).length = d := by
  induction d with
  | zero => rfl
  | succ d ih => rw [openLevels, List.length_cons, ih]

theorem closeLevels_openLevels {above d : Nat} (h : d ≤ above) :
    closeLevels ⟨4 * d, 4 * d⟩ (openLevels above) = some (above - d, openLevels d) := by
  induction above with
  | zero =>
    obtain rfl := Nat.le_zero.1 h
    rfl
  | succ above ih =>
    rw [openLevels, closeLevels]
    rcases Nat.lt_or_ge above d with hlt | hle
    · obtain rfl : d = above + 1 := by omega
      simp [openLevels]
    · rw [if_pos (by dsimp only; omega), ih hle, Nat.succ_sub hle]
      rfl

/-- A line opens at most one block, and closes those that are deeper. -/
theorem layout_openLevels {above d : Nat} (at_ : Position) (h : d ≤ above + 1)
    (hmost : d < mostLevels) : ∃ tokens,
      layout at_ ⟨4 * d, 4 * d⟩ (openLevels above) = some (tokens, openLevels d) ∧
      tokens.map (·.lexeme.mark) = layoutMarks above d := by
  rw [layout, headD_openLevels, length_openLevels, layoutMarks]
  rcases Nat.lt_or_ge above d with hlt | hle
  · obtain rfl : d = above + 1 := by omega
    dsimp only
    rw [if_pos (by omega), if_pos ⟨by omega, hmost⟩, if_pos hlt]
    exact ⟨_, rfl, rfl⟩
  · dsimp only
    rw [if_neg (by omega), closeLevels_openLevels hle, if_neg (Nat.not_lt.2 hle)]
    exact ⟨_, rfl, List.map_replicate⟩

/-! ## Lines and blocks -/

/-- How many characters marks take up at least. -/
def weight : List Mark → Nat
  | [] => 0
  | m :: ms => max 1 m.size + weight ms

theorem weight_cons (m : Mark) (ms : List Mark) : weight (m :: ms) = max 1 m.size + weight ms := rfl

theorem weight_append (ms ms' : List Mark) : weight (ms ++ ms') = weight ms + weight ms' := by
  induction ms with
  | nil => exact (Nat.zero_add _).symm
  | cons m ms ih => rw [List.cons_append, weight_cons, weight_cons, ih, Nat.add_assoc]

theorem length_weight (ms : List Mark) : ms.length ≤ weight ms := by
  induction ms with
  | nil => exact Nat.le_refl 0
  | cons m ms ih =>
    rw [weight_cons, List.length_cons]
    omega

theorem length_le_weight {m : Mark} {ms : List Mark} (h : m ∈ ms) :
    ms.length + m.size ≤ weight ms + 1 := by
  induction ms with
  | nil => cases h
  | cons x ms ih =>
    rw [weight_cons, List.length_cons]
    have hms := length_weight ms
    rcases List.mem_cons.1 h with rfl | h
    · omega
    · have hrest := ih h
      omega

/-- A line that begins with a mark, is legible, and has no more brackets open at once than there can
be. -/
structure Line (inks : List Ink) : Prop where
  begins : ∃ m rest, inks = .mark m :: rest
  legible : Legible [] inks
  fits : depth 0 inks ≤ mostBrackets

/-- Marks are written with at least one character each, and one for each token of what is captured. -/
theorem weight_le_spell {inks : List Ink} (h : ∀ i ∈ inks, Inked i) :
    weight (marks inks) ≤ (spell inks).length := by
  induction inks with
  | nil => exact Nat.le_refl 0
  | cons i inks ih =>
    rw [List.forall_mem_cons] at h
    have hrest := ih h.2
    have hpos := List.length_pos_iff.2 h.1.nonempty
    have hsize := h.1.size
    rw [spell_cons, List.length_append]
    cases i with
    | gap => exact Nat.le_trans hrest (Nat.le_add_left _ _)
    | mark m =>
      rw [marks_mark, weight_cons]
      change m.size ≤ _ at hsize
      omega

theorem Line.weight_le {inks : List Ink} (h : Line inks) :
    weight (marks inks) ≤ (spell inks).length := weight_le_spell h.legible.inked

theorem Line.spell_pos {inks : List Ink} (h : Line inks) : 0 < (spell inks).length := by
  obtain ⟨⟨m, rest, rfl⟩, hlegible, -⟩ := h
  have hne := (hlegible.inked _ List.mem_cons_self).nonempty
  rw [spell_cons, List.length_append]
  exact Nat.lt_of_lt_of_le (List.length_pos_iff.2 hne) (Nat.le_add_right _ _)

theorem Line.begins_inked {inks : List Ink} (h : Line inks) (after : List Char) :
    ∀ c ∈ (spell inks ++ after).head?, isInkChar c = true := by
  obtain ⟨⟨m, rest, rfl⟩, hlegible, -⟩ := h
  obtain ⟨hne, -, hfirst, -, -⟩ := hlegible.inked _ List.mem_cons_self
  obtain ⟨c, tail, htail⟩ := List.exists_cons_of_ne_nil hne
  rw [spell_cons, htail]
  rintro c' ⟨⟩
  exact hfirst (by simp) c (by rw [htail]; rfl)

/-- Characters that print lines at a depth, with the marks that they are read as. No block is too deep. -/
inductive Printed : Nat → List Char → List Mark → Prop
  | nil {d : Nat} : Printed d [] []
  | line {d : Nat} {inks : List Ink} {cs : List Char} {ms : List Mark} (h : Line inks)
    (hrest : Printed d cs ms) :
    Printed d (blanks d ++ (spell inks ++ '\n' :: cs)) (marks inks ++ .newline :: ms)
  | block {d : Nat} {inks : List Ink} {cs cs' : List Char} {ms ms' : List Mark} (h : Line inks)
    (hmost : d + 1 < mostLevels) (hne : cs' ≠ []) (hinner : Printed (d + 1) cs' ms')
    (hrest : Printed d cs ms) :
    Printed d (blanks d ++ (spell inks ++ '\n' :: (cs' ++ cs)))
      (marks inks ++ .newline :: .indent :: (ms' ++ .dedent :: ms))

namespace Printed

variable {d : Nat} {cs cs' : List Char} {ms ms' : List Mark}

theorem append (h : Printed d cs ms) (h' : Printed d cs' ms') :
    Printed d (cs ++ cs') (ms ++ ms') := by
  induction h with
  | nil => exact h'
  | line h _ ih =>
    have hline := Printed.line h (ih h')
    simpa only [List.append_assoc, List.cons_append] using hline
  | block h hmost hne hinner _ _ ih =>
    have hblock := Printed.block h hmost hne hinner (ih h')
    simpa only [List.append_assoc, List.cons_append] using hblock

/-- Enough characters for the marks; a line in a block has blanks to spare. -/
theorem weight_le (h : Printed d cs ms) :
    weight ms ≤ cs.length ∧ (cs ≠ [] → weight ms + 4 * d ≤ cs.length) := by
  have hlayout : ∀ {m : Mark}, m.size = 0 → ∀ ms, weight (m :: ms) = 1 + weight ms :=
    fun hm ms => by rw [weight_cons, hm]; rfl
  induction h with
  | nil => exact ⟨Nat.le_refl 0, fun hne => (hne rfl).elim⟩
  | line h _ ih =>
    have hle := h.weight_le
    simp only [weight_append, hlayout (m := .newline) rfl, List.length_append, List.length_cons, blanks,
      List.length_replicate]
    omega
  | block h _ hne _ _ ihinner ih =>
    have hle := h.weight_le
    have hinner := ihinner.2 hne
    simp only [weight_append, hlayout (m := .newline) rfl, hlayout (m := .indent) rfl,
      hlayout (m := .dedent) rfl, List.length_append, List.length_cons, blanks, List.length_replicate]
    omega

/-- No line ends within a line, and no character but line ends is a control character. -/
theorem printable (h : Printed d cs ms) : ∀ c ∈ cs, 0x20 ≤ c.toNat ∨ c = '\n' := by
  have hline : ∀ (d : Nat) {inks : List Ink} (back : List Char), Line inks →
      (∀ c ∈ back, 0x20 ≤ c.toNat ∨ c = '\n') →
      ∀ c ∈ blanks d ++ (spell inks ++ '\n' :: back), 0x20 ≤ c.toNat ∨ c = '\n' := by
    intro d inks back hinks hback
    refine List.forall_mem_append.2 ⟨fun c hc => ?_, List.forall_mem_append.2 ⟨fun c hc => ?_,
      List.forall_mem_cons.2 ⟨.inr rfl, hback⟩⟩⟩
    · rw [List.eq_of_mem_replicate hc]
      exact .inl (by decide)
    · obtain ⟨i, hi, hci⟩ := List.mem_flatMap.1 hc
      exact .inl ((hinks.legible.inked i hi).printable c hci)
  induction h with
  | nil => exact List.forall_mem_nil _
  | line h _ ih => exact hline _ _ h ih
  | block h _ _ _ _ ihinner ih => exact hline _ _ h (List.forall_mem_append.2 ⟨ihinner, ih⟩)

/-- What is printed ends with a line. -/
theorem getLast?_eq (h : Printed d cs ms) : ∀ c ∈ cs.getLast?, c = '\n' := by
  have hline : ∀ (front back : List Char), (∀ c ∈ back.getLast?, c = '\n') →
      ∀ c ∈ (front ++ '\n' :: back).getLast?, c = '\n' := by
    intro front back hback c hc
    rw [List.getLast?_append, List.getLast?_cons] at hc
    cases hlast : back.getLast? with
    | none => simpa [hlast, eq_comm] using hc
    | some e =>
      rw [hlast] at hc
      cases hc
      exact hback _ hlast
  induction h with
  | nil => exact fun _ hc => by cases hc
  | line _ _ ih =>
    rw [← List.append_assoc]
    exact hline _ _ ih
  | block _ _ _ _ _ ihinner ih =>
    rw [← List.append_assoc]
    refine hline _ _ fun c hc => ?_
    rw [List.getLast?_append, Option.mem_def, Option.or_eq_some_iff] at hc
    rcases hc with hc | ⟨-, hc⟩
    · exact ih c hc
    · exact ihinner c hc

end Printed

/-! ## Reading -/

variable [Setting]

/-- The scanner is at the start of a line in a block of a depth. -/
structure Scanner.AtLine (s : Scanner) (d limit : Nat) (cs : List Char) : Prop where
  chars : s.rest.chars.map (·.char) = cs
  sited : Sited s.rest
  lineStart : s.lineStart = true
  brackets : s.brackets = []
  levels : s.levels = openLevels d
  mostOpen : s.mostOpen = limit

variable {s : Scanner} {limit above d : Nat} {cs : List Char} {ms : List Mark}

/-- The next step gives the layout in front of a line, or of the end. -/
theorem Scanner.AtLine.step (h : s.AtLine above limit (blanks d ++ cs))
    (hcs : ∀ c ∈ cs.head?, isInkChar c = true) (hd : d ≤ above + 1) (hmost : d < mostLevels) :
    ∃ tokens s', s.step = .more tokens s' ∧ Shows tokens (layoutMarks above d) ∧
      Scanner.At s' [] (openLevels d) limit cs := by
  have hlength := congrArg List.length h.chars
  simp only [List.length_map, List.length_append, blanks, List.length_replicate] at hlength
  obtain ⟨rest, hrest, hdrop, hindent⟩ := indentation_blanks cs.length {} h.chars hcs
  obtain ⟨tokens, hlayout, hmarks⟩ :=
    layout_openLevels (Passage.here ⟨rest, s.rest.stop⟩) hd hmost
  have hfirst : ¬ (rest.head?.map (·.char) = some '#' ∨ rest.head?.map (·.char) = some '\n') := by
    rw [← List.head?_map, hrest]
    rintro (hc | hc) <;> exact absurd (hcs _ hc) (by decide)
  have hsited : Sited ⟨rest, s.rest.stop⟩ := by
    rw [hdrop]
    exact h.sited.drop (n := 4 * d) (by omega)
  refine ⟨tokens, { s with
    rest := ⟨rest, s.rest.stop⟩, levels := openLevels d, lineStart := false }, ?_,
    hmarks ▸ Shows.of_tokens tokens, ⟨hrest, hsited, rfl, h.brackets, rfl, h.mostOpen⟩⟩
  rw [Scanner.step, h.lineStart, if_pos rfl, Scanner.line, hlength,
    show 4 * d + cs.length + 1 = cs.length + 4 * d + 1 by omega, hindent]
  simp only [Nat.zero_add, hfirst, if_false, h.brackets, List.isEmpty_nil, Bool.not_true,
    Bool.false_eq_true, h.levels, hlayout]

/-- Behind the end of a line, the next line starts. -/
theorem Scanner.At.step_newline (h : s.At [] (openLevels d) limit ('\n' :: cs)) :
    ∃ t s', s.step = .more [t] s' ∧ t.lexeme.mark = .newline ∧ Scanner.AtLine s' d limit cs := by
  obtain ⟨p, ps, hps, hp, hmap⟩ := List.map_eq_cons_iff.1 h.chars
  refine ⟨⟨.newline, ⟨s.rest.here, (s.rest.drop 1).here⟩⟩,
    { s with rest := s.rest.drop 1, lineStart := true }, ?_, rfl,
    ⟨?_, h.sited_tail, rfl, h.brackets, h.levels, h.mostOpen⟩⟩
  · rw [h.step, Scanner.inLine]
    simp only [hps, hp, h.brackets]
    rfl
  · change (s.rest.chars.drop 1).map (·.char) = cs
    rw [hps]
    exact hmap

/-- At the end, all blocks are closed. -/
theorem Scanner.AtLine.tokens_end (h : s.AtLine d limit []) (fuel : Nat) :
    ∃ tokens, s.tokens (fuel + 2) = some tokens ∧ Shows tokens (List.replicate d .dedent) := by
  obtain ⟨tokens, s', hstep, hshows, hat⟩ :=
    h.step (d := 0) (fun _ hc => by cases hc) (Nat.zero_le _) (by decide)
  refine ⟨tokens, ?_, hshows⟩
  rw [show fuel + 2 = fuel + 1 + 1 from rfl, Scanner.Reaches.step hstep, hat.tokens_end]
  simp

namespace Printed

/-- From the start of a line, the line is read up to the start of the next. -/
theorem reads_line {inks : List Ink} (h : Line inks) (hdeep : ∀ m ∈ marks inks, m.size ≤ Setting.deep)
    (hd : d ≤ above + 1) (hmost : d < mostLevels) {after : List Char}
    (hs : s.AtLine above mostBrackets (blanks d ++ (spell inks ++ '\n' :: after))) :
    ∃ n tokens s', n ≤ (spell inks).length + 2 ∧ s.Reaches n tokens s' ∧
      Shows tokens (layoutMarks above d ++ (marks inks ++ [.newline])) ∧
      Scanner.AtLine s' d mostBrackets after := by
  obtain ⟨ts, s₁, hlayout, hts, hat⟩ := hs.step (h.begins_inked _) hd hmost
  obtain ⟨n, us, s₂, hn, hline, hus, hat⟩ :=
    h.legible.reads (fun _ hc => by cases hc; exact .inl rfl) h.fits hdeep hat
  obtain ⟨t, s₃, hstep, hmark, hat⟩ := hat.step_newline
  have hall := ((Scanner.Reaches.step hlayout).trans hline).trans (.step hstep)
  refine ⟨_, _, s₃, ?_, hall, ?_, hat⟩
  · omega
  · rw [List.append_assoc]
    exact hts.append (hmark ▸ hus.shows)

/-- What is printed is read as its marks, but for the blocks that are still open at the end. -/
theorem reads (h : Printed d cs ms) (hdeep : ∀ m ∈ ms, m.size ≤ Setting.deep)
    (hnil : cs = [] → d ≤ above) (hd : d ≤ above + 1) (hmost : d < mostLevels) {after : List Char}
    (hs : s.AtLine above mostBrackets (cs ++ after)) :
    ∃ n tokens s' last ms₀, d ≤ last ∧ n ≤ 2 * cs.length ∧ s.Reaches n tokens s' ∧ Shows tokens ms₀ ∧
      ms₀ ++ List.replicate (last - d) .dedent = layoutMarks above d ++ ms ∧
      Scanner.AtLine s' last mostBrackets after := by
  have hsame : ∀ d, layoutMarks d d = [] := fun d => by simp [layoutMarks]
  induction h generalizing s above after with
  | nil =>
    have hle := hnil rfl
    refine ⟨0, [], s, above, [], hle, Nat.le_refl 0, .refl s, .nil, ?_, hs⟩
    rw [layoutMarks, if_neg (Nat.not_lt.2 hle), List.append_nil]
    rfl
  | line h _ ih =>
    rename_i d inks cs ms _
    rw [List.forall_mem_append, List.forall_mem_cons] at hdeep
    simp only [List.append_assoc, List.cons_append] at hs
    obtain ⟨k, ts, s₁, hk, hline, hts, hat⟩ := reads_line h hdeep.1 hd hmost hs
    obtain ⟨n, us, s₂, last, ms₁, hlast, hn, hreaches, hus, hms, hat⟩ :=
      ih hdeep.2.2 (fun _ => Nat.le_refl d) (Nat.le_succ d) hmost hat
    refine ⟨_, _, s₂, last, _, hlast, ?_, hline.trans hreaches, hts.append hus, ?_, hat⟩
    · have hpos := h.spell_pos
      simp only [List.length_append, List.length_cons]
      omega
    · rw [List.append_assoc, hms, hsame]
      simp
  | block h hdeeper hne _ _ ihinner ih =>
    rename_i d inks cs cs' ms ms' _ _
    rw [List.forall_mem_append, List.forall_mem_cons, List.forall_mem_cons, List.forall_mem_append,
      List.forall_mem_cons] at hdeep
    simp only [List.append_assoc, List.cons_append] at hs
    obtain ⟨k, ts, s₁, hk, hline, hts, hat⟩ := reads_line h hdeep.1 hd hmost hs
    obtain ⟨n, us, s₂, mid, ms₁, hmid, hn, hreaches, hus, hms₁, hat⟩ :=
      ihinner hdeep.2.2.2.1 (fun hnil => (hne hnil).elim) (Nat.le_refl _) hdeeper hat
    obtain ⟨n', vs, s₃, last, ms₂, hlast, hn', hreaches', hvs, hms₂, hat⟩ :=
      ih hdeep.2.2.2.2.2 (fun _ => by omega) (by omega) hmost hat
    refine ⟨_, _, s₃, last, _, hlast, ?_, (hline.trans hreaches).trans hreaches',
      (hts.append hus).append hvs, ?_, hat⟩
    · have hpos := h.spell_pos
      simp only [List.length_append, List.length_cons]
      omega
    · -- The blocks that the inner lines leave open are closed by the line behind them.
      have hclose : layoutMarks mid d = List.replicate (mid - (d + 1)) .dedent ++ [.dedent] := by
        rw [layoutMarks, if_neg (by omega), ← List.replicate_succ']
        congr 1
        omega
      rw [List.append_assoc, hms₂, hclose, List.append_assoc, ← List.append_assoc ms₁,
        ← List.append_assoc ms₁, hms₁, show layoutMarks d (d + 1) = [.indent] from
          if_pos (Nat.lt_succ_self d)]
      simp

/-- Printed lines at the margin are read as their marks. -/
theorem tokenize (h : Printed 0 cs ms) (hdeep : ∀ m ∈ ms, m.size ≤ Setting.deep) {p : Passage}
    (hp : p.chars.map (·.char) = cs) (hsited : Sited p) :
    ∃ tokens, Grammar.tokenize p = some tokens ∧ Shows tokens ms := by
  have hat : Scanner.AtLine { rest := p } 0 mostBrackets (cs ++ []) :=
    ⟨by rw [hp, List.append_nil], hsited, rfl, rfl, rfl, rfl⟩
  obtain ⟨n, tokens, s', last, ms₀, -, hn, hreaches, hshows, hms, hat⟩ :=
    h.reads hdeep (fun _ => Nat.le_refl 0) (Nat.zero_le _) (by decide) hat
  obtain ⟨k, hk⟩ : ∃ k, 3 * p.chars.length + 3 = k + 2 + n := by
    have hlength := congrArg List.length hp
    rw [List.length_map] at hlength
    exact ⟨3 * p.chars.length + 1 - n, by omega⟩
  obtain ⟨closing, hend, hclosing⟩ := hat.tokens_end k
  refine ⟨tokens ++ closing, ?_, ?_⟩
  · rw [Grammar.tokenize, tokenizeWithin, hk, hreaches, hend]
    rfl
  · have hall := hshows.append hclosing
    rw [← Nat.sub_zero last, hms] at hall
    exact hall

end Printed

end Refactory.Grammar
