import Refactory.Proofs.Grammar.Compound
import Refactory.Proofs.Tree.Paths

/-! # Blocks are read back

A line is read as the simple statement that is written there, also where it begins with the name that a
`match` statement begins with: this has a colon at the end of its line (`matchStatement_rejects`). With
the induction over what is nested in a statement (`Stmt.isRead`), the statements of a block are read
back (`Stmt.takes_block`). -/

namespace Refactory

open Grammar Inks

namespace Grammar

/-! ## The tokens of a line -/

theorem Legible.snippet {stack : List Char} {inks : List Ink} (h : Legible stack inks) {kind : Text}
    {text : List Char} (hmem : .mark (.captured kind text) ∈ inks) : Snippet text := by
  induction h with
  | nil => cases hmem
  | captured htext _ _ ih =>
    rcases List.mem_cons.1 hmem with heq | hmem
    · cases heq
      exact htext
    · exact ih hmem
  | gap _ ih | name _ _ _ ih | number _ _ _ ih | string _ _ _ ih | keyword _ _ _ ih
  | operator _ _ _ ih | ellipsis _ ih | dot _ _ _ ih | opening _ _ _ ih | closing _ _ _ ih =>
    rcases List.mem_cons.1 hmem with heq | hmem
    · cases heq
    · exact ih hmem

/-- No line ends in what is written on one. -/
theorem Legible.newline_not_mem {stack : List Char} {inks : List Ink} (h : Legible stack inks) :
    .newline ∉ (marks inks).flatMap Mark.tokens := by
  rintro hmem
  obtain ⟨m, hm, htokens⟩ := List.mem_flatMap.1 hmem
  obtain ⟨i, hi, hmark⟩ := List.mem_filterMap.1 hm
  cases i with
  | gap => cases hmark
  | mark m' =>
    obtain rfl : m' = m := Option.some.inj hmark
    by_cases hcaptured : ∃ kind text, m' = .captured kind text
    · obtain ⟨kind, text, rfl⟩ := hcaptured
      have hsnippet := h.snippet hi
      rw [Mark.tokens_captured kind hsnippet.nonempty] at htokens
      obtain ⟨t, ht, hnewline⟩ := List.mem_map.1 htokens
      have hlayout := hsnippet.unbroken t ht
      rw [Lexeme.mark_newline.1 hnewline] at hlayout
      cases hlayout
    · rw [Mark.tokens_single fun kind text heq => hcaptured ⟨kind, text, heq⟩,
        List.mem_singleton] at htokens
      exact (h.inked _ hi).nonempty (htokens ▸ rfl)

/-- The last token of what rests is no colon. -/
theorem Legible.getLast?_ne {stack : List Char} {inks : List Ink} (h : Legible stack inks)
    (hrests : Rests inks) :
    ((marks inks).flatMap Mark.tokens).getLast? ≠ some (.symbol ":") := by
  obtain ⟨init, m, rfl, hm⟩ := hrests
  rw [marks_append, marks_mark, marks_nil, List.flatMap_append, List.flatMap_singleton]
  by_cases hcaptured : ∃ kind text, m = .captured kind text
  · obtain ⟨kind, text, rfl⟩ := hcaptured
    have hsnippet := h.snippet (List.mem_append_right init (List.mem_singleton_self _))
    have hne := hsnippet.nonempty
    rw [Mark.tokens_captured kind hne, List.getLast?_append_of_ne_nil _ (by simpa using hne),
      List.getLast?_map]
    rintro hlast
    obtain ⟨t, ht, hcolon⟩ := Option.map_eq_some_iff.1 hlast
    exact (hsnippet.ends t ht).2 hcolon
  · rw [Mark.tokens_single fun kind text heq => hcaptured ⟨kind, text, heq⟩, List.getLast?_concat]
    exact fun heq => hm (Option.some.inj heq)

variable [Setting] {mode : RenderMode} {ms after : List Mark} {depth : Nat}
  {statements : Reader (List Statement)}

/-! ## Lines -/

section

variable {α β : Type} {p : Reader α} {f : α → Reader β} {line : List Mark}

/-- In front of the tokens the reader fails. -/
def Stuck (p : Reader α) (ls : List Mark) : Prop :=
  ∀ c : Cursor, c.rest.map (·.lexeme.mark) = ls → p c = none

theorem Rejects.stuck {ls : List Mark} (h : (∀ m ∈ ls, m.first = m) → Rejects p ls) : Stuck p ls := by
  rintro c rfl
  refine h (fun m hm => ?_) c (.of_tokens c.rest)
  obtain ⟨t, -, rfl⟩ := List.mem_map.1 hm
  exact t.lexeme.first_mark

theorem Stuck.rejects (h : Stuck p (ms.flatMap Mark.tokens)) : Rejects p ms := fun c hc =>
  h c hc.tokens_eq

omit [Setting] in
/-- A reader that takes no layout comes no further than the end of the line. -/
theorem stuck_inLine [InLine p]
    (h : ∀ rest, rest <:+ line → ∀ a, Stuck (f a) (rest ++ .newline :: after)) :
    Stuck (p >>= f) (line ++ .newline :: after) := fun c hc => by
  cases hread : (p >>= f) c with
  | none => rfl
  | some x =>
    obtain ⟨a, c', hp, hf⟩ := bind_eq_some.1 hread
    obtain ⟨front, hfront, hlayout⟩ := Passes.front (fun l => l.isLayout = false) hp
    rw [hfront, List.map_append] at hc
    have hrest : ∃ rest, rest <:+ line ∧
        c'.rest.map (·.lexeme.mark) = rest ++ .newline :: after := by
      obtain ⟨rest, hline, hrest⟩ | ⟨rest, hfront, hrest⟩ := List.append_eq_append_iff.1 hc
      · exact ⟨rest, ⟨_, hline.symm⟩, hrest⟩
      · cases rest with
        | nil => exact ⟨[], List.nil_suffix, hrest.symm⟩
        | cons m rest =>
          -- The end of the line would have been taken.
          obtain ⟨rfl, -⟩ := List.cons.inj hrest
          obtain ⟨t, ht, hmark⟩ :=
            List.mem_map.1 (hfront ▸ List.mem_append_right line List.mem_cons_self)
          have hlexeme := hlayout t ht
          rw [Lexeme.mark_newline.1 hmark] at hlexeme
          cases hlexeme
    obtain ⟨rest, hsuffix, hrest⟩ := hrest
    exact hf.symm.trans (h rest hsuffix a c' hrest)

/-- A `match` statement has a colon at the end of its line. -/
theorem matchStatement_rejects (hline : .newline ∉ ms.flatMap Mark.tokens)
    (hlast : (ms.flatMap Mark.tokens).getLast? ≠ some (.symbol ":")) (k : Nat) :
    Rejects (matchStatement (deepReaders depth) statements k) (ms ++ .newline :: after) := by
  have hmarks : (ms ++ .newline :: after).flatMap Mark.tokens =
      ms.flatMap Mark.tokens ++ .newline :: after.flatMap Mark.tokens := List.flatMap_append
  refine Stuck.rejects (hmarks ▸ ?_)
  refine stuck_inLine fun l₁ h₁ start => stuck_inLine fun l₂ h₂ _ => stuck_inLine fun l₃ h₃ _ =>
    Rejects.stuck fun htokens => ?_
  obtain ⟨front, hfront⟩ := (h₃.trans h₂).trans h₁
  cases l₃ with
  | nil => exact (expect_miss (by simp)).bind
  | cons m rest =>
    rw [← hfront] at hline hlast
    by_cases hm : m = .symbol ":"
    · subst hm
      have hrest : next? (rest ++ .newline :: after.flatMap Mark.tokens) ≠ some .newline := by
        cases rest with
        | nil => exact fun _ => hlast (by rw [List.getLast?_concat])
        | cons m rest =>
          rintro hhead
          obtain rfl : m = .newline := (htokens m (by simp)).symm.trans (Option.some.inj hhead)
          exact hline (by simp)
      exact Takes.rejects (R := fun _ ms' => ms' = rest ++ .newline :: after.flatMap Mark.tokens)
        (ifAccept_hit (.pure rfl)) fun _ ms' hms => hms ▸ (newline_miss hrest).bind
    · have hhead : next? (m :: rest ++ .newline :: after.flatMap Mark.tokens) ≠ some (.symbol ":") :=
        fun heq => hm ((htokens m List.mem_cons_self).symm.trans (Option.some.inj heq))
      exact (expect_miss hhead).bind

end

/-! ## Statements -/

/-- What begins with no word of a compound statement is read as the simple statement on its line. A name with
which a `match` statement could begin is none where the line ends in no colon. -/
theorem statement_takes {post : List Statement → List Mark → Prop} {m : Mark} {ms : List Mark}
    (hread : Takes (simpleStatements (deepReaders depth)) (m :: ms ++ .newline :: after) post)
    (hword : ∀ word ∈ compoundWords, m.first ≠ .symbol word)
    (hmatch : (∀ text, m.first ≠ .symbol text) → .newline ∉ (m :: ms).flatMap Mark.tokens ∧
      ((m :: ms).flatMap Mark.tokens).getLast? ≠ some (.symbol ":")) (k : Nat) :
    Takes (statement (deepReaders depth) statements k) (m :: ms ++ .newline :: after) post := by
  refine takes_here fun start => peek_takes.next fun l hl => ?_
  obtain ⟨l, rfl, hfirst⟩ := Option.map_eq_some_iff.1 hl
  cases l with
  | symbol text =>
    have hword : ∀ word ∈ compoundWords, ¬ (text == word) = true := fun word hmem heq =>
      hword word hmem (hfirst.symm.trans (congrArg Mark.symbol (beq_iff_eq.1 heq)))
    simp only [compoundWords, List.forall_mem_cons] at hword
    obtain ⟨h1, h2, h3, h4, h5, h6, h7, h8, h9, -⟩ := hword
    simp only [if_neg h1, if_neg h2, if_neg h3, if_neg h4, if_neg h5, if_neg h6, if_neg h7, if_neg h8,
      if_neg h9]
    exact hread
  | name id =>
    dsimp only
    split_ifs
    · obtain ⟨hline, hlast⟩ := hmatch fun text heq => by cases hfirst.trans heq
      exact .or_right (matchStatement_rejects hline hlast k).bind hread
    · exact hread
  | _ => exact hread

/-! ## Captured statements -/

/-- What is captured where the text stands in the source is captured with that text. -/
theorem Sentence.is {kind : Text} {text : List Char} (h : Sentence kind text) {start : Position}
    {t : Statement} (ht : Occupies kind start text.length t.extent?)
    (hsource : text <+: Setting.chars.drop start.offset) (hline : start.OnLine)
    (location : Option Location) : t.Is (.captured kind (some (Text.ofChars text)) location) := by
  obtain ⟨span, hextent, ⟨hstart, hfirst⟩, hstop⟩ := ht
  refine ⟨.captured kind (some (Text.ofChars text)) (some span.location), ?_, rfl⟩
  have hsegment : span.slice origin.text = Text.ofChars text := Span.slice_eq hstart hstop hsource
  have hlines : (Text.ofChars text).lines = [Text.ofChars text] := Text.splitOn_of_not_mem h.oneLine
  have htrim : (Text.ofChars text).dropEndWhile (· = CodePoint.scalar '\r') = Text.ofChars text := by
    refine (congrArg List.reverse (List.dropWhile_eq_self_iff.2 fun hpos hreturn => ?_)).trans
      (List.reverse_reverse _)
    have hmem := List.mem_reverse.1 (List.getElem_mem hpos)
    obtain ⟨c, hc, heq⟩ := List.mem_map.1 hmem
    rw [← heq, decide_eq_true_iff] at hreturn
    cases hreturn
    exact absurd (h.printable _ hc) (by decide)
  have hrow : span.start.line - 1 < origin.lines.length := by
    have hcount := (List.take_sublist start.offset Setting.chars).count_le '\n'
    rw [hfirst, hline]
    exact (length_lines Setting.chars).symm ▸ Nat.lt_succ_of_le hcount
  obtain ⟨row, hrow⟩ : ∃ row, origin.lines[span.start.line - 1]? = some row :=
    ⟨_, List.getElem?_eq_getElem hrow⟩
  rw [Statement.toStmt_extent hextent, captureStmt, hrow, hsegment, hlines, List.map_singleton, htrim]
  simp [Source.dedentLines, Source.dedentTail, Text.join, List.intercalate]

/-- The tokens of a captured statement are taken as it again. -/
theorem Sentence.takes_simple {kind : Text} {text : List Char} (h : Sentence kind text)
    (location : Option Location) :
    Takes (simpleStatement (deepReaders depth)) (.captured kind text :: .newline :: after) fun t ms' =>
      t.Is (.captured kind (some (Text.ofChars text)) location) ∧ ms' = .newline :: after := by
  rintro ⟨tokens, last⟩ hc
  obtain ⟨start, T, y, us, rfl, hT, hdeep, hsource, hline, hrest⟩ := hc.captured_inv
  have hy : y.lexeme.mark = .newline := Option.some.inj hrest.next_eq
  obtain ⟨t, stop, ht, hextent⟩ := h.takes hT
    (Nat.le_trans (hT.length_eq ▸ hdeep) (Nat.le_add_right Setting.deep depth)) hy
  exact ⟨t, _, _, ht, hrest, h.is hextent hsource hline location, rfl⟩

end Grammar

/-- The line of a statement without blocks, if it begins with an expression, rests. -/
theorem Stmt.rests {s : Stmt} (h : s.isRegular mode = true) (hsimple : s.isSimple = true) {m : Mark}
    {rest : List Ink} (hinks : s.inks = .mark m :: rest) (hm : ∀ text, m ≠ .symbol text) :
    Rests s.inks := by
  cases s with
  | assign targets value location =>
    simp only [Stmt.isRegular, Bool.and_eq_true] at h
    exact ((((value.rests true h.2).enclose _ _).cons _).cons _).cons _ |>.append _
  | expr value location => exact (value.rests true h).enclose _ _
  | ret value location =>
    cases value <;> cases hinks <;> exact (hm _ rfl).elim
  | importNames names location | importFrom module names level location | pass location =>
    cases hinks
    exact (hm _ rfl).elim
  | _ => cases hsimple

section

variable [Setting] {after : List Mark} {depth : Nat} {statements : Reader (List Statement)}

/-- A line is read as the simple statement on it. -/
theorem Stmt.takes_simpleLine {s : Stmt} (h : s.isRegular mode = true) (hsimple : s.isSimple = true)
    (hdepth : (Inks.marks s.inks).length < depth) (k : Nat) :
    Takes (statement (deepReaders depth) statements k) (Inks.marks s.inks ++ .newline :: after)
      fun ts ms' => (∃ t, ts = [t] ∧ t.Is s) ∧ ms' = after := by
  have hbreaks : Breaks (.newline :: after) := breaks_cons (by decide) _
  have hread := Statement.takes_line (Stmt.takes_simple h hsimple hdepth hbreaks)
  obtain ⟨m, rest, hinks, hm⟩ := Stmt.begins_line h hsimple
  have hlegible := Stmt.legible h
  rw [hinks, marks_mark] at hread ⊢
  refine statement_takes hread (fun word hword heq => ?_) (fun hsymbol => ?_) k
  · have hall : ∀ word ∈ compoundWords,
        (Mark.symbol word).starts = 0 ∧ Mark.symbol word ∉ lineWords := by decide
    obtain ⟨hstarts, hline⟩ := hall word hword
    rcases hm with hm | hm
    · have hle := m.opens_le_first
      rw [heq, hstarts] at hle
      exact Nat.not_lt.2 hle hm
    · have hself : ∀ m ∈ lineWords, m.first = m := by decide
      obtain rfl : m = .symbol word := (hself m hm).symm.trans heq
      exact hline hm
  · have hrests := Stmt.rests h hsimple hinks fun text heq => hsymbol text (by rw [heq]; rfl)
    rw [hinks] at hlegible hrests
    exact ⟨hlegible.newline_not_mem, hlegible.getLast?_ne hrests⟩

/-- The line of a captured statement is read as it. -/
theorem Stmt.takes_captured {kind : Text} {text : List Char} (h : Sentence kind text)
    (location : Option Location) (k : Nat) :
    Takes (statement (deepReaders depth) statements k) (.captured kind text :: .newline :: after)
      fun ts ms' => (∃ t, ts = [t] ∧ t.Is (.captured kind (some (Text.ofChars text)) location)) ∧
        ms' = after := by
  have hlegible : Legible [] [Ink.mark (.captured kind text)] :=
    .captured h.toSnippet (fun _ hc => by cases hc) .nil
  have hrests : Rests [Ink.mark (.captured kind text)] := ⟨[], _, rfl, fun heq => by cases heq⟩
  have hsimple : Takes (simpleStatement (deepReaders depth)) ([.captured kind text] ++ .newline :: after)
      _ := h.takes_simple location
  have hread := Statement.takes_line hsimple
  exact statement_takes hread h.first_not_mem.2
    (fun _ => ⟨hlegible.newline_not_mem, hlegible.getLast?_ne hrests⟩) k

end

/-! ## Nesting -/

section

variable {mode : RenderMode}

theorem Stmt.marksEach_eq (b : List Stmt) : Stmt.marksEach b = b.flatMap Stmt.marks := by
  induction b with
  | nil => rfl
  | cons s b ih => rw [Stmt.marksEach, ih, List.flatMap_cons]

/-- No statement begins with a word that goes on with a `try` statement. -/
theorem Stmt.marks_head_ne {s : Stmt} (h : s.isRegular mode = true) {m : Mark} (hm : m ∈ tryWords)
    (ms : List Mark) : next? (s.marks ++ ms) ≠ some m := by
  obtain ⟨m', rest, hinks, hm'⟩ := Stmt.begins h
  have hne : m'.first ≠ m := fun heq => hm' (heq ▸ hm)
  have hdecorated : ∀ ds ms', next? (decoratorMarks ds ++ (Inks.marks s.inks ++ ms')) ≠ some m := by
    intro ds ms'
    cases ds with
    | nil => exact hinks ▸ fun heq => hne (Option.some.inj heq)
    | cons d ds =>
      rintro heq
      obtain rfl : .symbol "@" = m := Option.some.inj heq
      exact absurd hm (by decide)
  have hline : next? (Inks.marks s.inks ++ [Mark.newline] ++ ms) ≠ some m := by
    rw [List.append_assoc]
    exact hdecorated [] _
  cases s with
  | function head body location | classDef head body location =>
    rw [Stmt.marks, List.append_assoc, List.append_assoc]
    exact hdecorated _ _
  | tryExcept body handlers orelse finalbody location =>
    rintro heq
    obtain rfl : .symbol "try" = m := Option.some.inj heq
    exact absurd hm (by decide)
  | _ => exact hline

/-- A block is part of its statement. -/
theorem Stmt.length_block_lt {s : Stmt} {b : List Stmt} (h : b ∈ s.blocks) :
    (Stmt.marksEach b).length < s.marks.length := by
  have hblock : ∀ ms : List Mark, (blockMarks ms).length = ms.length + 3 := fun ms => by
    simp [blockMarks]
  have hregion : ∀ (word : String) (ms : List Mark), ms.length ≤ (regionMarks word ms).length := by
    intro word ms
    cases ms with
    | nil => exact Nat.zero_le _
    | cons m ms => simp only [regionMarks, List.length_cons, hblock]; omega
  cases s with
  | function head body location | classDef head body location =>
    obtain rfl := List.mem_singleton.1 h
    simp only [Stmt.marks, List.length_append, hblock]
    omega
  | tryExcept body handlers orelse finalbody location =>
    have helse := hregion "else" (Stmt.marksEach orelse)
    have hfinally := hregion "finally" (Stmt.marksEach finalbody)
    simp only [Stmt.marks, List.length_cons, List.length_append, hblock]
    simp only [Stmt.blocks, List.mem_append, List.mem_cons, List.not_mem_nil, or_false,
      List.mem_map] at h
    obtain (rfl | ⟨x, hx, rfl⟩) | rfl | rfl := h
    · omega
    · rw [Handler.marksEach_eq]
      have hle := length_mem_le_flatMap
        (f := fun h => Inks.marks h.inks ++ blockMarks (Stmt.marksEach h.body)) hx
      rw [List.length_append, hblock] at hle
      omega
    · omega
    · omega
  | _ => cases h

end

section

variable [Setting] {mode : RenderMode}

/-- A statement is read wherever it stands, if there is depth enough for its blocks. -/
def Stmt.IsRead (limit : Nat) (s : Stmt) : Prop :=
  ∀ (depth : Nat) (after : List Mark), s.marks.length ≤ depth + 1 →
    (∀ m ∈ tryWords, next? after ≠ some m) →
      Takes (statement (deepReaders limit) (statementReader (deepReaders limit) depth) (depth + 1))
        (s.marks ++ after) fun ts ms' => (∃ t, ts = [t] ∧ t.Is s) ∧ ms' = after

theorem Statement.are_flatten {b : List Stmt} {groups : List (List Statement)}
    (h : List.Forall₂ (fun s ts => ∃ t, ts = [t] ∧ Statement.Is t s) b groups) :
    Statement.Are groups.flatten b := by
  induction h with
  | nil => exact .nil
  | cons hs _ ih =>
    obtain ⟨t, rfl, ht⟩ := hs
    exact .cons ht ih

/-- The statements of a block are read up to where it ends. -/
theorem Stmt.takes_block {limit depth : Nat} {after : List Mark} {b : List Stmt} (hne : b ≠ [])
    (hread : ∀ s ∈ b, s.IsRead limit) (hregular : ∀ s ∈ b, s.isRegular mode = true)
    (hdepth : (Stmt.marksEach b).length ≤ depth) (hafter : Breaks after) :
    Takes (statementReader (deepReaders limit) depth) (Stmt.marksEach b ++ after) fun ts ms' =>
      Statement.Are ts b ∧ ms' = after := by
  obtain ⟨s, b, rfl⟩ := List.exists_cons_of_ne_nil hne
  rw [Stmt.marksEach_eq] at hdepth ⊢
  cases depth with
  | zero =>
    have hpos := List.length_pos_iff.2 s.marks_ne_nil
    rw [List.flatMap_cons, List.length_append] at hdepth
    omega
  | succ depth =>
    refine (Takes.oneOrMore (rejects_layout hafter) Stmt.marks_ne_nil fun x ys hys => ?_).next
      fun groups hgroups => .pure ⟨Statement.are_flatten hgroups, rfl⟩
    have hx : x ∈ s :: b := hys.subset List.mem_cons_self
    refine hread x hx depth _ (Nat.le_trans (length_mem_le_flatMap hx) hdepth) fun m hm => ?_
    cases ys with
    | nil =>
      obtain ⟨text, -, rfl⟩ := List.mem_map.1 hm
      exact hafter.head_ne text
    | cons y ys =>
      have hy : y ∈ s :: b := hys.subset (List.mem_cons_of_mem x List.mem_cons_self)
      rw [List.flatMap_cons, List.append_assoc]
      exact Stmt.marks_head_ne (hregular y hy) hm _

/-- The blocks of a statement are read if its children are. -/
theorem Stmt.takes_blocks {s : Stmt} {limit : Nat}
    (h : ∀ c ∈ s.children, c.marks.length < limit → c.IsRead limit)
    (hregular : ∀ t ∈ Stmt.nodesIn s.children, t.isRegular mode = true) (hlimit : s.marks.length < limit)
    {depth : Nat} (hdepth : s.marks.length ≤ depth + 1) :
    ∀ b ∈ s.blocks, b ≠ [] → TakesBlock (statementReader (deepReaders limit) depth) b := by
  intro b hb hne after
  have hlt := Stmt.length_block_lt hb
  have hmem : ∀ t ∈ b, t ∈ s.children := fun t ht => List.mem_flatten.2 ⟨b, hb, ht⟩
  have hread : ∀ t ∈ b, t.IsRead limit := fun t ht => by
    refine h t (hmem t ht) ?_
    have hle : t.marks.length ≤ (Stmt.marksEach b).length := by
      rw [Stmt.marksEach_eq]
      exact length_mem_le_flatMap ht
    omega
  exact Stmt.takes_block hne hread
    (fun t ht => hregular t (Stmt.mem_nodesIn (hmem t ht) t.mem_nodes_self)) (by omega)
    (breaks_cons (by decide) _)

/-- A regular statement is read. -/
theorem Stmt.isRead {limit : Nat} : ∀ s : Stmt, (∀ t ∈ s.nodes, t.isRegular mode = true) →
    s.marks.length < limit → s.IsRead limit := by
  refine Stmt.induct_children fun s ih h hlimit depth after hdepth hafter => ?_
  rw [Stmt.nodes_children, List.forall_mem_cons] at h
  obtain ⟨hself, hchildren⟩ := h
  have hblocks := Stmt.takes_blocks (fun c hc => ih c hc fun t ht =>
    hchildren t (Stmt.mem_nodesIn hc ht)) hchildren hlimit hdepth
  have hline : s.isSimple = true → s.marks = Inks.marks s.inks ++ [.newline] → Takes
      (statement (deepReaders limit) (statementReader (deepReaders limit) depth) (depth + 1))
      (s.marks ++ after) fun ts ms' => (∃ t, ts = [t] ∧ t.Is s) ∧ ms' = after := by
    intro hsimple hmarks
    rw [hmarks, List.length_append] at hlimit
    rw [hmarks, List.append_assoc]
    exact Stmt.takes_simpleLine hself hsimple (Nat.lt_of_succ_lt hlimit) _
  cases s with
  | function head body location =>
    rw [Stmt.isRegular, Bool.and_eq_true, Bool.not_eq_true', List.isEmpty_eq_false_iff] at hself
    rw [Stmt.marks, ← List.append_assoc, List.length_append] at hlimit
    rw [Stmt.marks, List.append_assoc, List.append_assoc]
    exact functionStatement_takes hself.1 (by omega)
      (hblocks body (List.mem_singleton_self body) hself.2) _
  | classDef head body location =>
    rw [Stmt.isRegular, Bool.and_eq_true, Bool.not_eq_true', List.isEmpty_eq_false_iff] at hself
    rw [Stmt.marks, ← List.append_assoc, List.length_append] at hlimit
    rw [Stmt.marks, List.append_assoc, List.append_assoc]
    exact classStatement_takes hself.1 (by omega)
      (hblocks body (List.mem_singleton_self body) hself.2) _
  | tryExcept body handlers orelse finalbody location =>
    have hle : (Handler.marksEach handlers).length ≤ limit := by
      simp only [Stmt.marks, List.length_cons, List.length_append] at hlimit
      omega
    exact takes_here fun start => peek_symbol
      (single_takes (tryStatement_takes hself hle hblocks hafter))
  | captured kind source location =>
    obtain ⟨-, word, rfl, hword⟩ := Stmt.captured_cases hself
    have hmarks : (Stmt.captured kind (some (Text.ofChars word)) location).marks =
        [.captured kind word, .newline] := by
      change [Mark.captured kind ((Text.ofChars word).filterMap CodePoint.char?), .newline] = _
      rw [filterMap_char_ofChars]
    rw [hmarks]
    exact Stmt.takes_captured hword location _
  | foreign kind => cases hself
  | _ => exact hline rfl rfl

end

end Refactory
