import Refactory.Proofs.Render.Readable

/-! # Regular modules are printed as their marks

The lines of regular statements with their blocks nested in them are printed as `Stmt.marks`
(`Stmt.prints`), so that the text of a regular module is read as its marks
(`Module.toText_printed`). -/

namespace Refactory

open Grammar Inks

/-! ## Marks -/

/-- The marks of a block with the line end in front of it. -/
def blockMarks (inner : List Mark) : List Mark := .newline :: .indent :: (inner ++ [.dedent])

/-- The marks of a block behind a word and a colon, left out if the block is empty. -/
def regionMarks (word : String) : List Mark → List Mark
  | [] => []
  | inner => .symbol word :: .symbol ":" :: blockMarks inner

/-- The marks of decorators, each on a line. -/
def decoratorMarks (ds : List Expr) : List Mark :=
  ds.flatMap fun d => marks (decoratorInks d) ++ [.newline]

mutual

/-- The marks of a statement, with layout. -/
def Stmt.marks : Stmt → List Mark
  | .function head body _ =>
    decoratorMarks head.decorators ++ (Inks.marks head.inks ++ blockMarks (Stmt.marksEach body))
  | .classDef head body _ =>
    decoratorMarks head.decorators ++ (Inks.marks head.inks ++ blockMarks (Stmt.marksEach body))
  | .tryExcept body handlers orelse finalbody _ =>
    .symbol "try" :: .symbol ":" :: (blockMarks (Stmt.marksEach body) ++
      (Handler.marksEach handlers ++ (regionMarks "else" (Stmt.marksEach orelse) ++
        regionMarks "finally" (Stmt.marksEach finalbody))))
  | s => Inks.marks s.inks ++ [.newline]

/-- The marks of the statements of a block. -/
def Stmt.marksEach : List Stmt → List Mark
  | [] => []
  | s :: ss => s.marks ++ Stmt.marksEach ss

/-- The marks of handlers. -/
def Handler.marksEach : List Handler → List Mark
  | [] => []
  | .mk type name body :: hs =>
    Inks.marks (Handler.mk type name body).inks ++ blockMarks (Stmt.marksEach body) ++
      Handler.marksEach hs

end

mutual

/-- How many levels of blocks are within a statement. -/
def Stmt.nesting : Stmt → Nat
  | .function _ body _ => Stmt.nestingIn body + 1
  | .classDef _ body _ => Stmt.nestingIn body + 1
  | .tryExcept body handlers orelse finalbody _ =>
    max (max (Stmt.nestingIn body) (Handler.nestingIn handlers))
      (max (Stmt.nestingIn orelse) (Stmt.nestingIn finalbody)) + 1
  | _ => 0

/-- How many levels of blocks are within the statements of a block. -/
def Stmt.nestingIn : List Stmt → Nat
  | [] => 0
  | s :: ss => max s.nesting (Stmt.nestingIn ss)

/-- How many levels of blocks are within the bodies of handlers. -/
def Handler.nestingIn : List Handler → Nat
  | [] => 0
  | .mk _ _ body :: hs => max (Stmt.nestingIn body) (Handler.nestingIn hs)

end

theorem Stmt.marks_ne_nil (s : Stmt) : s.marks ≠ [] := by
  cases s <;> simp [Stmt.marks, blockMarks]

theorem Stmt.marksEach_ne_nil {b : List Stmt} (h : b ≠ []) : Stmt.marksEach b ≠ [] := by
  cases b with
  | nil => exact (h rfl).elim
  | cons s ss => exact List.append_ne_nil_of_left_ne_nil s.marks_ne_nil _

/-- A statement that can be read back by itself, with no more brackets open at once in its lines than
there can be. -/
structure Stmt.Regular (mode : RenderMode) (s : Stmt) : Prop where
  form : s.isRegular mode = true
  fits : ∀ inks ∈ s.heads, depth 0 inks ≤ mostBrackets

instance (mode : RenderMode) : DecidablePred (Stmt.Regular mode) := fun s =>
  decidable_of_iff (s.isRegular mode = true ∧ ∀ inks ∈ s.heads, depth 0 inks ≤ mostBrackets)
    ⟨fun h => ⟨h.1, h.2⟩, fun h => ⟨h.form, h.fits⟩⟩

/-! ## Printing -/

/-- What is spelled, indented by a depth. -/
def lineText (d : Nat) (inks : List Ink) : Text := Text.times (4 * d) " " ++ text inks

theorem lineText_eq (d : Nat) (inks : List Ink) :
    lineText d inks = Text.ofChars (blanks d ++ spell inks) := by
  rw [lineText, times_blank, Text.ofChars, List.map_append, blanks, List.map_replicate]
  rfl

/-- The first character of a line that can be read back is no blank and no hash sign. -/
theorem Grammar.Line.isCode {inks : List Ink} (h : Line inks) (d : Nat) :
    isCode (lineText d inks) = true := by
  have hfirst := h.begins_inked []
  obtain ⟨c, rest, hspell⟩ := List.exists_cons_of_ne_nil (List.length_pos_iff.1 h.spell_pos)
  have hc : isInkChar c = true := hfirst c (by rw [hspell]; rfl)
  simp only [isInkChar, Bool.and_eq_true, Bool.not_eq_true', bne_iff_ne] at hc
  rw [lineText, text, hspell]
  exact isCode_line (by simp [CodePoint.isInk, hc.1.1, hc.2]) _ d

/-- Lines at a depth that print marks. What they print is code. -/
structure Prints (d : Nat) (lines : List Text) (ms : List Mark) : Prop where
  printed : ∃ cs, Printed d cs ms ∧ lines.flatMap (· ++ Text.ofString "\n") = Text.ofChars cs
  code : ms ≠ [] → lines.any isCode = true

namespace Prints

variable {d : Nat} {lines lines' : List Text} {ms ms' : List Mark} {inks : List Ink}

theorem nil : Prints d [] [] := ⟨⟨[], .nil, rfl⟩, fun hne => (hne rfl).elim⟩

theorem append (h : Prints d lines ms) (h' : Prints d lines' ms') :
    Prints d (lines ++ lines') (ms ++ ms') := by
  obtain ⟨cs, hcs, htext⟩ := h.printed
  obtain ⟨cs', hcs', htext'⟩ := h'.printed
  refine ⟨⟨cs ++ cs', hcs.append hcs', ?_⟩, fun hne => ?_⟩
  · rw [List.flatMap_append, htext, htext']
    exact List.map_append.symm
  · rw [List.any_append, Bool.or_eq_true]
    by_cases hms : ms = []
    · exact .inr (h'.code fun hms' => hne (by rw [hms, hms']; rfl))
    · exact .inl (h.code hms)

theorem line (h : Line inks) : Prints d [lineText d inks] (marks inks ++ [.newline]) := by
  refine ⟨⟨_, .line h .nil, ?_⟩, fun _ => by rw [List.any_cons, h.isCode]; rfl⟩
  rw [List.flatMap_singleton, lineText_eq, ← List.append_assoc]
  exact List.map_append.symm

theorem block (h : Line inks) (hmost : d + 1 < mostLevels) (hinner : Prints (d + 1) lines ms)
    (hms : ms ≠ []) : Prints d (lineText d inks :: lines) (marks inks ++ blockMarks ms) := by
  obtain ⟨cs, hcs, htext⟩ := hinner.printed
  have hne : cs ≠ [] := by
    rintro rfl
    cases hcs
    exact hms rfl
  refine ⟨⟨_, .block h hmost hne hcs .nil, ?_⟩, fun _ => by rw [List.any_cons, h.isCode]; rfl⟩
  rw [List.flatMap_cons, htext, lineText_eq, List.append_nil]
  simp [Text.ofChars]
  rfl

/-- A block of code is written without a `pass` at its end. -/
theorem blockLines {ss : List (List Text)} (h : Prints d ss.flatten ms) (hms : ms ≠ []) (level : Int) :
    Refactory.blockLines level ss = ss.flatten := if_pos (h.code hms)

theorem decorators {ds : List Expr} (h : ∀ x ∈ ds, Line (decoratorInks x)) :
    Prints d (ds.map fun x => lineText d (decoratorInks x)) (decoratorMarks ds) := by
  induction ds with
  | nil => exact nil
  | cons x ds ih =>
    rw [List.forall_mem_cons] at h
    exact (line h.1).append (ih h.2)

/-- A definition with its decorators. -/
theorem definition {ds : List Expr} {body : List (List Text)}
    (hds : ∀ x ∈ ds, Line (decoratorInks x)) (h : Line inks) (hmost : d + 1 < mostLevels)
    (hbody : Prints (d + 1) body.flatten ms) (hms : ms ≠ []) (level : Int) :
    Prints d ((ds.map (fun x => text (decoratorInks x)) ++ [text inks]).map (levelPad d ++ ·) ++
        Refactory.blockLines level body)
      (decoratorMarks ds ++ (marks inks ++ blockMarks ms)) := by
  have hall := (decorators hds).append (block h hmost hbody hms)
  rw [hbody.blockLines hms, List.map_append, List.map_map, List.append_assoc]
  exact hall

/-- A block behind a word, left out if it is empty. -/
theorem region {word : String} (hword : word ∈ ["else", "finally"]) {body : List (List Text)}
    (hmost : d + 1 < mostLevels) (hbody : Prints (d + 1) body.flatten ms) (hnil : body = [] ↔ ms = [])
    (level : Int) : Prints d
      (optionalRegion (levelPad d ++ (Text.ofString word ++ Text.ofString ":")) level body)
      (regionMarks word ms) := by
  have hline : Line [.symbol word, .symbol ":"] := by
    have hall : ∀ word ∈ ["else", "finally"], word ∈ keywords ∧
        depth 0 [.symbol word, .symbol ":"] ≤ mostBrackets := by decide +kernel
    exact ⟨⟨_, _, rfl⟩, Part.colon ((part_word (hall word hword).1).mono False.elim),
      (hall word hword).2⟩
  have htext : lineText d [.symbol word, .symbol ":"] =
      levelPad d ++ (Text.ofString word ++ Text.ofString ":") := by
    rw [lineText, text_symbol, text_symbol, text_nil, List.append_nil]
    rfl
  cases body with
  | nil =>
    rw [hnil.1 rfl]
    exact nil
  | cons ls body =>
    have hms : ms ≠ [] := fun h => List.cons_ne_nil ls body (hnil.2 h)
    rw [← htext, optionalRegion, hbody.blockLines hms]
    · have hblock := block hline hmost hbody hms
      obtain ⟨m, inner, rfl⟩ := List.exists_cons_of_ne_nil hms
      exact hblock
    · exact List.cons_ne_nil ls body

end Prints

section

variable {mode : RenderMode} {d : Nat}

theorem Stmt.Regular.line {s : Stmt} (h : s.Regular mode) (hmem : s.inks ∈ s.heads) : Line s.inks := by
  obtain ⟨m, rest, hinks, -⟩ := Stmt.begins h.form
  exact ⟨⟨m, rest, hinks⟩, Stmt.legible h.form, h.fits _ hmem⟩

theorem line_decorator {x : Expr} (h : x.isDecorator mode = true)
    (hfits : depth 0 (decoratorInks x) ≤ mostBrackets) : Line (decoratorInks x) :=
  ⟨⟨_, _, rfl⟩, legible_decorator (Expr.isDecorator_iff.1 h).1, hfits⟩

theorem Handler.line {h : Handler} (hregular : h.isRegular mode = true)
    (hfits : depth 0 h.inks ≤ mostBrackets) : Line h.inks := by
  refine ⟨?_, Handler.legible hregular, hfits⟩
  obtain ⟨type, name, body⟩ := h
  cases type <;> exact ⟨_, _, rfl⟩

theorem Handler.heads_eq {hs : List Handler} (h : ∀ x ∈ hs, x.isRegular mode = true) :
    inOrder (hs.map (handlerHead mode (levelPad d))) = .ok (hs.map fun x => lineText d x.inks) := by
  rw [← inOrder_ok, List.map_map]
  refine congrArg _ (List.map_congr_left fun x hx => ?_)
  rw [handlerHead_pad, Handler.head_eq (h x hx)]
  rfl

theorem Handler.body_ne_nil {x : Handler} (h : x.isRegular mode = true) : x.body ≠ [] := by
  rintro hnil
  obtain ⟨type, name, body⟩ := x
  obtain rfl : body = [] := hnil
  cases type <;> simp [Handler.isRegular] at h

theorem Stmt.eachLines_eq_nil {b : List Stmt} {level : Int} {ss : List (List Text)}
    (h : Stmt.eachLines mode level b = .ok ss) : ss = [] ↔ Stmt.marksEach b = [] := by
  cases b with
  | nil =>
    cases h
    exact ⟨fun _ => rfl, fun _ => rfl⟩
  | cons s rest =>
    obtain ⟨lines, -, h⟩ := bind_ok.1 h
    obtain ⟨more, -, h⟩ := bind_ok.1 h
    cases h
    exact iff_of_false (List.cons_ne_nil _ _) (Stmt.marksEach_ne_nil (List.cons_ne_nil s rest))

mutual

/-- A regular statement is printed as its marks. -/
theorem Stmt.prints : ∀ (s : Stmt) (d : Nat), (∀ t ∈ s.nodes, t.Regular mode) →
    d + s.nesting < mostLevels → ∃ lines, s.ownLines mode d = .ok lines ∧ Prints d lines s.marks
  | .function head body location, d, h, hd => by
    rw [Stmt.nodes, List.forall_mem_cons] at h
    obtain ⟨hself, hbody⟩ := h
    rw [Stmt.nesting] at hd
    have hform := hself.form
    rw [Stmt.isRegular, Bool.and_eq_true, Bool.not_eq_true', List.isEmpty_eq_false_iff] at hform
    obtain ⟨ss, hss, hprints⟩ := Stmt.prints_each body (d + 1) hbody (by omega)
    have hdecorators : ∀ x ∈ head.decorators, Line (decoratorInks x) := fun x hx =>
      line_decorator (FunctionHead.are_decorators hform.1 x hx)
        (hself.fits _ (List.mem_append_left _ (List.mem_map_of_mem hx)))
    refine ⟨_, ?_, Prints.definition hdecorators
      (hself.line (List.mem_append_right _ (List.mem_singleton_self _))) (by omega) hprints
      (Stmt.marksEach_ne_nil hform.2) (d + 1 : Nat)⟩
    rw [Stmt.ownLines, FunctionHead.render_pad, FunctionHead.render_eq hform.1, ← Int.natCast_succ, hss]
    rfl
  | .classDef head body location, d, h, hd => by
    rw [Stmt.nodes, List.forall_mem_cons] at h
    obtain ⟨hself, hbody⟩ := h
    rw [Stmt.nesting] at hd
    have hform := hself.form
    rw [Stmt.isRegular, Bool.and_eq_true, Bool.not_eq_true', List.isEmpty_eq_false_iff] at hform
    obtain ⟨ss, hss, hprints⟩ := Stmt.prints_each body (d + 1) hbody (by omega)
    have hdecorators : ∀ x ∈ head.decorators, Line (decoratorInks x) := fun x hx =>
      line_decorator (ClassHead.are_decorators hform.1 x hx)
        (hself.fits _ (List.mem_append_left _ (List.mem_map_of_mem hx)))
    refine ⟨_, ?_, Prints.definition hdecorators
      (hself.line (List.mem_append_right _ (List.mem_singleton_self _))) (by omega) hprints
      (Stmt.marksEach_ne_nil hform.2) (d + 1 : Nat)⟩
    rw [Stmt.ownLines, ClassHead.render_pad, ClassHead.render_eq hform.1, ← Int.natCast_succ, hss]
    rfl
  | .tryExcept body handlers orelse finalbody location, d, h, hd => by
    rw [Stmt.nodes, List.forall_mem_cons, List.forall_mem_append, List.forall_mem_append,
      List.forall_mem_append] at h
    obtain ⟨hself, ⟨⟨hbody, hhandlers⟩, horelse⟩, hfinal⟩ := h
    rw [Stmt.nesting] at hd
    have hform := hself.form
    simp only [Stmt.isRegular, Bool.and_eq_true, Bool.not_eq_true', List.isEmpty_eq_false_iff,
      List.all_eq_true] at hform
    obtain ⟨bs, hbs, hprints⟩ := Stmt.prints_each body (d + 1) hbody (by omega)
    obtain ⟨hs, hhs, hprintsHandlers⟩ := Handler.prints_each handlers d hhandlers
      (fun x hx => Handler.line (hform.1.2 x hx) (hself.fits _ (List.mem_map_of_mem hx)))
      hform.1.2 (by omega) (by omega)
    obtain ⟨es, hes, hprintsElse⟩ := Stmt.prints_each orelse (d + 1) horelse (by omega)
    obtain ⟨fs, hfs, hprintsFinal⟩ := Stmt.prints_each finalbody (d + 1) hfinal (by omega)
    have hbodyMarks := Stmt.marksEach_ne_nil hform.1.1
    have hline : Line [.symbol "try", .symbol ":"] :=
      ⟨⟨_, _, rfl⟩, Stmt.legible hself.form, by decide⟩
    have helse : "else" ∈ ["else", "finally"] := by decide
    have hfinally : "finally" ∈ ["else", "finally"] := by decide
    have hall := (Prints.block hline (by omega) hprints hbodyMarks).append
      (hprintsHandlers.append ((Prints.region helse (by omega) hprintsElse
        (Stmt.eachLines_eq_nil hes) (d + 1 : Nat)).append (Prints.region hfinally (by omega)
          hprintsFinal (Stmt.eachLines_eq_nil hfs) (d + 1 : Nat))))
    refine ⟨_, ?_, hall⟩
    rw [Stmt.ownLines, Handler.heads_eq hform.1.2, ← Int.natCast_succ, hbs, hhs, hes, hfs]
    simp only [bind, Except.bind, pure, Except.pure, hprints.blockLines hbodyMarks]
    simp
    exact ⟨rfl, rfl⟩
  | .importNames .., d, h, hd | .importFrom .., d, h, hd | .assign .., d, h, hd | .ret .., d, h, hd
  | .pass _, d, h, hd | .expr .., d, h, hd | .captured .., d, h, hd => by
    have hself := h _ List.mem_cons_self
    exact ⟨_, Stmt.ownLines_regular hself.form rfl d,
      Prints.line (hself.line (List.mem_singleton_self _))⟩
  | .foreign _, d, h, hd => by cases (h _ List.mem_cons_self).form

/-- The statements of a block are printed as their marks. -/
theorem Stmt.prints_each : ∀ (b : List Stmt) (d : Nat), (∀ t ∈ Stmt.nodesIn b, t.Regular mode) →
    d + Stmt.nestingIn b < mostLevels →
    ∃ ss, Stmt.eachLines mode d b = .ok ss ∧ Prints d ss.flatten (Stmt.marksEach b)
  | [], _, _, _ => ⟨[], rfl, .nil⟩
  | s :: rest, d, h, hd => by
    rw [Stmt.nodesIn, List.forall_mem_append] at h
    rw [Stmt.nestingIn] at hd
    obtain ⟨lines, hlines, hprints⟩ := Stmt.prints s d h.1 (by omega)
    obtain ⟨ss, hss, hrest⟩ := Stmt.prints_each rest d h.2 (by omega)
    refine ⟨lines :: ss, ?_, hprints.append hrest⟩
    rw [Stmt.eachLines, hlines, hss]
    rfl

theorem Handler.prints_each : ∀ (hs : List Handler) (d : Nat),
    (∀ t ∈ Handler.nodesIn hs, t.Regular mode) → (∀ x ∈ hs, Line x.inks) →
    (∀ x ∈ hs, x.isRegular mode = true) → d + 1 < mostLevels →
    d + 1 + Handler.nestingIn hs < mostLevels →
    ∃ sss, Stmt.handlerLines mode (d + 1 : Nat) hs = .ok sss ∧
      Prints d ((hs.map fun x => lineText d x.inks).zipWith
        (fun head lines => head :: blockLines (d + 1 : Nat) lines) sss).flatten (Handler.marksEach hs)
  | [], _, _, _, _, _, _ => ⟨[], rfl, .nil⟩
  | .mk type name body :: hs, d, h, hlines, hregular, hmost, hd => by
    rw [Handler.nodesIn, List.forall_mem_append] at h
    rw [Handler.nestingIn] at hd
    rw [List.forall_mem_cons] at hlines hregular
    obtain ⟨ss, hss, hprints⟩ := Stmt.prints_each body (d + 1) h.1 (by omega)
    obtain ⟨sss, hsss, hrest⟩ :=
      Handler.prints_each hs d h.2 hlines.2 hregular.2 hmost (by omega)
    have hbody := Stmt.marksEach_ne_nil (Handler.body_ne_nil hregular.1)
    refine ⟨ss :: sss, ?_, ?_⟩
    · rw [Stmt.handlerLines, hss, hsss]
      rfl
    · rw [List.map_cons, List.zipWith_cons_cons, List.flatten_cons, hprints.blockLines hbody]
      exact (Prints.block hlines.1 hmost hprints hbody).append hrest

end

end

/-! ## Modules -/

/-- Every statement of a module is regular, and its blocks are not nested too deep. -/
structure Module.Regular (mode : RenderMode) (m : Module) : Prop where
  statements : ∀ s ∈ Stmt.nodesIn m.body, s.Regular mode
  nesting : Stmt.nestingIn m.body < mostLevels

instance (mode : RenderMode) : DecidablePred (Module.Regular mode) := fun m =>
  decidable_of_iff
    ((∀ s ∈ Stmt.nodesIn m.body, s.Regular mode) ∧ Stmt.nestingIn m.body < mostLevels)
    ⟨fun h => ⟨h.1, h.2⟩, fun h => ⟨h.statements, h.nesting⟩⟩

/-- A regular module has a text: its marks are printed there. -/
theorem Module.toText_printed {m : Module} {mode : RenderMode} (h : m.Regular mode) :
    ∃ cs, m.toText mode = .ok (Text.ofChars cs) ∧ Printed 0 cs (Stmt.marksEach m.body) := by
  obtain ⟨ss, hss, hprints⟩ := Stmt.prints_each m.body 0 h.statements
    (by rw [Nat.zero_add]; exact h.nesting)
  obtain ⟨cs, hcs, htext⟩ := hprints.printed
  refine ⟨cs, ?_, hcs⟩
  have hlines : Stmt.eachLines mode 0 m.body = .ok ss := hss
  rw [Module.toText, hlines, ← htext]
  rfl

end Refactory
