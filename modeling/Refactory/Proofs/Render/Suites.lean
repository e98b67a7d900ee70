import Mathlib.Data.List.TakeWhile
import Refactory.Proofs.Render.Modes
import Refactory.Proofs.Tree.Paths
import Refactory.Snippet

/-! # Code in nested blocks

A nested block whose lines are comments gets a `pass`, so that it has code. Blank lines are taken
for code there, and a block of comments with a blank line among them stays without any
(`Snippet.tryExcept_without_code`). This is the only exception: `Suite` are the blocks that
rendering shows, `Block.blockLines_code` says which of them have code, and `suites_code` says it of
all the blocks of a module and of a snippet. -/

namespace Refactory

/-! ## Lines -/

/-- Whether a line is neither blank nor a comment. -/
def Text.isCodeLine (line : Text) : Bool :=
  (line.dropWhile CodePoint.isBlank).head?.any (· ≠ CodePoint.scalar '#')

namespace Text

variable {pad line t : Text}

theorem isBlank_append (s t : Text) : (s ++ t).isBlank = (s.isBlank && t.isBlank) :=
  List.all_append

theorem dropWhile_isBlank : line.dropWhile CodePoint.isBlank = [] ↔ line.isBlank = true := by
  rw [List.dropWhile_eq_nil_iff, isBlank, List.all_eq_true]

theorem isCodeLine_of_isBlank (h : line.isBlank = true) : line.isCodeLine = false := by
  rw [isCodeLine, dropWhile_isBlank.2 h]
  rfl

theorem isCodeLine_pad (hpad : pad.isBlank = true) (line : Text) :
    (pad ++ line).isCodeLine = line.isCodeLine := by
  rw [isCodeLine, List.dropWhile_append_of_pos (List.all_eq_true.1 hpad), isCodeLine]

theorem isBlank_pad (hpad : pad.isBlank = true) (line : Text) :
    (pad ++ line).isBlank = line.isBlank := by
  rw [isBlank_append, hpad, Bool.true_and]

theorem isCodeLine_append (h : line.isCodeLine = true) (t : Text) :
    (line ++ t).isCodeLine = true := by
  unfold isCodeLine at h ⊢
  rw [List.dropWhile_append]
  cases hrest : line.dropWhile CodePoint.isBlank with
  | nil =>
    rw [hrest] at h
    cases h
  | cons c rest =>
    rw [hrest] at h
    exact h

theorem isCodeLine_join (sep : Text) (h : t.isCodeLine = true) (ts : List Text) :
    (Text.join sep (t :: ts)).isCodeLine = true := by
  rw [Inks.join_text_cons]
  exact isCodeLine_append h _

theorem Written.isCodeLine (h : t.Written) : t.isCodeLine = true := by
  cases t with
  | nil => cases h.opens
  | cons c rest =>
    have hink : c.isBlank = false ∧ c ≠ CodePoint.scalar '#' := by
      have hopens : c.isInk = true := h.opens
      simpa [CodePoint.isInk] using hopens
    rw [Text.isCodeLine, List.dropWhile_cons, hink.1]
    simpa using hink.2

/-- What is taken for code: a line of code, but also a blank one. -/
theorem isCode_eq (line : Text) : isCode line = (line.isCodeLine || line.isBlank) := by
  cases hblank : line.isBlank with
  | true =>
    rw [isCode, dropWhile_isBlank.2 hblank]
    simp
  | false =>
    rw [isCode, isCodeLine, Bool.or_false]
    cases hrest : line.dropWhile CodePoint.isBlank with
    | nil => cases hblank.symm.trans (dropWhile_isBlank.1 hrest)
    | cons c rest => simp

end Text

theorem levelPad_isBlank (level : Int) : (levelPad level).isBlank = true := by
  rw [levelPad, times_blank]
  refine List.all_eq_true.2 fun c hc => ?_
  rw [List.eq_of_mem_replicate hc]
  rfl

theorem isCodeLine_placeholder (level : Int) (kind : Text) :
    (levelPad level ++ placeholder kind).isCodeLine = false := by
  rw [Text.isCodeLine_pad (levelPad_isBlank level)]
  rfl

theorem isBlank_placeholder (level : Int) (kind : Text) :
    (levelPad level ++ placeholder kind).isBlank = false := by
  rw [Text.isBlank_pad (levelPad_isBlank level)]
  rfl

theorem any_isCode (lines : List Text) :
    lines.any isCode = (lines.any Text.isCodeLine || lines.any Text.isBlank) := by
  induction lines with
  | nil => rfl
  | cons line lines ih =>
    rw [List.any_cons, List.any_cons, List.any_cons, ih, Text.isCode_eq]
    ac_rfl

theorem isCodeLine_pass (level : Int) : (levelPad level ++ "pass").isCodeLine = true := by
  rw [Text.isCodeLine_pad (levelPad_isBlank level)]
  rfl

theorem blockLines_any (level : Int) (ss : List (List Text)) :
    (blockLines level ss).any Text.isCodeLine =
      (ss.flatten.any Text.isCodeLine || !ss.flatten.any Text.isBlank) := by
  rw [blockLines, any_isCode]
  cases hlines : ss.flatten.any Text.isCodeLine <;> cases hblank : ss.flatten.any Text.isBlank <;>
    simp [hlines, isCodeLine_pass]

/-- Indenting changes neither which lines are code nor which are blank. -/
theorem Source.indentFrom_any {pad : Text} (hpad : pad.isBlank = true) (keep : List Nat) (row : Nat)
    (lines : List Text) :
    (indentFrom pad keep row lines).any Text.isCodeLine = lines.any Text.isCodeLine ∧
      (indentFrom pad keep row lines).any Text.isBlank = lines.any Text.isBlank := by
  induction lines generalizing row with
  | nil => exact ⟨rfl, rfl⟩
  | cons line lines ih =>
    obtain ⟨hcode, hblank⟩ := ih (row + 1)
    rw [indentFrom, List.any_cons, List.any_cons, List.any_cons, List.any_cons, hcode, hblank]
    split_ifs with hkeep hline
    · exact ⟨rfl, rfl⟩
    · rw [hline, Text.isCodeLine_of_isBlank hline]
      exact ⟨rfl, rfl⟩
    · rw [Text.isCodeLine_pad hpad, Text.isBlank_pad hpad]
      exact ⟨rfl, rfl⟩

/-! ## Texts that begin as code does -/

/-- What is given, if anything, has a property. -/
def Gives {α : Type} (P : α → Prop) (r : Except Fault α) : Prop := ∀ a, r = .ok a → P a

namespace Gives

variable {α β : Type} {P : α → Prop} {Q : β → Prop} {r : Except Fault α}

theorem ok {a : α} (h : P a) : Gives P (.ok a) := by
  rintro _ ⟨⟩
  exact h

theorem bind {next : α → Except Fault β} (h : Gives P r) (hnext : ∀ a, P a → Gives Q (next a)) :
    Gives Q (r >>= next) := by
  intro b hb
  obtain ⟨a, ha, hb⟩ := bind_ok.1 hb
  exact hnext a (h a ha) b hb

theorem any (r : Except Fault α) : Gives (fun _ => True) r := fun _ _ => trivial

theorem map {f : α → β} (h : Gives P r) (hf : ∀ a, P a → Q (f a)) : Gives Q (r.map f) := by
  cases r with
  | error f => exact nofun
  | ok a => exact ok (hf a (h a rfl))

theorem inOrder {P : Text → Prop} {parts : List (Except Fault Text)} (h : ∀ r ∈ parts, Gives P r) :
    Gives (fun ts => ts.length = parts.length ∧ ∀ t ∈ ts, P t) (Refactory.inOrder parts) := by
  induction parts with
  | nil => exact ok ⟨rfl, List.forall_mem_nil _⟩
  | cons r rest ih =>
    rw [List.forall_mem_cons] at h
    rw [Refactory.inOrder, List.mapM_cons]
    refine h.1.bind fun t ht => (ih h.2).bind fun ts hts => ok ?_
    exact ⟨congrArg Nat.succ hts.1, List.forall_mem_cons.2 ⟨ht, hts.2⟩⟩

theorem place {r : Rendered} (h : Gives (·.1.isCodeLine = true) r) (least : Precedence) :
    Gives (·.isCodeLine = true) (Refactory.place least r) := by
  refine map h fun x hx => ?_
  unfold Precedence.wrap
  split_ifs
  · exact Text.isCodeLine_append (Text.isCodeLine_append rfl _) _
  · exact hx

end Gives

/-- Whether the text of an expression by itself begins as code does, if those inside it do: names
and captured sources do, and there is something to join. -/
def Expr.isWorded : Expr → Bool
  | .name id => id.isCodeLine
  | .logical _ values => !values.isEmpty
  | .captured _ source => (source.getD []).isEmpty || (source.getD []).isCodeLine
  | _ => true

theorem Number.render_code (value : Number) : Gives (·.isCodeLine = true) value.render := by
  intro t ht
  have hyields : Yields True Text.Written value.render := Number.render_yields fun _ => trivial
  rw [ht] at hyields
  exact hyields.isCodeLine

section

variable {mode : RenderMode}

/-- The text of an expression in which all is worded begins as code does. -/
theorem Expr.render_code (mode : RenderMode) : ∀ e : Expr, e.All (·.isWorded = true) →
    ∀ quote, quote ≠ .other → Gives (·.1.isCodeLine = true) (e.render mode quote) := by
  refine Expr.induct_children fun e ih hall quote hquote => ?_
  obtain ⟨hself, hchildren⟩ := Expr.all_iff.1 hall
  have ih : ∀ c ∈ e.children, Gives (·.1.isCodeLine = true) (c.render mode quote) := fun c hc =>
    ih c hc (hchildren c hc) quote hquote
  cases e with
  | name id => exact .ok hself
  | string value =>
    refine .ok (Text.isCodeLine_append (Text.isCodeLine_append ?_ _) _)
    cases quote with
    | double => rfl
    | single => rfl
    | other => exact (hquote rfl).elim
  | number value => exact value.render_code.bind fun t ht => .ok ht
  | truth value => exact .ok (by cases value <;> rfl)
  | noneLiteral => exact .ok rfl
  | call func args keywords =>
    refine (Gives.any _).bind fun args _ => (Gives.any _).bind fun keywords _ =>
      ((ih func List.mem_cons_self).place .atom).bind fun func hfunc => .ok ?_
    exact Text.isCodeLine_append (Text.isCodeLine_append (Text.isCodeLine_append hfunc _) _) _
  | binary left op right =>
    refine ((ih left List.mem_cons_self).place _).bind fun left hleft =>
      (Gives.any _).bind fun right _ => .ok ?_
    exact Text.isCodeLine_append (Text.isCodeLine_append (Text.isCodeLine_append
      (Text.isCodeLine_append hleft _) _) _) _
  | unary op operand =>
    cases op with
    | negation | invert | plus | minus => exact (Gives.any _).bind fun t _ => .ok rfl
  | logical op values =>
    have hvalues : ∀ r ∈ (Expr.renderEach mode quote values).map (place op.precedence.next),
        Gives (·.isCodeLine = true) r := by
      rw [Expr.renderEach_map, List.map_map, List.forall_mem_map]
      exact fun v hv => (ih v hv).place _
    refine (Gives.inOrder hvalues).bind fun ts hts => .ok ?_
    rw [List.length_map, Expr.renderEach_length] at hts
    cases ts with
    | nil =>
      cases List.length_eq_zero_iff.1 hts.1.symm
      cases hself
    | cons t ts => exact Text.isCodeLine_join _ (hts.2 t List.mem_cons_self) ts
  | compare left ops comparators =>
    exact ((ih left List.mem_cons_self).place .bitOr).bind fun left hleft =>
      (Gives.any _).bind fun parts _ => .ok (Text.isCodeLine_join _ hleft parts)
  | «attribute» value attr =>
    refine ((ih value List.mem_cons_self).place .atom).bind fun t ht => .ok ?_
    refine Text.isCodeLine_append (Text.isCodeLine_append ?_ _) _
    unfold dotted
    split_ifs
    · exact Text.isCodeLine_append (Text.isCodeLine_append rfl _) _
    · exact ht
  | subscript value index =>
    refine ((ih value List.mem_cons_self).place .atom).bind fun v hv =>
      (Gives.any _).bind fun i _ => .ok ?_
    exact Text.isCodeLine_append (Text.isCodeLine_append (Text.isCodeLine_append hv _) _) _
  | starred value => exact (Gives.any _).bind fun t _ => .ok rfl
  | tuple elements =>
    refine (Gives.any _).bind fun ts _ => .ok ?_
    rcases ts with _ | ⟨t, _ | ⟨u, ts⟩⟩ <;> rfl
  | list elements => exact (Gives.any _).bind fun ts _ => .ok rfl
  | dict keys values => exact (Gives.any _).bind fun ts _ => .ok rfl
  | formatted parts => exact (Gives.any _).bind fun ts _ => .ok rfl
  | captured kind source =>
    intro x hx
    rw [Expr.render.eq_def] at hx
    dsimp only at hx
    split at hx
    · cases hx
      simpa [Expr.isWorded] using hself
    · cases hx
  | foreign kind => exact nofun

/-! ## First lines -/

/-- A line that begins as code does behind its indentation. -/
def Indented (pad line : Text) : Prop := ∃ t, line = pad ++ t ∧ t.isCodeLine = true

theorem Indented.start (pad : Text) {t : Text} (h : t.isCodeLine = true) :
    Indented pad (pad ++ t) :=
  ⟨t, rfl, h⟩

theorem Indented.append {pad line : Text} (h : Indented pad line) (u : Text) :
    Indented pad (line ++ u) := by
  obtain ⟨t, rfl, ht⟩ := h
  exact ⟨t ++ u, List.append_assoc .., Text.isCodeLine_append ht u⟩

/-- Lines of which the first begins as code does behind its indentation. -/
def Headed (pad : Text) (lines : List Text) : Prop :=
  ∃ line rest, lines = line :: rest ∧ Indented pad line

theorem Headed.append {pad : Text} {lines : List Text} (h : Headed pad lines) (more : List Text) :
    Headed pad (lines ++ more) := by
  obtain ⟨line, rest, rfl, hline⟩ := h
  exact ⟨line, rest ++ more, rfl, hline⟩

theorem Headed.any {pad : Text} (hpad : pad.isBlank = true) {lines : List Text}
    (h : Headed pad lines) : lines.any Text.isCodeLine = true := by
  obtain ⟨_, rest, rfl, t, rfl, ht⟩ := h
  rw [List.any_cons, Text.isCodeLine_pad hpad, ht, Bool.true_or]

theorem Headed.of_line {pad line : Text} (h : Indented pad line) : Headed pad [line] :=
  ⟨line, [], rfl, h⟩

/-- A line behind decorators, of which there can be none. -/
theorem Headed.decorated {pad line : Text} {ds : List Text} (hds : ∀ d ∈ ds, Indented pad d)
    (h : Indented pad line) : Headed pad (ds ++ [line]) := by
  cases ds with
  | nil => exact .of_line h
  | cons d ds => exact ⟨d, ds ++ [line], rfl, hds d List.mem_cons_self⟩

theorem decoratorLines_indented (pad : Text) (ds : List Expr) :
    Gives (∀ line ∈ ·, Indented pad line) (decoratorLines mode pad ds) := by
  have hline : ∀ r ∈ ds.map (fun d => (place .named (d.render mode .double)).map
      fun t => pad ++ "@" ++ t), Gives (Indented pad) r := by
    rw [List.forall_mem_map]
    exact fun d _ => (Gives.any _).map fun t _ => (Indented.start pad rfl).append t
  exact fun lines hlines => (Gives.inOrder hline lines hlines).2

theorem FunctionHead.render_headed (pad : Text) (head : FunctionHead) :
    Gives (Headed pad) (head.render mode pad) := by
  have hkeyword : Text.isCodeLine (if head.isAsync then "async def " else "def ") = true := by
    split_ifs <;> rfl
  refine (decoratorLines_indented pad head.decorators).bind fun ds hds => (Gives.any _).bind
    fun params _ => ?_
  have hline := ((((Indented.start pad hkeyword).append head.name).append "(").append
    (Text.join ", " params)).append ")"
  cases hr : head.returns with
  | none => exact .ok (.decorated hds ((hline.append []).append ":"))
  | some r =>
    exact (Gives.any _).bind fun t _ =>
      .ok (.decorated hds ((hline.append (" -> " ++ t)).append ":"))

theorem ClassHead.render_headed (pad : Text) (head : ClassHead) :
    Gives (Headed pad) (head.render mode pad) := by
  refine (decoratorLines_indented pad head.decorators).bind fun ds hds => (Gives.any _).bind
    fun bases _ => (Gives.any _).bind fun keywords _ => .ok (.decorated hds ?_)
  exact (((Indented.start pad rfl).append head.name).append _).append ":"

/-- The lines of a statement that is not captured begin as code does. -/
theorem Stmt.ownLines_headed {s : Stmt} (hworded : ∀ e ∈ s.exprs, e.All (·.isWorded = true))
    (hs : ∀ kind source location, s ≠ .captured kind source location) (level : Int) :
    Gives (Headed (levelPad level)) (s.ownLines mode level) := by
  have hcode : ∀ e ∈ s.exprs, ∀ least,
      Gives (·.isCodeLine = true) (place least (e.render mode .double)) := fun e he least =>
    (e.render_code mode (hworded e he) .double (by decide)).place least
  cases s with
  | function head body location =>
    exact (head.render_headed (levelPad level)).bind fun header hheader =>
      (Gives.any _).bind fun lines _ => .ok (hheader.append _)
  | classDef head body location =>
    exact (head.render_headed (levelPad level)).bind fun header hheader =>
      (Gives.any _).bind fun lines _ => .ok (hheader.append _)
  | tryExcept body handlers orelse finalbody location =>
    refine (Gives.any _).bind fun heads _ => (Gives.any _).bind fun body _ =>
      (Gives.any _).bind fun bodies _ => (Gives.any _).bind fun orelse _ =>
      (Gives.any _).bind fun finalbody _ => .ok ?_
    exact ⟨_, _, rfl, .start _ rfl⟩
  | importNames names location => exact .ok (.of_line ((Indented.start _ rfl).append _))
  | importFrom module names dots location =>
    exact .ok (.of_line ((((Indented.start _ rfl).append _).append _).append _))
  | assign targets value location =>
    have htargets : ∀ r ∈ targets.map (fun t => place .test (t.render mode .double)),
        Gives (·.isCodeLine = true) r := by
      rw [List.forall_mem_map]
      exact fun t ht => hcode t (List.mem_append_left _ ht) .test
    refine (Gives.inOrder htargets).bind fun ts hts => (Gives.any _).bind fun v _ =>
      .ok (.of_line ?_)
    cases ts with
    | nil =>
      refine Indented.append ?_ v
      rw [List.append_assoc]
      exact .start _ rfl
    | cons t ts =>
      have hjoin := Text.isCodeLine_join ", " (hts.2 t List.mem_cons_self) ts
      exact ((Indented.start _ hjoin).append _).append v
  | ret value location =>
    cases value with
    | none => exact .ok (.of_line (.start _ rfl))
    | some value =>
      exact (Gives.any _).bind fun t _ => .ok (.of_line ((Indented.start _ rfl).append t))
  | pass location => exact .ok (.of_line (.start _ rfl))
  | expr value location =>
    exact (hcode value List.mem_cons_self .yielding).bind fun t ht => .ok (.of_line (.start _ ht))
  | captured kind source location => exact (hs kind source location rfl).elim
  | foreign kind => exact nofun

end

/-! ## Blocks -/

/-- The text that a statement is captured with, if there is one. -/
def Stmt.quoted? : Stmt → Option Text
  | .captured _ (some (c :: rest)) _ => some (c :: rest)
  | _ => none

/-- A statement of which rendering shows no code: a placeholder stands for it, or it is captured
with a text that has none. -/
def Stmt.Silent (mode : RenderMode) (level : Int) (s : Stmt) : Prop :=
  (∃ kind, s.ownLines mode level = .error (.unsupported kind)) ∨
    ∃ source, s.quoted? = some source ∧ source.lines.any Text.isCodeLine = false

/-- A block of which rendering shows no code, but a blank line. -/
def Block.Hollow (mode : RenderMode) (level : Int) (b : Block) : Prop :=
  mode = .passthrough ∧ (∀ s ∈ b, s.Silent mode level) ∧
    ∃ s ∈ b, ∃ source, s.quoted? = some source ∧ source.lines.any Text.isBlank = true

theorem Stmt.ownLines_quoted {s : Stmt} {source : Text} (h : s.quoted? = some source)
    (level : Int) :
    s.ownLines .passthrough level = .ok (Source.indentSource source (levelPad level)) := by
  unfold Stmt.quoted? at h
  split at h
  · cases h
    rfl
  · cases h

/-- What rendering shows of a statement: its lines, the text that it is captured with or a
placeholder. -/
theorem Stmt.lines_cases {mode : RenderMode} {level : Int} {s : Stmt} {lines : List Text}
    (h : s.lines mode level = .ok lines) :
    ((∀ kind source location, s ≠ .captured kind source location) ∧
      s.ownLines mode level = .ok lines) ∨
    (mode = .passthrough ∧ ∃ source, s.quoted? = some source ∧
      lines = Source.indentSource source (levelPad level)) ∨
    mode ≠ .strict ∧ ∃ kind, s.ownLines mode level = .error (.unsupported kind) ∧
      lines = [levelPad level ++ placeholder kind] := by
  rw [Stmt.lines, RenderMode.recoverLines] at h
  cases hown : s.ownLines mode level with
  | ok own =>
    rw [hown] at h
    cases h
    by_cases hcaptured : ∃ kind source location, s = .captured kind source location
    · obtain ⟨kind, source, location, rfl⟩ := hcaptured
      rw [Stmt.ownLines.eq_def] at hown
      dsimp only at hown
      split at hown <;> cases hown
      exact .inr (.inl ⟨rfl, _, rfl, rfl⟩)
    · exact .inl ⟨fun kind source location hs => hcaptured ⟨kind, source, location, hs⟩, rfl⟩
  | error f =>
    rw [hown] at h
    unfold RenderMode.recover at h
    split at h
    · rename_i kind heq
      cases heq
      split_ifs at h with hmode
      cases h
      exact .inr (.inr ⟨hmode, kind, rfl, rfl⟩)
    · cases h

/-- Which statements show code, and which of the others a blank line. -/
theorem Stmt.lines_any {mode : RenderMode} {level : Int} {s : Stmt} {lines : List Text}
    (hworded : ∀ e ∈ s.exprs, e.All (·.isWorded = true)) (h : s.lines mode level = .ok lines) :
    (lines.any Text.isCodeLine = true ↔ ¬ s.Silent mode level) ∧
      (s.Silent mode level → (lines.any Text.isBlank = true ↔
        mode = .passthrough ∧ ∃ source, s.quoted? = some source ∧
          source.lines.any Text.isBlank = true)) := by
  rcases Stmt.lines_cases h with ⟨hcaptured, hown⟩ | ⟨rfl, source, hquoted, rfl⟩ |
    ⟨-, kind, hown, rfl⟩
  · have hcode := (Stmt.ownLines_headed hworded hcaptured level lines hown).any
      (levelPad_isBlank level)
    have hloud : ¬ s.Silent mode level := by
      rintro (⟨kind, hkind⟩ | ⟨source, hquoted, -⟩)
      · cases hkind.symm.trans hown
      · cases s with
        | captured kind source location => exact hcaptured kind source location rfl
        | _ => cases hquoted
    exact ⟨iff_of_true hcode hloud, fun hs => (hloud hs).elim⟩
  · obtain ⟨hcode, hblank⟩ := Source.indentFrom_any (levelPad_isBlank level)
      (Source.continuationRows source) 1 source.lines
    have hsilent : s.Silent .passthrough level ↔ source.lines.any Text.isCodeLine = false := by
      constructor
      · rintro (⟨kind, hkind⟩ | ⟨source', hquoted', hnone⟩)
        · cases hkind.symm.trans (Stmt.ownLines_quoted hquoted level)
        · cases hquoted.symm.trans hquoted'
          exact hnone
      · exact fun hnone => .inr ⟨source, hquoted, hnone⟩
    rw [Source.indentSource, hcode, hblank, hsilent, Bool.not_eq_false]
    refine ⟨Iff.rfl, fun _ => ⟨fun hany => ⟨rfl, source, hquoted, hany⟩, ?_⟩⟩
    rintro ⟨-, source', hquoted', hany⟩
    cases hquoted.symm.trans hquoted'
    exact hany
  · have hsilent : s.Silent mode level := .inl ⟨kind, hown⟩
    refine ⟨iff_of_false ?_ (not_not.2 hsilent), fun _ => iff_of_false ?_ ?_⟩
    · simp [isCodeLine_placeholder]
    · simp [isBlank_placeholder]
    · rintro ⟨rfl, source, hquoted, -⟩
      cases hown.symm.trans (Stmt.ownLines_quoted hquoted level)

theorem Stmt.eachLines_mapM (mode : RenderMode) (level : Int) (b : List Stmt) :
    Stmt.eachLines mode level b = b.mapM (Stmt.lines mode level) := by
  induction b with
  | nil => rfl
  | cons s b ih =>
    rw [Stmt.eachLines, List.mapM_cons, ih]
    rfl

theorem Stmt.lines_of_eachLines {mode : RenderMode} {level : Int} {b : List Stmt}
    {ss : List (List Text)} (h : Stmt.eachLines mode level b = .ok ss) :
    List.Forall₂ (fun s lines => s.lines mode level = .ok lines) b ss := by
  rw [Stmt.eachLines_mapM, mapM_ok, ← List.forall₂_eq_eq_eq, List.forall₂_map_left_iff,
    List.forall₂_map_right_iff] at h
  exact h

theorem Block.any_lines {mode : RenderMode} {level : Int} {b : Block} {ss : List (List Text)}
    (hworded : ∀ s ∈ b, ∀ e ∈ s.exprs, e.All (·.isWorded = true))
    (h : Stmt.eachLines mode level b = .ok ss) :
    (ss.flatten.any Text.isCodeLine = true ↔ ∃ s ∈ b, ¬ s.Silent mode level) ∧
      ((∀ s ∈ b, s.Silent mode level) → (ss.flatten.any Text.isBlank = true ↔
        mode = .passthrough ∧ ∃ s ∈ b, ∃ source, s.quoted? = some source ∧
          source.lines.any Text.isBlank = true)) := by
  have hlines := Stmt.lines_of_eachLines h
  clear h
  induction hlines with
  | nil => simp
  | cons hs hrest ih =>
    rw [List.forall_mem_cons] at hworded
    obtain ⟨hcode, hblank⟩ := Stmt.lines_any hworded.1 hs
    obtain ⟨hcodes, hblanks⟩ := ih hworded.2
    rw [List.flatten_cons, List.any_append, List.any_append, Bool.or_eq_true, Bool.or_eq_true]
    refine ⟨?_, fun hsilent => ?_⟩
    · rw [hcode, hcodes, List.exists_mem_cons_iff]
    · rw [List.forall_mem_cons] at hsilent
      rw [hblank hsilent.1, hblanks hsilent.2, List.exists_mem_cons_iff, and_or_left]

/-- A block shows code unless it is hollow. -/
theorem Block.blockLines_code {mode : RenderMode} {level : Int} {b : Block} {ss : List (List Text)}
    (hworded : ∀ s ∈ b, ∀ e ∈ s.exprs, e.All (·.isWorded = true))
    (h : Stmt.eachLines mode level b = .ok ss) :
    (∃ line ∈ blockLines level ss, line.isCodeLine = true) ↔ ¬ b.Hollow mode level := by
  obtain ⟨hcode, hblank⟩ := Block.any_lines hworded h
  rw [← List.any_eq_true, blockLines_any, Bool.or_eq_true, hcode]
  by_cases hsilent : ∀ s ∈ b, s.Silent mode level
  · have hnone : ¬ ∃ s ∈ b, ¬ s.Silent mode level := fun ⟨s, hs, hloud⟩ => hloud (hsilent s hs)
    rw [or_iff_right hnone, Bool.not_eq_true', ← Bool.not_eq_true, hblank hsilent, Block.Hollow]
    exact not_congr (and_congr_right fun _ => (and_iff_right hsilent).symm)
  · have hloud : ∃ s ∈ b, ¬ s.Silent mode level := by
      push Not at hsilent
      exact hsilent
    exact iff_of_true (.inl hloud) fun hhollow => hsilent hhollow.2.1

/-! ## Blocks in modules -/

/-- The blocks of a statement that rendering shows: an `else` or a `finally` only if there is
something in it. -/
def Stmt.suites : Stmt → List Block
  | .function _ body _ => [body]
  | .classDef _ body _ => [body]
  | .tryExcept body handlers orelse finalbody _ =>
    body :: handlers.map Handler.body ++ [orelse, finalbody].filter (!·.isEmpty)
  | _ => []

/-- A nested block that rendering shows, and its level. A statement that a placeholder stands for
shows none. -/
inductive Suite (mode : RenderMode) (m : Module) : Int → Block → Prop
  | outer {s lines b} (hs : s ∈ m.body) (hlines : s.ownLines mode 0 = .ok lines)
    (hb : b ∈ s.suites) : Suite mode m (0 + 1) b
  | inner {level c s lines b} (h : Suite mode m level c) (hs : s ∈ c)
    (hlines : s.ownLines mode level = .ok lines) (hb : b ∈ s.suites) : Suite mode m (level + 1) b

theorem Stmt.suites_blocks {s : Stmt} {b : Block} (h : b ∈ s.suites) : b ∈ s.blocks := by
  cases s with
  | tryExcept body handlers orelse finalbody location =>
    rcases List.mem_append.1 h with h | h
    · exact List.mem_append_left _ h
    · exact List.mem_append_right _ (List.mem_filter.1 h).1
  | _ => exact h

/-- The statements of a nested block are statements of the module. -/
theorem Suite.nodes {mode : RenderMode} {m : Module} {level : Int} {b : Block}
    (h : Suite mode m level b) : ∀ s ∈ b, s ∈ Stmt.nodesIn m.body := by
  have hinside : ∀ {s t : Stmt} {b : Block}, s ∈ Stmt.nodesIn m.body → b ∈ s.suites → t ∈ b →
      t ∈ Stmt.nodesIn m.body := by
    intro s t b hs hb ht
    refine Stmt.nodesIn_trans _ hs ?_
    rw [Stmt.nodes_eq]
    refine List.mem_cons_of_mem _ (List.mem_flatMap.2 ⟨b, Stmt.suites_blocks hb, ?_⟩)
    exact Stmt.mem_nodesIn ht t.mem_nodes_self
  induction h with
  | outer hs _ hb => exact fun t ht => hinside (Stmt.mem_nodesIn hs (Stmt.mem_nodes_self _)) hb ht
  | inner _ hs _ hb ih => exact fun t ht => hinside (ih _ hs) hb ht

section

variable {mode : RenderMode} {level : Int}

theorem flatten_infix_blockLines (level : Int) (ss : List (List Text)) :
    ss.flatten <:+: blockLines level ss := by
  rw [blockLines]
  split_ifs
  · exact List.infix_refl _
  · exact (List.prefix_append ..).isInfix

theorem blockLines_infix_region (header : Text) {ss : List (List Text)} (h : ss ≠ []) :
    blockLines level ss <:+: optionalRegion header level ss := by
  cases ss with
  | nil => exact (h rfl).elim
  | cons lines ss => exact (List.suffix_cons _ _).isInfix

theorem mapM_mem {α β : Type} {f : α → Except Fault β} {as : List α} {bs : List β}
    (h : as.mapM f = .ok bs) {a : α} (ha : a ∈ as) : ∃ b ∈ bs, f a = .ok b := by
  have hmem := List.mem_map_of_mem (f := f) ha
  rw [mapM_ok.1 h] at hmem
  obtain ⟨b, hb, heq⟩ := List.mem_map.1 hmem
  exact ⟨b, hb, heq.symm⟩

theorem mapM_length {α β : Type} {f : α → Except Fault β} {as : List α} {bs : List β}
    (h : as.mapM f = .ok bs) : as.length = bs.length := by
  simpa using congrArg List.length (mapM_ok.1 h)

theorem Stmt.handlerLines_mapM (hs : List Handler) :
    Stmt.handlerLines mode level hs = (hs.map Handler.body).mapM (Stmt.eachLines mode level) := by
  induction hs with
  | nil => rfl
  | cons h hs ih =>
    obtain ⟨type, name, body⟩ := h
    rw [Stmt.handlerLines, List.map_cons, List.mapM_cons, ih]
    rfl

theorem blockLines_infix_zipWith {heads : List Text} {bodies : List (List (List Text))}
    (hlength : heads.length = bodies.length) {ss : List (List Text)} (hss : ss ∈ bodies) :
    blockLines level ss <:+:
      (heads.zipWith (fun head lines => head :: blockLines level lines) bodies).flatten := by
  induction bodies generalizing heads with
  | nil => cases hss
  | cons body bodies ih =>
    cases heads with
    | nil => cases hlength
    | cons head heads =>
      rw [List.zipWith_cons_cons, List.flatten_cons]
      rcases List.mem_cons.1 hss with rfl | hss
      · exact (List.suffix_cons _ _).isInfix.trans (List.prefix_append ..).isInfix
      · exact (ih (Nat.succ.inj hlength) hss).trans (List.suffix_append ..).isInfix

/-- The lines of a block stand together among those of the statement that shows it. -/
theorem Stmt.suites_shown {s : Stmt} {lines : List Text} (h : s.ownLines mode level = .ok lines)
    {b : Block} (hb : b ∈ s.suites) :
    ∃ ss, Stmt.eachLines mode (level + 1) b = .ok ss ∧ blockLines (level + 1) ss <:+: lines := by
  cases s with
  | function head body location | classDef head body location =>
    obtain rfl := List.mem_singleton.1 hb
    rw [Stmt.ownLines, bind_ok] at h
    obtain ⟨header, -, h⟩ := h
    obtain ⟨ss, hss, h⟩ := bind_ok.1 h
    cases h
    exact ⟨ss, hss, (List.suffix_append ..).isInfix⟩
  | tryExcept body handlers orelse finalbody location =>
    rw [Stmt.ownLines, bind_ok] at h
    obtain ⟨heads, hheads, h⟩ := h
    obtain ⟨body', hbody, h⟩ := bind_ok.1 h
    obtain ⟨bodies, hbodies, h⟩ := bind_ok.1 h
    obtain ⟨orelse', horelse, h⟩ := bind_ok.1 h
    obtain ⟨finalbody', hfinal, h⟩ := bind_ok.1 h
    cases h
    rw [Stmt.handlerLines_mapM] at hbodies
    have hlength : heads.length = bodies.length := by
      have hhead := mapM_length hheads
      have hbody := mapM_length hbodies
      rw [List.length_map] at hhead hbody
      omega
    rcases List.mem_append.1 hb with hb | hb
    · rcases List.mem_cons.1 hb with rfl | hb
      · refine ⟨body', hbody, ?_⟩
        exact (List.suffix_cons _ _).isInfix.trans <| (List.prefix_append ..).isInfix.trans <|
          (List.prefix_append ..).isInfix.trans (List.prefix_append ..).isInfix
      · obtain ⟨ss, hss, hlines⟩ := mapM_mem hbodies hb
        refine ⟨ss, hlines, (blockLines_infix_zipWith hlength hss).trans ?_⟩
        exact (List.suffix_append ..).isInfix.trans <| (List.prefix_append ..).isInfix.trans
          (List.prefix_append ..).isInfix
    · have hsome : ∀ {c : Block} {ss : List (List Text)}, (!c.isEmpty) = true →
          Stmt.eachLines mode (level + 1) c = .ok ss → ss ≠ [] := by
        intro c ss hc hss hnil
        rw [Stmt.eachLines_mapM, hnil] at hss
        rw [List.length_eq_zero_iff.1 (mapM_length hss)] at hc
        cases hc
      obtain ⟨hb, hne⟩ := List.mem_filter.1 hb
      rcases List.mem_cons.1 hb with rfl | hb
      · refine ⟨orelse', horelse, (blockLines_infix_region (levelPad level ++ "else:")
          (hsome hne horelse)).trans ?_⟩
        exact (List.suffix_append ..).isInfix.trans (List.prefix_append ..).isInfix
      · obtain rfl := List.mem_singleton.1 hb
        refine ⟨finalbody', hfinal, (blockLines_infix_region (levelPad level ++ "finally:")
          (hsome hne hfinal)).trans ?_⟩
        exact (List.suffix_append ..).isInfix
  | _ => cases hb

end

/-- The lines of a nested block stand together among those of the module. -/
theorem Suite.shown {mode : RenderMode} {m : Module} {total : List (List Text)}
    (htotal : Stmt.eachLines mode 0 m.body = .ok total) {level : Int} {b : Block}
    (h : Suite mode m level b) :
    ∃ ss, Stmt.eachLines mode level b = .ok ss ∧ blockLines level ss <:+: total.flatten := by
  have hstep : ∀ {level : Int} {c : Block} {ss : List (List Text)} {s : Stmt} {lines : List Text},
      Stmt.eachLines mode level c = .ok ss → s ∈ c → s.ownLines mode level = .ok lines →
        lines <:+: ss.flatten := by
    intro level c ss s lines hss hs hlines
    rw [Stmt.eachLines_mapM] at hss
    obtain ⟨lines', hmem, heq⟩ := mapM_mem hss hs
    rw [Stmt.lines, hlines] at heq
    cases heq
    exact List.infix_of_mem_flatten hmem
  induction h with
  | outer hs hlines hb =>
    obtain ⟨ss, hss, hinfix⟩ := Stmt.suites_shown hlines hb
    exact ⟨ss, hss, hinfix.trans (hstep htotal hs hlines)⟩
  | inner _ hs hlines hb ih =>
    obtain ⟨outer, houter, hinside⟩ := ih
    obtain ⟨ss, hss, hinfix⟩ := Stmt.suites_shown hlines hb
    refine ⟨ss, hss, hinfix.trans ((hstep houter hs hlines).trans (.trans ?_ hinside))⟩
    exact flatten_infix_blockLines _ outer

/-- Names and captured texts of a module begin as code does, and there is something to join. -/
def Module.Worded (m : Module) : Prop :=
  ∀ s ∈ Stmt.nodesIn m.body, ∀ e ∈ s.exprs, e.All (·.isWorded = true)

/-! ## Snippets -/

theorem Text.stripped_ne_nil {t : Text} (h : t.isBlank = false) : t.stripped ≠ [] := by
  intro hnil
  rw [Text.stripped, Text.trimWhile, Text.dropEndWhile, List.reverse_eq_nil_iff,
    List.dropWhile_eq_nil_iff] at hnil
  have hall : t.isBlank = true := by
    refine List.all_eq_true.2 fun c hc => ?_
    rw [← List.takeWhile_append_dropWhile (p := CodePoint.isBlank) (l := t)] at hc
    rcases List.mem_append.1 hc with hc | hc
    · exact List.mem_takeWhile_imp hc
    · exact hnil c (List.mem_reverse.2 hc)
  cases h.symm.trans hall

/-- A text of comments with blank lines among them. -/
def Text.isSparse (t : Text) : Bool :=
  !t.isBlank && !t.lines.any Text.isCodeLine && t.lines.any Text.isBlank

namespace Snippet

/-- The text that a fragment stands for in a block. -/
def blockSource (t : Text) : Text := (Source.dedent t).trimWhile fun c : CodePoint => c = '\n'

theorem fragmentBlock_eq (t : Text) :
    fragmentBlock t = if (blockSource t).isBlank then [.pass none]
      else [.captured fragmentKind (some (blockSource t)) none] := rfl

/-- The block of a fragment has code unless the fragment is sparse. -/
theorem fragmentBlock_code (t : Text) : ∃ ss,
    Stmt.eachLines .passthrough 1 (fragmentBlock t) = .ok ss ∧
      ((∃ line ∈ blockLines 1 ss, line.isCodeLine = true) ↔ (blockSource t).isSparse = false) := by
  rw [fragmentBlock_eq, Text.isSparse]
  cases hblank : (blockSource t).isBlank with
  | true => exact ⟨[[levelPad 1 ++ "pass"]], rfl, iff_of_true
      ⟨_, List.mem_cons_self, isCodeLine_pass 1⟩ rfl⟩
  | false =>
    cases hsource : blockSource t with
    | nil => rw [hsource] at hblank; cases hblank
    | cons c rest =>
      obtain ⟨hcode, hblanks⟩ := Source.indentFrom_any (levelPad_isBlank 1)
        (Source.continuationRows (c :: rest)) 1 (Text.lines (c :: rest))
      refine ⟨[Source.indentSource (c :: rest) (levelPad 1)], rfl, ?_⟩
      rw [← List.any_eq_true, blockLines_any, List.flatten_singleton, Source.indentSource, hcode,
        hblanks]
      cases (Text.lines (c :: rest)).any Text.isCodeLine <;>
        cases (Text.lines (c :: rest)).any Text.isBlank <;> simp

theorem fragment_render {t : Text} (h : t.isBlank = false) :
    ∃ r, (fragment t).render .passthrough .double = .ok r := by
  rw [fragment]
  cases hsource : t.stripped with
  | nil => exact (Text.stripped_ne_nil h hsource).elim
  | cons c rest => exact ⟨_, rfl⟩

/-- The lines of a snippet: those of its two blocks below their headers. -/
theorem tryExcept_lines (body type handler : Text) {bs hs : List (List Text)}
    (hbody : Stmt.eachLines .passthrough 1 (fragmentBlock body) = .ok bs)
    (hhandler : Stmt.eachLines .passthrough 1 (fragmentBlock handler) = .ok hs) :
    ∃ head, tryExcept body type handler = .ok (Text.join "\n"
      (Text.ofString "try:" :: blockLines 1 bs ++ head :: blockLines 1 hs)) := by
  have hhead : ∃ head, handlerHead .passthrough (levelPad 0)
      ⟨if type.isBlank then none else some (fragment type), none, fragmentBlock handler⟩ =
        .ok head := by
    cases hblank : type.isBlank with
    | true => exact ⟨_, rfl⟩
    | false =>
      obtain ⟨r, hr⟩ := fragment_render hblank
      simp only [handlerHead, Handler.type, hr, place, Bool.false_eq_true, if_false]
      exact ⟨_, rfl⟩
  obtain ⟨head, hhead⟩ := hhead
  refine ⟨head, ?_⟩
  change Stmt.eachLines .passthrough (0 + 1) _ = _ at hbody hhandler
  rw [tryExcept, Stmt.toText, Stmt.lines, Stmt.ownLines, List.map_singleton]
  rw [hhead, hbody, Stmt.handlerLines, hhandler]
  change Except.ok (Text.join "\n" (Text.ofString "try:" :: blockLines 1 bs ++
    (head :: blockLines 1 hs ++ []) ++ [] ++ [])) = _
  rw [List.append_nil, List.append_nil, List.append_nil]

end Snippet

/-! ## Modules and snippets -/

/-- The lines of a nested block stand together in the text of a module. They have code unless the
statements of the block have none and show a blank line; if names and captured texts begin as code
does, that takes a hollow block. The blocks of a snippet have code unless their texts are sparse. -/
theorem suites_code {m : Module} {mode : RenderMode} {t : Text} (h : m.toText mode = .ok t)
    (body type handler : Text) :
    (∃ lines : List Text, t = lines.flatMap (fun line => line ++ Text.ofString "\n") ∧
      ∀ level b, Suite mode m level b → ∃ ss, Stmt.eachLines mode level b = .ok ss ∧
        blockLines level ss <:+: lines ∧
        ((∃ line ∈ blockLines level ss, line.isCodeLine = true) ↔
          (∃ line ∈ ss.flatten, line.isCodeLine = true) ∨
            ∀ line ∈ ss.flatten, line.isBlank = false) ∧
        (m.Worded → ((∃ line ∈ blockLines level ss, line.isCodeLine = true) ↔
          ¬ b.Hollow mode level))) ∧
    ∃ head bs hs,
      Snippet.tryExcept body type handler =
        .ok (Text.join "\n" (Text.ofString "try:" :: bs ++ head :: hs)) ∧
      ((∃ line ∈ bs, line.isCodeLine = true) ↔ (Snippet.blockSource body).isSparse = false) ∧
      ((∃ line ∈ hs, line.isCodeLine = true) ↔
        (Snippet.blockSource handler).isSparse = false) := by
  constructor
  · rw [Module.toText] at h
    cases htotal : Stmt.eachLines mode 0 m.body with
    | error f =>
      rw [htotal] at h
      cases h
    | ok total =>
      rw [htotal] at h
      cases h
      refine ⟨total.flatten, rfl, fun level b hb => ?_⟩
      obtain ⟨ss, hss, hinfix⟩ := hb.shown htotal
      refine ⟨ss, hss, hinfix, ?_, fun hworded => ?_⟩
      · rw [← List.any_eq_true, blockLines_any, Bool.or_eq_true, List.any_eq_true,
          Bool.not_eq_true', List.any_eq_false]
        simp only [Bool.not_eq_true]
      · exact Block.blockLines_code (fun s hs => hworded s (hb.nodes s hs)) hss
  · obtain ⟨bs, hbs, hbody⟩ := Snippet.fragmentBlock_code body
    obtain ⟨hs, hhs, hhandler⟩ := Snippet.fragmentBlock_code handler
    obtain ⟨head, htext⟩ := Snippet.tryExcept_lines body type handler hbs hhs
    exact ⟨head, _, _, htext, hbody, hhandler⟩

/-- A captured loop below a comment and a blank line, in a method. -/
theorem suites_code_sample :
    let loop : Block := [.captured "While" (some "# a\n\nwhile x:\n    y()") none]
    let m : Module :=
      ⟨[.classDef ⟨"C", [], [], []⟩ [.function ⟨"f", [], none, [], false⟩ loop none] none]⟩
    m.Worded ∧ Suite .passthrough m (0 + 1 + 1) loop ∧
      (∃ ss, Stmt.eachLines .passthrough (0 + 1 + 1) loop = .ok ss ∧
        ∃ line ∈ blockLines (0 + 1 + 1) ss, line.isCodeLine = true) ∧
      ∃ head bs hs, Snippet.tryExcept "# a" "E" "b()" =
          .ok (Text.join "\n" (Text.ofString "try:" :: bs ++ head :: hs)) ∧
        ∃ line ∈ bs, line.isCodeLine = true := by
  intro loop m
  have hworded : m.Worded := List.forall_mem_cons.2 ⟨List.forall_mem_nil _,
    List.forall_mem_cons.2 ⟨List.forall_mem_nil _,
      List.forall_mem_singleton.2 (List.forall_mem_nil _)⟩⟩
  have hsuite : Suite .passthrough m (0 + 1 + 1) loop :=
    .inner (.outer List.mem_cons_self rfl List.mem_cons_self) List.mem_cons_self rfl
      List.mem_cons_self
  have hfull : ¬ loop.Hollow .passthrough (0 + 1 + 1) := by
    rintro ⟨-, hsilent, -⟩
    rcases hsilent _ List.mem_cons_self with ⟨kind, hkind⟩ | ⟨source, hquoted, hnone⟩
    · cases hkind
    · cases hquoted
      revert hnone
      decide
  have htext : ∃ t, m.toText .passthrough = .ok t := ⟨_, rfl⟩
  obtain ⟨t, htext⟩ := htext
  obtain ⟨⟨lines, -, hlines⟩, head, bs, hs, hsnippet, hbody, -⟩ :=
    suites_code htext "# a" "E" "b()"
  obtain ⟨ss, hss, -, -, hcode⟩ := hlines _ _ hsuite
  exact ⟨hworded, hsuite, ⟨ss, hss, (hcode hworded).2 hfull⟩, head, bs, hs, hsnippet,
    hbody.2 rfl⟩

/-- Comments with a blank line between them, which make a `try` without code. -/
theorem Snippet.tryExcept_without_code :
    Snippet.tryExcept "# a\n\n# b" "E" "pass" =
        .ok "try:\n    # a\n\n    # b\nexcept E:\n    pass" ∧
      ∀ line ∈ [Text.ofString "    # a", [], "    # b"], Text.isCodeLine line = false :=
  ⟨rfl, by decide⟩

end Refactory
