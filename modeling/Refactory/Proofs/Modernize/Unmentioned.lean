import Refactory.Proofs.Grammar.Word
import Refactory.Proofs.Modernize.Dropped
import Refactory.Proofs.Modernize.Naming

/-! # Dropped names are not mentioned

A name whose import is dropped is mentioned by no name in an expression and by no list that is assigned to
`__all__` alone, and a name in ASCII by no source text and no annotation that is quoted as a whole
(`dropUnusedImports_unmentioned`). Source text is searched for words in ASCII only, and only an annotation
that is itself a string is taken for quoted, so that other identifiers in source text and strings within an
annotation are overlooked (`dropUnusedImports_overlooks`). -/

namespace Refactory

/-! ## Identifiers in texts -/

namespace Text

/-- A text holds no point beyond ASCII. -/
def IsAscii (t : Text) : Prop := ∀ c ∈ t, c.val < 0x80

instance (t : Text) : Decidable t.IsAscii := inferInstanceAs (Decidable (∀ c ∈ t, c.val < 0x80))

/-- An identifier stands in a text, not as a part of a longer one. -/
def HasIdentifier (t x : Text) : Prop :=
  x.isIdentifier = true ∧ ∃ before after, t = before ++ x ++ after ∧
    (∀ c ∈ before.getLast?, c.continuesIdentifier = false) ∧
    ∀ c ∈ after.head?, c.continuesIdentifier = false

end Text

theorem CodePoint.continues_ascii {c : CodePoint} (h : c.val < 0x80) :
    c.continuesIdentifier = Text.isWordPart c := by
  have hclass : ∀ n < 0x80, inClass [0x30, 0x3a, 0x41, 0x5b, 0x5f, 0x60, 0x61, 0x7b] n =
      (((0x41 ≤ n && n ≤ 0x5a) || (0x61 ≤ n && n ≤ 0x7a) || n == 0x5f) ||
        (0x30 ≤ n && n ≤ 0x39)) := by decide
  rw [continuesIdentifier, Grammar.identifierPart_ascii h, hclass _ h]
  rfl

theorem CodePoint.begins_ascii {c : CodePoint} (h : c.val < 0x80) :
    c.beginsIdentifier = c.isAsciiLetter := by
  have hclass : ∀ n < 0x80, inClass [0x41, 0x5b, 0x5f, 0x60, 0x61, 0x7b] n =
      ((0x41 ≤ n && n ≤ 0x5a) || (0x61 ≤ n && n ≤ 0x7a) || n == 0x5f) := by decide
  rw [beginsIdentifier, Grammar.identifierStart_ascii h, hclass _ h]
  rfl

/-- A point that ends an identifier ends a word. -/
theorem Text.not_isWordPart {c : CodePoint} (h : c.continuesIdentifier = false) :
    isWordPart c = false := by
  by_contra hpart
  have hascii : c.val < 0x80 := by
    simp only [isWordPart, CodePoint.isAsciiLetter, CodePoint.isAsciiDigit, Bool.not_eq_false,
      Bool.or_eq_true, Bool.and_eq_true, decide_eq_true_iff, beq_iff_eq] at hpart
    omega
  rw [CodePoint.continues_ascii hascii] at h
  exact hpart h

/-- An identifier in ASCII that stands in a text is among its words. -/
theorem Text.HasIdentifier.mem_asciiWords {t x : Text} (h : t.HasIdentifier x) (hx : x.IsAscii) :
    x ∈ t.asciiWords := by
  obtain ⟨hidentifier, before, after, rfl, hbefore, hafter⟩ := h
  have hword : IsAsciiWord x := by
    cases x with
    | nil => cases hidentifier
    | cons c rest =>
      obtain ⟨hc, hrest⟩ := List.forall_mem_cons.1 hx
      rw [isIdentifier, Bool.and_eq_true, List.all_eq_true, CodePoint.begins_ascii hc] at hidentifier
      refine ⟨c, rest, rfl, hidentifier.1, ?_⟩
      intro d hd
      rw [← CodePoint.continues_ascii (hrest d hd)]
      exact hidentifier.2 d hd
  refine Text.mem_asciiWords hword ⟨before, after, rfl, ?_, ?_⟩
  · intro c hc
    exact not_isWordPart (hbefore c hc)
  · intro c hc
    exact not_isWordPart (hafter c hc)

/-! ## Uses -/

/-- The ways in which a tree shows that a name is used. -/
inductive UseForm
  /-- A name in an expression. -/
  | name
  /-- An identifier in source text. -/
  | text
  /-- A string in a list or a tuple that is assigned to `__all__`. -/
  | exported
  /-- The same, where `__all__` is one of several targets. -/
  | unpacked
  /-- An identifier in an annotation that is a string. -/
  | quoted
  /-- An identifier in a string within an annotation. -/
  | nested

/-- The annotations of the parameters and of the result of a function. -/
def FunctionHead.annotations (head : FunctionHead) : List Expr :=
  head.params.filterMap (·.hint) ++ head.returns.toList

/-- A list or a tuple that holds a string. -/
inductive Expr.Lists (x : Text) : Expr → Prop
  | list {elements : List Expr} (h : .string x ∈ elements) : Lists x (.list elements)
  | tuple {elements : List Expr} (h : .string x ∈ elements) : Lists x (.tuple elements)

theorem Expr.Lists.mem_listedStrings {x : Text} {e : Expr} (h : e.Lists x) :
    x ∈ e.listedStrings := by
  cases h with
  | list h | tuple h => exact List.mem_filterMap.2 ⟨_, h, rfl⟩

/-- A statement shows itself that a name is used. -/
inductive Stmt.Shows (x : Text) : UseForm → Stmt → Prop
  | name {s : Stmt} {e : Expr} (he : e ∈ s.exprs) (hx : (Expr.name x).Within e) : Shows x .name s
  | statementText {kind source : Text} {location : Option Location} (hx : source.HasIdentifier x) :
    Shows x .text (.captured kind (some source) location)
  | exprText {s : Stmt} {e : Expr} {kind source : Text} (he : e ∈ s.exprs)
    (hn : (Expr.captured kind (some source)).Within e) (hx : source.HasIdentifier x) :
    Shows x .text s
  | exported {value : Expr} {location : Option Location} (hx : value.Lists x) :
    Shows x .exported (.assign [.name "__all__"] value location)
  | unpacked {targets values : List Expr} {e : Expr} {location : Option Location}
    (hmany : targets.length ≠ 1) (he : (.name "__all__", e) ∈ targets.zip values) (hx : e.Lists x) :
    Shows x .unpacked (.assign targets (.tuple values) location)
  | quoted {head : FunctionHead} {body : Block} {location : Option Location} {t : Text}
    (ht : .string t ∈ head.annotations) (hx : t.HasIdentifier x) :
    Shows x .quoted (.function head body location)
  | nested {head : FunctionHead} {body : Block} {location : Option Location} {e : Expr} {t : Text}
    (he : e ∈ head.annotations) (ht : (Expr.string t).Within e) (hne : .string t ≠ e)
    (hx : t.HasIdentifier x) : Shows x .nested (.function head body location)

/-- A use that is shown is found, unless it is within an annotation, unpacked or beyond ASCII. -/
theorem Stmt.Shows.mentions {x : Text} {form : UseForm} {s : Stmt} (h : s.Shows x form)
    (hnested : form ≠ .nested) (hunpacked : form ≠ .unpacked) (hascii : form = .text ∨ form = .quoted → x.IsAscii) :
    s.Mentions x := by
  cases h with
  | name he hx => exact .inl ⟨_, he, _, hx, List.mem_singleton_self x⟩
  | statementText hx => exact .inr (.inr (hx.mem_asciiWords (hascii (.inl rfl))))
  | exprText he hn hx => exact .inl ⟨_, he, _, hn, hx.mem_asciiWords (hascii (.inl rfl))⟩
  | exported hx =>
    refine .inr (.inl ?_)
    rw [quotedUses, if_pos rfl]
    exact hx.mem_listedStrings
  | unpacked => exact (hunpacked rfl).elim
  | quoted ht hx =>
    refine .inr (.inl ?_)
    exact List.mem_flatMap.2 ⟨_, ht, hx.mem_asciiWords (hascii (.inr rfl))⟩
  | nested => exact (hnested rfl).elim

/-! ## Dropped names -/

theorem dropUnusedImports_unused {m m' : Module} {removed : List Text}
    (h : dropUnusedImports.perform m = (.ok removed, m')) {x : Text} (hx : x ∈ removed) :
    ¬m.Uses x := by
  obtain ⟨used, hused, rfl, -⟩ := dropUnusedImports_ok h
  obtain ⟨s, -, hx⟩ := List.mem_flatMap.1 hx
  rw [Stmt.unusedNames_eq, List.mem_map] at hx
  obtain ⟨i, hi, rfl⟩ := hx
  have hnot : ¬i.Stays used := by simpa using (List.mem_filter.1 hi).2
  intro huses
  exact hnot (.inl (((usedNames_ok hused).2 _).2 huses))

/-- A use of a name whose import is dropped that some statement shows is an identifier in a string within
an annotation, a string that is unpacked into `__all__` among other targets, or an identifier beyond ASCII
in source text or in an annotation that is a string. -/
theorem dropUnusedImports_unmentioned {m m' : Module} {removed : List Text}
    (h : dropUnusedImports.perform m = (.ok removed, m')) :
    ∀ x ∈ removed, ∀ s ∈ Stmt.nodesIn m.body, ∀ form, s.Shows x form →
      form = .nested ∨ form = .unpacked ∨ ((form = .text ∨ form = .quoted) ∧ ¬x.IsAscii) := by
  intro x hx s hs form hshows
  by_contra hfound
  rw [not_or, not_or, not_and_not_right] at hfound
  obtain ⟨hnested, hunpacked, hascii⟩ := hfound
  exact dropUnusedImports_unused h hx ⟨s, hs, hshows.mentions hnested hunpacked hascii⟩

theorem dropUnusedImports_unmentioned_sample :
    ∃ m', dropUnusedImports.perform droppedSample = (.ok [Text.ofString "Dict", "os", "re"], m') ∧
      ∀ s ∈ Stmt.nodesIn droppedSample.body, ¬s.Shows "os" .text := by
  have hrun : ∃ m', dropUnusedImports.perform droppedSample =
      (.ok [Text.ofString "Dict", "os", "re"], m') := ⟨_, rfl⟩
  obtain ⟨m', hrun⟩ := hrun
  refine ⟨m', hrun, ?_⟩
  intro s hs hshows
  have hremoved : Text.ofString "os" ∈ [Text.ofString "Dict", "os", "re"] := by decide
  rcases dropUnusedImports_unmentioned hrun _ hremoved s hs _ hshows with h | h | ⟨-, hascii⟩
  · cases h
  · cases h
  · exact hascii (by decide)

/-- Two imports, of a name beyond ASCII that an assertion is about and of one that stands in a string within
an annotation. -/
def overlookedSample : Module :=
  ⟨[.importNames [⟨"é", none⟩] none, .importNames [⟨"np", none⟩] none,
    .captured "Assert" (some "assert é") none,
    .function ⟨"f", [⟨"x", .positional, some (.subscript (.name "list") (.string "np")), none⟩], none,
      [], false⟩ [.pass none] none]⟩

/-- Imports of names are dropped although statements show that they are used. -/
theorem dropUnusedImports_overlooks :
    ∃ m', dropUnusedImports.perform overlookedSample = (.ok [Text.ofString "é", "np"], m') ∧
      (∃ s ∈ overlookedSample.body, s.Shows "é" .text) ∧
      ∃ s ∈ overlookedSample.body, s.Shows "np" .nested := by
  have hend : ∀ c ∈ (none : Option CodePoint), c.continuesIdentifier = false := by
    intro c hc
    cases hc
  refine ⟨⟨overlookedSample.body.drop 2⟩, rfl, ?_, ?_⟩
  · refine ⟨_, List.mem_of_getElem? (i := 2) rfl, .statementText ?_⟩
    exact ⟨by decide +kernel, "assert ", "", rfl, by decide +kernel, hend⟩
  · have hstring : (Expr.string "np").Within (.subscript (.name "list") (.string "np")) :=
      .inside (by simp [Expr.children]) .self
    have hwhole : Expr.string "np" ≠ .subscript (.name "list") (.string "np") := Expr.noConfusion
    refine ⟨_, List.mem_of_getElem? (i := 3) rfl, .nested List.mem_cons_self hstring hwhole ?_⟩
    exact ⟨by decide +kernel, "", "", rfl, hend, hend⟩

end Refactory
