import Refactory.Proofs.Grammar.Scanning
import Refactory.Proofs.Render.Shape

/-! # What is written is read as the same marks

Marks and gaps are legible (`Legible`) if every mark can end where the next character begins and the
brackets match. The scanner then finds these marks and no others, as long as no more brackets are open
at once than it allows (`Legible.reads`). -/

namespace Refactory.Grammar

open Inks

/-! ## Legibility -/

/-- The operators and delimiters of expressions, brackets left out. -/
def operators : List String := [
  ",", ":", ".", "=", "*", "**", "/", "//", "%", "@", "+", "-", "<<", ">>", "&", "^", "|", "==", "!=",
  "<", "<=", ">", ">=", "~", "->"]

/-- The opening brackets. -/
def openers : List Char := ['(', '[', '{']

/-- The first character that is written, if there is one, satisfies `p`. -/
def Next (p : Char → Prop) (inks : List Ink) : Prop := ∀ c ∈ (spell inks).head?, p c

/-- The scanner can tell the marks apart, and the brackets close what is open, the innermost first. -/
inductive Legible : List Char → List Ink → Prop
  | nil : Legible [] []
  | gap {stack inks} (h : Legible stack inks) : Legible stack (.gap :: inks)
  | name {stack inks} {id : Text} (hid : id.isNormalName = true) (hnext : Next (· ∈ enders) inks)
    (h : Legible stack inks) : Legible stack (.mark (.name id) :: inks)
  | number {stack inks} {value : Number} (hvalue : value.Numeral (Mark.number value).spell)
    (hnext : Next (fun c => c ∈ enders ∧ c ≠ '.') inks) (h : Legible stack inks) :
    Legible stack (.mark (.number value) :: inks)
  | string {stack inks} {body : List Char} (hbody : StringBody body)
    (hnext : Next (· ∈ enders) inks) (h : Legible stack inks) :
    Legible stack (.mark (.string body) :: inks)
  | keyword {stack inks} {text : String} (htext : text ∈ keywords)
    (hnext : Next (· ∈ enders) inks) (h : Legible stack inks) : Legible stack (.symbol text :: inks)
  | operator {stack inks} {text : String} (htext : text ∈ operators)
    (hnext : Next (fun c => text = "," ∨ c ∉ extenders ∧ (text = "." → c ≠ '.' ∧ c.isDigit = false))
      inks)
    (h : Legible stack inks) : Legible stack (.symbol text :: inks)
  | ellipsis {stack inks} (h : Legible stack inks) : Legible stack (.symbol "..." :: inks)
  | dot {stack inks} (hnext : Next (fun c => c.isDigit = false) inks)
    (hmore : ¬ ['.', '.'] <+: spell inks) (h : Legible stack inks) :
    Legible stack (.symbol "." :: inks)
  | opening {stack inks} {text : String} {c : Char} (htext : text.toList = [c]) (hc : c ∈ openers)
    (h : Legible (c :: stack) inks) : Legible stack (.symbol text :: inks)
  | closing {stack inks} {text : String} {c left : Char} (htext : text.toList = [c])
    (hc : opening? c = some left) (h : Legible stack inks) :
    Legible (left :: stack) (.symbol text :: inks)
  | captured {stack inks} {kind : Text} {text : List Char} (htext : Snippet text)
    (hnext : Next (fun c => c ∈ enders ∧
      (c = '.' → ∀ d ∈ text.getLast?, d ∈ closingBrackets ++ ['"', '\''])) inks)
    (h : Legible stack inks) : Legible stack (.mark (.captured kind text) :: inks)

/-- How many brackets are open behind a mark or gap, if `n` are open in front of it. -/
def openAfter (n : Nat) : Ink → Nat
  | .mark (.symbol text) =>
    match text.toList with
    | [c] => if c ∈ openers then n + 1 else if (opening? c).isSome then n - 1 else n
    | _ => n
  | _ => n

/-- How many brackets are open at once, if `n` are open in front. -/
def depth (n : Nat) : List Ink → Nat
  | [] => n
  | .gap :: inks => depth n inks
  | .mark m :: inks => max (n + m.brackets) (depth (openAfter n (.mark m)) inks)

theorem le_depth (n : Nat) (inks : List Ink) : n ≤ depth n inks := by
  induction inks with
  | nil => exact Nat.le_refl n
  | cons i inks ih =>
    cases i with
    | gap => exact ih
    | mark m => exact Nat.le_trans (Nat.le_add_right n _) (Nat.le_max_left _ _)

/-! ## Characters and words -/

variable {s : Scanner} {stack : List Char} {levels : List Column} {limit : Nat} {word cs : List Char}

/-- The characters at which the scanner looks for a word, a string or a symbol. -/
def isPlainStart (c : Char) : Bool :=
  !isSpace c && c != '#' && c != '\n' && c != '\\' && !c.isDigit

theorem takeWhile_exact {p : Char → Bool} (hword : ∀ c ∈ word, p c = true)
    (hcs : ∀ c ∈ cs.head?, p c = false) : (word ++ cs).takeWhile p = word := by
  have hstop : cs.takeWhile p = [] := by
    cases cs with
    | nil => rfl
    | cons c cs => rw [List.takeWhile_cons, hcs c rfl, if_neg Bool.false_ne_true]
  rw [List.takeWhile_append_of_pos hword, hstop, List.append_nil]

theorem isPlainStart_of_word {c : Char} (h : isWordChar c = true) (hdigit : c.isDigit = false) :
    isPlainStart c = true ∧ c ≠ '.' := by
  have hne : ∀ d, isWordChar d = false → c ≠ d := by
    rintro d hd rfl
    cases h.symm.trans hd
  refine ⟨?_, hne '.' rfl⟩
  simp [isPlainStart, isSpace, hdigit, hne ' ' rfl, hne '\t' rfl, hne '\x0c' rfl, hne '#' rfl,
    hne '\n' rfl, hne '\\' rfl]

/-- The decimal digits of an integer are a numeral. -/
theorem Number.numeral_int {n : Nat} (hn : (Nat.toDigits 10 n).length ≤ Numeral.mostDigits) :
    (Number.int n).Numeral (Mark.number (.int n)).spell := by
  have hdigit : ∀ c ∈ Nat.toDigits 10 n, c.isDigit = true := fun c hc =>
    Nat.isDigit_of_mem_toDigits (by decide) (by decide) hc
  refine ⟨?_, fun c hc => ?_, Numeral.read_toDigits hn⟩
  · obtain ⟨c, tail, hdigits⟩ := List.exists_cons_of_ne_nil (Nat.toDigits_ne_nil (n := n) (b := 10))
    exact ⟨c, tail, hdigits, hdigit c (by rw [hdigits]; exact List.mem_cons_self)⟩
  · have hc := hdigit c hc
    refine ⟨by simp [isNumeralChar, isWordChar, Char.isAlphanum, hc], ?_⟩
    have hrange := Char.isDigit_iff_toNat.1 hc
    exact Nat.lt_of_le_of_lt hrange.2 (by decide)

/-- The quote in front of a body is not the first of three. -/
theorem StringBody.not_triple {body : List Char} (h : StringBody body)
    (hnext : ∀ c ∈ cs.head?, c ∈ enders) :
    ['"', '"', '"'].isPrefixOf ('"' :: (body ++ '"' :: cs)) = false := by
  cases h with
  | nil =>
    cases cs with
    | nil => rfl
    | cons c cs =>
      have hc : c ≠ '"' := fun hc => (enders_not_wordChar (hnext c rfl)).2 (.inl hc)
      simp [List.isPrefixOf, Ne.symm hc]
  | bare hc _ _ _ => simp [List.isPrefixOf, Ne.symm hc]
  | escape _ _ => simp [List.isPrefixOf]

/-- A symbol is the longest one that comes next, if no longer one goes on with what follows it. -/
theorem find_symbols (cs : List Char) (hfind : symbols.find? (·.isPrefixOf word) = some word)
    (hnext : ∀ more, more ≠ [] → word ++ more ∈ symbols → ¬ more <+: cs) :
    symbols.find? (·.isPrefixOf (word ++ cs)) = some word := by
  rw [← hfind, ← List.head?_filter, ← List.head?_filter]
  refine congrArg List.head? (List.filter_congr fun t ht => ?_)
  rw [Bool.eq_iff_iff, List.isPrefixOf_iff_prefix, List.isPrefixOf_iff_prefix]
  refine ⟨fun hprefix => ?_, fun hprefix => hprefix.trans (List.prefix_append word cs)⟩
  rcases List.prefix_or_prefix_of_prefix hprefix (List.prefix_append word cs) with hle | hge
  · exact hle
  · obtain ⟨more, rfl⟩ := hge
    by_cases hmore : more = []
    · simp [hmore]
    · exact (hnext more hmore ht ((List.prefix_append_right_inj word).1 hprefix)).elim

theorem bracket_mem {c : Char} (h : c ∈ openers ∨ (opening? c).isSome = true) :
    c ∈ openers ++ closingBrackets := by
  rcases h with h | h
  · exact List.mem_append_left closingBrackets h
  · refine List.mem_append_right openers ?_
    unfold opening? at h
    split at h
    · simp [closingBrackets, *]
    split at h
    · simp [closingBrackets, *]
    split at h
    · simp [closingBrackets, *]
    · cases h

theorem find_bracket {c : Char} (h : c ∈ openers ∨ (opening? c).isSome = true) (cs : List Char) :
    (isPlainStart c = true ∧ isWordChar c = false ∧ ¬ (c = '"' ∨ c = '\'') ∧ c ≠ '.') ∧
      symbols.find? (·.isPrefixOf ([c] ++ cs)) = some [c] := by
  have hall : ∀ c ∈ openers ++ closingBrackets,
      (isPlainStart c = true ∧ isWordChar c = false ∧ ¬ (c = '"' ∨ c = '\'') ∧ c ≠ '.') ∧
      symbols.find? (·.isPrefixOf [c]) = some [c] ∧
      ∀ t ∈ symbols, [c].isPrefixOf t = true → t.drop 1 = [] := by
    decide +kernel
  obtain ⟨hstart, hfind, hlonger⟩ := hall c (bracket_mem h)
  refine ⟨hstart, find_symbols cs hfind fun more hmore ht _ => hmore ?_⟩
  exact hlonger _ ht (by simp)

/-! ## Bracket depth and length -/

theorem spell_cons (i : Ink) (inks : List Ink) : spell (i :: inks) = i.spell ++ spell inks := rfl

theorem length_le_spell {inks : List Ink} (h : ∀ i ∈ inks, i.spell ≠ []) :
    inks.length ≤ (spell inks).length := by
  induction inks with
  | nil => exact Nat.le_refl 0
  | cons i inks ih =>
    rw [List.forall_mem_cons] at h
    have hpos := List.length_pos_iff.2 h.1
    have hrest := ih h.2
    rw [spell_cons, List.length_append, List.length_cons]
    omega

theorem openAfter_symbol {text : String} (h : text ∈ keywords ++ operators) (n : Nat) :
    openAfter n (.symbol text) = n := by
  have hall : ∀ text ∈ keywords ++ operators, ∀ c ∈ text.toList,
      c ∉ openers ∧ (opening? c).isSome = false := by
    decide +kernel
  simp only [openAfter]
  split
  · rename_i c htext
    obtain ⟨hopen, hclose⟩ := hall text h c (by rw [htext]; exact List.mem_singleton_self c)
    rw [if_neg hopen, hclose, if_neg Bool.false_ne_true]
  · rfl

theorem depth_same {m : Mark} {n : Nat} (h : openAfter n (.mark m) = n) (inks : List Ink) :
    depth n inks ≤ depth n (.mark m :: inks) := by
  rw [depth, h]
  exact Nat.le_max_right _ _

theorem depth_opening {text : String} {c : Char} {inks : List Ink} {n : Nat}
    (htext : text.toList = [c]) (hc : c ∈ openers) :
    depth n (.symbol text :: inks) = depth (n + 1) inks := by
  have hafter : openAfter n (.symbol text) = n + 1 := by
    simp only [openAfter, htext, hc, if_true]
  rw [depth, hafter]
  exact Nat.max_eq_right (Nat.le_trans (Nat.le_succ n) (le_depth _ _))

theorem depth_closing {text : String} {c left : Char} {inks : List Ink} {n : Nat}
    (htext : text.toList = [c]) (hc : opening? c = some left) :
    depth n inks ≤ depth (n + 1) (.symbol text :: inks) := by
  have hnot : c ∉ openers := by
    intro hopen
    have hall : ∀ c ∈ openers, opening? c = none := by decide
    cases (hall c hopen).symm.trans hc
  have hafter : openAfter (n + 1) (.symbol text) = n := by
    simp only [openAfter, htext, hnot, hc, if_false, Option.isSome_some, if_true]
    rfl
  rw [depth, hafter]
  exact Nat.le_max_right _ _

/-! ## Ink -/

/-- A blank, or a mark that is written with characters that can stand in a line, the first and the last
of which are seen. -/
structure Inked (i : Ink) : Prop where
  nonempty : i.spell ≠ []
  printable : ∀ c ∈ i.spell, 0x20 ≤ c.toNat
  first : i ≠ .gap → ∀ c ∈ i.spell.head?, isInkChar c = true
  last : i ≠ .gap → ∀ c ∈ i.spell.getLast?, isInkChar c = true
  size : i.size ≤ i.spell.length

/-- A mark all characters of which are seen. -/
theorem inked_of_all {m : Mark} (hm : m.size = 0) (hne : m.spell ≠ [])
    (h : ∀ c ∈ m.spell, 0x20 ≤ c.toNat ∧ isInkChar c = true) : Inked (.mark m) :=
  ⟨hne, fun c hc => (h c hc).1, fun _ c hc => (h c (List.mem_of_head? hc)).2,
    fun _ c hc => (h c (List.mem_of_getLast? hc)).2, by rw [Ink.size, hm]; exact Nat.zero_le _⟩

theorem isInkChar_of_word {c : Char} (h : isWordChar c = true)
    (hblank : (CodePoint.scalar c).isBlank = false) : 0x20 ≤ c.toNat ∧ isInkChar c = true := by
  constructor
  · refine Nat.le_of_not_lt fun hlt => ?_
    have hlow : ∀ n < 0x20, isWordChar (Char.ofNat n) = false := by decide
    have hfalse := hlow c.toNat hlt
    rw [Char.ofNat_toNat, h] at hfalse
    cases hfalse
  · have hne : ∀ d, isWordChar d = false → c ≠ d := by
      rintro d hd rfl
      cases h.symm.trans hd
    simp [isInkChar, hblank, hne '\\' rfl, hne '#' rfl]

theorem inked_symbol {text : String} (h : text ∈ keywords ++ operators) :
    Inked (.symbol text) := by
  have hall : ∀ text ∈ keywords ++ operators,
      text.toList ≠ [] ∧ ∀ c ∈ text.toList, 0x20 ≤ c.toNat ∧ isInkChar c = true := by
    decide +kernel
  exact inked_of_all rfl (hall text h).1 (hall text h).2

theorem inked_name {id : Text} (h : id.isNormalName = true) : Inked (.mark (.name id)) := by
  obtain ⟨word, rfl, hbindable, -⟩ := Text.isNormalName_eq h
  rw [Text.isBindable, Bool.and_eq_true] at hbindable
  cases word with
  | nil => cases hbindable.1
  | cons c tail =>
    have hparts := hbindable.1
    rw [Text.ofChars, List.map_cons, Text.isIdentifier, Bool.and_eq_true, List.all_eq_true] at hparts
    have hspell : (Mark.name (Text.ofChars (c :: tail))).spell = c :: tail :=
      filterMap_char_ofChars _
    refine inked_of_all rfl (by rw [hspell]; simp) ?_
    rw [hspell, List.forall_mem_cons]
    refine ⟨isInkChar_of_word (isWordChar_of_begins hparts.1).1
      (CodePoint.not_blank_of_begins hparts.1), fun d hd => ?_⟩
    have hcontinues := hparts.2 _ (List.mem_map_of_mem hd)
    exact isInkChar_of_word (isWordChar_of_continues hcontinues)
      (CodePoint.not_blank_of_continues hcontinues)

theorem inked_number {value : Number} (h : value.Numeral (Mark.number value).spell) :
    Inked (.mark (.number value)) := by
  obtain ⟨c, tail, hspell, -⟩ := h.digit
  refine inked_of_all rfl (by rw [hspell]; simp) fun c hc => ?_
  have hall : ∀ n < 0x80, isNumeralChar (Char.ofNat n) = true →
      0x20 ≤ n ∧ isInkChar (Char.ofNat n) = true := by
    decide
  obtain ⟨hnumeral, hascii⟩ := h.chars c hc
  have hc := hall c.toNat hascii
  rw [Char.ofNat_toNat] at hc
  exact hc hnumeral

theorem inked_string {body : List Char} (h : StringBody body) : Inked (.mark (.string body)) := by
  have hspell : (Ink.mark (.string body)).spell = ('"' :: body) ++ ['"'] := rfl
  refine ⟨by simp [hspell], ?_, fun _ c hc => ?_, fun _ c hc => ?_, Nat.zero_le _⟩
  · rw [hspell]
    exact List.forall_mem_append.2 ⟨List.forall_mem_cons.2 ⟨by decide, h.printable⟩, by decide⟩
  · cases hc
    decide
  · rw [hspell, List.getLast?_concat] at hc
    cases hc
    decide

theorem inked_bracket {text : String} {c : Char} (htext : text.toList = [c])
    (hc : c ∈ openers ∨ (opening? c).isSome = true) : Inked (.symbol text) := by
  have hspell : (Mark.symbol text).spell = [c] := htext
  have hall : ∀ c ∈ openers ++ closingBrackets, 0x20 ≤ c.toNat ∧ isInkChar c = true := by decide
  refine inked_of_all rfl (by simp [hspell]) fun d hd => ?_
  rw [hspell, List.mem_singleton] at hd
  rw [hd]
  exact hall c (bracket_mem hc)

theorem inked_captured (kind : Text) {text : List Char} (h : Snippet text) :
    Inked (.mark (.captured kind text)) :=
  ⟨List.length_pos_iff.1 h.length_pos, h.printable, fun _ c hc => (h.first c hc).1,
    fun _ c hc => (h.last c hc).1, h.length⟩

/-- Everything that is legible has ink. -/
theorem Legible.inked {inks : List Ink} (h : Legible stack inks) : ∀ i ∈ inks, Inked i := by
  have hgap : Inked .gap := ⟨by decide, by decide, fun h => (h rfl).elim, fun h => (h rfl).elim,
    by decide⟩
  induction h with
  | nil => exact fun _ hi => by cases hi
  | gap _ ih => exact List.forall_mem_cons.2 ⟨hgap, ih⟩
  | name hid _ _ ih => exact List.forall_mem_cons.2 ⟨inked_name hid, ih⟩
  | number hvalue _ _ ih => exact List.forall_mem_cons.2 ⟨inked_number hvalue, ih⟩
  | string hbody _ _ ih => exact List.forall_mem_cons.2 ⟨inked_string hbody, ih⟩
  | keyword htext _ _ ih =>
    exact List.forall_mem_cons.2 ⟨inked_symbol (List.mem_append_left _ htext), ih⟩
  | operator htext _ _ ih =>
    exact List.forall_mem_cons.2 ⟨inked_symbol (List.mem_append_right _ htext), ih⟩
  | ellipsis _ ih => exact List.forall_mem_cons.2 ⟨inked_of_all rfl (by decide) (by decide), ih⟩
  | dot _ _ _ ih => exact List.forall_mem_cons.2 ⟨inked_symbol (by decide), ih⟩
  | opening htext hc _ ih => exact List.forall_mem_cons.2 ⟨inked_bracket htext (.inl hc), ih⟩
  | closing htext hc _ ih =>
    exact List.forall_mem_cons.2 ⟨inked_bracket htext (.inr (by rw [hc]; rfl)), ih⟩
  | captured htext _ _ ih => exact List.forall_mem_cons.2 ⟨inked_captured _ htext, ih⟩

/-! ## What comes next -/

/-- Nothing is to be read, or a blank or a line end comes next. -/
def Pauses (cs : List Char) : Prop := ∀ c ∈ cs.head?, c = '\n' ∨ c = ' '

theorem Next.pause {p : Char → Prop} {inks : List Ink} {after : List Char} (h : Next p inks)
    (hline : p '\n') (hgap : p ' ') (hafter : Pauses after) :
    ∀ c ∈ (spell inks ++ after).head?, p c := by
  intro c hc
  cases hspell : spell inks with
  | nil =>
    rw [hspell, List.nil_append] at hc
    obtain rfl | rfl := hafter c hc
    · exact hline
    · exact hgap
  | cons d tail =>
    rw [hspell] at hc
    exact h c (by rw [hspell]; exact hc)

/-- What holds neither a line feed nor a blank does not go on behind a pause. -/
theorem prefix_pause {front word after : List Char} (hafter : Pauses after) (hline : '\n' ∉ front)
    (hgap : ' ' ∉ front) (h : front <+: word ++ after) : front <+: word := by
  rcases List.prefix_or_prefix_of_prefix h (List.prefix_append word after) with hle | hge
  · exact hle
  · obtain ⟨more, rfl⟩ := hge
    cases more with
    | nil => exact (List.append_nil word).symm ▸ List.prefix_refl word
    | cons c more =>
      rw [List.prefix_append_right_inj] at h
      obtain ⟨rest, rfl⟩ := h
      obtain rfl | rfl := hafter c rfl
      · exact (hline (by simp)).elim
      · exact (hgap (by simp)).elim

/-! ## One step of the scanner -/

/-- The first line of a passage has no indentation if it begins with ink. -/
theorem Scanner.step_line {p : Passage} {c : Char} (hp : p.chars.map (·.char) = c :: cs)
    (hc : isInkChar c = true) (limit : Nat) :
    Scanner.step { rest := p, mostOpen := limit } =
      .more [] { rest := p, lineStart := false, mostOpen := limit } := by
  obtain ⟨chars, stop⟩ := p
  obtain ⟨q, qs, rfl, hqc, -⟩ := List.map_eq_cons_iff.1 hp
  simp only [isInkChar, Bool.and_eq_true, Bool.not_eq_true', bne_iff_ne] at hc
  have hne : ∀ d, (CodePoint.scalar d).isBlank = true → c ≠ d := by
    rintro d hd rfl
    cases hc.1.1.symm.trans hd
  have hindent : indentation ((q :: qs).length + 1) {} 0 (q :: qs) = some ({}, q :: qs) := by
    unfold indentation
    simp only [hqc, hne ' ' rfl, hne '\t' rfl, hne '\x0c' rfl, hc.1.2, if_false, if_true]
  change Scanner.line _ = _
  unfold Scanner.line
  simp only [hindent, List.head?_cons, Option.map_some, hqc, Option.some.injEq, hc.2, hne '\n' rfl,
    or_self, if_false]
  rfl

variable [Setting]

/-- The characters of a passage stand where they do in the source, unless nothing is captured there. -/
def Sited (p : Passage) : Prop :=
  Setting.deep = 0 ∨
    '\r' ∉ Setting.chars ∧ ∃ q, p = placedFrom q (Setting.chars.drop q.offset) ∧ q.OnLine

theorem Sited.drop {p : Passage} (h : Sited p) {n : Nat} (hn : n ≤ p.chars.length) : Sited (p.drop n) := by
  obtain hdeep | ⟨hreturn, q, rfl, hline⟩ := h
  · exact .inl hdeep
  refine .inr ⟨hreturn, ?_⟩
  have hclean : '\r' ∉ Setting.chars.drop q.offset := fun hmem => hreturn (List.mem_of_mem_drop hmem)
  have hlength := congrArg List.length (placedFrom_chars hclean q)
  rw [List.length_map] at hlength
  have htake : ((Setting.chars.drop q.offset).take n).length = n := by
    rw [List.length_take]
    omega
  have hfront : '\r' ∉ (Setting.chars.drop q.offset).take n := fun hmem =>
    hclean (List.mem_of_mem_take hmem)
  obtain ⟨q', hq', hdrop⟩ := placedFrom_drop hfront q ((Setting.chars.drop q.offset).drop n)
  rw [htake, List.take_append_drop] at hdrop
  refine ⟨q', ?_, hline.past (List.take_prefix n _) hq'⟩
  rw [hdrop, hq'.offset, htake, List.drop_drop]

/-- The scanner is within a line, has the brackets open and the characters in front of it. -/
structure Scanner.At (s : Scanner) (stack : List Char) (levels : List Column) (limit : Nat)
    (cs : List Char) : Prop where
  chars : s.rest.chars.map (·.char) = cs
  sited : Sited s.rest
  lineStart : s.lineStart = false
  brackets : s.brackets = stack
  levels : s.levels = levels
  mostOpen : s.mostOpen = limit

/-- The next step gives a token with the mark. -/
def Scanner.Gives (s : Scanner) (m : Mark) (stack : List Char) (levels : List Column) (limit : Nat)
    (cs : List Char) : Prop :=
  ∃ t s', s.step = .more [t] s' ∧ t.lexeme.mark = m ∧ Scanner.At s' stack levels limit cs

theorem Scanner.At.step (h : s.At stack levels limit cs) : s.step = s.inLine := by
  rw [Scanner.step, h.lineStart, if_neg Bool.false_ne_true]

theorem Scanner.At.takeWhile (h : s.At stack levels limit cs) (p : Char → Bool) :
    s.rest.takeWhile p = cs.takeWhile p := by
  rw [← h.chars, List.takeWhile_map]
  rfl

theorem Scanner.At.drop (h : s.At stack levels limit (word ++ cs)) :
    (s.rest.drop word.length).chars.map (·.char) = cs := by
  rw [Passage.drop, List.map_drop, h.chars, List.drop_left]

theorem Scanner.At.tail {c : Char} (h : s.At stack levels limit (c :: cs)) :
    (s.rest.drop 1).chars.map (·.char) = cs := by
  rw [Passage.drop, List.map_drop, h.chars, List.drop_one, List.tail_cons]

theorem Scanner.At.sited_drop (h : s.At stack levels limit (word ++ cs)) :
    Sited (s.rest.drop word.length) := by
  refine h.sited.drop ?_
  have hlength := congrArg List.length h.chars
  rw [List.length_map, List.length_append] at hlength
  omega

theorem Scanner.At.sited_tail {c : Char} (h : s.At stack levels limit (c :: cs)) :
    Sited (s.rest.drop 1) := by
  have hfront : s.At stack levels limit ([c] ++ cs) := h
  exact hfront.sited_drop

theorem Scanner.At.emitWith (h : s.At stack levels limit (word ++ cs)) (stack' : List Char) (lexeme : Lexeme)
    (hstep : s.step = { s with brackets := stack' : Scanner }.emit word.length lexeme) :
    s.Gives lexeme.mark stack' levels limit cs :=
  ⟨_, _, hstep, rfl, h.drop, h.sited_drop, h.lineStart, rfl, h.levels, h.mostOpen⟩

theorem Scanner.At.emit (h : s.At stack levels limit (word ++ cs)) (lexeme : Lexeme)
    (hstep : s.step = s.emit word.length lexeme) : s.Gives lexeme.mark stack levels limit cs :=
  h.brackets ▸ h.emitWith s.brackets lexeme hstep

theorem Scanner.At.step_plain {c : Char} (h : s.At stack levels limit (c :: cs))
    (hc : isPlainStart c = true) (hdot : c = '.' → ∀ d ∈ cs.head?, d.isDigit = false) :
    s.step = s.wordOrSymbol c := by
  obtain ⟨p, ps, hps, hp, hmap⟩ := List.map_eq_cons_iff.1 h.chars
  simp only [isPlainStart, Bool.and_eq_true, Bool.not_eq_true', bne_iff_ne] at hc
  obtain ⟨⟨⟨⟨hspace, hhash⟩, hline⟩, hslash⟩, hdigit⟩ := hc
  have hpoint : ¬ (c = '.' ∧ ps.head?.map (·.char.isDigit) = some true) := by
    rintro ⟨hc, hhead⟩
    have hfalse := hdot hc
    rw [← hmap, List.head?_map] at hfalse
    obtain ⟨q, hq, hq'⟩ := Option.map_eq_some_iff.1 hhead
    rw [hq] at hfalse
    cases (hfalse q.char rfl).symm.trans hq'
  rw [h.step, Scanner.inLine]
  simp only [hps, hp, hspace, hhash, hline, hslash, hdigit, hpoint, if_false, Bool.false_eq_true]

theorem Scanner.At.head_drop (h : s.At stack levels limit (word ++ cs)) :
    (s.rest.drop word.length).chars.head?.map (·.char) = cs.head? := by
  rw [← List.head?_map, h.drop]

/-- A run of word characters in front of a character that ends it is a word. -/
theorem Scanner.At.step_word (h : s.At stack levels limit (word ++ cs)) (hne : word ≠ [])
    (hword : ∀ c ∈ word, isWordChar c = true) (hstart : ∀ c ∈ word.head?, c.isDigit = false)
    (hnext : ∀ c ∈ cs.head?, c ∈ enders) : s.step = s.word word := by
  have htake : s.rest.takeWhile isWordChar = word := by
    rw [h.takeWhile]
    exact takeWhile_exact hword fun c hc => (enders_not_wordChar (hnext c hc)).1
  have hhead := h.head_drop
  obtain ⟨c, tail, rfl⟩ := List.exists_cons_of_ne_nil hne
  obtain ⟨hplain, hdot⟩ := isPlainStart_of_word (hword c List.mem_cons_self) (hstart c rfl)
  rw [Scanner.At.step_plain h hplain fun hc => (hdot hc).elim, Scanner.wordOrSymbol, htake]
  cases hcs : cs.head? with
  | none =>
    rw [hcs] at hhead
    simp only [hhead]
    rfl
  | some q =>
    rw [hcs] at hhead
    simp only [hhead, (enders_not_wordChar (hnext q hcs)).2, if_false]
    rfl

/-- A name in its normal form is read as such. -/
theorem Scanner.At.name {id : Text} (h : s.At stack levels limit ((Mark.name id).spell ++ cs))
    (hid : id.isNormalName = true) (hnext : ∀ c ∈ cs.head?, c ∈ enders) :
    s.Gives (.name id) stack levels limit cs := by
  obtain ⟨word, rfl, hbindable, hnormal⟩ := Text.isNormalName_eq hid
  rw [Mark.spell, filterMap_char_ofChars] at h
  rw [Text.isBindable, Bool.and_eq_true, Bool.not_eq_true'] at hbindable
  obtain ⟨hidentifier, hkeyword⟩ := hbindable
  cases word with
  | nil => cases hidentifier
  | cons c tail =>
    have hparts := hidentifier
    rw [Text.ofChars, List.map_cons, Text.isIdentifier, Bool.and_eq_true, List.all_eq_true] at hparts
    have hbegins := isWordChar_of_begins hparts.1
    have hword : ∀ d ∈ c :: tail, isWordChar d = true := List.forall_mem_cons.2 ⟨hbegins.1, fun d hd =>
      isWordChar_of_continues (hparts.2 _ (List.mem_map_of_mem hd))⟩
    have hstep := h.step_word (by simp) hword (fun d hd => by cases hd; exact hbegins.2) hnext
    refine h.emit (.name (Text.ofChars (c :: tail))) (hstep.trans ?_)
    rw [Scanner.word]
    split
    · have hnot : keywords.contains (String.ofList (c :: tail)) = false := by
        rw [← Bool.not_eq_true]
        intro hcontains
        rw [Text.isKeyword, List.any_eq_false] at hkeyword
        refine hkeyword _ (List.contains_iff_mem.1 hcontains) ?_
        rw [Text.ofString, String.toList_ofList]
        exact beq_self_eq_true _
      simp only [hnot, Bool.false_eq_true, if_false]
    · rw [hnormal]

/-- A keyword is read as a symbol. -/
theorem Scanner.At.keyword {text : String} (h : s.At stack levels limit (text.toList ++ cs))
    (htext : text ∈ keywords) (hnext : ∀ c ∈ cs.head?, c ∈ enders) :
    s.Gives (.symbol text) stack levels limit cs := by
  have hall : ∀ text ∈ keywords, text.toList ≠ [] ∧ (∀ c ∈ text.toList, isWordChar c = true) ∧
      (∀ c ∈ text.toList.head?, c.isDigit = false) ∧ text.toList.all (·.toNat < 0x80) = true := by
    decide
  obtain ⟨hne, hword, hstart, hascii⟩ := hall text htext
  refine h.emit (.symbol text) ((h.step_word hne hword hstart hnext).trans ?_)
  have hcontains : keywords.contains text = true := List.contains_iff_mem.2 htext
  rw [Scanner.word, if_pos hascii]
  simp only [String.ofList_toList, hcontains, if_true]

/-- A numeral is read as its number. -/
theorem Scanner.At.number {value : Number} (h : s.At stack levels limit (word ++ cs))
    (hvalue : value.Numeral word) (hnext : ∀ c ∈ cs.head?, c ∈ enders ∧ c ≠ '.') :
    s.Gives (.number value) stack levels limit cs := by
  have hstop : ∀ c ∈ cs.head?, isNumeralChar c = false := fun c hc => by
    have hall : ∀ c ∈ enders, c ≠ '.' → isNumeralChar c = false := by decide
    exact hall c (hnext c hc).1 (hnext c hc).2
  have htake : s.rest.takeWhile isNumeralChar = word := by
    rw [h.takeWhile, takeWhile_exact (fun c hc => (hvalue.chars c hc).1) hstop]
  have hnumeral : s.numeral = s.emit word.length (.number value) := by
    simp only [Scanner.numeral, htake, hvalue.read, List.length_nil, Nat.sub_zero]
  refine h.emit (.number value) (Eq.trans ?_ hnumeral)
  obtain ⟨c, tail, rfl, hc⟩ := hvalue.digit
  obtain ⟨p, ps, hps, hp, -⟩ := List.map_eq_cons_iff.1 h.chars
  have hne : ∀ d, d.isDigit = false → c ≠ d := by
    rintro d hd rfl
    cases hc.symm.trans hd
  rw [h.step, Scanner.inLine]
  simp only [hps, hp, hc, isSpace, hne ' ' rfl, hne '\t' rfl, hne '\x0c' rfl, hne '#' rfl,
    hne '\n' rfl, hne '\\' rfl, if_true, if_false, decide_false, Bool.or_false, Bool.false_eq_true]

/-- A string literal is read with its body. -/
theorem Scanner.At.string {body : List Char}
    (h : s.At stack levels limit ((Mark.string body).spell ++ cs)) (hbody : StringBody body)
    (hnext : ∀ c ∈ cs.head?, c ∈ enders) : s.Gives (.string body) stack levels limit cs := by
  have hchars : s.rest.chars.map (·.char) = '"' :: (body ++ '"' :: cs) := by
    rw [h.chars, Mark.spell, List.append_assoc]
    rfl
  have htriple : startsWith ['"', '"', '"'] (s.rest.drop 0).chars = false := by
    rw [startsWith_eq, Passage.drop, List.drop_zero, hchars, hbody.not_triple hnext]
  have hinside : (s.rest.drop 1).chars.map (·.char) = body ++ '"' :: cs := by
    rw [Passage.drop, List.map_drop, hchars]
    rfl
  have hlength := hbody.stringLength hinside 0
  have hstring : s.step = s.string {} 0 '"' := by
    have htake : s.rest.takeWhile isWordChar = [] := by
      rw [h.takeWhile]
      rfl
    have hhead : (s.rest.drop 0).chars.head?.map (·.char) = some '"' := by
      rw [← List.head?_map, Passage.drop, List.drop_zero, hchars]
      rfl
    rw [Scanner.At.step_plain h (by decide) (fun hc => by cases hc), Scanner.wordOrSymbol, htake]
    simp only [List.length_nil, hhead]
    rfl
  have hmark : (Lexeme.string {} ⟨(s.rest.drop 1).chars.take body.length,
      ((s.rest.drop 1).drop body.length).here⟩).mark = .string body := by
    rw [Lexeme.mark, if_pos rfl, List.map_take, hinside, List.take_left]
  have hwidth : (Mark.string body).spell.length = 1 + body.length + 1 := by
    simp [Mark.spell]
    omega
  rw [← hmark]
  refine h.emit _ (hstring.trans ?_)
  rw [Scanner.string, htriple, hwidth]
  simp only [Bool.false_eq_true, if_false, Nat.zero_add, hlength]

/-- The characters with which an operator or a bracket begins. -/
theorem Scanner.At.step_symbol {c : Char} (tail : List Char) (h : s.At stack levels limit (c :: tail ++ cs))
    (hc : isPlainStart c = true ∧ isWordChar c = false ∧ ¬ (c = '"' ∨ c = '\''))
    (hdot : c = '.' → ∀ d ∈ (tail ++ cs).head?, d.isDigit = false)
    (hfind : symbols.find? (·.isPrefixOf (c :: tail ++ cs)) = some (c :: tail)) :
    s.step = s.symbol c ∧ symbols.find? (startsWith · s.rest.chars) = some (c :: tail) := by
  have htake : s.rest.takeWhile isWordChar = [] := by
    rw [h.takeWhile, List.cons_append, List.takeWhile_cons, hc.2.1, if_neg Bool.false_ne_true]
  have hhead : (s.rest.drop 0).chars.head?.map (·.char) = some c := by
    rw [← List.head?_map, Passage.drop, List.drop_zero, h.chars]
    rfl
  constructor
  · rw [Scanner.At.step_plain h hc.1 hdot, Scanner.wordOrSymbol, htake]
    simp only [List.length_nil, hhead, hc.2.2, if_false]
    rfl
  · simpa only [startsWith_eq, h.chars] using hfind

/-- An operator in front of a character that it cannot go on with. -/
theorem Scanner.At.operator {text : String} (h : s.At stack levels limit (text.toList ++ cs))
    (htext : text ∈ operators)
    (hnext : ∀ c ∈ cs.head?, text = "," ∨
      c ∉ extenders ∧ (text = "." → c ≠ '.' ∧ c.isDigit = false)) :
    s.Gives (.symbol text) stack levels limit cs := by
  have hall : ∀ text ∈ operators, symbols.find? (·.isPrefixOf text.toList) = some text.toList ∧
      ∀ t ∈ symbols, text.toList.isPrefixOf t = true →
        ∀ c ∈ (t.drop text.toList.length).head?,
          (c ∈ extenders ∨ text = "." ∧ c = '.') ∧ text ≠ "," := by
    decide +kernel
  have hstart : ∀ text ∈ operators, text.toList ≠ [] ∧ ∀ c ∈ text.toList.head?,
      (isPlainStart c = true ∧ isWordChar c = false ∧ ¬ (c = '"' ∨ c = '\'')) ∧
      ¬ (c = '(' ∨ c = '[' ∨ c = '{') ∧ opening? c = none ∧
      (c = '.' → text = "." ∧ text.toList.tail = []) := by
    decide +kernel
  obtain ⟨hfind, hlonger⟩ := hall text htext
  obtain ⟨hne, hfirst⟩ := hstart text htext
  obtain ⟨c, tail, htoList⟩ := List.exists_cons_of_ne_nil hne
  obtain ⟨hc, hopener, hcloser, hdot⟩ := hfirst c (by rw [htoList]; rfl)
  have hlongest := find_symbols cs hfind fun more hmore ht hprefix => by
    obtain ⟨d, more, rfl⟩ := List.exists_cons_of_ne_nil hmore
    obtain ⟨hin, hcomma⟩ := hlonger _ ht (by simp) d (by simp)
    obtain ⟨rest, rfl⟩ := hprefix
    rcases hnext d rfl with htext | ⟨hout, hdot⟩
    · exact hcomma htext
    · rcases hin with hin | ⟨htext, rfl⟩
      · exact hout hin
      · exact (hdot htext).1 rfl
  rw [htoList] at h hlongest hdot
  have hpoint : c = '.' → ∀ d ∈ (tail ++ cs).head?, d.isDigit = false := by
    intro hpoint d hd
    obtain ⟨htext', htail⟩ := hdot hpoint
    rw [List.tail_cons] at htail
    rw [htail, List.nil_append] at hd
    rcases hnext d hd with hcomma | ⟨-, hdigit⟩
    · exact absurd (htext'.symm.trans hcomma) (by decide)
    · exact (hdigit htext').2
  obtain ⟨hstep, hsymbol⟩ := h.step_symbol tail hc hpoint hlongest
  refine h.emit (.symbol text) (hstep.trans ?_)
  rw [Scanner.symbol, hsymbol]
  simp only [hopener, hcloser, if_false]
  rw [← htoList, String.ofList_toList]

/-- Three dots are one symbol whatever follows, and a dot is one in front of anything but two more. -/
theorem Scanner.At.dots {text : String} (h : s.At stack levels limit (text.toList ++ cs))
    (htext : text = "..." ∨ text = "." ∧ (∀ c ∈ cs.head?, c.isDigit = false) ∧ ¬ ['.', '.'] <+: cs) :
    s.Gives (.symbol text) stack levels limit cs := by
  have hall : ∀ t ∈ symbols, ['.'].isPrefixOf t = true → t.drop 1 = [] ∨ t.drop 1 = ['.', '.'] := by
    decide +kernel
  have hmore : ∀ word, ['.'] <+: word → symbols.find? (·.isPrefixOf word) = some word →
      (word = ['.', '.', '.'] ∨ word = ['.'] ∧ ¬ ['.', '.'] <+: cs) →
      symbols.find? (·.isPrefixOf (word ++ cs)) = some word := by
    rintro word ⟨tail, rfl⟩ hfind hword
    refine find_symbols cs hfind fun more hne ht hprefix => ?_
    have hrest := hall _ ht (by simp)
    rcases hword with hword | ⟨hword, hnot⟩
    · obtain rfl : tail = ['.', '.'] := by simpa using hword
      simp [hne] at hrest
    · obtain rfl : tail = [] := by simpa using hword
      rcases hrest with hrest | hrest
      · exact hne hrest
      · exact hnot (hrest ▸ hprefix)
  obtain ⟨tail, htail, hpoint, hfind⟩ : ∃ tail, text.toList = '.' :: tail ∧
      (∀ d ∈ (tail ++ cs).head?, d.isDigit = false) ∧
      symbols.find? (·.isPrefixOf ('.' :: tail ++ cs)) = some ('.' :: tail) := by
    rcases htext with rfl | ⟨rfl, hdigit, hnot⟩
    · exact ⟨['.', '.'], by decide, fun d hd => by cases hd; rfl,
        hmore ['.', '.', '.'] (by decide) (by decide +kernel) (.inl rfl)⟩
    · exact ⟨[], by decide, hdigit, hmore ['.'] (by decide) (by decide +kernel) (.inr ⟨rfl, hnot⟩)⟩
  rw [htail] at h
  obtain ⟨hstep, hsymbol⟩ := h.step_symbol tail (by decide) (fun _ => hpoint) hfind
  have hlexeme : String.ofList ('.' :: tail) = text := by rw [← htail, String.ofList_toList]
  rw [← hlexeme]
  refine h.emit (.symbol (String.ofList ('.' :: tail))) (hstep.trans ?_)
  rw [Scanner.symbol, hsymbol]
  rfl

theorem Scanner.At.opening {text : String} {c : Char} (h : s.At stack levels limit (text.toList ++ cs))
    (htext : text.toList = [c]) (hc : c ∈ openers) (hlimit : stack.length < limit) :
    s.Gives (.symbol text) (c :: stack) levels limit cs := by
  rw [htext] at h
  obtain ⟨⟨hplain, hword, hquote, hdot⟩, hfind⟩ := find_bracket (.inl hc) cs
  obtain ⟨hstep, hsymbol⟩ := h.step_symbol [] ⟨hplain, hword, hquote⟩
    (fun hpoint => (hdot hpoint).elim) hfind
  have hbracket : c = '(' ∨ c = '[' ∨ c = '{' := by simpa [openers] using hc
  have hopen : s.brackets.length < s.mostOpen := by rw [h.brackets, h.mostOpen]; exact hlimit
  have hlexeme : String.ofList [c] = text := by rw [← htext, String.ofList_toList]
  rw [← hlexeme]
  refine h.emitWith (c :: stack) (.symbol (String.ofList [c])) (hstep.trans ?_)
  rw [Scanner.symbol, hsymbol, ← h.brackets]
  simp only [hbracket, hopen, if_true]

theorem Scanner.At.closing {text : String} {c left : Char}
    (h : s.At (left :: stack) levels limit (text.toList ++ cs)) (htext : text.toList = [c])
    (hc : opening? c = some left) : s.Gives (.symbol text) stack levels limit cs := by
  rw [htext] at h
  obtain ⟨⟨hplain, hword, hquote, hdot⟩, hfind⟩ := find_bracket (c := c) (.inr (by rw [hc]; rfl)) cs
  obtain ⟨hstep, hsymbol⟩ := h.step_symbol [] ⟨hplain, hword, hquote⟩
    (fun hpoint => (hdot hpoint).elim) hfind
  have hbracket : ¬ (c = '(' ∨ c = '[' ∨ c = '{') := by
    rintro (rfl | rfl | rfl) <;> cases hc
  have hhead : s.brackets.head? = some left := by rw [h.brackets]; rfl
  have hlexeme : String.ofList [c] = text := by rw [← htext, String.ofList_toList]
  rw [← hlexeme]
  refine h.emitWith stack (.symbol (String.ofList [c])) (hstep.trans ?_)
  rw [Scanner.symbol, hsymbol]
  simp only [hbracket, hc, hhead, if_true, if_false]
  rw [h.brackets]
  rfl

/-! ## Runs of the scanner -/

/-- A passage ends where nothing is left and all brackets are closed. -/
theorem Scanner.At.tokens_end (h : s.At [] levels limit []) (fuel : Nat) :
    s.tokens (fuel + 1) = some [] := by
  have hstep : s.step = .done := by
    rw [h.step, Scanner.inLine, List.map_eq_nil_iff.1 h.chars, h.brackets]
    rfl
  rw [Scanner.tokens]
  simp only [hstep]

/-- In front of any other tokens, tokens are what marks stand for; if one of these is captured, there are
others. -/
def Stands (tokens : List Token) (ms : List Mark) : Prop :=
  ∀ ts ms', (ts = [] → Setting.deep = 0) → Shows ts ms' → Shows (tokens ++ ts) (ms ++ ms')

theorem Stands.nil : Stands [] [] := fun _ _ _ h => h

theorem Stands.cons {t : Token} {tokens : List Token} {ms : List Mark} (h : Stands tokens ms) :
    Stands (t :: tokens) (t.lexeme.mark :: ms) := fun ts ms' hts hshows => .token (h ts ms' hts hshows)

theorem Stands.shows {t : Token} {tokens : List Token} {ms : List Mark} (h : Stands tokens ms) :
    Shows (tokens ++ [t]) (ms ++ [t.lexeme.mark]) :=
  h [t] [t.lexeme.mark] nofun (.token .nil)

/-- Within some number of steps the scanner gives the marks. -/
def Scanner.Reads (s : Scanner) (most : Nat) (ms : List Mark) (stack : List Char)
    (levels : List Column) (limit : Nat) (cs : List Char) : Prop :=
  ∃ steps tokens s', steps ≤ most ∧ s.Reaches steps tokens s' ∧ Stands tokens ms ∧
    Scanner.At s' stack levels limit cs

theorem Scanner.Reads.mono {m n : Nat} {ms : List Mark} (h : s.Reads m ms stack levels limit cs)
    (hmn : m ≤ n) : s.Reads n ms stack levels limit cs := by
  obtain ⟨steps, tokens, s', hsteps, hrest⟩ := h
  exact ⟨steps, tokens, s', Nat.le_trans hsteps hmn, hrest⟩

theorem Scanner.Gives.reads {m : Mark} {ms : List Mark} {most : Nat} {stack' : List Char}
    {cs' : List Char} (h : s.Gives m stack levels limit cs)
    (hrest : ∀ s' : Scanner, s'.At stack levels limit cs →
      s'.Reads most ms stack' levels limit cs') :
    s.Reads (most + 1) (m :: ms) stack' levels limit cs' := by
  obtain ⟨t, s', hstep, rfl, hat⟩ := h
  obtain ⟨steps, tokens, s'', hsteps, hreaches, hstands, hat'⟩ := hrest s' hat
  exact ⟨steps + 1, [t] ++ tokens, s'', Nat.succ_le_succ hsteps,
    (Scanner.Reaches.step hstep).trans hreaches, hstands.cons, hat'⟩

theorem Scanner.At.step_gap (h : s.At stack levels limit (' ' :: cs)) :
    ∃ s', s.step = .more [] s' ∧ Scanner.At s' stack levels limit cs := by
  obtain ⟨p, ps, hps, hp, hmap⟩ := List.map_eq_cons_iff.1 h.chars
  refine ⟨{ s with rest := s.rest.drop 1 }, ?_,
    h.tail, h.sited_tail, h.lineStart, h.brackets, h.levels, h.mostOpen⟩
  rw [h.step, Scanner.inLine]
  simp only [hps, hp]
  rfl

theorem Scanner.At.reads_gap {ms : List Mark} {most : Nat} {stack' : List Char} {cs' : List Char}
    (h : s.At stack levels limit (' ' :: cs))
    (hrest : ∀ s' : Scanner, s'.At stack levels limit cs →
      s'.Reads most ms stack' levels limit cs') : s.Reads (most + 1) ms stack' levels limit cs' := by
  obtain ⟨s', hstep, hat⟩ := h.step_gap
  obtain ⟨steps, tokens, s'', hsteps, hreaches, hstands, hat'⟩ := hrest s' hat
  exact ⟨steps + 1, [] ++ tokens, s'', Nat.succ_le_succ hsteps,
    (Scanner.Reaches.step hstep).trans hreaches, hstands, hat'⟩

/-- A captured piece is read as the tokens of its text alone. -/
theorem Scanner.At.captured {kind : Text} {text : List Char} {ms : List Mark} {most : Nat}
    {stack' : List Char} {cs' : List Char} (h : s.At stack levels limit (text ++ cs))
    (htext : Snippet text) (hdeep : (excerpt text).length ≤ Setting.deep)
    (hlimit : stack.length + bracketsIn text ≤ limit)
    (hnext : ∀ c ∈ cs.head?, c ∈ enders ∧
      (c = '.' → ∀ d ∈ text.getLast?, d ∈ closingBrackets ++ ['"', '\'']))
    (hrest : ∀ s' : Scanner, s'.At stack levels limit cs →
      s'.Reads most ms stack' levels limit cs') :
    s.Reads (most + text.length) (.captured kind text :: ms) stack' levels limit cs' := by
  have hpos := List.length_pos_iff.2 htext.nonempty
  obtain hzero | ⟨hreturn, q, hq, hline⟩ := h.sited
  · omega
  have hclean : '\r' ∉ Setting.chars.drop q.offset := fun hmem => hreturn (List.mem_of_mem_drop hmem)
  have hchars : Setting.chars.drop q.offset = text ++ cs := by
    rw [← placedFrom_chars hclean q, ← hq, h.chars]
  have hbeside : s.Beside q text stack levels limit cs text
      { rest := placed text, lineStart := false, mostOpen := bracketsIn text } :=
    ⟨⟨[], q, {}, rfl, ⟨rfl, rfl⟩, rfl, by rw [← hchars, hq], rfl⟩, hchars ▸ hclean, h.lineStart, rfl,
      h.brackets, h.levels, h.mostOpen, by dsimp only; omega⟩
  have hjoint : Joint text cs := ⟨htext.printable, fun c hc => (htext.last c hc).2,
    fun c hc => (hnext c hc).1, fun c hc hdot => (hnext '.' hdot).2 rfl c hc⟩
  have htokens : excerptWithin (bracketsIn text) text = some (excerpt text) :=
    excerptWithin_eq htext.nonempty
  obtain ⟨steps, T, s', s₀', hsteps, hreaches, hT, hbeside', hbrackets⟩ :=
    hbeside.reaches (fun _ => hjoint) htokens htext.unformatted
      (fun t ht => (htext.ends t ht).1) fun _ => htext.nonempty
  have hat : s'.At stack levels limit cs := by
    obtain ⟨front, q', -, hfront, hpast, -, hrest, -⟩ := hbeside'.place
    rw [List.append_nil] at hfront
    subst hfront
    refine ⟨hbeside'.chars, .inr ⟨hreturn, q', ?_, hline.past (hchars ▸ List.prefix_append _ cs) hpast⟩,
      hbeside'.inLine, ?_, hbeside'.levels, hbeside'.mostOpen⟩
    · rw [hrest, hpast.offset, ← List.drop_drop, hchars, List.drop_left, List.nil_append]
    · rw [hbeside'.brackets, hbrackets, List.nil_append]
  obtain ⟨steps', us, s'', hsteps', hreaches', hstands, hat'⟩ := hrest s' hat
  refine ⟨steps' + steps, T ++ us, s'', Nat.add_le_add hsteps' hsteps, hreaches.trans hreaches',
    fun ts ms' hts hshows => ?_, hat'⟩
  have hbehind := hstands ts ms' hts hshows
  obtain ⟨y, ys, hys⟩ := List.exists_cons_of_ne_nil (l := us ++ ts) fun hnil => by
    have hzero := hts (List.append_eq_nil_iff.1 hnil).2
    omega
  rw [List.append_assoc, List.cons_append, hys]
  exact .captured hT htext.nonempty hdeep (hchars ▸ List.prefix_append text cs) hline
    (hys ▸ hbehind)

/-! ## Whole lines -/

theorem Scanner.Gives.reads_spell {m : Mark} {inks : List Ink} {stack' : List Char} {cs' : List Char}
    (h : s.Gives m stack levels limit cs) (hm : Inked (.mark m))
    (hrest : ∀ s' : Scanner, s'.At stack levels limit cs →
      s'.Reads (spell inks).length (marks inks) stack' levels limit cs') :
    s.Reads (spell (.mark m :: inks)).length (marks (.mark m :: inks)) stack' levels limit cs' := by
  refine (h.reads hrest).mono ?_
  have hpos := List.length_pos_iff.2 hm.nonempty
  rw [spell_cons, List.length_append]
  omega

/-- What is legible is read as the marks that are written, up to a pause. -/
theorem Legible.reads {inks : List Ink} {after : List Char} (h : Legible stack inks)
    (hafter : Pauses after) (hdepth : depth stack.length inks ≤ limit)
    (hdeep : ∀ m ∈ marks inks, m.size ≤ Setting.deep)
    (hs : s.At stack levels limit (spell inks ++ after)) :
    s.Reads (spell inks).length (marks inks) [] levels limit after := by
  induction h generalizing s with
  | nil => exact ⟨0, [], s, Nat.le_refl 0, .refl s, .nil, hs⟩
  | gap _ ih => exact hs.reads_gap fun s' hs' => ih hdepth hdeep hs'
  | name hid hnext _ ih =>
    have hrest := Nat.le_trans (depth_same rfl _) hdepth
    rw [spell_cons, List.append_assoc] at hs
    exact (hs.name hid (hnext.pause (by decide) (by decide) hafter)).reads_spell (inked_name hid)
      fun s' hs' => ih hrest (List.forall_mem_cons.1 hdeep).2 hs'
  | number hvalue hnext _ ih =>
    have hrest := Nat.le_trans (depth_same rfl _) hdepth
    rw [spell_cons, List.append_assoc] at hs
    exact (hs.number hvalue (hnext.pause (by decide) (by decide) hafter)).reads_spell
      (inked_number hvalue) fun s' hs' => ih hrest (List.forall_mem_cons.1 hdeep).2 hs'
  | string hbody hnext _ ih =>
    have hrest := Nat.le_trans (depth_same rfl _) hdepth
    rw [spell_cons, List.append_assoc] at hs
    exact (hs.string hbody (hnext.pause (by decide) (by decide) hafter)).reads_spell
      (inked_string hbody) fun s' hs' => ih hrest (List.forall_mem_cons.1 hdeep).2 hs'
  | keyword htext hnext _ ih =>
    have hsame := openAfter_symbol (List.mem_append_left operators htext)
    have hrest := Nat.le_trans (depth_same (hsame _) _) hdepth
    rw [spell_cons, List.append_assoc] at hs
    exact (hs.keyword htext (hnext.pause (by decide) (by decide) hafter)).reads_spell
      (inked_symbol (List.mem_append_left _ htext))
      fun s' hs' => ih hrest (List.forall_mem_cons.1 hdeep).2 hs'
  | operator htext hnext _ ih =>
    have hsame := openAfter_symbol (List.mem_append_right keywords htext)
    have hrest := Nat.le_trans (depth_same (hsame _) _) hdepth
    rw [spell_cons, List.append_assoc] at hs
    exact (hs.operator htext (hnext.pause (.inr ⟨by decide, fun _ => by decide⟩)
      (.inr ⟨by decide, fun _ => by decide⟩) hafter)).reads_spell
      (inked_symbol (List.mem_append_right _ htext))
      fun s' hs' => ih hrest (List.forall_mem_cons.1 hdeep).2 hs'
  | ellipsis _ ih =>
    have hrest := Nat.le_trans (depth_same rfl _) hdepth
    rw [spell_cons, List.append_assoc] at hs
    exact (hs.dots (.inl rfl)).reads_spell (inked_of_all rfl (by decide) (by decide))
      fun s' hs' => ih hrest (List.forall_mem_cons.1 hdeep).2 hs'
  | dot hnext hmore _ ih =>
    have hrest := Nat.le_trans (depth_same (openAfter_symbol (by decide) _) _) hdepth
    rw [spell_cons, List.append_assoc] at hs
    refine (hs.dots (.inr ⟨rfl, hnext.pause rfl rfl hafter, fun hprefix => ?_⟩)).reads_spell
      (inked_symbol (by decide)) fun s' hs' => ih hrest (List.forall_mem_cons.1 hdeep).2 hs'
    exact hmore (prefix_pause hafter (by decide) (by decide) hprefix)
  | opening htext hc _ ih =>
    rw [depth_opening htext hc] at hdepth
    have hlimit := Nat.le_trans (le_depth _ _) hdepth
    rw [spell_cons, List.append_assoc] at hs
    exact (hs.opening htext hc hlimit).reads_spell (inked_bracket htext (.inl hc))
      fun s' hs' => ih hdepth (List.forall_mem_cons.1 hdeep).2 hs'
  | closing htext hc _ ih =>
    have hrest := Nat.le_trans (depth_closing htext hc) hdepth
    rw [spell_cons, List.append_assoc] at hs
    exact (hs.closing htext hc).reads_spell (inked_bracket htext (.inr (by rw [hc]; rfl)))
      fun s' hs' => ih hrest (List.forall_mem_cons.1 hdeep).2 hs'
  | captured htext hnext _ ih =>
    have hrest := Nat.le_trans (depth_same rfl _) hdepth
    have hlimit := Nat.le_trans (Nat.le_max_left _ _) hdepth
    obtain ⟨hsize, hdeep⟩ := List.forall_mem_cons.1 hdeep
    rw [spell_cons, List.append_assoc] at hs
    refine (hs.captured htext hsize hlimit (hnext.pause ?_ ?_ hafter)
      fun s' hs' => ih hrest hdeep hs').mono ?_
    · exact ⟨by decide, fun h => absurd h (by decide)⟩
    · exact ⟨by decide, fun h => absurd h (by decide)⟩
    · exact Nat.le_of_eq (by rw [spell_cons, List.length_append, Nat.add_comm])

/-- The tokens of a passage begin with the marks that are legible at its start, up to a pause. -/
theorem Legible.front {m : Mark} {inks : List Ink} (h : Legible [] (.mark m :: inks))
    (hdepth : depth 0 (.mark m :: inks) ≤ limit)
    (hdeep : ∀ m' ∈ marks (.mark m :: inks), m'.size ≤ Setting.deep) {p : Passage} {after : List Char}
    (hp : p.chars.map (·.char) = spell (.mark m :: inks) ++ after) (hsited : Sited p)
    (hafter : Pauses after) :
    ∃ (tokens : List Token) (s' : Scanner) (fuel : Nat),
      Scanner.tokens (3 * p.chars.length + 3) { rest := p, mostOpen := limit } =
        (s'.tokens (fuel + 1)).map (tokens ++ ·) ∧
      Stands tokens (marks (.mark m :: inks)) ∧ s'.At [] [] limit after := by
  have hlength := congrArg List.length hp
  rw [List.length_map, List.length_append] at hlength
  obtain ⟨hne, -, hfirst, -, -⟩ := h.inked _ List.mem_cons_self
  obtain ⟨c, tail, htail⟩ := List.exists_cons_of_ne_nil hne
  have hc := hfirst (by simp) c (by rw [htail]; rfl)
  have hchars : p.chars.map (·.char) = c :: (tail ++ spell inks ++ after) := by
    rw [hp, spell_cons, htail]
    rfl
  have hat : Scanner.At { rest := p, lineStart := false, mostOpen := limit } [] [] limit
      (spell (.mark m :: inks) ++ after) := ⟨hp, hsited, rfl, rfl, rfl, rfl⟩
  obtain ⟨steps, tokens, s', hsteps, hreaches, hstands, hend⟩ := h.reads hafter hdepth hdeep hat
  obtain ⟨k, hk⟩ : ∃ k, 3 * p.chars.length + 3 = k + 1 + (steps + 1) :=
    ⟨3 * p.chars.length + 3 - (steps + 2), by omega⟩
  refine ⟨tokens, s', k, ?_, hstands, hend⟩
  rw [hk, (Scanner.Reaches.step (Scanner.step_line hchars hc limit)).trans hreaches]
  simp

/-- A legible passage that begins with a mark is read as its marks, if nothing in it is captured. -/
theorem Legible.tokenize {m : Mark} {inks : List Ink} (h : Legible [] (.mark m :: inks))
    (hdepth : depth 0 (.mark m :: inks) ≤ limit)
    (hdeep : ∀ m' ∈ marks (.mark m :: inks), m'.size ≤ Setting.deep) (hnone : Setting.deep = 0)
    {p : Passage} (hp : p.chars.map (·.char) = spell (.mark m :: inks)) :
    ∃ tokens, Scanner.tokens (3 * p.chars.length + 3) { rest := p, mostOpen := limit } = some tokens ∧
      Shows tokens (marks (.mark m :: inks)) := by
  obtain ⟨tokens, s', fuel, htokens, hstands, hend⟩ :=
    h.front hdepth hdeep (hp.trans (List.append_nil _).symm) (.inl hnone) fun _ hc => by cases hc
  refine ⟨tokens, ?_, ?_⟩
  · rw [htokens, hend.tokens_end fuel]
    simp
  · have hshows := hstands [] [] (fun _ => hnone) .nil
    rwa [List.append_nil, List.append_nil] at hshows

end Refactory.Grammar
