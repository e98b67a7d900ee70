import Mathlib.Algebra.Ring.Parity
import Mathlib.Data.List.DropRight
import Refactory.Proofs.Grammar.Literal

/-! # Escaping and its inverse

Escaping is a chain of replacements over the whole text (`Text.escaped_eq_passes`), and each point
comes out of it in one of three ways (`Spelling`). So the escaped text is a body between its quotes,
in which a backslash takes the next character along (`LiteralBody`), and reading it gives the text
back. With doubled braces it is the body of a formatted string without fields. -/

namespace Refactory

/-! ## Replacements -/

/-- The text with every `c` replaced by `word`. -/
def Text.replaced (t : Text) (c : CodePoint) (word : Text) : Text :=
  t.flatMap fun d => if d = c then word else [d]

/-- The replacements for a delimiter, in the order in which they are made. The backslash comes first,
so that those that the later ones insert are not doubled. -/
def Quote.passes : Quote → List (CodePoint × Text)
  | double => [('\\', "\\\\"), ('"', "\\\""), ('\n', "\\n"), ('\r', "\\r"), ('\t', "\\t")]
  | single => [('\\', "\\\\"), ('\n', "\\n"), ('\r', "\\r"), ('\t', "\\t"), ('\'', "\\'")]
  | other => [('\\', "\\\\"), ('\n', "\\n"), ('\r', "\\r"), ('\t', "\\t")]

/-- A point as its number, if it is a control character or a surrogate. -/
def CodePoint.numbered (c : CodePoint) : Text :=
  if c.isControl then "\\x" ++ Text.hex 2 c.val
  else if c.isSurrogate then "\\u" ++ Text.hex 4 c.val
  else [c]

/-- The replacements one after the other, and then the numbers of what is left. -/
def Text.passed (t : Text) (quote : Quote) : Text :=
  (quote.passes.foldl (fun t pass => t.replaced pass.1 pass.2) t).flatMap CodePoint.numbered

namespace Text

theorem replaced_append (s t : Text) (c : CodePoint) (word : Text) :
    (s ++ t).replaced c word = s.replaced c word ++ t.replaced c word := List.flatMap_append

theorem passed_append (s t : Text) (quote : Quote) :
    (s ++ t).passed quote = s.passed quote ++ t.passed quote := by
  unfold passed
  induction quote.passes generalizing s t with
  | nil => exact List.flatMap_append
  | cons pass passes ih => rw [List.foldl_cons, replaced_append, ih]; rfl

theorem replaced_of_ne {c d : CodePoint} (word : Text) (h : d ≠ c) : replaced [d] c word = [d] := by
  simp [replaced, h]

/-- A point that no replacement is made for is written as itself or as its number. -/
theorem passed_singleton {quote : Quote} {c : CodePoint} (h : ∀ pass ∈ quote.passes, c ≠ pass.1) :
    passed [c] quote = c.numbered := by
  unfold passed
  generalize quote.passes = passes at h
  induction passes with
  | nil => exact List.flatMap_singleton ..
  | cons pass passes ih =>
    rw [List.forall_mem_cons] at h
    rw [List.foldl_cons, replaced_of_ne pass.2 h.1]
    exact ih h.2

end Text

theorem CodePoint.escaped_eq_passes (quote : Quote) (c : CodePoint) :
    c.escaped quote = Text.passed [c] quote := by
  by_cases hpass : ∀ pass ∈ quote.passes, c ≠ pass.1
  · rw [Text.passed_singleton hpass]
    cases quote <;>
      simp [Quote.passes] at hpass <;>
      cases c <;> simp [CodePoint.escaped, CodePoint.numbered, CodePoint.isSurrogate, hpass]
  · push Not at hpass
    obtain ⟨pass, hmem, rfl⟩ := hpass
    revert pass
    cases quote <;> decide

/-- Escaping point by point is the chain of replacements over the whole text. -/
theorem Text.escaped_eq_passes (quote : Quote) (t : Text) : t.escaped quote = t.passed quote := by
  induction t with
  | nil => cases quote <;> rfl
  | cons c t ih =>
    rw [Text.escaped] at ih
    rw [Text.escaped, List.flatMap_cons, ih, CodePoint.escaped_eq_passes, ← Text.passed_append]
    rfl

theorem Text.braced_eq_passes (t : Text) :
    t.braced = (t.replaced '{' "\x7b\x7b").replaced '}' "\x7d\x7d" := by
  have hpoint (c : CodePoint) :
      c.braced = (Text.replaced [c] '{' "\x7b\x7b").replaced '}' "\x7d\x7d" := by
    by_cases hopen : c = '{'
    · subst hopen
      decide
    by_cases hclose : c = '}'
    · subst hclose
      decide
    · rw [replaced_of_ne _ hopen, replaced_of_ne _ hclose, CodePoint.braced, if_neg (by simp [*])]
  induction t with
  | nil => rfl
  | cons c t ih =>
    rw [Text.braced] at ih
    rw [Text.braced, List.flatMap_cons, ih, hpoint, ← replaced_append, ← replaced_append]
    rfl

namespace Grammar

/-! ## Bodies -/

/-- The number of backslashes at the end. -/
def slashRun (cs : List Char) : Nat := (cs.rtakeWhile (· = '\\')).length

@[simp] theorem slashRun_nil : slashRun [] = 0 := rfl

theorem slashRun_concat (cs : List Char) (c : Char) :
    slashRun (cs ++ [c]) = if c = '\\' then slashRun cs + 1 else 0 := by
  unfold slashRun
  rw [List.rtakeWhile_concat]
  by_cases hc : c = '\\' <;> simp [hc]

theorem slashRun_bare {c : Char} (hc : c ≠ '\\') (cs : List Char) :
    slashRun (c :: cs) = slashRun cs := by
  induction cs using List.reverseRecOn with
  | nil => simp [slashRun, List.rtakeWhile, hc]
  | append_singleton cs d ih => rw [← List.cons_append, slashRun_concat, slashRun_concat, ih]

/-- A backslash and what it takes along do not change the parity of the run behind them. -/
theorem even_slashRun_escape (c : Char) (cs : List Char) :
    Even (slashRun ('\\' :: c :: cs)) ↔ Even (slashRun cs) := by
  induction cs using List.reverseRecOn with
  | nil =>
    by_cases hc : c = '\\'
    · subst hc
      decide
    · rw [show ['\\', c] = ['\\'] ++ [c] from rfl, slashRun_concat, if_neg hc, slashRun_nil]
  | append_singleton cs d ih =>
    rw [← List.cons_append, ← List.cons_append, slashRun_concat, slashRun_concat]
    split_ifs
    · rw [Nat.even_add_one, Nat.even_add_one, ih]
    · rfl

/-- The body of a literal: a backslash takes the character behind it along. Which characters can
stand bare and which behind a backslash is left open. -/
inductive LiteralBody (bare mark : Char → Prop) : List Char → Prop
  | nil : LiteralBody bare mark []
  | bare {c cs} (hc : bare c) (hslash : c ≠ '\\') (h : LiteralBody bare mark cs) :
    LiteralBody bare mark (c :: cs)
  | escape {c cs} (hc : mark c) (h : LiteralBody bare mark cs) :
    LiteralBody bare mark ('\\' :: c :: cs)

namespace LiteralBody

variable {bare bare' mark mark' : Char → Prop} {cs ds : List Char}

theorem append (h : LiteralBody bare mark cs) (h' : LiteralBody bare mark ds) :
    LiteralBody bare mark (cs ++ ds) := by
  induction h with
  | nil => exact h'
  | bare hc hslash _ ih => exact .bare hc hslash ih
  | escape hc _ ih => exact .escape hc ih

theorem mono (h : LiteralBody bare mark cs) (hbare : ∀ c, bare c → bare' c)
    (hmark : ∀ c, mark c → mark' c) : LiteralBody bare' mark' cs := by
  induction h with
  | nil => exact .nil
  | bare hc hslash _ ih => exact .bare (hbare _ hc) hslash ih
  | escape hc _ ih => exact .escape (hmark _ hc) ih

theorem flatMap {t : Text} {word : CodePoint → List Char}
    (h : ∀ c ∈ t, LiteralBody bare mark (word c)) : LiteralBody bare mark (t.flatMap word) := by
  induction t with
  | nil => exact .nil
  | cons c t ih =>
    rw [List.forall_mem_cons] at h
    exact h.1.append (ih h.2)

theorem of_forall (h : ∀ c ∈ cs, bare c ∧ c ≠ '\\') : LiteralBody bare mark cs := by
  induction cs with
  | nil => exact .nil
  | cons c cs ih =>
    rw [List.forall_mem_cons] at h
    exact .bare h.1.1 h.1.2 (ih h.2)

/-- A character that stands neither bare nor behind a backslash does not stand at all. -/
theorem not_mem (h : LiteralBody bare mark cs) {d : Char} (hbare : ¬ bare d) (hmark : ¬ mark d)
    (hslash : d ≠ '\\') : d ∉ cs := by
  induction h with
  | nil => exact List.not_mem_nil
  | bare hc _ _ ih =>
    refine List.not_mem_cons_of_ne_of_not_mem ?_ ih
    rintro rfl
    exact hbare hc
  | escape hc _ ih =>
    refine List.not_mem_cons_of_ne_of_not_mem hslash (List.not_mem_cons_of_ne_of_not_mem ?_ ih)
    rintro rfl
    exact hmark hc

theorem even_slashRun (h : LiteralBody bare mark cs) : Even (slashRun cs) := by
  induction h with
  | nil => exact Nat.even_iff.2 rfl
  | bare _ hslash _ ih => rwa [slashRun_bare hslash]
  | escape _ _ ih => exact (even_slashRun_escape _ _).2 ih

/-- In front of a character that cannot stand bare there is an odd run of backslashes. -/
theorem odd_slashRun (h : LiteralBody bare mark cs) {d : Char} (hd : ¬ bare d) (hslash : d ≠ '\\')
    {front back : List Char} (hcs : cs = front ++ d :: back) : Odd (slashRun front) := by
  induction h generalizing front with
  | nil => simp at hcs
  | bare hc hne _ ih =>
    cases front with
    | nil =>
      cases hcs
      exact (hd hc).elim
    | cons c front =>
      obtain ⟨rfl, htail⟩ := List.cons.inj hcs
      rw [slashRun_bare hne]
      exact ih htail
  | escape _ _ ih =>
    match front with
    | [] =>
      cases hcs
      exact (hslash rfl).elim
    | [c] =>
      cases hcs
      exact ⟨0, rfl⟩
    | c :: c' :: front =>
      obtain ⟨hc, htail⟩ := List.cons.inj hcs
      rw [← hc, ← Nat.not_even_iff_odd, even_slashRun_escape, Nat.not_even_iff_odd]
      exact ih (List.cons.inj htail).2

end LiteralBody

/-! ## Spellings -/

/-- The characters that escaping puts behind a backslash. -/
def IsMark (c : Char) : Prop := c ∈ ['\\', '"', '\'', 'n', 'r', 't', 'x', 'u']

instance : DecidablePred IsMark := fun c => inferInstanceAs (Decidable (c ∈ _))

/-- The ways in which a point is written between two quotes: as it is, as one letter behind a
backslash or as its number. -/
inductive Spelling (quote : Quote) : CodePoint → List Char → Prop
  | bare {c : Char} (hquote : quote.mark ≠ Text.ofChars [c]) (hslash : c ≠ '\\')
    (hprint : 0x20 ≤ c.toNat) : Spelling quote c [c]
  | letter {c d : Char} (hmark : IsMark c) (h : letterEscape? c = some d) :
    Spelling quote d ['\\', c]
  | number {mark : Char} {width : Nat} {c : CodePoint}
    (hmark : mark = 'x' ∧ width = 2 ∨ mark = 'u' ∧ width = 4) (h : c.val < Nat.pow 16 width) :
    Spelling quote c ('\\' :: mark :: hexChars width c.val)

/-- An escaped point is spelled in one of the three ways, whatever the quotes. -/
theorem escaped_spelling (quote : Quote) (c : CodePoint) :
    ∃ word, c.escaped quote = Text.ofChars word ∧ Spelling quote c word := by
  unfold CodePoint.escaped
  split_ifs with hslash hdouble hsingle hfeed hreturn htab hcontrol
  · exact ⟨_, rfl, hslash ▸ .letter (by decide) rfl⟩
  · exact ⟨_, rfl, hdouble.1 ▸ .letter (by decide) rfl⟩
  · exact ⟨_, rfl, hsingle.1 ▸ .letter (by decide) rfl⟩
  · exact ⟨_, rfl, hfeed ▸ .letter (c := 'n') (by decide) rfl⟩
  · exact ⟨_, rfl, hreturn ▸ .letter (c := 'r') (by decide) rfl⟩
  · exact ⟨_, rfl, htab ▸ .letter (c := 't') (by decide) rfl⟩
  · have hlt : c.val < 256 := by
      simp [CodePoint.isControl] at hcontrol
      omega
    exact ⟨_, rfl, .number (.inl ⟨rfl, rfl⟩) hlt⟩
  · cases c with
    | surrogate offset =>
      have hlt : (CodePoint.surrogate offset).val < 65536 := by
        have := offset.isLt
        simp [CodePoint.val]
        omega
      exact ⟨_, rfl, .number (.inr ⟨rfl, rfl⟩) hlt⟩
    | scalar c =>
      refine ⟨[c], rfl, .bare ?_ ?_ ?_⟩
      · intro hmark
        cases quote with
        | double => exact hdouble ⟨(List.cons.inj hmark).1.symm, rfl⟩
        | single => exact hsingle ⟨(List.cons.inj hmark).1.symm, rfl⟩
        | other => cases hmark
      · rintro rfl
        exact hslash rfl
      · refine Nat.le_of_not_lt fun hlt => hcontrol ?_
        simp [CodePoint.isControl, CodePoint.val, hlt]

namespace Spelling

variable {quote : Quote} {c : CodePoint} {word : List Char}

theorem ne_nil (h : Spelling quote c word) : word ≠ [] := by
  cases h <;> simp

/-- Reading a spelling gives the point, whatever follows. -/
theorem read (h : Spelling quote c word) (fuel : Nat) (rest : List Char) :
    unescapeFrom (fuel + 1) (word ++ rest) = (unescapeFrom fuel rest).map (c :: ·) := by
  cases h with
  | bare _ hslash _ => exact unescapeFrom_bare hslash fuel rest
  | @letter mark d hmark h =>
    have hother : ∀ mark, IsMark mark → (letterEscape? mark).isSome → (mark ≠ '\n' ∧
        Numeral.isDigitOf 8 mark = false ∧ mark ≠ 'x' ∧ mark ≠ 'u' ∧ mark ≠ 'U' ∧ mark ≠ 'N') ∧
        0x20 ≤ mark.toNat := by
      unfold IsMark
      decide
    obtain ⟨hplain, hprint⟩ := hother mark hmark (by rw [h]; rfl)
    exact (escapes_letter h hplain hprint).read fuel rest
  | number hmark h => exact (escapes_hex hmark h).read fuel rest

/-- What stands bare in a spelling: no quote, no control character, and a brace only as itself. -/
def Bare (quote : Quote) (c : CodePoint) (d : Char) : Prop :=
  quote.mark ≠ Text.ofChars [d] ∧ 0x20 ≤ d.toNat ∧ (d = '{' ∨ d = '}' → c = .scalar d)

theorem bare_digit {d : Char} (h : Numeral.isDigitOf 16 d = true) (hprint : 0x20 ≤ d.toNat) :
    Bare quote c d ∧ d ≠ '\\' := by
  refine ⟨⟨?_, hprint, ?_⟩, ?_⟩
  · intro hmark
    cases quote with
    | double => cases hmark; cases h
    | single => cases hmark; cases h
    | other => cases hmark
  · rintro (rfl | rfl) <;> cases h
  · rintro rfl
    cases h

theorem body (h : Spelling quote c word) : LiteralBody (Bare quote c) IsMark word := by
  cases h with
  | bare hquote hslash hprint => exact .bare ⟨hquote, hprint, fun _ => rfl⟩ hslash .nil
  | letter hmark => exact .escape hmark .nil
  | @number mark width _ hmark _ =>
    have hdigits : LiteralBody (Bare quote c) IsMark (hexChars width c.val) := by
      refine .of_forall fun d hd => bare_digit (isDigitOf_hexChars _ _ d hd) ?_
      exact (StringBody.hexChars _ _).printable d hd
    refine .escape ?_ hdigits
    rcases hmark with ⟨rfl, -⟩ | ⟨rfl, -⟩ <;> decide

end Spelling

/-- The characters of each escaped point, chosen once. -/
theorem exists_words (quote : Quote) : ∃ word : CodePoint → List Char,
    (∀ c, Spelling quote c (word c)) ∧
      ∀ t : Text, t.escaped quote = Text.ofChars (t.flatMap word) := by
  choose word hword hspelling using escaped_spelling quote
  refine ⟨word, hspelling, fun t => ?_⟩
  rw [Text.escaped, Text.ofChars, List.map_flatMap]
  exact congrArg t.flatMap (funext hword)

theorem length_le_flatMap {α β : Type} {f : α → List β} (h : ∀ x, f x ≠ []) (xs : List α) :
    xs.length ≤ (xs.flatMap f).length := by
  induction xs with
  | nil => exact Nat.zero_le _
  | cons x xs ih =>
    have hpos := List.length_pos_iff.2 (h x)
    rw [List.flatMap_cons, List.length_append, List.length_cons]
    omega

/-- Spellings one after the other are read as their points. -/
theorem unescape_spellings {quote : Quote} {word : CodePoint → List Char}
    (h : ∀ c, Spelling quote c (word c)) (t : Text) : unescape (t.flatMap word) = some t := by
  have hlength := length_le_flatMap (fun c => (h c).ne_nil) t
  unfold unescape
  generalize (t.flatMap word).length = fuel at hlength
  induction t generalizing fuel with
  | nil => cases fuel <;> rfl
  | cons c t ih =>
    cases fuel with
    | zero => cases hlength
    | succ fuel =>
      rw [List.flatMap_cons, (h c).read, ih fuel (Nat.le_of_succ_le_succ hlength)]
      rfl

/-! ## Formatted strings -/

/-- Whether a character is a brace. -/
def IsBrace (c : Char) : Prop := c = '{' ∨ c = '}'

instance : DecidablePred IsBrace := fun c => inferInstanceAs (Decidable (c = '{' ∨ c = '}'))

/-- The characters with every brace written twice. -/
def doubled (cs : List Char) : List Char := cs.flatMap fun c => if IsBrace c then [c, c] else [c]

@[simp] theorem doubled_append (cs ds : List Char) :
    doubled (cs ++ ds) = doubled cs ++ doubled ds := List.flatMap_append

theorem doubled_eq_self {cs : List Char} (h : ∀ c ∈ cs, ¬ IsBrace c) : doubled cs = cs := by
  induction cs with
  | nil => rfl
  | cons c cs ih =>
    rw [List.forall_mem_cons] at h
    have hcons : doubled (c :: cs) = (if IsBrace c then [c, c] else [c]) ++ doubled cs := rfl
    rw [hcons, if_neg h.1, ih h.2]
    rfl

theorem braced_ofChars (cs : List Char) : (Text.ofChars cs).braced = Text.ofChars (doubled cs) := by
  have hpoint (c : Char) : (CodePoint.scalar c).braced =
      Text.ofChars (if IsBrace c then [c, c] else [c]) := by
    by_cases hc : IsBrace c
    · rw [if_pos hc, CodePoint.braced, if_pos (by simpa [IsBrace] using hc)]
      rfl
    · rw [if_neg hc, CodePoint.braced, if_neg (by simpa [IsBrace] using hc)]
      rfl
  rw [Text.braced, Text.ofChars, Text.ofChars, doubled, List.flatMap_map, List.map_flatMap]
  exact congrArg cs.flatMap (funext hpoint)

theorem LiteralBody.doubled {cs : List Char} (h : LiteralBody (¬ IsBrace ·) IsMark cs) :
    doubled cs = cs := by
  refine doubled_eq_self fun c hc hbrace => ?_
  refine h.not_mem (not_not.2 hbrace) ?_ ?_ hc <;> rcases hbrace with rfl | rfl <;> decide

/-- The spelling of a point other than a brace holds no brace. -/
theorem Spelling.body_of_not_brace {quote : Quote} {c : CodePoint} {word : List Char}
    (h : Spelling quote c word) (hc : ∀ d, IsBrace d → c ≠ .scalar d) :
    LiteralBody (¬ IsBrace ·) IsMark word :=
  h.body.mono (fun d hd hbrace => hc d hbrace (hd.2.2 hbrace)) fun _ hd => hd

/-- A stretch without braces is taken as it is, in front of the literal text that follows it. -/
theorem LiteralBody.literalText {cs : List Char} (h : LiteralBody (¬ IsBrace ·) IsMark cs)
    {outer again : Bool} {rest left : List Placed} {ds : List Char}
    (hrest : ∀ fuel, literalText false outer (fuel + 1) rest = some (ds, again, left))
    {ps : List Placed} (hps : ps.map (·.char) = cs) {fuel : Nat} (hfuel : cs.length < fuel) :
    literalText false outer fuel (ps ++ rest) = some (cs ++ ds, again, left) := by
  induction h generalizing ps fuel with
  | nil =>
    cases List.map_eq_nil_iff.1 hps
    cases fuel with
    | zero => cases hfuel
    | succ fuel => exact hrest fuel
  | bare hc hslash _ ih =>
    obtain ⟨p, ps, rfl, rfl, htail⟩ := List.map_eq_cons_iff.1 hps
    cases fuel with
    | zero => cases hfuel
    | succ fuel =>
      obtain ⟨hopen, hclose⟩ := not_or.1 hc
      conv => lhs; unfold Grammar.literalText
      simp [hslash, hopen, hclose, ih htail (Nat.lt_of_succ_lt_succ hfuel)]
  | escape hc _ ih =>
    obtain ⟨p, ps, rfl, hp, htail⟩ := List.map_eq_cons_iff.1 hps
    obtain ⟨q, ps, rfl, rfl, hrest'⟩ := List.map_eq_cons_iff.1 htail
    cases fuel with
    | zero => cases hfuel
    | succ fuel =>
      have hother : ∀ mark, IsMark mark → mark ≠ 'N' ∧ mark ≠ '{' ∧ mark ≠ '}' := by
        unfold IsMark
        decide
      obtain ⟨hN, hopen, hclose⟩ := hother _ hc
      have hless : _ < fuel := Nat.lt_of_succ_lt (Nat.lt_of_succ_lt_succ hfuel)
      conv => lhs; unfold Grammar.literalText
      simp [hp, hN, hopen, hclose, ih hrest' hless]

theorem literalText_doubled {p q : Placed} (hp : IsBrace p.char) (hq : q.char = p.char)
    (fuel : Nat) (rest : List Placed) :
    literalText false true (fuel + 1) (p :: q :: rest) = some ([p.char], true, rest) := by
  have hslash : p.char ≠ '\\' := by rcases hp with hp | hp <;> simp [hp]
  unfold literalText
  simp only [hslash, false_and, if_false, if_pos (show _ ∨ _ from hp), if_true, hq]
  rfl

theorem partsFrom_end {parse : Passage → Option Term} {chars : List Placed} {cs : List Char}
    {text : Text}
    (htext : literalText false true (chars.length + 1) chars = some (cs, false, []))
    (hvalue : unescape cs = some text) {fuel : Nat} :
    partsFrom parse false (fuel + 1) 0 chars = some (Part.consText text [], []) := by
  unfold partsFrom
  change (literalText false true (chars.length + 1) chars).bind _ = _
  rw [htext]
  change (unescape cs).bind _ = _
  rw [hvalue]
  rfl

theorem partsFrom_again {parse : Passage → Option Term} {chars rest left : List Placed}
    {cs : List Char} {text : Text} {parts : List Part} {fuel : Nat}
    (htext : literalText false true (chars.length + 1) chars = some (cs, true, rest))
    (hvalue : unescape cs = some text)
    (hparts : partsFrom parse false fuel 0 rest = some (parts, left)) :
    partsFrom parse false (fuel + 1) 0 chars = some (Part.consText text parts, left) := by
  unfold partsFrom
  change (literalText false true (chars.length + 1) chars).bind _ = _
  rw [htext]
  change (unescape cs).bind _ = _
  rw [hvalue]
  change (partsFrom parse false fuel 0 rest).bind _ = _
  rw [hparts]
  rfl

theorem Part.consText_consText (s t : Text) :
    Part.consText s (Part.consText t []) = Part.consText (s ++ t) [] := by
  cases s <;> cases t <;> simp [Part.consText]

/-- Behind a stretch without braces, the escaped text with doubled braces is read without a field. -/
theorem partsFrom_spellings {word : CodePoint → List Char} (hword : ∀ c, Spelling .double c (word c))
    (hbrace : ∀ d, IsBrace d → word (.scalar d) = [d]) (parse : Passage → Option Term) (t : Text)
    {front : Text} (hfront : LiteralBody (¬ IsBrace ·) IsMark (front.flatMap word)) {fuel : Nat}
    (hfuel : t.length < fuel) {placed : List Placed}
    (hplaced : placed.map (·.char) = front.flatMap word ++ doubled (t.flatMap word)) :
    partsFrom parse false fuel 0 placed = some (Part.consText (front ++ t) [], []) := by
  -- what was read since the last brace is `front`; a brace ends the stretch
  induction t generalizing front fuel placed with
  | nil =>
    obtain ⟨fuel, rfl⟩ := Nat.exists_eq_succ_of_ne_zero (Nat.ne_of_gt hfuel)
    have hplain : placed.map (·.char) = front.flatMap word := by simpa [doubled] using hplaced
    have hlength : (front.flatMap word).length < placed.length + 1 := by
      rw [← hplain, List.length_map]
      exact Nat.lt_succ_self _
    have htext : literalText false true (placed.length + 1) (placed ++ []) =
        some (front.flatMap word ++ [], false, []) :=
      hfront.literalText (fun _ => rfl) hplain hlength
    rw [List.append_nil, List.append_nil] at htext
    rw [partsFrom_end htext (unescape_spellings hword front), List.append_nil]
  | cons c t ih =>
    rw [List.flatMap_cons, doubled_append] at hplaced
    by_cases hc : ∀ d, IsBrace d → c ≠ .scalar d
    · have hbody := (hword c).body_of_not_brace hc
      have hmore : LiteralBody (¬ IsBrace ·) IsMark ((front ++ [c]).flatMap word) := by
        rw [List.flatMap_append, List.flatMap_singleton]
        exact hfront.append hbody
      rw [List.append_cons front c t]
      refine ih hmore (Nat.lt_of_succ_lt hfuel) ?_
      rw [hplaced, hbody.doubled, List.flatMap_append, List.flatMap_singleton, List.append_assoc]
    · push Not at hc
      obtain ⟨d, hd, rfl⟩ := hc
      obtain ⟨fuel, rfl⟩ := Nat.exists_eq_succ_of_ne_zero (Nat.ne_zero_of_lt hfuel)
      have htwice : doubled [d] = [d, d] := by simp [doubled, hd]
      rw [hbrace d hd, htwice] at hplaced
      obtain ⟨ps, qs, rfl, hps, hqs⟩ := List.map_eq_append_iff.1 hplaced
      obtain ⟨p, qs, rfl, rfl, hqs⟩ := List.map_eq_cons_iff.1 hqs
      obtain ⟨q, rest, rfl, hq, hrest⟩ := List.map_eq_cons_iff.1 hqs
      have hlength : (front.flatMap word).length < (ps ++ p :: q :: rest).length + 1 := by
        rw [← hps, List.length_map, List.length_append]
        omega
      have htext := hfront.literalText (fun fuel => literalText_doubled hd hq fuel rest) hps hlength
      have hvalue :
          unescape (front.flatMap word ++ [p.char]) = some (front ++ [.scalar p.char]) := by
        rw [← unescape_spellings hword, List.flatMap_append, List.flatMap_singleton, hbrace _ hd]
      have hparts := @ih [] .nil fuel (Nat.lt_of_succ_lt_succ hfuel) rest hrest
      rw [partsFrom_again htext hvalue hparts, Part.consText_consText, List.nil_append,
        List.append_assoc, List.singleton_append]

end Grammar

/-! ## Escaping is undone -/

open Grammar

/-- An escaped text has neither line feed nor carriage return, every delimiter in it stands behind an
odd run of backslashes and there is no such run at its end, and it is read as the text. The literal
text of a formatted string is read as the text as well, without a field. Both are what the
replacements over the whole text give. -/
theorem Text.escaped_undone (t : Text) {q : Quote} {quote : Char}
    (hq : q.mark = Text.ofChars [quote]) :
    (t.escaped q = t.passed q ∧ ∃ body, t.escaped q = Text.ofChars body ∧
      '\n' ∉ body ∧ '\r' ∉ body ∧
      (∀ front back, body = front ++ quote :: back → Odd (slashRun front)) ∧
      Even (slashRun body) ∧ unescape body = some t) ∧
    t.formattedLiteral = ((t.passed .double).replaced '{' "\x7b\x7b").replaced '}' "\x7d\x7d" ∧
      ∃ body, t.formattedLiteral = Text.ofChars body ∧
        ∀ parse placed, placed.map (·.char) = body →
          formattedParts parse false placed = some (Part.consText t []) := by
  refine ⟨⟨t.escaped_eq_passes q, ?_⟩, ?_, ?_⟩
  · obtain ⟨word, hword, hescaped⟩ := exists_words q
    have hbody : LiteralBody (fun d => q.mark ≠ Text.ofChars [d] ∧ 0x20 ≤ d.toNat) IsMark
        (t.flatMap word) :=
      .flatMap fun c _ => (hword c).body.mono (fun _ hd => ⟨hd.1, hd.2.1⟩) fun _ hd => hd
    have hquote : quote ≠ '\\' := by
      rintro rfl
      cases q <;> cases hq
    refine ⟨t.flatMap word, hescaped t, ?_, ?_, fun front back hsplit => ?_, hbody.even_slashRun,
      unescape_spellings hword t⟩
    · exact hbody.not_mem (fun h => absurd h.2 (by decide)) (by decide) (by decide)
    · exact hbody.not_mem (fun h => absurd h.2 (by decide)) (by decide) (by decide)
    · exact hbody.odd_slashRun (fun h => h.1 hq) hquote hsplit
  · rw [Text.formattedLiteral, Text.braced_eq_passes, Text.escaped_eq_passes]
  · obtain ⟨word, hword, hescaped⟩ := exists_words .double
    have hbrace (d : Char) (hd : IsBrace d) : word d = [d] := by
      have hself : Text.escaped .double [CodePoint.scalar d] = Text.ofChars [d] := by
        rcases hd with rfl | rfl <;> rfl
      rw [hescaped, List.flatMap_singleton] at hself
      exact List.map_injective_iff.2 (fun _ _ h => CodePoint.scalar.inj h) hself
    refine ⟨doubled (t.flatMap word), by rw [formattedLiteral, hescaped, braced_ofChars], ?_⟩
    intro parse placed hplaced
    have hlength : t.length < placed.length + 1 := by
      have hwords := length_le_flatMap (fun c => (hword c).ne_nil) t
      have hdoubled : (t.flatMap word).length ≤ (doubled (t.flatMap word)).length :=
        length_le_flatMap (fun c => by split_ifs <;> simp) _
      rw [← hplaced, List.length_map] at hdoubled
      omega
    have hparts : partsFrom parse false (placed.length + 1) 0 placed =
        some (Part.consText ([] ++ t) [], []) :=
      partsFrom_spellings hword hbrace parse t .nil hlength hplaced
    simp [formattedParts, hparts]

theorem Text.escaped_undone_sample :
    let t : Text := .surrogate 5 :: Text.ofString "\\'\"\x7b\n\x07"
    t.escaped .single = "\\ud805\\\\\\'\"\x7b\\n\\x07" ∧
      (∃ body, t.escaped .single = Text.ofChars body ∧ unescape body = some t) ∧
      ∃ body, t.formattedLiteral = Text.ofChars body ∧ ∀ parse placed,
        placed.map (·.char) = body → formattedParts parse false placed = some [.text t] := by
  intro t
  obtain ⟨⟨-, body, hbody, -, -, -, -, hread⟩, -, hformatted⟩ :=
    Text.escaped_undone t (show Quote.single.mark = Text.ofChars ['\''] from rfl)
  exact ⟨by decide, ⟨body, hbody, hread⟩, hformatted⟩

end Refactory
