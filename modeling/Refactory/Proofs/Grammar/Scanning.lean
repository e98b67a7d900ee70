import Mathlib.Data.List.TakeWhile
import Refactory.Proofs.Grammar.Lines
import Refactory.Proofs.Grammar.Stretch
import Refactory.Proofs.Grammar.Word

/-! # A piece of source is scanned alike wherever it stands

The scanner looks ahead: a word, a number or a symbol is the longest that comes next. A piece that is
scanned to its end when it stands alone gives the same tokens in front of anything that none of them
goes on with (`Joint`): the scanner of the source runs beside the one of the piece
(`Scanner.Beside.reaches`). -/

namespace Refactory.Grammar

/-! ## What the scanner looks at -/

theorem startsWith_eq (front : List Char) (ps : List Placed) :
    startsWith front ps = front.isPrefixOf (ps.map (·.char)) := by
  induction front generalizing ps with
  | nil => cases ps <;> rfl
  | cons c front ih =>
    cases ps with
    | nil => rfl
    | cons p ps =>
      rw [startsWith, List.map_cons, List.isPrefixOf, ih]
      rfl

theorem Passage.takeWhile_eq (p : Char → Bool) (s : Passage) :
    s.takeWhile p = (s.chars.map (·.char)).takeWhile p := by
  rw [List.takeWhile_map]
  rfl

/-- The characters that end a word or a literal. -/
def enders : List Char := [' ', '\n', ',', ')', ']', '}', ':', '.', '(', '[', '=']

/-- The closing brackets. -/
def closingBrackets : List Char := [')', ']', '}']

/-- The characters behind which a symbol can go on, the dot left out. -/
def crossers : List Char := ['*', '/', '<', '>', '!', '%', '&', '+', '-', ':', '=', '@', '^', '|']

/-- The characters with which a longer operator can go on, the dot left out. -/
def extenders : List Char := ['*', '=', '/', '<', '>']

/-- A character that neither is a blank nor changes how a line is read. -/
def isInkChar (c : Char) : Bool := !(CodePoint.scalar c).isBlank && c != '\\' && c != '#'

/-- What stands behind a piece goes on with no token of it. -/
structure Joint (word rest : List Char) : Prop where
  printable : ∀ c ∈ word, 0x20 ≤ c.toNat
  last : ∀ c ∈ word.getLast?, c ∉ crossers
  next : ∀ c ∈ rest.head?, c ∈ enders
  dot : ∀ c ∈ word.getLast?, rest.head? = some '.' → c ∈ closingBrackets ++ ['"', '\'']

variable {word rest : List Char}

theorem Joint.behind {front : List Char} (h : Joint (front ++ word) rest) (hne : word ≠ []) :
    Joint word rest where
  printable c hc := h.printable c (List.mem_append_right front hc)
  last c hc := h.last c (by rw [List.getLast?_append_of_ne_nil front hne]; exact hc)
  next := h.next
  dot c hc := h.dot c (by rw [List.getLast?_append_of_ne_nil front hne]; exact hc)

theorem Joint.not_mem (h : Joint word rest) {c : Char} (hc : c.toNat < 0x20) : c ∉ word :=
  fun hmem => absurd (h.printable c hmem) (Nat.not_le.2 hc)

/-- A run of characters does not go on behind the piece. -/
theorem takeWhile_joint {p : Char → Bool}
    (h : ∀ c ∈ rest.head?, p c = true → ∃ d ∈ word.getLast?, p d = false) :
    (word ++ rest).takeWhile p = word.takeWhile p := by
  rw [List.takeWhile_append]
  split
  · rename_i hall
    have hword : word.takeWhile p = word := (List.takeWhile_prefix p).eq_of_length hall
    cases rest with
    | nil => rw [List.takeWhile_nil, List.append_nil, hword]
    | cons c rest =>
      have hc : p c = false := by
        cases hpc : p c with
        | false => rfl
        | true =>
          obtain ⟨d, hd, hpd⟩ := h c rfl hpc
          have hmem : d ∈ word.takeWhile p := hword.symm ▸ List.mem_of_getLast? hd
          rw [List.mem_takeWhile_imp hmem] at hpd
          cases hpd
      rw [List.takeWhile_cons_of_neg (by rw [hc]; exact Bool.false_ne_true), List.append_nil, hword]
  · rfl

theorem enders_not_wordChar {c : Char} (h : c ∈ enders) :
    isWordChar c = false ∧ ¬ (c = '"' ∨ c = '\'') := by
  have hall : ∀ c ∈ enders, isWordChar c = false ∧ ¬ (c = '"' ∨ c = '\'') := by decide
  exact hall c h

theorem Joint.wordChars (h : Joint word rest) :
    (word ++ rest).takeWhile isWordChar = word.takeWhile isWordChar :=
  takeWhile_joint fun c hc hword => by
    rw [(enders_not_wordChar (h.next c hc)).1] at hword
    cases hword

theorem Joint.numeralChars (h : Joint word rest) (hne : word ≠ []) :
    (word ++ rest).takeWhile isNumeralChar = word.takeWhile isNumeralChar := by
  refine takeWhile_joint fun c hc hnumeral => ?_
  have hall : ∀ c ∈ enders, isNumeralChar c = true → c = '.' := by decide
  obtain rfl := hall c (h.next c hc) hnumeral
  have hclosed : ∀ c ∈ closingBrackets ++ ['"', '\''], isNumeralChar c = false := by decide
  have hlast := List.getLast?_eq_some_getLast hne
  exact ⟨_, hlast, hclosed _ (h.dot _ hlast hc)⟩

/-- The longest symbol that comes next lies within the piece. -/
theorem Joint.symbols (h : Joint word rest) (hne : word ≠ []) :
    symbols.find? (·.isPrefixOf (word ++ rest)) = symbols.find? (·.isPrefixOf word) := by
  rw [← List.head?_filter, ← List.head?_filter]
  refine congrArg List.head? (List.filter_congr fun t ht => ?_)
  rw [Bool.eq_iff_iff, List.isPrefixOf_iff_prefix, List.isPrefixOf_iff_prefix]
  refine ⟨fun hprefix => ?_, fun hprefix => hprefix.trans (List.prefix_append word rest)⟩
  rcases List.prefix_or_prefix_of_prefix hprefix (List.prefix_append word rest) with hle | ⟨more, rfl⟩
  · exact hle
  · -- The last character of the piece stands within the symbol.
    rw [List.prefix_append_right_inj] at hprefix
    cases more with
    | nil => exact (List.append_nil word).symm ▸ List.prefix_refl word
    | cons c more =>
      have hlast := List.getLast?_eq_some_getLast hne
      have hinner : word.getLast hne ∈ (word ++ c :: more).dropLast := by
        rw [List.dropLast_append_cons]
        exact List.mem_append_left _ (List.getLast_mem hne)
      have hall : ∀ t ∈ Grammar.symbols, ∀ d ∈ t.dropLast, d ∈ crossers ∨
          d = '.' ∧ t = ['.', '.', '.'] := by
        decide +kernel
      rcases hall _ ht _ hinner with hcross | ⟨hpoint, hdots⟩
      · exact (h.last _ hlast hcross).elim
      · have hc : c = '.' := by
          have hmem : c ∈ ['.', '.', '.'] := by
            rw [← hdots]
            simp
          simpa using hmem
        obtain ⟨tail, rfl⟩ := hprefix
        have hclosed := h.dot _ hlast (by rw [hc]; rfl)
        rw [hpoint] at hclosed
        exact absurd hclosed (by decide)

theorem startsWith_joint {front : List Char} {ps ps₀ : List Placed}
    (hps : ps.map (·.char) = ps₀.map (·.char) ++ rest) (hrest : ∀ c ∈ rest.head?, c ∉ front) :
    startsWith front ps = startsWith front ps₀ := by
  rw [startsWith_eq, startsWith_eq, hps, Bool.eq_iff_iff, List.isPrefixOf_iff_prefix,
    List.isPrefixOf_iff_prefix]
  refine ⟨fun h => ?_, fun h => h.trans (List.prefix_append _ _)⟩
  rcases List.prefix_or_prefix_of_prefix h (List.prefix_append _ rest) with hle | ⟨more, rfl⟩
  · exact hle
  · rw [List.prefix_append_right_inj] at h
    cases more with
    | nil => exact (List.append_nil _).symm ▸ List.prefix_refl _
    | cons c more =>
      obtain ⟨tail, rfl⟩ := h
      exact (hrest c rfl (by simp)).elim

/-- A string that closes within the piece closes there, whatever stands behind it. -/
theorem stringLength_joint {quote : Char} {triple : Bool} {n m : Nat} {ps ps₀ : List Placed}
    (hps : ps.map (·.char) = ps₀.map (·.char) ++ rest) (hrest : ∀ c ∈ rest.head?, c ≠ quote)
    (h : stringLength quote triple n ps₀ = some m) :
    stringLength quote triple n ps = some m ∧ m + (if triple then 3 else 1) ≤ n + ps₀.length := by
  have hquotes : ∀ c ∈ rest.head?, c ∉ [quote, quote] := fun c hc => by simpa using hrest c hc
  fun_induction stringLength quote triple n ps₀ generalizing ps with
  | case1 => cases h
  | case2 n p ps₀ hclose =>
    obtain ⟨p', ps, rfl, hp, hps⟩ := List.map_eq_cons_iff.1 hps
    obtain rfl := Option.some.inj h
    rw [← startsWith_joint hps hquotes, ← show p'.char = p.char from hp] at hclose
    refine ⟨by rw [stringLength.eq_def]; exact if_pos hclose, ?_⟩
    split
    · rename_i htriple
      have hfront := hclose.2
      rw [htriple, startsWith_joint hps hquotes, startsWith_eq] at hfront
      have hprefix := (List.isPrefixOf_iff_prefix.1 (hfront.resolve_left (by decide))).length_le
      simp only [List.length_cons, List.length_map, List.length_nil] at hprefix ⊢
      omega
    · simp only [List.length_cons]
      omega
  | case3 => cases h
  | case4 => cases h
  | case5 n p hline hslash q ps₀ hclose ih =>
    obtain ⟨p', ps, rfl, hp, hps⟩ := List.map_eq_cons_iff.1 hps
    obtain ⟨q', ps, rfl, hq, hps'⟩ := List.map_eq_cons_iff.1 hps
    obtain ⟨hlength, hle⟩ := ih hps' h
    rw [← startsWith_joint hps hquotes, ← show p'.char = p.char from hp] at hclose
    rw [← show p'.char = p.char from hp] at hline hslash
    refine ⟨?_, by simp only [List.length_cons]; omega⟩
    rw [stringLength.eq_def]
    dsimp only
    rw [if_neg hclose, if_neg hline, if_pos hslash]
    exact hlength
  | case6 n p ps₀ hclose hline hslash ih =>
    obtain ⟨p', ps, rfl, hp, hps⟩ := List.map_eq_cons_iff.1 hps
    obtain ⟨hlength, hle⟩ := ih hps h
    rw [← startsWith_joint hps hquotes, ← show p'.char = p.char from hp] at hclose
    rw [← show p'.char = p.char from hp] at hline hslash
    refine ⟨?_, by simp only [List.length_cons]; omega⟩
    rw [stringLength.eq_def]
    dsimp only
    rw [if_neg hclose, if_neg hline, if_neg hslash]
    exact hlength

/-! ## Runs of the scanner -/

/-- In some steps the scanner gives the tokens and has then come to `s'`. -/
def Scanner.Reaches (s : Scanner) (steps : Nat) (tokens : List Token) (s' : Scanner) : Prop :=
  ∀ fuel, s.tokens (fuel + steps) = (s'.tokens fuel).map (tokens ++ ·)

theorem Scanner.Reaches.refl (s : Scanner) : s.Reaches 0 [] s := fun fuel => by
  cases s.tokens fuel <;> rfl

theorem Scanner.Reaches.step {s s' : Scanner} {tokens : List Token} (h : s.step = .more tokens s') :
    s.Reaches 1 tokens s' := fun fuel => by
  rw [Scanner.tokens]
  simp only [h]

theorem Scanner.Reaches.trans {s s' s'' : Scanner} {m n : Nat} {ts us : List Token}
    (h : s.Reaches m ts s') (h' : s'.Reaches n us s'') : s.Reaches (n + m) (ts ++ us) s'' :=
  fun fuel => by
    rw [← Nat.add_assoc, h, h', Option.map_map]
    exact congrArg (Option.map · _) (funext fun vs => (List.append_assoc ts us vs).symm)

/-! ## Two scanners -/

/-- The edges of a piece of `n` characters that begins at `start` in a source, where it takes up `width`
characters. -/
def edges (start : Position) (n width : Nat) : Places where
  starts p q := q.offset = 0 → p.offset = start.offset ∧ p.line = start.line
  stops p q := q.offset = n → p.offset = start.offset + width

/-- Whether a lexeme is a string with fields. -/
def Lexeme.isFormatted : Lexeme → Bool
  | .string marks _ => marks.formatted
  | _ => false

/-- A scanner of a source, and one of a piece `text` of it that stands alone: `word` is left
of the piece, which begins at `start`. Around it stand the brackets `stack`, and behind it
`rest`. -/
structure Scanner.Beside (start : Position) (text : List Char) (stack : List Char) (levels : List Column) (limit : Nat)
    (rest word : List Char) (s s₀ : Scanner) : Prop where
  place : ∃ front q q₀, front ++ word = text ∧ start.Past front q ∧ q₀.offset = front.length ∧
    s.rest = placedFrom q (word ++ rest) ∧ s₀.rest = placedFrom q₀ word
  clean : '\r' ∉ word ++ rest
  inLine : s.lineStart = false
  inLine₀ : s₀.lineStart = false
  brackets : s.brackets = s₀.brackets ++ stack
  levels : s.levels = levels
  mostOpen : s.mostOpen = limit
  room : s₀.mostOpen + stack.length ≤ limit

/-- What a step of both leads to, unless the step fails for the piece. -/
inductive Scan.Beside (start : Position) (text : List Char) (stack : List Char) (levels : List Column) (limit : Nat)
    (rest whole : List Char) : Scan → Scan → Prop
  | failed {r : Scan} : Scan.Beside start text stack levels limit rest whole r .failed
  | more {ts ts₀ : List Token} {s s₀ : Scanner} {word : List Char} (hword : word <:+ whole)
    (h : s.Beside start text stack levels limit rest word s₀)
    (hts : (∀ t ∈ ts₀, t.lexeme.isFormatted = false) →
      List.Forall₂ (Token.Alike (edges start text.length text.length)) ts ts₀)
    (hstop : ∀ t ∈ ts₀, t.span.stop.offset + word.length = text.length) :
    Scan.Beside start text stack levels limit rest whole (.more ts s) (.more ts₀ s₀)

theorem Scan.Beside.inv {start : Position} {text : List Char} {stack : List Char} {levels : List Column} {limit : Nat}
    {r : Scan} {ts₀ : List Token} {s₀ : Scanner}
    (h : Scan.Beside start text stack levels limit rest word r (.more ts₀ s₀)) :
    ∃ ts s word', r = .more ts s ∧ word' <:+ word ∧ s.Beside start text stack levels limit rest word' s₀ ∧
      ((∀ t ∈ ts₀, t.lexeme.isFormatted = false) →
        List.Forall₂ (Token.Alike (edges start text.length text.length)) ts ts₀) ∧
      ∀ t ∈ ts₀, t.span.stop.offset + word'.length = text.length := by
  cases h with
  | more hword h hts hstop => exact ⟨_, _, _, rfl, hword, h, hts, hstop⟩

theorem Scan.Beside.not_done {start : Position} {text : List Char} {stack : List Char} {levels : List Column} {limit : Nat}
    {r : Scan} : ¬ Scan.Beside start text stack levels limit rest word r .done := fun h => by
  cases h

namespace Scanner.Beside

section

variable {start : Position} {text : List Char} {stack : List Char} {levels : List Column} {limit : Nat} {s s₀ : Scanner}

theorem chars (h : s.Beside start text stack levels limit rest word s₀) :
    s.rest.chars.map (·.char) = word ++ rest := by
  obtain ⟨-, q, q₀, -, -, -, hrest, -⟩ := h.place
  rw [hrest, placedFrom_chars h.clean]

theorem chars₀ (h : s.Beside start text stack levels limit rest word s₀) :
    s₀.rest.chars.map (·.char) = word := by
  obtain ⟨-, q, q₀, -, -, -, -, hrest⟩ := h.place
  rw [hrest, placedFrom_chars fun hmem => h.clean (List.mem_append_left rest hmem)]

/-- Both go on by the characters in front of the rest of the piece. -/
theorem advance {front : List Char} (h : s.Beside start text stack levels limit rest (front ++ word) s₀)
    (b : List Char) : Scanner.Beside start text stack levels limit rest word
      { s with rest := s.rest.drop front.length, brackets := b ++ stack }
      { s₀ with rest := s₀.rest.drop front.length, brackets := b } := by
  obtain ⟨before, q, q₀, htext, hq, hq₀, hrest, hrest₀⟩ := h.place
  have hclean := h.clean
  rw [List.append_assoc] at hrest hclean
  have hfront : '\r' ∉ front := fun hmem => hclean (List.mem_append_left _ hmem)
  obtain ⟨p, hp, hdrop⟩ := placedFrom_drop hfront q (word ++ rest)
  obtain ⟨p₀, hp₀, hdrop₀⟩ := placedFrom_drop hfront q₀ word
  refine ⟨⟨before ++ front, p, p₀, by rw [← htext, List.append_assoc], hq.trans hp, ?_, ?_, ?_⟩,
    fun hmem => hclean (List.mem_append_right _ hmem),
    h.inLine, h.inLine₀, rfl, h.levels, h.mostOpen, h.room⟩
  · rw [hp₀.offset, hq₀, List.length_append]
  · rw [← hdrop, hrest]
  · rw [← hdrop₀, hrest₀]

/-- Both take a token of the same characters. -/
theorem emit {m : Nat} (h : s.Beside start text stack levels limit rest word s₀) (hm : m ≤ word.length)
    (b : List Char) {l l₀ : Lexeme} (hl : l₀.isFormatted = false → l.Alike l₀) :
    Scan.Beside start text stack levels limit rest word
      (Scanner.emit { s with brackets := b ++ stack } m l)
      (Scanner.emit { s₀ with brackets := b } m l₀) := by
  have hlength : (word.take m).length = m := List.length_take_of_le hm
  have hbeside : s.Beside start text stack levels limit rest (word.take m ++ word.drop m) s₀ := by
    rwa [List.take_append_drop]
  have hnext := hbeside.advance b
  rw [hlength] at hnext
  obtain ⟨before, q, q₀, -, hq, hq₀, hrest, hrest₀⟩ := h.place
  obtain ⟨after, p, p₀, htext, hp, hp₀, hdrop, hdrop₀⟩ := hnext.place
  have hn : p₀.offset + (word.drop m).length = text.length := by
    rw [hp₀, ← htext, List.length_append]
  have hhere : (s.rest.drop m).here = p :=
    (congrArg Passage.here hdrop).trans (placedFrom_here _ _)
  have hhere₀ : (s₀.rest.drop m).here = p₀ :=
    (congrArg Passage.here hdrop₀).trans (placedFrom_here _ _)
  refine .more (List.drop_suffix m word) hnext (fun hplain => .cons ⟨hl (hplain _ (List.mem_singleton_self _)), ?_, ?_⟩ .nil) ?_
  · rw [hrest, hrest₀, placedFrom_here, placedFrom_here]
    intro hzero
    obtain rfl : before = [] := List.eq_nil_of_length_eq_zero (by rw [← hq₀, hzero])
    exact ⟨hq.offset, hq.line⟩
  · rw [hhere, hhere₀]
    exact fun hend => by rw [hp.offset, ← hp₀, hend]
  · rw [List.forall_mem_singleton, hhere₀]
    exact hn

/-- Both take a token that changes no brackets. -/
theorem emit_same {m : Nat} (h : s.Beside start text stack levels limit rest word s₀) (hm : m ≤ word.length)
    {l l₀ : Lexeme} (hl : l₀.isFormatted = false → l.Alike l₀) :
    Scan.Beside start text stack levels limit rest word (s.emit m l) (s₀.emit m l₀) := by
  have hemit := h.emit hm s₀.brackets hl
  rwa [← h.brackets] at hemit

variable (h : s.Beside start text stack levels limit rest word s₀) (hj : Joint word rest) (hne : word ≠ [])

include h hj

theorem takeWhile_word : s.rest.takeWhile isWordChar = word.takeWhile isWordChar ∧
    s₀.rest.takeWhile isWordChar = word.takeWhile isWordChar := by
  rw [Passage.takeWhile_eq, Passage.takeWhile_eq, h.chars, h.chars₀, hj.wordChars]
  exact ⟨rfl, rfl⟩

include hne

theorem numeral : Scan.Beside start text stack levels limit rest word s.numeral s₀.numeral := by
  unfold Scanner.numeral
  rw [Passage.takeWhile_eq, Passage.takeWhile_eq, h.chars, h.chars₀, hj.numeralChars hne]
  dsimp only
  split
  · exact .failed
  · refine h.emit_same ?_ fun _ => .refl rfl
    have hle := (List.takeWhile_prefix isNumeralChar (l := word)).length_le
    omega

theorem symbol (c : Char) : Scan.Beside start text stack levels limit rest word (s.symbol c) (s₀.symbol c) := by
  unfold Scanner.symbol
  simp only [startsWith_eq, h.chars, h.chars₀, hj.symbols hne]
  split
  · exact .failed
  · rename_i text hfind
    have hle : text.length ≤ word.length := by
      have hprefix := List.find?_some hfind
      exact (List.isPrefixOf_iff_prefix.1 hprefix).length_le
    have hlexeme : (Lexeme.symbol (String.ofList text)).isFormatted = false →
        (Lexeme.symbol (String.ofList text)).Alike (.symbol (String.ofList text)) := fun _ => .refl rfl
    split_ifs with hopen hroom hroom₀ hroom₀
    · have hemit := h.emit hle (c :: s₀.brackets) hlexeme
      rwa [List.cons_append, ← h.brackets] at hemit
    · exact .failed
    · have hlength := h.room
      rw [h.brackets, h.mostOpen, List.length_append] at hroom
      omega
    · exact .failed
    · split
      · exact h.emit_same hle hlexeme
      · rename_i left _
        rw [h.brackets]
        split_ifs with hclose hclose₀ hclose₀
        · obtain ⟨b, hb⟩ := List.head?_eq_some_iff.1 hclose₀
          have hemit := h.emit hle b hlexeme
          rw [hb]
          exact hemit
        · exact .failed
        · obtain ⟨b, hb⟩ := List.head?_eq_some_iff.1 hclose₀
          rw [hb] at hclose
          exact (hclose rfl).elim
        · exact .failed

omit hj hne

theorem run {run : List Char} (hrun : run.length ≤ word.length) :
    Scan.Beside start text stack levels limit rest word (s.word run) (s₀.word run) := by
  unfold Scanner.word
  dsimp only
  split_ifs
  · exact h.emit_same hrun fun _ => .refl rfl
  · exact h.emit_same hrun fun _ => .refl rfl
  · exact h.emit_same hrun fun _ => .refl rfl
  · exact .failed

theorem drop_chars (m : Nat) : (s.rest.drop m).chars.map (·.char) = (word ++ rest).drop m ∧
    (s₀.rest.drop m).chars.map (·.char) = word.drop m := by
  rw [Passage.drop, Passage.drop, List.map_drop, List.map_drop, h.chars, h.chars₀]
  exact ⟨rfl, rfl⟩

include hj

theorem string {skip : Nat} {quote : Char} (hskip : skip ≤ word.length)
    (hquote : quote = '"' ∨ quote = '\'') (marks : StringMarks) :
    Scan.Beside start text stack levels limit rest word (s.string marks skip quote) (s₀.string marks skip quote) := by
  have hrest : ∀ c ∈ rest.head?, c ≠ quote := by
    rintro c hc rfl
    exact (enders_not_wordChar (hj.next c hc)).2 hquote
  have happend : ∀ m ≤ word.length, (s.rest.drop m).chars.map (·.char) =
      (s₀.rest.drop m).chars.map (·.char) ++ rest := fun m hm => by
    rw [(h.drop_chars m).1, (h.drop_chars m).2, List.drop_append_of_le_length hm]
  have htriple : startsWith [quote, quote, quote] (s.rest.drop skip).chars =
      startsWith [quote, quote, quote] (s₀.rest.drop skip).chars :=
    startsWith_joint (happend skip hskip) fun c hc => by simpa using hrest c hc
  unfold Scanner.string
  rw [htriple]
  dsimp only
  generalize startsWith [quote, quote, quote] (s₀.rest.drop skip).chars = triple
  generalize hwidth : (if triple = true then 3 else 1) = width
  rcases Nat.lt_or_ge word.length (skip + width) with hlt | hle
  · have hnil : (s₀.rest.drop (skip + width)).chars = [] := by
      rw [← List.map_eq_nil_iff (f := (·.char)), (h.drop_chars _).2, List.drop_eq_nil_of_le (by omega)]
    rw [hnil, stringLength]
    exact .failed
  · cases hlength₀ : stringLength quote triple 0 (s₀.rest.drop (skip + width)).chars with
    | none => exact .failed
    | some m =>
      obtain ⟨hlength, hm⟩ := stringLength_joint (happend _ hle) hrest hlength₀
      have hinside := congrArg List.length (h.drop_chars (skip + width)).2
      rw [List.length_map, List.length_drop] at hinside
      rw [hwidth] at hm
      simp only [hlength]
      refine h.emit_same (by omega) fun hplain => .string hplain ?_
      rw [List.map_take, List.map_take, happend _ hle, List.take_append_of_le_length]
      rw [List.length_map]
      omega

theorem wordOrSymbol (hne : word ≠ []) (c : Char) :
    Scan.Beside start text stack levels limit rest word (s.wordOrSymbol c) (s₀.wordOrSymbol c) := by
  unfold Scanner.wordOrSymbol
  rw [(h.takeWhile_word hj).1, (h.takeWhile_word hj).2]
  dsimp only
  have hprefix := List.takeWhile_prefix isWordChar (l := word)
  have hle := hprefix.length_le
  rw [← List.head?_map, ← List.head?_map, (h.drop_chars _).1, (h.drop_chars _).2]
  generalize word.takeWhile isWordChar = run at hprefix hle
  rcases Nat.lt_or_ge run.length word.length with hlt | hge
  · rw [List.drop_append_of_le_length hle]
    cases hdrop : word.drop run.length with
    | nil =>
      have hlength := congrArg List.length hdrop
      rw [List.length_drop, List.length_nil] at hlength
      omega
    | cons q more =>
      simp only [List.cons_append, List.head?_cons]
      split_ifs with hquote
      · split
        · exact h.string hj hle hquote _
        · exact h.run hle
      · exact h.symbol hj hne c
      · exact h.run hle
  · -- The word ends where the piece ends, and what stands behind it does not go on with it.
    obtain rfl := hprefix.eq_of_length_le hge
    have hempty : run.isEmpty = false := List.isEmpty_eq_false_iff.2 hne
    rw [List.drop_left, List.drop_length, List.head?_nil]
    simp only [hempty, Bool.false_eq_true, if_false]
    cases hnext : rest.head? with
    | none => exact h.run hle
    | some q =>
      simp only [(enders_not_wordChar (hj.next q hnext)).2, if_false]
      exact h.run hle

/-- Within the piece, a step of the one scanner is one of the other. -/
theorem step (hne : word ≠ []) (hcomment : word.head? ≠ some '#') :
    Scan.Beside start text stack levels limit rest word s.step s₀.step := by
  obtain ⟨c, tail, rfl⟩ := List.exists_cons_of_ne_nil hne
  obtain ⟨p, ps, hps, hp, htail⟩ := List.map_eq_cons_iff.1 h.chars
  obtain ⟨p₀, ps₀, hps₀, hp₀, htail₀⟩ := List.map_eq_cons_iff.1 h.chars₀
  have hhash : c ≠ '#' := fun hc => hcomment (by rw [hc]; rfl)
  have hline : '\n' ∉ c :: tail := hj.not_mem (by decide)
  rw [List.mem_cons, not_or] at hline
  rw [Scanner.step, h.inLine, if_neg Bool.false_ne_true, Scanner.step, h.inLine₀,
    if_neg Bool.false_ne_true, Scanner.inLine, Scanner.inLine]
  simp only [hps, hps₀, hp, hp₀, hhash, Ne.symm hline.1, if_false]
  have hcontinued : continued ps₀ = none := by
    unfold continued
    split
    · rename_i q q' more
      rw [if_neg fun hq => hline.2 ?_]
      rw [← htail₀, ← hq]
      exact List.mem_cons_self
    · rfl
  have hpoint : ps.head?.map (·.char.isDigit) = some true ↔
      ps₀.head?.map (·.char.isDigit) = some true := by
    have hhead : ∀ qs : List Placed,
        qs.head?.map (·.char.isDigit) = (qs.map (·.char)).head?.map Char.isDigit := fun qs => by
      cases qs <;> rfl
    rw [hhead, hhead, htail, htail₀]
    cases tail with
    | nil =>
      refine ⟨fun hdigit => ?_, fun hdigit => by cases hdigit⟩
      obtain ⟨d, hd, hdigit⟩ := Option.map_eq_some_iff.1 hdigit
      have hall : ∀ c ∈ enders, c.isDigit = false := by decide
      rw [hall d (hj.next d hd)] at hdigit
      cases hdigit
    | cons d tail => exact Iff.rfl
  rw [hcontinued]
  simp only [hpoint]
  split_ifs
  · have hfront : s.Beside start text stack levels limit rest ([c] ++ tail) s₀ := h
    have hnext := hfront.advance s₀.brackets
    rw [← h.brackets] at hnext
    exact .more (List.suffix_cons c tail) hnext (fun _ => .nil) (List.forall_mem_nil _)
  · exact .failed
  · exact h.numeral hj hne
  · exact h.numeral hj hne
  · exact h.wordOrSymbol hj hne c

end

section

variable {start : Position} {text : List Char} {stack : List Char} {levels : List Column} {limit fuel : Nat} {s s₀ : Scanner}
  {tokens : List Token} (h : s.Beside start text stack levels limit rest word s₀)
  (htokens : s₀.tokens (fuel + 1) = some tokens)

include h htokens

theorem ended (hword : word = []) : tokens = [] ∧ s₀.brackets = [] := by
  have hchars := h.chars₀
  rw [hword, List.map_eq_nil_iff] at hchars
  have hstep : s₀.step = if s₀.brackets.isEmpty then .done else .failed := by
    rw [Scanner.step, h.inLine₀, if_neg Bool.false_ne_true, Scanner.inLine, hchars]
  rw [Scanner.tokens, hstep] at htokens
  cases hbrackets : s₀.brackets with
  | nil =>
    rw [hbrackets] at htokens
    exact ⟨(Option.some.inj htokens).symm, rfl⟩
  | cons c b =>
    rw [hbrackets] at htokens
    cases htokens

/-- Nothing is read behind a number sign. -/
theorem commented (hj : Joint word rest) (hcomment : word.head? = some '#') : tokens = [] := by
  obtain ⟨tail, rfl⟩ := List.head?_eq_some_iff.1 hcomment
  obtain ⟨p, ps, hps, hp, htail⟩ := List.map_eq_cons_iff.1 h.chars₀
  have hdrop : ps.dropWhile (·.char ≠ '\n') = [] := by
    refine List.dropWhile_eq_nil_iff.2 fun q hq => decide_eq_true fun hline => ?_
    have hmem : '\n' ∈ tail := htail ▸ hline ▸ List.mem_map_of_mem hq
    exact hj.not_mem (by decide) (List.mem_cons_of_mem '#' hmem)
  have hstep : s₀.step = .more [] { s₀ with rest := { s₀.rest with chars := [] } } := by
    have hinLine : s₀.step = s₀.inLine := by
      rw [Scanner.step, h.inLine₀, if_neg Bool.false_ne_true]
    rw [hinLine, Scanner.inLine]
    simp only [hps, hp, hdrop]
    rfl
  rw [Scanner.tokens, hstep] at htokens
  obtain ⟨others, hothers, rfl⟩ := Option.map_eq_some_iff.1 htokens
  cases fuel with
  | zero => cases hothers
  | succ fuel =>
    have hend : Scanner.step { s₀ with rest := { s₀.rest with chars := [] } } =
        if s₀.brackets.isEmpty then .done else .failed := by
      rw [Scanner.step, h.inLine₀, if_neg Bool.false_ne_true]
      rfl
    rw [Scanner.tokens, hend] at hothers
    split at hothers
    · cases hothers
    · exact (Option.some.inj hothers).symm
    · rename_i hmore
      split at hmore <;> cases hmore

end

/-- The scanner of the source comes to the end of the piece when the one of the piece does, with the
same tokens. -/
theorem reaches {start : Position} {text : List Char} {stack : List Char} {levels : List Column} {limit fuel : Nat}
    {s s₀ : Scanner} {tokens : List Token} (h : s.Beside start text stack levels limit rest word s₀)
    (hj : word ≠ [] → Joint word rest) (htokens : s₀.tokens (fuel + 1) = some tokens)
    (hplain : ∀ t ∈ tokens, t.lexeme.isFormatted = false)
    (hend : ∀ t ∈ tokens.getLast?, t.span.stop.offset = text.length) (hne : word ≠ [] → tokens ≠ []) :
    ∃ steps ts s' s₀', steps ≤ fuel ∧ s.Reaches steps ts s' ∧
      List.Forall₂ (Token.Alike (edges start text.length text.length)) ts tokens ∧
      s'.Beside start text stack levels limit rest [] s₀' ∧ s₀'.brackets = [] := by
  generalize hlimit : fuel + 1 = most at htokens
  induction most generalizing s s₀ word tokens fuel with
  | zero => cases hlimit
  | succ most ih => ?_
  obtain rfl := Nat.succ.inj hlimit
  by_cases hword : word = []
  · obtain ⟨rfl, hbrackets⟩ := h.ended htokens hword
    subst hword
    exact ⟨0, [], s, s₀, Nat.zero_le _, .refl s, .nil, h, hbrackets⟩
  have hstep := h.step (hj hword) hword fun hcomment =>
    hne hword (h.commented htokens (hj hword) hcomment)
  rw [Scanner.tokens] at htokens
  cases hr₀ : s₀.step with
  | failed =>
    rw [hr₀] at htokens
    cases htokens
  | done =>
    rw [hr₀] at hstep
    exact (hstep.not_done).elim
  | more ts₀ s₁₀ =>
    rw [hr₀] at hstep htokens
    obtain ⟨ts, s₁, word', hr, ⟨front, rfl⟩, hnext, hts, hstop⟩ := hstep.inv
    obtain ⟨others, hothers, rfl⟩ := Option.map_eq_some_iff.1 htokens
    cases fuel with
    | zero => cases hothers
    | succ fuel =>
      have hplain := List.forall_mem_append.1 hplain
      have hend' : ∀ t ∈ others.getLast?, t.span.stop.offset = text.length := fun t ht =>
        hend t (by rw [List.getLast?_append, ht]; rfl)
      have hne' : word' ≠ [] → others ≠ [] := by
        rintro hword' rfl
        rw [List.append_nil] at hend hne
        have hlast := List.getLast?_eq_some_getLast (hne hword)
        have hstop := hstop _ (List.getLast_mem (hne hword))
        rw [hend _ hlast] at hstop
        exact hword' (List.length_eq_zero_iff.1 (by omega))
      obtain ⟨steps, us, s', s₀', hsteps, hreaches, hus, hbeside, hbrackets⟩ :=
        ih hnext (fun hword' => (hj hword).behind hword') hplain.2 hend' hne' rfl hothers
      exact ⟨steps + 1, ts ++ us, s', s₀', Nat.succ_le_succ hsteps,
        (Scanner.Reaches.step hr).trans hreaches, List.rel_append (hts hplain.1) hus, hbeside,
        hbrackets⟩

end Scanner.Beside

end Refactory.Grammar
