import Mathlib.Data.List.Count
import Mathlib.Data.List.Infix
import Refactory.Grammar.Lexer

/-! # The lines on which tokens begin

A token that is no layout begins at a character of the source (`tokenize_starts`). A line ends at a
line feed, at a carriage return or at both together, whereas the lines of a text are cut at line feeds
alone: the two agree as long as no carriage return stands alone (`placed_ended_until`). -/

namespace Refactory

/-- A carriage return that no line feed follows. -/
def Text.LoneReturn (t : Text) : Prop :=
  ∃ front back : Text, t = front ++ CodePoint.scalar '\r' :: back ∧
    back.head? ≠ some (CodePoint.scalar '\n')

theorem Text.LoneReturn.cons {t : Text} (h : t.LoneReturn) (c : CodePoint) :
    Text.LoneReturn (c :: t) := by
  obtain ⟨front, back, rfl, hback⟩ := h
  exact ⟨c :: front, back, rfl, hback⟩

theorem Text.length_splitOn (sep : CodePoint) (t : Text) :
    (t.splitOn sep).length = t.count sep + 1 := by
  induction t with
  | nil => rfl
  | cons c rest ih =>
    unfold Text.splitOn
    split
    · rename_i hnil
      simp [hnil] at ih
    · rename_i first others hcons
      rw [hcons] at ih
      by_cases hc : c = sep
      · simpa [hc] using ih
      · simpa [hc] using ih

namespace Grammar

/-! ## Characters with their places -/

/-- A position behind another one, with the given characters between them. -/
structure Position.Past (p : Position) (word : List Char) (q : Position) : Prop where
  offset : q.offset = p.offset + word.length
  line : q.line = p.line + word.count '\n'

theorem Position.Past.trans {p q r : Position} {xs ys : List Char} (h : p.Past xs q) (h' : q.Past ys r) :
    p.Past (xs ++ ys) r :=
  ⟨by rw [h'.offset, h.offset, List.length_append, Nat.add_assoc],
    by rw [h'.line, h.line, List.count_append, Nat.add_assoc]⟩

theorem placedFrom_cons {c : Char} (h : c ≠ '\r') (p : Position) (cs : List Char) :
    ∃ q, p.Past [c] q ∧ placedFrom p (c :: cs) = (placedFrom q cs).cons ⟨c, p⟩ := by
  rw [placedFrom.eq_3 p c cs fun _ hc _ => h hc]
  split
  · rename_i hline
    obtain rfl := hline.resolve_right h
    exact ⟨p.nextLine 1, ⟨rfl, rfl⟩, rfl⟩
  · rename_i hline
    refine ⟨p.after c, ⟨rfl, ?_⟩, rfl⟩
    rw [List.count_cons_of_ne fun heq => hline (.inl heq)]
    rfl

theorem placedFrom_here (p : Position) (cs : List Char) : (placedFrom p cs).here = p := by
  fun_cases placedFrom p cs <;> rfl

/-- Where no line ends with a carriage return, characters are placed one by one, whatever comes behind
them. -/
theorem placedFrom_front {front : List Char} (h : '\r' ∉ front) (p : Position) (back : List Char) :
    ∃ q, (placedFrom p (front ++ back)).chars.map (·.char) =
      front ++ (placedFrom q back).chars.map (·.char) := by
  induction front generalizing p with
  | nil => exact ⟨p, rfl⟩
  | cons c front ih =>
    rw [List.mem_cons, not_or] at h
    obtain ⟨p', -, hp'⟩ := placedFrom_cons (Ne.symm h.1) p (front ++ back)
    obtain ⟨q, hq⟩ := ih h.2 p'
    exact ⟨q, by rw [List.cons_append, hp', List.cons_append, ← hq]; rfl⟩

theorem placedFrom_chars {cs : List Char} (h : '\r' ∉ cs) (p : Position) :
    (placedFrom p cs).chars.map (·.char) = cs := by
  obtain ⟨q, hq⟩ := placedFrom_front h p []
  rwa [List.append_nil, placedFrom, List.map_nil, List.append_nil] at hq

theorem placedFrom_drop {word : List Char} (h : '\r' ∉ word) (p : Position) (cs : List Char) :
    ∃ q, p.Past word q ∧ (placedFrom p (word ++ cs)).drop word.length = placedFrom q cs := by
  induction word generalizing p with
  | nil => exact ⟨p, ⟨rfl, rfl⟩, rfl⟩
  | cons c word ih =>
    rw [List.mem_cons, not_or] at h
    obtain ⟨p', hp', heq⟩ := placedFrom_cons (Ne.symm h.1) p (word ++ cs)
    obtain ⟨q, hq, hdrop⟩ := ih h.2 p'
    refine ⟨q, hp'.trans hq, ?_⟩
    rw [List.cons_append, heq, ← hdrop]
    rfl

/-! ## Places -/

/-- No character of a passage stands below a line. -/
def Passage.Until (n : Nat) (s : Passage) : Prop := ∀ q ∈ s.chars, q.at_.line ≤ n

theorem placedFrom_until {cs : List Char} {p : Position} {n : Nat}
    (h : ¬ Text.LoneReturn (Text.ofChars cs)) (hn : p.line + cs.count '\n' ≤ n) :
    (placedFrom p cs).Until n ∧ (placedFrom p cs).stop.line ≤ n := by
  fun_induction placedFrom p cs with
  | case1 p => exact ⟨List.forall_mem_nil _, hn⟩
  | case2 p rest ih =>
    obtain ⟨hchars, hstop⟩ := ih (fun hlone => h ((hlone.cons _).cons _)) (by
      simp only [Position.nextLine]
      rw [List.count_cons_of_ne (by decide), List.count_cons_self] at hn
      omega)
    exact ⟨List.forall_mem_cons.2 ⟨by dsimp only; omega, hchars⟩, hstop⟩
  | case3 p c rest hother hc ih =>
    obtain rfl | rfl := hc
    · obtain ⟨hchars, hstop⟩ := ih (fun hlone => h (hlone.cons _)) (by
        simp only [Position.nextLine]
        rw [List.count_cons_self] at hn
        omega)
      exact ⟨List.forall_mem_cons.2 ⟨by dsimp only; omega, hchars⟩, hstop⟩
    · refine (h ⟨[], Text.ofChars rest, rfl, fun hhead => ?_⟩).elim
      cases rest with
      | nil => cases hhead
      | cons d rest => cases hhead; exact hother rest rfl rfl
  | case4 p c rest hother hc ih =>
    obtain ⟨hchars, hstop⟩ := ih (fun hlone => h (hlone.cons _)) (by
      simp only [Position.after]
      rw [List.count_cons_of_ne (fun heq => hc (.inl heq))] at hn
      omega)
    exact ⟨List.forall_mem_cons.2 ⟨by dsimp only; omega, hchars⟩, hstop⟩

theorem Passage.Until.ended {s : Passage} {n : Nat} (h : s.Until n) (hstop : s.stop.line ≤ n) :
    s.ended.Until n := by
  unfold Passage.ended
  split
  · exact h
  · split_ifs
    · exact h
    · exact List.forall_mem_append.2 ⟨h, List.forall_mem_singleton.2 hstop⟩

theorem length_lines (cs : List Char) : (Text.ofChars cs).lines.length = cs.count '\n' + 1 := by
  rw [Text.lines, Text.length_splitOn, Text.ofChars,
    List.count_map_of_injective _ _ fun a b hab => by cases hab; rfl]

/-- A source in which no carriage return stands alone has as many lines for its tokens as it has when
it is cut at line feeds. -/
theorem placed_ended_until {cs : List Char} (h : ¬ Text.LoneReturn (Text.ofChars cs)) :
    (placed cs).ended.Until (Text.ofChars cs).lines.length := by
  obtain ⟨hchars, hstop⟩ := placedFrom_until (p := {}) (n := cs.count '\n' + 1) h
    (Nat.le_of_eq (Nat.add_comm _ _))
  rw [length_lines]
  exact hchars.ended hstop

/-! ## Tokens -/

/-- A step of reading leaves a suffix of the characters, and a token that it gives is layout or begins
at one of them. -/
def Scan.From (chars : List Placed) : Scan → Prop
  | .more tokens next => next.rest.chars <:+ chars ∧
      ∀ t ∈ tokens, t.lexeme.isLayout = false → ∃ q ∈ chars, t.span.start = q.at_
  | .done | .failed => True

theorem continued_suffix {chars chars' : List Placed} (h : continued chars = some chars') :
    chars' <:+ chars := by
  unfold continued at h
  split at h
  · split_ifs at h
    cases h
    exact List.suffix_cons _ _
  · cases h

theorem indentation_suffix {fuel fixed : Nat} {column column' : Column} {chars chars' : List Placed}
    (h : indentation fuel column fixed chars = some (column', chars')) : chars' <:+ chars := by
  fun_induction indentation fuel column fixed chars with
  | case1 => cases h
  | case2 =>
    obtain ⟨-, rfl⟩ := Prod.mk.inj (Option.some.inj h)
    exact List.suffix_refl _
  | case3 _ _ _ _ _ _ ih | case4 _ _ _ _ _ _ _ ih | case5 _ _ _ _ _ _ _ _ ih =>
    exact (ih h).trans (List.suffix_cons _ _)
  | case6 _ _ _ _ _ _ _ _ _ ih =>
    obtain ⟨rest, hrest, h⟩ := Option.bind_eq_some_iff.1 h
    exact (ih rest h).trans ((continued_suffix hrest).trans (List.suffix_cons _ _))
  | case7 =>
    obtain ⟨-, rfl⟩ := Prod.mk.inj (Option.some.inj h)
    exact List.suffix_refl _

theorem layout_isLayout {at_ : Position} {column : Column} {levels levels' : List Column}
    {tokens : List Token} (h : layout at_ column levels = some (tokens, levels')) :
    ∀ t ∈ tokens, t.lexeme.isLayout = true := by
  unfold layout at h
  dsimp only at h
  split_ifs at h
  · cases h
    exact List.forall_mem_singleton.2 rfl
  · obtain ⟨⟨n, ls⟩, -, hx⟩ := Option.map_eq_some_iff.1 h
    cases hx
    intro t ht
    rw [List.eq_of_mem_replicate ht]
    rfl

theorem Scanner.line_from (s : Scanner) : s.line.From s.rest.chars := by
  unfold Scanner.line
  split
  · trivial
  · rename_i column chars hindentation
    have hsuffix := indentation_suffix hindentation
    dsimp only
    split_ifs
    · split
      · exact ⟨List.nil_suffix, List.forall_mem_nil _⟩
      · rename_i hdrop
        refine ⟨?_, List.forall_mem_nil _⟩
        have hrest := List.dropWhile_suffix (l := chars) fun q : Placed => decide (q.char ≠ '\n')
        rw [hdrop] at hrest
        exact ((List.suffix_cons _ _).trans hrest).trans hsuffix
    · exact ⟨hsuffix, List.forall_mem_nil _⟩
    · split
      · trivial
      · rename_i hlayout
        refine ⟨hsuffix, fun t ht hno => ?_⟩
        rw [layout_isLayout hlayout t ht] at hno
        cases hno

/-- What a step within a line gives: a token at its first character, or nothing. -/
theorem Scanner.emit_from {p : Placed} {more : List Placed} {s : Scanner}
    (h : s.rest.chars = p :: more) (n : Nat) (lexeme : Lexeme) :
    (s.emit n lexeme).From (p :: more) := by
  refine ⟨?_, List.forall_mem_singleton.2 fun _ => ⟨p, List.mem_cons_self, ?_⟩⟩
  · rw [← h]
    exact List.drop_suffix _ _
  · simp only [Passage.here, h]

theorem Scanner.numeral_from {p : Placed} {more : List Placed} {s : Scanner}
    (h : s.rest.chars = p :: more) : s.numeral.From (p :: more) := by
  unfold Scanner.numeral
  dsimp only
  split
  · trivial
  · exact Scanner.emit_from h _ _

theorem Scanner.wordOrSymbol_from {p : Placed} {more : List Placed} {s : Scanner}
    (h : s.rest.chars = p :: more) (c : Char) : (s.wordOrSymbol c).From (p :: more) := by
  have hemit := fun (s' : Scanner) (hs : s'.rest = s.rest) n lexeme =>
    Scanner.emit_from (s := s') (hs ▸ h) n lexeme
  unfold Scanner.wordOrSymbol Scanner.string Scanner.word Scanner.symbol
  dsimp only
  repeat' first | exact hemit _ rfl _ _ | exact trivial | split

theorem Scanner.inLine_from (s : Scanner) : s.inLine.From s.rest.chars := by
  unfold Scanner.inLine
  split
  · split <;> trivial
  · rename_i p more hchars
    have hdrop : (s.rest.drop 1).chars <:+ p :: more := by
      rw [← hchars]
      exact List.drop_suffix _ _
    rw [hchars]
    dsimp only
    split_ifs
    · exact ⟨hdrop, List.forall_mem_nil _⟩
    · exact ⟨(List.dropWhile_suffix _).trans (List.suffix_cons _ _), List.forall_mem_nil _⟩
    · exact Scanner.emit_from hchars _ _
    · exact ⟨hdrop, List.forall_mem_nil _⟩
    · split
      · trivial
      · rename_i hcontinued
        exact ⟨(continued_suffix hcontinued).trans (List.suffix_cons _ _), List.forall_mem_nil _⟩
    · exact Scanner.numeral_from hchars
    · exact Scanner.numeral_from hchars
    · exact Scanner.wordOrSymbol_from hchars _

theorem Scanner.tokens_starts {fuel : Nat} {tokens : List Token} {s : Scanner}
    (h : s.tokens fuel = some tokens) :
    ∀ t ∈ tokens, t.lexeme.isLayout = false → ∃ q ∈ s.rest.chars, t.span.start = q.at_ := by
  induction fuel generalizing s tokens with
  | zero => cases h
  | succ fuel ih =>
    have hfrom : s.step.From s.rest.chars := by
      unfold Scanner.step
      split
      · exact s.line_from
      · exact s.inLine_from
    unfold Scanner.tokens at h
    split at h
    · cases h
    · cases h
      exact List.forall_mem_nil _
    · rename_i first next hstep
      rw [hstep] at hfrom
      obtain ⟨rest, hrest, rfl⟩ := Option.map_eq_some_iff.1 h
      refine List.forall_mem_append.2 ⟨hfrom.2, fun t ht hlayout => ?_⟩
      obtain ⟨q, hq, hstart⟩ := ih hrest t ht hlayout
      exact ⟨q, hfrom.1.mem hq, hstart⟩

/-- A token that is no layout begins at a character. -/
theorem tokenize_starts {p : Passage} {tokens : List Token} (h : tokenize p = some tokens) :
    ∀ t ∈ tokens, t.lexeme.isLayout = false → ∃ q ∈ p.chars, t.span.start = q.at_ :=
  Scanner.tokens_starts h

end Grammar

end Refactory
