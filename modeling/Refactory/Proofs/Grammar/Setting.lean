import Refactory.Proofs.Grammar.Scanning

/-! # The tokens that marks stand for

A token stands for its own mark, and the tokens of a captured expression stand together for one
(`Shows`): they are those of its text alone, but that they stand where the text stands in the source that
is read (`Setting`). -/

namespace Refactory.Grammar

/-- The tokens that a mark stands for, without their places. -/
def Mark.tokens : Mark → List Mark
  | .captured kind text =>
    (Mark.captured kind text).first :: ((excerpt text).drop 1).map (·.lexeme.mark)
  | m => [m]

theorem Lexeme.tokens_mark (l : Lexeme) : l.mark.tokens = [l.mark] := by
  cases l with
  | string marks body => simp only [Lexeme.mark]; split <;> rfl
  | _ => rfl

theorem Lexeme.first_mark (l : Lexeme) : l.mark.first = l.mark := by
  cases l with
  | string marks body => simp only [Lexeme.mark]; split <;> rfl
  | _ => rfl

theorem Mark.tokens_captured (kind : Text) {text : List Char} (h : excerpt text ≠ []) :
    (Mark.captured kind text).tokens = (excerpt text).map (·.lexeme.mark) := by
  obtain ⟨t, ts, hts⟩ := List.exists_cons_of_ne_nil h
  rw [Mark.tokens, Mark.first, hts]
  rfl

theorem Mark.tokens_single {m : Mark} (h : ∀ kind text, m ≠ .captured kind text) : m.tokens = [m] := by
  cases m with
  | captured kind text => exact (h kind text rfl).elim
  | _ => rfl

theorem excerptWithin_eq {text : List Char} (h : excerpt text ≠ []) :
    excerptWithin (bracketsIn text) text = some (excerpt text) := by
  rw [excerpt] at h ⊢
  cases hwithin : excerptWithin (bracketsIn text) text with
  | none =>
    rw [hwithin] at h
    exact (h rfl).elim
  | some ts => rfl

theorem next?_eq (ms : List Mark) : next? ms = (ms.flatMap Mark.tokens).head? := by
  cases ms with
  | nil => rfl
  | cons m ms => cases m <;> rfl

theorem marks_alike {P : Places} {T U : List Token} (h : List.Forall₂ (Token.Alike P) T U) :
    T.map (·.lexeme.mark) = U.map (·.lexeme.mark) := by
  induction h with
  | nil => rfl
  | cons ht _ ih => rw [List.map_cons, List.map_cons, ih, ht.lexeme.mark]

/-- What is read: the characters of a source, and how many tokens a captured expression in it has at
most. -/
class Setting where
  chars : List Char
  deep : Nat

variable [Setting] {ts : List Token} {m : Mark} {ms : List Mark}

/-- A position is on the line on which its character stands in the source. -/
def Position.OnLine (p : Position) : Prop := p.line = (Setting.chars.take p.offset).count '\n' + 1

theorem Position.OnLine.past {p q : Position} {word : List Char} (h : p.OnLine)
    (hword : word <+: Setting.chars.drop p.offset) (hq : p.Past word q) : q.OnLine := by
  obtain ⟨rest, hrest⟩ := hword
  have htake : (Setting.chars.drop p.offset).take word.length = word := by
    rw [← hrest, List.take_left]
  rw [Position.OnLine, hq.line, h, hq.offset, List.take_add, List.count_append, htake]
  omega

/-- The tokens of a source that marks stand for. -/
inductive Shows : List Token → List Mark → Prop
  | nil : Shows [] []
  | token {t : Token} {ts : List Token} {ms : List Mark} (h : Shows ts ms) :
    Shows (t :: ts) (t.lexeme.mark :: ms)
  | captured {kind : Text} {text : List Char} {start : Position} {T : List Token} {y : Token}
    {ts : List Token} {ms : List Mark}
    (hT : List.Forall₂ (Token.Alike (edges start text.length text.length)) T (excerpt text))
    (hne : excerpt text ≠ []) (hdeep : (excerpt text).length ≤ Setting.deep)
    (hsource : text <+: Setting.chars.drop start.offset) (hline : start.OnLine)
    (h : Shows (y :: ts) ms) :
    Shows (T ++ y :: ts) (.captured kind text :: ms)

namespace Shows

theorem of_tokens (ts : List Token) : Shows ts (ts.map (·.lexeme.mark)) := by
  induction ts with
  | nil => exact .nil
  | cons t ts ih => exact .token ih

theorem tokens_eq (h : Shows ts ms) : ts.map (·.lexeme.mark) = ms.flatMap Mark.tokens := by
  induction h with
  | nil => rfl
  | token _ ih => rw [List.map_cons, List.flatMap_cons, Lexeme.tokens_mark, ih, List.singleton_append]
  | captured hT hne _ _ _ _ ih =>
    rw [List.map_append, List.flatMap_cons, marks_alike hT, ih, Mark.tokens_captured _ hne]

theorem next_eq (h : Shows ts ms) : ts.head?.map (·.lexeme.mark) = next? ms := by
  rw [next?_eq, ← h.tokens_eq, List.head?_map]

theorem length_le (h : Shows ts ms) : ms.length ≤ ts.length := by
  induction h with
  | nil => exact Nat.le_refl 0
  | token _ ih => exact Nat.succ_le_succ ih
  | captured hT hne _ _ _ _ ih =>
    have hpos := List.length_pos_iff.2 hne
    rw [List.length_append, hT.length_eq]
    rw [List.length_cons]
    omega

theorem nil_iff : Shows ts [] ↔ ts = [] := by
  refine ⟨fun h => ?_, fun h => h ▸ .nil⟩
  cases h
  rfl

/-- A mark that is no captured expression is that of a token. -/
theorem head (h : Shows ts (m :: ms)) (hm : m.tokens = [m]) :
    ∃ t rest, ts = t :: rest ∧ t.lexeme.mark = m ∧ Shows rest ms := by
  cases h with
  | token h => exact ⟨_, _, rfl, rfl, h⟩
  | captured _ hne =>
    rw [Mark.tokens_captured _ hne] at hm
    obtain ⟨t, -, ht⟩ := List.mem_map.1 (hm ▸ List.mem_singleton_self _)
    exact (t.lexeme.mark_ne_captured _ _ ht).elim

theorem append {us : List Token} {ms' : List Mark} (h : Shows ts ms) (h' : Shows us ms') :
    Shows (ts ++ us) (ms ++ ms') := by
  induction h with
  | nil => exact h'
  | token _ ih => exact .token ih
  | captured hT hne hdeep hsource hline _ ih =>
    rw [List.append_assoc, List.cons_append, List.cons_append]
    exact .captured hT hne hdeep hsource hline ih

end Shows

end Refactory.Grammar
