import Mathlib.Data.List.Forall2
import Refactory.Grammar.TermReader
import Refactory.Proofs.Grammar.Mark

/-! # A stretch of tokens in two places

A stretch of tokens in which brackets match is read alike wherever it stands, if what comes behind it
is nothing with which a reader goes on. `Agrees` says so of a reader: on stretches that are alike, in
front of tokens at which it stops, it fails in both places or succeeds in both, and then leaves
stretches that are alike. A function without a name counts as a bracket, which its colon closes. For
each way to build readers there is a rule; brackets have one of their own (`Encloses`), since what
stands in them is read up to the bracket that closes them, whatever comes behind. -/

namespace Refactory.Grammar

/-! ## Tokens that are alike -/

/-- Which positions correspond, as the start of a token and as the end of one. -/
structure Places where
  starts : Position → Position → Prop
  stops : Position → Position → Prop

/-- Whether a lexeme is a string. -/
def Lexeme.isString : Lexeme → Bool
  | .string .. => true
  | _ => false

theorem Lexeme.isString_mark (l : Lexeme) : l.mark.isString = l.isString := by
  cases l with
  | string marks body => simp only [Lexeme.mark]; split <;> rfl
  | _ => rfl

/-- The same lexeme. Of strings, the characters count and not where they stand, and there are no fields
in them. -/
inductive Lexeme.Alike : Lexeme → Lexeme → Prop
  | refl {l : Lexeme} (h : l.isString = false) : Alike l l
  | string {marks : StringMarks} (hmarks : marks.formatted = false) {body body' : Passage}
    (h : body.chars.map (·.char) = body'.chars.map (·.char)) :
    Alike (.string marks body) (.string marks body')

/-- Both ends correspond. -/
structure Span.Alike (P : Places) (s s' : Span) : Prop where
  start : P.starts s.start s'.start
  stop : P.stops s.stop s'.stop

/-- The same lexeme in places that correspond. -/
structure Token.Alike (P : Places) (t t' : Token) : Prop where
  lexeme : t.lexeme.Alike t'.lexeme
  span : t.span.Alike P t'.span

theorem Lexeme.Alike.mark {l l' : Lexeme} (h : l.Alike l') : l.mark = l'.mark := by
  cases h with
  | refl => rfl
  | string _ h => rw [Lexeme.mark, Lexeme.mark, h]

theorem Lexeme.Alike.isLayout {l l' : Lexeme} (h : l.Alike l') : l.isLayout = l'.isLayout := by
  cases h <;> rfl

theorem Lexeme.Alike.symbol {s : String} {l : Lexeme} (h : Lexeme.Alike (.symbol s) l) :
    l = .symbol s := by
  cases h
  rfl

theorem Lexeme.Alike.symbol_iff {l l' : Lexeme} (h : l.Alike l') (s : String) :
    l = .symbol s ↔ l' = .symbol s := by
  cases h with
  | refl => rfl
  | string => exact ⟨nofun, nofun⟩

/-! ## Brackets -/

/-- What closes a bracket, or the parameters of a function without a name. -/
def closer? : Lexeme → Option String
  | .symbol "(" => some ")"
  | .symbol "[" => some "]"
  | .symbol "\x7b" => some "\x7d"
  | .symbol "lambda" => some ":"
  | _ => none

/-- The closing brackets. -/
def isCloser : Lexeme → Bool
  | .symbol ")" | .symbol "]" | .symbol "\x7d" => true
  | _ => false

/-- Neither a bracket nor what is followed by parameters without brackets. -/
def Lexeme.isPlain (l : Lexeme) : Bool := (closer? l).isNone && !isCloser l

theorem Lexeme.Alike.isPlain {l l' : Lexeme} (h : l.Alike l') : l.isPlain = l'.isPlain := by
  cases h <;> rfl

/-- Brackets match in a stretch; a colon stands alone in it only where `colon` allows that. -/
inductive Balanced : Bool → List Token → Prop
  | nil {colon : Bool} : Balanced colon []
  | plain {colon : Bool} {t : Token} {ts : List Token} (ht : t.lexeme.isPlain = true)
    (hcolon : t.lexeme = .symbol ":" → colon = true) (h : Balanced colon ts) :
    Balanced colon (t :: ts)
  | group {colon : Bool} {t c : Token} {inner ts : List Token} {close : String}
    (ht : closer? t.lexeme = some close) (hc : c.lexeme = .symbol close)
    (hinner : Balanced (close != ":") inner) (h : Balanced colon ts) :
    Balanced colon (t :: (inner ++ c :: ts))

/-- What closes a bracket does not come first in a stretch. -/
theorem Balanced.head_ne {colon : Bool} {t : Token} {ts : List Token} (h : Balanced colon (t :: ts))
    {close : String} (hclose : close ∈ [")", "]", "\x7d"] ∨ close = ":" ∧ colon = false) :
    t.lexeme ≠ .symbol close := by
  intro heq
  cases h with
  | plain ht hcolon _ =>
    obtain hmem | ⟨rfl, rfl⟩ := hclose
    · simp only [List.mem_cons, List.not_mem_nil, or_false] at hmem
      rw [heq] at ht
      obtain rfl | rfl | rfl := hmem <;> cases ht
    · cases hcolon heq
  | group ht _ _ _ =>
    rw [heq] at ht
    obtain hmem | ⟨rfl, -⟩ := hclose
    · simp only [List.mem_cons, List.not_mem_nil, or_false] at hmem
      obtain rfl | rfl | rfl := hmem <;> cases ht
    · cases ht

/-! ## Readers in two places -/

/-- What stands behind a stretch in the two places begins with a mark of `B`. -/
inductive Followed (P : Places) (B : Mark → Prop) : List Token → List Token → Prop
  | mk {y z : Token} {ys zs : List Token} (left : B y.lexeme.mark) (right : B z.lexeme.mark)
    (start : P.starts y.span.start z.span.start) : Followed P B (y :: ys) (z :: zs)

/-- The results of a reader in the two places: it fails in both, or gives values that are related and
leaves stretches that are alike, with at least `least` tokens fewer than the `size` there were. -/
inductive Outcome {α β : Type} (P : Places) (colon : Bool) (size least : Nat) (R : α → β → Prop)
    (Y Z : List Token) : Option (α × Cursor) → Option (β × Cursor) → Prop
  | fails : Outcome P colon size least R Y Z none none
  | gives {a : α} {b : β} {T U : List Token} {last last' : Position} (value : R a b)
    (alike : List.Forall₂ (Token.Alike P) T U) (balanced : Balanced colon T)
    (length : T.length + least ≤ size) (stop : P.stops last last') :
    Outcome P colon size least R Y Z (some (a, ⟨T ++ Y, last⟩)) (some (b, ⟨U ++ Z, last'⟩))

/-- On a stretch of at most `most` tokens in front of marks of `B`, the readers have the same outcome,
and take at least `least` tokens. -/
def Agrees {α β : Type} (P : Places) (B : Mark → Prop) (colon : Bool) (most least : Nat)
    (R : α → β → Prop) (p : Reader α) (q : Reader β) : Prop :=
  ∀ (T U Y Z : List Token) (last last' : Position), List.Forall₂ (Token.Alike P) T U →
    Balanced colon T → T.length ≤ most → Followed P B Y Z → P.stops last last' →
    Outcome P colon T.length least R Y Z (p ⟨T ++ Y, last⟩) (q ⟨U ++ Z, last'⟩)

variable {α β γ δ : Type} {P : Places} {B : Mark → Prop} {colon : Bool} {most least : Nat}
  {R : α → β → Prop} {R' : γ → δ → Prop} {p : Reader α} {q : Reader β} {f : α → Reader γ}
  {g : β → Reader δ}

theorem Outcome.mono {Y Z : List Token} {size least' : Nat} {R₂ : α → β → Prop}
    {x : Option (α × Cursor)} {y : Option (β × Cursor)} (h : Outcome P colon size least R Y Z x y)
    (hleast : least' ≤ least) (hR : ∀ a b, R a b → R₂ a b) :
    Outcome P colon size least' R₂ Y Z x y := by
  cases h with
  | fails => exact .fails
  | gives value alike balanced length stop =>
    exact .gives (hR _ _ value) alike balanced (by omega) stop

theorem run_bind (p : Reader α) (f : α → Reader γ) (c : Cursor) :
    (p >>= f) c = (p c).bind fun x => f x.1 x.2 := rfl

/-- A token more at the start that was taken. -/
theorem Outcome.longer {Y Z : List Token} {size : Nat} {x : Option (α × Cursor)}
    {y : Option (β × Cursor)} (h : Outcome P colon size least R Y Z x y) :
    Outcome P colon (size + 1) (least + 1) R Y Z x y := by
  cases h with
  | fails => exact .fails
  | gives value alike balanced length stop =>
    exact .gives value alike balanced (by omega) stop

namespace Agrees

theorem mono {most' least' : Nat} {R₂ : α → β → Prop} (h : Agrees P B colon most least R p q)
    (hmost : most' ≤ most) (hleast : least' ≤ least) (hR : ∀ a b, R a b → R₂ a b) :
    Agrees P B colon most' least' R₂ p q := fun T U Y Z last last' halike hbalanced hlength hbehind hstop =>
  (h T U Y Z last last' halike hbalanced (Nat.le_trans hlength hmost) hbehind hstop).mono hleast hR

/-- What holds behind tokens that were taken. -/
theorem inner {n : Nat} (h : Agrees P B colon most least R p q) :
    Agrees P B colon (most - n) 0 R p q := h.mono (Nat.sub_le _ _) (Nat.zero_le _) fun _ _ => id

/-- What takes tokens also does where it need not. -/
theorem free (h : Agrees P B colon most least R p q) : Agrees P B colon most 0 R p q :=
  h.mono (Nat.le_refl _) (Nat.zero_le _) fun _ _ => id

theorem pure {a : α} {b : β} (h : R a b) : Agrees P B colon most 0 R (Pure.pure a) (Pure.pure b) :=
  fun _ _ _ _ _ _ halike hbalanced _ _ hstop => .gives h halike hbalanced (Nat.le_refl _) hstop

theorem fail : Agrees P B colon most least R Reader.fail Reader.fail :=
  fun _ _ _ _ _ _ _ _ _ _ _ => .fails

/-- A sequence takes as many tokens as its parts. -/
theorem seq {first : Nat} (h : Agrees P B colon most first R p q)
    (hf : ∀ a b, R a b → Agrees P B colon (most - first) least R' (f a) (g b)) :
    Agrees P B colon most (first + least) R' (p >>= f) (q >>= g) := by
  intro T U Y Z last last' halike hbalanced hlength hbehind hstop
  rw [run_bind, run_bind]
  have hfirst := h _ _ _ _ _ _ halike hbalanced hlength hbehind hstop
  generalize p ⟨T ++ Y, last⟩ = x at hfirst ⊢
  generalize q ⟨U ++ Z, last'⟩ = y at hfirst ⊢
  cases hfirst with
  | fails => exact .fails
  | gives value alike balanced length stop =>
    have hrest := hf _ _ value _ _ _ _ _ _ alike balanced (by omega) hbehind stop
    simp only [Option.bind_some]
    generalize f _ _ = x at hrest ⊢
    generalize g _ _ = y at hrest ⊢
    cases hrest with
    | fails => exact .fails
    | gives value alike balanced length' stop =>
      exact .gives value alike balanced (by omega) stop

/-- A sequence whose first reader takes the tokens that have to be taken. -/
theorem bind (h : Agrees P B colon most least R p q)
    (hf : ∀ a b, R a b → Agrees P B colon (most - least) 0 R' (f a) (g b)) :
    Agrees P B colon most least R' (p >>= f) (q >>= g) := h.seq hf

/-- A sequence whose first reader need not take tokens. -/
theorem past (h : Agrees P B colon most 0 R p q)
    (hf : ∀ a b, R a b → Agrees P B colon most least R' (f a) (g b)) :
    Agrees P B colon most least R' (p >>= f) (q >>= g) := by
  rw [← Nat.zero_add least]
  exact h.seq hf

/-- A sequence whose first reader takes the tokens that have to be taken, in front of one for which
those count as well. -/
theorem also (h : Agrees P B colon most least R p q)
    (hf : ∀ a b, R a b → Agrees P B colon most 0 R' (f a) (g b)) :
    Agrees P B colon most least R' (p >>= f) (q >>= g) :=
  h.bind fun a b hab => (hf a b hab).mono (Nat.sub_le _ _) (Nat.le_refl _) fun _ _ => id

/-- A sequence that need not take tokens. -/
theorem next (h : Agrees P B colon most least R p q)
    (hf : ∀ a b, R a b → Agrees P B colon most 0 R' (f a) (g b)) :
    Agrees P B colon most 0 R' (p >>= f) (q >>= g) :=
  h.free.also hf

/-- A sequence that takes a token more than is asked for behind it. -/
theorem first {behind : Nat} (hmost : most ≤ behind + 1) (h : Agrees P B colon most 1 R p q)
    (hf : ∀ a b, R a b → Agrees P B colon behind 0 R' (f a) (g b)) :
    Agrees P B colon most 1 R' (p >>= f) (q >>= g) :=
  h.bind fun a b hab => (hf a b hab).mono (by omega) (Nat.le_refl _) fun _ _ => id

/-- At the end of a stretch, readers that take nothing. -/
theorem at_end (h : ∀ Y Z last last', Followed P B Y Z → P.stops last last' → ∃ a b, R a b ∧
    p ⟨Y, last⟩ = Option.some (a, ⟨Y, last⟩) ∧ q ⟨Z, last'⟩ = Option.some (b, ⟨Z, last'⟩)) :
    Agrees P B colon 0 0 R p q := by
  intro T U Y Z last last' halike hbalanced hlength hbehind hstop
  obtain rfl := List.length_eq_zero_iff.1 (Nat.le_zero.1 hlength)
  cases halike
  obtain ⟨a, b, hab, hp, hq⟩ := h Y Z last last' hbehind hstop
  rw [List.nil_append, List.nil_append, hp, hq]
  exact @Outcome.gives _ _ P colon 0 0 R Y Z a b [] [] last last' hab .nil .nil (Nat.le_refl _) hstop

theorem map {g : α → γ} {g' : β → δ} (h : Agrees P B colon most least R p q)
    (hg : ∀ a b, R a b → R' (g a) (g' b)) :
    Agrees P B colon most least R' (g <$> p) (g' <$> q) := by
  rw [← bind_pure_comp, ← bind_pure_comp]
  exact h.bind fun a b hab => .pure (hg a b hab)

/-- Branches that are taken together. -/
theorem branch {c c' : Prop} [Decidable c] [Decidable c'] {p' : Reader α} {q' : Reader β}
    (hc : c ↔ c') (h : c → Agrees P B colon most least R p q)
    (h' : ¬ c → Agrees P B colon most least R p' q') :
    Agrees P B colon most least R (if c then p else p') (if c' then q else q') := by
  by_cases hcond : c
  · rw [if_pos hcond, if_pos (hc.1 hcond)]
    exact h hcond
  · rw [if_neg hcond, if_neg (mt hc.2 hcond)]
    exact h' hcond

theorem ite {c : Prop} [Decidable c] {p' : Reader α} {q' : Reader β}
    (h : c → Agrees P B colon most least R p q) (h' : ¬ c → Agrees P B colon most least R p' q') :
    Agrees P B colon most least R (if c then p else p') (if c then q else q') :=
  branch Iff.rfl h h'

/-! ### Positions -/

theorem here : Agrees P B colon most 0 P.starts here here := by
  intro T U Y Z last last' halike hbalanced hlength hbehind hstop
  refine .gives ?_ halike hbalanced (Nat.le_refl _) hstop
  cases halike with
  | nil =>
    cases hbehind with
    | mk left right start => exact start
  | cons ht _ => exact ht.span.start

theorem spanFrom {start start' : Position} (h : P.starts start start') :
    Agrees P B colon most 0 (Span.Alike P) (spanFrom start) (spanFrom start') :=
  fun _ _ _ _ _ _ halike hbalanced _ _ hstop =>
    .gives ⟨h, hstop⟩ halike hbalanced (Nat.le_refl _) hstop

/-! ### Single tokens -/

/-- Where the next token decides, it is one of the stretch that is no bracket; brackets and what stands
behind the stretch are refused. -/
theorem advance {f : Lexeme → Reader γ} {g : Lexeme → Reader δ}
    (h : ∀ l l', l.Alike l' → l.isPlain = true → Agrees P B colon (most - 1) least R' (f l) (g l'))
    (hbracket : ∀ l, l.isPlain = false → ∀ c, f l c = none ∧ g l c = none)
    (hbehind : ∀ l, B l.mark → ∀ c, f l c = none ∧ g l c = none) :
    Agrees P B colon most (least + 1) R' (advance >>= f) (advance >>= g) := by
  intro T U Y Z last last' halike hbalanced hlength hfollowed hstop
  cases halike with
  | nil =>
    cases hfollowed with
    | @mk y z ys zs left right start =>
      have hf := (hbehind _ left ⟨ys, if y.lexeme.isLayout then last else y.span.stop⟩).1
      have hg := (hbehind _ right ⟨zs, if z.lexeme.isLayout then last' else z.span.stop⟩).2
      change Outcome P colon 0 (least + 1) R' _ _ (f _ _) (g _ _)
      rw [hf, hg]
      exact .fails
  | @cons t u T U ht htail =>
    change Outcome P colon _ (least + 1) R' Y Z
      (f t.lexeme ⟨T ++ Y, if t.lexeme.isLayout then last else t.span.stop⟩)
      (g u.lexeme ⟨U ++ Z, if u.lexeme.isLayout then last' else u.span.stop⟩)
    have hlast : P.stops (if t.lexeme.isLayout then last else t.span.stop)
        (if u.lexeme.isLayout then last' else u.span.stop) := by
      rw [← ht.lexeme.isLayout]
      split
      · exact hstop
      · exact ht.span.stop
    cases hbalanced with
    | plain hplain hcolon hrest =>
      have hrest := h _ _ ht.lexeme hplain _ _ _ _ _ _ htail hrest
        (Nat.le_sub_one_of_lt hlength) hfollowed hlast
      exact hrest.longer
    | group hopen hclose hinner hrest =>
      have hplain : t.lexeme.isPlain = false := by rw [Lexeme.isPlain, hopen]; rfl
      rw [(hbracket _ hplain _).1, (hbracket u.lexeme (ht.lexeme.isPlain ▸ hplain) _).2]
      exact .fails

end Agrees

/-! ### Symbols -/

section

variable {text : String} {t : Token} {ts : List Token} {last : Position}

theorem nextIs_of_head (h : t.lexeme = .symbol text) :
    nextIs text ⟨t :: ts, last⟩ = some (true, ⟨t :: ts, last⟩) := by
  obtain ⟨lexeme, span⟩ := t
  cases h
  change some (text == text, _) = _
  rw [beq_self_eq_true]

theorem nextIs_of_other (h : ∀ t ∈ ts.head?, t.lexeme ≠ .symbol text) :
    nextIs text ⟨ts, last⟩ = some (false, ⟨ts, last⟩) := by
  cases ts with
  | nil => rfl
  | cons t ts =>
    obtain ⟨lexeme, span⟩ := t
    have hne := h _ rfl
    cases lexeme with
    | symbol s =>
      have hs : (s == text) = false := beq_eq_false_iff_ne.2 fun heq => hne (congrArg _ heq)
      change some (s == text, _) = _
      rw [hs]
    | _ => rfl

theorem accept_of_head (h : t.lexeme = .symbol text) :
    accept text ⟨t :: ts, last⟩ = some (true, ⟨ts, t.span.stop⟩) := by
  have hnext : nextIs text ⟨t :: ts, last⟩ = some (true, ⟨t :: ts, last⟩) := nextIs_of_head h
  have hlayout : t.lexeme.isLayout = false := by rw [h]; rfl
  have hadvance : advance ⟨t :: ts, last⟩ = some (t.lexeme, ⟨ts, t.span.stop⟩) := by
    simp only [advance, hlayout, Bool.false_eq_true, if_false]
  rw [accept, run_bind, hnext]
  change (do let _ ← advance; return true : Reader Bool) _ = _
  rw [run_bind, hadvance]
  rfl

theorem accept_of_other (h : ∀ t ∈ ts.head?, t.lexeme ≠ .symbol text) :
    accept text ⟨ts, last⟩ = some (false, ⟨ts, last⟩) := by
  rw [accept, run_bind, nextIs_of_other h]
  rfl

theorem expect_of_head (h : t.lexeme = .symbol text) :
    expect text ⟨t :: ts, last⟩ = some ((), ⟨ts, t.span.stop⟩) := by
  rw [expect, run_bind, accept_of_head h]
  rfl

theorem expect_of_other (h : ∀ t ∈ ts.head?, t.lexeme ≠ .symbol text) :
    expect text ⟨ts, last⟩ = none := by
  simp [expect, bind, StateT.bind, accept_of_other h, Reader.fail]

end

/-- A symbol that does not stand behind the stretches comes next in both or in neither. -/
theorem head_cases {text : String} {T U Y Z : List Token} (halike : List.Forall₂ (Token.Alike P) T U)
    (hfollowed : Followed P B Y Z) (hB : ¬ B (.symbol text)) :
    (∃ t u T' U', T = t :: T' ∧ U = u :: U' ∧ t.lexeme = .symbol text ∧ u.lexeme = .symbol text ∧
      t.Alike P u ∧ List.Forall₂ (Token.Alike P) T' U') ∨
    (∀ t ∈ (T ++ Y).head?, t.lexeme ≠ .symbol text) ∧
      ∀ t ∈ (U ++ Z).head?, t.lexeme ≠ .symbol text := by
  have hne : ∀ l : Lexeme, B l.mark → l ≠ .symbol text := by
    rintro l hl rfl
    exact hB hl
  cases halike with
  | nil =>
    cases hfollowed with
    | mk left right _ =>
      refine .inr ⟨fun t ht => ?_, fun t ht => ?_⟩
      · cases ht
        exact hne _ left
      · cases ht
        exact hne _ right
  | @cons t u T U ht htail =>
    by_cases h : t.lexeme = .symbol text
    · exact .inl ⟨t, u, T, U, rfl, rfl, h, (ht.lexeme.symbol_iff text).1 h, ht, htail⟩
    · refine .inr ⟨fun t' ht' => ?_, fun u' hu' => ?_⟩
      · cases ht'
        exact h
      · cases hu'
        exact fun hu => h ((ht.lexeme.symbol_iff text).2 hu)

/-- Behind a plain token, brackets match as well. -/
theorem Balanced.tail {t : Token} {ts : List Token} (h : Balanced colon (t :: ts))
    (ht : t.lexeme.isPlain = true) : Balanced colon ts := by
  cases h with
  | plain _ _ h => exact h
  | group hopen _ _ _ =>
    rw [Lexeme.isPlain, hopen] at ht
    cases ht

namespace Agrees

variable {text : String}

theorem nextIs (hB : ¬ B (.symbol text)) :
    Agrees P B colon most 0 (· = ·) (nextIs text) (nextIs text) := by
  intro T U Y Z last last' halike hbalanced hlength hfollowed hstop
  obtain ⟨t, u, T', U', rfl, rfl, ht, hu, -⟩ | ⟨hT, hU⟩ := head_cases halike hfollowed hB
  · rw [List.cons_append, List.cons_append, nextIs_of_head ht, nextIs_of_head hu]
    exact .gives rfl halike hbalanced (Nat.le_refl _) hstop
  · rw [nextIs_of_other hT, nextIs_of_other hU]
    exact .gives rfl halike hbalanced (Nat.le_refl _) hstop

theorem accept (hplain : (Lexeme.symbol text).isPlain = true) (hB : ¬ B (.symbol text)) :
    Agrees P B colon most 0 (· = ·) (accept text) (accept text) := by
  intro T U Y Z last last' halike hbalanced hlength hfollowed hstop
  obtain ⟨t, u, T', U', rfl, rfl, ht, hu, htu, htail⟩ | ⟨hT, hU⟩ := head_cases halike hfollowed hB
  · rw [List.cons_append, List.cons_append, accept_of_head ht, accept_of_head hu]
    exact .gives rfl htail (hbalanced.tail (ht ▸ hplain)) (by simp) htu.span.stop
  · rw [accept_of_other hT, accept_of_other hU]
    exact .gives rfl halike hbalanced (Nat.le_refl _) hstop

theorem expect (hplain : (Lexeme.symbol text).isPlain = true) (hB : ¬ B (.symbol text)) :
    Agrees P B colon most 1 (fun _ _ => True) (expect text) (expect text) := by
  intro T U Y Z last last' halike hbalanced hlength hfollowed hstop
  obtain ⟨t, u, T', U', rfl, rfl, ht, hu, htu, htail⟩ | ⟨hT, hU⟩ := head_cases halike hfollowed hB
  · rw [List.cons_append, List.cons_append, expect_of_head ht, expect_of_head hu]
    exact .gives trivial htail (hbalanced.tail (ht ▸ hplain)) (by simp) htu.span.stop
  · rw [expect_of_other hT, expect_of_other hU]
    exact .fails

/-- A branch behind a symbol, and one without it. -/
theorem ifAccept {p' q' : Reader γ} {p q : Reader δ} {behind : Nat} (hmost : most ≤ behind + 1)
    (hplain : (Lexeme.symbol text).isPlain = true) (hB : ¬ B (.symbol text))
    (hp : Agrees P B colon behind (least - 1) R' p' p) (hq : Agrees P B colon most least R' q' q) :
    Agrees P B colon most least R' (do if ← Grammar.accept text then p' else q')
      (do if ← Grammar.accept text then p else q) := by
  intro T U Y Z last last' halike hbalanced hlength hfollowed hstop
  obtain ⟨t, u, T', U', rfl, rfl, ht, hu, htu, htail⟩ | ⟨hT, hU⟩ := head_cases halike hfollowed hB
  · rw [List.length_cons] at hlength
    have hrest := hp _ _ _ _ _ _ htail (hbalanced.tail (ht ▸ hplain)) (by omega) hfollowed
      htu.span.stop
    rw [List.cons_append, List.cons_append, run_bind, run_bind, accept_of_head ht, accept_of_head hu]
    exact hrest.longer.mono (by omega) fun _ _ => id
  · rw [run_bind, run_bind, accept_of_other hT, accept_of_other hU]
    exact hq _ _ _ _ _ _ halike hbalanced hlength hfollowed hstop

theorem ifNext {p' q' : Reader γ} {p q : Reader δ} (hB : ¬ B (.symbol text))
    (hp : Agrees P B colon most least R' p' p) (hq : Agrees P B colon most least R' q' q) :
    Agrees P B colon most least R' (do if ← Grammar.nextIs text then p' else q')
      (do if ← Grammar.nextIs text then p else q) := by
  refine (Agrees.nextIs hB).past ?_
  rintro b _ rfl
  exact .ite (fun _ => hp) fun _ => hq

/-! ### Repetition -/

theorem optional (h : Agrees P B colon most least R p q) :
    Agrees P B colon most 0 (Option.Rel R) (Reader.optional p) (Reader.optional q) := by
  intro T U Y Z last last' halike hbalanced hlength hfollowed hstop
  have hone := h _ _ _ _ _ _ halike hbalanced hlength hfollowed hstop
  rw [Reader.optional, Reader.optional]
  generalize p ⟨T ++ Y, last⟩ = x at hone ⊢
  generalize q ⟨U ++ Z, last'⟩ = y at hone ⊢
  cases hone with
  | fails => exact .gives .none halike hbalanced (Nat.le_refl _) hstop
  | gives value alike balanced length stop =>
    exact .gives (.some value) alike balanced (by omega) stop

theorem or {p' : Reader α} {q' : Reader β} (h : Agrees P B colon most least R p q)
    (h' : Agrees P B colon most least R p' q') :
    Agrees P B colon most least R (p.or p') (q.or q') := by
  intro T U Y Z last last' halike hbalanced hlength hfollowed hstop
  have hfirst := h _ _ _ _ _ _ halike hbalanced hlength hfollowed hstop
  have hsecond := h' _ _ _ _ _ _ halike hbalanced hlength hfollowed hstop
  rw [Reader.or, Reader.or]
  generalize p ⟨T ++ Y, last⟩ = x at hfirst ⊢
  generalize q ⟨U ++ Z, last'⟩ = y at hfirst ⊢
  cases hfirst with
  | fails => exact hsecond
  | gives value alike balanced length stop => exact .gives value alike balanced length stop

/-- A reader that takes tokens fails where the stretch is at its end. -/
theorem fails_at_end (h : Agrees P B colon most 1 R p q) {Y Z : List Token} {last last' : Position}
    (hfollowed : Followed P B Y Z) (hstop : P.stops last last') :
    p ⟨Y, last⟩ = none ∧ q ⟨Z, last'⟩ = none := by
  have hone := h [] [] Y Z last last' .nil .nil (Nat.zero_le _) hfollowed hstop
  rw [List.nil_append, List.nil_append] at hone
  generalize p ⟨Y, last⟩ = x at hone ⊢
  generalize q ⟨Z, last'⟩ = y at hone ⊢
  cases hone with
  | fails => exact ⟨rfl, rfl⟩
  | gives _ _ _ length _ => cases length

theorem manyFuel (h : Agrees P B colon most 1 R p q) {fuel fuel' : Nat} {T U Y Z : List Token}
    {last last' : Position} (halike : List.Forall₂ (Token.Alike P) T U)
    (hbalanced : Balanced colon T) (hlength : T.length ≤ most) (hfollowed : Followed P B Y Z)
    (hstop : P.stops last last') (hfuel : T.length ≤ fuel) (hfuel' : T.length ≤ fuel') :
    Outcome P colon T.length 0 (List.Forall₂ R) Y Z (Reader.manyFuel p fuel ⟨T ++ Y, last⟩)
      (Reader.manyFuel q fuel' ⟨U ++ Z, last'⟩) := by
  induction fuel generalizing fuel' T U last last' with
  | zero =>
    obtain rfl := List.length_eq_zero_iff.1 (Nat.le_zero.1 hfuel)
    cases halike
    have hend : Reader.manyFuel q fuel' ⟨[] ++ Z, last'⟩ = Option.some ([], ⟨[] ++ Z, last'⟩) := by
      cases fuel' with
      | zero => rfl
      | succ fuel' =>
        simp only [Reader.manyFuel, List.nil_append, (h.fails_at_end hfollowed hstop).2]
    rw [hend]
    exact .gives .nil .nil .nil (Nat.le_refl _) hstop
  | succ fuel ih =>
    cases fuel' with
    | zero =>
      obtain rfl := List.length_eq_zero_iff.1 (Nat.le_zero.1 hfuel')
      cases halike
      simp only [Reader.manyFuel, List.nil_append, (h.fails_at_end hfollowed hstop).1]
      exact @Outcome.gives _ _ P colon 0 0 _ Y Z [] [] [] [] last last' .nil .nil .nil (Nat.le_refl _)
        hstop
    | succ fuel' =>
      have hone := h _ _ _ _ _ _ halike hbalanced hlength hfollowed hstop
      simp only [Reader.manyFuel]
      generalize p ⟨T ++ Y, last⟩ = x at hone ⊢
      generalize q ⟨U ++ Z, last'⟩ = y at hone ⊢
      cases hone with
      | fails => exact .gives .nil halike hbalanced (Nat.le_refl _) hstop
      | @gives a b T' U' l l' value alike balanced length stop =>
        have hmost : T'.length ≤ most := by omega
        have hfewer : T'.length ≤ fuel ∧ T'.length ≤ fuel' := by omega
        have hrest := ih alike balanced hmost stop hfewer.1 hfewer.2
        dsimp only
        generalize Reader.manyFuel p fuel ⟨T' ++ Y, l⟩ = x at hrest ⊢
        generalize Reader.manyFuel q fuel' ⟨U' ++ Z, l'⟩ = y at hrest ⊢
        cases hrest with
        | fails => exact .fails
        | gives values alike balanced length' stop =>
          exact .gives (.cons value values) alike balanced (by omega) stop

theorem many (h : Agrees P B colon most 1 R p q) :
    Agrees P B colon most 0 (List.Forall₂ R) (Reader.many p) (Reader.many q) :=
  fun T U Y Z last last' halike hbalanced hlength hfollowed hstop =>
    h.manyFuel halike hbalanced hlength hfollowed hstop (by simp) (by simp [halike.length_eq])

theorem some (h : Agrees P B colon most 1 R p q) :
    Agrees P B colon most 1 (List.Forall₂ R) (Reader.some p) (Reader.some q) :=
  h.bind fun _ _ hab => h.many.inner.bind fun _ _ has => .pure (.cons hab has)

/-- Items with commas between them. -/
theorem commaSeparated (h : Agrees P B colon most 1 R p q) (hB : ¬ B (.symbol ",")) :
    Agrees P B colon most 1 (fun x y => List.Forall₂ R x.1 y.1 ∧ x.2 = y.2)
      (Grammar.commaSeparated p) (Grammar.commaSeparated q) := by
  have hrest : Agrees P B colon most 1 R (do Grammar.expect ","; p) (do Grammar.expect ","; q) :=
    (Agrees.expect rfl hB).bind fun _ _ _ => h.inner
  refine h.bind fun _ _ hab => hrest.many.inner.bind fun _ _ has => (Agrees.accept rfl hB).bind ?_
  rintro c _ rfl
  exact .pure ⟨.cons hab has, rfl⟩

end Agrees

/-! ## What stands in brackets -/

/-- Readers that take nothing and succeed. -/
def Stays {α β : Type} (P : Places) (R : α → β → Prop) (p : Reader α) (q : Reader β) : Prop :=
  ∀ (X Z : List Token) (last last' : Position), P.stops last last' →
    ∃ a b, R a b ∧ p ⟨X, last⟩ = some (a, ⟨X, last⟩) ∧ q ⟨Z, last'⟩ = some (b, ⟨Z, last'⟩)

/-- On a stretch in front of a symbol that closes it, the readers fail in both places, or take the stretch
and the symbol, whatever stands behind. -/
def Encloses {α β : Type} (P : Places) (close : String) (most : Nat) (R : α → β → Prop)
    (p : Reader α) (q : Reader β) : Prop :=
  ∀ (I J X Z : List Token) (c d : Token) (last last' : Position),
    List.Forall₂ (Token.Alike P) I J → Balanced (close != ":") I → I.length ≤ most →
    c.lexeme = .symbol close → c.Alike P d → P.stops last last' →
    p ⟨I ++ c :: X, last⟩ = none ∧ q ⟨J ++ d :: Z, last'⟩ = none ∨
    ∃ a b, R a b ∧ p ⟨I ++ c :: X, last⟩ = some (a, ⟨X, c.span.stop⟩) ∧
      q ⟨J ++ d :: Z, last'⟩ = some (b, ⟨Z, d.span.stop⟩)

namespace Stays

theorem pure {a : α} {b : β} (h : R a b) : Stays P R (Pure.pure a) (Pure.pure b) :=
  fun _ _ _ _ _ => ⟨a, b, h, rfl, rfl⟩

theorem spanFrom {start start' : Position} (h : P.starts start start') {f : Span → Reader γ}
    {g : Span → Reader δ} (hf : ∀ s s' : Span, s.Alike P s' → Stays P R' (f s) (g s')) :
    Stays P R' (spanFrom start >>= f) (spanFrom start' >>= g) := fun X Z last last' hstop => by
  obtain ⟨a, b, hab, hp, hq⟩ := hf ⟨start, last⟩ ⟨start', last'⟩ ⟨h, hstop⟩ X Z last last' hstop
  exact ⟨a, b, hab, hp, hq⟩

end Stays

namespace Encloses

variable {close : String}

theorem mono {most' : Nat} (h : Encloses P close most R p q) (hmost : most' ≤ most) :
    Encloses P close most' R p q :=
  fun I J X Z c d last last' hIJ hI hlength =>
    h I J X Z c d last last' hIJ hI (Nat.le_trans hlength hmost)

theorem fail : Encloses P close most R Reader.fail Reader.fail :=
  fun _ _ _ _ _ _ _ _ _ _ _ _ _ _ => .inl ⟨rfl, rfl⟩

theorem branch {c c' : Prop} [Decidable c] [Decidable c'] {p' : Reader α} {q' : Reader β}
    (hc : c ↔ c') (h : Encloses P close most R p q) (h' : Encloses P close most R p' q') :
    Encloses P close most R (if c then p else p') (if c' then q else q') := by
  by_cases hcond : c
  · rwa [if_pos hcond, if_pos (hc.1 hcond)]
  · rwa [if_neg hcond, if_neg (mt hc.2 hcond)]

theorem ite {c : Prop} [Decidable c] {p' : Reader α} {q' : Reader β}
    (h : Encloses P close most R p q) (h' : Encloses P close most R p' q') :
    Encloses P close most R (if c then p else p') (if c then q else q') := branch Iff.rfl h h'

/-- A reader of the stretch, then what closes it. -/
theorem bind (h : Agrees P (· = .symbol close) (close != ":") most least R p q)
    (hf : ∀ a b, R a b → Encloses P close most R' (f a) (g b)) :
    Encloses P close most R' (p >>= f) (q >>= g) := by
  intro I J X Z c d last last' hIJ hI hlength hc hcd hstop
  have hd : d.lexeme = .symbol close := (hcd.lexeme.symbol_iff close).1 hc
  have hfollowed : Followed P (· = .symbol close) (c :: X) (d :: Z) :=
    .mk (by rw [hc]; rfl) (by rw [hd]; rfl) hcd.span.start
  have hfirst := h _ _ _ _ _ _ hIJ hI hlength hfollowed hstop
  rw [run_bind, run_bind]
  generalize p ⟨I ++ c :: X, last⟩ = x at hfirst ⊢
  generalize q ⟨J ++ d :: Z, last'⟩ = y at hfirst ⊢
  cases hfirst with
  | fails => exact .inl ⟨rfl, rfl⟩
  | gives value alike balanced length stop =>
    exact hf _ _ value _ _ X Z c d _ _ alike balanced (by omega) hc hcd stop

theorem symbol_cases (hclose : close ∈ [")", "]", "\x7d"] ∨ close = ":") {I J X Z : List Token}
    {c d : Token} (hIJ : List.Forall₂ (Token.Alike P) I J) (hI : Balanced (close != ":") I)
    (hc : c.lexeme = .symbol close) (hcd : c.Alike P d) :
    (I = [] ∧ J = [] ∧ d.lexeme = .symbol close) ∨
      (∀ t ∈ (I ++ c :: X).head?, t.lexeme ≠ .symbol close) ∧
        ∀ t ∈ (J ++ d :: Z).head?, t.lexeme ≠ .symbol close := by
  cases hIJ with
  | nil => exact .inl ⟨rfl, rfl, (hcd.lexeme.symbol_iff close).1 hc⟩
  | @cons t u I J ht htail =>
    have hne : t.lexeme ≠ .symbol close :=
      hI.head_ne (hclose.imp_right fun h => ⟨h, by rw [h]; rfl⟩)
    refine .inr ⟨fun t' ht' => ?_, fun u' hu' => ?_⟩
    · cases ht'
      exact hne
    · cases hu'
      exact fun hu => hne ((ht.lexeme.symbol_iff close).2 hu)

/-- What closes the stretch comes next. -/
theorem expect (hclose : close ∈ [")", "]", "\x7d"] ∨ close = ":") (h : Stays P R p q) :
    Encloses P close most R (do expect close; p) (do expect close; q) := by
  intro I J X Z c d last last' hIJ hI hlength hc hcd hstop
  obtain ⟨rfl, rfl, hd⟩ | ⟨hI, hJ⟩ := symbol_cases (X := X) (Z := Z) hclose hIJ hI hc hcd
  · rw [List.nil_append, List.nil_append, run_bind, run_bind, expect_of_head hc, expect_of_head hd]
    exact .inr (h X Z c.span.stop d.span.stop hcd.span.stop)
  · rw [run_bind, run_bind, expect_of_other hI, expect_of_other hJ]
    exact .inl ⟨rfl, rfl⟩

/-- Nothing stands in the brackets, or something does. -/
theorem ifAccept (hclose : close ∈ [")", "]", "\x7d"] ∨ close = ":") {p' : Reader α} {q' : Reader β}
    (h : Stays P R p q) (h' : Encloses P close most R p' q') :
    Encloses P close most R (do if ← accept close then p else p')
      (do if ← accept close then q else q') := by
  intro I J X Z c d last last' hIJ hI hlength hc hcd hstop
  obtain ⟨rfl, rfl, hd⟩ | ⟨hX, hZ⟩ := symbol_cases (X := X) (Z := Z) hclose hIJ hI hc hcd
  · rw [List.nil_append, List.nil_append, run_bind, run_bind, accept_of_head hc, accept_of_head hd]
    exact .inr (h X Z c.span.stop d.span.stop hcd.span.stop)
  · rw [run_bind, run_bind, accept_of_other hX, accept_of_other hZ]
    exact h' I J X Z c d last last' hIJ hI hlength hc hcd hstop

end Encloses

/-- What closes the stretch comes next, or something else. -/
theorem Agrees.ifClosed {close : String} {p' : Reader α} {q' : Reader β}
    (hclose : close ∈ [")", "]", "\x7d"] ∨ close = ":")
    (h : Agrees P (· = .symbol close) (close != ":") 0 least R p q)
    (h' : Agrees P (· = .symbol close) (close != ":") most least R p' q') :
    Agrees P (· = .symbol close) (close != ":") most least R
      (do if ← Grammar.nextIs close then p else p') (do if ← Grammar.nextIs close then q else q') := by
  intro T U Y Z last last' halike hbalanced hlength hfollowed hstop
  cases hfollowed with
  | @mk y z ys zs left right start =>
    have hy : y.lexeme = .symbol close := Lexeme.mark_symbol.1 left
    have hz : z.lexeme = .symbol close := Lexeme.mark_symbol.1 right
    cases halike with
    | nil =>
      rw [List.nil_append, List.nil_append, run_bind, run_bind, nextIs_of_head hy, nextIs_of_head hz]
      exact h [] [] _ _ _ _ .nil .nil (Nat.le_refl 0) (.mk left right start) hstop
    | @cons t u T U ht htail =>
      have hne : t.lexeme ≠ .symbol close :=
        hbalanced.head_ne (hclose.imp_right fun h => ⟨h, by rw [h]; rfl⟩)
      have hne' : u.lexeme ≠ .symbol close := fun hu => hne ((ht.lexeme.symbol_iff close).2 hu)
      have hT : ∀ t' ∈ (t :: T ++ y :: ys).head?, t'.lexeme ≠ .symbol close := fun t' ht' => by
        cases ht'
        exact hne
      have hU : ∀ u' ∈ (u :: U ++ z :: zs).head?, u'.lexeme ≠ .symbol close := fun u' hu' => by
        cases hu'
        exact hne'
      rw [run_bind, run_bind, nextIs_of_other hT, nextIs_of_other hU]
      exact h' _ _ _ _ _ _ (.cons ht htail) hbalanced hlength (.mk left right start) hstop

theorem forall₂_split {A C : Type} {S : A → C → Prop} {I T : List A} {c : A} {U : List C}
    (h : List.Forall₂ S (I ++ c :: T) U) : ∃ J d V, U = J ++ d :: V ∧ List.Forall₂ S I J ∧ S c d ∧
      List.Forall₂ S T V := by
  induction I generalizing U with
  | nil =>
    cases h with
    | cons hc hT => exact ⟨[], _, _, rfl, .nil, hc, hT⟩
  | cons a I ih =>
    cases h with
    | cons ha h =>
      obtain ⟨J, d, V, rfl, hI, hc, hT⟩ := ih h
      exact ⟨_ :: J, d, V, rfl, .cons ha hI, hc, hT⟩

/-- Behind an opening bracket, what is taken in the one place up to the one that closes it is taken in
the other. -/
theorem Encloses.success {close : String} {t u : Token} {T U Y Z : List Token} {b : β} {c : Cursor}
    (h : Encloses P close most R p q) (ht : closer? t.lexeme = some close)
    (hbalanced : Balanced colon (t :: T)) (halike : List.Forall₂ (Token.Alike P) T U)
    (hlength : T.length ≤ most) (htu : P.stops t.span.stop u.span.stop)
    (hq : q ⟨U ++ Z, u.span.stop⟩ = some (b, c)) :
    ∃ a T' U' last last', R a b ∧ p ⟨T ++ Y, t.span.stop⟩ = some (a, ⟨T' ++ Y, last⟩) ∧
      c = ⟨U' ++ Z, last'⟩ ∧ List.Forall₂ (Token.Alike P) T' U' ∧ Balanced colon T' ∧
      T'.length < T.length ∧ P.stops last last' := by
  cases hbalanced with
  | plain hplain _ _ =>
    rw [Lexeme.isPlain, ht] at hplain
    cases hplain
  | @group _ _ d I ts close' ht' hd hI hts =>
    obtain rfl : close' = close := Option.some.inj (ht'.symm.trans ht)
    obtain ⟨J, d', V, rfl, hIJ, hdd', hTV⟩ := forall₂_split halike
    rw [List.length_append, List.length_cons] at hlength
    rw [List.append_assoc, List.cons_append] at hq
    rcases h I J (ts ++ Y) (V ++ Z) d d' _ _ hIJ hI (by omega) hd hdd' htu with
      ⟨-, hnone⟩ | ⟨a, b', hab, hp, hq'⟩
    · rw [hnone] at hq
      cases hq
    · obtain ⟨rfl, rfl⟩ := Prod.mk.inj (Option.some.inj (hq'.symm.trans hq))
      refine ⟨a, ts, V, _, _, hab, ?_, rfl, hTV, hts, ?_, hdd'.span.stop⟩
      · rw [List.append_assoc, List.cons_append]
        exact hp
      · rw [List.length_append, List.length_cons]
        omega

/-- Behind an opening bracket, what stands in the brackets and then what stands behind them. -/
theorem Encloses.behind {close : String} {t u : Token} {T U Y Z : List Token}
    (h : Encloses P close most R p q)
    (hf : ∀ a b, R a b → Agrees P B colon most least R' (f a) (g b))
    (ht : closer? t.lexeme = some close) (hbalanced : Balanced colon (t :: T))
    (halike : List.Forall₂ (Token.Alike P) T U) (hlength : T.length ≤ most)
    (hfollowed : Followed P B Y Z) (htu : P.stops t.span.stop u.span.stop) :
    Outcome P colon (T.length + 1) (least + 2) R' Y Z ((p >>= f) ⟨T ++ Y, t.span.stop⟩)
      ((q >>= g) ⟨U ++ Z, u.span.stop⟩) := by
  cases hbalanced with
  | plain hplain _ _ =>
    rw [Lexeme.isPlain, ht] at hplain
    cases hplain
  | @group _ _ c I ts close' ht' hc hI hts =>
    obtain rfl : close' = close := Option.some.inj (ht'.symm.trans ht)
    obtain ⟨J, d, V, rfl, hIJ, hcd, hTV⟩ := forall₂_split halike
    rw [List.length_append, List.length_cons] at hlength
    rw [run_bind, run_bind, List.append_assoc, List.append_assoc, List.cons_append, List.cons_append]
    rcases h I J (ts ++ Y) (V ++ Z) c d _ _ hIJ hI (by omega) hc hcd htu with
      ⟨hp, hq⟩ | ⟨a, b, hab, hp, hq⟩
    · rw [hp, hq]
      exact .fails
    · rw [hp, hq]
      have hrest := hf a b hab _ _ _ _ _ _ hTV hts (by omega) hfollowed hcd.span.stop
      simp only [Option.bind_some]
      generalize f a ⟨ts ++ Y, c.span.stop⟩ = x at hrest ⊢
      generalize g b ⟨V ++ Z, d.span.stop⟩ = y at hrest ⊢
      cases hrest with
      | fails => exact .fails
      | gives value alike balanced length stop =>
        refine .gives value alike balanced ?_ stop
        rw [List.length_append, List.length_cons]
        omega

namespace Agrees

variable {text close : String} (hopen : closer? (.symbol text) = Option.some close) (hB : ¬ B (.symbol text))
  (h : Encloses P close most R p q)
  (hf : ∀ a b, R a b → Agrees P B colon most 0 R' (f a) (g b))

include hopen hB h hf

/-- Brackets that have to come. -/
theorem expectOpen : Agrees P B colon (most + 1) 1 R' (do Grammar.expect text; p >>= f)
    (do Grammar.expect text; q >>= g) := by
  intro T U Y Z last last' halike hbalanced hlength hfollowed hstop
  obtain ⟨t, u, T', U', rfl, rfl, ht, hu, htu, htail⟩ | ⟨hT, hU⟩ := head_cases halike hfollowed hB
  · rw [List.cons_append, List.cons_append, run_bind, run_bind, expect_of_head ht, expect_of_head hu]
    exact (h.behind hf (ht ▸ hopen) hbalanced htail (Nat.le_of_succ_le_succ hlength) hfollowed
      htu.span.stop).mono (by omega) fun _ _ => id
  · rw [run_bind, run_bind, expect_of_other hT, expect_of_other hU]
    exact .fails

/-- Brackets, or something else. -/
theorem ifOpen {p' : Reader γ} {q' : Reader δ} (hleast : least ≤ 2)
    (h' : Agrees P B colon (most + 1) least R' p' q') :
    Agrees P B colon (most + 1) least R' (do if ← Grammar.accept text then p >>= f else p')
      (do if ← Grammar.accept text then q >>= g else q') := by
  intro T U Y Z last last' halike hbalanced hlength hfollowed hstop
  obtain ⟨t, u, T', U', rfl, rfl, ht, hu, htu, htail⟩ | ⟨hT, hU⟩ := head_cases halike hfollowed hB
  · rw [List.cons_append, List.cons_append, run_bind, run_bind, accept_of_head ht, accept_of_head hu]
    exact (h.behind hf (ht ▸ hopen) hbalanced htail (Nat.le_of_succ_le_succ hlength) hfollowed
      htu.span.stop).mono (by omega) fun _ _ => id
  · rw [run_bind, run_bind, accept_of_other hT, accept_of_other hU]
    exact h' _ _ _ _ _ _ halike hbalanced hlength hfollowed hstop

end Agrees

end Refactory.Grammar
