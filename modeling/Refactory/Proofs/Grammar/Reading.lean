import Refactory.Proofs.Grammar.Setting

/-! # What readers do

A reader is described by what it takes from the marks that come next (`Takes`) and by where it fails
(`Rejects`): whatever the places of the tokens are. For each basic reader there is a rule for the
sequence that begins with it, and repetition goes on as long as there are items
(`Takes.many`). -/

namespace Refactory.Grammar

variable [Setting] {α β : Type} {p q : Reader α} {f : α → Reader β} {ms rest : List Mark}
  {post : β → List Mark → Prop}

/-- The reader succeeds; what it gives and what comes next afterwards satisfy `post`. -/
def Succeeds (p : Reader α) (c : Cursor) (post : α → List Mark → Prop) : Prop :=
  ∃ a c' ms', p c = some (a, c') ∧ Shows c'.rest ms' ∧ post a ms'

/-- Wherever the marks come next, the reader succeeds. -/
def Takes (p : Reader α) (ms : List Mark) (post : α → List Mark → Prop) : Prop :=
  ∀ c : Cursor, Shows c.rest ms → Succeeds p c post

/-- Wherever the marks come next, the reader fails. -/
def Rejects (p : Reader α) (ms : List Mark) : Prop := ∀ c : Cursor, Shows c.rest ms → p c = none

/-! ## Sequences -/

theorem Takes.pure {a : α} {post : α → List Mark → Prop} (h : post a ms) :
    Takes (Pure.pure a) ms post := fun c hc => ⟨a, c, ms, rfl, hc, h⟩

theorem Takes.mono {R post : α → List Mark → Prop} (h : Takes p ms R)
    (h' : ∀ a ms', R a ms' → post a ms') : Takes p ms post := fun c hc => by
  obtain ⟨a, c', ms', hp, hc', hmid⟩ := h c hc
  exact ⟨a, c', ms', hp, hc', h' a _ hmid⟩

theorem Takes.bind {R : α → List Mark → Prop} (h : Takes p ms R)
    (h' : ∀ a ms', R a ms' → Takes (f a) ms' post) : Takes (p >>= f) ms post := fun c hc => by
  obtain ⟨a, c', ms', hp, hc', hmid⟩ := h c hc
  obtain ⟨b, c'', ms'', hf, hpost⟩ := h' a _ hmid c' hc'
  refine ⟨b, c'', ms'', ?_, hpost⟩
  change (p c).bind (fun x => f x.1 x.2) = _
  rw [hp]
  exact hf

/-- A reader whose value does not matter, then a reader of what it leaves. -/
theorem Takes.past {k : List Mark} (h : Takes p ms fun _ ms' => ms' = k)
    (h' : ∀ a, Takes (f a) k post) : Takes (p >>= f) ms post :=
  h.bind fun a _ hms => hms ▸ h' a

/-- A reader that leaves marks which are known, then a reader of these. -/
theorem Takes.next {P : α → Prop} {k : List Mark} (h : Takes p ms fun a ms' => P a ∧ ms' = k)
    (h' : ∀ a, P a → Takes (f a) k post) : Takes (p >>= f) ms post :=
  h.bind fun a _ ha => ha.2 ▸ h' a ha.1

theorem Takes.next_eq {a : α} {k : List Mark} (h : Takes p ms fun x ms' => x = a ∧ ms' = k)
    (h' : Takes (f a) k post) : Takes (p >>= f) ms post := h.next fun _ hx => hx ▸ h'

theorem Takes.pure_bind {a : α} (h : Takes (f a) ms post) : Takes (Pure.pure a >>= f) ms post := h

theorem Takes.map {f : α → β} {R : α → List Mark → Prop} (h : Takes p ms R)
    (h' : ∀ a ms', R a ms' → post (f a) ms') : Takes (f <$> p) ms post := fun c hc => by
  obtain ⟨a, c', ms', hp, hc', hmid⟩ := h c hc
  refine ⟨f a, c', ms', ?_, hc', h' a _ hmid⟩
  change (p c).bind (fun x => some (f x.1, x.2)) = _
  rw [hp]
  rfl

theorem Rejects.bind (h : Rejects p ms) : Rejects (p >>= f) ms := fun c hc => by
  change (p c).bind (fun x => f x.1 x.2) = _
  rw [h c hc]
  rfl

theorem Takes.rejects {R : α → List Mark → Prop} (h : Takes p ms R)
    (h' : ∀ a ms', R a ms' → Rejects (f a) ms') : Rejects (p >>= f) ms := fun c hc => by
  obtain ⟨a, c', ms', hp, hc', hmid⟩ := h c hc
  change (p c).bind (fun x => f x.1 x.2) = _
  rw [hp]
  exact h' a _ hmid c' hc'

theorem rejects_fail : Rejects (Reader.fail : Reader α) ms := fun _ _ => rfl

/-! ## Marks -/

theorem takes_here {f : Position → Reader β} (h : ∀ at_, Takes (f at_) ms post) :
    Takes (here >>= f) ms post :=
  Takes.past (fun c hc => ⟨_, c, ms, rfl, hc, rfl⟩) h

theorem takes_spanFrom {start : Position} {f : Span → Reader β} (h : ∀ span, Takes (f span) ms post) :
    Takes (spanFrom start >>= f) ms post :=
  Takes.past (fun c hc => ⟨_, c, ms, rfl, hc, rfl⟩) h

theorem advance_takes {m : Mark} (hm : m.tokens = [m]) :
    Takes advance (m :: ms) fun l ms' => l.mark = m ∧ ms' = ms := fun c hc => by
  obtain ⟨tokens, last⟩ := c
  obtain ⟨t, rest, rfl, ht, hrest⟩ := hc.head hm
  exact ⟨t.lexeme, _, ms, rfl, hrest, ht, rfl⟩

/-- Whatever takes a token fails if it fails for the first of those that come next. -/
theorem advance_rejects {f : Lexeme → Reader β}
    (h : ∀ l, next? ms = some l.mark → ∀ c, f l c = none) : Rejects (advance >>= f) ms := by
  rintro ⟨tokens, last⟩ hc
  cases tokens with
  | nil => rfl
  | cons t tokens => exact h t.lexeme hc.next_eq.symm _

theorem peek_takes : Takes peek ms fun l ms' => l.map Lexeme.mark = next? ms ∧ ms' = ms :=
  fun c hc => ⟨_, c, ms, rfl, hc, by rw [← hc.next_eq, Option.map_map]; rfl, rfl⟩

theorem peek_found {text : String} {f : Option Lexeme → Reader β}
    (hnext : next? ms = some (.symbol text)) (h : Takes (f (some (.symbol text))) ms post) :
    Takes (peek >>= f) ms post :=
  peek_takes.next fun next hl => by
    obtain ⟨l, rfl, hmark⟩ := Option.map_eq_some_iff.1 (hl.trans hnext)
    rw [Lexeme.mark_symbol.1 hmark]
    exact h

theorem peek_symbol {text : String} {f : Option Lexeme → Reader β}
    (h : Takes (f (some (.symbol text))) (.symbol text :: ms) post) :
    Takes (peek >>= f) (.symbol text :: ms) post := peek_found rfl h

theorem peek_name {id : Text} {f : Option Lexeme → Reader β}
    (h : Takes (f (some (.name id))) (.name id :: ms) post) :
    Takes (peek >>= f) (.name id :: ms) post :=
  peek_takes.next fun next hnext => by
    obtain ⟨l, rfl, hl⟩ := Option.map_eq_some_iff.1 hnext
    rw [Lexeme.mark_name.1 hl]
    exact h

theorem peek_newline {f : Option Lexeme → Reader β}
    (h : Takes (f (some .newline)) (.newline :: ms) post) : Takes (peek >>= f) (.newline :: ms) post :=
  peek_takes.next fun next hnext => by
    obtain ⟨l, rfl, hl⟩ := Option.map_eq_some_iff.1 hnext
    rw [Lexeme.mark_newline.1 hl]
    exact h

theorem nextIs_takes (text : String) :
    Takes (nextIs text) ms fun b ms' => b = decide (next? ms = some (.symbol text)) ∧ ms' = ms := by
  refine peek_takes.next fun l hl => ?_
  rw [← hl]
  cases l with
  | none => exact .pure ⟨by simp, rfl⟩
  | some l =>
    cases l with
    | symbol s => exact .pure ⟨by simp [Lexeme.mark, Bool.beq_eq_decide_eq], rfl⟩
    | string marks body => exact .pure ⟨by simp [Lexeme.mark_symbol], rfl⟩
    | _ => exact .pure ⟨by simp [Lexeme.mark], rfl⟩

theorem nextIs_hit (text : String) :
    Takes (nextIs text) (.symbol text :: ms) fun b ms' => b = true ∧ ms' = .symbol text :: ms :=
  (nextIs_takes text).mono fun _ _ h => ⟨by simp [h.1], h.2⟩

theorem nextIs_miss {text : String} (h : next? ms ≠ some (.symbol text)) :
    Takes (nextIs text) ms fun b ms' => b = false ∧ ms' = ms :=
  (nextIs_takes text).mono fun _ _ h' => ⟨by simp [h'.1, h], h'.2⟩

theorem accept_hit (text : String) :
    Takes (accept text) (.symbol text :: ms) fun b ms' => b = true ∧ ms' = ms := by
  refine (nextIs_hit text).next_eq ?_
  rw [if_pos rfl]
  exact (advance_takes rfl).bind fun _ _ h => .pure ⟨rfl, h.2⟩

theorem accept_miss {text : String} (h : next? ms ≠ some (.symbol text)) :
    Takes (accept text) ms fun b ms' => b = false ∧ ms' = ms := by
  refine (nextIs_miss h).next_eq ?_
  exact .pure ⟨rfl, rfl⟩

section

variable {p q : Reader β} {text : String}

theorem ifNext_found (hnext : next? ms = some (.symbol text)) (h : Takes p ms post) :
    Takes (do if ← nextIs text then p else q) ms post :=
  (nextIs_takes text).next_eq (by rw [decide_eq_true hnext, if_pos rfl]; exact h)

theorem ifNext_hit (h : Takes p (.symbol text :: ms) post) :
    Takes (do if ← nextIs text then p else q) (.symbol text :: ms) post := ifNext_found rfl h

theorem ifNext_miss (hne : next? ms ≠ some (.symbol text)) (h : Takes q ms post) :
    Takes (do if ← nextIs text then p else q) ms post :=
  (nextIs_miss hne).next_eq (by rw [if_neg Bool.false_ne_true]; exact h)

theorem ifAccept_hit (h : Takes p ms post) :
    Takes (do if ← accept text then p else q) (.symbol text :: ms) post :=
  (accept_hit text).next_eq (by rw [if_pos rfl]; exact h)

theorem ifAccept_miss (hne : next? ms ≠ some (.symbol text)) (h : Takes q ms post) :
    Takes (do if ← accept text then p else q) ms post :=
  (accept_miss hne).next_eq (by rw [if_neg Bool.false_ne_true]; exact h)

end

theorem expect_hit {text : String} {f : Unit → Reader β} (h : Takes (f ()) ms post) :
    Takes (expect text >>= f) (.symbol text :: ms) post :=
  Takes.past (ifAccept_hit (.pure rfl)) fun _ => h

theorem expect_miss {text : String} (h : next? ms ≠ some (.symbol text)) :
    Rejects (expect text) ms :=
  (accept_miss h).rejects fun b _ hb => by rw [hb.1]; exact rejects_fail

theorem refuse_pass {text : String} {f : Unit → Reader β} (hne : next? ms ≠ some (.symbol text))
    (h : Takes (f ()) ms post) : Takes (refuse text >>= f) ms post :=
  Takes.past (ifNext_miss hne (.pure rfl)) fun _ => h

theorem identifier_takes {id : Text} :
    Takes identifier (.name id :: ms) fun found ms' => found = id ∧ ms' = ms := by
  refine (advance_takes rfl).next fun l hl => ?_
  rw [Lexeme.mark_name.1 hl]
  exact .pure ⟨rfl, rfl⟩

theorem takeLayout_takes {isIt : Lexeme → Bool} {m : Mark} (hm : m.tokens = [m])
    (h : ∀ l : Lexeme, l.mark = m → isIt l = true) :
    Takes (takeLayout isIt) (m :: ms) fun _ ms' => ms' = ms := by
  refine (advance_takes hm).next fun l hl => ?_
  rw [h l hl, if_pos rfl]
  exact .pure rfl

theorem newline_takes : Takes newline (.newline :: ms) fun _ ms' => ms' = ms :=
  takeLayout_takes rfl fun l hl => by rw [Lexeme.mark_newline.1 hl]

theorem newline_miss (h : next? ms ≠ some .newline) : Rejects newline ms := by
  refine advance_rejects fun l hl c => ?_
  have hne : l ≠ .newline := fun heq => h (by rw [hl, heq]; rfl)
  cases l with
  | newline => exact (hne rfl).elim
  | _ => rfl

theorem indent_takes : Takes indent (.indent :: ms) fun _ ms' => ms' = ms :=
  takeLayout_takes rfl fun l hl => by
    cases l with
    | indent => rfl
    | string marks body => simp only [Lexeme.mark] at hl; split at hl <;> cases hl
    | _ => cases hl

theorem dedent_takes : Takes dedent (.dedent :: ms) fun _ ms' => ms' = ms :=
  takeLayout_takes rfl fun l hl => by
    cases l with
    | dedent => rfl
    | string marks body => simp only [Lexeme.mark] at hl; split at hl <;> cases hl
    | _ => cases hl

/-- Whether marks are a name and the symbol, and others behind them. -/
def namesThen (text : String) : List Mark → Bool
  | .name _ :: .symbol s :: _ => s == text
  | _ => false

/-- Whether a name comes next and the symbol behind it. -/
def isNameThen (text : String) (ms : List Mark) : Bool := namesThen text (ms.flatMap Mark.tokens)

theorem nameThen_takes (text : String) :
    Takes (nameThen text) ms fun b ms' => b = isNameThen text ms ∧ ms' = ms := fun c hc => by
  obtain ⟨tokens, last⟩ := c
  refine ⟨isNameThen text ms, _, ms, ?_, hc, rfl, rfl⟩
  rw [isNameThen, ← hc.tokens_eq]
  unfold nameThen
  split
  · rename_i heq
    cases heq
    rfl
  · rename_i hother
    unfold namesThen
    split
    · rename_i id s others heq
      obtain ⟨⟨lexeme, span⟩, rest, rfl, ht, hothers⟩ := List.map_eq_cons_iff.1 heq
      obtain ⟨⟨lexeme', span'⟩, rest', rfl, ht', -⟩ := List.map_eq_cons_iff.1 hothers
      cases Lexeme.mark_name.1 ht
      cases Lexeme.mark_symbol.1 ht'
      exact (hother _ _ _ _ _ rfl).elim
    · rfl

theorem ifNameThen_miss {p q : Reader β} {text : String} (hne : isNameThen text ms = false)
    (h : Takes q ms post) : Takes (do if ← nameThen text then p else q) ms post :=
  (nameThen_takes text).next_eq (by rw [hne, if_neg Bool.false_ne_true]; exact h)

theorem Takes.optional {R : α → List Mark → Prop} (h : Takes p ms R) :
    Takes (Reader.optional p) ms fun found ms' => ∃ a, found = some a ∧ R a ms' := fun c hc => by
  obtain ⟨a, c', ms', hp, hc', hmid⟩ := h c hc
  exact ⟨some a, c', ms', by simp only [Reader.optional, hp], hc', a, rfl, hmid⟩

theorem Takes.optional_none (h : Rejects p ms) :
    Takes (Reader.optional p) ms fun found ms' => found = none ∧ ms' = ms := fun c hc =>
  ⟨none, c, ms, by simp only [Reader.optional, h c hc], hc, rfl, rfl⟩

/-! ## Alternatives -/

theorem Takes.or_right {post : α → List Mark → Prop} (hp : Rejects p ms) (hq : Takes q ms post) :
    Takes (p.or q) ms post := fun c hc => by
  obtain ⟨a, c', ms', ha, hpost⟩ := hq c hc
  exact ⟨a, c', ms', by simp only [Reader.or, hp c hc, ha], hpost⟩

/-! ## Repetition -/

section

variable {γ : Type} {item : Reader α} {R : γ → α → Prop} {written : γ → List Mark}
  {after : List Mark}

theorem Takes.manyFuel (hafter : Rejects item after) {fuel : Nat} {xs : List γ}
    (hfuel : xs.length ≤ fuel)
    (hitem : ∀ x ys, x :: ys <:+ xs → Takes item (written x ++ (ys.flatMap written ++ after))
      fun a ms' => R x a ∧ ms' = ys.flatMap written ++ after) :
    Takes (Reader.manyFuel item fuel) (xs.flatMap written ++ after)
      fun as ms' => List.Forall₂ R xs as ∧ ms' = after := by
  induction xs generalizing fuel with
  | nil =>
    cases fuel with
    | zero => exact .pure ⟨.nil, rfl⟩
    | succ fuel => exact fun c hc => ⟨[], c, _, by simp only [Reader.manyFuel, hafter c hc], hc, .nil, rfl⟩
  | cons x xs ih =>
    cases fuel with
    | zero => cases hfuel
    | succ fuel =>
      intro c hc
      rw [List.flatMap_cons, List.append_assoc] at hc
      obtain ⟨a, c', _, ha, hc', hx, rfl⟩ := hitem x xs (List.suffix_refl _) c hc
      obtain ⟨as, c'', ms'', has, hc'', hxs, hms''⟩ := ih (Nat.le_of_succ_le_succ hfuel)
        (fun y ys hys => hitem y ys (hys.trans (List.suffix_cons x xs))) c' hc'
      exact ⟨a :: as, c'', ms'', by simp only [Reader.manyFuel, ha, has, Option.map_some], hc'',
        .cons hx hxs, hms''⟩

/-- Items that a reader takes one after the other are read up to where it fails. -/
theorem Takes.many (hafter : Rejects item after) {xs : List γ} (hwritten : ∀ x ∈ xs, written x ≠ [])
    (hitem : ∀ x ys, x :: ys <:+ xs → Takes item (written x ++ (ys.flatMap written ++ after))
      fun a ms' => R x a ∧ ms' = ys.flatMap written ++ after) :
    Takes (Reader.many item) (xs.flatMap written ++ after)
      fun as ms' => List.Forall₂ R xs as ∧ ms' = after := by
  intro c hc
  refine Takes.manyFuel hafter ?_ hitem c hc
  have hlength := hc.length_le
  rw [List.length_append] at hlength
  have hle : xs.length ≤ (xs.flatMap written).length := by
    clear hitem hc hlength
    induction xs with
    | nil => exact Nat.le_refl 0
    | cons x xs ih =>
      rw [List.forall_mem_cons] at hwritten
      have hpos := List.length_pos_iff.2 hwritten.1
      have hrest := ih hwritten.2
      rw [List.flatMap_cons, List.length_append, List.length_cons]
      omega
  omega

/-- As long as there is an item at all. -/
theorem Takes.oneOrMore (hafter : Rejects item after) {x : γ} {xs : List γ}
    (hwritten : ∀ y, written y ≠ [])
    (hitem : ∀ y ys, y :: ys <:+ x :: xs → Takes item (written y ++ (ys.flatMap written ++ after))
      fun a ms' => R y a ∧ ms' = ys.flatMap written ++ after) :
    Takes (Reader.some item) ((x :: xs).flatMap written ++ after)
      fun as ms' => List.Forall₂ R (x :: xs) as ∧ ms' = after := by
  rw [List.flatMap_cons, List.append_assoc]
  refine (hitem x xs (List.suffix_refl _)).next fun a ha => ?_
  refine (Takes.many hafter (fun y _ => hwritten y) fun y ys hys =>
    hitem y ys (hys.trans (List.suffix_cons x xs))).next fun as has => ?_
  exact .pure ⟨.cons ha has, rfl⟩

/-- Where the reader fails at once, nothing is read. -/
theorem Takes.many_none (h : Rejects item after) :
    Takes (Reader.many item) after fun as ms' => as = [] ∧ ms' = after := by
  refine fun c hc => ⟨[], c, after, ?_, hc, rfl, rfl⟩
  unfold Reader.many
  cases c.rest.length with
  | zero => rfl
  | succ fuel => simp only [Reader.manyFuel, h c hc]

end

end Refactory.Grammar
