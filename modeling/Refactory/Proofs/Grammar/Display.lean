import Refactory.Proofs.Grammar.Level
import Refactory.Proofs.Rewrite.Perform

/-! # Atoms and displays

What the reader of atoms takes: names, literals, and whatever stands in brackets. The parts of a
display end in front of a comma, a colon or a closing bracket (`Ends`), and each is taken by the
readers inside (`Inner`, `Element`). -/

namespace Refactory

/-- Whether an expression is a star in front of another. -/
def Expr.isStarred : Expr → Bool
  | .starred _ => true
  | _ => false

namespace Grammar

variable {r : Readers} {ms after : List Mark} {e : Expr}

/-! ## Where parts end -/

/-- The marks that end a part of a display. -/
def closers : List Mark := [",", ")", "]", "\x7d", ":"].map .symbol

/-- A part of a display ends here. -/
def Ends (after : List Mark) : Prop := ∀ m ∈ after.head?, m ∈ closers

theorem ends_cons {m : Mark} (h : m ∈ closers) (ms : List Mark) : Ends (m :: ms) := fun _ hm => by
  cases hm
  exact h

theorem symbol_head_ne {text other : String} (h : text ≠ other) (ms : List Mark) :
    next? (Mark.symbol text :: ms) ≠ some (.symbol other) := fun heq =>
  h (Mark.symbol.inj (Option.some.inj heq))

theorem Ends.head_ne (h : Ends after) {m : Mark} (hm : m ∉ closers) : next? after ≠ some m := by
  intro heq
  obtain ⟨first, hfirst, rfl⟩ := Option.map_eq_some_iff.1 heq
  obtain ⟨text, -, rfl⟩ := List.mem_map.1 (h first hfirst)
  exact hm (h _ hfirst)

theorem Ends.clear (h : Ends after) (p : Precedence) : Clear p after := fun m hm => by
  have hattach : m.attach = 0 := by
    have hall : ∀ m ∈ closers, m.attach = 0 := by decide
    exact hall m (h m hm)
  rw [hattach]
  cases p <;> decide

variable [Setting]

/-- An expression as it stands between brackets: the reader takes it, and its first marks are neither a
name with a sign of assignment behind it nor anything but an expression. -/
structure Inner (r : Readers) (e : Expr) (ms : List Mark) : Prop where
  starred : e.isStarred = false
  opens : Opens Precedence.test.rank ms
  named : ∀ text after, (Mark.symbol text).attach = 0 → next? after ≠ some (.symbol text) →
    isNameThen text (ms ++ after) = false
  takes : ∀ after, Ends after → TakesExpr (r .expression) (ms ++ after) e after

omit [Setting] in
theorem capture_ok {o : Origin} {kind : Text} {span : Span} {t : Term}
    (h : capture o kind span t = .ok e) : ∃ source, e = .captured kind source := by
  dsimp only [capture] at h
  split at h
  · cases hcanonical : t.canonicalText with
    | error f => simp [hcanonical, Except.map] at h
    | ok text =>
      simp only [hcanonical, Except.map, Except.ok.injEq] at h
      exact ⟨_, h.symm⟩
  · exact ⟨_, (Except.ok.inj h).symm⟩

/-- Only a starred term stands for a starred expression. -/
theorem Term.Is.not_starred {t : Term} (h : t.Is e) (he : e.isStarred = false) :
    t.isStarred = false := by
  cases t with
  | starred value =>
    obtain ⟨v, -, hv⟩ := bind_ok.1 h.toExpr
    cases hv
    cases he
  | _ => rfl

/-! ## Atoms -/

theorem atom_name {id : Text} : TakesExpr (atom r) (.name id :: after) (.name id) after := by
  refine takes_here fun _ => peek_name ?_
  exact (advance_takes rfl).bind fun _ _ h => .pure ⟨⟨rfl, rfl⟩, h.2⟩

omit [Setting] in
theorem Lexeme.mark_number {l : Lexeme} {value : Number} :
    l.mark = .number value ↔ l = .number value := by
  cases l with
  | string marks body => simp only [Lexeme.mark]; split <;> simp
  | _ => simp [Lexeme.mark]

theorem atom_number {value : Number} :
    TakesExpr (atom r) (.number value :: after) (.number value) after := by
  refine takes_here fun _ => peek_takes.next fun next hnext => ?_
  obtain ⟨l, rfl, hl⟩ := Option.map_eq_some_iff.1 hnext
  rw [Lexeme.mark_number.1 hl]
  exact (advance_takes rfl).bind fun _ _ h => .pure ⟨⟨rfl, rfl⟩, h.2⟩

/-- A symbol leads to one of the forms of an atom. -/
theorem atom_symbol {text : String} {post : Term → List Mark → Prop}
    (h : ∀ start, Takes (do
      if text == "True" then return .truth true
      else if text == "False" then return .truth false
      else if text == "None" then return .noneLiteral
      else if text == "..." then return .ellipsis (← spanFrom start)
      else if text == "(" then parenthesis r start
      else if text == "[" then bracket r start
      else if text == "\x7b" then brace r start
      else Reader.fail) ms post) : Takes (atom r) (.symbol text :: ms) post := by
  refine takes_here fun start => peek_symbol ?_
  exact (advance_takes rfl).bind fun _ _ hadvance => hadvance.2 ▸ h start

theorem atom_truth (value : Bool) :
    TakesExpr (atom r) (.symbol (if value then "True" else "False") :: after) (.truth value) after := by
  cases value <;> exact atom_symbol fun _ => .pure ⟨⟨rfl, rfl⟩, rfl⟩

/-- No string comes next, which would be joined to a string in front of it. -/
def Apart (after : List Mark) : Prop := ∀ m ∈ after.head?, m.isString = false

omit [Setting] in
theorem Clear.apart (h : Clear .atom after) : Apart after := fun m hm => by
  have hattach := h m hm
  cases m with
  | string body => exact absurd hattach (Nat.lt_irrefl _)
  | other => exact absurd hattach (Nat.lt_irrefl _)
  | captured kind text => exact absurd hattach (Nat.lt_irrefl _)
  | _ => rfl

theorem stringToken_takes {body : List Char} :
    Takes stringToken (.string body :: ms) fun x ms' =>
      x.1 = {} ∧ x.2.chars.map (·.char) = body ∧ ms' = ms := by
  refine (advance_takes rfl).next fun l hl => ?_
  cases l with
  | string marks inside =>
    dsimp only [Lexeme.mark] at hl
    split at hl
    · exact .pure ⟨‹_›, Mark.string.inj hl, rfl⟩
    · cases hl
  | _ => cases hl

theorem stringToken_rejects (h : Apart after) : Rejects stringToken after := by
  refine advance_rejects fun l hl c => ?_
  cases l with
  | string marks inside =>
    obtain ⟨first, hfirst, hm⟩ := Option.map_eq_some_iff.1 hl
    have hstring := h first hfirst
    cases first with
    | captured kind text => cases hstring
    | _ =>
      dsimp only [Mark.first, Lexeme.mark] at hm
      split at hm <;> cases hm <;> cases hstring
  | _ => rfl

omit [Setting] in
theorem joinLiterals_plain {span : Span} {literal : StringMarks × Passage} {value : Text}
    (hmarks : literal.1 = {}) (h : unescape (literal.2.chars.map (·.char)) = some value) :
    joinLiterals r span [literal] = some (.string value false) := by
  obtain ⟨marks, body⟩ := literal
  subst hmarks
  have hparts : literalParts r {} body = some (Part.consText value []) := by
    simp only [literalParts, literalValue, h, Bool.false_eq_true, if_false, Option.map_some]
  simp only [joinLiterals, List.all_cons, List.any_cons, List.all_nil, List.any_nil, List.mapM_cons,
    List.mapM_nil, hparts]
  cases value with
  | nil => rfl
  | cons c value => simp [Part.consText, Part.append, bind, pure]

/-- A string literal is read alone, if no other comes behind it. -/
theorem stringTokens_single {body : List Char} (hafter : Apart after) :
    Takes (Reader.some stringToken) (.string body :: after) fun literals ms' =>
      (∃ literal : StringMarks × Passage, literals = [literal] ∧ literal.1 = {} ∧
        literal.2.chars.map (·.char) = body) ∧ ms' = after := by
  refine stringToken_takes.bind fun literal ms' ⟨hmarks, hbody, hms⟩ => ?_
  rw [hms]
  refine (Takes.many_none (stringToken_rejects hafter)).next_eq ?_
  exact .pure ⟨⟨literal, rfl, hmarks, hbody⟩, rfl⟩

/-- A string literal stands for what its escapes make. -/
theorem atom_string {body : List Char} {value : Text} (hbody : unescape body = some value)
    (hafter : Apart after) : TakesExpr (atom r) (.string body :: after) (.string value) after := by
  refine takes_here fun _ => peek_takes.next fun next hnext => ?_
  obtain ⟨l, rfl, hl⟩ := Option.map_eq_some_iff.1 hnext
  cases l with
  | string marks inside =>
    refine takes_here fun start => (stringTokens_single hafter).bind fun literals ms' h => ?_
    obtain ⟨⟨literal, rfl, hmarks, rfl⟩, hrest⟩ := h
    rw [hrest]
    refine takes_spanFrom fun span => ?_
    simp only [joinLiterals_plain hmarks hbody]
    exact .pure ⟨⟨rfl, rfl⟩, rfl⟩
  | _ => cases hl

theorem atom_none : TakesExpr (atom r) (.symbol "None" :: after) .noneLiteral after :=
  atom_symbol fun _ => .pure ⟨⟨rfl, rfl⟩, rfl⟩

/-! ## Elements -/

/-- What a star or two unpack, as it stands between brackets. -/
structure Unpacked (r : Readers) (e : Expr) (ms : List Mark) : Prop where
  bitOr : ∀ after, Ends after → TakesExpr (r .bitOr) (ms ++ after) e after
  expression : ∀ after, Ends after → TakesExpr (r .expression) (ms ++ after) e after

/-- An element of a display, or a positional argument. -/
inductive Element (r : Readers) : Expr → List Mark → Prop
  | plain {e : Expr} {ms : List Mark} (h : Inner r e ms) : Element r e ms
  | starred {e : Expr} {ms : List Mark} (h : Unpacked r e ms) :
    Element r (.starred e) (.symbol "*" :: ms)

theorem Inner.head_ne (h : Inner r e ms) (after : List Mark) {m : Mark}
    (hm : m.starts < Precedence.test.rank) : next? (ms ++ after) ≠ some m :=
  (h.opens.append after).head_ne hm

theorem Inner.namedExpression (h : Inner r e ms) (hafter : Ends after) :
    TakesExpr (namedExpression r) (ms ++ after) e after := by
  refine ifNameThen_miss (h.named ":=" after (by decide) (hafter.head_ne (by decide))) ?_
  refine (h.takes after hafter).next fun t ht => ?_
  exact refuse_pass (hafter.head_ne (by decide)) (.pure ⟨ht, rfl⟩)

theorem Term.Is.starred {t : Term} (h : t.Is e) : (Term.starred t).Is (.starred e) := by
  refine ⟨?_, h.sliceless⟩
  rw [Term.toExpr, h.toExpr]
  rfl

theorem Element.takes (h : Element r e ms) (hafter : Ends after) :
    TakesExpr (element r) (ms ++ after) e after := by
  cases h with
  | plain h => exact ifAccept_miss (h.head_ne after (by decide)) (h.namedExpression hafter)
  | starred h =>
    exact ifAccept_hit ((h.bitOr after hafter).next fun t ht => .pure ⟨ht.starred, rfl⟩)

/-- The first mark of an element is that of an expression or a star. -/
theorem Element.head_ne (h : Element r e ms) (after : List Mark) {m : Mark}
    (hm : m.starts < Precedence.test.rank) (hstar : m ≠ .symbol "*") :
    next? (ms ++ after) ≠ some m := by
  cases h with
  | plain h => exact h.head_ne after hm
  | starred h => exact fun heq => hstar (Option.some.inj heq).symm

theorem nextIsClause_miss (h : Ends ms) :
    Takes nextIsClause ms fun b ms' => b = false ∧ ms' = ms := by
  refine (nextIs_miss (h.head_ne (by decide))).next_eq ?_
  exact (nextIs_miss (h.head_ne (by decide))).next fun b' hb' =>
    .pure ⟨by rw [hb']; rfl, rfl⟩

theorem ifClause_miss {α : Type} {p q : Reader α} {post : α → List Mark → Prop} (h : Ends ms)
    (hq : Takes q ms post) : Takes (do if ← nextIsClause then p else q) ms post :=
  (nextIsClause_miss h).next_eq (by rw [if_neg Bool.false_ne_true]; exact hq)

section

variable {α : Type} {item : Reader α} {γ : Type} {R : γ → α → Prop} {w : γ → List Mark}

/-- Items with a comma in front of each, up to where no other comes. What an item may be followed by is
`ok`. -/
theorem Takes.commaItems {ok : List Mark → Prop} (hcomma : ∀ ms, ok (.symbol "," :: ms))
    (hafter : ok after) (hnext : next? after ≠ some (.symbol ",")) {xs : List γ}
    (hitem : ∀ x ∈ xs, ∀ after', ok after' →
      Takes item (w x ++ after') fun a ms' => R x a ∧ ms' = after') :
    Takes (Reader.many (do expect ","; item)) (xs.flatMap (fun x => .symbol "," :: w x) ++ after)
      fun as ms' => List.Forall₂ R xs as ∧ ms' = after := by
  refine Takes.many (expect_miss hnext).bind (by simp) fun x ys hys => ?_
  refine expect_hit (hitem x (hys.subset List.mem_cons_self) _ ?_)
  cases ys with
  | nil => exact hafter
  | cons y ys => exact hcomma _

/-- Items with commas between them, up to where no other comes. -/
theorem Takes.commaSeparated {ok : List Mark → Prop} (hcomma : ∀ ms, ok (.symbol "," :: ms))
    (hafter : ok after) (hnext : next? after ≠ some (.symbol ",")) {x : γ} {xs : List γ}
    (hitem : ∀ y ∈ x :: xs, ∀ after', ok after' →
      Takes item (w y ++ after') fun a ms' => R y a ∧ ms' = after') :
    Takes (commaSeparated item) (w x ++ (xs.flatMap (fun x => .symbol "," :: w x) ++ after))
      fun as ms' => (List.Forall₂ R (x :: xs) as.1 ∧ as.2 = false) ∧ ms' = after := by
  have hrest : ok (xs.flatMap (fun x => .symbol "," :: w x) ++ after) := by
    cases xs with
    | nil => exact hafter
    | cons y ys => exact hcomma _
  refine (hitem x List.mem_cons_self _ hrest).next fun a ha => ?_
  refine (Takes.commaItems hcomma hafter hnext fun y hy =>
    hitem y (List.mem_cons_of_mem x hy)).next fun as has => ?_
  refine (accept_miss hnext).next fun b hb => ?_
  exact .pure ⟨⟨.cons ha has, hb⟩, rfl⟩

/-- Items with a comma in front of each, up to a closing bracket. -/
theorem commaItems_takes {xs : List γ} {close : String} (hclose : Mark.symbol close ∈ closers)
    (hcomma : close ≠ ",")
    (hitem : ∀ x ∈ xs, ∀ after', Ends after' →
      Takes item (w x ++ after') fun a ms' => R x a ∧ ms' = after') :
    Takes (Reader.many (do expect ","; item))
      (xs.flatMap (fun x => .symbol "," :: w x) ++ .symbol close :: after)
      fun as ms' => List.Forall₂ R xs as ∧ ms' = .symbol close :: after :=
  Takes.commaItems (fun _ => ends_cons (by decide) _) (ends_cons hclose _)
    (symbol_head_ne hcomma after) hitem

/-- Items with commas between them, up to a closing bracket. -/
theorem commaSeparated_takes {x : γ} {xs : List γ} {close : String}
    (hclose : Mark.symbol close ∈ closers) (hcomma : close ≠ ",")
    (hitem : ∀ y ∈ x :: xs, ∀ after', Ends after' →
      Takes item (w y ++ after') fun a ms' => R y a ∧ ms' = after') :
    Takes (commaSeparated item)
      (w x ++ (xs.flatMap (fun x => .symbol "," :: w x) ++ .symbol close :: after))
      fun as ms' => (List.Forall₂ R (x :: xs) as.1 ∧ as.2 = false) ∧
        ms' = .symbol close :: after :=
  Takes.commaSeparated (fun _ => ends_cons (by decide) _) (ends_cons hclose _)
    (symbol_head_ne hcomma after) hitem

end

/-! ## Parentheses and brackets -/

section

variable {start : Position} {w : Expr → List Mark} {es : List Expr}

/-- The marks of elements with commas between them. -/
def commaMarks (w : Expr → List Mark) : List Expr → List Mark
  | [] => []
  | e :: es => w e ++ es.flatMap fun x => .symbol "," :: w x

theorem Term.Is.tuple {ts : List Term} (h : List.Forall₂ (fun e t => Term.Is t e) es ts) :
    (Term.tuple ts).Is (.tuple es) := by
  refine ⟨?_, Term.areSliceless_of h⟩
  rw [Term.toExpr, Term.toExprs_of h]
  rfl

theorem Term.Is.list {ts : List Term} (h : List.Forall₂ (fun e t => Term.Is t e) es ts) :
    (Term.list ts).Is (.list es) := by
  refine ⟨?_, Term.areSliceless_of h⟩
  rw [Term.toExpr, Term.toExprs_of h]
  rfl

theorem parenthesis_empty : TakesExpr (parenthesis r start) (.symbol ")" :: after) (.tuple []) after :=
  ifAccept_hit (.pure ⟨Term.Is.tuple .nil, rfl⟩)

/-- An expression in parentheses. -/
theorem parenthesis_inner (h : Inner r e ms) :
    TakesExpr (parenthesis r start) (ms ++ .symbol ")" :: after) e after := by
  have hends : Ends (.symbol ")" :: after) := ends_cons (by decide) _
  refine ifAccept_miss (h.head_ne _ (by decide)) (ifNext_miss (h.head_ne _ (by decide)) ?_)
  refine ((Element.plain h).takes hends).next fun t ht => ?_
  refine ifAccept_miss (symbol_head_ne (by decide) after) ?_
  rw [ht.not_starred h.starred, if_neg Bool.false_ne_true]
  exact ifClause_miss hends (expect_hit (.pure ⟨ht, rfl⟩))

/-- A tuple of one element, with a comma behind it. -/
theorem parenthesis_single (h : Element r e ms) :
    TakesExpr (parenthesis r start) (ms ++ .symbol "," :: .symbol ")" :: after) (.tuple [e]) after := by
  have hends : Ends (.symbol "," :: .symbol ")" :: after) := ends_cons (by decide) _
  refine ifAccept_miss (h.head_ne _ (by decide) (by decide))
    (ifNext_miss (h.head_ne _ (by decide) (by decide)) ?_)
  refine (h.takes hends).next fun t ht => ?_
  exact ifAccept_hit (ifAccept_hit (.pure ⟨.tuple (.cons ht .nil), rfl⟩))

/-- A tuple of two elements or more. -/
theorem parenthesis_many {x : Expr} (h : ∀ y ∈ e :: x :: es, Element r y (w y)) :
    TakesExpr (parenthesis r start) (commaMarks w (e :: x :: es) ++ .symbol ")" :: after)
      (.tuple (e :: x :: es)) after := by
  have hfirst := h e List.mem_cons_self
  have hsecond := h x (by simp)
  rw [commaMarks, List.flatMap_cons, List.append_assoc, List.cons_append, List.cons_append]
  refine ifAccept_miss (hfirst.head_ne _ (by decide) (by decide))
    (ifNext_miss (hfirst.head_ne _ (by decide) (by decide)) ?_)
  refine (hfirst.takes (ends_cons (by decide) _)).next fun t ht => ?_
  rw [List.append_assoc]
  refine ifAccept_hit (ifAccept_miss (hsecond.head_ne _ (by decide) (by decide)) ?_)
  refine (commaSeparated_takes (by decide) (by decide) fun y hy after' hafter' =>
    (h y (List.mem_cons_of_mem e hy)).takes hafter').next fun ts hts => ?_
  exact expect_hit (.pure ⟨.tuple (.cons ht hts.1), rfl⟩)

theorem bracket_empty : TakesExpr (bracket r start) (.symbol "]" :: after) (.list []) after :=
  ifAccept_hit (.pure ⟨Term.Is.list .nil, rfl⟩)

/-- A list of one element or more. -/
theorem bracket_many (h : ∀ y ∈ e :: es, Element r y (w y)) :
    TakesExpr (bracket r start) (commaMarks w (e :: es) ++ .symbol "]" :: after)
      (.list (e :: es)) after := by
  have hfirst := h e List.mem_cons_self
  have hends : Ends (es.flatMap (fun x => .symbol "," :: w x) ++ .symbol "]" :: after) := by
    cases es with
    | nil => exact ends_cons (by decide) _
    | cons x es => exact ends_cons (by decide) _
  rw [commaMarks, List.append_assoc]
  refine ifAccept_miss (hfirst.head_ne _ (by decide) (by decide)) ?_
  refine (hfirst.takes hends).next fun t ht => ?_
  refine (nextIsClause_miss hends).next_eq ?_
  rw [Bool.and_false, if_neg Bool.false_ne_true]
  refine (commaItems_takes (by decide) (by decide) fun y hy after' hafter' =>
    (h y (List.mem_cons_of_mem e hy)).takes hafter').next fun ts hts => ?_
  refine (accept_miss (symbol_head_ne (by decide) after)).next fun _ _ => ?_
  exact expect_hit (.pure ⟨.list (.cons ht hts), rfl⟩)

end

/-! ## Braces -/

/-- An item of a dictionary: a key with its value, or what two stars unpack. -/
inductive DictEntry (r : Readers) : Option Expr × Expr → List Mark → Prop
  | pair {k v : Expr} {ms ms' : List Mark} (hk : Inner r k ms) (hv : Inner r v ms') :
    DictEntry r (some k, v) (ms ++ .symbol ":" :: ms')
  | unpacked {v : Expr} {ms : List Mark} (h : Unpacked r v ms) :
    DictEntry r (none, v) (.symbol "**" :: ms)

/-- Two items of a dictionary stand for each other. -/
def EntryIs (x : Option Expr × Expr) (t : Option Term × Term) : Prop :=
  Option.Rel (fun k u => Term.Is u k) x.1 t.1 ∧ t.2.Is x.2

section

variable {start : Position} {x : Option Expr × Expr} {xs : List (Option Expr × Expr)}
  {w : Option Expr × Expr → List Mark}

theorem DictEntry.takes (h : DictEntry r x ms) (hafter : Ends after) :
    Takes (dictEntry r) (ms ++ after) fun t ms' => EntryIs x t ∧ ms' = after := by
  cases h with
  | pair hk hv =>
    rw [List.append_assoc, List.cons_append]
    refine ifAccept_miss (hk.head_ne _ (by decide)) ?_
    refine (hk.takes _ (ends_cons (by decide) _)).next fun t ht => ?_
    refine expect_hit ((hv.takes _ hafter).next fun u hu => ?_)
    exact .pure ⟨⟨.some ht, hu⟩, rfl⟩
  | unpacked h =>
    refine ifAccept_hit ((h.bitOr _ hafter).next fun u hu => ?_)
    exact .pure ⟨⟨.none, hu⟩, rfl⟩

theorem Term.toKeys_of {ks : List (Option Expr)} {ts : List (Option Term)}
    (h : List.Forall₂ (Option.Rel fun k u => Term.Is u k) ks ts) :
    Term.toKeys origin ts = .ok ks := by
  induction h with
  | nil => rfl
  | cons hk _ ih =>
    cases hk with
    | none =>
      rw [Term.toKeys, ih]
      rfl
    | some hk =>
      rw [Term.toKeys, hk.toExpr, ih]
      rfl

theorem Term.Is.dict {ts : List (Option Term × Term)} (h : List.Forall₂ EntryIs xs ts) :
    (Term.dict (ts.map (·.1)) (ts.map (·.2))).Is (.dict (xs.map (·.1)) (xs.map (·.2))) := by
  have hkeys : List.Forall₂ (Option.Rel fun k u => Term.Is u k) (xs.map (·.1)) (ts.map (·.1)) := by
    rw [List.forall₂_map_left_iff, List.forall₂_map_right_iff]
    exact h.imp fun _ _ h => h.1
  have hvalues : List.Forall₂ (fun e t => Term.Is t e) (xs.map (·.2)) (ts.map (·.2)) := by
    rw [List.forall₂_map_left_iff, List.forall₂_map_right_iff]
    exact h.imp fun _ _ h => h.2
  refine ⟨?_, rfl⟩
  rw [Term.toExpr, Term.toKeys_of hkeys, Term.toExprs_of hvalues]
  rfl

theorem dictRest_takes {t : Option Term × Term} (ht : EntryIs x t)
    (h : ∀ y ∈ xs, DictEntry r y (w y)) :
    TakesExpr (dictRest r t)
      (xs.flatMap (fun y => .symbol "," :: w y) ++ .symbol "\x7d" :: after)
      (.dict ((x :: xs).map (·.1)) ((x :: xs).map (·.2))) after := by
  refine (commaItems_takes (by decide) (by decide) fun y hy after' hafter' =>
    (h y hy).takes hafter').next fun ts hts => ?_
  refine (accept_miss (symbol_head_ne (by decide) after)).next fun _ _ => ?_
  exact expect_hit (.pure ⟨Term.Is.dict (.cons ht hts), rfl⟩)

theorem brace_empty : TakesExpr (brace r start) (.symbol "\x7d" :: after) (.dict [] []) after :=
  ifAccept_hit (.pure ⟨Term.Is.dict (.nil : List.Forall₂ EntryIs [] []), rfl⟩)

/-- A dictionary of one item or more. The first item decides that it is no set. -/
theorem brace_many (h : ∀ y ∈ x :: xs, DictEntry r y (w y)) :
    TakesExpr (brace r start)
      (w x ++ (xs.flatMap (fun y => .symbol "," :: w y) ++ .symbol "\x7d" :: after))
      (.dict ((x :: xs).map (·.1)) ((x :: xs).map (·.2))) after := by
  have hends : Ends (xs.flatMap (fun y => .symbol "," :: w y) ++ .symbol "\x7d" :: after) := by
    cases xs with
    | nil => exact ends_cons (by decide) _
    | cons y ys => exact ends_cons (by decide) _
  have hrest : ∀ y ∈ xs, DictEntry r y (w y) := fun y hy => h y (List.mem_cons_of_mem x hy)
  have hfirst := h x List.mem_cons_self
  generalize w x = ms at hfirst
  cases hfirst with
  | pair hk hv =>
    rw [List.append_assoc, List.cons_append]
    refine ifAccept_miss (hk.head_ne _ (by decide)) (ifNext_miss (hk.head_ne _ (by decide)) ?_)
    refine (nextIs_miss (hk.head_ne _ (by decide))).next_eq ?_
    refine (nameThen_takes ":=").next fun b' hb' => ?_
    rw [hb', hk.named ":=" _ (by decide) (symbol_head_ne (by decide) _), Bool.or_false,
      if_neg Bool.false_ne_true]
    refine (hk.namedExpression (ends_cons (by decide) _)).next fun t ht => ?_
    refine ifAccept_hit ((hv.takes _ hends).next fun u hu => ?_)
    exact ifClause_miss hends (dictRest_takes ⟨.some ht, hu⟩ hrest)
  | unpacked hv =>
    refine ifAccept_miss (symbol_head_ne (by decide) _) (ifNext_hit ?_)
    refine ((DictEntry.unpacked hv).takes hends).next fun t ht => ?_
    exact dictRest_takes ht hrest

end

end Grammar

end Refactory
