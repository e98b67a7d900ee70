import Refactory.Proofs.Grammar.Verbatim
import Refactory.Proofs.Grammar.Primary

/-! # Captured expressions are taken where they stand

The tokens of a captured expression are taken as a term that is captured with the same text again
(`Verbatim.takes`): by the reader of its strength, in front of what ends it, or by any reader of atoms if
it stands in parentheses. -/

namespace Refactory.Grammar

variable [Setting] {kind : Text} {text : List Char} {ts : List Token} {ms after : List Mark}
  {depth : Nat}

/-! ## Terms -/

omit [Setting] in
theorem Term.toExpr_extent {o : Origin} {t : Term} {span : Span} (h : t.extent? = some (kind, span)) :
    t.toExpr o = capture o kind span t := by
  cases t with
  | subscript s value index =>
    cases index with
    | slice => cases h; rfl
    | _ => cases h
  | bytes | ellipsis | slice | set | lambda | conditional | named | listComp | setComp | dictComp
  | generator | await | yield | yieldFrom => cases h; rfl
  | _ => cases h

omit [Setting] in
theorem Term.sliceless_of_extent {t : Term} {x : Text × Span} (h : t.extent? = some x)
    (hslice : t.isSlice = false) : t.isSliceless = true := by
  cases t with
  | slice => cases hslice
  | tuple | list | starred => cases h
  | _ => rfl

/-- The stretch of the source on which a text stands. -/
theorem Span.slice_eq {start : Position} {span : Span} (hstart : span.start.offset = start.offset)
    (hstop : span.stop.offset = start.offset + text.length)
    (hsource : text <+: Setting.chars.drop start.offset) : span.slice origin.text = Text.ofChars text := by
  obtain ⟨rest, hrest⟩ := hsource
  rw [Span.slice, hstart, hstop, Nat.add_sub_cancel_left]
  change ((Setting.chars.map CodePoint.scalar).drop start.offset).take text.length = _
  rw [← List.map_drop, ← hrest, ← List.map_take, List.take_left]
  rfl

/-- What is captured where the text stands in the source is captured with that text. -/
theorem Verbatim.is (h : Verbatim kind text) {start : Position} {t : Term}
    (ht : t.CapturedAt kind start text.length) (hsource : text <+: Setting.chars.drop start.offset) : t.Is (.captured kind (some (Text.ofChars text))) := by
  obtain ⟨hslice, span, hextent, ⟨hstart, -⟩, hstop⟩ := ht
  refine ⟨?_, Term.sliceless_of_extent hextent hslice⟩
  have hsegment : span.slice origin.text = Text.ofChars text := Span.slice_eq hstart hstop hsource
  have hline : (Text.ofChars text).contains (CodePoint.scalar '\n') = false := by
    rw [List.contains_eq_mem, decide_eq_false_iff_not]
    intro hmem
    obtain ⟨c, hc, heq⟩ := List.mem_map.1 hmem
    cases heq
    exact absurd (h.printable _ hc) (by decide)
  rw [Term.toExpr_extent hextent, capture, hsegment, hline]
  rfl

/-! ## Tokens -/

theorem Shows.captured_inv (h : Shows ts (.captured kind text :: ms)) :
    ∃ start T y us, ts = T ++ y :: us ∧
      List.Forall₂ (Token.Alike (edges start text.length text.length)) T (excerpt text) ∧
      (excerpt text).length ≤ Setting.deep ∧ text <+: Setting.chars.drop start.offset ∧
      start.OnLine ∧ Shows (y :: us) ms := by
  generalize hms : Mark.captured kind text :: ms = ms' at h
  cases h with
  | nil => cases hms
  | token h => exact (Lexeme.mark_ne_captured _ _ _ (List.cons.inj hms).1.symm).elim
  | captured hT hne hdeep hsource hline h =>
    cases hms
    exact ⟨_, _, _, _, rfl, hT, hdeep, hsource, hline, h⟩

/-- A reader that takes the tokens wherever they stand, in front of any token that comes next. -/
theorem Verbatim.takes (h : Verbatim kind text) {p : Reader Term}
    (hreads : ∀ start T y us last,
      List.Forall₂ (Token.Alike (edges start text.length text.length)) T (excerpt text) →
      T.length ≤ Setting.deep → next? after = some y.lexeme.mark →
      ∃ t stop, p ⟨T ++ y :: us, last⟩ = some (t, ⟨y :: us, stop⟩) ∧
        t.CapturedAt kind start text.length) :
    TakesExpr p (.captured kind text :: after) (.captured kind (some (Text.ofChars text))) after := by
  rintro ⟨tokens, last⟩ hc
  obtain ⟨start, T, y, us, rfl, hT, hdeep, hsource, -, hrest⟩ := hc.captured_inv
  obtain ⟨t, stop, hp, ht⟩ := hreads start T y us last hT (hT.length_eq ▸ hdeep) hrest.next_eq.symm
  exact ⟨t, _, after, hp, hrest, h.is ht hsource, rfl⟩

omit [Setting] in
theorem attach_zero {m : Mark} (h : m.attach < Precedence.test.rank) : m.attach = 0 := by
  cases m with
  | symbol text =>
    cases hlookup : followers.lookup text with
    | none =>
      rw [Mark.attach, hlookup]
      rfl
    | some p =>
      obtain ⟨front, back, hfollowers, -⟩ := List.lookup_eq_some_iff.1 hlookup
      have hmem : (text, p) ∈ followers := by rw [hfollowers]; simp
      have hall : ∀ x ∈ followers, ¬ x.2.rank < Precedence.test.rank := by decide
      rw [Mark.attach, hlookup] at h
      exact (hall _ hmem h).elim
  | newline | indent | dedent => rfl
  | _ => exact absurd h (Nat.not_lt.2 (rank_le_atom .test))

omit [Setting] in
/-- The token behind an expression is the mark behind it, if no expression comes next. -/
theorem Clear.next_attach {p : Precedence} (h : Clear p after) {m : Mark} (hm : next? after = some m) :
    m.attach < p.rank := by
  obtain ⟨first, hfirst, rfl⟩ := Option.map_eq_some_iff.1 hm
  have hattach := h first hfirst
  cases first with
  | captured kind text => exact (Nat.not_lt.2 (rank_le_atom p) hattach).elim
  | _ => exact hattach

omit [Setting] in
theorem Apart.next_string (h : Apart after) {m : Mark} (hm : next? after = some m) :
    m.isString = false := by
  obtain ⟨first, hfirst, rfl⟩ := Option.map_eq_some_iff.1 hm
  have hstring := h first hfirst
  cases first with
  | captured kind text => cases hstring
  | _ => exact hstring

/-! ## Readers -/

theorem Verbatim.expression (h : Verbatim kind text) (hkind : Precedence.ofCaptured kind = .test)
    (hdepth : Setting.deep ≤ depth) (hafter : Clear .test after) :
    TakesExpr (Grammar.expression (readers depth)) (.captured kind text :: after)
      (.captured kind (some (Text.ofChars text))) after :=
  h.takes fun _ _ _ _ _ hT hdeep hy =>
    h.takes_test hT hkind (Nat.le_trans hdeep hdepth) (attach_zero (hafter.next_attach hy))

theorem Verbatim.namedExpression (h : Verbatim kind text) (hkind : Precedence.ofCaptured kind = .named)
    (hdepth : Setting.deep ≤ depth) (hafter : Clear .test after)
    (hwalrus : next? after ≠ some (.symbol ":=")) :
    TakesExpr (Grammar.namedExpression (readers depth)) (.captured kind text :: after)
      (.captured kind (some (Text.ofChars text))) after :=
  h.takes fun _ _ _ _ _ hT hdeep hy =>
    h.takes_named hT hkind (Nat.le_trans hdeep hdepth) (attach_zero (hafter.next_attach hy))
      fun heq => hwalrus (heq ▸ hy)

theorem Verbatim.yieldExpression (h : Verbatim kind text)
    (hkind : Precedence.ofCaptured kind = .yielding) (hdepth : Setting.deep ≤ depth)
    (hafter : Clear .test after) (hcomma : next? after ≠ some (.symbol ","))
    (hfrom : next? after ≠ some (.symbol "from")) :
    TakesExpr (Grammar.yieldExpression (readers depth)) (.captured kind text :: after)
      (.captured kind (some (Text.ofChars text))) after :=
  h.takes fun _ _ _ _ _ hT hdeep hy =>
    h.takes_yielding hT hkind (Nat.le_trans hdeep hdepth) (attach_zero (hafter.next_attach hy))
      (fun heq => hcomma (heq ▸ hy)) fun heq => hfrom (heq ▸ hy)

theorem Verbatim.awaited (h : Verbatim kind text) (hkind : Precedence.ofCaptured kind = .await)
    (hdepth : Setting.deep ≤ depth) (hafter : Clear .atom after) :
    TakesExpr (Grammar.awaited (readers depth)) (.captured kind text :: after)
      (.captured kind (some (Text.ofChars text))) after :=
  h.takes fun _ _ _ _ _ hT hdeep hy =>
    h.takes_await hT hkind (Nat.le_trans hdeep hdepth) (hafter.next_attach hy)

/-- A captured atom is read up to its end, where the loop behind it goes on. -/
theorem Verbatim.trailing (h : Verbatim kind text) (hkind : Precedence.ofCaptured kind = .atom)
    (hdepth : Setting.deep ≤ depth) (hafter : Apart after) :
    Trailing (readers depth) (.captured kind text :: after)
      (.captured kind (some (Text.ofChars text))) after := by
  rintro ⟨tokens, last⟩ hc
  obtain ⟨start, T, y, us, rfl, hT, hdeep, hsource, -, hrest⟩ := hc.captured_inv
  have hstring : y.lexeme.isString = false := by
    rw [← Lexeme.isString_mark]
    exact hafter.next_string hrest.next_eq.symm
  obtain ⟨first, t₀, T', l, n, t, stop, hstart, hatom, hn, ht, hrounds⟩ :=
    h.rounds hT hkind (Nat.le_trans (hT.length_eq ▸ hdeep) hdepth) hstring us last
  refine ⟨first, t₀, _, n, hstart, hatom, ?_, fun fuel post hpost => ?_⟩
  · have hlength := hrest.length_le
    rw [List.length_append]
    omega
  · rw [Succeeds, hrounds fuel]
    exact hpost t (h.is ht hsource) ⟨y :: us, stop⟩ hrest

/-! ## In parentheses -/

section

omit [Setting]

theorem ofCaptured_cases (kind : Text) : Precedence.ofCaptured kind = .named ∨
    Precedence.ofCaptured kind = .yielding ∨ Precedence.ofCaptured kind = .test ∨
      Precedence.ofCaptured kind = .await ∨ Precedence.ofCaptured kind = .atom := by
  unfold Precedence.ofCaptured
  split
  · exact .inl rfl
  split
  · exact .inr (.inl rfl)
  split
  · exact .inr (.inr (.inl rfl))
  split
  · exact .inr (.inr (.inr (.inl rfl)))
  · exact .inr (.inr (.inr (.inr rfl)))

theorem ofCaptured_loose (h : (Precedence.ofCaptured kind).rank < Precedence.test.rank) :
    Precedence.ofCaptured kind = .named ∨ Precedence.ofCaptured kind = .yielding := by
  obtain hkind | hkind | hkind | hkind | hkind := ofCaptured_cases kind
  · exact .inl hkind
  · exact .inr hkind
  all_goals exact absurd h (by rw [hkind]; decide)

theorem Verbatim.opens_marks (h : Verbatim kind text) (ms : List Mark) :
    Opens (Precedence.ofCaptured kind).rank (.captured kind text :: ms) :=
  ⟨_, rfl, Nat.le_min.2 ⟨Nat.le_refl _, h.opens⟩⟩

theorem Verbatim.head_ne (h : Verbatim kind text) {m : Mark} (hm : m.starts = 0) (ms : List Mark) :
    next? (.captured kind text :: ms) ≠ some m :=
  (h.opens_marks ms).head_ne (by rw [hm]; cases Precedence.ofCaptured kind <;> decide)

end

/-- What binds less tightly than a condition is taken in parentheses as what it is. -/
theorem Verbatim.parenthesis (h : Verbatim kind text)
    (hkind : (Precedence.ofCaptured kind).rank < Precedence.test.rank) (hdepth : Setting.deep ≤ depth)
    (start : Position) :
    TakesExpr (Grammar.parenthesis (readers depth) start) (.captured kind text :: .symbol ")" :: after)
      (.captured kind (some (Text.ofChars text))) after := by
  have hends : Ends (.symbol ")" :: after) := ends_cons (by decide) _
  have hcomma : next? (.symbol ")" :: after) ≠ some (.symbol ",") := symbol_head_ne (by decide) after
  refine ifAccept_miss (h.head_ne (by decide) _) ?_
  refine (nextIs_takes "yield").next_eq ?_
  obtain hnamed | hyield := ofCaptured_loose hkind
  · have hnot : (Mark.captured kind text).first ≠ .symbol "yield" := fun heq => by
      cases hnamed.symm.trans (h.yields.1 heq)
    rw [next?_cons, if_neg (by simpa using hnot)]
    have helement : TakesExpr (element (readers depth)) (.captured kind text :: .symbol ")" :: after)
        (.captured kind (some (Text.ofChars text))) (.symbol ")" :: after) :=
      ifAccept_miss (h.head_ne (by decide) _)
        (h.namedExpression hnamed hdepth (hends.clear _) (hends.head_ne (by decide)))
    refine helement.next fun t ht => ifAccept_miss hcomma ?_
    rw [ht.not_starred rfl, if_neg Bool.false_ne_true]
    exact ifClause_miss hends (expect_hit (.pure ⟨ht, rfl⟩))
  · rw [next?_cons, h.yields.2 hyield, decide_eq_true rfl, if_pos rfl]
    refine (h.yieldExpression hyield hdepth (hends.clear _) hcomma (hends.head_ne (by decide))).next
      fun t ht => ?_
    exact expect_hit (.pure ⟨ht, rfl⟩)

end Refactory.Grammar
