import Refactory.Build
import Refactory.Proofs.Grammar.Locality
import Refactory.Proofs.Grammar.Scanning

/-! # Captured expressions are read alike wherever they stand

A captured expression stands on one line, and can be read there alone as what it was captured as
(`Verbatim`). Wherever its characters stand in a source, in front of nothing that goes on with them, the
tokens are the same, and the reader of its strength takes them as a term that is captured with the same
text (`Verbatim.takes_test`, `Verbatim.rounds`). -/

namespace Refactory.Grammar

/-! ## Brackets that match -/

/-- Whether the brackets match in a list of lexemes and close those that are open, the innermost first. -/
def balances : List String → List Lexeme → Bool
  | opened, [] => opened.isEmpty
  | opened, l :: ls =>
    match closer? l with
    | some close => balances (close :: opened) ls
    | none =>
      match opened with
      | [] => !isCloser l && balances [] ls
      | close :: outer =>
        if startsSymbol close [l] then balances outer ls
        else !isCloser l && balances (close :: outer) ls

theorem balances_alike {P : Places} {ts us : List Token} (h : List.Forall₂ (Token.Alike P) ts us)
    (opened : List String) :
    balances opened (ts.map (·.lexeme)) = balances opened (us.map (·.lexeme)) := by
  induction h generalizing opened with
  | nil => rfl
  | @cons t u ts us ht _ ih =>
    rw [List.map_cons, List.map_cons]
    have hlexeme := ht.lexeme
    generalize t.lexeme = l at hlexeme ⊢
    generalize u.lexeme = l' at hlexeme ⊢
    cases hlexeme with
    | refl _ => simp only [balances, ih]
    | string _ _ => cases opened <;> simp [balances, closer?, isCloser, startsSymbol, ih]

/-- The brackets match up to what closes those that are open. -/
def Closes : List String → List Token → Prop
  | [], ts => Balanced true ts
  | close :: outer, ts => ∃ inner c rest, ts = inner ++ c :: rest ∧ Balanced (close != ":") inner ∧
      c.lexeme = .symbol close ∧ Closes outer rest

theorem startsSymbol_iff {text : String} {l : Lexeme} :
    startsSymbol text [l] = true ↔ l = .symbol text := by
  cases l <;> simp [startsSymbol]

theorem Closes.plain {opened : List String} {t : Token} {ts : List Token} (h : Closes opened ts)
    (ht : t.lexeme.isPlain = true) (hcolon : ∀ close ∈ opened.head?, t.lexeme ≠ .symbol close) :
    Closes opened (t :: ts) := by
  cases opened with
  | nil => exact Balanced.plain ht (fun _ => rfl) h
  | cons close outer =>
    obtain ⟨inner, c, rest, rfl, hinner, hc, hrest⟩ := h
    refine ⟨t :: inner, c, rest, rfl, Balanced.plain ht (fun heq => ?_) hinner, hc, hrest⟩
    rw [bne_iff_ne]
    rintro rfl
    exact hcolon ":" rfl heq

theorem Closes.group {opened : List String} {t : Token} {ts : List Token} {close : String}
    (h : Closes (close :: opened) ts) (ht : closer? t.lexeme = some close) :
    Closes opened (t :: ts) := by
  obtain ⟨inner, c, rest, rfl, hinner, hc, hrest⟩ := h
  cases opened with
  | nil => exact Balanced.group ht hc hinner hrest
  | cons close' outer =>
    obtain ⟨inner', c', rest', rfl, hinner', hc', hrest'⟩ := hrest
    exact ⟨t :: (inner ++ c :: inner'), c', rest', by simp, Balanced.group ht hc hinner hinner', hc', hrest'⟩

theorem closes_of_balances {opened : List String} {ts : List Token}
    (h : balances opened (ts.map (·.lexeme)) = true) : Closes opened ts := by
  induction ts generalizing opened with
  | nil =>
    rw [List.map_nil, balances, List.isEmpty_iff] at h
    subst h
    exact .nil
  | cons t ts ih =>
    rw [List.map_cons, balances.eq_def] at h
    dsimp only at h
    cases hclose : closer? t.lexeme with
    | some close =>
      rw [hclose] at h
      exact (ih h).group hclose
    | none =>
      rw [hclose] at h
      have hplain : isCloser t.lexeme = false → t.lexeme.isPlain = true := fun hcloser => by
        rw [Lexeme.isPlain, hclose, hcloser]
        rfl
      cases opened with
      | nil =>
        simp only [Bool.and_eq_true, Bool.not_eq_true'] at h
        exact (ih h.2).plain (hplain h.1) fun _ hmem => by cases hmem
      | cons close outer =>
        dsimp only at h
        split at h
        · rename_i hstarts
          exact ⟨[], t, ts, rfl, .nil, startsSymbol_iff.1 hstarts, ih h⟩
        · rename_i hstarts
          simp only [Bool.and_eq_true, Bool.not_eq_true'] at h
          refine (ih h.2).plain (hplain h.1) fun close' hmem heq => ?_
          cases hmem
          exact hstarts (startsSymbol_iff.2 heq)

/-! ## Snippets that can be read -/

/-- The reader of what is captured as the given kind. -/
def verbatimReader (kind : Text) (r : Readers) : Reader Term :=
  match Precedence.ofCaptured kind with
  | .named => namedExpression r
  | .yielding => yieldExpression r
  | .test => expression r
  | .await => awaited r
  | _ => primary r

instance (kind : Text) (r : Readers) [∀ level, InLine (r level)] : InLine (verbatimReader kind r) := by
  unfold verbatimReader
  split <;> infer_instance

/-- The end of the line on which a piece of `n` characters stands alone. -/
def lineEnd (n : Nat) : Token := ⟨.newline, { offset := n }, { offset := n }⟩

/-- Whether what is captured is all of a piece of `n` characters, as the given kind. -/
def isWhole (kind : Text) (n : Nat) : Option (Text × Span) → Bool
  | some (k, span) => k == kind && span.start.offset == 0 && span.stop.offset == n
  | none => false

/-- What is captured as the given kind takes up the `width` characters from `start` on. -/
def Occupies (kind : Text) (start : Position) (width : Nat) (x : Option (Text × Span)) : Prop :=
  ∃ span, x = some (kind, span) ∧ (span.start.offset = start.offset ∧ span.start.line = start.line) ∧
    span.stop.offset = start.offset + width

theorem Occupies.of_alike {kind : Text} {start : Position} {n width : Nat} {x y : Option (Text × Span)}
    (h : Option.Rel (Kept (edges start n width)) x y) (hy : isWhole kind n y = true) :
    Occupies kind start width x := by
  cases h with
  | none => cases hy
  | @some x y hkept =>
    obtain ⟨hkind, hspan⟩ := hkept
    simp only [isWhole, Bool.and_eq_true, beq_iff_eq] at hy
    obtain ⟨⟨rfl, hstart⟩, hstop⟩ := hy
    exact ⟨x.2, by rw [← hkind], hspan.start hstart, hspan.stop hstop⟩

/-- Whether a piece is read to its end as something that is captured with its text. -/
def isReadAs (kind : Text) (text : List Char) : Bool :=
  match verbatimReader kind (readers text.length) ⟨excerpt text ++ [lineEnd text.length], {}⟩ with
  | some (t, c) => c.rest.length == 1 && !t.isSlice && isWhole kind text.length t.extent?
  | none => false

/-- Whether lexemes begin with a name and a symbol that goes on with no expression. -/
def startsBinding : List Lexeme → Bool
  | .name _ :: .symbol s :: _ => (Mark.symbol s).attach == 0
  | _ => false

/-- A piece of source on a line that is scanned alike wherever it stands: no token of it can go on behind
it, and it holds no string with fields. -/
structure Snippet (text : List Char) : Prop where
  nonempty : excerpt text ≠ []
  length : (excerpt text).length ≤ text.length
  ends : ∀ t ∈ (excerpt text).getLast?, t.span.stop.offset = text.length ∧ t.lexeme.mark ≠ .symbol ":"
  printable : ∀ c ∈ text, 0x20 ≤ c.toNat
  first : ∀ c ∈ text.head?, isInkChar c = true ∧
    (c ∈ extenders → ∀ t ∈ (excerpt text).head?, t.lexeme.mark.starts = 0)
  last : ∀ c ∈ text.getLast?, isInkChar c = true ∧ c ∉ crossers
  unbroken : ∀ t ∈ excerpt text, t.lexeme.isLayout = false
  unformatted : ∀ t ∈ excerpt text, t.lexeme.isFormatted = false

/-- A captured expression that can be read back: its brackets match, it begins as its strength asks for, and
it is read as what it is captured as. In front of a dot stands a bracket or a quote, unless it is an
ellipsis. -/
structure Verbatim (kind : Text) (text : List Char) : Prop extends Snippet text where
  balanced : balances [] ((excerpt text).map (·.lexeme)) = true
  opens : (Precedence.ofCaptured kind).rank ≤ (Mark.captured kind text).first.starts
  yields : (Mark.captured kind text).first = .symbol "yield" ↔ Precedence.ofCaptured kind = .yielding
  binding : kind = "NamedExpr" ∨ startsBinding ((excerpt text).map (·.lexeme)) = false
  dot : Precedence.ofCaptured kind = .atom → kind ≠ "ellipsis" →
    ∀ c ∈ text.getLast?, c ∈ closingBrackets ++ ['"', '\'']
  read : isReadAs kind text = true

variable {kind : Text} {text : List Char}

instance : Decidable (Snippet text) :=
  decidable_of_iff (excerpt text ≠ [] ∧ (excerpt text).length ≤ text.length ∧
      (∀ t ∈ (excerpt text).getLast?,
        t.span.stop.offset = text.length ∧ t.lexeme.mark ≠ .symbol ":") ∧
      (∀ c ∈ text, 0x20 ≤ c.toNat) ∧ (∀ c ∈ text.head?, isInkChar c = true ∧
        (c ∈ extenders → ∀ t ∈ (excerpt text).head?, t.lexeme.mark.starts = 0)) ∧
      (∀ c ∈ text.getLast?, isInkChar c = true ∧ c ∉ crossers) ∧
      (∀ t ∈ excerpt text, t.lexeme.isLayout = false) ∧
      ∀ t ∈ excerpt text, t.lexeme.isFormatted = false)
    ⟨fun ⟨a, b, c, d, e, f, g, h⟩ => ⟨a, b, c, d, e, f, g, h⟩,
      fun ⟨a, b, c, d, e, f, g, h⟩ => ⟨a, b, c, d, e, f, g, h⟩⟩

instance : Decidable (Verbatim kind text) :=
  decidable_of_iff (Snippet text ∧ balances [] ((excerpt text).map (·.lexeme)) = true ∧
      (Precedence.ofCaptured kind).rank ≤ (Mark.captured kind text).first.starts ∧
      ((Mark.captured kind text).first = .symbol "yield" ↔ Precedence.ofCaptured kind = .yielding) ∧
      (kind = "NamedExpr" ∨ startsBinding ((excerpt text).map (·.lexeme)) = false) ∧
      (Precedence.ofCaptured kind = .atom → kind ≠ "ellipsis" →
        ∀ c ∈ text.getLast?, c ∈ closingBrackets ++ ['"', '\'']) ∧
      isReadAs kind text = true)
    ⟨fun ⟨a, b, c, d, e, f, g⟩ => ⟨a, b, c, d, e, f, g⟩,
      fun ⟨a, b, c, d, e, f, g⟩ => ⟨a, b, c, d, e, f, g⟩⟩

/-! ## Reading -/

/-- A term that is captured with the characters from a position on. -/
structure Term.CapturedAt (kind : Text) (start : Position) (width : Nat) (t : Term) : Prop where
  slice : t.isSlice = false
  extent : Occupies kind start width t.extent?

/-- A piece that stands alone is read to its end. -/
theorem Verbatim.reads (h : Verbatim kind text) : ∃ u stop,
    verbatimReader kind (readers text.length) ⟨excerpt text ++ [lineEnd text.length], {}⟩ =
      some (u, ⟨[lineEnd text.length], stop⟩) ∧ u.isSlice = false ∧
      isWhole kind text.length u.extent? = true := by
  have hread := h.read
  unfold isReadAs at hread
  split at hread
  · rename_i u c hu
    simp only [Bool.and_eq_true, Bool.not_eq_true', beq_iff_eq] at hread
    obtain ⟨⟨hlength, hslice⟩, hextent⟩ := hread
    obtain ⟨front, hfront, -⟩ := Passes.front (fun l => l.isLayout = false) hu
    obtain ⟨rest, stop⟩ := c
    obtain ⟨t, rfl⟩ := List.length_eq_one_iff.1 hlength
    obtain ⟨-, hlast⟩ := List.append_inj' hfront rfl
    exact ⟨u, stop, by rw [hu, hlast], hslice, hextent⟩
  · cases hread

theorem Snippet.length_pos (h : Snippet text) : 0 < text.length :=
  Nat.lt_of_lt_of_le (List.length_pos_iff.2 h.nonempty) h.length

section

variable {start : Position} {T ys : List Token} {y : Token} {last : Position} {depth : Nat}
  (hT : List.Forall₂ (Token.Alike (edges start text.length text.length)) T (excerpt text))

/-- What stands behind the piece where it stands and where it stands alone. -/
theorem Snippet.followed (h : Snippet text) {B : Mark → Prop} (hy : B y.lexeme.mark) (hend : B .newline) :
    Followed (edges start text.length text.length) B (y :: ys) [lineEnd text.length] :=
  .mk hy hend fun hzero => (Nat.ne_of_gt h.length_pos hzero).elim

theorem Snippet.unread_stop (h : Snippet text) (start last : Position) :
    (edges start text.length text.length).stops last {} := fun hzero =>
  (Nat.ne_of_lt h.length_pos hzero).elim

include hT

theorem balanced_alike (h : balances [] ((excerpt text).map (·.lexeme)) = true) : Balanced true T :=
  closes_of_balances ((balances_alike hT []).trans h)

theorem Snippet.length_alike (h : Snippet text) : T.length ≤ text.length := by
  rw [hT.length_eq]
  exact h.length

/-- Where it stands, the piece is taken as by the reader that takes it when it stands alone. -/
theorem Snippet.taken (h : Snippet text) (hbalanced : Balanced true T) {α β : Type} {R : α → β → Prop}
    {p : Reader α} {q : Reader β} {B : Mark → Prop} {least : Nat}
    (hagrees : Agrees (edges start text.length text.length) B true T.length least R p q)
    (hy : B y.lexeme.mark) (hend : B .newline) {u : β} {stop : Position}
    (hu : q ⟨excerpt text ++ [lineEnd text.length], {}⟩ = some (u, ⟨[lineEnd text.length], stop⟩)) :
    ∃ t stop', p ⟨T ++ y :: ys, last⟩ = some (t, ⟨y :: ys, stop'⟩) ∧ R t u := by
  have houtcome := hagrees T (excerpt text) (y :: ys) [lineEnd text.length] last {} hT hbalanced
    (Nat.le_refl _) (h.followed hy hend) (h.unread_stop start last)
  rw [hu] at houtcome
  generalize hx : p ⟨T ++ y :: ys, last⟩ = x at houtcome
  obtain ⟨v, hv⟩ : ∃ v, v = (some (u, (⟨[lineEnd text.length], stop⟩ : Cursor))) := ⟨_, rfl⟩
  rw [← hv] at houtcome
  cases houtcome with
  | fails => cases hv
  | gives value alike balanced length _ =>
    obtain ⟨rfl, hc⟩ := Prod.mk.inj (Option.some.inj hv)
    obtain ⟨hrest, -⟩ := Cursor.mk.inj hc
    obtain rfl := List.append_left_eq_self.1 hrest
    cases alike
    exact ⟨_, _, rfl, value⟩

theorem Verbatim.of_agrees (h : Verbatim kind text)
    (hagrees : Agrees (edges start text.length text.length) (fun m => m = y.lexeme.mark ∨ m = .newline) true
      T.length 1 (Term.Alike (edges start text.length text.length)) (verbatimReader kind (readers depth))
      (verbatimReader kind (readers text.length))) :
    ∃ t stop, verbatimReader kind (readers depth) ⟨T ++ y :: ys, last⟩ = some (t, ⟨y :: ys, stop⟩) ∧
      t.CapturedAt kind start text.length := by
  obtain ⟨u, stop, hu, hslice, hextent⟩ := h.reads
  obtain ⟨t, stop', ht, halike⟩ := h.toSnippet.taken hT (balanced_alike hT h.balanced) hagrees (.inl rfl) (.inr rfl) hu
  exact ⟨t, stop', ht, halike.slice.trans hslice, .of_alike halike.extent hextent⟩

theorem Verbatim.agree (h : Verbatim kind text) (hdepth : T.length ≤ depth) :
    ReadersAgree (edges start text.length text.length) T.length (readers depth) (readers text.length) :=
  readers_agree hdepth (h.length_alike hT)

omit hT in
theorem stops_behind (hy : y.lexeme.mark.attach = 0) :
    Stops fun m => m = y.lexeme.mark ∨ m = .newline := by
  rintro m (rfl | rfl)
  · exact hy
  · rfl

/-- A piece that binds like a conditional expression is taken in front of what ends an expression. -/
theorem Verbatim.takes_test (h : Verbatim kind text) (hkind : Precedence.ofCaptured kind = .test)
    (hdepth : T.length ≤ depth) (hy : y.lexeme.mark.attach = 0) :
    ∃ t stop, expression (readers depth) ⟨T ++ y :: ys, last⟩ = some (t, ⟨y :: ys, stop⟩) ∧
      t.CapturedAt kind start text.length := by
  have hreader : ∀ r, verbatimReader kind r = expression r := fun r => by rw [verbatimReader, hkind]
  rw [← hreader]
  refine h.of_agrees hT ?_
  rw [hreader, hreader]
  exact (expression_agrees (h.agree hT hdepth) (stops_behind hy)).mono (Nat.le_succ _) (Nat.le_refl _)
    fun _ _ => id

theorem Verbatim.takes_named (h : Verbatim kind text) (hkind : Precedence.ofCaptured kind = .named)
    (hdepth : T.length ≤ depth) (hy : y.lexeme.mark.attach = 0)
    (hwalrus : y.lexeme.mark ≠ .symbol ":=") :
    ∃ t stop, namedExpression (readers depth) ⟨T ++ y :: ys, last⟩ = some (t, ⟨y :: ys, stop⟩) ∧
      t.CapturedAt kind start text.length := by
  have hreader : ∀ r, verbatimReader kind r = namedExpression r := fun r => by
    rw [verbatimReader, hkind]
  rw [← hreader]
  refine h.of_agrees hT ?_
  rw [hreader, hreader]
  exact namedExpression_agrees (h.agree hT hdepth) (stops_behind hy) (by simp [Ne.symm hwalrus])

theorem Verbatim.takes_yielding (h : Verbatim kind text) (hkind : Precedence.ofCaptured kind = .yielding)
    (hdepth : T.length ≤ depth) (hy : y.lexeme.mark.attach = 0)
    (hcomma : y.lexeme.mark ≠ .symbol ",") (hfrom : y.lexeme.mark ≠ .symbol "from") :
    ∃ t stop, yieldExpression (readers depth) ⟨T ++ y :: ys, last⟩ = some (t, ⟨y :: ys, stop⟩) ∧
      t.CapturedAt kind start text.length := by
  have hreader : ∀ r, verbatimReader kind r = yieldExpression r := fun r => by
    rw [verbatimReader, hkind]
  rw [← hreader]
  refine h.of_agrees hT ?_
  rw [hreader, hreader]
  exact yieldExpression_agrees (h.agree hT hdepth) (stops_behind hy) (by simp [Ne.symm hcomma])
    (by simp [Ne.symm hfrom])

omit hT in
theorem unjoined_behind (hy : y.lexeme.isString = false) :
    Unjoined fun m => m = y.lexeme.mark ∨ m = .newline := by
  rintro l hl (heq | heq)
  · rw [← Lexeme.isString_mark, heq, Lexeme.isString_mark, hy] at hl
    cases hl
  · rw [Lexeme.mark_newline.1 heq] at hl
    cases hl

omit hT in
theorem not_string {l : Lexeme} (h : l.mark.attach < Precedence.atom.rank) : l.isString = false := by
  cases l with
  | string marks body =>
    rw [Lexeme.mark] at h
    split at h <;> exact (Nat.lt_irrefl _ h).elim
  | _ => rfl

/-- A primary is read up to the end of the piece, where the loop behind its atom goes on. -/
theorem Verbatim.rounds (h : Verbatim kind text) (hkind : Precedence.ofCaptured kind = .atom)
    (hdepth : T.length ≤ depth) (hy : y.lexeme.isString = false) (ys : List Token) (last : Position) :
    ∃ first t₀ T' l n t stop, here ⟨T ++ y :: ys, last⟩ = some (first, ⟨T ++ y :: ys, last⟩) ∧
      atom (readers depth) ⟨T ++ y :: ys, last⟩ = some (t₀, ⟨T' ++ y :: ys, l⟩) ∧ n ≤ T'.length ∧
      t.CapturedAt kind start text.length ∧ ∀ fuel,
        trailers (readers depth) first (fuel + n) t₀ ⟨T' ++ y :: ys, l⟩ =
          trailers (readers depth) first fuel t ⟨y :: ys, stop⟩ := by
  have hreader : ∀ r, verbatimReader kind r = primary r := fun r => by rw [verbatimReader, hkind]
  obtain ⟨v, stop', hv, hslice, hextent⟩ := h.reads
  rw [hreader] at hv
  have hagree := h.agree hT hdepth
  have hbalanced := balanced_alike hT h.balanced
  have hne := h.nonempty
  generalize excerpt text = U at hT hv hne
  cases hT with
  | nil => exact (hne rfl).elim
  | @cons t u T U htu htail =>
    obtain ⟨t₀, T', l, ht₀, -, n, w, stop, hn, hw, -, hrounds⟩ :=
      primary_rounds hagree (unjoined_behind hy) htu htail hbalanced (Nat.le_succ _)
        (h.followed (.inl rfl) (.inr rfl)) (h.unread_stop start last)
        (Nat.zero_lt_succ _) hv
    exact ⟨t.span.start, t₀, T', l, n, w, stop, rfl, ht₀, hn, ⟨hw.slice.trans hslice, .of_alike hw.extent hextent⟩, hrounds⟩

/-- A piece that is awaited is taken in front of what binds less tightly than an atom. -/
theorem Verbatim.takes_await (h : Verbatim kind text) (hkind : Precedence.ofCaptured kind = .await)
    (hdepth : T.length ≤ depth) (hy : y.lexeme.mark.attach < Precedence.atom.rank) :
    ∃ t stop, awaited (readers depth) ⟨T ++ y :: ys, last⟩ = some (t, ⟨y :: ys, stop⟩) ∧
      t.CapturedAt kind start text.length := by
  have hreader : ∀ r, verbatimReader kind r = awaited r := fun r => by rw [verbatimReader, hkind]
  obtain ⟨v, stop', hv, hslice, hextent⟩ := h.reads
  rw [hreader] at hv
  have hagree := h.agree hT hdepth
  have hbalanced := balanced_alike hT h.balanced
  have hne := h.nonempty
  generalize excerpt text = U at hT hv hne
  cases hT with
  | nil => exact (hne rfl).elim
  | cons htu htail =>
    obtain ⟨w, stop, hw, halike, -⟩ := awaited_success hagree (unjoined_behind (not_string hy)) htu htail
      hbalanced (Nat.le_succ _) (h.followed (.inl rfl) (.inr rfl)) 
      (h.unread_stop start last) hy rfl hv
    exact ⟨w, stop, hw, ⟨halike.slice.trans hslice, .of_alike halike.extent hextent⟩⟩

end

end Refactory.Grammar
