import Refactory.Proofs.Grammar.Word
import Refactory.Proofs.Render.Ink

/-! # Rendered text stays on one line

An expression of the shape that a parser builds (`Expr.isShaped`, for every sub-expression) is rendered
to one line that begins with a character of its own, neither a blank nor the sign of a comment
(`Text.Written`). The only fault that can be met is an integer with too many digits
(`Expr.render_yields`). -/

namespace Refactory

/-! ## Written texts -/

/-- A text stays on one line. -/
def Text.OneLine (t : Text) : Prop := CodePoint.scalar '\n' ∉ t

/-- Whether a line of code can begin with a point. -/
def CodePoint.isInk (c : CodePoint) : Bool := !c.isBlank && c != CodePoint.scalar '#'

/-- A text that stays on one line and begins as code does. -/
structure Text.Written (t : Text) : Prop where
  opens : t.head?.any CodePoint.isInk = true
  oneLine : t.OneLine

instance : DecidablePred Text.OneLine := fun t => inferInstanceAs (Decidable (_ ∉ t))

instance : DecidablePred Text.Written := fun _ =>
  decidable_of_iff (_ ∧ _) ⟨fun h => ⟨h.1, h.2⟩, fun h => ⟨h.opens, h.oneLine⟩⟩

namespace Text

variable {s t : Text}

theorem oneLine_nil : OneLine [] := List.not_mem_nil

@[simp] theorem oneLine_append : OneLine (s ++ t) ↔ OneLine s ∧ OneLine t := by
  simp [OneLine, not_or]

theorem OneLine.flatMap {α : Type} {xs : List α} {f : α → Text} (h : ∀ x ∈ xs, (f x).OneLine) :
    OneLine (xs.flatMap f) := by
  intro hmem
  obtain ⟨x, hx, hc⟩ := List.mem_flatMap.1 hmem
  exact h x hx hc

theorem OneLine.flatten {ts : List Text} (h : ∀ t ∈ ts, t.OneLine) : OneLine ts.flatten := by
  rw [← List.flatMap_id]
  exact OneLine.flatMap h

theorem OneLine.join {sep : Text} {ts : List Text} (hsep : sep.OneLine) (h : ∀ t ∈ ts, t.OneLine) :
    OneLine (Text.join sep ts) := by
  cases ts with
  | nil => exact oneLine_nil
  | cons t ts =>
    rw [List.forall_mem_cons] at h
    rw [Inks.join_text_cons, oneLine_append]
    exact ⟨h.1, OneLine.flatMap fun u hu => oneLine_append.2 ⟨hsep, h.2 u hu⟩⟩

theorem Written.append (hs : Written s) (ht : OneLine t) : Written (s ++ t) := by
  refine ⟨?_, oneLine_append.2 ⟨hs.oneLine, ht⟩⟩
  cases s with
  | nil => cases hs.opens
  | cons c rest => exact hs.opens

/-- A text of some pieces begins with the first of them. -/
theorem Written.join {sep : Text} {ts : List Text} (hne : ts ≠ []) (hsep : sep.OneLine)
    (h : ∀ t ∈ ts, t.Written) : Written (Text.join sep ts) := by
  cases ts with
  | nil => exact (hne rfl).elim
  | cons t ts =>
    rw [List.forall_mem_cons] at h
    rw [Inks.join_text_cons]
    exact h.1.append (OneLine.flatMap fun u hu => oneLine_append.2 ⟨hsep, (h.2 u hu).oneLine⟩)

theorem Written.paren (h : t.OneLine) : Written ("(" ++ t ++ ")") := by
  rw [List.append_assoc]
  exact Written.append (by decide) (oneLine_append.2 ⟨h, by decide⟩)

end Text

/-! ## Names -/

/-- Whether a text is a name as imports have them: identifiers with dots between them, or a star. -/
def Text.isQualified (t : Text) : Bool := t == "*" || (t.splitOn '.').all Text.isIdentifier

theorem Text.written_identifier {t : Text} (h : t.isIdentifier = true) : t.Written := by
  cases t with
  | nil => cases h
  | cons c rest =>
    rw [Text.isIdentifier, Bool.and_eq_true, List.all_eq_true] at h
    have hblank := CodePoint.not_blank_of_begins h.1
    refine ⟨?_, ?_⟩
    · have hsharp : c ≠ CodePoint.scalar '#' := by
        rintro rfl
        exact absurd h.1 (by decide +kernel)
      simp [CodePoint.isInk, hblank, hsharp]
    · intro hmem
      rcases List.mem_cons.1 hmem with rfl | hmem
      · exact absurd hblank (by decide)
      · exact absurd (CodePoint.not_blank_of_continues (h.2 _ hmem)) (by decide)

theorem Text.splitOn_ne_nil (sep : CodePoint) (t : Text) : t.splitOn sep ≠ [] := by
  cases t with
  | nil => exact List.cons_ne_nil _ _
  | cons c rest =>
    rw [Text.splitOn]
    split
    · exact List.cons_ne_nil _ _
    · split <;> exact List.cons_ne_nil _ _

/-- What is cut at a separator can be put back. -/
theorem Text.join_splitOn (sep : CodePoint) (t : Text) : Text.join [sep] (t.splitOn sep) = t := by
  induction t with
  | nil => rfl
  | cons c rest ih =>
    rw [Text.splitOn]
    cases hrest : Text.splitOn sep rest with
    | nil => exact (Text.splitOn_ne_nil sep rest hrest).elim
    | cons first others =>
      rw [hrest, Inks.join_text_cons] at ih
      by_cases hc : c = sep
      · simp only [hc, if_true, Inks.join_text_cons, List.flatMap_cons, List.nil_append]
        rw [← ih]
        simp
      · simp only [hc, if_false, Inks.join_text_cons]
        rw [← ih]
        rfl

theorem Text.written_qualified {t : Text} (h : t.isQualified = true) : t.Written := by
  rw [Text.isQualified, Bool.or_eq_true, beq_iff_eq] at h
  rcases h with rfl | h
  · decide
  · rw [← Text.join_splitOn '.' t]
    refine Text.Written.join (Text.splitOn_ne_nil _ _) (by decide) fun part hpart => ?_
    exact Text.written_identifier (List.all_eq_true.1 h part hpart)

/-! ## Literals -/

theorem oneLine_hex (width n : Nat) : (Text.hex width n).OneLine := by
  rw [Grammar.hex_eq]
  intro hmem
  obtain ⟨c, hc, heq⟩ := List.mem_map.1 hmem
  cases heq
  exact absurd (Grammar.isDigitOf_hexChars width n _ hc) (by decide)

theorem oneLine_escaped (quote : Quote) (t : Text) : (t.escaped quote).OneLine := by
  refine Text.OneLine.flatMap fun c _ => ?_
  unfold CodePoint.escaped
  split_ifs with hslash hdouble hsingle hfeed hreturn htab hcontrol
  · decide
  · decide
  · decide
  · decide
  · decide
  · decide
  · exact Text.oneLine_append.2 ⟨by decide, oneLine_hex 2 _⟩
  · cases c with
    | surrogate offset => exact Text.oneLine_append.2 ⟨by decide, oneLine_hex 4 _⟩
    | scalar c => exact fun hmem => hfeed (List.mem_singleton.1 hmem).symm

theorem oneLine_formattedLiteral (t : Text) : t.formattedLiteral.OneLine := by
  refine Text.OneLine.flatMap fun c hc => ?_
  have hne : c ≠ CodePoint.scalar '\n' := fun h => oneLine_escaped .double t (h ▸ hc)
  unfold CodePoint.braced
  split_ifs
  · simpa [Text.OneLine] using hne.symm
  · simpa [Text.OneLine] using hne.symm

/-- Whether a number can be written with a character. -/
def isNumeralChar (c : Char) : Bool := c.isDigit || c ∈ ['.', '+', '-', 'e']

theorem isInk_of_numeral {c : Char} (h : isNumeralChar c = true) :
    (CodePoint.scalar c).isInk = true ∧ c ≠ '\n' := by
  rw [isNumeralChar, Bool.or_eq_true, decide_eq_true_iff] at h
  rcases h with h | h
  · have hrange : 48 ≤ c.toNat ∧ c.toNat ≤ 57 := Char.isDigit_iff_toNat.1 h
    have hblank : ∀ n < 58, 48 ≤ n → inClass CodePoint.blankBounds n = false := by decide
    have hne : ∀ d : Char, d.toNat < 48 → c ≠ d := by
      rintro d hd rfl
      omega
    refine ⟨?_, hne '\n' (by decide)⟩
    simp [CodePoint.isInk, CodePoint.isBlank, CodePoint.val, hblank c.toNat (by omega) hrange.1,
      hne '#' (by decide)]
  · have hall : ∀ c ∈ ['.', '+', '-', 'e'], (CodePoint.scalar c).isInk = true ∧ c ≠ '\n' := by decide
    exact hall c h

/-- A text is written with the characters of numbers. -/
def Text.Numeral (t : Text) : Prop :=
  ∃ cs : List Char, cs ≠ [] ∧ (∀ c ∈ cs, isNumeralChar c = true) ∧ t = Text.ofChars cs

theorem numeral_ofChars {cs : List Char} (hne : cs ≠ []) (h : ∀ c ∈ cs, isNumeralChar c = true) :
    (Text.ofChars cs).Numeral := ⟨cs, hne, h, rfl⟩

theorem Text.Numeral.written {t : Text} (h : t.Numeral) : t.Written := by
  obtain ⟨cs, hne, h, rfl⟩ := h
  cases cs with
  | nil => exact (hne rfl).elim
  | cons c rest =>
    refine ⟨(isInk_of_numeral (h c List.mem_cons_self)).1, fun hmem => ?_⟩
    obtain ⟨d, hd, heq⟩ := List.mem_map.1 hmem
    cases heq
    exact (isInk_of_numeral (h _ hd)).2 rfl

theorem numeral_toDigits (n : Nat) : ∀ c ∈ Nat.toDigits 10 n, isNumeralChar c = true := fun c hc => by
  simp [isNumeralChar, Nat.isDigit_of_mem_toDigits (by decide) (by decide) hc]

theorem numeral_zeros (k : Nat) : ∀ c ∈ List.replicate k '0', isNumeralChar c = true := fun c hc => by
  rw [List.eq_of_mem_replicate hc]
  rfl

theorem numeral_ofNat (n : Nat) : (Text.ofNat n).Numeral :=
  numeral_ofChars Nat.toDigits_ne_nil (numeral_toDigits n)

theorem written_ofInt (n : Int) : (Text.ofInt n).Written := by
  cases n with
  | ofNat n => exact (numeral_ofNat n).written
  | negSucc n => exact Text.Written.append (by decide) (numeral_ofNat _).written.oneLine

namespace FloatFormat

theorem numeral_positional {digits : List Char} (hne : digits ≠ [])
    (h : ∀ c ∈ digits, isNumeralChar c = true) (n : Int) : (positional digits n).Numeral := by
  unfold positional
  split_ifs with hzero hlong
  · refine numeral_ofChars (by simp) (List.forall_mem_append.2 ⟨List.forall_mem_append.2 ⟨?_, ?_⟩, h⟩)
    · decide
    · exact numeral_zeros _
  · refine numeral_ofChars (by simp [hne]) (List.forall_mem_append.2
      ⟨List.forall_mem_append.2 ⟨h, numeral_zeros _⟩, ?_⟩)
    decide
  · refine numeral_ofChars (by simp) (List.forall_mem_append.2
      ⟨fun c hc => h c (List.mem_of_mem_take hc), List.forall_mem_cons.2 ⟨rfl, ?_⟩⟩)
    exact fun c hc => h c (List.mem_of_mem_drop hc)

theorem numeral_scientific (f : FloatFormat) {digits : List Char}
    (h : ∀ c ∈ digits, isNumeralChar c = true) (exponent : Int) :
    (f.scientific digits exponent).Numeral := by
  unfold scientific
  refine numeral_ofChars (by simp) (List.forall_mem_append.2 ⟨?_, List.forall_mem_cons.2 ⟨rfl,
    List.forall_mem_cons.2 ⟨by split <;> rfl, List.forall_mem_append.2 ⟨numeral_zeros _,
      numeral_toDigits _⟩⟩⟩⟩)
  match digits with
  | [] => exact h
  | [d] => exact h
  | d :: e :: rest =>
    rw [List.forall_mem_cons] at h
    exact List.forall_mem_cons.2 ⟨h.1, List.forall_mem_cons.2 ⟨rfl, h.2⟩⟩

theorem numeral_render (f : FloatFormat) (d : Double.Decimal) : (f.render d).Numeral := by
  unfold render
  dsimp only
  split_ifs
  · exact numeral_positional Nat.toDigits_ne_nil (numeral_toDigits _) _
  · exact numeral_scientific f (numeral_toDigits _) _

end FloatFormat

theorem written_double (x : Double) : x.literal.Written := by
  cases x with
  | finite negative m e =>
    have hsize : Text.Written (if m = 0 then "0.0" else floatFormat.render (Double.shortest m e)) := by
      split_ifs
      · decide
      · exact (FloatFormat.numeral_render _ _).written
    cases negative with
    | false => exact hsize
    | true => exact Text.Written.append (by decide) hsize.oneLine
  | infinite negative => cases negative <;> decide
  | nan => decide

/-! ## Outcomes -/

/-- What is given has a property, or there is a fault for an integer with too many digits, which `long`
tells of. -/
def Yields {α : Type} (long : Prop) (P : α → Prop) : Except Fault α → Prop
  | .ok a => P a
  | .error f => f = .tooManyDigits ∧ long

namespace Yields

variable {α β : Type} {long : Prop} {P : α → Prop} {Q : β → Prop} {r : Except Fault α}

theorem mono {P' : α → Prop} (h : Yields long P r) (himp : ∀ a, P a → P' a) : Yields long P' r := by
  cases r with
  | error f => exact h
  | ok a => exact himp a h

theorem bind {next : α → Except Fault β} (h : Yields long P r)
    (hnext : ∀ a, P a → Yields long Q (next a)) : Yields long Q (r >>= next) := by
  cases r with
  | error f => exact h
  | ok a => exact hnext a h

theorem map {f : α → β} (h : Yields long P r) (hf : ∀ a, P a → Q (f a)) :
    Yields long Q (r.map f) := by
  cases r with
  | error f => exact h
  | ok a => exact hf a h

/-- Parts that are given in order. -/
theorem inOrder {P : Text → Prop} {parts : List (Except Fault Text)}
    (h : ∀ r ∈ parts, Yields long P r) :
    Yields long (fun ts => ts.length = parts.length ∧ ∀ t ∈ ts, P t) (Refactory.inOrder parts) := by
  induction parts with
  | nil => exact ⟨rfl, List.forall_mem_nil _⟩
  | cons r rest ih =>
    rw [List.forall_mem_cons] at h
    rw [Refactory.inOrder, List.mapM_cons]
    refine h.1.bind fun t ht => (ih h.2).bind fun ts hts => ?_
    exact ⟨congrArg Nat.succ hts.1, List.forall_mem_cons.2 ⟨ht, hts.2⟩⟩

end Yields

/-! ## Expressions -/

/-- Whether a field of a formatted string has one of the three conversions, or none. -/
def Piece.isShaped : Piece → Bool
  | .text _ => true
  | .field _ conversion _ => conversion.all fun c : Text => c == "s" || c == "r" || c == "a"

/-- Whether an expression by itself is such as a parser builds: lists that belong together have one
length, names are names, and nothing is captured. -/
def Expr.isShaped : Expr → Bool
  | .name id => id.isQualified
  | .call _ _ keywords => keywords.all (·.arg.all Text.isQualified)
  | .logical _ values => 2 ≤ values.length
  | .compare _ ops comparators => ops.length = comparators.length
  | .attribute _ attr => attr.isQualified
  | .dict keys values => keys.length = values.length
  | .formatted parts => parts.all Piece.isShaped
  | .captured .. | .foreign _ => false
  | _ => true

/-- Whether an expression is an integer with more digits than are written. -/
def Expr.isLong : Expr → Bool
  | .number (.int n) => digitLimit < (Nat.toDigits 10 n.natAbs).length
  | _ => false

/-- A shaped expression that is no long integer, unless `long`. -/
def Expr.Fits (long : Prop) (e : Expr) : Prop := e.isShaped = true ∧ (e.isLong = true → long)

section

variable {long : Prop} {mode : RenderMode} {quote : Quote}

/-- A rendering that is one line of code. -/
def Expr.Renders (long : Prop) (mode : RenderMode) (e : Expr) : Prop :=
  ∀ quote, quote ≠ .other → Yields long (·.1.Written) (e.render mode quote)

theorem Yields.place {r : Rendered} (h : Yields long (·.1.Written) r) (least : Precedence) :
    Yields long Text.Written (Refactory.place least r) := by
  refine Yields.map h fun x hx => ?_
  unfold Precedence.wrap
  split_ifs
  · exact Text.Written.paren hx.oneLine
  · exact hx

theorem Number.render_yields {value : Number} (h : (Expr.number value).isLong = true → long) :
    Yields long Text.Written value.render := by
  cases value with
  | int n =>
    rw [Number.render]
    split_ifs with hdigits
    · exact written_ofInt n
    · exact ⟨rfl, h (by simpa [Expr.isLong] using hdigits)⟩
  | float x => exact written_double x
  | complex re im =>
    have hre := (written_double re).oneLine
    rw [Number.render, Number.complexLiteral]
    split_ifs
    · exact (written_double im).append (by decide)
    · exact (((Text.Written.append (by decide) hre).append (by decide)).append
        (written_double _).oneLine).append (by decide)
    · exact (((Text.Written.append (by decide) hre).append (by decide)).append
        (written_double im).oneLine).append (by decide)
  | bool b =>
    cases b with
    | false => exact (by decide : Text.Written "False")
    | true => exact (by decide : Text.Written "True")

theorem Expr.renderEach_length (es : List Expr) :
    (Expr.renderEach mode quote es).length = es.length := by
  induction es with
  | nil => rfl
  | cons e es ih => rw [Expr.renderEach, List.length_cons, List.length_cons, ih]

variable (hquote : quote ≠ .other)

include hquote

theorem Expr.renderEach_yields {es : List Expr} (h : ∀ e ∈ es, e.Renders long mode)
    (least : Precedence) :
    ∀ r ∈ (Expr.renderEach mode quote es).map (place least), Yields long Text.Written r := by
  induction es with
  | nil => exact List.forall_mem_nil _
  | cons e es ih =>
    rw [List.forall_mem_cons] at h
    exact List.forall_mem_cons.2 ⟨(h.1 quote hquote).place least, ih h.2⟩

theorem Expr.renderKeywords_yields {ks : List Keyword} (h : ∀ k ∈ ks, k.value.Renders long mode)
    (hargs : ks.all (·.arg.all Text.isQualified) = true) :
    ∀ r ∈ Expr.renderKeywords mode quote ks, Yields long Text.Written r := by
  induction ks with
  | nil => exact List.forall_mem_nil _
  | cons k ks ih =>
    obtain ⟨arg, value⟩ := k
    rw [List.forall_mem_cons] at h
    rw [List.all_cons, Bool.and_eq_true] at hargs
    have hvalue : value.Renders long mode := h.1
    cases arg with
    | none =>
      refine List.forall_mem_cons.2 ⟨((hvalue quote hquote).place .bitOr).map fun v hv => ?_,
        ih h.2 hargs.2⟩
      exact Text.Written.append (by decide) hv.oneLine
    | some arg =>
      refine List.forall_mem_cons.2 ⟨((hvalue quote hquote).place .test).map fun v hv => ?_,
        ih h.2 hargs.2⟩
      exact ((Text.written_qualified hargs.1).append (by decide)).append hv.oneLine

theorem Expr.comparisonParts_yields {ops : List CompareOp} {es : List Expr}
    (hlength : ops.length = es.length) (h : ∀ e ∈ es, e.Renders long mode) :
    ∀ r ∈ comparisonParts ops (Expr.renderEach mode quote es), Yields long Text.Written r := by
  induction ops generalizing es with
  | nil =>
    cases es with
    | nil => exact List.forall_mem_nil _
    | cons e es => cases hlength
  | cons op ops ih =>
    cases es with
    | nil => cases hlength
    | cons e es =>
      rw [List.forall_mem_cons] at h
      have hop : Text.Written op.token := by cases op <;> decide
      exact List.forall_mem_cons.2 ⟨hop, List.forall_mem_cons.2
        ⟨(h.1 quote hquote).place .bitOr, ih (Nat.succ.inj hlength) h.2⟩⟩

theorem Expr.dictItems_yields {ks : List (Option Expr)} {vs : List Expr}
    (hlength : ks.length = vs.length) (hks : ∀ e ∈ ks.filterMap id, e.Renders long mode)
    (hvs : ∀ e ∈ vs, e.Renders long mode) :
    ∀ r ∈ dictItems (Expr.renderKeys mode quote ks) (Expr.renderEach mode quote vs),
      Yields long Text.Written r := by
  induction ks generalizing vs with
  | nil =>
    cases vs with
    | nil => exact List.forall_mem_nil _
    | cons v vs => cases hlength
  | cons k ks ih =>
    cases vs with
    | nil => cases hlength
    | cons v vs =>
      rw [List.forall_mem_cons] at hvs
      have hvalue := hvs.1 quote hquote
      cases k with
      | none =>
        refine List.forall_mem_cons.2 ⟨(hvalue.place .bitOr).bind fun t ht => ?_,
          ih (Nat.succ.inj hlength) hks hvs.2⟩
        exact Text.Written.append (by decide) ht.oneLine
      | some k =>
        obtain ⟨hk, hks⟩ : k.Renders long mode ∧ ∀ e ∈ ks.filterMap id, e.Renders long mode :=
          List.forall_mem_cons.1 hks
        refine List.forall_mem_cons.2 ⟨((hk quote hquote).place .test).bind fun key hkey =>
          (hvalue.place .test).bind fun t ht => ?_, ih (Nat.succ.inj hlength) hks hvs.2⟩
        exact (hkey.append (by decide)).append ht.oneLine

omit hquote

theorem oneLine_fieldText {value : Text} (h : value.OneLine) {conversion spec : Option Text}
    (hconversion : conversion.all (fun c : Text => c == "s" || c == "r" || c == "a") = true) :
    (fieldText value conversion spec).OneLine := by
  unfold fieldText
  simp only [Text.oneLine_append]
  refine ⟨⟨⟨⟨by decide, ?_⟩, ?_⟩, ?_⟩, by decide⟩
  · split_ifs
    · exact Text.oneLine_append.2 ⟨by decide, h⟩
    · exact h
  · cases conversion with
    | none => decide
    | some c =>
      rw [Option.all_some, Bool.or_eq_true, Bool.or_eq_true, beq_iff_eq, beq_iff_eq, beq_iff_eq]
        at hconversion
      obtain (rfl | rfl) | rfl := hconversion <;> decide
  · split
    · decide
    · exact Text.oneLine_append.2 ⟨by decide, oneLine_formattedLiteral _⟩

theorem Expr.renderPieces_yields {parts : List Piece}
    (h : ∀ e ∈ parts.filterMap Piece.value?, e.Renders long mode)
    (hparts : parts.all Piece.isShaped = true) :
    ∀ r ∈ Expr.renderPieces mode parts, Yields long Text.OneLine r := by
  induction parts with
  | nil => exact List.forall_mem_nil _
  | cons part parts ih =>
    rw [List.all_cons, Bool.and_eq_true] at hparts
    cases part with
    | text t => exact List.forall_mem_cons.2 ⟨oneLine_formattedLiteral t, ih h hparts.2⟩
    | field value conversion spec =>
      obtain ⟨hvalue, h⟩ : value.Renders long mode ∧
          ∀ e ∈ parts.filterMap Piece.value?, e.Renders long mode := List.forall_mem_cons.1 h
      refine List.forall_mem_cons.2 ⟨((hvalue .single (by decide)).place .disj).map fun t ht => ?_,
        ih h hparts.2⟩
      exact oneLine_fieldText ht.oneLine hparts.1

/-- A shaped expression is rendered to one line of code, unless one of its integers is too long. -/
theorem Expr.render_yields (mode : RenderMode) : ∀ e : Expr, e.All (Expr.Fits long) →
    e.Renders long mode := by
  refine Expr.induct_children fun e ih hall quote hquote => ?_
  obtain ⟨⟨hshape, hlong⟩, hchildren⟩ := Expr.all_iff.1 hall
  have hrenders : ∀ c ∈ e.children, c.Renders long mode := fun c hc => ih c hc (hchildren c hc)
  clear ih hall hchildren
  cases e with
  | name id => exact Text.written_qualified hshape
  | string value =>
    have hvalue := oneLine_escaped quote value
    cases quote with
    | double => exact (Text.Written.append (by decide) hvalue).append (by decide)
    | single => exact (Text.Written.append (by decide) hvalue).append (by decide)
    | other => exact (hquote rfl).elim
  | number value => exact (Number.render_yields hlong).bind fun t ht => ht
  | truth value =>
    cases value with
    | false => exact (by decide : Text.Written "False")
    | true => exact (by decide : Text.Written "True")
  | noneLiteral => exact (by decide : Text.Written "None")
  | call func args keywords =>
    obtain ⟨hfirst, hkeywords⟩ := List.forall_mem_append.1 hrenders
    obtain ⟨hfunc, hargs⟩ := List.forall_mem_cons.1 hfirst
    rw [List.forall_mem_map] at hkeywords
    refine (Yields.inOrder (Expr.renderEach_yields hquote hargs .test)).bind fun args hargs =>
      (Yields.inOrder (Expr.renderKeywords_yields hquote hkeywords hshape)).bind fun keywords
      hkeywords => ((hfunc quote hquote).place .atom).bind fun func hfunc => ?_
    have hall : ∀ t ∈ args ++ keywords, t.OneLine := List.forall_mem_append.2
      ⟨fun t ht => (hargs.2 t ht).oneLine, fun t ht => (hkeywords.2 t ht).oneLine⟩
    exact ((hfunc.append (by decide)).append (Text.OneLine.join (by decide) hall)).append (by decide)
  | binary left op right =>
    obtain ⟨hleft, hright⟩ := List.forall_mem_cons.1 hrenders
    have hop : Text.OneLine op.token := by cases op <;> decide
    refine ((hleft quote hquote).place op.operands.1).bind fun left hleft =>
      ((hright right List.mem_cons_self quote hquote).place op.operands.2).bind fun right hright => ?_
    exact (((hleft.append (by decide)).append hop).append (by decide)).append hright.oneLine
  | unary op operand =>
    have hoperand := hrenders operand List.mem_cons_self quote hquote
    cases op with
    | negation =>
      exact (hoperand.place .negation).bind fun t ht => Text.Written.append (by decide) ht.oneLine
    | invert | plus | minus =>
      exact (hoperand.place .factor).bind fun t ht => Text.Written.append (by decide) ht.oneLine
  | logical op values =>
    have hop : Text.OneLine (" " ++ Text.ofString op.token ++ " ") := by cases op <;> decide
    refine (Yields.inOrder (Expr.renderEach_yields hquote hrenders op.precedence.next)).bind
      fun values' hvalues => ?_
    have hlength : 2 ≤ values.length := by simpa [Expr.isShaped] using hshape
    have hcount : values'.length = values.length :=
      hvalues.1.trans ((List.length_map _).trans (Expr.renderEach_length values))
    refine Text.Written.join (fun hnil => ?_) hop hvalues.2
    rw [hnil, List.length_nil] at hcount
    omega
  | compare left ops comparators =>
    obtain ⟨hleft, hcomparators⟩ := List.forall_mem_cons.1 hrenders
    have hlength : ops.length = comparators.length := by simpa [Expr.isShaped] using hshape
    refine ((hleft quote hquote).place .bitOr).bind fun left hleft =>
      (Yields.inOrder (Expr.comparisonParts_yields hquote hlength hcomparators)).bind
      fun parts hparts => ?_
    exact Text.Written.join (List.cons_ne_nil _ _) (by decide)
      (List.forall_mem_cons.2 ⟨hleft, hparts.2⟩)
  | «attribute» value attr =>
    have hattr := (Text.written_qualified hshape).oneLine
    refine ((hrenders value List.mem_cons_self quote hquote).place .atom).bind fun t ht => ?_
    have hdotted : (dotted value.isNumber t).Written := by
      unfold dotted
      split_ifs
      · exact Text.Written.paren ht.oneLine
      · exact ht
    exact (hdotted.append (by decide)).append hattr
  | subscript value index =>
    obtain ⟨hvalue, hindex⟩ := List.forall_mem_cons.1 hrenders
    refine ((hvalue quote hquote).place .atom).bind fun t ht =>
      ((hindex index List.mem_cons_self quote hquote).place .test).bind fun i hi => ?_
    exact ((ht.append (by decide)).append hi.oneLine).append (by decide)
  | starred value =>
    exact ((hrenders value List.mem_cons_self quote hquote).place .bitOr).bind fun t ht =>
      Text.Written.append (by decide) ht.oneLine
  | tuple elements =>
    refine (Yields.inOrder (Expr.renderEach_yields hquote hrenders .test)).bind fun ts hts => ?_
    have hall : ∀ t ∈ ts, t.OneLine := fun t ht => (hts.2 t ht).oneLine
    match ts, hall with
    | [t], hall =>
      exact (Text.Written.append (by decide) (hall t List.mem_cons_self)).append (by decide)
    | [], hall | _ :: _ :: _, hall => exact Text.Written.paren (Text.OneLine.join (by decide) hall)
  | list elements =>
    refine (Yields.inOrder (Expr.renderEach_yields hquote hrenders .test)).bind fun ts hts => ?_
    exact (Text.Written.append (by decide) (Text.OneLine.join (by decide)
      fun t ht => (hts.2 t ht).oneLine)).append (by decide)
  | dict keys values =>
    obtain ⟨hkeys, hvalues⟩ := List.forall_mem_append.1 hrenders
    have hlength : keys.length = values.length := by simpa [Expr.isShaped] using hshape
    refine (Yields.inOrder (Expr.dictItems_yields hquote hlength hkeys hvalues)).bind
      fun ts hts => ?_
    exact (Text.Written.append (by decide) (Text.OneLine.join (by decide)
      fun t ht => (hts.2 t ht).oneLine)).append (by decide)
  | formatted parts =>
    refine (Yields.inOrder (Expr.renderPieces_yields hrenders hshape)).bind fun ts hts => ?_
    exact (Text.Written.append (by decide) (Text.OneLine.flatten hts.2)).append (by decide)
  | captured kind source => cases hshape
  | foreign kind => cases hshape

end

end Refactory
