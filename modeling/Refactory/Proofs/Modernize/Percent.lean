import Mathlib.Data.List.Chain
import Refactory.Proofs.Modernize.Strings

/-! # Percent templates keep their value

A percent template becomes a formatted string just if it is plain: characters, doubled percent signs
and bare specifiers, as many as there are arguments (`plain_of_percentParts`). What the formatted string
evaluates to is then what the percent operator makes of the template, whatever the arguments are and
however they are shown (`PlainTemplate.value`). Main statement: `percentToPieces_value`.

The percent operator is defined for all templates, with flags, widths, precisions and conversions that
only numbers have (`percentFormat`). -/

namespace Refactory

/-! ## Values -/

/-- What a percent operator asks of a value besides its text: its conversion, with the flags, the width
and the precision that apply. -/
structure Conversion where
  flags : List CodePoint
  width : Option Int
  precision : Option Nat
  letter : CodePoint

/-- The letters of conversions: the three to text, those of integers and of other numbers, and the one to
a single character. -/
def Conversion.letters : Text := "sradiuoxXeEfFgGc"

/-- How values are shown. A value can refuse. -/
structure Display (V E : Type) where
  str : V → Except E Text
  repr : V → Except E Text
  ascii : V → Except E Text
  /-- The value in a field that has a format, after a conversion if the field has one. -/
  format : Option Text → Text → V → Except E Text
  /-- The value under a conversion other than the three to text. -/
  convert : Conversion → V → Except E Text
  /-- The width or precision that the value stands for, if it is an integer. -/
  amount : V → Option Int

/-- Why a template cannot be filled in. -/
inductive FormatFault (E : Type)
  /-- The template ends within a specifier. -/
  | incomplete
  /-- A specifier asks for a value by name. -/
  | needsMapping
  | tooFew
  | leftOver
  /-- A width or a precision is to be taken from a value that is no integer. -/
  | noAmount
  /-- A letter stands for no conversion. -/
  | unsupported (letter : CodePoint)
  | refused (why : E)

variable {V E : Type}

/-- The text of a value, or the reason why there is none. -/
def FormatFault.ofShown (shown : Except E Text) : Except (FormatFault E) Text :=
  shown.mapError FormatFault.refused

/-! ## Formatted strings -/

/-- The text of a value in a field. -/
def Display.field (d : Display V E) (conversion spec : Option Text) (v : V) : Except E Text :=
  match spec, conversion with
  | some spec, conversion => d.format conversion spec v
  | none, none => d.str v
  | none, some c => if c = "r" then d.repr v else if c = "a" then d.ascii v else d.str v

/-- What the parts of a formatted string evaluate to, given the values of its fields in order. -/
def evaluateParts (d : Display V E) : List Piece → List V → Except (FormatFault E) Text
  | [], _ => .ok []
  | .text t :: rest, values => (evaluateParts d rest values).map (t ++ ·)
  | .field .. :: _, [] => .error .tooFew
  | .field _ conversion spec :: rest, v :: values => do
    let shown ← FormatFault.ofShown (d.field conversion spec v)
    return shown ++ (← evaluateParts d rest values)

/-- Parts with their fields filled in: `field` gives the text of a value, and `missing` is the fault of
a field without one. -/
def fillParts {F : Type} (missing : F) (field : Option Text → Option Text → V → Except F Text) :
    List Piece → List V → Except F Text
  | [], _ => .ok []
  | .text t :: rest, values => (fillParts missing field rest values).map (t ++ ·)
  | .field .. :: _, [] => .error missing
  | .field _ conversion spec :: rest, v :: values => do
    let shown ← field conversion spec v
    return shown ++ (← fillParts missing field rest values)

theorem evaluateParts_eq_fillParts (d : Display V E) (parts : List Piece) (values : List V) :
    evaluateParts d parts values =
      fillParts .tooFew (fun conversion spec v => FormatFault.ofShown (d.field conversion spec v))
        parts values := by
  fun_induction evaluateParts d parts values with
  | case1 => rfl
  | case2 t rest values ih => rw [ih, fillParts]
  | case3 => rfl
  | case4 e conversion spec rest v values ih => rw [ih, fillParts]

/-! ## The percent operator -/

/-- A width or a precision: a number, or the next value. -/
inductive Amount
  | fixed (n : Nat)
  | next

/-- The amount at the start of a template, and what follows it. -/
def readAmount : Text → Option Amount × Text
  | [] => (none, [])
  | c :: rest =>
    if c = '*' then (some .next, rest)
    else if c.isAsciiDigit then
      (some (.fixed ((Text.decimal? ((c :: rest).takeWhile CodePoint.isAsciiDigit)).getD 0)),
        rest.dropWhile CodePoint.isAsciiDigit)
    else (none, c :: rest)

/-- A specifier as it is written. The letter is missing if the template ends before it. -/
structure Specifier where
  /-- Whether it begins with a name. -/
  named : Bool
  flags : List CodePoint
  width : Option Amount
  precision : Option Amount
  letter : Option CodePoint

/-- Whether a specifier can hold a point as a flag. -/
def CodePoint.isFlag (c : CodePoint) : Bool :=
  c = '-' || c = '+' || c = ' ' || c = '#' || c = '0'

/-- The precision at the start of a template, behind a point, and what follows it. -/
def readPrecision : Text → Option Amount × Text
  | [] => (none, [])
  | c :: rest =>
    if c = '.' then ((readAmount rest).1.or (some (.fixed 0)), (readAmount rest).2)
    else (none, c :: rest)

/-- A template without the one mark of a length that it can begin with. -/
def dropLengthMark : Text → Text
  | [] => []
  | c :: rest => if c = 'h' ∨ c = 'l' ∨ c = 'L' then rest else c :: rest

/-- The specifier behind a percent sign, and what follows it. -/
def readSpecifier (t : Text) : Specifier × Text :=
  let width := readAmount (t.dropWhile CodePoint.isFlag)
  let precision := readPrecision width.2
  let rest := dropLengthMark precision.2
  ({ named := t.head? = some '(', flags := t.takeWhile CodePoint.isFlag, width := width.1,
     precision := precision.1, letter := rest.head? }, rest.tail)

/-- A text cut to a precision and filled up with spaces to a width, in front unless it is to stand on
the left. -/
def fitText (flags : List CodePoint) (width : Option Int) (precision : Option Nat) (t : Text) : Text :=
  let cut := match precision with
    | some n => t.take n
    | none => t
  let fill := Text.times ((width.getD 0).natAbs - cut.length) " "
  if flags.contains (CodePoint.scalar '-') || width.getD 0 < 0 then cut ++ fill else fill ++ cut

/-- The text of a value under a conversion. -/
def Display.converted (d : Display V E) (c : Conversion) (v : V) : Except E Text :=
  if c.letter = 's' then (d.str v).map (fitText c.flags c.width c.precision)
  else if c.letter = 'r' then (d.repr v).map (fitText c.flags c.width c.precision)
  else if c.letter = 'a' then (d.ascii v).map (fitText c.flags c.width c.precision)
  else d.convert c v

/-- The number that an amount stands for, and the values that are left. -/
def Display.takeAmount (d : Display V E) :
    Option Amount → List V → Except (FormatFault E) (Option Int × List V)
  | none, values => .ok (none, values)
  | some (.fixed n), values => .ok (some n, values)
  | some .next, [] => .error .tooFew
  | some .next, v :: values =>
    match d.amount v with
    | some n => .ok (some n, values)
    | none => .error .noAmount

/-- The text of a specifier, and the values that are left. The letter is looked at when the value has
been taken. A percent sign stands for itself right behind another one only: behind flags, amounts or a
length it is a letter that stands for no conversion. -/
def Display.fill (d : Display V E) (s : Specifier) (values : List V) :
    Except (FormatFault E) (Text × List V) :=
  if s.named then .error .needsMapping
  else do
    let (width, values) ← d.takeAmount s.width values
    let (precision, values) ← d.takeAmount s.precision values
    match s.letter, values with
    | none, _ => .error .incomplete
    | some _, [] => .error .tooFew
    | some letter, v :: values =>
      if !Conversion.letters.contains letter then .error (.unsupported letter)
      else do
        let shown ← FormatFault.ofShown
          (d.converted ⟨s.flags, width, precision.map Int.toNat, letter⟩ v)
        return (shown, values)

theorem length_readAmount_le (t : Text) : (readAmount t).2.length ≤ t.length := by
  unfold readAmount
  split
  · exact Nat.le_refl _
  · split
    · exact Nat.le_succ _
    · split
      · exact Nat.le_succ_of_le ((List.dropWhile_suffix _).length_le)
      · exact Nat.le_refl _

theorem length_readPrecision_le (t : Text) : (readPrecision t).2.length ≤ t.length := by
  unfold readPrecision
  split
  · exact Nat.le_refl _
  · split
    · exact Nat.le_succ_of_le (length_readAmount_le _)
    · exact Nat.le_refl _

theorem length_dropLengthMark_le (t : Text) : (dropLengthMark t).length ≤ t.length := by
  unfold dropLengthMark
  split
  · exact Nat.le_refl _
  · split
    · exact Nat.le_succ _
    · exact Nat.le_refl _

theorem length_readSpecifier_le (t : Text) : (readSpecifier t).2.length ≤ t.length :=
  calc (readSpecifier t).2.length
      ≤ (dropLengthMark _).length := by rw [readSpecifier, List.length_tail]; exact Nat.sub_le ..
    _ ≤ (readPrecision _).2.length := length_dropLengthMark_le _
    _ ≤ (readAmount _).2.length := length_readPrecision_le _
    _ ≤ (t.dropWhile CodePoint.isFlag).length := length_readAmount_le _
    _ ≤ t.length := (List.dropWhile_suffix _).length_le

/-- What the percent operator makes of a template and a tuple of values. -/
def percentFormat (d : Display V E) : Text → List V → Except (FormatFault E) Text
  | [], [] => .ok []
  | [], _ :: _ => .error .leftOver
  | c :: rest, values =>
    if c = '%' then
      match rest with
      | [] => .error .incomplete
      | s :: rest =>
        if s = '%' then (percentFormat d rest values).map (s :: ·)
        else do
          let (shown, left) ← d.fill (readSpecifier (s :: rest)).1 values
          return shown ++ (← percentFormat d (readSpecifier (s :: rest)).2 left)
    else (percentFormat d rest values).map (c :: ·)
termination_by t => t.length
decreasing_by
  all_goals simp only [List.length_cons]
  · omega
  · have := length_readSpecifier_le (s :: rest)
    simp only [List.length_cons] at this
    omega
  · omega

theorem percentFormat_char (d : Display V E) {c : CodePoint} (hc : c ≠ '%') (t : Text)
    (values : List V) :
    percentFormat d (c :: t) values = (percentFormat d t values).map (c :: ·) := by
  rw [percentFormat.eq_def]
  exact if_neg hc

theorem percentFormat_sign (d : Display V E) (s : CodePoint) (t : Text) (values : List V) :
    percentFormat d (CodePoint.scalar '%' :: s :: t) values =
      if s = '%' then (percentFormat d t values).map (s :: ·)
      else do
        let (shown, left) ← d.fill (readSpecifier (s :: t)).1 values
        return shown ++ (← percentFormat d (readSpecifier (s :: t)).2 left) := by
  rw [percentFormat.eq_def]
  exact if_pos rfl

/-! ## Plain templates -/

/-- A template of characters, doubled percent signs and `n` bare specifiers of text. -/
inductive PlainTemplate : Nat → Text → Prop
  | nil : PlainTemplate 0 []
  | char {n : Nat} {t : Text} {c : CodePoint} (h : c ≠ '%') (rest : PlainTemplate n t) :
    PlainTemplate n (c :: t)
  | percent {n : Nat} {t : Text} (rest : PlainTemplate n t) :
    PlainTemplate n (CodePoint.scalar '%' :: CodePoint.scalar '%' :: t)
  | specifier {n : Nat} {t : Text} {c : CodePoint} (h : c = 's' ∨ c = 'r' ∨ c = 'a')
    (rest : PlainTemplate n t) : PlainTemplate (n + 1) (CodePoint.scalar '%' :: c :: t)

theorem percentTemplate_char {c : CodePoint} (hc : c ≠ '%') (t : Text) :
    percentTemplate (c :: t) =
      match percentTemplate t with
      | .text u :: pieces => .text (c :: u) :: pieces
      | pieces => .text [c] :: pieces := by
  rw [percentTemplate.eq_def]
  exact if_neg hc

theorem percentTemplate_sign (c : CodePoint) (t : Text) :
    percentTemplate (CodePoint.scalar '%' :: c :: t) = .specifier c :: percentTemplate t := by
  rw [percentTemplate.eq_def]
  exact if_pos rfl

/-- Putting a character in front of a template without its percent sign puts it in front of the text. -/
theorem percentParts_char {c : CodePoint} (hc : c ≠ '%') {t : Text} {args : List Expr}
    {parts : List Piece} (h : percentParts (percentTemplate t) args = some parts) :
    ∃ parts', percentParts (percentTemplate (c :: t)) args = some parts' ∧
      ∀ {V E : Type} (d : Display V E) values,
        evaluateParts d parts' values = (evaluateParts d parts values).map (c :: ·) := by
  rw [percentTemplate_char hc]
  split
  · rename_i u pieces heq
    rw [heq, percentParts, Option.ite_none_left_eq_some] at h
    obtain ⟨hu, h⟩ := h
    obtain ⟨others, hothers, rfl⟩ := Option.map_eq_some_iff.1 h
    refine ⟨.text (c :: u) :: others, ?_, fun d values => ?_⟩
    · rw [percentParts, if_neg (by simpa [Ne.symm hc] using hu), hothers]
      rfl
    · rw [evaluateParts, evaluateParts]
      cases evaluateParts d others values <;> rfl
  · refine ⟨.text [c] :: parts, ?_, fun d values => rfl⟩
    rw [percentParts, if_neg (by simpa using Ne.symm hc), h]
    rfl

theorem percentParts_of_char {c : CodePoint} (hc : c ≠ '%') {t : Text} {args : List Expr}
    {parts : List Piece} (h : percentParts (percentTemplate (c :: t)) args = some parts) :
    ∃ parts, percentParts (percentTemplate t) args = some parts := by
  rw [percentTemplate_char hc] at h
  split at h
  · rename_i u pieces heq
    rw [percentParts, Option.ite_none_left_eq_some] at h
    obtain ⟨hu, h⟩ := h
    obtain ⟨others, hothers, rfl⟩ := Option.map_eq_some_iff.1 h
    rw [heq, percentParts, if_neg (by simpa [Ne.symm hc] using hu), hothers]
    exact ⟨_, rfl⟩
  · rw [percentParts, if_neg (by simpa using Ne.symm hc)] at h
    obtain ⟨others, hothers, -⟩ := Option.map_eq_some_iff.1 h
    exact ⟨others, hothers⟩

theorem percentConversion_iff {c : CodePoint} :
    (∃ conversion, percentConversion c = some conversion) ↔ c = 's' ∨ c = 'r' ∨ c = 'a' := by
  unfold percentConversion
  split
  · simp_all
  · split
    · simp_all
    · split <;> simp_all

theorem percentConversion_ne {c : CodePoint} {conversion : Option Text}
    (h : percentConversion c = some conversion) : c ≠ '%' := by
  rcases percentConversion_iff.1 ⟨conversion, h⟩ with rfl | rfl | rfl <;> decide

/-- A template whose parts can be given is plain. -/
theorem plain_of_percentParts : ∀ {t : Text} {args : List Expr} {parts : List Piece},
    percentParts (percentTemplate t) args = some parts → PlainTemplate args.length t
  | [], [], _, _ => .nil
  | [], _ :: _, _, h => by cases h
  | c :: t, args, parts, h => by
    by_cases hc : c = '%'
    · subst hc
      cases t with
      | nil => simp [percentTemplate, percentParts] at h
      | cons s t =>
        rw [percentTemplate_sign, percentParts.eq_def] at h
        dsimp only at h
        split at h
        · rename_i hs
          subst hs
          obtain ⟨others, hothers, -⟩ := Option.map_eq_some_iff.1 h
          exact .percent (plain_of_percentParts hothers)
        · split at h
          · rename_i conversion a args hconversion
            obtain ⟨others, hothers, -⟩ := Option.map_eq_some_iff.1 h
            exact .specifier (percentConversion_iff.1 ⟨conversion, hconversion⟩)
              (plain_of_percentParts hothers)
          · cases h
    · obtain ⟨others, hothers⟩ := percentParts_of_char hc h
      exact .char hc (plain_of_percentParts hothers)

theorem readSpecifier_bare {c : CodePoint} (hc : c = 's' ∨ c = 'r' ∨ c = 'a') (t : Text) :
    readSpecifier (c :: t) = (⟨false, [], none, none, some c⟩, t) := by
  rcases hc with rfl | rfl | rfl <;> rfl

theorem fitText_self (t : Text) : fitText [] none none t = t := by
  simp [fitText, Text.times]

/-- A bare specifier of text is filled with what a field shows. -/
theorem Display.fill_bare (d : Display V E) {c : CodePoint} {conversion : Option Text}
    (hc : percentConversion c = some conversion) (t : Text) (v : V) (values : List V) :
    d.fill (readSpecifier (c :: t)).1 (v :: values) =
      (FormatFault.ofShown (d.field conversion none v)).map (·, values) := by
  have hletter := percentConversion_iff.1 ⟨conversion, hc⟩
  have hshown : d.converted ⟨[], none, none, c⟩ v = d.field conversion none v := by
    have hid : ∀ r : Except E Text, r.map (fitText [] none none) = r := by
      intro r
      cases r with
      | error e => rfl
      | ok t => exact congrArg Except.ok (fitText_self t)
    rcases hletter with rfl | rfl | rfl <;> cases hc <;> exact hid _
  have hknown : (!Conversion.letters.contains c) = false := by
    rcases hletter with rfl | rfl | rfl <;> rfl
  rw [readSpecifier_bare hletter, fill, if_neg Bool.false_ne_true]
  change (if (!Conversion.letters.contains c) = true then _ else
    FormatFault.ofShown (d.converted ⟨[], none, none, c⟩ v) >>= fun shown =>
      pure (shown, values)) = _
  rw [hknown, if_neg Bool.false_ne_true]
  rw [hshown]
  rfl

/-- A plain template with its arguments put in evaluates to what the percent operator gives. -/
theorem PlainTemplate.value {n : Nat} {t : Text} (h : PlainTemplate n t) :
    ∀ {args : List Expr}, args.length = n → ∃ parts,
      percentParts (percentTemplate t) args = some parts ∧
      ∀ {V E : Type} (d : Display V E) (values : List V), values.length = n →
        evaluateParts d parts values = percentFormat d t values := by
  induction h with
  | nil =>
    intro args hargs
    cases List.length_eq_zero_iff.1 hargs
    refine ⟨[], rfl, fun d values hvalues => ?_⟩
    cases List.length_eq_zero_iff.1 hvalues
    rw [percentFormat]
    rfl
  | char hc _ ih =>
    intro args hargs
    obtain ⟨parts, hparts, hvalue⟩ := ih hargs
    obtain ⟨parts', hparts', hvalue'⟩ := percentParts_char hc hparts
    refine ⟨parts', hparts', fun d values hvalues => ?_⟩
    rw [hvalue', hvalue d values hvalues, percentFormat_char d hc]
  | percent _ ih =>
    intro args hargs
    obtain ⟨parts, hparts, hvalue⟩ := ih hargs
    refine ⟨.text [CodePoint.scalar '%'] :: parts, ?_, fun d values hvalues => ?_⟩
    · rw [percentTemplate_sign, percentParts.eq_def]
      simp only [hparts, if_true, Option.map_some]
    · rw [percentFormat_sign, if_pos rfl, ← hvalue d values hvalues]
      rfl
  | specifier hc _ ih =>
    intro args hargs
    obtain ⟨a, args, rfl⟩ := List.exists_cons_of_length_eq_add_one hargs
    obtain ⟨parts, hparts, hvalue⟩ := ih (Nat.succ.inj hargs)
    obtain ⟨conversion, hconversion⟩ := percentConversion_iff.2 hc
    have hsign := percentConversion_ne hconversion
    refine ⟨.field a conversion none :: parts, ?_, fun d values hvalues => ?_⟩
    · rw [percentTemplate_sign, percentParts.eq_def]
      simp only [if_neg hsign, hconversion, hparts, Option.map_some]
    · obtain ⟨v, values, rfl⟩ := List.exists_cons_of_length_eq_add_one hvalues
      rw [percentFormat_sign, if_neg hsign, d.fill_bare hconversion, readSpecifier_bare hc,
        evaluateParts, hvalue d values (Nat.succ.inj hvalues)]
      cases FormatFault.ofShown (d.field conversion none v) <;> rfl

/-! ## Merged texts -/

/-- Whether a part is literal text. -/
def Piece.isText : Piece → Bool
  | .text _ => true
  | .field .. => false

theorem fillParts_mergeText {F : Type} (missing : F)
    (field : Option Text → Option Text → V → Except F Text) (parts : List Piece) (values : List V) :
    fillParts missing field (mergeText parts) values = fillParts missing field parts values := by
  induction parts generalizing values with
  | nil => rfl
  | cons part rest ih =>
    cases part with
    | field e conversion spec =>
      cases values with
      | nil => rfl
      | cons v values => simp only [mergeText, fillParts, ih]
    | text t =>
      rw [mergeText]
      split
      · rename_i hempty
        rw [List.isEmpty_iff.1 hempty, ih, fillParts]
        cases fillParts missing field rest values <;> rfl
      · split
        · rename_i u others heq
          rw [fillParts, fillParts, ← ih, heq, fillParts]
          cases fillParts missing field others values with
          | error e => rfl
          | ok s => exact congrArg Except.ok (List.append_assoc t u s)
        · rw [fillParts, fillParts, ih]

theorem evaluateParts_mergeText (d : Display V E) (parts : List Piece) (values : List V) :
    evaluateParts d (mergeText parts) values = evaluateParts d parts values := by
  rw [evaluateParts_eq_fillParts, fillParts_mergeText, ← evaluateParts_eq_fillParts]

/-- Merged parts hold no empty text, and no text stands next to another. -/
theorem mergeText_merged (parts : List Piece) :
    Piece.text [] ∉ mergeText parts ∧
      (mergeText parts).IsChain fun p q => p.isText = false ∨ q.isText = false := by
  induction parts with
  | nil => exact ⟨List.not_mem_nil, .nil⟩
  | cons part rest ih =>
    obtain ⟨hempty, hchain⟩ := ih
    cases part with
    | field e conversion spec =>
      simp only [mergeText, List.mem_cons, not_or, List.isChain_cons]
      exact ⟨⟨Piece.noConfusion, hempty⟩, fun _ _ => .inl rfl, hchain⟩
    | text t =>
      rw [mergeText]
      split
      · exact ⟨hempty, hchain⟩
      · rename_i ht
        have hne : ∀ u, Piece.text [] ≠ .text (t ++ u) := by
          simp_all
        split
        · rename_i u others heq
          rw [heq, List.mem_cons, not_or] at hempty
          rw [heq, List.isChain_cons] at hchain
          rw [List.mem_cons, not_or, List.isChain_cons]
          exact ⟨⟨hne u, hempty.2⟩, hchain.1, hchain.2⟩
        · rename_i hfirst
          rw [List.mem_cons, not_or, List.isChain_cons]
          refine ⟨⟨List.append_nil t ▸ hne [], hempty⟩, fun q hq => .inr ?_, hchain⟩
          cases q with
          | text u => exact (hfirst u _ (List.head?_eq_some_iff.1 hq).choose_spec).elim
          | field e conversion spec => rfl

/-! ## Templates -/

/-- The percent operator on a template and simple arguments can be written as a formatted string just
if the template is plain and has a specifier for each argument. The fields of the formatted string are
then the arguments in order; it evaluates to what the percent operator gives, or fails with the value
that refuses to be shown, whatever the values are; and its parts hold no empty text and no two texts in
a row. -/
theorem percentToPieces_value (template : Text) (args : List Expr) :
    ((∃ parts, percentToPieces template args = some parts) ↔
      PlainTemplate args.length template) ∧
    ∀ parts, percentToPieces template args = some parts →
      fieldValues parts = args ∧
      (∀ {V E : Type} (d : Display V E) (values : List V), values.length = args.length →
        evaluateParts d parts values = percentFormat d template values) ∧
      Piece.text [] ∉ parts ∧ parts.IsChain fun p q => p.isText = false ∨ q.isText = false := by
  unfold percentToPieces
  refine ⟨⟨?_, fun h => ?_⟩, ?_⟩
  · rintro ⟨parts, h⟩
    obtain ⟨raw, hraw, -⟩ := Option.map_eq_some_iff.1 h
    exact plain_of_percentParts hraw
  · obtain ⟨raw, hraw, -⟩ := h.value rfl
    exact ⟨mergeText raw, by rw [hraw, Option.map_some]⟩
  · intro parts h
    obtain ⟨raw, hraw, rfl⟩ := Option.map_eq_some_iff.1 h
    obtain ⟨raw', hraw', hvalue⟩ := (plain_of_percentParts hraw).value rfl
    cases hraw.symm.trans hraw'
    refine ⟨?_, fun d values hvalues => ?_, mergeText_merged raw⟩
    · rw [fieldValues_mergeText, fieldValues_percentParts hraw]
    · rw [evaluateParts_mergeText, hvalue d values hvalues]

/-- Values that are texts without quotes or anything else to be escaped. -/
def Display.ofText : Display Text Empty where
  str t := .ok t
  repr t := .ok ("'" ++ t ++ "'")
  ascii t := .ok ("'" ++ t ++ "'")
  format _ _ t := .ok t
  convert _ t := .ok t
  amount _ := none

theorem percentToPieces_value_sample :
    ∃ parts, percentToPieces "%s: %%%r" [.name "a", .name "b"] = some parts ∧
      fieldValues parts = [.name "a", .name "b"] ∧
      percentFormat Display.ofText "%s: %%%r" [Text.ofString "x", "y"] =
        .ok (Text.ofString "x: %'y'") := by
  have hparts : percentToPieces "%s: %%%r" [.name "a", .name "b"] =
      some [.field (.name "a") none none, .text ": %", .field (.name "b") (some "r") none] := by cbv
  obtain ⟨hfields, hvalue, -⟩ := (percentToPieces_value _ _).2 _ hparts
  have hshown : evaluateParts Display.ofText
      [.field (.name "a") none none, .text ": %", .field (.name "b") (some "r") none]
      [Text.ofString "x", "y"] = .ok (Text.ofString "x: %'y'") := rfl
  exact ⟨_, hparts, hfields, (hvalue Display.ofText [Text.ofString "x", "y"] rfl).symm.trans hshown⟩

end Refactory
