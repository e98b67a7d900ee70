import Mathlib.Data.List.Nodup
import Mathlib.Data.List.TakeWhile
import Refactory.Proofs.Grammar.Word
import Refactory.Proofs.Modernize.Formatting
import Refactory.Proofs.Rewrite.Perform

/-! # Brace templates keep their value

A brace template becomes a formatted string just if it is plain: its fields are numbered in one way,
are about every argument and about nothing else, and have a literal format (`PlainBraces`). What the
formatted string evaluates to is then what the template is formatted to, whatever the arguments are and
however they are shown (`PlainBraces.value`). Main statement: `formatToPieces_value`. -/

namespace Refactory

variable {V E : Type}

/-! ## Numbers of fields -/

/-- Where the numbering stands at `n`, a field with this name has the number `i` and the numbering stands
at `n'` behind it. The name is empty, or a run of decimal digits that is not too long. -/
inductive FieldNumbers.Gives : (n : FieldNumbers) → Text → (i : Nat) → (n' : FieldNumbers) → Prop
  | first : Gives .undecided [] 0 (.inOrder 1)
  | next {k : Nat} : Gives (.inOrder k) [] k (.inOrder (k + 1))
  | written {n : FieldNumbers} {name : Text} {i : Nat} (hn : ∀ k, n ≠ .inOrder k)
    (hname : name ≠ []) (hi : name.decimal? = some i)
    (hshort : name.length ≤ Grammar.Numeral.mostDigits) : Gives n name i .written

theorem CodePoint.isDigit_of_decimal {c : CodePoint} (h : c.decimal?.isSome = true) :
    c.isDigit = true := by
  have hsorted : Text.Table.digit.IsChain (· ≤ ·) := by decide +kernel
  have hzeros : ∀ start ∈ Text.Table.zeros,
      constantOn start (start + 10) true Text.Table.digit = true := by decide +kernel
  rw [decimal?, Option.isSome_map, List.find?_isSome] at h
  obtain ⟨start, hstart, hin⟩ := h
  rw [Bool.and_eq_true, decide_eq_true_iff, decide_eq_true_iff] at hin
  exact inClass_of_constantOn hsorted (hzeros start hstart) hin.1 hin.2

theorem Text.decimal_of_mem {t : Text} {n : Nat} (h : t.decimal? = some n) :
    ∀ c ∈ t, c.decimal?.isSome = true := by
  obtain ⟨digits, hdigits, -⟩ := Option.map_eq_some_iff.1 h
  clear h
  induction t generalizing digits with
  | nil => exact fun c hc => absurd hc List.not_mem_nil
  | cons c t ih =>
    rw [List.mapM_cons] at hdigits
    obtain ⟨digit, hdigit, hdigits⟩ := Option.bind_eq_some_iff.1 hdigits
    obtain ⟨others, hothers, -⟩ := Option.bind_eq_some_iff.1 hdigits
    exact List.forall_mem_cons.2 ⟨Option.isSome_of_eq_some hdigit, ih others hothers⟩

theorem readDigits_ok {name : Text} {i : Nat} :
    readDigits name = .ok i ↔
      name.decimal? = some i ∧ name.length ≤ Grammar.Numeral.mostDigits := by
  have hall : name.decimal? = some i →
      name.takeWhile (·.decimal?.isSome) = name := by
    intro h
    exact List.takeWhile_eq_self_iff.2 (Text.decimal_of_mem h)
  unfold readDigits
  constructor
  · intro h
    dsimp only at h
    split at h
    · cases h
    · rename_i hshort
      split at h
      · rename_i hi
        cases h
        rw [hall hi] at hshort
        exact ⟨hi, Nat.not_lt.1 hshort⟩
      · cases h
  · rintro ⟨hi, hshort⟩
    dsimp only
    rw [hall hi, if_neg (Nat.not_lt.2 hshort), hi]

namespace FieldNumbers

variable {n n' : FieldNumbers} {name : Text} {i count : Nat} {N N' : Numbering}

theorem Gives.number (h : n.Gives name i n') :
    n.number name = (.ok (i, n') : Except (BraceFault E) _) := by
  unfold FieldNumbers.number
  cases h with
  | first => rfl
  | next => rfl
  | written hn hname hi =>
    rw [if_neg (by simpa using hname), hi]
    cases n with
    | inOrder k => exact absurd rfl (hn k)
    | undecided => rfl
    | written => rfl

/-- The whole name is the number. -/
theorem Gives.not_leadsOn (h : n.Gives name i n') : ∀ c ∈ name, (!c.leadsOn) = true := by
  cases h with
  | first => exact fun c hc => absurd hc List.not_mem_nil
  | next => exact fun c hc => absurd hc List.not_mem_nil
  | written _ _ hi =>
    intro c hc
    have hdecimal := Text.decimal_of_mem hi c hc
    rw [Bool.not_eq_true', ← Bool.not_eq_true, CodePoint.leadsOn, Bool.or_eq_true,
      decide_eq_true_iff, decide_eq_true_iff]
    rintro (rfl | rfl) <;> cases hdecimal

/-- How the numbering is kept when a template is turned into parts. -/
inductive Matches : FieldNumbers → Numbering → Prop
  | undecided {referenced : List Nat} : Matches .undecided ⟨0, false, false, referenced⟩
  | inOrder {next : Nat} {referenced : List Nat} :
    Matches (.inOrder next) ⟨next, true, false, referenced⟩
  | written {referenced : List Nat} : Matches .written ⟨0, false, true, referenced⟩

theorem Matches.gives (hN : n.Matches N) (h : N.resolve name count = .ok (some (i, N'))) :
    i < count ∧ ∃ n', n.Gives name i n' ∧ n'.Matches N' := by
  by_cases hname : name = []
  · subst hname
    obtain ⟨rfl, hi, hmanual, rfl⟩ := Numbering.resolve_nil.1 h
    cases hN with
    | undecided => exact ⟨hi, _, .first, .inOrder⟩
    | inOrder => exact ⟨hi, _, .next, .inOrder⟩
    | written => cases hmanual
  · obtain ⟨-, hread, hi, hauto, rfl⟩ := (Numbering.resolve_written hname).1 h
    obtain ⟨hdecimal, hshort⟩ := readDigits_ok.1 hread
    cases hN with
    | undecided => exact ⟨hi, _, .written nofun hname hdecimal hshort, .written⟩
    | inOrder => cases hauto
    | written => exact ⟨hi, _, .written nofun hname hdecimal hshort, .written⟩

theorem Gives.resolve (h : n.Gives name i n') (hN : n.Matches N) (hi : i < count) :
    ∃ N', N.resolve name count = .ok (some (i, N')) ∧ n'.Matches N' := by
  cases h with
  | first =>
    cases hN
    exact ⟨_, Numbering.resolve_nil.2 ⟨rfl, hi, rfl, rfl⟩, .inOrder⟩
  | next =>
    cases hN
    exact ⟨_, Numbering.resolve_nil.2 ⟨rfl, hi, rfl, rfl⟩, .inOrder⟩
  | written hn hname hdecimal hshort =>
    have hdigits : name.isDigits = true := by
      rw [Text.isDigits, Bool.and_eq_true, List.all_eq_true]
      refine ⟨by simpa using hname, fun c hc => ?_⟩
      exact CodePoint.isDigit_of_decimal (Text.decimal_of_mem hdecimal c hc)
    have hread : readDigits name = .ok i := readDigits_ok.2 ⟨hdecimal, hshort⟩
    have hresolve := fun hauto : N.auto = false =>
      (Numbering.resolve_written hname).2 ⟨hdigits, hread, hi, hauto, rfl⟩
    cases hN with
    | undecided => exact ⟨_, hresolve rfl, .written⟩
    | inOrder => exact absurd rfl (hn _)
    | written => exact ⟨_, hresolve rfl, .written⟩

end FieldNumbers

/-! ## Plain templates -/

/-- A template whose fields are plain and are about the arguments `refs` out of `count`, in this order,
where the numbering stands at `n`. -/
inductive PlainBraces {count : Nat} : FieldNumbers → Text → List (Fin count) → Prop
  | nil {n : FieldNumbers} : PlainBraces n [] []
  | text {n : FieldNumbers} {c : CodePoint} {t rest literal : Text} {refs : List (Fin count)}
    (h : bracePiece (c :: t) = some (⟨literal, none⟩, rest)) (hrest : PlainBraces n rest refs) :
    PlainBraces n (c :: t) refs
  | field {n n' : FieldNumbers} {c : CodePoint} {t rest literal : Text} {field : BraceField}
    {i : Fin count} {refs : List (Fin count)}
    (h : bracePiece (c :: t) = some (⟨literal, some field⟩, rest)) (hfield : field.IsPlain)
    (hi : n.Gives field.name i n') (hrest : PlainBraces n' rest refs) :
    PlainBraces n (c :: t) (i :: refs)

/-- Whether an argument has been referred to, before or after the next field. -/
theorem referenced_or_cons {count : Nat} {referenced : List Nat} {refs : List (Fin count)}
    {i j : Fin count} :
    j.val ∈ i.val :: referenced ∨ j ∈ refs ↔ j.val ∈ referenced ∨ j ∈ i :: refs := by
  rw [List.mem_cons, List.mem_cons, Fin.val_inj, or_assoc, or_left_comm]

/-- A template whose parts can be given is plain, and every argument that has not been referred to
before is in it. -/
theorem plain_of_formatParts {args : List Expr} {fuel : Nat} {t : Text} {pieces : List BracePiece}
    {n : FieldNumbers} {N : Numbering} {parts : List Piece}
    (hpieces : bracePieces fuel t = some pieces) (hN : n.Matches N)
    (h : formatParts args N pieces = .ok (some parts)) :
    ∃ refs : List (Fin args.length), PlainBraces n t refs ∧
      ∀ i : Fin args.length, i.val ∈ N.referenced ∨ i ∈ refs := by
  induction fuel generalizing t pieces n N parts with
  | zero => cases hpieces
  | succ fuel ih =>
    cases t with
    | nil =>
      cases hpieces
      exact ⟨[], .nil, fun i => .inl ((formatParts_nil.1 h).1 i)⟩
    | cons c t =>
      obtain ⟨⟨literal, field⟩, rest, others, hpiece, hothers, rfl⟩ :=
        bracePieces_cons_some.1 hpieces
      cases field with
      | none =>
        obtain ⟨parts, hparts, -⟩ := formatParts_text.1 h
        obtain ⟨refs, hplain, hall⟩ := ih hothers hN hparts
        exact ⟨refs, .text hpiece hplain, hall⟩
      | some field =>
        obtain ⟨hfield, i, N', parts, hresolve, hparts, -⟩ := formatParts_field.1 h
        obtain ⟨-, n', hi, hN'⟩ := hN.gives hresolve
        obtain ⟨refs, hplain, hall⟩ := ih hothers hN' hparts
        refine ⟨i :: refs, .field hpiece hfield hi hplain, fun j => ?_⟩
        rw [Numbering.resolve_referenced hresolve] at hall
        exact referenced_or_cons.1 (hall j)

/-- A field name that gives the number of an argument is about that argument. -/
theorem FieldNumbers.Gives.argument {n n' : FieldNumbers} {name : Text} {i : Nat}
    (h : n.Gives name i n') (f : Formatting V E) {values : List V} {v : V}
    (hv : values[i]? = some v) : f.argument values n name = .ok (v, n') := by
  rw [Formatting.argument, List.takeWhile_eq_self_iff.2 h.not_leadsOn,
    List.dropWhile_eq_nil_iff.2 h.not_leadsOn, h.number]
  simp only [bind, Except.bind, hv]
  rfl

theorem BraceField.IsPlain.convert {field : BraceField} (h : field.IsPlain) (f : Formatting V E)
    (v : V) :
    f.convert field.conversion v = f.convertAs (field.conversion.map ([·])) v := by
  cases hc : field.conversion with
  | none => rfl
  | some c => rcases h.conversion c hc with rfl | rfl | rfl <;> rfl

/-- A plain field is filled with what the part that it becomes shows. -/
theorem BraceField.IsPlain.fill {field : BraceField} (h : field.IsPlain) (f : Formatting V E)
    {values : List V} {expand : Expander E} {n n' : FieldNumbers} {i : Nat}
    (hi : n.Gives field.name i n') {v : V} (hv : values[i]? = some v) :
    f.fill values expand n field =
      (f.field (field.conversion.map ([·])) (if field.spec.isEmpty then none else some field.spec)
        v).map (·, n') := by
  have hspec : (if field.spec.isEmpty then none else some field.spec).getD [] = field.spec := by
    cases field.spec <;> rfl
  have hopening : ¬ field.spec.contains (CodePoint.scalar '{') = true := by
    simpa using h.opening
  rw [Formatting.fill, hi.argument f hv, Formatting.field, hspec, ← h.convert]
  dsimp only [bind, Except.bind]
  cases f.convert field.conversion v with
  | error fault => rfl
  | ok v' =>
    dsimp only
    rw [expandSpec, if_neg hopening]
    dsimp only
    cases BraceFault.ofValue (f.format field.spec v') <;> rfl

/-- A plain template with its arguments put in evaluates to what it is formatted to. -/
theorem PlainBraces.value {args : List Expr} {n : FieldNumbers} {t : Text}
    {refs : List (Fin args.length)} (h : PlainBraces n t refs) :
    ∀ {N : Numbering} {fuel : Nat}, n.Matches N → t.length < fuel →
      (∀ i : Fin args.length, i.val ∈ N.referenced ∨ i ∈ refs) → ∃ pieces parts,
        bracePieces fuel t = some pieces ∧ formatParts args N pieces = .ok (some parts) ∧
        fieldValues parts = refs.map args.get ∧
        ∀ {V E : Type} (f : Formatting V E) (values : Fin args.length → V) (expand : Expander E),
          f.evaluate parts (refs.map values) =
            (f.fillAll (List.ofFn values) expand n t).map Prod.fst := by
  induction h with
  | nil =>
    intro N fuel hN hfuel hall
    obtain ⟨fuel, rfl⟩ := Nat.exists_eq_add_one_of_ne_zero (Nat.ne_zero_of_lt hfuel)
    refine ⟨[], [], rfl, formatParts_nil.2 ⟨?_, rfl⟩, rfl, fun f values expand => ?_⟩
    · intro i
      exact (hall i).resolve_right List.not_mem_nil
    · rw [Formatting.fillAll]
      rfl
  | @text n c t rest literal refs hpiece hrest ih =>
    intro N fuel hN hfuel hall
    obtain ⟨fuel, rfl⟩ := Nat.exists_eq_add_one_of_ne_zero (Nat.ne_zero_of_lt hfuel)
    have hlength := (suffix_of_bracePiece hpiece).length_le
    obtain ⟨pieces, parts, hpieces, hparts, hfields, hvalue⟩ :=
      ih hN (Nat.lt_of_le_of_lt hlength (Nat.lt_of_succ_lt_succ hfuel)) hall
    refine ⟨_, _, bracePieces_cons_some.2 ⟨_, rest, pieces, hpiece, hpieces, rfl⟩,
      formatParts_text.2 ⟨parts, hparts, rfl⟩, ?_, fun f values expand => ?_⟩
    · rw [fieldValues_text, hfields]
    · rw [f.fillAll_text hpiece, ← hvalue]
      rfl
  | @field n n' c t rest literal field i refs hpiece hfield hi hrest ih =>
    intro N fuel hN hfuel hall
    obtain ⟨fuel, rfl⟩ := Nat.exists_eq_add_one_of_ne_zero (Nat.ne_zero_of_lt hfuel)
    have hlength := (suffix_of_bracePiece hpiece).length_le
    obtain ⟨N', hresolve, hN'⟩ := hi.resolve hN i.isLt
    have hall' : ∀ j : Fin args.length, j.val ∈ N'.referenced ∨ j ∈ refs := by
      intro j
      rw [Numbering.resolve_referenced hresolve]
      exact referenced_or_cons.2 (hall j)
    obtain ⟨pieces, parts, hpieces, hparts, hfields, hvalue⟩ :=
      ih hN' (Nat.lt_of_le_of_lt hlength (Nat.lt_of_succ_lt_succ hfuel)) hall'
    refine ⟨_, _, bracePieces_cons_some.2 ⟨_, rest, pieces, hpiece, hpieces, rfl⟩,
      formatParts_field.2 ⟨hfield, i, N', parts, hresolve, hparts, rfl⟩, ?_,
      fun f values expand => ?_⟩
    · rw [fieldValues_text, BraceField.part, fieldValues_field, hfields, List.map_cons]
    · have hv : (List.ofFn values)[i.val]? = some (values i) := by
        simp
      rw [f.fillAll_field hpiece (hfield.fill f hi hv), ← hvalue]
      rfl

/-! ## Templates -/

/-- Formatting a template with simple arguments can be written as a formatted string just if the
template is plain and is about each of its arguments. The fields of the formatted string are then the
arguments that those of the template are about, each of them at least once, so that no name is lost; it
evaluates to what the template is formatted to, or fails with the value that refuses to be shown,
whatever the values are; and its parts hold no empty text and no two texts in a row. -/
theorem formatToPieces_value (template : Text) (args : List Expr) :
    ((∃ parts, formatToPieces template args = .ok (some parts)) ↔
      ∃ refs : List (Fin args.length), PlainBraces .undecided template refs ∧ ∀ i, i ∈ refs) ∧
    ∀ parts, formatToPieces template args = .ok (some parts) →
      ∃ refs : List (Fin args.length), (∀ i, i ∈ refs) ∧ fieldValues parts = refs.map args.get ∧
        (∀ {V E : Type} (f : Formatting V E) (values : Fin args.length → V),
          f.evaluate parts (refs.map values) = braceFormat f template (List.ofFn values)) ∧
        (∀ x, (∃ n : Expr, n.Within (.call (.attribute (.string template) "format") args []) ∧
            x ∈ n.mentions) → ∃ n : Expr, n.Within (.formatted parts) ∧ x ∈ n.mentions) ∧
        Piece.text [] ∉ parts ∧ parts.IsChain fun p q => p.isText = false ∨ q.isText = false := by
  have hplain : ∀ {parts}, formatToPieces template args = .ok (some parts) →
      ∃ refs : List (Fin args.length), PlainBraces .undecided template refs ∧ ∀ i, i ∈ refs := by
    intro parts h
    obtain ⟨pieces, raw, hpieces, hraw, -⟩ := formatToPieces_some.1 h
    obtain ⟨refs, hrefs, hall⟩ := plain_of_formatParts hpieces .undecided hraw
    exact ⟨refs, hrefs, fun i => (hall i).resolve_left List.not_mem_nil⟩
  have hvalue : ∀ {refs : List (Fin args.length)}, PlainBraces .undecided template refs →
      (∀ i, i ∈ refs) → ∃ raw, formatToPieces template args = .ok (some (mergeText raw)) ∧
        fieldValues raw = refs.map args.get ∧
        ∀ {V E : Type} (f : Formatting V E) (values : Fin args.length → V),
          f.evaluate raw (refs.map values) = braceFormat f template (List.ofFn values) := by
    intro refs hrefs hall
    obtain ⟨pieces, raw, hpieces, hraw, hfields, hvalue⟩ :=
      hrefs.value .undecided (Nat.lt_succ_self _) fun i => .inr (hall i)
    exact ⟨raw, formatToPieces_some.2 ⟨pieces, raw, hpieces, hraw, rfl⟩, hfields,
      fun f values => hvalue f values _⟩
  refine ⟨⟨fun ⟨_, h⟩ => hplain h, fun ⟨refs, hrefs, hall⟩ => ?_⟩, fun parts h => ?_⟩
  · obtain ⟨raw, hraw, -⟩ := hvalue hrefs hall
    exact ⟨mergeText raw, hraw⟩
  · obtain ⟨refs, hrefs, hall⟩ := hplain h
    obtain ⟨raw, hraw, hfields, hvalue⟩ := hvalue hrefs hall
    cases Option.some.inj (Except.ok.inj (h.symm.trans hraw))
    have hmerged : fieldValues (mergeText raw) = refs.map args.get := by
      rw [fieldValues_mergeText, hfields]
    refine ⟨refs, hall, hmerged, fun f values => ?_, fun x hx => ?_, mergeText_merged raw⟩
    · rw [Formatting.evaluate, fillParts_mergeText]
      exact hvalue f values
    · obtain ⟨a, ha, n, hn, hx⟩ := (Expr.Fills.method template "format").mentions hx
      obtain ⟨i, rfl⟩ := List.get_of_mem ha
      have hfield : args.get i ∈ fieldValues (mergeText raw) := by
        rw [hmerged]
        exact List.mem_map_of_mem (hall i)
      exact ⟨n, .inside hfield hn, hx⟩

theorem formatToPieces_value_sample :
    ∃ parts, formatToPieces "\x7b1!r:>5\x7d \x7b\x7b\x7b0\x7d" [.name "a", .name "b"] =
        .ok (some parts) ∧
      fieldValues parts = [.name "b", .name "a"] ∧
      braceFormat Formatting.ofText "\x7b1!r:>5\x7d \x7b\x7b\x7b0\x7d" [Text.ofString "x", "y"] =
        .ok (Text.ofString "  'y' \x7bx") := by
  let args : List Expr := [.name "a", .name "b"]
  have hparts : formatToPieces "\x7b1!r:>5\x7d \x7b\x7b\x7b0\x7d" args =
      .ok (some [.field (.name "b") (some "r") (some ">5"), .text " \x7b",
        .field (.name "a") none none]) := rfl
  obtain ⟨refs, -, hfields, hvalue, -⟩ := (formatToPieces_value _ args).2 _ hparts
  have hrefs : refs = [1, 0] := by
    have hargs : args.Nodup := by simp [args, Text.ofString]
    exact List.map_injective_iff.2 (List.nodup_iff_injective_get.1 hargs) hfields.symm
  have hshown : Formatting.ofText.evaluate
      [.field (.name "b") (some "r") (some ">5"), .text " \x7b", .field (.name "a") none none]
      [Text.ofString "y", "x"] = .ok (Text.ofString "  'y' \x7bx") := rfl
  subst hrefs
  have hformat := hvalue Formatting.ofText [Text.ofString "x", "y"].get
  exact ⟨_, hparts, hfields, hformat.symm.trans hshown⟩

end Refactory
