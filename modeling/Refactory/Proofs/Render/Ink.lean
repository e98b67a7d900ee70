import Refactory.Proofs.Grammar.Verbatim
import Refactory.Proofs.Grammar.Literal
import Refactory.Proofs.Rewrite.Perform
import Refactory.Proofs.Tree.Exprs
import Refactory.Render.Expr
import Refactory.Text.Compatible
import Refactory.Text.Identifier

/-! # Expressions as marks and gaps

The text of an expression is that of its marks, with a blank here and there (`Ink`). `Expr.inks` lists
them in the way in which `Expr.render` writes text, for the expressions whose written form can be read
back (`Expr.isReadable`); `Expr.toText_eq` says that the text is what the list spells. -/

namespace Refactory

open Grammar

/-! ## Readable expressions -/

/-- Whether a text can name something and is in its normal form. -/
def Text.isNormalName (t : Text) : Bool :=
  match t.chars? with
  | some word => t.isBindable && compatibleForm word == word
  | none => false

/-- Whether the text of a number is a numeral that is read as that number. -/
def Number.isNumeral (value : Number) : Bool :=
  match value.render.toOption.bind Text.chars? with
  | some word => word.head?.any Char.isDigit &&
      word.all (fun c => isNumeralChar c && c.toNat < 0x80) && Numeral.read word == some (value, [])
  | none => false

/-- Whether a captured source can be read back wherever an expression of its kind can stand. -/
def Text.isVerbatim (source kind : Text) : Bool :=
  match source.chars? with
  | some word => Verbatim kind word
  | none => false

/-- Whether an expression is an ellipsis, which a dot cannot follow. -/
def Expr.isEllipsis : Expr → Bool
  | .captured kind _ => kind == "ellipsis"
  | _ => false

mutual

/-- Whether an expression is one that can be read back as it is written in the given mode: names are in
normal form, an integer has no sign and is within the limit on digits, any other number is read as it is
written, lists that belong together pair up, what is captured is repeated and can be read where it stands,
and a star stands only in front of an element or an argument, which `star` tells. -/
def Expr.isReadable (mode : RenderMode) (star : Bool) : Expr → Bool
  | .name id => id.isNormalName
  | .string _ | .truth _ | .noneLiteral => true
  | .number (.int n) => 0 ≤ n && (Nat.toDigits 10 n.natAbs).length ≤ digitLimit
  | .number value => value.isNumeral
  | .call func args keywords =>
    func.isReadable mode false && Expr.areReadable mode true args && Keyword.areReadable mode keywords
  | .binary left _ right => left.isReadable mode false && right.isReadable mode false
  | .unary _ operand => operand.isReadable mode false
  | .logical _ values => 2 ≤ values.length && Expr.areReadable mode false values
  | .compare left ops comparators =>
    !ops.isEmpty && ops.length == comparators.length && left.isReadable mode false &&
      Expr.areReadable mode false comparators
  | .attribute value attr => attr.isNormalName && !value.isEllipsis && value.isReadable mode false
  | .subscript value index => value.isReadable mode false && index.isReadable mode false
  | .starred value => star && value.isReadable mode false
  | .tuple elements | .list elements => Expr.areReadable mode true elements
  | .dict keys values =>
    keys.length == values.length && Expr.areReadableKeys mode keys && Expr.areReadable mode false values
  | .captured kind (some source) => mode = .passthrough && source.isVerbatim kind
  | .formatted _ | .captured _ none | .foreign _ => false

/-- Whether all expressions can be read back. -/
def Expr.areReadable (mode : RenderMode) (star : Bool) : List Expr → Bool
  | [] => true
  | e :: es => e.isReadable mode star && Expr.areReadable mode star es

/-- Whether all keys of a dictionary can be read back. -/
def Expr.areReadableKeys (mode : RenderMode) : List (Option Expr) → Bool
  | [] => true
  | none :: ks => Expr.areReadableKeys mode ks
  | some k :: ks => k.isReadable mode false && Expr.areReadableKeys mode ks

/-- Whether all keyword arguments can be read back. -/
def Keyword.areReadable (mode : RenderMode) : List Keyword → Bool
  | [] => true
  | .mk none value :: ks => value.isReadable mode false && Keyword.areReadable mode ks
  | .mk (some arg) value :: ks => arg.isNormalName && value.isReadable mode false && Keyword.areReadable mode ks

end

variable {mode : RenderMode}

theorem Expr.areReadable_iff {star : Bool} {es : List Expr} :
    Expr.areReadable mode star es = true ↔ ∀ e ∈ es, e.isReadable mode star = true := by
  induction es with
  | nil => simp [Expr.areReadable]
  | cons e es ih => simp [Expr.areReadable, ih]

theorem Expr.areReadableKeys_iff {ks : List (Option Expr)} :
    Expr.areReadableKeys mode ks = true ↔ ∀ e, some e ∈ ks → e.isReadable mode false = true := by
  induction ks with
  | nil => simp [Expr.areReadableKeys]
  | cons k ks ih => cases k <;> simp [Expr.areReadableKeys, ih]

theorem Keyword.areReadable_iff {ks : List Keyword} :
    Keyword.areReadable mode ks = true ↔ ∀ k ∈ ks,
      k.value.isReadable mode false = true ∧ ∀ arg ∈ k.arg, arg.isNormalName = true := by
  induction ks with
  | nil => simp [Keyword.areReadable]
  | cons k ks ih =>
    obtain ⟨arg, value⟩ := k
    cases arg with
    | none => simp [Keyword.areReadable, Keyword.value, Keyword.arg, ih]
    | some arg => simp [Keyword.areReadable, Keyword.value, Keyword.arg, ih, and_comm]

/-- Whether an expression can be read back in every mode: nothing in it is captured. -/
def Expr.isPlain (star : Bool) (e : Expr) : Bool := e.isReadable .strict star

/-! ## Marks and gaps -/

/-- A mark, or a blank between two. -/
inductive Ink
  | gap
  | mark (m : Mark)

/-- A symbol as ink. -/
abbrev Ink.symbol (text : String) : Ink := .mark (.symbol text)

/-- How a mark is written. -/
def Grammar.Mark.spell : Mark → List Char
  | .name id => id.filterMap CodePoint.char?
  | .symbol text => text.toList
  | .number (.int n) => Nat.toDigits 10 n.natAbs
  | .number value => (value.render.toOption.getD []).filterMap CodePoint.char?
  | .other | .newline | .indent | .dedent => []
  | .string body => '"' :: body ++ ['"']
  | .captured _ text => text

/-- How a mark or a gap is written. -/
def Ink.spell : Ink → List Char
  | .gap => [' ']
  | .mark m => m.spell

/-- How many tokens are captured in a mark or gap. -/
def Ink.size : Ink → Nat
  | .gap => 0
  | .mark m => m.size

namespace Inks

/-- What is written. -/
def spell (inks : List Ink) : List Char := inks.flatMap Ink.spell

/-- The marks without the gaps. -/
def marks (inks : List Ink) : List Mark :=
  inks.filterMap fun
    | .gap => none
    | .mark m => some m

/-- The parts one after the other, `sep` between each two. -/
def join (sep : List Ink) : List (List Ink) → List Ink
  | [] => []
  | x :: xs => x ++ xs.flatMap (sep ++ ·)

/-- The parts with commas between them. -/
def commas (parts : List (List Ink)) : List Ink := join [.symbol ",", .gap] parts

/-- What is written in a place that requires at least the given strength. -/
def enclose (least : Precedence) (writing : Precedence × List Ink) : List Ink :=
  if writing.1.rank < least.rank then .symbol "(" :: (writing.2 ++ [.symbol ")"]) else writing.2

/-- A comparison operator. -/
def ofCompare : CompareOp → List Ink
  | .notSame => [.symbol "is", .gap, .symbol "not"]
  | .notMember => [.symbol "not", .gap, .symbol "in"]
  | op => [.symbol op.token]

/-- A comparison behind its left operand. -/
def comparison : List CompareOp → List (List Ink) → List Ink
  | op :: ops, x :: xs => .gap :: (ofCompare op ++ .gap :: (x ++ comparison ops xs))
  | _, _ => []

/-- The elements of a tuple: a single one is followed by a comma. -/
def tuple : List (List Ink) → List Ink
  | [x] => x ++ [.symbol ","]
  | xs => commas xs

/-- The items of a dictionary. -/
def entries : List (Option (Precedence × List Ink)) → List (Precedence × List Ink) →
    List (List Ink)
  | none :: ks, v :: vs => (.symbol "**" :: enclose .bitOr v) :: entries ks vs
  | some k :: ks, v :: vs =>
    (enclose .test k ++ .symbol ":" :: .gap :: enclose .test v) :: entries ks vs
  | _, _ => []

end Inks

open Inks

/-- How tightly an expression binds. -/
def Expr.strength : Expr → Precedence
  | .binary _ op _ => op.precedence
  | .unary .negation _ => .negation
  | .unary _ _ => .factor
  | .logical op _ => op.precedence
  | .compare .. => .comparison
  | .starred _ => .test
  | .captured kind _ => .ofCaptured kind
  | _ => .atom

mutual

/-- An expression as marks and gaps. A number in front of a dot is put in parentheses. -/
def Expr.inks : Expr → List Ink
  | .name id => [.mark (.name id)]
  | .string value => [.mark (.string ((value.escaped .double).filterMap CodePoint.char?))]
  | .number value => [.mark (.number value)]
  | .truth value => [.symbol (if value then "True" else "False")]
  | .noneLiteral => [.symbol "None"]
  | .call func args keywords =>
    enclose .atom (func.strength, func.inks) ++ .symbol "(" ::
      (commas ((Expr.inksEach args).map (enclose .test) ++ Keyword.inksEach keywords) ++
        [.symbol ")"])
  | .binary left op right =>
    enclose op.operands.1 (left.strength, left.inks) ++ .gap :: .symbol op.token :: .gap ::
      enclose op.operands.2 (right.strength, right.inks)
  | .unary .negation operand =>
    .symbol "not" :: .gap :: enclose .negation (operand.strength, operand.inks)
  | .unary op operand => .symbol op.token :: enclose .factor (operand.strength, operand.inks)
  | .logical op values =>
    join [.gap, .symbol op.token, .gap] ((Expr.inksEach values).map (enclose op.precedence.next))
  | .compare left ops comparators =>
    enclose .bitOr (left.strength, left.inks) ++
      comparison ops ((Expr.inksEach comparators).map (enclose .bitOr))
  | .attribute value attr =>
    enclose .atom (if value.isNumber then .factor else value.strength, value.inks) ++
      [.symbol ".", .mark (.name attr)]
  | .subscript value index =>
    enclose .atom (value.strength, value.inks) ++ .symbol "[" ::
      (enclose .test (index.strength, index.inks) ++ [.symbol "]"])
  | .starred value => .symbol "*" :: enclose .bitOr (value.strength, value.inks)
  | .tuple elements =>
    .symbol "(" :: (Inks.tuple ((Expr.inksEach elements).map (enclose .test)) ++ [.symbol ")"])
  | .list elements =>
    .symbol "[" :: (commas ((Expr.inksEach elements).map (enclose .test)) ++ [.symbol "]"])
  | .dict keys values =>
    .symbol "\x7b" :: (commas (entries (Expr.inksKeys keys) (Expr.inksEach values)) ++
      [.symbol "\x7d"])
  | .captured kind (some source) => [.mark (.captured kind (source.filterMap CodePoint.char?))]
  | .formatted _ | .captured _ none | .foreign _ => []

/-- Expressions as marks and gaps, with their strengths. -/
def Expr.inksEach : List Expr → List (Precedence × List Ink)
  | [] => []
  | e :: es => (e.strength, e.inks) :: Expr.inksEach es

/-- The keys of a dictionary as marks and gaps, with their strengths. -/
def Expr.inksKeys : List (Option Expr) → List (Option (Precedence × List Ink))
  | [] => []
  | none :: ks => none :: Expr.inksKeys ks
  | some k :: ks => some (k.strength, k.inks) :: Expr.inksKeys ks

/-- Keyword arguments as marks and gaps. -/
def Keyword.inksEach : List Keyword → List (List Ink)
  | [] => []
  | .mk none value :: ks =>
    (.symbol "**" :: enclose .bitOr (value.strength, value.inks)) :: Keyword.inksEach ks
  | .mk (some arg) value :: ks =>
    (.mark (.name arg) :: .symbol "=" :: enclose .test (value.strength, value.inks)) ::
      Keyword.inksEach ks

end

/-- An expression as it is written in a place that requires at least the given strength. -/
def Expr.inksAt (least : Precedence) (e : Expr) : List Ink := enclose least (e.strength, e.inks)

/-- A keyword argument as marks and gaps. -/
def Keyword.inks : Keyword → List Ink
  | .mk none value => .symbol "**" :: value.inksAt .bitOr
  | .mk (some arg) value => .mark (.name arg) :: .symbol "=" :: value.inksAt .test

/-- An item of a dictionary as marks and gaps. -/
def Expr.entryInks : Option Expr × Expr → List Ink
  | (none, v) => .symbol "**" :: v.inksAt .bitOr
  | (some k, v) => k.inksAt .test ++ .symbol ":" :: .gap :: v.inksAt .test

theorem Expr.inksEach_map (es : List Expr) (least : Precedence) :
    (Expr.inksEach es).map (enclose least) = es.map (Expr.inksAt least) := by
  induction es with
  | nil => rfl
  | cons e es ih => rw [Expr.inksEach, List.map_cons, ih, List.map_cons, Expr.inksAt]

theorem Keyword.inksEach_eq (ks : List Keyword) : Keyword.inksEach ks = ks.map Keyword.inks := by
  induction ks with
  | nil => rfl
  | cons k ks ih =>
    obtain ⟨arg, value⟩ := k
    cases arg <;> rw [Keyword.inksEach, ih] <;> rfl

theorem Expr.entries_eq (ks : List (Option Expr)) (vs : List Expr) :
    entries (Expr.inksKeys ks) (Expr.inksEach vs) = (ks.zip vs).map Expr.entryInks := by
  induction ks generalizing vs with
  | nil => rfl
  | cons k ks ih =>
    cases vs with
    | nil => cases k <;> rfl
    | cons v vs => cases k <;> simp only [Expr.inksKeys, Expr.inksEach, entries, ih] <;> rfl

theorem Expr.inks_call (func : Expr) (args : List Expr) (keywords : List Keyword) :
    (Expr.call func args keywords).inks = func.inksAt .atom ++ Ink.symbol "(" ::
      (commas (args.map (Expr.inksAt .test) ++ keywords.map Keyword.inks) ++ [Ink.symbol ")"]) := by
  rw [Expr.inks, Expr.inksEach_map, Keyword.inksEach_eq]
  rfl

theorem Expr.inks_logical (op : BoolOp) (values : List Expr) :
    (Expr.logical op values).inks =
      join [.gap, .symbol op.token, .gap] (values.map (Expr.inksAt op.precedence.next)) := by
  rw [Expr.inks, Expr.inksEach_map]

theorem Expr.inks_compare (left : Expr) (ops : List CompareOp) (comparators : List Expr) :
    (Expr.compare left ops comparators).inks =
      left.inksAt .bitOr ++ comparison ops (comparators.map (Expr.inksAt .bitOr)) := by
  rw [Expr.inks, Expr.inksEach_map]
  rfl

theorem Expr.inks_tuple (elements : List Expr) :
    (Expr.tuple elements).inks =
      Ink.symbol "(" :: (Inks.tuple (elements.map (Expr.inksAt .test)) ++ [Ink.symbol ")"]) := by
  rw [Expr.inks, Expr.inksEach_map]

theorem Expr.inks_list (elements : List Expr) :
    (Expr.list elements).inks =
      .symbol "[" :: (commas (elements.map (Expr.inksAt .test)) ++ [.symbol "]"]) := by
  rw [Expr.inks, Expr.inksEach_map]

theorem Expr.inks_dict (keys : List (Option Expr)) (values : List Expr) :
    (Expr.dict keys values).inks =
      .symbol "\x7b" :: (commas ((keys.zip values).map Expr.entryInks) ++ [.symbol "\x7d"]) := by
  rw [Expr.inks, Expr.entries_eq]

/-! ## Spelling -/

/-- The text that is written. -/
def Inks.text (inks : List Ink) : Text := Text.ofChars (spell inks)

namespace Inks

@[simp]
theorem text_nil : text [] = [] := rfl

@[simp]
theorem text_append (xs ys : List Ink) : text (xs ++ ys) = text xs ++ text ys := by
  simp [text, spell, Text.ofChars]

theorem text_cons (x : Ink) (xs : List Ink) : text (x :: xs) = Text.ofChars x.spell ++ text xs := by
  simp [text, spell, Text.ofChars]

@[simp]
theorem text_gap (xs : List Ink) : text (.gap :: xs) = (" " : Text) ++ text xs := text_cons _ _

@[simp]
theorem text_symbol (symbol : String) (xs : List Ink) :
    text (.mark (.symbol symbol) :: xs) = Text.ofString symbol ++ text xs := text_cons _ _

theorem join_text_cons (sep part : Text) (parts : List Text) :
    Text.join sep (part :: parts) = part ++ parts.flatMap (sep ++ ·) := by
  induction parts generalizing part with
  | nil => simp [Text.join, List.intercalate]
  | cons x xs ih =>
    rw [List.flatMap_cons, List.append_assoc, ← ih]
    simp [Text.join, List.intercalate]

theorem text_join (sep : List Ink) (parts : List (List Ink)) :
    text (join sep parts) = Text.join (text sep) (parts.map text) := by
  cases parts with
  | nil => rfl
  | cons x xs =>
    rw [join, List.map_cons, join_text_cons, text_append]
    congr 1
    induction xs with
    | nil => rfl
    | cons y ys ih => simp [ih]

theorem text_commas (parts : List (List Ink)) :
    text (commas parts) = Text.join ", " (parts.map text) := text_join _ _

theorem text_enclose (least : Precedence) (writing : Precedence × List Ink) :
    text (enclose least writing) = least.wrap (text writing.2, writing.1) := by
  unfold enclose Precedence.wrap
  split <;> simp

end Inks

/-! ## Rendering -/

theorem Text.chars?_eq {t : Text} {word : List Char} (h : t.chars? = some word) :
    t = Text.ofChars word := by
  induction t generalizing word with
  | nil => cases h; rfl
  | cons c t ih =>
    simp only [Text.chars?, List.mapM_cons] at h
    cases c with
    | surrogate offset => cases h
    | scalar c =>
      obtain ⟨_, hc, htail⟩ := Option.bind_eq_some_iff.1 h
      cases hc
      obtain ⟨rest, hrest, hword⟩ := Option.bind_eq_some_iff.1 htail
      cases hword
      rw [ih hrest]
      rfl

theorem Text.chars?_ofChars (word : List Char) : (Text.ofChars word).chars? = some word := by
  induction word with
  | nil => rfl
  | cons c word ih =>
    have hrest : (Text.ofChars word).mapM CodePoint.char? = some word := ih
    rw [Text.chars?, Text.ofChars, List.map_cons, List.mapM_cons, CodePoint.char?, ← Text.ofChars,
      hrest]
    rfl

theorem filterMap_char_ofChars (word : List Char) :
    (Text.ofChars word).filterMap CodePoint.char? = word := by
  induction word with
  | nil => rfl
  | cons c word ih => simpa [Text.ofChars, CodePoint.char?] using ih

theorem Text.isNormalName_eq {t : Text} (h : t.isNormalName = true) :
    ∃ word, t = Text.ofChars word ∧ t.isBindable = true ∧ compatibleForm word = word := by
  unfold Text.isNormalName at h
  split at h
  · rename_i word hword
    rw [Bool.and_eq_true, beq_iff_eq] at h
    exact ⟨word, Text.chars?_eq hword, h⟩
  · cases h

theorem inOrder_ok (texts : List Text) : inOrder (texts.map .ok) = .ok texts :=
  mapM_ok.2 (by simp)

section

variable {mode : RenderMode}

/-- The rendering of an expression is what its marks and gaps spell. -/
def Expr.Rendered (mode : RenderMode) (e : Expr) : Prop :=
  e.render mode .double = .ok (text e.inks, e.strength)

theorem Expr.Rendered.place {e : Expr} (h : e.Rendered mode) (least : Precedence) :
    place least (e.render mode .double) = .ok (text (e.inksAt least)) := by
  rw [h, Expr.inksAt, text_enclose]
  rfl

theorem Expr.renderEach_eq {es : List Expr} (h : ∀ e ∈ es, e.Rendered mode) (least : Precedence) :
    (Expr.renderEach mode .double es).map (Refactory.place least) =
      (es.map fun e => text (e.inksAt least)).map .ok := by
  induction es with
  | nil => rfl
  | cons e es ih =>
    rw [List.forall_mem_cons] at h
    rw [Expr.renderEach, List.map_cons, List.map_cons, List.map_cons, h.1.place, ih h.2]

theorem text_name {id : Text} (h : id.isNormalName = true) (xs : List Ink) :
    text (.mark (.name id) :: xs) = id ++ text xs := by
  obtain ⟨word, rfl, -⟩ := Text.isNormalName_eq h
  rw [text_cons, Ink.spell, Mark.spell, filterMap_char_ofChars]

theorem Expr.renderKeywords_eq {ks : List Keyword} (h : ∀ k ∈ ks, k.value.Rendered mode)
    (hplain : Keyword.areReadable mode ks = true) :
    Expr.renderKeywords mode .double ks = (ks.map fun k => text k.inks).map .ok := by
  induction ks with
  | nil => rfl
  | cons k ks ih =>
    rw [List.forall_mem_cons] at h
    obtain ⟨arg, value⟩ := k
    have hvalue : value.Rendered mode := h.1
    cases arg with
    | none =>
      rw [Keyword.areReadable, Bool.and_eq_true] at hplain
      rw [Expr.renderKeywords, hvalue.place, ih h.2 hplain.2]
      simp [Keyword.inks, Except.map]
    | some arg =>
      rw [Keyword.areReadable, Bool.and_eq_true, Bool.and_eq_true] at hplain
      rw [Expr.renderKeywords, hvalue.place, ih h.2 hplain.2]
      simp [Keyword.inks, Except.map, text_name hplain.1.1]

theorem Expr.dictItems_eq {ks : List (Option Expr)} {vs : List Expr}
    (hlength : ks.length = vs.length) (hks : ∀ e, some e ∈ ks → e.Rendered mode)
    (hvs : ∀ e ∈ vs, e.Rendered mode) :
    dictItems (Expr.renderKeys mode .double ks) (Expr.renderEach mode .double vs) =
      ((ks.zip vs).map fun x => text (Expr.entryInks x)).map .ok := by
  induction ks generalizing vs with
  | nil =>
    cases vs with
    | nil => rfl
    | cons v vs => cases hlength
  | cons k ks ih =>
    cases vs with
    | nil => cases hlength
    | cons v vs =>
      rw [List.forall_mem_cons] at hvs
      have hrest := ih (Nat.succ.inj hlength) (fun e he => hks e (List.mem_cons_of_mem k he)) hvs.2
      cases k with
      | none =>
        rw [Expr.renderKeys, Expr.renderEach, dictItems, hrest, dictItem, hvs.1.place]
        simp [Expr.entryInks, bind, Except.bind, pure, Except.pure]
      | some k =>
        rw [Expr.renderKeys, Expr.renderEach, dictItems, hrest, dictItem,
          (hks k List.mem_cons_self).place, hvs.1.place]
        simp [Expr.entryInks, bind, Except.bind, pure, Except.pure]
        rfl

/-- The texts of a comparison behind its left operand. -/
def comparisonTexts : List CompareOp → List Text → List Text
  | op :: ops, x :: xs => Text.ofString op.token :: x :: comparisonTexts ops xs
  | _, _ => []

theorem Expr.comparisonParts_eq {ops : List CompareOp} {es : List Expr}
    (hlength : ops.length = es.length) (h : ∀ e ∈ es, e.Rendered mode) :
    comparisonParts ops (Expr.renderEach mode .double es) =
      (comparisonTexts ops (es.map fun e => text (e.inksAt .bitOr))).map .ok := by
  induction ops generalizing es with
  | nil =>
    cases es with
    | nil => rfl
    | cons e es => cases hlength
  | cons op ops ih =>
    cases es with
    | nil => cases hlength
    | cons e es =>
      rw [List.forall_mem_cons] at h
      rw [Expr.renderEach, comparisonParts, h.1.place, ih (Nat.succ.inj hlength) h.2]
      rfl

theorem text_comparison (ops : List CompareOp) (xs : List (List Ink)) :
    text (Inks.comparison ops xs) =
      (comparisonTexts ops (xs.map text)).flatMap (Text.ofString " " ++ ·) := by
  induction ops generalizing xs with
  | nil => cases xs <;> rfl
  | cons op ops ih =>
    cases xs with
    | nil => rfl
    | cons x xs =>
      have hop : text (ofCompare op) = op.token := by cases op <;> rfl
      simp [Inks.comparison, comparisonTexts, hop, ih]

theorem text_number (n : Nat) : text [.mark (.number (.int n))] = Text.ofNat n := by
  simp [text_cons, Ink.spell, Mark.spell, Text.ofNat]

theorem head_ofNat_ne (n : Nat) {mark : Char} (hmark : mark.isDigit = false) :
    (Text.ofNat n).head? ≠ some (CodePoint.scalar mark) := by
  intro h
  obtain ⟨rest, hrest⟩ := List.head?_eq_some_iff.1 h
  obtain ⟨c, cs, hdigits, hc, -⟩ := List.map_eq_cons_iff.1 hrest
  have hdigit : c.isDigit = true := Nat.isDigit_of_mem_toDigits (by decide) (by decide)
    (hdigits ▸ List.mem_cons_self)
  cases hc
  cases hmark.symm.trans hdigit

theorem tupleText_eq (xs : List (List Ink)) :
    tupleText (xs.map text) = text (Ink.symbol "(" :: (Inks.tuple xs ++ [Ink.symbol ")"])) := by
  match xs with
  | [] => rfl
  | [x] => simp [tupleText, Inks.tuple]; rfl
  | x :: y :: xs => simp [tupleText, Inks.tuple, text_commas]

/-- Characters are a numeral that is read as the number. -/
structure Number.Numeral (value : Number) (word : List Char) : Prop where
  digit : ∃ c tail, word = c :: tail ∧ c.isDigit = true
  chars : ∀ c ∈ word, isNumeralChar c = true ∧ c.toNat < 0x80
  read : Grammar.Numeral.read word = some (value, [])

theorem Number.numeral_of {value : Number} (h : value.isNumeral = true) :
    ∃ word, value.render = .ok (Text.ofChars word) ∧ value.Numeral word := by
  unfold Number.isNumeral at h
  split at h
  · rename_i word hword
    simp only [Bool.and_eq_true, List.all_eq_true, decide_eq_true_iff, beq_iff_eq] at h
    obtain ⟨t, ht, hchars⟩ := Option.bind_eq_some_iff.1 hword
    obtain ⟨⟨hdigit, hall⟩, hread⟩ := h
    refine ⟨word, ?_, ?_, hall, hread⟩
    · rw [← Text.chars?_eq hchars]
      cases hrender : value.render with
      | error f =>
        rw [hrender] at ht
        cases ht
      | ok u =>
        rw [hrender] at ht
        cases ht
        rfl
    · cases word with
      | nil => cases hdigit
      | cons c tail => exact ⟨c, tail, rfl, hdigit⟩
  · cases h

/-- A readable number is an integer that is written with its digits, or a numeral that is written as it is
rendered. -/
theorem Expr.number_cases {value : Number} {star : Bool}
    (h : (Expr.number value).isReadable mode star = true) :
    (∃ n : Nat, value = .int n ∧ (Nat.toDigits 10 n).length ≤ digitLimit) ∨
      ∃ word, value.render = .ok (Text.ofChars word) ∧ value.Numeral word ∧
        (Mark.number value).spell = word := by
  have hother : value.isNumeral = true → (∀ n, value ≠ .int n) →
      ∃ word, value.render = .ok (Text.ofChars word) ∧ value.Numeral word ∧
        (Mark.number value).spell = word := fun hnumeral hint => by
    obtain ⟨word, hrender, hword⟩ := Number.numeral_of hnumeral
    refine ⟨word, hrender, hword, ?_⟩
    rw [Mark.spell, hrender]
    · exact filterMap_char_ofChars word
    · exact hint
  cases value with
  | int n =>
    rw [Expr.isReadable, Bool.and_eq_true, decide_eq_true_iff, decide_eq_true_iff] at h
    obtain ⟨n, rfl⟩ := Int.eq_ofNat_of_zero_le h.1
    exact .inl ⟨n, rfl, h.2⟩
  | float x => exact .inr (hother h (by simp))
  | complex re im => exact .inr (hother h (by simp))
  | bool b => exact .inr (hother h (by simp))

theorem Number.Numeral.head_ne {value : Number} {word : List Char} (h : value.Numeral word) {mark : Char}
    (hmark : mark.isDigit = false) :
    (Text.ofChars word).head? ≠ some (CodePoint.scalar mark) := by
  obtain ⟨c, tail, rfl, hdigit⟩ := h.digit
  rintro ⟨⟩
  cases hmark.symm.trans hdigit

theorem dotted_eq {value : Expr} (h : value.isReadable mode false = true) :
    dotted value.isNumber (text (value.inksAt .atom)) =
      text (enclose .atom (if value.isNumber then .factor else value.strength, value.inks)) := by
  cases value with
  | number value =>
    have hparts : ∀ t : Text, text [.mark (.number value)] = t →
        t.head? ≠ some (CodePoint.scalar '(') → dotted true t = "(" ++ t ++ ")" := fun t _ hne => by
      rw [dotted, if_pos (by simpa using hne)]
    rw [text_enclose, Expr.inksAt, text_enclose, Expr.inks]
    rcases Expr.number_cases h with ⟨n, rfl, -⟩ | ⟨word, -, hword, hspell⟩
    · exact hparts _ rfl (by rw [text_number]; exact head_ofNat_ne n (by decide))
    · have htext : text [.mark (.number value)] = Text.ofChars word := by
        simp [text_cons, Ink.spell, hspell]
      exact hparts _ rfl (by rw [htext]; exact hword.head_ne (by decide))
  | _ => rfl

/-- A captured expression that can be read back is repeated. -/
theorem Expr.captured_cases {kind : Text} {source : Option Text} {star : Bool}
    (h : (Expr.captured kind source).isReadable mode star = true) :
    mode = .passthrough ∧ ∃ word, source = some (Text.ofChars word) ∧ Verbatim kind word := by
  cases source with
  | none => cases h
  | some source =>
    rw [Expr.isReadable, Bool.and_eq_true, decide_eq_true_iff, Text.isVerbatim] at h
    obtain ⟨hmode, hsource⟩ := h
    split at hsource
    · rename_i word hword
      exact ⟨hmode, word, by rw [Text.chars?_eq hword], decide_eq_true_iff.1 hsource⟩
    · cases hsource

/-- Every readable expression is rendered as its marks and gaps spell. -/
theorem Expr.rendered (mode : RenderMode) : ∀ (e : Expr) (star : Bool), e.isReadable mode star = true →
    e.Rendered mode := by
  refine Expr.induct_children fun e ih star h => ?_
  unfold Expr.Rendered
  cases e with
  | name id =>
    rw [Expr.inks, text_name h]
    simp [Expr.render, atomText, Expr.strength]
  | string value =>
    obtain ⟨body, hbody, -⟩ := escaped_text value
    have htext : text [.mark (.string body)] = "\"" ++ Text.ofChars body ++ "\"" := by
      simp [text_cons, Ink.spell, Mark.spell, Text.ofChars]
      rfl
    rw [Expr.inks, hbody, filterMap_char_ofChars, htext, Expr.render, hbody]
    rfl
  | number value =>
    rw [Expr.render, Expr.inks]
    rcases Expr.number_cases h with ⟨n, rfl, hdigits⟩ | ⟨word, hrender, hword, hspell⟩
    · rw [Number.render, if_pos (by exact hdigits), text_number]
      exact congrArg Except.ok (Prod.ext rfl (if_neg (head_ofNat_ne n (by decide))))
    · have htext : text [.mark (.number value)] = Text.ofChars word := by
        simp [text_cons, Ink.spell, hspell]
      rw [hrender, htext]
      exact congrArg Except.ok (Prod.ext rfl (if_neg (hword.head_ne (by decide))))
  | truth value => cases value <;> rfl
  | noneLiteral => rfl
  | call func args keywords =>
    simp only [Expr.isReadable, Bool.and_eq_true, Expr.areReadable_iff] at h
    have hargs : ∀ e ∈ args, e.Rendered mode := fun e he =>
      ih e (by simp [Expr.children, he]) true (h.1.2 e he)
    have hkeywords : ∀ k ∈ keywords, k.value.Rendered mode := fun k hk =>
      ih k.value (by simp [Expr.children]; exact .inr (.inr ⟨k, hk, rfl⟩)) false
        (Keyword.areReadable_iff.1 h.2 k hk).1
    have hfunc := ih func (by simp [Expr.children]) false h.1.1
    rw [Expr.render, Expr.renderEach_eq hargs, Expr.renderKeywords_eq hkeywords h.2, inOrder_ok,
      inOrder_ok, hfunc.place, Expr.inks_call]
    simp [bind, Except.bind, pure, Except.pure, text_commas, Expr.strength, Function.comp_def]
  | binary left op right =>
    rw [Expr.isReadable, Bool.and_eq_true] at h
    have hleft := ih left (by simp [Expr.children]) false h.1
    have hright := ih right (by simp [Expr.children]) false h.2
    rw [Expr.render, hleft.place, hright.place]
    simp [bind, Except.bind, pure, Except.pure, Expr.inks, Expr.inksAt, Expr.strength]
  | unary op operand =>
    rw [Expr.isReadable] at h
    have hoperand := ih operand (by simp [Expr.children]) false h
    cases op with
    | negation =>
      rw [Expr.render, hoperand.place]
      simp [bind, Except.bind, pure, Except.pure, Expr.inks, Expr.inksAt, Expr.strength]
      rfl
    | _ =>
      rw [Expr.render, hoperand.place]
      · simp [bind, Except.bind, pure, Except.pure, Expr.inks, Expr.inksAt, Expr.strength]
      · rintro ⟨⟩
  | logical op values =>
    simp only [Expr.isReadable, Bool.and_eq_true, Expr.areReadable_iff] at h
    have hvalues : ∀ e ∈ values, e.Rendered mode := fun e he => ih e he false (h.2 e he)
    rw [Expr.render, Expr.renderEach_eq hvalues, inOrder_ok, Expr.inks_logical, text_join]
    simp [bind, Except.bind, pure, Except.pure, Expr.strength, Function.comp_def]
  | compare left ops comparators =>
    simp only [Expr.isReadable, Bool.and_eq_true, Expr.areReadable_iff, beq_iff_eq] at h
    have hleft := ih left (by simp [Expr.children]) false h.1.2
    have hcomparators : ∀ e ∈ comparators, e.Rendered mode := fun e he =>
      ih e (by simp [Expr.children, he]) false (h.2 e he)
    rw [Expr.render, hleft.place, Expr.comparisonParts_eq h.1.1.2 hcomparators, inOrder_ok,
      Expr.inks_compare]
    simp [bind, Except.bind, pure, Except.pure, Expr.strength, join_text_cons, text_comparison,
      Function.comp_def]
  | «attribute» value attr =>
    rw [Expr.isReadable, Bool.and_eq_true] at h
    have hvalue := ih value (by simp [Expr.children]) false h.2
    rw [Expr.render, hvalue.place, Expr.inks]
    rw [Bool.and_eq_true] at h
    simp [bind, Except.bind, pure, Except.pure, dotted_eq h.2, text_name h.1.1, Expr.strength]
  | subscript value index =>
    rw [Expr.isReadable, Bool.and_eq_true] at h
    have hvalue := ih value (by simp [Expr.children]) false h.1
    have hindex := ih index (by simp [Expr.children]) false h.2
    rw [Expr.render, hvalue.place, hindex.place]
    simp [bind, Except.bind, pure, Except.pure, Expr.inks, Expr.inksAt, Expr.strength]
  | starred value =>
    rw [Expr.isReadable, Bool.and_eq_true] at h
    have hvalue := ih value (by simp [Expr.children]) false h.2
    rw [Expr.render, hvalue.place]
    simp [bind, Except.bind, pure, Except.pure, Expr.inks, Expr.inksAt, Expr.strength]
  | tuple elements =>
    rw [Expr.isReadable, Expr.areReadable_iff] at h
    have helements : ∀ e ∈ elements, e.Rendered mode := fun e he => ih e he true (h e he)
    rw [Expr.render, Expr.renderEach_eq helements, inOrder_ok, Expr.inks_tuple, ← tupleText_eq]
    simp [bind, Except.bind, pure, Except.pure, Expr.strength, Function.comp_def]
  | list elements =>
    rw [Expr.isReadable, Expr.areReadable_iff] at h
    have helements : ∀ e ∈ elements, e.Rendered mode := fun e he => ih e he true (h e he)
    rw [Expr.render, Expr.renderEach_eq helements, inOrder_ok, Expr.inks_list]
    simp [bind, Except.bind, pure, Except.pure, Expr.strength, text_commas, Function.comp_def]
  | dict keys values =>
    simp only [Expr.isReadable, Bool.and_eq_true, Expr.areReadable_iff, Expr.areReadableKeys_iff,
      beq_iff_eq] at h
    have hkeys : ∀ e, some e ∈ keys → e.Rendered mode := fun e he =>
      ih e (by simp [Expr.children, he]) false (h.1.2 e he)
    have hvalues : ∀ e ∈ values, e.Rendered mode := fun e he =>
      ih e (by simp [Expr.children, he]) false (h.2 e he)
    rw [Expr.render, Expr.dictItems_eq h.1.1 hkeys hvalues, inOrder_ok, Expr.inks_dict]
    simp [bind, Except.bind, pure, Except.pure, Expr.strength, text_commas, Function.comp_def]
  | captured kind source =>
    obtain ⟨rfl, word, rfl, hword⟩ := Expr.captured_cases h
    rw [Expr.inks, filterMap_char_ofChars]
    cases word with
    | nil => exact (Nat.lt_irrefl 0 hword.length_pos).elim
    | cons c word => simp [Expr.render, Expr.strength, text_cons, Ink.spell, Mark.spell, Text.ofChars]
  | formatted _ | foreign _ => cases h

/-- A readable expression has a text of its own. -/
theorem Expr.toText_eq {e : Expr} {star : Bool} (h : e.isReadable mode star = true) :
    e.toText mode = .ok (text e.inks) := by
  have hnamed : ¬ e.strength.rank < Precedence.named.rank := by
    cases e.strength <;> decide
  rw [Expr.toText, (e.rendered mode star h).place, Expr.inksAt, enclose, if_neg hnamed]
  rfl

end

end Refactory
