import Refactory.Proofs.Modernize.Percent

/-! # Formatting

What formatting makes of a brace template and a tuple of values (`braceFormat`). It is defined for all
templates, with fields that ask for a value by name, that lead on to an attribute or an item, and that
have fields in their own format. A template is read piece by piece, so that it is filled in up to where
it is malformed.

Formatted strings are evaluated in the same terms (`Formatting.evaluate`). -/

namespace Refactory

/-! ## Reading templates -/

/-- The piece at the start of a template, and what follows it. -/
def bracePiece (t : Text) : Option (BracePiece × Text) := do
  let (literal, hasField, rest) ← braceLiteral t
  if hasField then
    let (field, rest) ← braceField rest
    return (⟨literal, some field⟩, rest)
  else return (⟨literal, none⟩, rest)

/-- What follows a text that a character is put in front of. -/
theorem rest_of_kept {c : CodePoint} {read : Option (Text × Text)} {kept rest : Text}
    (h : read.map (fun (s, r) => (c :: s, r)) = some (kept, rest)) :
    ∃ kept', read = some (kept', rest) := by
  obtain ⟨⟨kept', rest'⟩, hread, heq⟩ := Option.map_eq_some_iff.1 h
  cases heq
  exact ⟨kept', hread⟩

theorem suffix_of_fieldName {inBrackets : Bool} {t name rest : Text}
    (h : fieldName inBrackets t = some (name, rest)) : rest <:+ t := by
  induction t generalizing inBrackets name with
  | nil => cases h
  | cons c t ih =>
    have hkept : ∀ {b}, (fieldName b t).map (fun (n, r) => (c :: n, r)) = some (name, rest) →
        rest <:+ c :: t := by
      intro b h
      obtain ⟨name', hname⟩ := rest_of_kept h
      exact (ih hname).trans (List.suffix_cons c t)
    rw [fieldName] at h
    split at h
    · exact hkept h
    · split at h
      · cases h
      · split at h
        · cases h
          exact List.suffix_refl _
        · exact hkept h

theorem suffix_of_fieldSpec {depth : Nat} {t spec rest : Text}
    (h : fieldSpec depth t = some (spec, rest)) : rest <:+ t := by
  induction t generalizing depth spec with
  | nil => cases h
  | cons c t ih =>
    have hkept : ∀ {d}, (fieldSpec d t).map (fun (s, r) => (c :: s, r)) = some (spec, rest) →
        rest <:+ c :: t := by
      intro d h
      obtain ⟨spec', hspec⟩ := rest_of_kept h
      exact (ih hspec).trans (List.suffix_cons c t)
    rw [fieldSpec.eq_def] at h
    dsimp only at h
    split at h
    · exact hkept h
    · split at h
      · split at h
        · cases h
          exact List.suffix_cons c _
        · exact hkept h
      · exact hkept h

theorem suffix_of_braceField {t rest : Text} {field : BraceField}
    (h : braceField t = some (field, rest)) : rest <:+ t := by
  obtain ⟨⟨name, behind⟩, hname, h⟩ := Option.bind_eq_some_iff.1 h
  apply List.IsSuffix.trans ?_ (suffix_of_fieldName hname)
  have hspec : ∀ {t : Text} {make : Text → BraceField},
      ((fieldSpec 0 t).bind fun (spec, rest) => some (make spec, rest)) = some (field, rest) →
        rest <:+ t := by
    intro t make h
    obtain ⟨⟨spec, rest'⟩, hspec, heq⟩ := Option.bind_eq_some_iff.1 h
    cases heq
    exact suffix_of_fieldSpec hspec
  dsimp only at h
  split at h
  · cases h
  · rename_i c behind
    split at h
    · cases h
      exact List.suffix_cons c rest
    · split at h
      · exact (hspec h).trans (List.suffix_cons c behind)
      · split at h
        · rename_i conversion d behind
          have hbehind : behind <:+ c :: conversion :: d :: behind :=
            List.suffix_append [c, conversion, d] behind
          split at h
          · cases h
            exact hbehind
          · split at h
            · exact (hspec h).trans hbehind
            · cases h
        · cases h

theorem suffix_of_braceLiteral {t rest literal : Text} {hasField : Bool}
    (h : braceLiteral t = some (literal, hasField, rest)) : rest <:+ t.tail := by
  fun_induction braceLiteral t generalizing literal with
  | case1 =>
    cases h
    exact List.suffix_refl _
  | case2 c t =>
    cases h
    exact List.suffix_cons _ _
  | case3 => cases h
  | case4 =>
    cases h
    exact List.suffix_refl _
  | case5 => cases h
  | case6 c t _ ih =>
    obtain ⟨⟨literal', hasField', rest'⟩, hread, heq⟩ := Option.map_eq_some_iff.1 h
    cases heq
    exact (ih hread).trans (List.tail_suffix t)

theorem suffix_of_bracePiece {t rest : Text} {piece : BracePiece}
    (h : bracePiece t = some (piece, rest)) : rest <:+ t.tail := by
  obtain ⟨⟨literal, hasField, behind⟩, hliteral, h⟩ := Option.bind_eq_some_iff.1 h
  apply List.IsSuffix.trans ?_ (suffix_of_braceLiteral hliteral)
  cases hasField with
  | false =>
    cases h
    exact List.suffix_refl _
  | true =>
    obtain ⟨⟨field, rest'⟩, hfield, heq⟩ := Option.bind_eq_some_iff.1 h
    cases heq
    exact suffix_of_braceField hfield

theorem bracePieces_cons (fuel : Nat) (c : CodePoint) (t : Text) :
    bracePieces (fuel + 1) (c :: t) = do
      let (piece, rest) ← bracePiece (c :: t)
      return piece :: (← bracePieces fuel rest) := by
  simp only [bracePieces, bracePiece]
  cases braceLiteral (c :: t) with
  | none => rfl
  | some read =>
    obtain ⟨literal, hasField, rest⟩ := read
    cases hasField with
    | false => rfl
    | true => cases hfield : braceField rest <;> simp [hfield]

theorem bracePieces_cons_some {fuel : Nat} {c : CodePoint} {t : Text} {pieces : List BracePiece} :
    bracePieces (fuel + 1) (c :: t) = some pieces ↔
      ∃ piece rest others, bracePiece (c :: t) = some (piece, rest) ∧
        bracePieces fuel rest = some others ∧ pieces = piece :: others := by
  rw [bracePieces_cons, Option.bind_eq_bind, Option.bind_eq_some_iff]
  constructor
  · rintro ⟨⟨piece, rest⟩, hpiece, h⟩
    obtain ⟨others, hothers, heq⟩ := Option.bind_eq_some_iff.1 h
    exact ⟨piece, rest, others, hpiece, hothers, (Option.some.inj heq).symm⟩
  · rintro ⟨piece, rest, others, hpiece, hothers, rfl⟩
    exact ⟨(piece, rest), hpiece, Option.bind_eq_some_iff.2 ⟨others, hothers, rfl⟩⟩

/-! ## Formatting -/

/-- How values are converted and formatted. A value can refuse. -/
structure Formatting (V E : Type) where
  str : V → Except E V
  repr : V → Except E V
  ascii : V → Except E V
  /-- The text of a value in a format. -/
  format : Text → V → Except E Text
  /-- What a path of attributes and items leads to. -/
  reach : Text → V → Except E V

/-- Why a brace template cannot be filled in. -/
inductive BraceFault (E : Type)
  | malformed
  /-- Some fields have a number and some have none. -/
  | mixed
  /-- A field asks for a value by name. -/
  | named
  /-- No argument has the number, however large that is. -/
  | noArgument
  | noConversion
  /-- There are fields in the format of a field in a format. -/
  | tooDeep
  | refused (why : E)

variable {V E : Type}

/-- What a value gives, or the reason why it refuses. -/
def BraceFault.ofValue {α : Type} (given : Except E α) : Except (BraceFault E) α :=
  given.mapError BraceFault.refused

/-- A value after the conversion of a field of a formatted string. -/
def Formatting.convertAs (f : Formatting V E) (conversion : Option Text) (v : V) :
    Except (BraceFault E) V :=
  match conversion with
  | none => .ok v
  | some c =>
    BraceFault.ofValue (if c = "r" then f.repr v else if c = "a" then f.ascii v else f.str v)

/-- The text of a value in a field of a formatted string; without a format it has the empty one. -/
def Formatting.field (f : Formatting V E) (conversion spec : Option Text) (v : V) :
    Except (BraceFault E) Text := do
  BraceFault.ofValue (f.format (spec.getD []) (← f.convertAs conversion v))

/-- What the parts of a formatted string evaluate to, given the values of its fields in order. -/
def Formatting.evaluate (f : Formatting V E) (parts : List Piece) (values : List V) :
    Except (BraceFault E) Text :=
  fillParts .noArgument f.field parts values

/-- How the fields of a template are numbered, as far as it has been read. -/
inductive FieldNumbers
  | undecided
  /-- Each field takes the next argument. -/
  | inOrder (next : Nat)
  | written

/-- The number of the argument that a field with this name is about, and the numbering behind it. -/
def FieldNumbers.number (n : FieldNumbers) (name : Text) :
    Except (BraceFault E) (Nat × FieldNumbers) :=
  if name.isEmpty then
    match n with
    | .undecided => .ok (0, .inOrder 1)
    | .inOrder next => .ok (next, .inOrder (next + 1))
    | .written => .error .mixed
  else
    match name.decimal?, n with
    | none, _ => .error .named
    | some _, .inOrder _ => .error .mixed
    | some i, _ => .ok (i, .written)

/-- A way to fill in a template from where the numbering stands, with the numbering behind it. -/
abbrev Expander (E : Type) := FieldNumbers → Text → Except (BraceFault E) (Text × FieldNumbers)

/-- Whether a point of a field name begins an attribute or an item. -/
def CodePoint.leadsOn (c : CodePoint) : Bool := c = '.' || c = '['

/-- The value that a field with this name is about, and the numbering behind it. -/
def Formatting.argument (f : Formatting V E) (values : List V) (n : FieldNumbers) (name : Text) :
    Except (BraceFault E) (V × FieldNumbers) := do
  let (i, n) ← n.number (name.takeWhile (!·.leadsOn))
  match values[i]?, name.dropWhile (!·.leadsOn) with
  | none, _ => .error .noArgument
  | some v, [] => return (v, n)
  | some v, path => return (← BraceFault.ofValue (f.reach path v), n)

/-- A value after the conversion of its field. -/
def Formatting.convert (f : Formatting V E) (conversion : Option CodePoint) (v : V) :
    Except (BraceFault E) V :=
  match conversion with
  | none => .ok v
  | some c =>
    if c = 's' then BraceFault.ofValue (f.str v)
    else if c = 'r' then BraceFault.ofValue (f.repr v)
    else if c = 'a' then BraceFault.ofValue (f.ascii v)
    else .error .noConversion

/-- The format of a field, filled in by `expand` if there is a field in it. -/
def expandSpec (expand : Expander E) (n : FieldNumbers) (spec : Text) :
    Except (BraceFault E) (Text × FieldNumbers) :=
  if spec.contains (CodePoint.scalar '{') then expand n spec else .ok (spec, n)

/-- The text of a field of a template. -/
def Formatting.fill (f : Formatting V E) (values : List V) (expand : Expander E) (n : FieldNumbers)
    (field : BraceField) : Except (BraceFault E) (Text × FieldNumbers) := do
  let (v, n) ← f.argument values n field.name
  let v ← f.convert field.conversion v
  let (spec, n) ← expandSpec expand n field.spec
  return (← BraceFault.ofValue (f.format spec v), n)

/-- The text of a piece of a template. -/
def Formatting.fillPiece (f : Formatting V E) (values : List V) (expand : Expander E)
    (n : FieldNumbers) : BracePiece → Except (BraceFault E) (Text × FieldNumbers)
  | ⟨literal, none⟩ => .ok (literal, n)
  | ⟨literal, some field⟩ => do
    let (shown, n) ← f.fill values expand n field
    return (literal ++ shown, n)

/-- A template filled in from where the numbering stands. -/
def Formatting.fillAll (f : Formatting V E) (values : List V) (expand : Expander E) : Expander E
  | n, [] => .ok ([], n)
  | n, c :: t =>
    match _h : bracePiece (c :: t) with
    | none => .error .malformed
    | some (piece, rest) => do
      let (shown, n) ← f.fillPiece values expand n piece
      let (others, n) ← f.fillAll values expand n rest
      return (shown ++ others, n)
termination_by _ t => t.length
decreasing_by exact Nat.lt_succ_of_le (suffix_of_bracePiece _h).length_le

/-- A template filled in, with `depth` levels of it and its formats. -/
def Formatting.expand (f : Formatting V E) (values : List V) : Nat → Expander E
  | 0, _, _ => .error .tooDeep
  | depth + 1, n, t => f.fillAll values (f.expand values depth) n t

/-- What a brace template is formatted to with a tuple of values. -/
def braceFormat (f : Formatting V E) (t : Text) (values : List V) : Except (BraceFault E) Text :=
  (f.expand values 2 .undecided t).map Prod.fst

section
variable (f : Formatting V E) {values : List V} {expand : Expander E} {n : FieldNumbers}
  {c : CodePoint} {t rest literal : Text}

theorem Formatting.fillAll_cons {piece : BracePiece}
    (h : bracePiece (c :: t) = some (piece, rest)) :
    f.fillAll values expand n (c :: t) = do
      let (shown, n) ← f.fillPiece values expand n piece
      let (others, n) ← f.fillAll values expand n rest
      return (shown ++ others, n) := by
  rw [fillAll]
  split
  · rename_i hnone
    cases hnone.symm.trans h
  · rename_i hsome
    cases hsome.symm.trans h
    rfl

theorem Formatting.fillAll_text (h : bracePiece (c :: t) = some (⟨literal, none⟩, rest)) :
    (f.fillAll values expand n (c :: t)).map Prod.fst =
      ((f.fillAll values expand n rest).map Prod.fst).map (literal ++ ·) := by
  rw [f.fillAll_cons h, fillPiece]
  dsimp only [bind, Except.bind]
  cases f.fillAll values expand n rest <;> rfl

theorem Formatting.fillAll_field {n' : FieldNumbers} {field : BraceField}
    {shown : Except (BraceFault E) Text}
    (h : bracePiece (c :: t) = some (⟨literal, some field⟩, rest))
    (hfield : f.fill values expand n field = shown.map (·, n')) :
    (f.fillAll values expand n (c :: t)).map Prod.fst =
      (do return (← shown) ++ (← (f.fillAll values expand n' rest).map Prod.fst)).map
        (literal ++ ·) := by
  rw [f.fillAll_cons h, fillPiece, hfield]
  cases shown with
  | error fault => rfl
  | ok s =>
    dsimp only [Except.map, bind, Except.bind, pure, Except.pure]
    cases f.fillAll values expand n' rest with
    | error fault => rfl
    | ok filled => exact congrArg Except.ok (List.append_assoc literal s filled.1)

end

/-- Values that are texts without quotes or anything else to be escaped, in formats that are empty or
a width behind the mark for right alignment. -/
def Formatting.ofText : Formatting Text Empty where
  str t := .ok t
  repr t := .ok ("'" ++ t ++ "'")
  ascii t := .ok ("'" ++ t ++ "'")
  format spec t := .ok (fitText [] ((Text.decimal? spec.tail).map Int.ofNat) none t)
  reach _ t := .ok t

end Refactory
