import Refactory.Modernize.Strings
import Refactory.Modernize.Version
import Refactory.Proofs.Tree.Names

/-! # Templates keep what they mention

The fields of a formatted string that takes the place of a template hold exactly the arguments of the
template. So a pass over templates settles (`modernizeFormat_settles`), and what it gives refines what
it was given (`Expr.Refines`): it is as sound, mentions all the names, and holds no lookup that was not
there before. -/

namespace Refactory

/-! ## Fields -/

/-- The values of the fields of a formatted string. -/
def fieldValues (parts : List Piece) : List Expr := parts.filterMap Piece.value?

@[simp] theorem fieldValues_nil : fieldValues [] = [] := rfl

@[simp] theorem fieldValues_text (t : Text) (parts : List Piece) :
    fieldValues (.text t :: parts) = fieldValues parts := rfl

@[simp] theorem fieldValues_field (e : Expr) (conversion spec : Option Text) (parts : List Piece) :
    fieldValues (.field e conversion spec :: parts) = e :: fieldValues parts := rfl

theorem fieldValues_mergeText (parts : List Piece) :
    fieldValues (mergeText parts) = fieldValues parts := by
  fun_induction mergeText parts with
  | case1 => rfl
  | case2 t rest _ ih => rw [ih, fieldValues_text]
  | case3 t rest _ u others heq ih =>
    rw [heq, fieldValues_text] at ih
    rw [fieldValues_text, fieldValues_text, ih]
  | case4 t rest _ _ ih => rw [fieldValues_text, fieldValues_text, ih]
  | case5 p rest _ ih =>
    unfold fieldValues at ih ⊢
    rw [List.filterMap_cons, List.filterMap_cons, ih]

/-- All arguments of a percent template are used, in order. -/
theorem fieldValues_percentParts {pieces : List PercentPiece} {args : List Expr}
    {parts : List Piece} (h : percentParts pieces args = some parts) :
    fieldValues parts = args := by
  fun_induction percentParts pieces args generalizing parts with
  | case1 =>
    cases h
    rfl
  | case2 => cases h
  | case3 => cases h
  | case4 t rest args _ ih =>
    obtain ⟨others, hothers, rfl⟩ := Option.map_eq_some_iff.1 h
    rw [fieldValues_text, ih hothers]
  | case5 rest args ih =>
    obtain ⟨others, hothers, rfl⟩ := Option.map_eq_some_iff.1 h
    rw [fieldValues_text, ih hothers]
  | case6 c rest _ conversion a args _ ih =>
    obtain ⟨others, hothers, rfl⟩ := Option.map_eq_some_iff.1 h
    rw [fieldValues_field, ih hothers]
  | case7 => cases h

/-! ## Brace templates -/

namespace Numbering

variable {n n' : Numbering} {name : Text} {i count : Nat}

theorem resolve_nil :
    n.resolve [] count = .ok (some (i, n')) ↔
      i = n.next ∧ i < count ∧ n.manual = false ∧
        n' = { n with auto := true, next := n.next + 1, referenced := i :: n.referenced } := by
  unfold resolve
  dsimp only
  rw [List.isEmpty_nil, if_pos rfl, Except.ok.injEq, Option.ite_none_left_eq_some,
    Option.some.injEq, Prod.mk.injEq, Bool.true_and, Bool.or_eq_true, decide_eq_true_iff, not_or,
    Bool.not_eq_true, Nat.not_le]
  constructor
  · rintro ⟨⟨hmanual, hi⟩, rfl, rfl⟩
    exact ⟨rfl, hi, hmanual, rfl⟩
  · rintro ⟨rfl, hi, hmanual, rfl⟩
    exact ⟨⟨hmanual, hi⟩, rfl, rfl⟩

theorem resolve_written (hname : name ≠ []) :
    n.resolve name count = .ok (some (i, n')) ↔
      name.isDigits = true ∧ readDigits name = .ok i ∧ i < count ∧ n.auto = false ∧
        n' = { n with manual := true, referenced := i :: n.referenced } := by
  unfold resolve
  dsimp only
  rw [if_neg (by simpa using hname)]
  cases name.isDigits with
  | false => simp
  | true =>
    rw [if_pos rfl]
    cases readDigits name with
    | error fault => simp
    | ok index =>
      dsimp only
      rw [Except.ok.injEq, Option.ite_none_left_eq_some, Option.some.injEq, Prod.mk.injEq,
        Bool.and_true, Bool.or_eq_true, decide_eq_true_iff, not_or, Bool.not_eq_true, Nat.not_le,
        Except.ok.injEq]
      constructor
      · rintro ⟨⟨hauto, hi⟩, rfl, rfl⟩
        exact ⟨rfl, rfl, hi, hauto, rfl⟩
      · rintro ⟨-, rfl, hi, hauto, rfl⟩
        exact ⟨⟨hauto, hi⟩, rfl, rfl⟩

theorem resolve_referenced (h : n.resolve name count = .ok (some (i, n'))) :
    n'.referenced = i :: n.referenced := by
  by_cases hname : name = []
  · subst hname
    obtain ⟨rfl, -, -, rfl⟩ := resolve_nil.1 h
    rfl
  · obtain ⟨-, -, -, -, rfl⟩ := (resolve_written hname).1 h
    rfl

end Numbering

/-- A field with one of the three conversions to text, or with none, and with a literal format. -/
structure BraceField.IsPlain (field : BraceField) : Prop where
  conversion : ∀ c ∈ field.conversion, c = 's' ∨ c = 'r' ∨ c = 'a'
  opening : CodePoint.scalar '{' ∉ field.spec
  closing : CodePoint.scalar '}' ∉ field.spec

/-- The part that a plain field becomes. -/
def BraceField.part (field : BraceField) (a : Expr) : Piece :=
  .field a (field.conversion.map ([·])) (if field.spec.isEmpty then none else some field.spec)

theorem BraceField.isPlain_iff {field : BraceField} :
    field.IsPlain ↔ fieldConversion field.conversion = some (field.conversion.map ([·])) ∧
      isPlainSpec field.spec = true := by
  have hconversion : (∀ c ∈ field.conversion, c = 's' ∨ c = 'r' ∨ c = 'a') ↔
      fieldConversion field.conversion = some (field.conversion.map ([·])) := by
    unfold fieldConversion
    split
    · simp_all
    · rename_i c hc
      simp [hc, or_iff_not_imp_left]
  have hspec : isPlainSpec field.spec = true ↔
      CodePoint.scalar '{' ∉ field.spec ∧ CodePoint.scalar '}' ∉ field.spec := by
    simp [isPlainSpec]
  rw [← hconversion, hspec]
  exact ⟨fun h => ⟨h.conversion, h.opening, h.closing⟩, fun h => ⟨h.1, h.2.1, h.2.2⟩⟩

theorem fieldConversion_some {c : Option CodePoint} {conversion : Option Text}
    (h : fieldConversion c = some conversion) : conversion = c.map ([·]) := by
  unfold fieldConversion at h
  split at h
  · cases h
    rfl
  · rw [Option.ite_none_right_eq_some, Option.some.injEq] at h
    exact h.2.symm

theorem formatParts_nil {args : List Expr} {n : Numbering} {parts : List Piece} :
    formatParts args n [] = .ok (some parts) ↔
      (∀ i : Fin args.length, i.val ∈ n.referenced) ∧ parts = [] := by
  rw [formatParts, Except.ok.injEq, Option.ite_none_right_eq_some, Option.some.injEq,
    List.all_eq_true]
  constructor
  · rintro ⟨hall, rfl⟩
    exact ⟨fun i => List.contains_iff_mem.1 (hall i (List.mem_range.2 i.isLt)), rfl⟩
  · rintro ⟨hall, rfl⟩
    exact ⟨fun i hi => List.contains_iff_mem.2 (hall ⟨i, List.mem_range.1 hi⟩), rfl⟩

theorem formatParts_text {args : List Expr} {n : Numbering} {literal : Text}
    {rest : List BracePiece} {parts : List Piece} :
    formatParts args n (⟨literal, none⟩ :: rest) = .ok (some parts) ↔
      ∃ others, formatParts args n rest = .ok (some others) ∧ parts = .text literal :: others := by
  rw [formatParts, bind_ok]
  constructor
  · rintro ⟨found, hrest, h⟩
    obtain ⟨others, rfl, rfl⟩ := Option.map_eq_some_iff.1 (Except.ok.inj h)
    exact ⟨others, hrest, rfl⟩
  · rintro ⟨others, hrest, rfl⟩
    exact ⟨some others, hrest, rfl⟩

theorem formatParts_field {args : List Expr} {n : Numbering} {literal : Text} {field : BraceField}
    {rest : List BracePiece} {parts : List Piece} :
    formatParts args n (⟨literal, some field⟩ :: rest) = .ok (some parts) ↔
      field.IsPlain ∧ ∃ (i : Fin args.length) (n' : Numbering) (others : List Piece),
        n.resolve field.name args.length = .ok (some (i.val, n')) ∧
        formatParts args n' rest = .ok (some others) ∧
        parts = .text literal :: field.part (args.get i) :: others := by
  rw [formatParts, bind_ok]
  constructor
  · rintro ⟨resolved, hresolve, h⟩
    split at h
    · rename_i i n' conversion hconversion
      split at h
      · rename_i a hspec ha
        obtain ⟨found, hrest, h⟩ := bind_ok.1 h
        obtain ⟨others, rfl, rfl⟩ := Option.map_eq_some_iff.1 (Except.ok.inj h)
        cases fieldConversion_some hconversion
        obtain ⟨hi, rfl⟩ := List.getElem?_eq_some_iff.1 ha
        have hplain := BraceField.isPlain_iff.2 ⟨hconversion, hspec⟩
        exact ⟨hplain, ⟨i, hi⟩, n', others, hresolve, hrest, rfl⟩
      · cases h
    · cases h
  · rintro ⟨hplain, i, n', others, hresolve, hrest, rfl⟩
    obtain ⟨hconversion, hspec⟩ := BraceField.isPlain_iff.1 hplain
    refine ⟨_, hresolve, ?_⟩
    rw [hconversion, hspec]
    dsimp only
    rw [List.getElem?_eq_getElem i.isLt]
    dsimp only
    rw [hrest]
    rfl

/-- The fields of a brace template hold arguments, and every argument that has not been referred to
before. -/
theorem fieldValues_formatParts {args : List Expr} {n : Numbering} {pieces : List BracePiece}
    {parts : List Piece} (h : formatParts args n pieces = .ok (some parts)) :
    (∀ e ∈ fieldValues parts, e ∈ args) ∧
      ∀ i : Fin args.length, i.val ∈ n.referenced ∨ args.get i ∈ fieldValues parts := by
  induction pieces generalizing n parts with
  | nil =>
    obtain ⟨hall, rfl⟩ := formatParts_nil.1 h
    exact ⟨fun e he => absurd he List.not_mem_nil, fun i => .inl (hall i)⟩
  | cons piece rest ih =>
    obtain ⟨literal, field⟩ := piece
    cases field with
    | none =>
      obtain ⟨others, hrest, rfl⟩ := formatParts_text.1 h
      rw [fieldValues_text]
      exact ih hrest
    | some field =>
      obtain ⟨-, i, n', others, hresolve, hrest, rfl⟩ := formatParts_field.1 h
      obtain ⟨hargs, hall⟩ := ih hrest
      rw [fieldValues_text, BraceField.part, fieldValues_field]
      refine ⟨List.forall_mem_cons.2 ⟨List.get_mem args i, hargs⟩, fun j => ?_⟩
      rcases hall j with hreferenced | hfield
      · rw [Numbering.resolve_referenced hresolve, List.mem_cons, Fin.val_inj] at hreferenced
        rcases hreferenced with rfl | hreferenced
        · exact .inr List.mem_cons_self
        · exact .inl hreferenced
      · exact .inr (List.mem_cons_of_mem _ hfield)

theorem formatToPieces_some {template : Text} {args : List Expr} {parts : List Piece} :
    formatToPieces template args = .ok (some parts) ↔
      ∃ pieces raw, braceTemplate template = some pieces ∧
        formatParts args {} pieces = .ok (some raw) ∧ parts = mergeText raw := by
  unfold formatToPieces
  constructor
  · intro h
    split at h
    · cases h
    · rename_i pieces hpieces
      obtain ⟨found, hraw, h⟩ := bind_ok.1 h
      obtain ⟨raw, rfl, rfl⟩ := Option.map_eq_some_iff.1 (Except.ok.inj h)
      exact ⟨pieces, raw, hpieces, hraw, rfl⟩
  · rintro ⟨pieces, raw, hpieces, hraw, rfl⟩
    rw [hpieces]
    dsimp only
    rw [hraw]
    rfl

/-! ## Rewriting -/

/-- An expression that fills a template in with these arguments: the percent operator on a tuple of them,
or a call of an attribute of the template. -/
inductive Expr.Fills (args : List Expr) : Expr → Prop
  | percent (template : Text) : Fills args (.binary (.string template) .mod (.tuple args))
  | method (template attr : Text) : Fills args (.call (.attribute (.string template) attr) args [])

namespace Expr.Fills

variable {args : List Expr} {node : Expr}

theorem args_all {P : Expr → Prop} (h : node.Fills args) (hP : ∀ c ∈ node.children, c.All P) :
    ∀ a ∈ args, a.All P := by
  intro a ha
  cases h with
  | percent template => exact (Expr.all_iff.1 (hP (.tuple args) (by simp [Expr.children]))).2 a ha
  | method template attr => exact hP a (by simp [Expr.children, ha])

/-- Besides the arguments there is only the template inside, which mentions nothing. -/
theorem mentions (h : node.Fills args) {x : Text}
    (hx : ∃ n : Expr, n.Within node ∧ x ∈ n.mentions) :
    ∃ a ∈ args, ∃ n : Expr, n.Within a ∧ x ∈ n.mentions := by
  obtain ⟨n, hn, hx⟩ := hx
  cases h with
  | percent template =>
    rcases Expr.within_iff.1 hn with rfl | ⟨c, hc, hn⟩
    · cases hx
    · have hc : c = .string template ∨ c = .tuple args := by simpa [Expr.children] using hc
      rcases hc with rfl | rfl <;> rcases Expr.within_iff.1 hn with rfl | ⟨a, ha, hn⟩
      · cases hx
      · cases ha
      · cases hx
      · exact ⟨a, ha, n, hn, hx⟩
  | method template attr =>
    rcases Expr.within_iff.1 hn with rfl | ⟨c, hc, hn⟩
    · cases hx
    · have hc : c = .attribute (.string template) attr ∨ c ∈ args := by
        simpa [Expr.children] using hc
      rcases hc with rfl | hc
      · rcases Expr.within_iff.1 hn with rfl | ⟨t, ht, hn⟩
        · cases hx
        · cases List.mem_singleton.1 ht
          rcases Expr.within_iff.1 hn with rfl | ⟨_, hnone, _⟩
          · cases hx
          · cases hnone
      · exact ⟨c, hc, n, hn, hx⟩

end Expr.Fills

/-- What a template becomes: a formatted string whose fields hold the arguments of the template, which
are simple. -/
theorem modernizeFormat_some {node new : Expr} (h : modernizeFormat node = .ok (some new)) :
    ∃ parts args, new = .formatted parts ∧ (∀ e, e ∈ fieldValues parts ↔ e ∈ args) ∧
      args.all Expr.isSimple = true ∧ node.Fills args := by
  unfold modernizeFormat at h
  split at h
  · rename_i template args
    rw [Except.ok.injEq, Option.ite_none_right_eq_some, Option.map_eq_some_iff] at h
    obtain ⟨hsimple, parts, hparts, rfl⟩ := h
    obtain ⟨raw, hraw, rfl⟩ := Option.map_eq_some_iff.1 hparts
    refine ⟨_, args, rfl, fun e => ?_, hsimple, .percent template⟩
    rw [fieldValues_mergeText, fieldValues_percentParts hraw]
  · rename_i template attr args
    split at h
    · rename_i hsimple
      obtain ⟨found, hfound, h⟩ := bind_ok.1 h
      obtain ⟨parts, rfl, rfl⟩ := Option.map_eq_some_iff.1 (Except.ok.inj h)
      obtain ⟨pieces, raw, -, hraw, rfl⟩ := formatToPieces_some.1 hfound
      obtain ⟨hargs, hall⟩ := fieldValues_formatParts hraw
      refine ⟨_, args, rfl, fun e => ?_, hsimple.2, .method template attr⟩
      rw [fieldValues_mergeText]
      refine ⟨hargs e, fun he => ?_⟩
      obtain ⟨i, rfl⟩ := List.get_of_mem he
      exact (hall i).resolve_left List.not_mem_nil
    · cases h
  · cases h

/-- The arguments of a template lie inside the node. -/
theorem modernizeFormat_settles : Rewriter.Settles modernizeFormat := by
  intro node new h hchildren
  obtain ⟨parts, args, rfl, hfields, -, hnode⟩ := modernizeFormat_some h
  exact Expr.all_iff.2 ⟨⟨rfl, rfl⟩, fun e he => hnode.args_all hchildren e ((hfields e).1 he)⟩

theorem lookupCall_settles (callers : List Text) (function : Text) :
    Rewriter.Settles fun e => .ok (lookupCall callers function e) := by
  intro node new h hchildren
  rw [Except.ok.injEq, lookupCall, Option.map_eq_some_iff] at h
  obtain ⟨argument, hargument, rfl⟩ := h
  unfold versionArgument? at hargument
  split at hargument
  · rename_i id argument' attr
    rw [Option.ite_none_right_eq_some, Option.some.injEq] at hargument
    obtain ⟨-, rfl⟩ := hargument
    have hcall := hchildren (.call (.name id) [argument'] []) (by simp [Expr.children])
    have hrest := (Expr.all_iff.1 hcall).2 argument' (by simp [Expr.children])
    refine Expr.all_iff.2 ⟨⟨rfl, rfl⟩, fun c hc => ?_⟩
    have hc : c = .name function ∨ c = argument' := by simpa [Expr.children] using hc
    rcases hc with rfl | rfl
    · exact Expr.all_iff.2 ⟨⟨rfl, rfl⟩, by simp [Expr.children]⟩
    · exact hrest
  · cases hargument

/-! ## What strings keep -/

/-- What an expression becomes is as sound, mentions all its names and holds no new lookup; plain
names, strings, lists of strings and calls of plain names can be told as before. -/
structure Expr.Refines (e e' : Expr) : Prop where
  sound : e.All (·.isSound = true) → e'.All (·.isSound = true)
  mentions : ∀ x, (∃ n : Expr, n.Within e ∧ x ∈ n.mentions) → ∃ n : Expr, n.Within e' ∧ x ∈ n.mentions
  lookup : ∀ callers, (e.All fun n => versionArgument? callers n = none) →
    e'.All fun n => versionArgument? callers n = none
  name : ∀ id, e = .name id ↔ e' = .name id
  string : ∀ value, e = .string value → e' = .string value
  listed : ∀ x ∈ e.listedStrings, x ∈ e'.listedStrings
  call : ∀ id a', e' = .call (.name id) [a'] [] → ∃ a, e = .call (.name id) [a] []

namespace Expr.Refines

variable {e node : Expr}

theorem children_mentions (h : Expr.Congr Refines e node) {x : Text}
    (hx : ∃ c ∈ e.children, ∃ n : Expr, n.Within c ∧ x ∈ n.mentions) :
    ∃ c ∈ node.children, ∃ n : Expr, n.Within c ∧ x ∈ n.mentions := by
  obtain ⟨c, hc, hx⟩ := hx
  obtain ⟨c', hc', hrefines⟩ := forall₂_mem_left h.children hc
  exact ⟨c', hc', hrefines.mentions x hx⟩

/-- A congruent node is a lookup only if the expression is. -/
theorem congr_lookup (h : Expr.Congr Refines e node) {callers : List Text}
    (he : versionArgument? callers e = none) : versionArgument? callers node = none := by
  cases hnode : versionArgument? callers node with
  | none => rfl
  | some argument =>
    unfold versionArgument? at hnode
    split at hnode
    · rename_i id argument' attr
      cases h with
      | «attribute» h =>
        obtain ⟨a, rfl⟩ := h.call id argument' rfl
        rw [Option.ite_none_right_eq_some] at hnode
        rw [versionArgument?, if_pos hnode.1] at he
        cases he
    · cases hnode

theorem congr_listed (h : Expr.Congr Refines e node) : ∀ x ∈ e.listedStrings, x ∈ node.listedStrings := by
  have helements : ∀ {es es' : List Expr}, List.Forall₂ Refines es es' → ∀ x,
      .string x ∈ es → Expr.string x ∈ es' := by
    intro es es' hes x hx
    obtain ⟨e', he', hrefines⟩ := forall₂_mem_left hes hx
    exact hrefines.string x rfl ▸ he'
  have hmem : ∀ (es : List Expr) (x : Text), x ∈ (Expr.list es).listedStrings ↔ Expr.string x ∈ es := by
    intro es x
    rw [Expr.listedStrings, List.mem_filterMap]
    constructor
    · rintro ⟨e, he, hx⟩
      split at hx
      · cases hx
        exact he
      · cases hx
    · exact fun hx => ⟨_, hx, rfl⟩
  cases h with
  | list h => exact fun x hx => (hmem _ x).2 (helements h x ((hmem _ x).1 hx))
  | tuple h => exact fun x hx => (hmem _ x).2 (helements h x ((hmem _ x).1 hx))
  | _ => simp [Expr.listedStrings]

theorem keep (h : Expr.Congr Refines e node) : e.Refines node where
  sound he := Expr.all_iff.2 ⟨h.isSound (he e .self), h.children_all (fun h => h.sound) he⟩
  mentions x := by
    rintro ⟨n, hn, hx⟩
    rcases Expr.within_iff.1 hn with rfl | hn
    · refine ⟨node, .self, ?_⟩
      cases h <;> simp_all [Expr.mentions]
    · obtain ⟨c, hc, n, hn, hx⟩ := children_mentions h ⟨_, hn.choose_spec.1, n, hn.choose_spec.2, hx⟩
      exact ⟨n, .inside hc hn, hx⟩
  lookup callers he := Expr.all_iff.2 ⟨congr_lookup h (he e .self),
    h.children_all (fun h => h.lookup callers) he⟩
  name id := by
    constructor <;> rintro rfl <;> cases h <;> rfl
  string value := by
    rintro rfl
    cases h
    rfl
  listed := congr_listed h
  call id a' := by
    rintro rfl
    cases h with
    | call hfunc hargs hkeywords =>
      cases hkeywords
      cases hargs with
      | cons ha hrest =>
        cases hrest
        cases (hfunc.name id).2 rfl
        exact ⟨_, rfl⟩

theorem replace {new : Expr} (h : Expr.Congr Refines e node)
    (hnew : modernizeFormat node = .ok (some new)) : e.Refines new := by
  obtain ⟨parts, args, rfl, hfields, -, hnode⟩ := modernizeFormat_some hnew
  have hall : ∀ {P : Expr → Prop}, P (.formatted parts) → (∀ c ∈ node.children, c.All P) →
      (Expr.formatted parts).All P := by
    intro P hP hchildren
    exact Expr.all_iff.2 ⟨hP, fun a ha => hnode.args_all hchildren a ((hfields a).1 ha)⟩
  have hshape : e.mentions = [] ∧ e.listedStrings = [] ∧ (∀ id, e ≠ .name id) ∧
      ∀ value, e ≠ .string value := by
    cases hnode <;> cases h <;> simp [Expr.mentions, Expr.listedStrings]
  obtain ⟨hnone, hlisted, hname, hstring⟩ := hshape
  exact {
    sound := fun he => hall rfl (h.children_all (fun h => h.sound) he)
    mentions := by
      rintro x ⟨n, hn, hx⟩
      rcases Expr.within_iff.1 hn with rfl | ⟨c, hc, hn⟩
      · rw [hnone] at hx
        cases hx
      · obtain ⟨c', hc', n', hn', hx'⟩ := children_mentions h ⟨c, hc, n, hn, hx⟩
        obtain ⟨a, ha, n, hn, hx⟩ := hnode.mentions ⟨n', .inside hc' hn', hx'⟩
        exact ⟨n, .inside ((hfields a).2 ha) hn, hx⟩
    lookup := fun callers he => hall rfl (h.children_all (fun h => h.lookup callers) he)
    name := fun id => ⟨fun heq => absurd heq (hname id), fun heq => by cases heq⟩
    string := fun value heq => absurd heq (hstring value)
    listed := by simp [hlisted]
    call := fun _ _ heq => by cases heq }

end Expr.Refines

theorem modernizeFormat_relates : Rewriter.Relates modernizeFormat Expr.Refines where
  keep hcongr _ := .keep hcongr
  replace hcongr hsome := .replace hcongr hsome

/-! ## Statements -/

theorem Stmt.Congr.quotedUses {s s' : Stmt} (h : Stmt.Congr Expr.Refines s s') :
    ∀ x ∈ s.quotedUses, x ∈ s'.quotedUses := by
  have hquoted : ∀ {e e' : Expr}, e.Refines e' → ∀ x ∈ e.quotedNames, x ∈ e'.quotedNames := by
    intro e e' hrefines x hx
    cases e with
    | string value => rwa [hrefines.string value rfl]
    | _ => cases hx
  cases h with
  | function h =>
    have hhints := forall₂_filterMap_id (Param.Congr.hints h.params)
    rw [List.filterMap_map, List.filterMap_map] at hhints
    intro x hx
    rw [Stmt.quotedUses, List.mem_flatMap] at hx ⊢
    obtain ⟨e, he, hx⟩ := hx
    obtain ⟨e', he', hrefines⟩ := forall₂_mem_left
      (List.rel_append hhints (forall₂_toList h.returns)) he
    exact ⟨e', he', hquoted hrefines x hx⟩
  | @assign targets targets' value value' location htargets hvalue =>
    intro x hx
    by_cases hname : ∃ id, targets = [.name id]
    · obtain ⟨id, rfl⟩ := hname
      cases htargets with
      | cons htarget hrest =>
        cases hrest
        cases (htarget.name id).1 rfl
        simp only [Stmt.quotedUses] at hx ⊢
        split at hx
        · rename_i hall
          rw [if_pos hall]
          exact hvalue.listed x hx
        · cases hx
    · unfold Stmt.quotedUses at hx
      split at hx
      · rename_i heq
        cases heq
        exact (hname ⟨_, rfl⟩).elim
      · rename_i heq
        cases heq
      · cases hx
  | _ => simp [Stmt.quotedUses]

/-- A statement becomes one that is as sound, if its expressions do. -/
theorem Stmt.Congr.sound {R : Expr → Expr → Prop}
    (hR : ∀ {e e' : Expr}, R e e' → e.All (·.isSound = true) → e'.All (·.isSound = true))
    {s s' : Stmt} (h : Stmt.Congr R s s') (hs : s.Sound) : s'.Sound := by
  refine ⟨h.isNode, fun e' he' => ?_⟩
  obtain ⟨e, he, hrel⟩ := forall₂_mem_right h.exprs he'
  exact hR hrel (hs.exprs e he)

/-- A statement becomes one that mentions as much. -/
theorem Stmt.Congr.mentions {s s' : Stmt} (h : Stmt.Congr Expr.Refines s s') {x : Text}
    (hx : s.Mentions x) : s'.Mentions x := by
  rcases hx with ⟨e, he, hx⟩ | hx | hx
  · obtain ⟨e', he', hrefines⟩ := forall₂_mem_left h.exprs he
    exact .inl ⟨e', he', hrefines.mentions x hx⟩
  · exact .inr (.inl (h.quotedUses x hx))
  · refine .inr (.inr ?_)
    cases h <;> exact hx

end Refactory
