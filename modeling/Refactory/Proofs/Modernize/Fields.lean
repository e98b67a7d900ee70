import Refactory.Proofs.Modernize.Honest
import Refactory.Proofs.Modernize.Strings
import Refactory.Proofs.Render.Fields

/-! # Fields that templates bring

The arguments of a template that becomes a formatted string are simple, so they fit its fields. A
pass over templates leaves all fields fitting, if they were, exactly if no field holds a template:
one that does is given a formatted string inside another (`Expr.Formats`). -/

namespace Refactory

/-! ## Congruent and equal -/

theorem forall₂_eq {α : Type} {R : α → α → Prop} {as bs : List α} (h : List.Forall₂ R as bs)
    (heq : ∀ a ∈ as, ∀ b, R a b → b = a) : bs = as := by
  induction h with
  | nil => rfl
  | @cons a b as bs hab _ ih =>
    rw [List.forall_mem_cons] at heq
    rw [heq.1 b hab, ih heq.2]

/-- A congruent expression is equal if what is directly inside stays as it is. -/
theorem Expr.Congr.eq {R : Expr → Expr → Prop} {e e' : Expr} (h : Expr.Congr R e e')
    (heq : ∀ c ∈ e.children, ∀ c', R c c' → c' = c) : e' = e := by
  cases h with
  | @call func func' args args' keywords keywords' hfunc hargs hkeywords =>
    obtain ⟨hfirst, hvalues⟩ := List.forall_mem_append.1 heq
    obtain ⟨hfunc', hargs'⟩ := List.forall_mem_cons.1 hfirst
    rw [List.forall_mem_map] at hvalues
    rw [hfunc' _ hfunc, forall₂_eq hargs hargs', forall₂_eq hkeywords fun k hk k' hcongr => ?_]
    cases hcongr with
    | mk hvalue => exact congrArg (Keyword.mk _) (hvalues _ hk _ hvalue)
  | binary hleft hright =>
    rw [heq _ List.mem_cons_self _ hleft,
      heq _ (List.mem_cons_of_mem _ List.mem_cons_self) _ hright]
  | unary h => rw [heq _ List.mem_cons_self _ h]
  | logical h => rw [forall₂_eq h heq]
  | compare hleft hcomparators =>
    obtain ⟨hleft', hcomparators'⟩ := List.forall_mem_cons.1 heq
    rw [hleft' _ hleft, forall₂_eq hcomparators hcomparators']
  | «attribute» h => rw [heq _ List.mem_cons_self _ h]
  | subscript hvalue hindex =>
    rw [heq _ List.mem_cons_self _ hvalue,
      heq _ (List.mem_cons_of_mem _ List.mem_cons_self) _ hindex]
  | starred h => rw [heq _ List.mem_cons_self _ h]
  | tuple h => rw [forall₂_eq h heq]
  | list h => rw [forall₂_eq h heq]
  | dict hkeys hvalues =>
    obtain ⟨hkeys', hvalues'⟩ := List.forall_mem_append.1 heq
    rw [forall₂_eq hvalues hvalues', forall₂_eq hkeys fun k hk k' hrel => ?_]
    cases hrel with
    | none => rfl
    | some h => rw [hkeys' _ (List.mem_filterMap.2 ⟨_, hk, rfl⟩) _ h]
  | formatted h =>
    rw [forall₂_eq h fun p hp p' hcongr => ?_]
    cases hcongr with
    | text => rfl
    | field h => rw [heq _ (List.mem_filterMap.2 ⟨_, hp, rfl⟩) _ h]
  | name | string | number | truth | noneLiteral | captured => rfl

/-! ## Templates -/

/-- An expression holds a template that can become a formatted string. -/
def Expr.HasTemplate (e : Expr) : Prop :=
  ∃ n : Expr, n.Within e ∧ ∃ new, modernizeFormat n = .ok (some new)

/-- An expression holds a formatted string. -/
def Expr.HasFormatted (e : Expr) : Prop := ∃ parts, (Expr.formatted parts).Within e

/-- Whether an expression is a link of those that are simple. -/
def Expr.isLink : Expr → Bool
  | .number _ | .name _ | .attribute .. | .subscript .. => true
  | _ => false

theorem Expr.isLink_of_chain {e : Expr} (h : e.chain?.isSome = true) : e.All (·.isLink = true) := by
  fun_induction Expr.chain? e with
  | case1 id => exact Expr.all_leaf rfl rfl
  | case2 value attr ih =>
    rw [Option.isSome_map] at h
    exact Expr.all_iff.2 ⟨rfl, List.forall_mem_singleton.2 (ih h)⟩
  | case3 => cases h

theorem Expr.isLink_of_simple {e : Expr} (h : e.isSimple = true) : e.All (·.isLink = true) := by
  fun_induction Expr.isSimple e with
  | case1 => exact Expr.all_leaf rfl rfl
  | case2 value id ih | case3 value n ih =>
    exact Expr.all_iff.2 ⟨rfl, List.forall_mem_cons.2
      ⟨ih h, List.forall_mem_singleton.2 (Expr.all_leaf rfl rfl)⟩⟩
  | case4 => cases h
  | case5 e => exact Expr.isLink_of_chain h

/-- Whether an expression is neither a template nor a formatted string: a link, or what stands beside
the arguments of a template. -/
def Expr.isInert : Expr → Bool
  | .string _ | .tuple _ => true
  | e => e.isLink

theorem Expr.isInert_of_link {e : Expr} (h : e.isLink = true) : e.isInert = true := by
  cases e with
  | string | tuple => rfl
  | _ => exact h

theorem Expr.inert {e : Expr} (h : e.All (·.isInert = true)) : ¬ e.HasTemplate ∧ ¬ e.HasFormatted := by
  constructor
  · rintro ⟨n, hn, new, hnew⟩
    have hinert := h n hn
    cases n with
    | number | name | «attribute» | subscript | string | tuple => cases hnew
    | _ => cases hinert
  · rintro ⟨parts, hn⟩
    cases h _ hn

/-- Nothing inside a template is a template or a formatted string. -/
theorem template_children {node new : Expr} (h : modernizeFormat node = .ok (some new)) :
    ∀ c ∈ node.children, ¬ c.HasTemplate ∧ ¬ c.HasFormatted := by
  obtain ⟨parts, args, rfl, hfields, hsimple, hnode⟩ := modernizeFormat_some h
  have hargs : ∀ a ∈ args, a.All (·.isInert = true) := fun a ha =>
    (Expr.isLink_of_simple (List.all_eq_true.1 hsimple a ha)).mono fun _ => Expr.isInert_of_link
  intro c hc
  refine Expr.inert ?_
  cases hnode with
  | percent template =>
    rcases List.mem_cons.1 hc with rfl | hc
    · exact Expr.all_leaf rfl rfl
    · obtain rfl := List.mem_singleton.1 hc
      exact Expr.all_iff.2 ⟨rfl, hargs⟩
  | method template attr =>
    rw [Expr.children, List.map_nil, List.append_nil] at hc
    rcases List.mem_cons.1 hc with rfl | hc
    · exact Expr.all_iff.2 ⟨rfl, List.forall_mem_singleton.2 (Expr.all_leaf rfl rfl)⟩
    · exact hargs c hc

theorem Expr.hasTemplate_iff {e : Expr} : e.HasTemplate ↔
    (∃ new, modernizeFormat e = .ok (some new)) ∨ ∃ c ∈ e.children, c.HasTemplate := by
  simp only [Expr.HasTemplate, Expr.within_iff (e := e), or_and_right, exists_or, exists_eq_left]
  refine or_congr_right ⟨?_, ?_⟩
  · rintro ⟨n, ⟨c, hc, hn⟩, hf⟩
    exact ⟨c, hc, n, hn, hf⟩
  · rintro ⟨c, hc, n, hn, hf⟩
    exact ⟨n, ⟨c, hc, hn⟩, hf⟩

/-! ## Fields -/

/-- The values of the fields of a formatted string; nothing else has any. -/
def Expr.fields : Expr → List Expr
  | .formatted parts => fieldValues parts
  | _ => []

/-- Whether the names that an expression gives are bare. -/
def Expr.isBareNamed : Expr → Bool
  | .name id => decide id.Bare
  | .call _ _ keywords => keywords.all (·.arg.all fun name => decide name.Bare)
  | .attribute _ attr => decide attr.Bare
  | _ => true

/-- All fields of formatted strings hold what fits them. -/
def Expr.FieldsFit (e : Expr) : Prop := e.All fun n => ∀ v ∈ n.fields, v.FitsField

theorem Expr.fieldsFit_iff {e : Expr} :
    e.FieldsFit ↔ (∀ v ∈ e.fields, v.FitsField) ∧ ∀ c ∈ e.children, c.FieldsFit := Expr.all_iff

/-- No field of a formatted string holds a template. -/
def Expr.FieldsSettled (e : Expr) : Prop := e.All fun n => ∀ v ∈ n.fields, ¬ v.HasTemplate

theorem Expr.fieldsSettled_iff {e : Expr} :
    e.FieldsSettled ↔ (∀ v ∈ e.fields, ¬ v.HasTemplate) ∧ ∀ c ∈ e.children, c.FieldsSettled :=
  Expr.all_iff

theorem Expr.fields_subset {e v : Expr} (h : v ∈ e.fields) : ∃ parts, e = .formatted parts := by
  cases e with
  | formatted parts => exact ⟨parts, rfl⟩
  | _ => cases h

/-- A simple expression whose names are bare fits a field, and has none itself. -/
theorem Expr.fits_of_simple {e : Expr} (h : e.isSimple = true) (hnamed : e.All (·.isBareNamed = true)) :
    e.FitsField ∧ e.FieldsFit := by
  have hlink := Expr.isLink_of_simple h
  refine ⟨fun n hn => ?_, fun n hn v hv => ?_⟩
  · have hlink := hlink n hn
    have hnamed := hnamed n hn
    cases n with
    | number | subscript => rfl
    | name | «attribute» => exact hnamed
    | _ => cases hlink
  · obtain ⟨parts, rfl⟩ := Expr.fields_subset hv
    cases hlink _ hn

/-! ## A pass -/

/-- What becomes of an expression in a pass over templates, and of the fields in it. -/
structure Expr.Formats (e e' : Expr) : Prop where
  still : ¬ e.HasTemplate → e' = e
  named : e.All (·.isBareNamed = true) → e'.All (·.isBareNamed = true)
  formatted : e.HasFormatted ∨ e.HasTemplate → e'.HasFormatted
  fits : e.All (·.isBareNamed = true) → e.FieldsFit → (e'.FieldsFit ↔ e.FieldsSettled)

namespace Expr.Formats

variable {e node new : Expr}

/-- A node whose parts hold no template is given back. -/
theorem eq_of_settled (h : Expr.Congr Formats e node) (hno : ∀ c ∈ e.children, ¬ c.HasTemplate) :
    node = e := h.eq fun c hc _ hformats => hformats.still (hno c hc)

theorem children_named (h : Expr.Congr Formats e node) (he : e.All (·.isBareNamed = true)) :
    ∀ c ∈ node.children, c.All (·.isBareNamed = true) := by
  intro c' hc'
  obtain ⟨c, hc, hformats⟩ := forall₂_mem_right h.children hc'
  exact hformats.named ((Expr.all_iff.1 he).2 c hc)

theorem congr_named (h : Expr.Congr Formats e node) (he : e.isBareNamed = true) :
    node.isBareNamed = true := by
  cases h with
  | call hfunc hargs hkeywords =>
    rw [Expr.isBareNamed, List.all_eq_true] at he ⊢
    intro k' hk'
    obtain ⟨k, hk, hcongr⟩ := forall₂_mem_right hkeywords hk'
    cases hcongr
    have hkey := he _ hk
    exact hkey
  | name => exact he
  | «attribute» => exact he
  | _ => rfl

theorem congr_fields (h : Expr.Congr Formats e node) :
    List.Forall₂ Formats e.fields node.fields := by
  cases h with
  | formatted h => exact Piece.Congr.values h
  | _ => exact .nil

theorem children_formatted (h : Expr.Congr Formats e node)
    (he : ∃ c ∈ e.children, c.HasFormatted ∨ c.HasTemplate) : ∃ c ∈ node.children, c.HasFormatted := by
  obtain ⟨c, hc, hholds⟩ := he
  obtain ⟨c', hc', hformats⟩ := forall₂_mem_left h.children hc
  exact ⟨c', hc', hformats.formatted hholds⟩

/-- A field that fits goes on to fit exactly if it holds no template. -/
theorem field {v v' : Expr} (h : v.Formats v') (hfits : v.FitsField) :
    v'.FitsField ↔ ¬ v.HasTemplate := by
  constructor
  · intro hfits' htemplate
    obtain ⟨parts, hn⟩ := h.formatted (.inr htemplate)
    cases hfits' _ hn
  · intro hno
    rwa [h.still hno]

theorem keep (h : Expr.Congr Formats e node) (hnone : modernizeFormat node = .ok none) :
    e.Formats node where
  still hno := eq_of_settled h fun c hc htemplate =>
    hno (Expr.hasTemplate_iff.2 (.inr ⟨c, hc, htemplate⟩))
  named he := Expr.all_iff.2 ⟨congr_named h (he e .self), children_named h he⟩
  formatted := by
    rintro (⟨parts, hparts⟩ | htemplate)
    · rcases Expr.within_iff.1 hparts with rfl | ⟨c, hc, hn⟩
      · cases h
        exact ⟨_, .self⟩
      · obtain ⟨c', hc', parts', hn'⟩ := children_formatted h ⟨c, hc, .inl ⟨parts, hn⟩⟩
        exact ⟨parts', .inside hc' hn'⟩
    · rcases Expr.hasTemplate_iff.1 htemplate with ⟨new, hnew⟩ | ⟨c, hc, htemplate⟩
      · -- The parts of a template stay as they are, so the pass meets the template itself.
        rw [eq_of_settled h fun c hc => (template_children hnew c hc).1, hnew] at hnone
        cases hnone
      · obtain ⟨c', hc', parts', hn'⟩ := children_formatted h ⟨c, hc, .inr htemplate⟩
        exact ⟨parts', .inside hc' hn'⟩
  fits hnamed hfit := by
    rw [Expr.fieldsFit_iff, Expr.fieldsSettled_iff]
    obtain ⟨hown, hchildren⟩ := Expr.fieldsFit_iff.1 hfit
    refine and_congr ⟨fun hall v hv => ?_, fun hall v' hv' => ?_⟩
      ⟨fun hall c hc => ?_, fun hall c' hc' => ?_⟩
    · obtain ⟨v', hv', hformats⟩ := forall₂_mem_left (congr_fields h) hv
      exact (hformats.field (hown v hv)).1 (hall v' hv')
    · obtain ⟨v, hv, hformats⟩ := forall₂_mem_right (congr_fields h) hv'
      exact (hformats.field (hown v hv)).2 (hall v hv)
    · obtain ⟨c', hc', hformats⟩ := forall₂_mem_left h.children hc
      exact (hformats.fits ((Expr.all_iff.1 hnamed).2 c hc) (hchildren c hc)).1 (hall c' hc')
    · obtain ⟨c, hc, hformats⟩ := forall₂_mem_right h.children hc'
      exact (hformats.fits ((Expr.all_iff.1 hnamed).2 c hc) (hchildren c hc)).2 (hall c hc)

theorem replace (h : Expr.Congr Formats e node) (hsome : modernizeFormat node = .ok (some new)) :
    e.Formats new := by
  obtain ⟨parts, args, rfl, hfields, hsimple, hnode⟩ := modernizeFormat_some hsome
  rw [List.all_eq_true] at hsimple
  have hargs : e.All (·.isBareNamed = true) → ∀ a ∈ args, a.All (·.isBareNamed = true) :=
    fun he => hnode.args_all (children_named h he)
  exact {
    still := fun hno => by
      have heq := eq_of_settled h fun c hc htemplate =>
        hno (Expr.hasTemplate_iff.2 (.inr ⟨c, hc, htemplate⟩))
      rw [heq] at hsome
      exact (hno (Expr.hasTemplate_iff.2 (.inl ⟨_, hsome⟩))).elim
    named := fun he => Expr.all_iff.2 ⟨rfl, fun a ha => hargs he a ((hfields a).1 ha)⟩
    formatted := fun _ => ⟨parts, .self⟩
    fits := fun hnamed _ => by
      refine iff_of_true (Expr.fieldsFit_iff.2 ⟨fun a ha => ?_, fun a ha => ?_⟩) fun n hn v hv => ?_
      · have ha := (hfields a).1 ha
        exact (Expr.fits_of_simple (hsimple a ha) (hargs hnamed a ha)).1
      · have ha := (hfields a).1 ha
        exact (Expr.fits_of_simple (hsimple a ha) (hargs hnamed a ha)).2
      · -- A template holds no formatted string, and what became one was not there before.
        obtain ⟨parts', rfl⟩ := Expr.fields_subset hv
        rcases Expr.within_iff.1 hn with heq | ⟨c, hc, hn⟩
        · subst heq
          cases hnode <;> cases h
        · obtain ⟨c', hc', hholds⟩ := children_formatted h ⟨c, hc, .inl ⟨parts', hn⟩⟩
          exact ((template_children hsome c' hc').2 hholds).elim }

end Expr.Formats

theorem modernizeFormat_formats : Rewriter.Relates modernizeFormat Expr.Formats where
  keep hcongr hnone := .keep hcongr hnone
  replace hcongr hsome := .replace hcongr hsome

/-! ## Formatted strings as text -/

/-- The text of a part of a formatted string. That of the value of a field is bare exactly if the
value fits. -/
inductive Piece.Writes (mode : RenderMode) : Piece → Text → Prop
  | text {t : Text} : Writes mode (.text t) t.formattedLiteral
  | field {v : Expr} {conversion spec : Option Text} {t : Text}
    (h : place .disj (v.render mode .single) = .ok t) (hbare : t.Bare ↔ v.FitsField) :
    Writes mode (.field v conversion spec) (fieldText t conversion spec)

theorem Piece.render_writes {mode : RenderMode} {p : Piece} {text : Text}
    (hsupported : ∀ v ∈ p.value?, v.All (·.unsupported? = none))
    (h : p.render mode = .ok text) : p.Writes mode text := by
  cases p with
  | text t =>
    cases h
    exact .text
  | field v conversion spec =>
    have htells := (Expr.render_tells mode v (hsupported v rfl)).place .disj
    rw [Piece.render] at h
    cases hvalue : place .disj (v.render mode .single) with
    | error f =>
      rw [hvalue] at h
      cases h
    | ok t =>
      rw [hvalue] at h
      cases h
      exact .field hvalue (htells t hvalue)

theorem Piece.renderEach_writes {mode : RenderMode} {parts : List Piece} {texts : List Text}
    (hsupported : ∀ v ∈ fieldValues parts, v.All (·.unsupported? = none))
    (h : parts.map (Piece.render mode) = texts.map .ok) :
    List.Forall₂ (Piece.Writes mode) parts texts := by
  induction parts generalizing texts with
  | nil =>
    cases texts with
    | nil => exact .nil
    | cons t ts => cases h
  | cons p parts ih =>
    cases texts with
    | nil => cases h
    | cons t ts =>
      obtain ⟨hp, hrest⟩ := List.cons.inj h
      refine .cons (Piece.render_writes (fun v hv => hsupported v ?_) hp)
        (ih (fun v hv => hsupported v ?_) hrest)
      · exact List.mem_filterMap.2 ⟨p, List.mem_cons_self, hv⟩
      · obtain ⟨q, hq, hv⟩ := List.mem_filterMap.1 hv
        exact List.mem_filterMap.2 ⟨q, List.mem_cons_of_mem _ hq, hv⟩

theorem Expr.formatted_writes {parts : List Piece} {mode : RenderMode} {quote : Quote}
    {text : Text} {strength : Precedence}
    (hsupported : ∀ v ∈ fieldValues parts, v.All (·.unsupported? = none))
    (h : (Expr.formatted parts).render mode quote = .ok (text, strength)) :
    ∃ texts, text = "f\"" ++ texts.flatten ++ "\"" ∧
      List.Forall₂ (Piece.Writes mode) parts texts := by
  obtain ⟨texts, htexts, h⟩ := bind_ok.1 h
  cases h
  rw [Expr.renderPieces_map, inOrder, mapM_ok, List.map_id] at htexts
  exact ⟨texts, rfl, Piece.renderEach_writes hsupported htexts⟩

/-! ## Modules -/

/-- Every expression that a statement of a module holds itself satisfies `P`. -/
def Module.EachExpr (m : Module) (P : Expr → Prop) : Prop :=
  ∀ s ∈ Stmt.nodesIn m.body, ∀ e ∈ s.exprs, P e

theorem modernizeStrings_fields {m m' : Module} {count : Nat}
    (hnamed : m.EachExpr (·.All (·.isBareNamed = true))) (hfit : m.EachExpr Expr.FieldsFit)
    (h : modernizeStrings.perform m = (.ok count, m')) :
    m'.EachExpr Expr.FieldsFit ↔ m.EachExpr Expr.FieldsSettled := by
  obtain ⟨hresult, -⟩ := rewriteExprs_ok h
  have hcongr := Stmt.rewriteBlock_congr modernizeFormat_formats m.body m'.body hresult
  constructor
  · intro hall s hs e he
    obtain ⟨s', hs', hstmt⟩ := forall₂_mem_left hcongr hs
    obtain ⟨e', he', hformats⟩ := forall₂_mem_left hstmt.exprs he
    exact (hformats.fits (hnamed s hs e he) (hfit s hs e he)).1 (hall s' hs' e' he')
  · intro hall s' hs' e' he'
    obtain ⟨s, hs, hstmt⟩ := forall₂_mem_right hcongr hs'
    obtain ⟨e, he, hformats⟩ := forall₂_mem_right hstmt.exprs he'
    exact (hformats.fits (hnamed s hs e he) (hfit s hs e he)).2 (hall s hs e he)

/-- The text of each field of a formatted string without unsupported parts is bare exactly if the
value of the field fits. Where the names of a module are bare and all values fit their fields, they
do so after a pass over templates exactly if no field held a template. -/
theorem formatted_fields (mode : RenderMode) :
    (∀ (parts : List Piece) (quote : Quote) (text : Text) (strength : Precedence),
      (∀ v ∈ fieldValues parts, v.All (·.unsupported? = none)) →
      (Expr.formatted parts).render mode quote = .ok (text, strength) →
      ∃ texts, text = "f\"" ++ texts.flatten ++ "\"" ∧
        List.Forall₂ (Piece.Writes mode) parts texts) ∧
    ∀ (m m' : Module) (count : Nat), m.EachExpr (·.All (·.isBareNamed = true)) →
      m.EachExpr Expr.FieldsFit → modernizeStrings.perform m = (.ok count, m') →
      (m'.EachExpr Expr.FieldsFit ↔ m.EachExpr Expr.FieldsSettled) :=
  ⟨fun _ _ _ _ hsupported h => Expr.formatted_writes hsupported h,
    fun _ _ _ hnamed hfit h => modernizeStrings_fields hnamed hfit h⟩

/-- A field that holds a string, and a template whose argument becomes a field. -/
theorem formatted_fields_sample :
    let parts : List Piece := [.field (.subscript (.name "x") (.string "a")) none none]
    let m : Module := ⟨[.expr (.formatted parts) none,
      .expr (.binary (.string "%s") .mod (.tuple [.name "y"])) none]⟩
    (∃ texts, Text.ofString "f\"\x7bx['a']\x7d\"" = "f\"" ++ texts.flatten ++ "\"" ∧
      List.Forall₂ (Piece.Writes .strict) parts texts) ∧
    ∃ count m', modernizeStrings.perform m = (.ok count, m') ∧ m'.EachExpr Expr.FieldsFit := by
  intro parts m
  have hall : ∀ {P : Expr → Prop}, P (.subscript (.name "x") (.string "a")) → P (.name "x") →
      P (.string "a") → (Expr.subscript (.name "x") (.string "a")).All P :=
    fun hsubscript hname hstring => Expr.all_iff.2 ⟨hsubscript, List.forall_mem_cons.2
      ⟨Expr.all_leaf hname rfl, List.forall_mem_singleton.2 (Expr.all_leaf hstring rfl)⟩⟩
  have heach : ∀ {P : Expr → Prop}, P (.formatted parts) →
      (Expr.subscript (.name "x") (.string "a")).All P →
      P (.binary (.string "%s") .mod (.tuple [.name "y"])) → P (.string "%s") →
      P (.tuple [.name "y"]) → P (.name "y") → m.EachExpr (·.All P) := by
    intro P hformatted hvalue hbinary hstring htuple hname
    refine List.forall_mem_cons.2 ⟨List.forall_mem_singleton.2 (Expr.all_iff.2
      ⟨hformatted, List.forall_mem_singleton.2 hvalue⟩), List.forall_mem_singleton.2
      (List.forall_mem_singleton.2 (Expr.all_iff.2 ⟨hbinary, ?_⟩))⟩
    exact List.forall_mem_cons.2 ⟨Expr.all_leaf hstring rfl, List.forall_mem_singleton.2
      (Expr.all_iff.2 ⟨htuple, List.forall_mem_singleton.2 (Expr.all_leaf hname rfl)⟩)⟩
  have hnamed : m.EachExpr (·.All (·.isBareNamed = true)) := by
    refine heach rfl (hall rfl ?_ rfl) rfl rfl rfl ?_ <;> decide
  have hfit : m.EachExpr Expr.FieldsFit :=
    heach (List.forall_mem_singleton.2 (hall rfl (by decide) (by decide)))
      (hall (List.forall_mem_nil _) (List.forall_mem_nil _) (List.forall_mem_nil _))
      (List.forall_mem_nil _) (List.forall_mem_nil _) (List.forall_mem_nil _) (List.forall_mem_nil _)
  have hsettled : m.EachExpr Expr.FieldsSettled :=
    heach (List.forall_mem_singleton.2 (Expr.inert (hall rfl rfl rfl)).1)
      (hall (List.forall_mem_nil _) (List.forall_mem_nil _) (List.forall_mem_nil _))
      (List.forall_mem_nil _) (List.forall_mem_nil _) (List.forall_mem_nil _) (List.forall_mem_nil _)
  obtain ⟨htext, hpass⟩ := formatted_fields .strict
  exact ⟨htext parts .double _ .atom (List.forall_mem_singleton.2 (hall rfl rfl rfl)) rfl,
    1, _, rfl, (hpass m _ 1 hnamed hfit rfl).2 hsettled⟩

/-- A formatted string in a field of another is delimited as that is. A template in a field, which
fits as it stands, becomes one. -/
theorem formatted_in_field :
    let inner : Expr := .formatted [.field (.name "x") none none]
    let m : Module :=
      ⟨[.expr (.formatted [.field (.binary (.string "%s") .mod (.tuple [.name "x"])) none none]) none]⟩
    (Expr.formatted [.field inner none none]).render .strict .double =
      .ok ("f\"\x7bf\"\x7bx\x7d\"\x7d\"", .atom) ∧
    place .disj (inner.render .strict .single) = .ok "f\"\x7bx\x7d\"" ∧
    ¬ Text.Bare "f\"\x7bx\x7d\"" ∧
    m.EachExpr Expr.FieldsFit ∧
    modernizeStrings.perform m = (.ok 1, ⟨[.expr (.formatted [.field inner none none]) none]⟩) := by
  refine ⟨rfl, rfl, by decide, ?_, rfl⟩
  have hfits : (Expr.binary (.string "%s") .mod (.tuple [.name "x"])).FitsField :=
    Expr.all_iff.2 ⟨rfl, List.forall_mem_cons.2 ⟨Expr.all_leaf (by decide) rfl,
      List.forall_mem_singleton.2 (Expr.all_iff.2 ⟨rfl, List.forall_mem_singleton.2
        (Expr.all_leaf (by decide) rfl)⟩)⟩⟩
  have hinside : (Expr.binary (.string "%s") .mod (.tuple [.name "x"])).FieldsFit :=
    fun n hn v hv => by
      obtain ⟨parts, rfl⟩ := Expr.fields_subset hv
      cases hfits _ hn
  exact List.forall_mem_singleton.2 (List.forall_mem_singleton.2 (Expr.fieldsFit_iff.2
    ⟨List.forall_mem_singleton.2 hfits, List.forall_mem_singleton.2 hinside⟩))

end Refactory
