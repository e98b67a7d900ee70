import Refactory.Proofs.Build.Ensures
import Refactory.Proofs.Grammar.Unwritable

/-! # Terms that are read are whole

A comparison has as many operators as operands behind them, and a dictionary as many keys as values,
in every term that is read (`readers_whole`). `Reader.Gives` is handed on along the readers one by one;
`Term.Whole` asks nothing else of the forms than that what is inside them is whole. -/

namespace Refactory.Grammar

/-! ## Whole terms -/

/-- Lists that are walked in step are of one length. -/
def Term.isPaired : Term → Bool
  | .compare _ ops comparators => ops.length = comparators.length
  | .dict keys values => keys.length = values.length
  | _ => true

/-- Lists that are walked in step are of one length in a term and everywhere inside it. -/
def Term.Whole (t : Term) : Prop := ∀ n : Term, n.Within t → n.isPaired = true

theorem Term.whole_iff {t : Term} : t.Whole ↔ t.isPaired = true ∧ ∀ c ∈ t.children, c.Whole := by
  constructor
  · exact fun h => ⟨h t .self, fun c hc n hn => h n (.inside hc hn)⟩
  · rintro ⟨hself, hchildren⟩ n hn
    cases hn with
    | self => exact hself
    | inside hc hn => exact hchildren _ hc n hn

namespace Term.Whole

variable {t u v : Term} {ts : List Term}

theorem of_children (ht : t.isPaired = true) (h : ∀ c ∈ t.children, c.Whole) : t.Whole :=
  Term.whole_iff.2 ⟨ht, h⟩

theorem leaf (ht : t.isPaired = true) (hnone : t.children = []) : t.Whole :=
  of_children ht (hnone ▸ List.forall_mem_nil _)

theorem of_one (ht : t.isPaired = true) (hone : t.children = [u]) (hu : u.Whole) : t.Whole :=
  of_children ht (hone ▸ List.forall_mem_singleton.2 hu)

theorem of_two (ht : t.isPaired = true) (htwo : t.children = [u, v]) (hu : u.Whole) (hv : v.Whole) :
    t.Whole :=
  of_children ht (htwo ▸ List.forall_mem_cons.2 ⟨hu, List.forall_mem_singleton.2 hv⟩)

theorem of_list (ht : t.isPaired = true) (hlist : t.children = ts) (hts : ∀ u ∈ ts, u.Whole) :
    t.Whole :=
  of_children ht (hlist ▸ hts)

theorem of_cons (ht : t.isPaired = true) (hcons : t.children = u :: ts) (hu : u.Whole)
    (hts : ∀ v ∈ ts, v.Whole) : t.Whole :=
  of_children ht (hcons ▸ List.forall_mem_cons.2 ⟨hu, hts⟩)

end Term.Whole

theorem tupleOf_whole {items : List Term × Bool} (h : ∀ t ∈ items.1, t.Whole) :
    (tupleOf items).Whole := by
  unfold tupleOf
  split
  · exact h _ List.mem_cons_self
  · exact .of_list rfl rfl h

/-! ## What a reader gives wherever it is -/

/-- What a reader gives satisfies `Q`, wherever it reads. -/
def Reader.Gives {α : Type} (p : Reader α) (Q : α → Prop) : Prop := ∀ c, EnsuresAt c p Q

namespace Reader.Gives

variable {α β : Type} {p q : Reader α} {f : α → Reader β} {R : α → Prop} {Q : β → Prop}

theorem ensures (h : p.Gives R) (n : Nat) : Ensures n p R := fun c _ => h c

theorem trivial (p : Reader α) : p.Gives fun _ => True := fun _ _ _ _ => True.intro

theorem pure {b : β} (h : Q b) : Gives (Pure.pure b) Q := fun _ _ _ hp => by
  cases hp
  exact h

theorem fail : Gives Reader.fail Q := fun _ _ _ hp => by cases hp

theorem bind (hp : p.Gives R) (hf : ∀ a, R a → (f a).Gives Q) : (p >>= f).Gives Q :=
  fun c b c'' h => by
    obtain ⟨a, c', ha, hb⟩ := bind_eq_some.1 h
    exact hf a (hp c a c' ha) c' b c'' hb

/-- Nothing has to be known about what is read on the way. -/
theorem skip (hf : ∀ a, (f a).Gives Q) : (p >>= f).Gives Q := (Gives.trivial p).bind fun a _ => hf a

theorem map {g : α → β} (hp : p.Gives R) (hg : ∀ a, R a → Q (g a)) : (g <$> p).Gives Q := by
  rw [map_eq_pure_bind]
  exact hp.bind fun a ha => .pure (hg a ha)

theorem ite {b : Prop} [Decidable b] {p q : Reader β} (hp : p.Gives Q) (hq : q.Gives Q) :
    (if b then p else q).Gives Q := fun c => (hp c).ite (hq c)

/-- A bound on what is read can depend on what is left. -/
theorem bounded {g : Nat → Reader β} (h : ∀ fuel, (g fuel).Gives Q) (bound : Cursor → Nat) :
    Gives (fun c => g (bound c) c) Q := fun c => h (bound c) c

theorem optional (hp : p.Gives R) : (Reader.optional p).Gives (∀ a ∈ ·, R a) :=
  fun c o c' h => by
    unfold Reader.optional at h
    split at h
    · rename_i hsome
      cases h
      rintro a ⟨⟩
      exact hp c _ _ hsome
    · cases h
      intro a ha
      cases ha

theorem manyFuel (hp : p.Gives R) (fuel : Nat) : (Reader.manyFuel p fuel).Gives (∀ a ∈ ·, R a) := by
  induction fuel with
  | zero => exact .pure (List.forall_mem_nil _)
  | succ fuel ih =>
    intro c as after h
    unfold Reader.manyFuel at h
    split at h
    · cases h
      exact List.forall_mem_nil _
    · rename_i a c' ha
      obtain ⟨⟨as, after⟩, has, hx⟩ := Option.map_eq_some_iff.1 h
      cases hx
      exact List.forall_mem_cons.2 ⟨hp c a c' ha, ih c' as after has⟩

theorem many (hp : p.Gives R) : (Reader.many p).Gives (∀ a ∈ ·, R a) :=
  .bounded hp.manyFuel _

theorem some (hp : p.Gives R) : (Reader.some p).Gives (∀ a ∈ ·, R a) :=
  hp.bind fun _ ha => hp.many.bind fun _ has => .pure (List.forall_mem_cons.2 ⟨ha, has⟩)

theorem commaSeparated (hp : p.Gives R) :
    (Grammar.commaSeparated p).Gives fun items => ∀ a ∈ items.1, R a :=
  hp.bind fun _ ha => (Gives.many (.skip fun _ => hp)).bind fun _ has => .skip fun _ =>
    .pure (List.forall_mem_cons.2 ⟨ha, has⟩)

theorem commaSeparated_ne_nil (p : Reader α) : (Grammar.commaSeparated p).Gives (·.1 ≠ []) :=
  .skip fun _ => .skip fun _ => .skip fun _ => .pure (List.cons_ne_nil _ _)

end Reader.Gives

/-! ## Formatted strings -/

theorem Part.valuesEach_consText (t : Text) (ps : List Part) :
    Part.valuesEach (Part.consText t ps) = Part.valuesEach ps := by
  unfold Part.consText
  split
  · rfl
  · split <;> rfl

theorem Part.valuesEach_append (ps qs : List Part) :
    Part.valuesEach (Part.append ps qs) = Part.valuesEach ps ++ Part.valuesEach qs := by
  induction ps with
  | nil => rfl
  | cons p ps ih =>
    rw [Part.append] at ih
    rw [Part.append, List.foldr_cons]
    cases p with
    | text t => rw [Part.valuesEach_consText, ih]; rfl
    | field value conversion spec =>
      rw [Part.valuesEach, Part.valuesEach, List.append_assoc, ih]

section

variable {Q : Term → Prop} {parse : Passage → Option Term}
  (hparse : ∀ passage t, parse passage = some t → Q t)

theorem FieldTail.parts_values {tail : FieldTail} {text : Text} {value : Term}
    {spec : Option (List Part)} {others : List Part} (hvalue : Q value)
    (hspec : ∀ s ∈ spec, ∀ t ∈ Part.valuesEach s, Q t) (hothers : ∀ t ∈ Part.valuesEach others, Q t) :
    ∀ t ∈ Part.valuesEach (tail.parts text value spec others), Q t := by
  rw [FieldTail.parts, Part.valuesEach_consText, Part.valuesEach, List.forall_mem_append]
  refine ⟨?_, hothers⟩
  cases spec with
  | none => exact List.forall_mem_singleton.2 hvalue
  | some spec => exact List.forall_mem_cons.2 ⟨hvalue, hspec spec rfl⟩

theorem fieldFormat_some {body : List Placed → Option (List Part × List Placed)}
    {chars rest : List Placed} {spec : List Part} (h : fieldFormat body chars = some (some spec, rest)) :
    ∃ rest', body (chars.drop 1) = some (spec, rest') := by
  obtain ⟨next, -, h⟩ := Option.bind_eq_some_iff.1 h
  split at h
  · obtain ⟨⟨spec', rest'⟩, hspec, hx⟩ := Option.map_eq_some_iff.1 h
    cases hx
    exact ⟨_, hspec⟩
  · cases h

include hparse

theorem fieldHead_value {brace : Placed} {inside : List Placed} {value : Term} {tail : FieldTail}
    (h : fieldHead parse brace inside = some (value, tail)) : Q value := by
  obtain ⟨⟨expr, rest⟩, -, h⟩ := Option.bind_eq_some_iff.1 h
  obtain ⟨stop, -, h⟩ := Option.bind_eq_some_iff.1 h
  rw [Option.ite_none_left_eq_some] at h
  obtain ⟨value', hvalue, h⟩ := Option.bind_eq_some_iff.1 h.2
  obtain ⟨tail', -, hx⟩ := Option.bind_eq_some_iff.1 h
  cases hx
  exact hparse _ _ hvalue

/-- The fields of a body hold what the reader of expressions gives. -/
theorem partsFrom_values {raw : Bool} {fuel level : Nat} {chars rest : List Placed}
    {parts : List Part} (h : partsFrom parse raw fuel level chars = some (parts, rest)) :
    ∀ t ∈ Part.valuesEach parts, Q t := by
  have htext (text : Text) : ∀ t ∈ Part.valuesEach (Part.consText text []), Q t := by
    rw [Part.valuesEach_consText]
    exact List.forall_mem_nil _
  induction fuel generalizing level chars rest parts with
  | zero => cases h
  | succ fuel ih =>
    unfold partsFrom at h
    obtain ⟨⟨cs, again, left⟩, -, h⟩ := Option.bind_eq_some_iff.1 h
    obtain ⟨text, -, h⟩ := Option.bind_eq_some_iff.1 h
    cases again with
    | true =>
      obtain ⟨⟨parts', rest'⟩, hparts, hx⟩ := Option.bind_eq_some_iff.1 h
      cases hx
      rw [Part.valuesEach_consText]
      exact ih hparts
    | false =>
      cases left with
      | nil =>
        cases h
        exact htext text
      | cons brace inside =>
        rw [if_neg Bool.false_ne_true] at h
        dsimp only at h
        by_cases hbrace : brace.char = '}'
        · rw [if_pos hbrace] at h
          cases h
          exact htext text
        rw [if_neg hbrace, Option.ite_none_left_eq_some] at h
        obtain ⟨⟨value, tail⟩, hvalue, h⟩ := Option.bind_eq_some_iff.1 h.2
        obtain ⟨⟨spec, behind⟩, hspec, h⟩ := Option.bind_eq_some_iff.1 h
        cases behind with
        | nil => cases h
        | cons close behind =>
          dsimp only at h
          rw [Option.ite_none_right_eq_some] at h
          obtain ⟨⟨others, last⟩, hothers, hx⟩ := Option.bind_eq_some_iff.1 h.2
          cases hx
          refine FieldTail.parts_values (fieldHead_value hparse hvalue) ?_ (ih hothers)
          -- A format is a body itself.
          rintro s ⟨⟩
          obtain ⟨rest', hs⟩ := fieldFormat_some hspec
          exact ih hs

end

theorem formattedParts_values {Q : Term → Prop} {parse : Passage → Option Term} {raw : Bool}
    {body : List Placed} {parts : List Part} (hparse : ∀ passage t, parse passage = some t → Q t)
    (h : formattedParts parse raw body = some parts) : ∀ t ∈ Part.valuesEach parts, Q t := by
  obtain ⟨⟨parts', rest⟩, hparts, h⟩ := Option.bind_eq_some_iff.1 h
  dsimp only at h
  split at h
  · cases h
    exact partsFrom_values hparse hparts
  · cases h

/-! ## Parameter lists and arguments -/

/-- The annotations and defaults of a parameter list as far as it has been read. -/
def ParamsSoFar.terms (p : ParamsSoFar) : List Term :=
  (p.positionalOnly ++ p.positional ++ p.varPositional.toList ++ p.keywordOnly ++
    p.varKeyword.toList).flatMap ParamName.terms ++ p.keywordDefaults.filterMap id ++ p.defaults

/-- All terms in a parameter list as far as it has been read are whole. -/
def ParamsSoFar.Whole (p : ParamsSoFar) : Prop := ∀ t ∈ p.terms, t.Whole

theorem ParamsSoFar.whole_iff {p : ParamsSoFar} :
    p.Whole ↔ (∀ n ∈ p.positionalOnly, ∀ t ∈ n.terms, t.Whole) ∧
      (∀ n ∈ p.positional, ∀ t ∈ n.terms, t.Whole) ∧
      (∀ n ∈ p.varPositional.toList, ∀ t ∈ n.terms, t.Whole) ∧
      (∀ n ∈ p.keywordOnly, ∀ t ∈ n.terms, t.Whole) ∧
      (∀ n ∈ p.varKeyword.toList, ∀ t ∈ n.terms, t.Whole) ∧
      (∀ t ∈ p.keywordDefaults.filterMap id, t.Whole) ∧ ∀ t ∈ p.defaults, t.Whole := by
  simp only [ParamsSoFar.Whole, ParamsSoFar.terms, List.flatMap_append, List.forall_mem_append,
    List.forall_mem_flatMap, and_assoc]

theorem ParamsSoFar.Whole.finish {p : ParamsSoFar} {ps : Params} (h : p.Whole)
    (hps : p.finish = some ps) : ∀ t ∈ ps.terms, t.Whole := by
  unfold ParamsSoFar.finish at hps
  split at hps
  · cases hps
  · cases hps
    exact h

/-- All terms in the arguments of a call as far as they have been read are whole. -/
structure ArgumentsSoFar.Whole (a : ArgumentsSoFar) : Prop where
  positional : ∀ t ∈ a.positional, t.Whole
  keywords : ∀ k ∈ a.keywords, k.value.Whole

/-- All terms in arguments are whole. -/
structure ArgumentsWhole (a : List Term × List Argument) : Prop where
  args : ∀ t ∈ a.1, t.Whole
  keywords : ∀ t ∈ a.2.map Argument.value, t.Whole

/-! ## Readers -/

section

variable {r : Readers} (hr : ∀ level, (r level).Gives Term.Whole)

include hr

theorem namedExpression_whole : (namedExpression r).Gives Term.Whole := by
  unfold namedExpression
  exact .skip fun _ => .ite
    (.skip fun _ => .skip fun _ => .skip fun _ => (hr _).bind fun _ hvalue => .skip fun _ =>
      .pure (.of_one rfl rfl hvalue))
    ((hr _).bind fun _ he => .skip fun _ => .pure he)

theorem element_whole : (element r).Gives Term.Whole := by
  unfold element
  exact .skip fun _ => .ite ((hr _).bind fun _ hvalue => .pure (.of_one rfl rfl hvalue))
    (namedExpression_whole hr)

theorem starExpression_whole : (starExpression r).Gives Term.Whole := by
  unfold starExpression
  exact .skip fun _ => .ite ((hr _).bind fun _ hvalue => .pure (.of_one rfl rfl hvalue)) (hr _)

theorem starExpressions_whole : (starExpressions r).Gives Term.Whole := by
  unfold starExpressions
  exact (starExpression_whole hr).commaSeparated.bind fun _ hitems => .pure (tupleOf_whole hitems)

theorem optional_whole (level : Level) :
    (Reader.optional (r level)).Gives (∀ t ∈ ·.toList, t.Whole) :=
  fun c o c' h t ht => (hr level).optional c o c' h t (Option.mem_toList.1 ht)

theorem yieldExpression_whole : (yieldExpression r).Gives Term.Whole := by
  unfold yieldExpression
  refine .skip fun _ => .skip fun _ => .skip fun _ => .ite ?_ ?_
  · exact (hr _).bind fun _ hvalue => .skip fun _ => .pure (.of_one rfl rfl hvalue)
  · exact (starExpressions_whole hr).optional.bind fun _ hvalue => .skip fun _ =>
      .pure (.of_list rfl rfl fun t ht => hvalue t (Option.mem_toList.1 ht))

theorem target_whole : (target r).Gives Term.Whole := by
  have hcheck (t : Term) (ht : t.Whole) :
      (if t.isTarget then return t else Reader.fail : Reader Term).Gives Term.Whole :=
    .ite (.pure ht) .fail
  unfold target
  refine .skip fun _ => .ite ?_ ((hr _).bind hcheck)
  exact ((hr _).map fun _ hvalue => Term.Whole.of_one rfl rfl hvalue).bind hcheck

theorem targets_whole : (targets r).Gives Term.Whole := by
  unfold targets
  exact (target_whole hr).commaSeparated.bind fun _ hitems => .pure (tupleOf_whole hitems)

theorem clause_whole : (clause r).Gives (∀ t ∈ ·.terms, t.Whole) := by
  unfold clause
  refine .skip fun _ => .skip fun _ => (targets_whole hr).bind fun _ htarget => .skip fun _ =>
    (hr _).bind fun _ hiter => ?_
  exact (Reader.Gives.many (.skip fun _ => hr _)).bind fun _ hconditions =>
    .pure (List.forall_mem_cons.2 ⟨htarget, List.forall_mem_cons.2 ⟨hiter, hconditions⟩⟩)

theorem clauses_whole : (clauses r).Gives (∀ t ∈ ·.flatMap Clause.terms, t.Whole) :=
  fun c cs c' h t ht => by
    obtain ⟨x, hx, ht⟩ := List.mem_flatMap.1 ht
    exact (clause_whole hr).some c cs c' h x hx t ht

theorem paramName_whole (annotated starAnnotated : Bool) :
    (paramName r annotated starAnnotated).Gives (∀ t ∈ ·.terms, t.Whole) := by
  unfold paramName
  have hnone (id : Text) : (pure (ParamName.mk id none) : Reader ParamName).Gives
      (∀ t ∈ ·.terms, t.Whole) := .pure (List.forall_mem_nil _)
  have hhint (id : Text) {p : Reader Term} (hp : p.Gives Term.Whole) :
      (do return ParamName.mk id (some (← p))).Gives (∀ t ∈ ·.terms, t.Whole) :=
    hp.bind fun _ ht => .pure (List.forall_mem_singleton.2 ht)
  refine .skip fun id => .ite (.skip fun _ => .ite (.ite ?_ ?_) (hnone id)) (hnone id)
  · exact hhint id (starExpression_whole hr)
  · exact hhint id (hr _)

theorem paramItem_whole (annotated : Bool) {p : ParamsSoFar} (h : p.Whole) :
    (paramItem r annotated p).Gives ParamsSoFar.Whole := by
  obtain ⟨hfirst, hpositional, hstar, hkeywords, hlast, hgiven, hdefaults⟩ :=
    ParamsSoFar.whole_iff.1 h
  have hslash : ParamsSoFar.Whole { p with
      positionalOnly := p.positional, positional := [], slash := true } :=
    ParamsSoFar.whole_iff.2
      ⟨hpositional, List.forall_mem_nil _, hstar, hkeywords, hlast, hgiven, hdefaults⟩
  have hafter {ns : List ParamName} {name : ParamName} (hns : ∀ n ∈ ns, ∀ t ∈ n.terms, t.Whole)
      (hname : ∀ t ∈ name.terms, t.Whole) : ∀ n ∈ ns ++ [name], ∀ t ∈ n.terms, t.Whole :=
    List.forall_mem_append.2 ⟨hns, List.forall_mem_singleton.2 hname⟩
  have hgivens {default : Option Term} (hdefault : ∀ t ∈ default, t.Whole) :
      ∀ t ∈ (p.keywordDefaults ++ [default]).filterMap id, t.Whole := by
    rw [List.filterMap_append, List.forall_mem_append]
    refine ⟨hgiven, ?_⟩
    cases default with
    | none => exact List.forall_mem_nil _
    | some d => exact List.forall_mem_singleton.2 (hdefault d rfl)
  have hnone : (pure none : Reader (Option Term)).Gives (∀ t ∈ ·, t.Whole) :=
    .pure fun t ht => by cases ht
  have hsome : (some <$> r .expression).Gives (∀ t ∈ ·, t.Whole) :=
    (hr _).map fun d hd t ht => Option.mem_some.1 ht ▸ hd
  unfold paramItem
  refine .ite .fail (.skip fun _ => .ite (.ite .fail (.pure hslash)) (.skip fun _ => .ite ?_
    (.skip fun _ => .ite (.ite .fail (.skip fun _ => .ite (.pure h) ?_)) ?_)))
  · exact (paramName_whole hr _ _).bind fun name hname => .pure (ParamsSoFar.whole_iff.2
      ⟨hfirst, hpositional, hstar, hkeywords, List.forall_mem_singleton.2 hname, hgiven, hdefaults⟩)
  · exact (paramName_whole hr _ _).bind fun name hname => .pure (ParamsSoFar.whole_iff.2
      ⟨hfirst, hpositional, List.forall_mem_singleton.2 hname, hkeywords, hlast, hgiven, hdefaults⟩)
  · refine (paramName_whole hr _ _).bind fun name hname => .skip fun _ => .ite
      (hsome.bind ?_) (hnone.bind ?_) <;>
    · intro default hdefault
      refine .ite (.pure (ParamsSoFar.whole_iff.2 ⟨hfirst, hpositional, hstar,
        hafter hkeywords hname, hlast, hgivens hdefault, hdefaults⟩)) ?_
      cases default with
      | none => exact .ite (.pure (ParamsSoFar.whole_iff.2
          ⟨hfirst, hafter hpositional hname, hstar, hkeywords, hlast, hgiven, hdefaults⟩)) .fail
      | some d => exact .pure (ParamsSoFar.whole_iff.2
          ⟨hfirst, hafter hpositional hname, hstar, hkeywords, hlast, hgiven,
            List.forall_mem_append.2 ⟨hdefaults, List.forall_mem_singleton.2 (hdefault d rfl)⟩⟩)

theorem paramItems_whole (annotated : Bool) (close : String) (fuel : Nat) {p : ParamsSoFar}
    (h : p.Whole) : (paramItems r annotated close fuel p).Gives ParamsSoFar.Whole := by
  induction fuel generalizing p with
  | zero => exact .fail
  | succ fuel ih =>
    unfold paramItems
    exact .skip fun _ => .ite (.pure h) ((paramItem_whole hr annotated h).bind fun _ hnext =>
      .skip fun _ => .ite (ih hnext) (.skip fun _ => .ite (.pure hnext) .fail))

theorem params_whole (annotated : Bool) (close : String) :
    (params r annotated close).Gives (∀ t ∈ ·.terms, t.Whole) := fun c ps c' h => by
  obtain ⟨⟨p, c''⟩, hp, h⟩ := Option.bind_eq_some_iff.1 h
  obtain ⟨ps', hfinish, hx⟩ := Option.bind_eq_some_iff.1 h
  cases hx
  have hempty : ParamsSoFar.Whole {} := List.forall_mem_nil _
  exact (paramItems_whole hr annotated close _ hempty c p _ hp).finish hfinish

theorem lambda_whole : (lambda r).Gives Term.Whole := by
  unfold lambda
  exact .skip fun _ => .skip fun _ => (params_whole hr _ _).bind fun _ hps => .skip fun _ =>
    (hr _).bind fun _ hbody => .skip fun _ => .pure (.of_list rfl rfl
      (List.forall_mem_append.2 ⟨hps, List.forall_mem_singleton.2 hbody⟩))

theorem argument_whole {a : ArgumentsSoFar} (h : a.Whole) :
    (argument r a).Gives ArgumentsSoFar.Whole := by
  unfold argument
  have hkeyword {name : Option Text} {value : Term} {unpacked : Bool} (hvalue : value.Whole) :
      ArgumentsSoFar.Whole
        { a with keywords := .mk name value :: a.keywords, unpacked := unpacked } :=
    ⟨h.positional, List.forall_mem_cons.2 ⟨hvalue, h.keywords⟩⟩
  have hpositional {value : Term} (hvalue : value.Whole) :
      ArgumentsSoFar.Whole { a with positional := value :: a.positional } :=
    ⟨List.forall_mem_cons.2 ⟨hvalue, h.positional⟩, h.keywords⟩
  refine .skip fun _ => .ite ((hr _).bind fun _ hvalue => .pure (hkeyword hvalue))
    (.skip fun _ => .ite (.ite .fail ?_) (.skip fun _ => .ite ?_ (.ite ?_ .fail)))
  · exact (hr _).bind fun _ hvalue => .pure (hpositional (.of_one rfl rfl hvalue))
  · exact .skip fun _ => .skip fun _ => (hr _).bind fun _ hvalue => .pure (hkeyword hvalue)
  · exact (namedExpression_whole hr).bind fun _ he => .skip fun _ => .pure (hpositional he)

theorem moreArguments_whole (fuel : Nat) {a : ArgumentsSoFar} (h : a.Whole) :
    (moreArguments r fuel a).Gives ArgumentsSoFar.Whole := by
  induction fuel generalizing a with
  | zero => exact .fail
  | succ fuel ih =>
    unfold moreArguments
    exact .skip fun _ => .ite (.skip fun _ => .ite (.pure h)
      ((argument_whole hr h).bind fun _ hnext => ih hnext)) (.pure h)

theorem closeArguments_whole {first : ArgumentsSoFar} (h : first.Whole) :
    (closeArguments r first).Gives ArgumentsWhole := by
  unfold closeArguments
  refine (Reader.Gives.bounded (fun fuel => moreArguments_whole hr fuel h) _).bind fun a ha =>
    .skip fun _ => .pure ⟨?_, ?_⟩
  · exact fun t ht => ha.positional t (List.mem_reverse.1 ht)
  · exact List.forall_mem_map.2 fun k hk => ha.keywords k (List.mem_reverse.1 hk)

theorem arguments_whole (start : Option Position) : (arguments r start).Gives ArgumentsWhole := by
  unfold arguments
  have hempty : ArgumentsSoFar.Whole {} := ⟨List.forall_mem_nil _, List.forall_mem_nil _⟩
  refine .skip fun _ => .ite (.pure ⟨List.forall_mem_nil _, List.forall_mem_nil _⟩)
    ((argument_whole hr hempty).bind fun first hfirst => ?_)
  split
  · rename_i e hpositional
    have he : e.Whole := hfirst.positional e (hpositional ▸ List.mem_cons_self)
    exact .skip fun _ => .ite
      ((clauses_whole hr).bind fun _ hcs => .skip fun _ => .skip fun _ => .pure
        ⟨List.forall_mem_singleton.2 (.of_cons rfl rfl he hcs), List.forall_mem_nil _⟩)
      (closeArguments_whole hr hfirst)
  · exact closeArguments_whole hr hfirst

theorem sliceItem_whole : (sliceItem r).Gives Term.Whole := by
  unfold sliceItem
  have hnone : (pure none : Reader (Option Term)).Gives (∀ t ∈ ·.toList, t.Whole) :=
    .pure (List.forall_mem_nil _)
  have hsome : (some <$> r .expression).Gives (∀ t ∈ ·.toList, t.Whole) :=
    (hr _).map fun _ he => List.forall_mem_singleton.2 he
  refine .skip fun _ => .skip fun _ => .ite ((hr _).bind fun _ h => .pure (.of_one rfl rfl h))
    (.skip fun _ => .ite (namedExpression_whole hr) (.skip fun _ => .ite
      (hnone.bind fun lower hlower => ?_) (hsome.bind fun lower hlower => ?_)))
  -- What is in front of the colon makes no difference to what is behind it.
  all_goals
    have hslice {span : Span} {upper step : Option Term} (hupper : ∀ t ∈ upper.toList, t.Whole)
        (hstep : ∀ t ∈ step.toList, t.Whole) : (Term.slice span lower upper step).Whole :=
      .of_list rfl rfl (List.forall_mem_append.2 ⟨List.forall_mem_append.2 ⟨hlower, hupper⟩, hstep⟩)
    refine .skip fun _ => .skip fun _ => .ite ((optional_whole hr _).bind fun _ hupper =>
      .skip fun _ => .ite ?_ ?_) ?_
    · exact (optional_whole hr _).bind fun _ hstep => .skip fun _ => .pure (hslice hupper hstep)
    · exact hnone.bind fun _ hstep => .skip fun _ => .pure (hslice hupper hstep)
    · cases lower with
      | none => exact .fail
      | some e => exact .pure (hlower e List.mem_cons_self)

theorem subscriptIndex_whole : (subscriptIndex r).Gives Term.Whole := by
  unfold subscriptIndex
  refine (sliceItem_whole hr).commaSeparated.bind fun items hitems => ?_
  split
  · exact .pure (.of_one rfl rfl (hitems _ List.mem_cons_self))
  · exact .pure (tupleOf_whole hitems)

theorem trailers_whole (start : Position) (fuel : Nat) {t : Term} (h : t.Whole) :
    (trailers r start fuel t).Gives Term.Whole := by
  induction fuel generalizing t with
  | zero => exact .pure h
  | succ fuel ih =>
    unfold trailers
    refine .skip fun _ => .ite (.skip fun _ => ih (.of_one rfl rfl h)) (.skip fun _ => .ite
      (.skip fun _ => .skip fun _ => (arguments_whole hr _).bind fun a ha => ih ?_)
      (.skip fun _ => .ite ((subscriptIndex_whole hr).bind fun _ hindex => .skip fun _ =>
        .skip fun _ => ih (.of_two rfl rfl h hindex)) (.pure h)))
    exact .of_cons rfl rfl h (List.forall_mem_append.2 ⟨ha.args, ha.keywords⟩)

/-! ## Atoms -/

theorem others_whole {symbol : String} :
    (Reader.many (do expect symbol; element r)).Gives (∀ t ∈ ·, t.Whole) :=
  .many (.skip fun _ => element_whole hr)

theorem parenthesis_whole (start : Position) : (parenthesis r start).Gives Term.Whole := by
  unfold parenthesis
  refine .skip fun _ => .ite (.pure (.leaf rfl rfl)) (.skip fun _ => .ite ?_
    ((element_whole hr).bind fun first hfirst => .skip fun _ => .ite ?_ (.ite .fail
      (.skip fun _ => .ite ?_ ?_))))
  · exact (yieldExpression_whole hr).bind fun _ he => .skip fun _ => .pure he
  · refine .skip fun _ => .ite (.pure (.of_one rfl rfl hfirst)) ?_
    exact (element_whole hr).commaSeparated.bind fun _ hothers => .skip fun _ =>
      .pure (.of_cons rfl rfl hfirst hothers)
  · exact (clauses_whole hr).bind fun _ hcs => .skip fun _ => .skip fun _ =>
      .pure (.of_cons rfl rfl hfirst hcs)
  · exact .skip fun _ => .pure hfirst

theorem bracket_whole (start : Position) : (bracket r start).Gives Term.Whole := by
  unfold bracket
  refine .skip fun _ => .ite (.pure (.leaf rfl rfl)) ((element_whole hr).bind fun first hfirst =>
    .skip fun _ => .ite ?_ ?_)
  · exact (clauses_whole hr).bind fun _ hcs => .skip fun _ => .skip fun _ =>
      .pure (.of_cons rfl rfl hfirst hcs)
  · exact (others_whole hr).bind fun _ hothers => .skip fun _ => .skip fun _ =>
      .pure (.of_cons rfl rfl hfirst hothers)

theorem dictEntry_whole : (dictEntry r).Gives fun e => (∀ t ∈ e.1, t.Whole) ∧ e.2.Whole := by
  unfold dictEntry
  refine .skip fun _ => .ite ((hr _).bind fun _ hvalue => .pure ⟨nofun, hvalue⟩) ?_
  exact (hr _).bind fun key hkey => .skip fun _ => (hr _).bind fun _ hvalue =>
    .pure ⟨fun t ht => Option.mem_some.1 ht ▸ hkey, hvalue⟩

/-- A dictionary has a value for each of its items, whether they have a key or not. -/
theorem dictRest_whole {first : Option Term × Term} (hkey : ∀ t ∈ first.1, t.Whole)
    (hvalue : first.2.Whole) : (dictRest r first).Gives Term.Whole := by
  unfold dictRest
  have hothers : (Reader.many (do expect ","; dictEntry r)).Gives
      (∀ e ∈ ·, (∀ t ∈ e.1, t.Whole) ∧ e.2.Whole) := .many (.skip fun _ => dictEntry_whole hr)
  refine hothers.bind fun others hothers => .skip fun _ => .skip fun _ => .pure
    (.of_list (by simp [Term.isPaired]) rfl (List.forall_mem_append.2 ⟨?_, ?_⟩))
  · intro t ht
    obtain ⟨key, hkeys, rfl⟩ := List.mem_filterMap.1 ht
    rcases List.mem_cons.1 hkeys with heq | hkeys
    · exact hkey t heq.symm
    · obtain ⟨e, he, heq⟩ := List.mem_map.1 hkeys
      exact (hothers e he).1 t heq
  · exact List.forall_mem_cons.2 ⟨hvalue, List.forall_mem_map.2 fun e he => (hothers e he).2⟩

theorem setRest_whole (start : Position) {first : Term} (hfirst : first.Whole) :
    (setRest r start first).Gives Term.Whole := by
  unfold setRest
  refine .skip fun _ => .ite ?_ ?_
  · exact (clauses_whole hr).bind fun _ hcs => .skip fun _ => .skip fun _ =>
      .pure (.of_cons rfl rfl hfirst hcs)
  · exact (others_whole hr).bind fun _ hothers => .skip fun _ => .skip fun _ => .skip fun _ =>
      .pure (.of_cons rfl rfl hfirst hothers)

theorem brace_whole (start : Position) : (brace r start).Gives Term.Whole := by
  unfold brace
  refine .skip fun _ => .ite (.pure (.leaf rfl rfl)) (.skip fun _ => .ite ?_ (.skip fun _ =>
    .skip fun _ => .ite ?_ ((namedExpression_whole hr).bind fun first hfirst => .skip fun _ =>
      .ite ?_ (setRest_whole hr start hfirst))))
  · exact (dictEntry_whole hr).bind fun _ hentry => dictRest_whole hr hentry.1 hentry.2
  · exact (element_whole hr).bind fun _ hfirst => setRest_whole hr start hfirst
  · refine (hr _).bind fun value hvalue => .skip fun _ => .ite ?_ ?_
    · exact (clauses_whole hr).bind fun _ hcs => .skip fun _ => .skip fun _ =>
        .pure (.of_cons rfl rfl hfirst (List.forall_mem_cons.2 ⟨hvalue, hcs⟩))
    · exact dictRest_whole hr (fun t ht => Option.mem_some.1 ht ▸ hfirst) hvalue

theorem fieldExpression_whole {p : Passage} {t : Term} (h : fieldExpression r p = some t) :
    t.Whole := by
  obtain ⟨tokens, -, h⟩ := Option.bind_eq_some_iff.1 h
  obtain ⟨⟨t', c⟩, ht, h⟩ := Option.bind_eq_some_iff.1 h
  dsimp only at h
  split at h
  · cases h
    exact hr _ _ _ _ ht
  · cases h

theorem literalParts_whole {marks : StringMarks} {body : Passage} {parts : List Part}
    (h : literalParts r marks body = some parts) : ∀ t ∈ Part.valuesEach parts, t.Whole := by
  unfold literalParts at h
  split at h
  · exact formattedParts_values (fun _ _ => fieldExpression_whole hr) h
  · obtain ⟨value, -, rfl⟩ := Option.map_eq_some_iff.1 h
    rw [Part.valuesEach_consText]
    exact List.forall_mem_nil _

theorem joinedParts_whole {literals : List (StringMarks × Passage)} {parts : List (List Part)}
    (h : literals.mapM (fun x => literalParts r x.1 x.2) = some parts) :
    ∀ t ∈ Part.valuesEach (parts.foldr Part.append []), t.Whole := by
  induction literals generalizing parts with
  | nil =>
    cases h
    exact List.forall_mem_nil _
  | cons literal literals ih =>
    rw [List.mapM_cons] at h
    obtain ⟨first, hfirst, h⟩ := Option.bind_eq_some_iff.1 h
    obtain ⟨others, hothers, hx⟩ := Option.bind_eq_some_iff.1 h
    cases hx
    rw [List.foldr_cons, Part.valuesEach_append, List.forall_mem_append]
    exact ⟨literalParts_whole hr hfirst, ih hothers⟩

theorem joinLiterals_whole {span : Span} {literals : List (StringMarks × Passage)} {t : Term}
    (h : joinLiterals r span literals = some t) : t.Whole := by
  unfold joinLiterals at h
  split at h
  · obtain ⟨values, -, hx⟩ := Option.bind_eq_some_iff.1 h
    cases hx
    exact .leaf rfl rfl
  · split at h
    · cases h
    · obtain ⟨parts, hparts, h⟩ := Option.bind_eq_some_iff.1 h
      dsimp only at h
      split at h
      · cases h
        exact .of_list rfl rfl (joinedParts_whole hr hparts)
      · split at h
        · cases h
          exact .leaf rfl rfl
        · cases h
          exact .leaf rfl rfl
        · cases h

theorem strings_whole : (strings r).Gives Term.Whole := by
  unfold strings
  refine .skip fun _ => .skip fun _ => .skip fun _ => ?_
  split
  · rename_i hjoined
    exact .pure (joinLiterals_whole hr hjoined)
  · exact .fail

theorem atom_whole : (atom r).Gives Term.Whole := by
  unfold atom
  refine .skip fun _ => .skip fun _ => ?_
  split
  · exact strings_whole hr
  · exact .skip fun _ => .pure (.leaf rfl rfl)
  · exact .skip fun _ => .pure (.leaf rfl rfl)
  · exact .skip fun _ => .ite (.pure (.leaf rfl rfl)) (.ite (.pure (.leaf rfl rfl))
      (.ite (.pure (.leaf rfl rfl)) (.ite (.skip fun _ => .pure (.leaf rfl rfl))
        (.ite (parenthesis_whole hr _) (.ite (bracket_whole hr _) (.ite (brace_whole hr _) .fail))))))
  · exact .fail

/-! ## Levels of binding strength -/

theorem primary_whole : (primary r).Gives Term.Whole := by
  unfold primary
  exact .skip fun _ => (atom_whole hr).bind fun _ ht =>
    .bounded (fun fuel => trailers_whole hr _ fuel ht) _

theorem awaited_whole : (awaited r).Gives Term.Whole := by
  unfold awaited
  exact .skip fun _ => .skip fun _ => .ite
    ((primary_whole hr).bind fun _ ht => .skip fun _ => .pure (.of_one rfl rfl ht))
    (primary_whole hr)

theorem power_whole : (power r).Gives Term.Whole := by
  unfold power
  exact (awaited_whole hr).bind fun _ hbase => .skip fun _ => .ite
    ((hr _).bind fun _ hexponent => .pure (.of_two rfl rfl hbase hexponent)) (.pure hbase)

theorem factor_whole : (factor r).Gives Term.Whole := by
  unfold factor
  refine .skip fun _ => ?_
  split
  · split
    · exact .skip fun _ => (hr _).bind fun _ ht => .pure (.of_one rfl rfl ht)
    · exact power_whole hr
  · exact power_whole hr

omit hr in
theorem leftGrouped_whole {operand : Reader Term} (h : operand.Gives Term.Whole)
    (ops : List BinaryOp) : (leftGrouped operand ops).Gives Term.Whole := by
  unfold leftGrouped
  have hothers : (Reader.many (do
      let op ← operator ops
      return (op, ← operand))).Gives (∀ x ∈ ·, x.2.Whole) :=
    .many (.skip fun _ => h.bind fun _ ht => .pure ht)
  refine h.bind fun first hfirst => hothers.bind fun others hothers => .pure ?_
  induction others generalizing first with
  | nil => exact hfirst
  | cons x others ih =>
    rw [List.forall_mem_cons] at hothers
    exact ih _ (.of_two rfl rfl hfirst hothers.1) hothers.2

theorem bitOr_whole : (bitOr r).Gives Term.Whole := by
  unfold bitOr bitXor bitAnd shift sum term
  exact leftGrouped_whole (leftGrouped_whole (leftGrouped_whole (leftGrouped_whole
    (leftGrouped_whole (leftGrouped_whole (factor_whole hr) _) _) _) _) _) _

/-- A comparison has an operator for each of its operands but the first. -/
theorem comparison_whole : (comparison r).Gives Term.Whole := by
  unfold comparison
  have hothers : (Reader.many (do
      let op ← compareOperator
      return (op, ← bitOr r))).Gives (∀ x ∈ ·, x.2.Whole) :=
    .many (.skip fun _ => (bitOr_whole hr).bind fun _ ht => .pure ht)
  exact (bitOr_whole hr).bind fun _ hfirst => hothers.bind fun _ hothers => .ite (.pure hfirst)
    (.pure (.of_cons (by simp [Term.isPaired]) rfl hfirst (List.forall_mem_map.2 hothers)))

theorem inversion_whole : (inversion r).Gives Term.Whole := by
  unfold inversion
  exact .skip fun _ => .ite ((hr _).bind fun _ ht => .pure (.of_one rfl rfl ht))
    (comparison_whole hr)

omit hr in
theorem joined_whole {operand : Reader Term} (h : operand.Gives Term.Whole) (op : BoolOp) :
    (joined operand op).Gives Term.Whole := by
  unfold joined
  exact h.bind fun _ hfirst => (Reader.Gives.many (.skip fun _ => h)).bind fun _ hothers =>
    .ite (.pure hfirst) (.pure (.of_list rfl rfl (List.forall_mem_cons.2 ⟨hfirst, hothers⟩)))

theorem disjunction_whole : (disjunction r).Gives Term.Whole := by
  unfold disjunction conjunction
  exact joined_whole (joined_whole (inversion_whole hr) _) _

theorem expression_whole : (expression r).Gives Term.Whole := by
  unfold expression
  refine .skip fun _ => .skip fun _ => .ite (lambda_whole hr) ((disjunction_whole hr).bind
    fun _ hbody => .skip fun _ => .ite ((disjunction_whole hr).bind fun _ htest => .skip fun _ =>
      (hr _).bind fun _ horelse => .skip fun _ => .pure ?_) (.pure hbody))
  exact .of_cons rfl rfl htest
    (List.forall_mem_cons.2 ⟨hbody, List.forall_mem_singleton.2 horelse⟩)

theorem atLevel_whole (level : Level) : (atLevel r level).Gives Term.Whole := by
  cases level with
  | expression => exact expression_whole hr
  | disjunction => exact disjunction_whole hr
  | inversion => exact inversion_whole hr
  | bitOr => exact bitOr_whole hr
  | factor => exact factor_whole hr
  | primary => exact primary_whole hr

end

/-- Every expression that is read is whole. -/
theorem readers_whole (depth : Nat) (level : Level) : (readers depth level).Gives Term.Whole := by
  induction depth generalizing level with
  | zero => exact .fail
  | succ depth ih => exact atLevel_whole ih level

/-- Readers that give whole expressions. -/
class WholeReaders (r : Readers) : Prop where
  gives : ∀ level, (r level).Gives Term.Whole

instance (depth : Nat) : WholeReaders (readers depth) := ⟨readers_whole depth⟩

end Refactory.Grammar
