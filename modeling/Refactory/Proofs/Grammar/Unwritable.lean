import Refactory.Grammar.Canonical

/-! # Terms without a canonical text

The canonical text of a term can be written unless something inside the term cannot be
(`Term.canonical_fails`): an integer with more digits than are written in decimal, or a formatted
string with a field whose own text has a backslash. -/

namespace Refactory.Grammar

/-! ## Inside a term -/

/-- The value of a keyword argument. -/
def Argument.value : Argument → Term
  | .mk _ value => value

/-- The terms directly inside a clause. -/
def Clause.terms : Clause → List Term
  | .mk _ target iter conditions => target :: iter :: conditions

/-- The annotation of a name in a parameter list. -/
def ParamName.terms : ParamName → List Term
  | .mk _ hint => hint.toList

/-- The annotations and defaults of a parameter list. -/
def Params.terms : Params → List Term
  | .mk positionalOnly positional varPositional keywordOnly keywordDefaults varKeyword defaults =>
    (positionalOnly ++ positional ++ varPositional.toList ++ keywordOnly ++ varKeyword.toList).flatMap
      ParamName.terms ++ keywordDefaults.filterMap id ++ defaults

mutual

/-- The values of the fields of a part of a formatted string, those in its format included. -/
def Part.values : Part → List Term
  | .text _ => []
  | .field value _ none => [value]
  | .field value _ (some spec) => value :: Part.valuesEach spec

/-- The values of the fields of a formatted string, those in formats included. -/
def Part.valuesEach : List Part → List Term
  | [] => []
  | p :: rest => p.values ++ Part.valuesEach rest

end

namespace Term

/-- The terms directly inside a term. -/
def children : Term → List Term
  | .call func args keywords => func :: args ++ keywords.map Argument.value
  | .binary left _ right => [left, right]
  | .unary _ operand => [operand]
  | .logical _ values => values
  | .compare left _ comparators => left :: comparators
  | .attribute value _ => [value]
  | .subscript _ value index => [value, index]
  | .slice _ lower upper step => lower.toList ++ upper.toList ++ step.toList
  | .starred value => [value]
  | .tuple elements | .list elements | .set _ elements => elements
  | .dict keys values => keys.filterMap id ++ values
  | .formatted _ parts => Part.valuesEach parts
  | .lambda _ params body => params.terms ++ [body]
  | .conditional _ test body orelse => [test, body, orelse]
  | .named _ _ value => [value]
  | .listComp _ element clauses | .setComp _ element clauses | .generator _ element clauses =>
    element :: clauses.flatMap Clause.terms
  | .dictComp _ key value clauses => key :: value :: clauses.flatMap Clause.terms
  | .await _ value | .yieldFrom _ value => [value]
  | .yield _ value => value.toList
  | .name _ | .string .. | .bytes .. | .number _ | .truth _ | .noneLiteral | .ellipsis _ => []

/-- A term is another one or lies inside it. -/
inductive Within (n : Term) : Term → Prop
  | self : Within n n
  | inside {t c : Term} (hc : c ∈ t.children) (h : Within n c) : Within n t

end Term

section

variable {P : Term → Prop}

mutual

/-- What holds of a term if it holds of those directly inside holds of all. -/
theorem Term.induct_children (h : ∀ t : Term, (∀ c ∈ t.children, P c) → P t) : ∀ t : Term, P t
  | .call func args keywords => h _ (List.forall_mem_append.2
      ⟨List.forall_mem_cons.2 ⟨Term.induct_children h func, Term.induct_list h args⟩,
        Argument.induct_list h keywords⟩)
  | .binary left _ right => h _ (List.forall_mem_cons.2
      ⟨Term.induct_children h left, List.forall_mem_singleton.2 (Term.induct_children h right)⟩)
  | .unary _ operand => h _ (List.forall_mem_singleton.2 (Term.induct_children h operand))
  | .logical _ values => h _ (Term.induct_list h values)
  | .compare left _ comparators => h _ (List.forall_mem_cons.2
      ⟨Term.induct_children h left, Term.induct_list h comparators⟩)
  | .attribute value _ => h _ (List.forall_mem_singleton.2 (Term.induct_children h value))
  | .subscript _ value index => h _ (List.forall_mem_cons.2
      ⟨Term.induct_children h value, List.forall_mem_singleton.2 (Term.induct_children h index)⟩)
  | .slice _ lower upper step => h _ (List.forall_mem_append.2 ⟨List.forall_mem_append.2
      ⟨Term.induct_option h lower, Term.induct_option h upper⟩, Term.induct_option h step⟩)
  | .starred value => h _ (List.forall_mem_singleton.2 (Term.induct_children h value))
  | .tuple elements => h _ (Term.induct_list h elements)
  | .list elements => h _ (Term.induct_list h elements)
  | .set _ elements => h _ (Term.induct_list h elements)
  | .dict keys values => h _ (List.forall_mem_append.2
      ⟨Term.induct_keys h keys, Term.induct_list h values⟩)
  | .formatted _ parts => h _ (Part.induct_list h parts)
  | .lambda _ params body => h _ (List.forall_mem_append.2
      ⟨Params.induct_terms h params, List.forall_mem_singleton.2 (Term.induct_children h body)⟩)
  | .conditional _ test body orelse => h _ (List.forall_mem_cons.2
      ⟨Term.induct_children h test, List.forall_mem_cons.2
        ⟨Term.induct_children h body, List.forall_mem_singleton.2 (Term.induct_children h orelse)⟩⟩)
  | .named _ _ value => h _ (List.forall_mem_singleton.2 (Term.induct_children h value))
  | .listComp _ element clauses => h _ (List.forall_mem_cons.2
      ⟨Term.induct_children h element, Clause.induct_list h clauses⟩)
  | .setComp _ element clauses => h _ (List.forall_mem_cons.2
      ⟨Term.induct_children h element, Clause.induct_list h clauses⟩)
  | .generator _ element clauses => h _ (List.forall_mem_cons.2
      ⟨Term.induct_children h element, Clause.induct_list h clauses⟩)
  | .dictComp _ key value clauses => h _ (List.forall_mem_cons.2
      ⟨Term.induct_children h key, List.forall_mem_cons.2
        ⟨Term.induct_children h value, Clause.induct_list h clauses⟩⟩)
  | .await _ value => h _ (List.forall_mem_singleton.2 (Term.induct_children h value))
  | .yieldFrom _ value => h _ (List.forall_mem_singleton.2 (Term.induct_children h value))
  | .yield _ value => h _ (Term.induct_option h value)
  | .name _ | .string .. | .bytes .. | .number _ | .truth _ | .noneLiteral | .ellipsis _ =>
    h _ (List.forall_mem_nil _)

theorem Term.induct_list (h : ∀ t : Term, (∀ c ∈ t.children, P c) → P t) :
    ∀ ts : List Term, ∀ c ∈ ts, P c
  | [] => List.forall_mem_nil _
  | t :: rest => List.forall_mem_cons.2 ⟨Term.induct_children h t, Term.induct_list h rest⟩

theorem Term.induct_option (h : ∀ t : Term, (∀ c ∈ t.children, P c) → P t) :
    ∀ t : Option Term, ∀ c ∈ t.toList, P c
  | none => List.forall_mem_nil _
  | some t => List.forall_mem_singleton.2 (Term.induct_children h t)

theorem Term.induct_keys (h : ∀ t : Term, (∀ c ∈ t.children, P c) → P t) :
    ∀ ts : List (Option Term), ∀ c ∈ ts.filterMap id, P c
  | [] => List.forall_mem_nil _
  | none :: rest => Term.induct_keys h rest
  | some t :: rest => List.forall_mem_cons.2 ⟨Term.induct_children h t, Term.induct_keys h rest⟩

theorem Argument.induct_list (h : ∀ t : Term, (∀ c ∈ t.children, P c) → P t) :
    ∀ ks : List Argument, ∀ c ∈ ks.map Argument.value, P c
  | [] => List.forall_mem_nil _
  | .mk _ value :: rest =>
    List.forall_mem_cons.2 ⟨Term.induct_children h value, Argument.induct_list h rest⟩

theorem Clause.induct_list (h : ∀ t : Term, (∀ c ∈ t.children, P c) → P t) :
    ∀ cs : List Clause, ∀ c ∈ cs.flatMap Clause.terms, P c
  | [] => List.forall_mem_nil _
  | .mk _ target iter conditions :: rest => List.forall_mem_append.2
      ⟨List.forall_mem_cons.2 ⟨Term.induct_children h target, List.forall_mem_cons.2
        ⟨Term.induct_children h iter, Term.induct_list h conditions⟩⟩, Clause.induct_list h rest⟩

theorem Part.induct_values (h : ∀ t : Term, (∀ c ∈ t.children, P c) → P t) :
    ∀ p : Part, ∀ c ∈ p.values, P c
  | .text _ => List.forall_mem_nil _
  | .field value _ none => List.forall_mem_singleton.2 (Term.induct_children h value)
  | .field value _ (some spec) =>
    List.forall_mem_cons.2 ⟨Term.induct_children h value, Part.induct_list h spec⟩

theorem Part.induct_list (h : ∀ t : Term, (∀ c ∈ t.children, P c) → P t) :
    ∀ ps : List Part, ∀ c ∈ Part.valuesEach ps, P c
  | [] => List.forall_mem_nil _
  | p :: rest => List.forall_mem_append.2 ⟨Part.induct_values h p, Part.induct_list h rest⟩

theorem ParamName.induct_list (h : ∀ t : Term, (∀ c ∈ t.children, P c) → P t) :
    ∀ ns : List ParamName, ∀ c ∈ ns.flatMap ParamName.terms, P c
  | [] => List.forall_mem_nil _
  | .mk _ hint :: rest =>
    List.forall_mem_append.2 ⟨Term.induct_option h hint, ParamName.induct_list h rest⟩

theorem ParamName.induct_option (h : ∀ t : Term, (∀ c ∈ t.children, P c) → P t) :
    ∀ n : Option ParamName, ∀ c ∈ n.toList.flatMap ParamName.terms, P c
  | none => List.forall_mem_nil _
  | some (.mk _ hint) =>
    List.forall_mem_append.2 ⟨Term.induct_option h hint, List.forall_mem_nil _⟩

theorem Params.induct_terms (h : ∀ t : Term, (∀ c ∈ t.children, P c) → P t) :
    ∀ ps : Params, ∀ c ∈ ps.terms, P c
  | .mk positionalOnly positional varPositional keywordOnly keywordDefaults varKeyword defaults => by
    have hnames := ParamName.induct_list h positionalOnly
    have hnames' := ParamName.induct_list h positional
    have hstar := ParamName.induct_option h varPositional
    have hkeywords := ParamName.induct_list h keywordOnly
    have hdouble := ParamName.induct_option h varKeyword
    have hgiven := Term.induct_keys h keywordDefaults
    have hdefaults := Term.induct_list h defaults
    simp only [Params.terms, List.flatMap_append, List.forall_mem_append]
    exact ⟨⟨⟨⟨⟨⟨hnames, hnames'⟩, hstar⟩, hkeywords⟩, hdouble⟩, hgiven⟩, hdefaults⟩

end

end

/-! ## Faults -/

/-- A result fails with none but the given faults. -/
class FailsBy {α : Type} (P : Fault → Prop) (r : Except Fault α) : Prop where
  fault {f : Fault} : r = .error f → P f

/-- Each of several results fails with none but the given faults. -/
class EachFailsBy {α : Type} (P : Fault → Prop) (rs : List (Except Fault α)) : Prop where
  fails : ∀ r ∈ rs, FailsBy P r

section

variable {α β : Type} {P : Fault → Prop} {r : Except Fault α} {next : α → Except Fault β}

instance (a : α) : FailsBy P (.ok a) := ⟨nofun⟩

instance (a : α) : FailsBy P (pure a : Except Fault α) := ⟨nofun⟩

instance (t : Text) : FailsBy P (atomText t) := ⟨nofun⟩

theorem FailsBy.bind (h : FailsBy P r) (hnext : ∀ a, r = .ok a → FailsBy P (next a)) :
    FailsBy P (r >>= next) where
  fault {f} hf := by
    cases r with
    | error g => cases hf; exact h.fault rfl
    | ok a => exact (hnext a rfl).fault hf

instance [h : FailsBy P r] [hnext : ∀ a, FailsBy P (next a)] : FailsBy P (r >>= next) :=
  h.bind fun a _ => hnext a

theorem FailsBy.of_bind (h : FailsBy P (r >>= next)) : FailsBy P r :=
  ⟨fun hf => h.fault (by rw [hf]; rfl)⟩

instance (g : α → β) [h : FailsBy P r] : FailsBy P (r.map g) where
  fault {f} hf := by
    cases r with
    | error g => cases hf; exact h.fault rfl
    | ok a => cases hf

instance (least : Precedence) (r : Rendered) [FailsBy P r] : FailsBy P (place least r) := by
  unfold place
  infer_instance

instance (b : Prop) [Decidable b] (q : Except Fault α) [FailsBy P r] [FailsBy P q] :
    FailsBy P (if b then r else q) := by
  split <;> infer_instance

instance : EachFailsBy P ([] : List (Except Fault α)) := ⟨List.forall_mem_nil _⟩

instance (rs : List (Except Fault α)) [h : FailsBy P r] [hs : EachFailsBy P rs] :
    EachFailsBy P (r :: rs) := ⟨List.forall_mem_cons.2 ⟨h, hs.fails⟩⟩

instance (rs qs : List (Except Fault α)) [hr : EachFailsBy P rs] [hq : EachFailsBy P qs] :
    EachFailsBy P (rs ++ qs) := ⟨List.forall_mem_append.2 ⟨hr.fails, hq.fails⟩⟩

instance (b : Prop) [Decidable b] (rs qs : List (Except Fault α)) [EachFailsBy P rs]
    [EachFailsBy P qs] : EachFailsBy P (if b then rs else qs) := by
  split <;> infer_instance

theorem EachFailsBy.map {rs : List (Except Fault α)} {g : Except Fault α → Except Fault β}
    (h : EachFailsBy P rs) (hg : ∀ r, FailsBy P r → FailsBy P (g r)) :
    EachFailsBy P (rs.map g) :=
  ⟨List.forall_mem_map.2 fun r hr => hg r (h.fails r hr)⟩

instance (least : Precedence) (rs : List Rendered) [h : EachFailsBy P rs] :
    EachFailsBy P (rs.map (place least)) := h.map fun _ _ => inferInstance

instance (parts : List (Except Fault Text)) [h : EachFailsBy P parts] :
    FailsBy P (inOrder parts) := by
  obtain ⟨h⟩ := h
  induction parts with
  | nil => exact inferInstanceAs (FailsBy P (.ok []))
  | cons r rest ih =>
    rw [List.forall_mem_cons] at h
    have hfirst := h.1
    have hrest : FailsBy P (List.mapM id rest) := ih h.2
    rw [inOrder, List.mapM_cons]
    exact inferInstanceAs (FailsBy P (r >>= fun t => List.mapM id rest >>= fun ts => pure (t :: ts)))

instance (strength : Precedence) (parts : List (Except Fault Text)) [EachFailsBy P parts] :
    FailsBy P (written strength parts) := by
  unfold written
  infer_instance

/-! ## Parts of a text -/

instance (least : Precedence) (rs : List Rendered) [h : EachFailsBy P rs] :
    EachFailsBy P (risingOperands least rs) := by
  obtain ⟨h⟩ := h
  induction rs generalizing least with
  | nil => unfold risingOperands; infer_instance
  | cons r rs ih =>
    rw [List.forall_mem_cons] at h
    have hfirst := h.1
    have hrest := ih least.next h.2
    unfold risingOperands
    infer_instance

instance (ops : List CompareOp) (rs : List Rendered) [h : EachFailsBy P rs] :
    EachFailsBy P (comparisonTexts ops rs) := by
  obtain ⟨h⟩ := h
  fun_induction comparisonTexts ops rs with
  | case1 op ops r rs ih =>
    rw [List.forall_mem_cons] at h
    have hfirst := h.1
    have hrest := ih h.2
    infer_instance
  | case2 => infer_instance

instance (ks : List (Option Rendered)) (vs : List Rendered) [hk : EachFailsBy P (ks.filterMap id)]
    [hv : EachFailsBy P vs] : EachFailsBy P (entryTexts ks vs) := by
  obtain ⟨hk⟩ := hk
  obtain ⟨hv⟩ := hv
  fun_induction entryTexts ks vs with
  | case1 ks v vs ih =>
    rw [List.forall_mem_cons] at hv
    have hfirst := hv.1
    have hrest := ih hk hv.2
    infer_instance
  | case2 k ks v vs ih =>
    rw [List.forall_mem_cons] at hv
    obtain ⟨hkey, hkeys⟩ : FailsBy P k ∧ ∀ r ∈ ks.filterMap id, FailsBy P r :=
      List.forall_mem_cons.1 hk
    have hfirst := hv.1
    have hrest := ih hkeys hv.2
    infer_instance
  | case3 => infer_instance

instance (slashAfter : Nat) (names : List (Except Fault Text)) (defaults : List (Option Rendered))
    [hn : EachFailsBy P names] [hd : EachFailsBy P (defaults.filterMap id)] :
    EachFailsBy P (positionalTexts slashAfter names defaults) := by
  obtain ⟨hn⟩ := hn
  obtain ⟨hd⟩ := hd
  induction names generalizing slashAfter defaults with
  | nil => unfold positionalTexts; infer_instance
  | cons name names ih =>
    rw [List.forall_mem_cons] at hn
    have hname := hn.1
    have hrest := ih (slashAfter - 1) defaults.tail hn.2 fun r hr => hd r
      (((List.tail_sublist defaults).filterMap id).subset hr)
    unfold positionalTexts
    cases defaults with
    | nil => infer_instance
    | cons d ds =>
      cases d with
      | none => infer_instance
      | some d =>
        have hdefault : FailsBy P d := hd d List.mem_cons_self
        infer_instance

instance (names : List (Except Fault Text)) (ds : List (Option Rendered))
    [hn : EachFailsBy P names] [hd : EachFailsBy P (ds.filterMap id)] :
    EachFailsBy P (keywordTexts names ds) := by
  obtain ⟨hn⟩ := hn
  obtain ⟨hd⟩ := hd
  fun_induction keywordTexts names ds with
  | case1 name names d ds ih =>
    rw [List.forall_mem_cons] at hn
    have hname := hn.1
    have hrest := ih hn.2 fun r hr => hd r
      (((List.sublist_cons_self d ds).filterMap id).subset hr)
    cases d with
    | none => infer_instance
    | some d =>
      have hdefault : FailsBy P d := hd d List.mem_cons_self
      infer_instance
  | case2 => infer_instance

end

/-! ## Terms -/

/-- A term that cannot be written by itself, whatever stands inside it: an integer that is too long,
or a formatted string with a field that would need a backslash. -/
def Term.Unwritable (f : Fault) : Term → Prop
  | .number (.int n) => f = .tooManyDigits ∧ digitLimit < (Nat.toDigits 10 n.natAbs).length
  | .formatted _ parts => f = .backslashInField ∧ ∃ value ∈ Part.valuesEach parts, ∃ text,
      place .disj (value.canonical true) = .ok text ∧ CodePoint.scalar '\\' ∈ text
  | _ => False

theorem Term.Unwritable.fault {f : Fault} {t : Term} (h : t.Unwritable f) :
    f = .tooManyDigits ∨ f = .backslashInField := by
  unfold Term.Unwritable at h
  split at h
  · exact .inl h.1
  · exact .inr h.1
  · exact h.elim

/-- Writing a term fails with none but the given faults, whether backslashes are avoided or not. -/
def Term.FailsBy (P : Fault → Prop) (t : Term) : Prop :=
  ∀ sparing, Grammar.FailsBy P (t.canonical sparing)

section

variable {P : Fault → Prop} (sparing : Bool)

theorem Term.canonicalEach_fails {ts : List Term} (h : ∀ t ∈ ts, t.FailsBy P) :
    EachFailsBy P (Term.canonicalEach sparing ts) := by
  induction ts with
  | nil => unfold Term.canonicalEach; infer_instance
  | cons t ts ih =>
    rw [List.forall_mem_cons] at h
    have hfirst := h.1 sparing
    have hrest := ih h.2
    unfold Term.canonicalEach
    infer_instance

theorem Term.canonicalKeys_fails {ts : List (Option Term)} (h : ∀ t ∈ ts.filterMap id, t.FailsBy P) :
    EachFailsBy P ((Term.canonicalKeys sparing ts).filterMap id) := by
  induction ts with
  | nil => exact inferInstanceAs (EachFailsBy P [])
  | cons t ts ih =>
    cases t with
    | none => exact ih h
    | some t =>
      obtain ⟨hfirst, hrest⟩ : t.FailsBy P ∧ ∀ t ∈ ts.filterMap id, t.FailsBy P :=
        List.forall_mem_cons.1 h
      have hfirst := hfirst sparing
      have hrest := ih hrest
      exact inferInstanceAs (EachFailsBy P
        (t.canonical sparing :: (Term.canonicalKeys sparing ts).filterMap id))

theorem Term.placeOptional_fails {term : Option Term} (h : ∀ t ∈ term.toList, t.FailsBy P) :
    Grammar.FailsBy P (placeOptional (Term.canonicalOption sparing term)) := by
  cases term with
  | none => exact inferInstanceAs (Grammar.FailsBy P (.ok []))
  | some t =>
    have hterm := h t List.mem_cons_self sparing
    exact inferInstanceAs (Grammar.FailsBy P (place .test (t.canonical sparing)))

theorem Argument.canonicalEach_fails {ks : List Argument}
    (h : ∀ t ∈ ks.map Argument.value, t.FailsBy P) :
    EachFailsBy P (Argument.canonicalEach sparing ks) := by
  induction ks with
  | nil => unfold Argument.canonicalEach; infer_instance
  | cons k ks ih =>
    obtain ⟨arg, value⟩ := k
    obtain ⟨hfirst, hrest⟩ := List.forall_mem_cons.1 h
    have hfirst : Grammar.FailsBy P (value.canonical sparing) := hfirst sparing
    have hrest := ih hrest
    unfold Argument.canonicalEach
    cases arg <;> infer_instance

theorem Clause.canonicalEach_fails {cs : List Clause}
    (h : ∀ t ∈ cs.flatMap Clause.terms, t.FailsBy P) :
    EachFailsBy P (Clause.canonicalEach sparing cs) := by
  induction cs with
  | nil => unfold Clause.canonicalEach; infer_instance
  | cons c cs ih =>
    obtain ⟨isAsync, target, iter, conditions⟩ := c
    obtain ⟨hfirst, hrest⟩ := List.forall_mem_append.1 h
    obtain ⟨htarget, hfirst⟩ := List.forall_mem_cons.1 hfirst
    obtain ⟨hiter, hconditions⟩ := List.forall_mem_cons.1 hfirst
    have htarget := htarget sparing
    have hiter := hiter sparing
    have hconditions : EachFailsBy P ((Term.canonicalEach sparing conditions).map fun c =>
        (place .disj c).map (Text.ofString " if " ++ ·)) :=
      (Term.canonicalEach_fails sparing hconditions).map fun _ _ => inferInstance
    have hrest := ih hrest
    unfold Clause.canonicalEach
    infer_instance

theorem ParamName.canonicalEach_fails {ns : List ParamName}
    (h : ∀ t ∈ ns.flatMap ParamName.terms, t.FailsBy P) :
    EachFailsBy P (ParamName.canonicalEach sparing ns) := by
  induction ns with
  | nil => unfold ParamName.canonicalEach; infer_instance
  | cons n ns ih =>
    obtain ⟨hfirst, hrest⟩ := List.forall_mem_append.1 h
    have hrest := ih hrest
    obtain ⟨name, _ | hint⟩ := n
    · unfold ParamName.canonicalEach
      infer_instance
    · have hhint := hfirst hint List.mem_cons_self sparing
      unfold ParamName.canonicalEach
      infer_instance

theorem ParamName.canonicalOption_fails {n : Option ParamName} (mark : Text)
    (h : ∀ t ∈ n.toList.flatMap ParamName.terms, t.FailsBy P) :
    EachFailsBy P (ParamName.canonicalOption sparing mark n) := by
  obtain _ | ⟨name, _ | hint⟩ := n
  · unfold ParamName.canonicalOption
    infer_instance
  · unfold ParamName.canonicalOption
    infer_instance
  · have hhint := h hint List.mem_cons_self sparing
    unfold ParamName.canonicalOption
    infer_instance

theorem Params.canonical_fails {ps : Params} (h : ∀ t ∈ ps.terms, t.FailsBy P) :
    Grammar.FailsBy P (Params.canonical sparing ps) := by
  obtain ⟨positionalOnly, positional, varPositional, keywordOnly, keywordDefaults, varKeyword,
    defaults⟩ := ps
  simp only [Params.terms, List.flatMap_append, List.forall_mem_append] at h
  obtain ⟨⟨⟨⟨⟨⟨hnames, hnames'⟩, hstar⟩, hkeywords⟩, hdouble⟩, hgiven⟩, hdefaults⟩ := h
  have hnames := ParamName.canonicalEach_fails sparing hnames
  have hnames' := ParamName.canonicalEach_fails sparing hnames'
  have hstar := ParamName.canonicalOption_fails sparing "*" hstar
  have hkeywords := ParamName.canonicalEach_fails sparing hkeywords
  have hdouble := ParamName.canonicalOption_fails sparing "**" hdouble
  have hgiven := Term.canonicalKeys_fails sparing hgiven
  have hdefaults : EachFailsBy P ((List.replicate
      (positionalOnly.length + positional.length - defaults.length) none ++
        (Term.canonicalEach sparing defaults).map some).filterMap id) := by
    rw [List.filterMap_append, List.filterMap_replicate_of_none rfl, List.filterMap_map]
    simpa using Term.canonicalEach_fails sparing hdefaults
  unfold Params.canonical
  dsimp only
  split
  · infer_instance
  · infer_instance

theorem fieldWhole_fails {value : Text} (h : CodePoint.scalar '\\' ∈ value → P .backslashInField)
    (conversion : Option Char) (spec : Option Text) :
    Grammar.FailsBy P (fieldWhole value conversion spec) := by
  unfold fieldWhole
  split
  · rename_i hvalue
    exact ⟨fun hf => by cases hf; exact h (List.contains_iff_mem.1 hvalue)⟩
  · dsimp only
    infer_instance

/-- Writing a term as the value of a field fails with none but the given faults. -/
structure Term.FieldFailsBy (P : Fault → Prop) (t : Term) : Prop where
  fails : t.FailsBy P
  slashed {text : Text} : place .disj (t.canonical true) = .ok text →
    CodePoint.scalar '\\' ∈ text → P .backslashInField

theorem Part.canonicalEach_fails : ∀ {ps : List Part},
    (∀ t ∈ Part.valuesEach ps, t.FieldFailsBy P) → Grammar.FailsBy P (Part.canonicalEach ps)
  | [], _ => by unfold Part.canonicalEach; infer_instance
  | .text value :: rest, h => by
    have hrest : Grammar.FailsBy P (Part.canonicalEach rest) := Part.canonicalEach_fails h
    unfold Part.canonicalEach
    infer_instance
  | .field value conversion none :: rest, h => by
    obtain ⟨hvalue, hrest⟩ := List.forall_mem_cons.1 h
    have hrest := Part.canonicalEach_fails hrest
    have hplace := hvalue.fails true
    unfold Part.canonicalEach
    refine FailsBy.bind inferInstance fun v hv => ?_
    have hwhole := fieldWhole_fails (hvalue.slashed hv) conversion none
    infer_instance
  | .field value conversion (some spec) :: rest, h => by
    obtain ⟨hvalue, hothers⟩ := List.forall_mem_cons.1 h
    obtain ⟨hspec, hrest⟩ := List.forall_mem_append.1 hothers
    have hspec := Part.canonicalEach_fails hspec
    have hrest := Part.canonicalEach_fails hrest
    have hplace := hvalue.fails true
    unfold Part.canonicalEach
    refine FailsBy.bind inferInstance fun v hv => ?_
    have hwhole := fieldWhole_fails (hvalue.slashed hv) conversion
    infer_instance

/-- Writing a term fails with none but its own faults and those of the terms directly inside. -/
theorem Term.fails_of_children {t : Term} (hchildren : ∀ c ∈ t.children, c.FailsBy P)
    (hself : ∀ f, t.Unwritable f → P f) : t.FailsBy P := by
  intro sparing
  cases t with
  | name id | string value unicode | bytes span value | truth value | noneLiteral | ellipsis span =>
    unfold Term.canonical
    infer_instance
  | number value =>
    have hvalue : Grammar.FailsBy P (numberText value) := by
      cases value with
      | int n =>
        refine ⟨fun {f} hf => hself f ?_⟩
        change (if _ then _ else _) = _ at hf
        split at hf
        · cases hf
        · rename_i hdigits
          cases hf
          exact ⟨rfl, Nat.not_le.1 hdigits⟩
      | _ => exact ⟨nofun⟩
    unfold Term.canonical
    infer_instance
  | call func args keywords =>
    obtain ⟨hfirst, hkeywords⟩ := List.forall_mem_append.1 hchildren
    obtain ⟨hfunc, hargs⟩ := List.forall_mem_cons.1 hfirst
    have hfunc := hfunc sparing
    have hargs := Term.canonicalEach_fails sparing hargs
    have hkeywords := Argument.canonicalEach_fails sparing hkeywords
    unfold Term.canonical
    infer_instance
  | binary left op right =>
    obtain ⟨hleft, hright⟩ := List.forall_mem_cons.1 hchildren
    have hleft := hleft sparing
    have hright := hright right List.mem_cons_self sparing
    unfold Term.canonical
    infer_instance
  | unary op operand =>
    have hoperand := hchildren operand List.mem_cons_self sparing
    cases op <;> unfold Term.canonical <;> infer_instance
  | logical op values =>
    have hvalues : EachFailsBy P (Term.canonicalEach sparing values) :=
      Term.canonicalEach_fails sparing hchildren
    unfold Term.canonical
    infer_instance
  | compare left ops comparators =>
    obtain ⟨hleft, hcomparators⟩ := List.forall_mem_cons.1 hchildren
    have hleft := hleft sparing
    have hcomparators := Term.canonicalEach_fails sparing hcomparators
    unfold Term.canonical
    infer_instance
  | «attribute» value attr =>
    have hvalue := hchildren value List.mem_cons_self sparing
    unfold Term.canonical
    infer_instance
  | subscript span value index =>
    obtain ⟨hvalue, hindex⟩ := List.forall_mem_cons.1 hchildren
    have hvalue := hvalue sparing
    have hindex := hindex index List.mem_cons_self sparing
    -- The elements of a tuple are written as the tuple writes them, less its parentheses.
    by_cases htuple : ∃ e es, index = .tuple (e :: es)
    · obtain ⟨e, es, rfl⟩ := htuple
      unfold Term.canonical at hindex
      have hitems := FailsBy.of_bind hindex
      unfold Term.canonical
      infer_instance
    · rw [Term.canonical]
      · infer_instance
      · exact fun e es he => htuple ⟨e, es, he⟩
  | slice span lower upper step =>
    obtain ⟨hbounds, hstep⟩ := List.forall_mem_append.1 hchildren
    obtain ⟨hlower, hupper⟩ := List.forall_mem_append.1 hbounds
    have hlower := Term.placeOptional_fails sparing hlower
    have hupper := Term.placeOptional_fails sparing hupper
    cases step with
    | none => exact inferInstanceAs (Grammar.FailsBy P (placeOptional _ >>= fun l =>
        placeOptional _ >>= fun u => pure (l ++ ":" ++ u, Precedence.atom)))
    | some step =>
      have hstep := hstep step List.mem_cons_self sparing
      exact inferInstanceAs (Grammar.FailsBy P (placeOptional _ >>= fun l => placeOptional _ >>=
        fun u => place .test (step.canonical sparing) >>=
          fun s => pure (l ++ ":" ++ u ++ ":" ++ s, Precedence.atom)))
  | starred value =>
    have hvalue := hchildren value List.mem_cons_self sparing
    unfold Term.canonical
    infer_instance
  | tuple elements =>
    cases elements with
    | nil => unfold Term.canonical; infer_instance
    | cons e es =>
      obtain ⟨hfirst, hrest⟩ := List.forall_mem_cons.1 hchildren
      have hfirst := hfirst sparing
      have hrest := Term.canonicalEach_fails sparing hrest
      unfold Term.canonical
      infer_instance
  | list elements =>
    have helements : EachFailsBy P (Term.canonicalEach sparing elements) :=
      Term.canonicalEach_fails sparing hchildren
    unfold Term.canonical
    infer_instance
  | set span elements =>
    have helements : EachFailsBy P (Term.canonicalEach sparing elements) :=
      Term.canonicalEach_fails sparing hchildren
    unfold Term.canonical
    infer_instance
  | dict keys values =>
    obtain ⟨hkeys, hvalues⟩ := List.forall_mem_append.1 hchildren
    have hkeys := Term.canonicalKeys_fails sparing hkeys
    have hvalues := Term.canonicalEach_fails sparing hvalues
    unfold Term.canonical
    infer_instance
  | formatted span parts =>
    have hparts : Grammar.FailsBy P (Part.canonicalEach parts) :=
      Part.canonicalEach_fails fun value hvalue =>
        ⟨hchildren value hvalue, fun {text} htext hslash =>
          hself _ ⟨rfl, value, hvalue, text, htext, hslash⟩⟩
    unfold Term.canonical
    infer_instance
  | lambda span params body =>
    obtain ⟨hparams, hbody⟩ := List.forall_mem_append.1 hchildren
    have hparams := Params.canonical_fails sparing hparams
    have hbody := hbody body List.mem_cons_self sparing
    unfold Term.canonical
    infer_instance
  | conditional span test body orelse =>
    obtain ⟨htest, hothers⟩ := List.forall_mem_cons.1 hchildren
    obtain ⟨hbody, horelse⟩ := List.forall_mem_cons.1 hothers
    have htest := htest sparing
    have hbody := hbody sparing
    have horelse := horelse orelse List.mem_cons_self sparing
    unfold Term.canonical
    infer_instance
  | named span id value =>
    have hvalue := hchildren value List.mem_cons_self sparing
    unfold Term.canonical
    infer_instance
  | listComp span element clauses | setComp span element clauses | generator span element clauses =>
    obtain ⟨helement, hclauses⟩ := List.forall_mem_cons.1 hchildren
    have helement := helement sparing
    have hclauses := Clause.canonicalEach_fails sparing hclauses
    unfold Term.canonical comprehensionText
    infer_instance
  | dictComp span key value clauses =>
    obtain ⟨hkey, hothers⟩ := List.forall_mem_cons.1 hchildren
    obtain ⟨hvalue, hclauses⟩ := List.forall_mem_cons.1 hothers
    have hkey := hkey sparing
    have hvalue := hvalue sparing
    have hclauses := Clause.canonicalEach_fails sparing hclauses
    unfold Term.canonical comprehensionText
    infer_instance
  | await span value =>
    have hvalue := hchildren value List.mem_cons_self sparing
    unfold Term.canonical
    infer_instance
  | yield span value =>
    cases value with
    | none => unfold Term.canonical; infer_instance
    | some value =>
      have hvalue := hchildren value List.mem_cons_self sparing
      unfold Term.canonical
      infer_instance
  | yieldFrom span value =>
    have hvalue := hchildren value List.mem_cons_self sparing
    unfold Term.canonical
    infer_instance

end

/-- The canonical text of a term can be written, or something inside the term cannot be. -/
theorem Term.canonical_fails (t : Term) :
    t.FailsBy fun f => ∃ n : Term, n.Within t ∧ n.Unwritable f := by
  induction t using Term.induct_children with | h t ih => _
  refine Term.fails_of_children (fun c hc sparing => ⟨fun hf => ?_⟩) fun f hf => ⟨t, .self, hf⟩
  obtain ⟨n, hn, hself⟩ := (ih c hc sparing).fault hf
  exact ⟨n, .inside hc hn, hself⟩

end Refactory.Grammar
