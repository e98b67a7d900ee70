import Refactory.Proofs.Grammar.Display

/-! # Calls, subscripts and attributes

What stands behind an atom is read in a loop. `Trailing` says how far the loop has come when it has read
an expression; it goes on with an attribute, a call or a subscript, and ends where nothing binds as
tightly as these. -/

namespace Refactory.Grammar

variable [Setting] {r : Readers} {ms after : List Mark} {e : Expr}

/-! ## Arguments -/

/-- A keyword argument. -/
inductive Passed (r : Readers) : Keyword → List Mark → Prop
  | named {arg : Text} {v : Expr} {ms : List Mark} (h : Inner r v ms) :
    Passed r (.mk (some arg) v) (.name arg :: .symbol "=" :: ms)
  | unpacked {v : Expr} {ms : List Mark} (h : Unpacked r v ms) :
    Passed r (.mk none v) (.symbol "**" :: ms)

/-- A keyword argument of the grammar stands for one of the tree. -/
def Argument.Is (a : Argument) (k : Keyword) : Prop :=
  ∃ t : Term, a = .mk k.arg t ∧ t.Is k.value

/-- The arguments read so far stand for those given. -/
structure ArgumentsSoFar.Are (a : ArgumentsSoFar) (args : List Expr) (kws : List Keyword) : Prop where
  positional : List.Forall₂ (fun e t => Term.Is t e) args a.positional.reverse
  keywords : List.Forall₂ (fun k x => Argument.Is x k) kws a.keywords.reverse
  unpacked : kws = [] → a.unpacked = false

section

variable {a : ArgumentsSoFar} {args : List Expr} {kws : List Keyword} {k : Keyword}

theorem ArgumentsSoFar.Are.isEmpty (h : a.Are args []) : a.keywords.isEmpty = true := by
  rw [List.isEmpty_iff, ← List.reverse_eq_nil_iff]
  exact List.forall₂_nil_left_iff.1 h.keywords

theorem ArgumentsSoFar.Are.addPositional (h : a.Are args kws) {t : Term} (ht : t.Is e) :
    { a with positional := t :: a.positional : ArgumentsSoFar }.Are (args ++ [e]) kws where
  positional := by
    rw [List.reverse_cons]
    exact List.rel_append h.positional (.cons ht .nil)
  keywords := h.keywords
  unpacked := h.unpacked

theorem ArgumentsSoFar.Are.addKeyword (h : a.Are args kws) {x : Argument} (hx : x.Is k)
    (unpacked : Bool) :
    { a with keywords := x :: a.keywords, unpacked : ArgumentsSoFar }.Are args (kws ++ [k]) where
  positional := h.positional
  keywords := by
    rw [List.reverse_cons]
    exact List.rel_append h.keywords (.cons hx .nil)
  unpacked := fun hnil => by simp at hnil

theorem argument_positional (h : Element r e ms) (ha : a.Are args []) (hafter : Ends after) :
    Takes (argument r a) (ms ++ after) fun a' ms' => a'.Are (args ++ [e]) [] ∧ ms' = after := by
  cases h with
  | plain h =>
    refine ifAccept_miss (h.head_ne _ (by decide)) (ifAccept_miss (h.head_ne _ (by decide)) ?_)
    refine ifNameThen_miss (h.named "=" after (by decide) (hafter.head_ne (by decide))) ?_
    rw [ha.isEmpty, if_pos rfl]
    refine (h.namedExpression hafter).next fun t ht => ?_
    exact refuse_pass (hafter.head_ne (by decide)) (.pure ⟨ha.addPositional ht, rfl⟩)
  | starred h =>
    refine ifAccept_miss (symbol_head_ne (by decide) _) (ifAccept_hit ?_)
    rw [if_neg (by rw [ha.unpacked rfl]; exact Bool.false_ne_true)]
    refine (h.expression after hafter).next fun t ht => ?_
    exact .pure ⟨ha.addPositional ht.starred, rfl⟩

theorem argument_keyword (h : Passed r k ms) (ha : a.Are args kws) (hafter : Ends after) :
    Takes (argument r a) (ms ++ after) fun a' ms' => a'.Are args (kws ++ [k]) ∧ ms' = after := by
  cases h with
  | named h =>
    refine ifAccept_miss (by simp) (ifAccept_miss (by simp) ?_)
    refine (nameThen_takes "=").next_eq ?_
    rw [if_pos (by rfl)]
    refine identifier_takes.next_eq ?_
    refine expect_hit ((h.takes after hafter).next fun t ht => ?_)
    exact .pure ⟨ha.addKeyword (k := .mk (some _) _) ⟨t, rfl, ht⟩ a.unpacked, rfl⟩
  | unpacked h =>
    refine ifAccept_hit ((h.expression after hafter).next fun t ht => ?_)
    exact .pure ⟨ha.addKeyword (k := .mk none _) ⟨t, rfl, ht⟩ true, rfl⟩

/-- The marks of arguments, each behind a comma. -/
def restMarks (w : Expr → List Mark) (wk : Keyword → List Mark) (es : List Expr)
    (ks : List Keyword) : List Mark :=
  es.flatMap (fun x => .symbol "," :: w x) ++ ks.flatMap fun x => .symbol "," :: wk x

variable {w : Expr → List Mark} {wk : Keyword → List Mark} {es : List Expr} {ks : List Keyword}

omit [Setting] in
theorem restMarks_ends (es : List Expr) (ks : List Keyword) :
    Ends (restMarks w wk es ks ++ .symbol ")" :: after) := by
  cases es with
  | cons x es => exact ends_cons (by decide) _
  | nil =>
    cases ks with
    | nil => exact ends_cons (by decide) _
    | cons x ks => exact ends_cons (by decide) _

theorem moreArguments_keywords (hks : ∀ x ∈ ks, Passed r x (wk x)) {fuel : Nat}
    (hfuel : ks.length < fuel) (ha : a.Are args kws) :
    Takes (moreArguments r fuel a) (restMarks w wk [] ks ++ .symbol ")" :: after)
      fun a' ms' => a'.Are args (kws ++ ks) ∧ ms' = .symbol ")" :: after := by
  induction ks generalizing fuel a kws with
  | nil =>
    obtain ⟨fuel, rfl⟩ := Nat.exists_eq_add_one_of_ne_zero (Nat.ne_of_gt hfuel)
    rw [List.append_nil]
    exact ifAccept_miss (symbol_head_ne (by decide) after) (.pure ⟨ha, rfl⟩)
  | cons k ks ih =>
    obtain ⟨fuel, rfl⟩ := Nat.exists_eq_add_one_of_ne_zero (Nat.ne_of_gt (Nat.zero_lt_of_lt hfuel))
    have hk := hks k List.mem_cons_self
    have hne : next? (wk k ++ (restMarks w wk [] ks ++ .symbol ")" :: after)) ≠
        some (.symbol ")") := by
      generalize wk k = ms at hk
      cases hk <;> simp
    rw [restMarks, List.flatMap_cons, List.flatMap_nil, List.nil_append, List.append_assoc,
      List.cons_append]
    refine ifAccept_hit (ifNext_miss hne ?_)
    refine (argument_keyword hk ha (restMarks_ends (w := w) [] ks)).next fun a' ha' => ?_
    rw [List.append_cons kws]
    exact ih (fun x hx => hks x (List.mem_cons_of_mem k hx)) (Nat.lt_of_succ_lt_succ hfuel) ha'

theorem moreArguments_takes (hes : ∀ x ∈ es, Element r x (w x))
    (hks : ∀ x ∈ ks, Passed r x (wk x)) {fuel : Nat} (hfuel : es.length + ks.length < fuel)
    (ha : a.Are args []) :
    Takes (moreArguments r fuel a) (restMarks w wk es ks ++ .symbol ")" :: after)
      fun a' ms' => a'.Are (args ++ es) ks ∧ ms' = .symbol ")" :: after := by
  induction es generalizing fuel a args with
  | nil =>
    rw [List.append_nil]
    exact moreArguments_keywords hks (by simpa using hfuel) ha
  | cons x es ih =>
    obtain ⟨fuel, rfl⟩ := Nat.exists_eq_add_one_of_ne_zero (Nat.ne_of_gt (Nat.zero_lt_of_lt hfuel))
    have hx := hes x List.mem_cons_self
    rw [restMarks, List.flatMap_cons, List.append_assoc, List.append_assoc, List.cons_append]
    refine ifAccept_hit (ifNext_miss (hx.head_ne _ (by decide) (by decide)) ?_)
    refine (argument_positional hx ha ?_).next fun a' ha' => ?_
    · rw [← List.append_assoc]
      exact restMarks_ends es ks
    rw [List.append_cons args, ← List.append_assoc]
    have hfuel' : es.length + ks.length < fuel := by
      rw [List.length_cons] at hfuel
      omega
    exact ih (fun y hy => hes y (List.mem_cons_of_mem x hy)) hfuel' ha'

/-- The marks of the arguments of a call. -/
def argumentMarks (w : Expr → List Mark) (wk : Keyword → List Mark) :
    List Expr → List Keyword → List Mark
  | [], [] => []
  | [], k :: ks => wk k ++ restMarks w wk [] ks
  | e :: es, ks => w e ++ restMarks w wk es ks

omit [Setting] in
theorem length_le_restMarks (w : Expr → List Mark) (wk : Keyword → List Mark) (es : List Expr)
    (ks : List Keyword) : es.length + ks.length ≤ (restMarks w wk es ks).length := by
  have hle : ∀ {α : Type} (f : α → List Mark) (xs : List α),
      xs.length ≤ (xs.flatMap fun x => .symbol "," :: f x).length := fun f xs => by
    induction xs with
    | nil => exact Nat.le_refl 0
    | cons x xs ih =>
      rw [List.flatMap_cons, List.length_append, List.length_cons, List.length_cons]
      omega
  rw [restMarks, List.length_append]
  exact Nat.add_le_add (hle w es) (hle wk ks)

/-- The arguments of a call stand for those given. -/
def ArgumentsAre (x : List Term × List Argument) (args : List Expr) (kws : List Keyword) : Prop :=
  List.Forall₂ (fun e t => Term.Is t e) args x.1 ∧ List.Forall₂ (fun k a => Argument.Is a k) kws x.2

theorem closeArguments_takes
    (h : ∀ fuel, es.length + ks.length < fuel → Takes (moreArguments r fuel a)
      (restMarks w wk es ks ++ .symbol ")" :: after)
      fun a' ms' => a'.Are args kws ∧ ms' = .symbol ")" :: after) :
    Takes (closeArguments r a) (restMarks w wk es ks ++ .symbol ")" :: after)
      fun x ms' => ArgumentsAre x args kws ∧ ms' = after := by
  refine Takes.next (P := fun a' => a'.Are args kws) (k := .symbol ")" :: after)
    (fun c hc => ?_) fun a' ha' => ?_
  · refine h _ ?_ c hc
    have hlength := hc.length_le
    have hle := length_le_restMarks w wk es ks
    rw [List.length_append] at hlength
    omega
  · exact expect_hit (.pure ⟨⟨ha'.positional, ha'.keywords⟩, rfl⟩)

theorem arguments_takes (hes : ∀ x ∈ es, Element r x (w x)) (hks : ∀ x ∈ ks, Passed r x (wk x))
    (start : Option Position) :
    Takes (arguments r start) (argumentMarks w wk es ks ++ .symbol ")" :: after)
      fun x ms' => ArgumentsAre x es ks ∧ ms' = after := by
  have hnone : ArgumentsSoFar.Are {} [] [] := ⟨.nil, .nil, fun _ => rfl⟩
  match es, ks with
  | [], [] => exact ifAccept_hit (.pure ⟨⟨.nil, .nil⟩, rfl⟩)
  | [], k :: ks =>
    have hk := hks k List.mem_cons_self
    have hne : next? (wk k ++ (restMarks w wk [] ks ++ .symbol ")" :: after)) ≠
        some (.symbol ")") := by
      generalize wk k = ms at hk
      cases hk <;> simp
    rw [argumentMarks, List.append_assoc]
    refine ifAccept_miss hne ?_
    refine (argument_keyword hk hnone (restMarks_ends (w := w) [] ks)).next fun a ha => ?_
    have hpositional : a.positional = [] := by
      rw [← List.reverse_eq_nil_iff]
      exact List.forall₂_nil_left_iff.1 ha.positional
    have hclose : Takes (closeArguments r a) (restMarks w wk [] ks ++ .symbol ")" :: after)
        fun x ms' => ArgumentsAre x [] (k :: ks) ∧ ms' = after :=
      closeArguments_takes fun fuel hfuel => moreArguments_keywords
        (fun x hx => hks x (List.mem_cons_of_mem k hx)) (by simpa using hfuel) ha
    simp only [hpositional]
    cases start with
    | none => exact hclose
    | some start => exact hclose
  | e :: es, ks =>
    have he := hes e List.mem_cons_self
    have hends : Ends (restMarks w wk es ks ++ .symbol ")" :: after) := restMarks_ends es ks
    rw [argumentMarks, List.append_assoc]
    refine ifAccept_miss (he.head_ne _ (by decide) (by decide)) ?_
    refine (argument_positional he hnone hends).next fun a ha => ?_
    have hclose : Takes (closeArguments r a) (restMarks w wk es ks ++ .symbol ")" :: after)
        fun x ms' => ArgumentsAre x (e :: es) ks ∧ ms' = after :=
      closeArguments_takes fun fuel hfuel => moreArguments_takes
        (fun x hx => hes x (List.mem_cons_of_mem e hx)) hks hfuel ha
    split
    · refine (nextIsClause_miss hends).next_eq ?_
      rw [Bool.and_false, if_neg Bool.false_ne_true]
      exact hclose
    · exact hclose

end

/-! ## Subscripts -/

theorem sliceItem_takes (h : Inner r e ms) :
    TakesExpr (sliceItem r) (ms ++ .symbol "]" :: after) e (.symbol "]" :: after) := by
  have hends : Ends (.symbol "]" :: after) := ends_cons (by decide) _
  refine takes_here fun _ => ifAccept_miss (h.head_ne _ (by decide)) ?_
  refine ifNameThen_miss (h.named ":=" _ (by decide) (hends.head_ne (by decide))) ?_
  refine (nextIs_miss (h.head_ne _ (by decide))).next_eq ?_
  rw [if_neg Bool.false_ne_true]
  have hlower : Takes (some <$> r .expression) (ms ++ .symbol "]" :: after) fun lower ms' =>
      ∃ t, lower = some t ∧ t.Is e ∧ ms' = .symbol "]" :: after :=
    (h.takes _ hends).map fun t _ ht => ⟨t, rfl, ht⟩
  refine hlower.bind fun lower ms' ⟨t, hlower, ht, hms⟩ => ?_
  rw [hms, hlower]
  refine refuse_pass (hends.head_ne (by decide)) ?_
  exact ifAccept_miss (symbol_head_ne (by decide) after) (.pure ⟨ht, rfl⟩)

theorem sliceItems_single (h : Inner r e ms) :
    Takes (commaSeparated (sliceItem r)) (ms ++ .symbol "]" :: after) fun x ms' =>
      (∃ t, x = ([t], false) ∧ t.Is e) ∧ ms' = .symbol "]" :: after := by
  have hne : next? (Mark.symbol "]" :: after) ≠ some (.symbol ",") :=
    symbol_head_ne (by decide) after
  refine (sliceItem_takes h).next fun t ht => ?_
  refine (Takes.many_none (expect_miss hne).bind).next_eq ?_
  exact (accept_miss hne).next fun b hb => .pure ⟨⟨t, by rw [hb], ht⟩, rfl⟩

theorem subscriptIndex_takes (h : Inner r e ms) :
    TakesExpr (subscriptIndex r) (ms ++ .symbol "]" :: after) e (.symbol "]" :: after) := by
  refine (sliceItems_single h).next ?_
  rintro _ ⟨t, rfl, ht⟩
  have hstarred := ht.not_starred h.starred
  cases t with
  | starred value => cases hstarred
  | _ => exact .pure ⟨ht, rfl⟩

/-! ## The loop behind an atom -/

theorem Term.Is.attribute {t : Term} (h : t.Is e) (attr : Text) :
    (Term.attribute t attr).Is (.attribute e attr) := by
  refine ⟨?_, rfl⟩
  rw [Term.toExpr, h.toExpr]
  rfl

theorem Argument.toKeywords_of {ks : List Keyword} {as : List Argument}
    (h : List.Forall₂ (fun k a => Argument.Is a k) ks as) :
    Argument.toKeywords origin as = .ok ks := by
  induction h with
  | nil => rfl
  | cons hk _ ih =>
    rename_i k a _ _ _
    obtain ⟨t, rfl, ht⟩ := hk
    rw [Argument.toKeywords, ht.toExpr, ih]
    cases k
    rfl

theorem Term.Is.call {t : Term} (h : t.Is e) {x : List Term × List Argument} {args : List Expr}
    {kws : List Keyword} (hx : ArgumentsAre x args kws) :
    (Term.call t x.1 x.2).Is (.call e args kws) := by
  refine ⟨?_, rfl⟩
  rw [Term.toExpr, h.toExpr, Term.toExprs_of hx.1, Argument.toKeywords_of hx.2]
  rfl

theorem Term.Is.subscript {t u : Term} (h : t.Is e) {index : Expr} (hu : u.Is index) (span : Span) :
    (Term.subscript span t u).Is (.subscript e index) := by
  refine ⟨?_, rfl⟩
  have hslice := hu.sliceless
  cases u with
  | slice inner lower upper step => cases hslice
  | _ =>
    rw [Term.toExpr, h.toExpr, hu.toExpr]
    · rfl
    · rintro _ _ _ _ ⟨⟩

/-- An atom is read from `ms`, and the loop behind it goes on until it has read the expression and
`after` is left. -/
def Trailing (r : Readers) (ms : List Mark) (e : Expr) (after : List Mark) : Prop :=
  ∀ c, Shows c.rest ms → ∃ start t c' k, here c = some (start, c) ∧ atom r c = some (t, c') ∧
    after.length + k ≤ c'.rest.length ∧
    ∀ fuel post, (∀ u, u.Is e → Takes (trailers r start fuel u) after post) →
      Succeeds (trailers r start (fuel + k) t) c' post

theorem Trailing.atom (h : TakesExpr (atom r) ms e after) : Trailing r ms e after := fun c hc => by
  obtain ⟨t, c', ms', ht, hc', hexpr, rfl⟩ := h c hc
  exact ⟨_, t, c', 0, rfl, ht, hc'.length_le, fun _ _ hpost => hpost t hexpr c' hc'⟩

/-- One round of the loop. -/
theorem Trailing.step {e' : Expr} {mid : List Mark} (h : Trailing r ms e mid)
    (hlength : after.length < mid.length)
    (hstep : ∀ start fuel t post, t.Is e →
      (∀ u, u.Is e' → Takes (trailers r start fuel u) after post) →
      Takes (trailers r start (fuel + 1) t) mid post) : Trailing r ms e' after := fun c hc => by
  obtain ⟨start, t, c', k, hstart, ht, hk, hloop⟩ := h c hc
  refine ⟨start, t, c', k + 1, hstart, ht, by omega, fun fuel post hpost => ?_⟩
  rw [Nat.add_comm k 1, ← Nat.add_assoc]
  exact hloop (fuel + 1) post fun u hu => hstep start fuel u post hu hpost

theorem Trailing.attribute {attr : Text}
    (h : Trailing r ms e (.symbol "." :: .name attr :: after)) :
    Trailing r ms (.attribute e attr) after := by
  refine h.step (by simp only [List.length_cons]; omega)
    fun start fuel t post ht hpost => ifAccept_hit ?_
  refine identifier_takes.next_eq ?_
  exact hpost _ (ht.attribute attr)

theorem Trailing.call {w : Expr → List Mark} {wk : Keyword → List Mark} {args : List Expr}
    {kws : List Keyword}
    (h : Trailing r ms e (.symbol "(" :: (argumentMarks w wk args kws ++ .symbol ")" :: after)))
    (hargs : ∀ x ∈ args, Element r x (w x)) (hkws : ∀ x ∈ kws, Passed r x (wk x)) :
    Trailing r ms (.call e args kws) after := by
  refine h.step (by simp; omega) fun start fuel t post ht hpost => ?_
  refine ifAccept_miss (symbol_head_ne (by decide) _) (ifNext_hit (takes_here fun at_ => ?_))
  refine expect_hit ((arguments_takes hargs hkws (some at_)).next fun x hx => ?_)
  exact hpost _ (ht.call hx)

theorem Trailing.subscript {index : Expr} {inside : List Mark}
    (h : Trailing r ms e (.symbol "[" :: (inside ++ .symbol "]" :: after)))
    (hinner : Inner r index inside) :
    Trailing r ms (.subscript e index) after := by
  refine h.step (by simp; omega) fun start fuel t post ht hpost => ?_
  refine ifAccept_miss (symbol_head_ne (by decide) _)
    (ifNext_miss (symbol_head_ne (by decide) _) (ifAccept_hit ?_))
  refine (subscriptIndex_takes hinner).next fun u hu => ?_
  exact expect_hit (takes_spanFrom fun span => hpost _ (ht.subscript hu span))

/-- Where nothing binds as tightly, the loop ends. -/
theorem Trailing.primary (h : Trailing r ms e after) (hafter : Clear .atom after) :
    TakesExpr (primary r) ms e after := by
  have hend : ∀ start fuel u, u.Is e →
      Takes (trailers r start fuel u) after fun t ms' => t.Is e ∧ ms' = after := by
    intro start fuel u hu
    cases fuel with
    | zero => exact .pure ⟨hu, rfl⟩
    | succ fuel =>
      refine ifAccept_miss (hafter.head_ne (by decide)) (ifNext_miss (hafter.head_ne (by decide)) ?_)
      exact ifAccept_miss (hafter.head_ne (by decide)) (.pure ⟨hu, rfl⟩)
  intro c hc
  obtain ⟨start, t, c', k, hstart, ht, hk, hloop⟩ := h c hc
  have hread := hloop (c'.rest.length - k) _ (hend start _)
  rw [Nat.sub_add_cancel (by omega)] at hread
  obtain ⟨u, c'', ms', hu, hc'', hpost⟩ := hread
  refine ⟨u, c'', ms', ?_, hc'', hpost⟩
  have hstart' : start = _ := (Prod.mk.inj (Option.some.inj hstart)).1.symm
  rw [hstart'] at hu
  change (Grammar.atom r c).bind _ = _
  rw [ht]
  exact hu

end Refactory.Grammar
