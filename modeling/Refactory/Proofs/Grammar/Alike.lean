import Refactory.Proofs.Grammar.Stretch

/-! # Expressions are read alike wherever they stand

The readers of expressions agree on stretches of tokens that are alike, in front of marks that neither
go on with an expression nor begin one (`readers_agree`). Of the terms that they give, what later
readers ask for is the same: whether they can be assigned to or deleted, and which stretch of source
they keep if they are captured. -/

namespace Refactory.Grammar

/-! ## Terms that are alike -/

/-- The kind and the stretch of source of a term that is captured, whatever its parts are. -/
def Term.extent? : Term → Option (Text × Span)
  | .bytes span _ => some ("bytes", span)
  | .ellipsis span => some ("ellipsis", span)
  | .subscript span _ (.slice ..) => some ("Slice", span)
  | .slice span .. => some ("Slice", span)
  | .set span _ => some ("Set", span)
  | .lambda span .. => some ("Lambda", span)
  | .conditional span .. => some ("IfExp", span)
  | .named span .. => some ("NamedExpr", span)
  | .listComp span .. => some ("ListComp", span)
  | .setComp span .. => some ("SetComp", span)
  | .dictComp span .. => some ("DictComp", span)
  | .generator span .. => some ("GeneratorExp", span)
  | .await span _ => some ("Await", span)
  | .yield span _ => some ("Yield", span)
  | .yieldFrom span _ => some ("YieldFrom", span)
  | _ => none

/-- Whether a term is a slice. -/
def Term.isSlice : Term → Bool
  | .slice .. => true
  | _ => false

/-- Kinds are the same and stretches correspond. -/
def Kept (P : Places) (x y : Text × Span) : Prop := x.1 = y.1 ∧ x.2.Alike P y.2

/-- What a reader asks of a term is the same for both. -/
structure Term.Alike (P : Places) (t u : Term) : Prop where
  extent : Option.Rel (Kept P) t.extent? u.extent?
  starred : t.isStarred = u.isStarred
  target : t.isTarget = u.isTarget
  deletable : t.isDeletable = u.isDeletable
  single : t.isSingleTarget = u.isSingleTarget
  slice : t.isSlice = u.isSlice

variable {P : Places} {B : Mark → Prop} {colon : Bool} {k : Nat}

namespace Term.Alike

theorem whole {t u : Term} (h : t.extent? = none ∧ u.extent? = none)
    (hstarred : t.isStarred = u.isStarred) (htarget : t.isTarget = u.isTarget)
    (hdeletable : t.isDeletable = u.isDeletable) (hsingle : t.isSingleTarget = u.isSingleTarget)
    (hslice : t.isSlice = u.isSlice) : t.Alike P u :=
  ⟨by rw [h.1, h.2]; exact .none, hstarred, htarget, hdeletable, hsingle, hslice⟩

theorem areTargets {ts us : List Term} (h : List.Forall₂ (Term.Alike P) ts us) :
    Term.areTargets ts = Term.areTargets us := by
  induction h with
  | nil => rfl
  | cons ht _ ih => rw [Term.areTargets, Term.areTargets, ht.target, ih]

theorem areDeletable {ts us : List Term} (h : List.Forall₂ (Term.Alike P) ts us) :
    Term.areDeletable ts = Term.areDeletable us := by
  induction h with
  | nil => rfl
  | cons ht _ ih => rw [Term.areDeletable, Term.areDeletable, ht.deletable, ih]

theorem tuple {ts us : List Term} (h : List.Forall₂ (Term.Alike P) ts us) :
    (Term.tuple ts).Alike P (.tuple us) :=
  .whole ⟨rfl, rfl⟩ rfl (areTargets h) (areDeletable h) rfl rfl

theorem list {ts us : List Term} (h : List.Forall₂ (Term.Alike P) ts us) :
    (Term.list ts).Alike P (.list us) :=
  .whole ⟨rfl, rfl⟩ rfl (areTargets h) (areDeletable h) rfl rfl

theorem ofStarred {t u : Term} (h : t.Alike P u) : (Term.starred t).Alike P (.starred u) := by
  refine .whole ⟨rfl, rfl⟩ rfl ?_ rfl rfl rfl
  rw [Term.isTarget, Term.isTarget, h.starred, h.target]

theorem subscript {t u i j : Term} (hi : i.Alike P j) {s s' : Span} (hs : s.Alike P s') :
    (Term.subscript s t i).Alike P (.subscript s' u j) := by
  refine ⟨?_, rfl, rfl, rfl, rfl, rfl⟩
  have hslice := hi.slice
  cases i with
  | slice _ _ _ _ =>
    cases j with
    | slice _ _ _ _ => exact .some ⟨rfl, hs⟩
    | _ => cases hslice
  | _ =>
    cases j with
    | slice _ _ _ _ => cases hslice
    | _ => exact .none

/-- A term that is captured, whatever its parts are. -/
theorem captured {t u : Term} {x y : Text × Span} (ht : t.extent? = some x) (hu : u.extent? = some y)
    (hxy : Kept P x y) (hstarred : t.isStarred = u.isStarred) (htarget : t.isTarget = u.isTarget)
    (hdeletable : t.isDeletable = u.isDeletable) (hsingle : t.isSingleTarget = u.isSingleTarget)
    (hslice : t.isSlice = u.isSlice) : t.Alike P u :=
  ⟨by rw [ht, hu]; exact .some hxy, hstarred, htarget, hdeletable, hsingle, hslice⟩

/-- Items with commas between them, and whether a comma stands at the end. -/
theorem tupleOf {x y : List Term × Bool}
    (h : List.Forall₂ (Term.Alike P) x.1 y.1 ∧ x.2 = y.2) :
    (Grammar.tupleOf x).Alike P (Grammar.tupleOf y) := by
  obtain ⟨ts, b⟩ := x
  obtain ⟨us, b'⟩ := y
  obtain ⟨hts, rfl⟩ := h
  cases hts with
  | nil => exact tuple .nil
  | cons ht hrest =>
    cases hrest with
    | nil =>
      cases b
      · exact ht
      · exact tuple (.cons ht .nil)
    | cons ht' hrest => exact tuple (.cons ht (.cons ht' hrest))

end Term.Alike

/-! ## Where expressions stop -/

/-- Nothing behind a stretch goes on with an expression or begins one. -/
def Stops (B : Mark → Prop) : Prop := ∀ m, B m → m.attach = 0

theorem Stops.not (h : Stops B) {m : Mark} (hm : m.attach ≠ 0) : ¬ B m := fun hB => hm (h m hB)

theorem Stops.lt (h : Stops B) {m : Mark} (hm : B m) : m.attach < Precedence.atom.rank := by
  rw [h m hm]
  decide

theorem Stops.name (h : Stops B) (id : Text) : ¬ B (.name id) :=
  h.not (show Precedence.atom.rank ≠ 0 by decide)

theorem Stops.string (h : Stops B) {l : Lexeme} (hl : l.isString = true) : ¬ B l.mark := by
  cases l with
  | string marks body =>
    rw [Lexeme.mark]
    split <;> exact h.not (show Precedence.atom.rank ≠ 0 by decide)
  | _ => cases hl

/-- The readers agree on stretches of at most `k` tokens. -/
def ReadersAgree (P : Places) (k : Nat) (r r' : Readers) : Prop :=
  ∀ level {B : Mark → Prop} {colon : Bool}, Stops B →
    Agrees P B colon k 1 (Term.Alike P) (r level) (r' level)

/-- Behind a stretch stands what closes a bracket. -/
structure Inside (B : Mark → Prop) : Prop where
  stops : Stops B
  others : ∀ text ∈ [",", ":=", "=", ":", "for", "async", "from"], ¬ B (.symbol text)

theorem inside_closer {close : String} (h : close ∈ [")", "]", "\x7d"]) :
    Inside (· = .symbol close) := by
  have hall : ∀ close ∈ [")", "]", "\x7d"], (Mark.symbol close).attach = 0 ∧
      ∀ text ∈ [",", ":=", "=", ":", "for", "async", "from"], text ≠ close := by
    decide
  refine ⟨?_, fun text htext heq => (hall close h).2 text htext (Mark.symbol.inj heq)⟩
  rintro m rfl
  exact (hall close h).1

/-! ## More single tokens -/

/-- Whether lexemes begin with a name and the symbol behind it. -/
def startsNamed (text : String) : List Lexeme → Bool
  | .name _ :: .symbol s :: _ => s == text
  | _ => false

theorem nameThen_eq (text : String) (c : Cursor) :
    nameThen text c = some (startsNamed text (c.rest.map (·.lexeme)), c) := by
  obtain ⟨tokens, last⟩ := c
  rcases tokens with _ | ⟨⟨l, _⟩, _ | ⟨⟨l', _⟩, ts⟩⟩
  · rfl
  · cases l <;> rfl
  · cases l with
    | name id => cases l' <;> rfl
    | _ => rfl

/-- Whether lexemes begin with the symbol. -/
def startsSymbol (text : String) : List Lexeme → Bool
  | .symbol s :: _ => s == text
  | _ => false

theorem startsSymbol_alike {text : String} {l l' : Lexeme} {ls ls' : List Lexeme} (h : l.Alike l') :
    startsSymbol text (l :: ls) = startsSymbol text (l' :: ls') := by
  cases h with
  | refl _ => cases l <;> rfl
  | string _ _ => rfl

theorem startsNamed_alike {text : String} {l l' : Lexeme} {ls ls' : List Lexeme} (h : l.Alike l')
    (hnext : startsSymbol text ls = startsSymbol text ls') :
    startsNamed text (l :: ls) = startsNamed text (l' :: ls') := by
  have hname : ∀ {id : Text} {ls : List Lexeme},
      startsNamed text (.name id :: ls) = startsSymbol text ls := by
    intro id ls
    rcases ls with _ | ⟨l, ls⟩
    · rfl
    · cases l <;> rfl
  cases h with
  | refl _ =>
    cases l with
    | name id => rw [hname, hname, hnext]
    | _ => rfl
  | string _ _ => rfl

namespace Agrees

variable {most : Nat}

theorem identifier (hB : Stops B) : Agrees P B colon most 1 (· = ·) identifier identifier := by
  refine Agrees.advance (fun l l' hl _ => ?_) (fun l hl _ => ?_) fun l hl _ => ?_
  · cases hl with
    | refl _ =>
      cases l with
      | name id => exact .pure rfl
      | _ => exact .fail
    | string _ _ => exact .fail
  · cases l with
    | name id => cases hl
    | _ => exact ⟨rfl, rfl⟩
  · cases l with
    | name id => exact (hB.name id hl).elim
    | _ => exact ⟨rfl, rfl⟩

theorem refuse {text : String} (hB : ¬ B (.symbol text)) :
    Agrees P B colon most 0 (fun _ _ => True) (refuse text) (refuse text) := by
  refine (Agrees.nextIs hB).past ?_
  rintro b _ rfl
  exact .ite (fun _ => .fail) fun _ => .pure trivial

theorem nameThen {text : String} (hstop : Stops B) (hB : ¬ B (.symbol text)) :
    Agrees P B colon most 0 (· = ·) (nameThen text) (nameThen text) := by
  intro T U Y Z last last' halike hbalanced hlength hfollowed hlast
  have hname : ∀ {l : Lexeme} {ls : List Lexeme}, B l.mark → startsNamed text (l :: ls) = false := by
    intro l ls hl
    cases l with
    | name id => exact (hstop.name id hl).elim
    | _ => rfl
  have hsymbol : ∀ {l : Lexeme} {ls : List Lexeme}, B l.mark →
      startsSymbol text (l :: ls) = false := by
    intro l ls hl
    cases l with
    | symbol s =>
      refine beq_eq_false_iff_ne.2 ?_
      rintro rfl
      exact hB hl
    | _ => rfl
  have hsame : startsNamed text ((T ++ Y).map (·.lexeme)) =
      startsNamed text ((U ++ Z).map (·.lexeme)) := by
    cases hfollowed with
    | mk left right _ =>
      cases halike with
      | nil => exact (hname left).trans (hname right).symm
      | cons ht htail =>
        refine startsNamed_alike ht.lexeme ?_
        cases htail with
        | nil => exact (hsymbol left).trans (hsymbol right).symm
        | cons ht' _ => exact startsSymbol_alike ht'.lexeme
  rw [nameThen_eq, nameThen_eq, hsame]
  exact .gives rfl halike hbalanced (Nat.le_refl _) hlast

end Agrees

section

variable {r r' : Readers} (h : ReadersAgree P k r r')

include h

/-! ## Forms that contain expressions -/

theorem namedExpression_agrees (hB : Stops B) (hwalrus : ¬ B (.symbol ":=")) :
    Agrees P B colon k 1 (Term.Alike P) (namedExpression r) (namedExpression r') := by
  refine (Agrees.nameThen hB hwalrus).past ?_
  rintro b _ rfl
  refine .ite (fun _ => ?_) fun _ => ?_
  · refine Agrees.here.past fun s s' hs => (Agrees.identifier hB).also fun id _ _ => ?_
    refine (Agrees.expect rfl hwalrus).next fun _ _ _ => (h .expression hB).next fun _ _ _ => ?_
    exact (Agrees.spanFrom hs).next fun _ _ hspan =>
      .pure (.captured rfl rfl ⟨rfl, hspan⟩ rfl rfl rfl rfl rfl)
  · exact (h .expression hB).also fun t u htu => (Agrees.refuse hwalrus).next fun _ _ _ => .pure htu

theorem element_agrees (hB : Stops B) (hwalrus : ¬ B (.symbol ":=")) :
    Agrees P B colon k 1 (Term.Alike P) (element r) (element r') :=
  .ifAccept (Nat.le_succ k) rfl (hB.not (by decide))
    ((h .bitOr hB).next fun _ _ htu => .pure htu.ofStarred) (namedExpression_agrees h hB hwalrus)

theorem starExpression_agrees (hB : Stops B) :
    Agrees P B colon k 1 (Term.Alike P) (starExpression r) (starExpression r') :=
  .ifAccept (Nat.le_succ k) rfl (hB.not (by decide))
    ((h .bitOr hB).next fun _ _ htu => .pure htu.ofStarred) (h .expression hB)

theorem starExpressions_agrees (hB : Stops B) (hcomma : ¬ B (.symbol ",")) :
    Agrees P B colon k 1 (Term.Alike P) (starExpressions r) (starExpressions r') :=
  (Agrees.commaSeparated (starExpression_agrees h hB) hcomma).also fun _ _ hxy => .pure (.tupleOf hxy)

theorem yieldExpression_agrees (hB : Stops B) (hcomma : ¬ B (.symbol ","))
    (hfrom : ¬ B (.symbol "from")) :
    Agrees P B colon k 1 (Term.Alike P) (yieldExpression r) (yieldExpression r') := by
  refine Agrees.here.past fun s s' hs => (Agrees.expect rfl (hB.not (by decide))).also fun _ _ _ => ?_
  refine .ifAccept (Nat.le_succ k) rfl hfrom ?_ ?_
  · exact (h .expression hB).next fun _ _ _ => (Agrees.spanFrom hs).next fun _ _ hspan =>
      .pure (.captured rfl rfl ⟨rfl, hspan⟩ rfl rfl rfl rfl rfl)
  · exact (starExpressions_agrees h hB hcomma).optional.next fun _ _ _ =>
      (Agrees.spanFrom hs).next fun _ _ hspan =>
        .pure (.captured rfl rfl ⟨rfl, hspan⟩ rfl rfl rfl rfl rfl)

theorem target_agrees (hB : Stops B) :
    Agrees P B colon k 1 (Term.Alike P) (target r) (target r') := by
  refine (Agrees.accept rfl (hB.not (by decide))).past ?_
  rintro star _ rfl
  have hchosen : ∀ t u : Term, t.Alike P u →
      Agrees P B colon k 0 (Term.Alike P) (if t.isTarget then pure t else Reader.fail)
        (if u.isTarget then pure u else Reader.fail) := fun t u htu => by
    rw [htu.target]
    exact .ite (fun _ => .pure htu) fun _ => .fail
  exact .ite (fun _ => ((h .primary hB).map fun _ _ htu => htu.ofStarred).also hchosen)
    fun _ => (h .primary hB).also hchosen

theorem targets_agrees (hB : Stops B) (hcomma : ¬ B (.symbol ",")) :
    Agrees P B colon k 1 (Term.Alike P) (targets r) (targets r') :=
  (Agrees.commaSeparated (target_agrees h hB) hcomma).also fun _ _ hxy => .pure (.tupleOf hxy)

omit h in
theorem nextIsClause_agrees (hB : Inside B) :
    Agrees P B colon k 0 (· = ·) nextIsClause nextIsClause := by
  refine (Agrees.nextIs (hB.others _ (by decide))).past ?_
  rintro b _ rfl
  refine (Agrees.nextIs (hB.others _ (by decide))).past ?_
  rintro b' _ rfl
  exact .pure rfl

theorem clause_agrees (hB : Inside B) :
    Agrees P B colon k 1 (fun _ _ => True) (clause r) (clause r') := by
  refine (Agrees.accept rfl (hB.others _ (by decide))).past fun _ _ _ => ?_
  refine (Agrees.expect rfl (hB.others _ (by decide))).also fun _ _ _ => ?_
  refine (targets_agrees h hB.stops (hB.others _ (by decide))).next fun _ _ _ => ?_
  refine (Agrees.expect rfl (hB.stops.not (by decide))).next fun _ _ _ => ?_
  refine (h .disjunction hB.stops).next fun _ _ _ => ?_
  have hcondition : Agrees P B colon k 1 (Term.Alike P) (do expect "if"; r .disjunction)
      (do expect "if"; r' .disjunction) :=
    (Agrees.expect rfl (hB.stops.not (by decide))).also fun _ _ _ => (h .disjunction hB.stops).free
  exact hcondition.many.next fun _ _ _ => .pure trivial

theorem clauses_agrees (hB : Inside B) :
    Agrees P B colon k 1 (fun _ _ => True) (clauses r) (clauses r') :=
  (clause_agrees h hB).some.mono (Nat.le_refl _) (Nat.le_refl _) fun _ _ _ => trivial

/-! ## Parameter lists -/

/-- What decides how a parameter list goes on is the same. -/
structure ParamsSoFar.Alike (p q : ParamsSoFar) : Prop where
  positional : p.positional.isEmpty = q.positional.isEmpty
  defaults : p.defaults.isEmpty = q.defaults.isEmpty
  slash : p.slash = q.slash
  star : p.star = q.star
  varPositional : p.varPositional.isNone = q.varPositional.isNone
  keywordOnly : p.keywordOnly.isEmpty = q.keywordOnly.isEmpty
  varKeyword : p.varKeyword.isSome = q.varKeyword.isSome

omit h in
theorem paramName_agrees (hB : Stops B) (star : Bool) :
    Agrees P B colon k 1 (fun _ _ => True) (paramName r false star) (paramName r' false star) :=
  (Agrees.identifier hB).also fun _ _ _ => .pure trivial

/-- A parameter with its name is added to those read so far. -/
def ParamsSoFar.addNamed (p : ParamsSoFar) (name : ParamName) (default : Option Term) :
    Reader ParamsSoFar :=
  if p.star then
    return { p with
      keywordOnly := p.keywordOnly ++ [name]
      keywordDefaults := p.keywordDefaults ++ [default] }
  else
    match default with
    | some d => return { p with positional := p.positional ++ [name], defaults := p.defaults ++ [d] }
    | none =>
      if p.defaults.isEmpty then return { p with positional := p.positional ++ [name] }
      else Reader.fail

omit h in
theorem addNamed_agrees {p q : ParamsSoFar} (hpq : p.Alike q) (n n' : ParamName)
    {d d' : Option Term} (hd : d.isSome = d'.isSome) :
    Agrees P B colon k 0 ParamsSoFar.Alike (p.addNamed n d) (q.addNamed n' d') := by
  have hconcat : ∀ {α : Type} (xs ys : List α) (x y : α),
      (xs ++ [x]).isEmpty = (ys ++ [y]).isEmpty := fun xs ys x y => by
    cases xs <;> cases ys <;> rfl
  refine .branch (by rw [hpq.star]) (fun _ => ?_) fun _ => ?_
  · exact .pure { hpq with keywordOnly := hconcat _ _ _ _ }
  cases d with
  | some d =>
    obtain ⟨d', rfl⟩ := Option.isSome_iff_exists.1 hd.symm
    exact .pure { hpq with positional := hconcat _ _ _ _, defaults := hconcat _ _ _ _ }
  | none =>
    obtain rfl := Option.not_isSome_iff_eq_none.1 (by rw [← hd]; exact Bool.false_ne_true)
    exact .branch (by rw [hpq.defaults]) (fun _ => .pure { hpq with positional := hconcat _ _ _ _ })
      fun _ => .fail

theorem paramItem_agrees (hB : Stops B) (hothers : ∀ text ∈ ["/", ",", "="], ¬ B (.symbol text))
    {p q : ParamsSoFar} (hpq : p.Alike q) :
    Agrees P B colon k 1 ParamsSoFar.Alike (paramItem r false p) (paramItem r' false q) := by
  refine .branch (by rw [hpq.varKeyword]) (fun _ => .fail) fun _ => ?_
  refine .ifAccept (Nat.le_succ k) rfl (hothers _ (by decide)) (.branch
    (by rw [hpq.slash, hpq.star, hpq.positional]) (fun _ => .fail) fun _ =>
    .pure { hpq with positional := rfl, slash := rfl }) ?_
  refine .ifAccept (Nat.le_succ k) rfl (hB.not (by decide)) ((paramName_agrees hB false).next
    fun _ _ _ => .pure { hpq with varKeyword := rfl }) ?_
  refine .ifAccept (Nat.le_succ k) rfl (hB.not (by decide)) (.branch (by rw [hpq.star])
    (fun _ => .fail) fun _ => ?_) ?_
  · refine .ifNext (hothers _ (by decide)) (.pure { hpq with star := rfl }) ?_
    exact (paramName_agrees hB true).next
      fun _ _ _ => .pure { hpq with star := rfl, varPositional := rfl }
  · refine (paramName_agrees hB false).also fun n n' _ => ?_
    refine (Agrees.accept rfl (hothers _ (by decide))).past ?_
    rintro b _ rfl
    have hsome : Agrees P B colon k 1 (fun d d' : Option Term => d.isSome = d'.isSome)
        (some <$> r .expression) (some <$> r' .expression) := (h .expression hB).map fun _ _ _ => rfl
    exact .ite (fun _ => hsome.next fun _ _ => addNamed_agrees hpq n n') fun _ =>
      (Agrees.pure (R := fun d d' : Option Term => d.isSome = d'.isSome) (a := none) (b := none)
        rfl).next fun _ _ => addNamed_agrees hpq n n'

omit h in
theorem stops_colon : Stops (· = .symbol ":") := by
  rintro m rfl
  decide

omit h in
theorem colon_ne {text : String} (htext : text ≠ ":") :
    ¬ (· = Mark.symbol ":") (Mark.symbol text) := fun heq => htext (Mark.symbol.inj heq)

theorem paramItems_agrees {n fuel fuel' : Nat} (hn : n ≤ k) (hfuel : n < fuel) (hfuel' : n < fuel')
    {p q : ParamsSoFar} (hpq : p.Alike q) :
    Agrees P (· = .symbol ":") false n 0 ParamsSoFar.Alike (paramItems r false ":" fuel p)
      (paramItems r' false ":" fuel' q) := by
  obtain ⟨fuel, rfl⟩ := Nat.exists_eq_add_one_of_ne_zero (Nat.ne_zero_of_lt hfuel)
  obtain ⟨fuel', rfl⟩ := Nat.exists_eq_add_one_of_ne_zero (Nat.ne_zero_of_lt hfuel')
  induction n generalizing fuel fuel' p q with
  | zero =>
    refine .at_end fun Y Z last last' hfollowed _ => ?_
    cases hfollowed with
    | mk left right _ =>
      refine ⟨p, q, hpq, ?_, ?_⟩
      · rw [paramItems, run_bind, nextIs_of_head (Lexeme.mark_symbol.1 left)]
        rfl
      · rw [paramItems, run_bind, nextIs_of_head (Lexeme.mark_symbol.1 right)]
        rfl
  | succ n ih =>
    obtain ⟨fuel, rfl⟩ := Nat.exists_eq_add_one_of_ne_zero
      (Nat.ne_zero_of_lt (Nat.lt_of_succ_lt_succ hfuel))
    obtain ⟨fuel', rfl⟩ := Nat.exists_eq_add_one_of_ne_zero
      (Nat.ne_zero_of_lt (Nat.lt_of_succ_lt_succ hfuel'))
    refine .ifClosed (.inr rfl) (.pure hpq) ?_
    have hitem : Agrees P (· = .symbol ":") false k 1 ParamsSoFar.Alike (paramItem r false p)
        (paramItem r' false q) := paramItem_agrees h stops_colon
      (fun text htext => colon_ne (by revert text; decide)) hpq
    refine ((hitem.mono hn (Nat.le_refl 1) fun _ _ => id).first (Nat.le_refl _)
      fun p q hpq => ?_).free
    refine .ifAccept (Nat.le_succ n) rfl (colon_ne (by decide)) ?_ ?_
    · exact ih (by omega) hpq fuel (by omega) fuel' (by omega)
    · exact .ifClosed (.inr rfl) (.pure hpq) .fail

omit h in
theorem finish_alike {p q : ParamsSoFar} (hpq : p.Alike q) :
    p.finish.isSome = q.finish.isSome := by
  rw [ParamsSoFar.finish, ParamsSoFar.finish, hpq.star, hpq.varPositional, hpq.keywordOnly]
  split <;> rfl

theorem params_agrees :
    Agrees P (· = .symbol ":") false k 0 (fun _ _ => True) (params r false ":")
      (params r' false ":") := by
  intro T U Y Z last last' halike hbalanced hlength hfollowed hstop
  have hfuel : T.length < (T ++ Y).length + 1 := by
    rw [List.length_append]
    omega
  have hfuel' : T.length < (U ++ Z).length + 1 := by
    rw [List.length_append, halike.length_eq]
    omega
  have hnone : ParamsSoFar.Alike {} {} := ⟨rfl, rfl, rfl, rfl, rfl, rfl, rfl⟩
  have hitems := paramItems_agrees h hlength hfuel hfuel' hnone T U Y Z last last' halike hbalanced
    (Nat.le_refl _) hfollowed hstop
  change Outcome P false T.length 0 _ Y Z
    ((paramItems r false ":" ((T ++ Y).length + 1) {} ⟨T ++ Y, last⟩).bind fun x =>
      x.1.finish.bind fun ps => some (ps, x.2))
    ((paramItems r' false ":" ((U ++ Z).length + 1) {} ⟨U ++ Z, last'⟩).bind fun x =>
      x.1.finish.bind fun ps => some (ps, x.2))
  generalize paramItems r false ":" ((T ++ Y).length + 1) {} ⟨T ++ Y, last⟩ = x at hitems ⊢
  generalize paramItems r' false ":" ((U ++ Z).length + 1) {} ⟨U ++ Z, last'⟩ = y at hitems ⊢
  cases hitems with
  | fails => exact .fails
  | @gives p q _ _ _ _ value alike balanced length stop =>
    have hfinish := finish_alike value
    simp only [Option.bind_some]
    cases hp : p.finish with
    | none =>
      have hq : q.finish = none := by
        rw [← Option.not_isSome_iff_eq_none, ← hfinish, hp]
        exact Bool.false_ne_true
      rw [hq]
      exact .fails
    | some ps =>
      rw [hp] at hfinish
      obtain ⟨qs, hq⟩ := Option.isSome_iff_exists.1 hfinish.symm
      rw [hq]
      exact .gives trivial alike balanced length stop

theorem lambda_agrees (hB : Stops B) :
    Agrees P B colon (k + 1) 1 (Term.Alike P) (lambda r) (lambda r') := by
  have hshape : ∀ r : Readers, lambda r = (do
      let start ← here
      expect "lambda"
      let ps ← (do
        let ps ← params r false ":"
        expect ":"
        return ps)
      let body ← r .expression
      return .lambda (← spanFrom start) ps body) := fun r => by
    simp only [lambda, bind_assoc, pure_bind]
  rw [hshape, hshape]
  refine Agrees.here.past fun s s' hs => ?_
  refine .expectOpen rfl (hB.not (by decide))
    (.bind (params_agrees h) fun _ _ _ => .expect (.inr rfl) (.pure trivial)) fun _ _ _ => ?_
  exact (h .expression hB).next fun _ _ _ => (Agrees.spanFrom hs).next fun _ _ hspan =>
    .pure (.captured rfl rfl ⟨rfl, hspan⟩ rfl rfl rfl rfl rfl)

end

end Refactory.Grammar
