import Refactory.Proofs.Grammar.Alike
import Refactory.Proofs.Grammar.Forward

/-! # What stands in brackets is read alike

Calls, subscripts and displays: the readers agree on what stands in the brackets, up to the bracket that
closes them and whatever stands behind (`Encloses`). -/

namespace Refactory.Grammar

variable {P : Places} {B : Mark → Prop} {colon : Bool} {k : Nat} {r r' : Readers}

/-! ## Arguments -/

/-- The arguments read so far are alike. -/
structure ArgumentsSoFar.Alike (P : Places) (a b : ArgumentsSoFar) : Prop where
  positional : List.Forall₂ (Term.Alike P) a.positional b.positional
  keywords : a.keywords.isEmpty = b.keywords.isEmpty
  unpacked : a.unpacked = b.unpacked

section

variable (h : ReadersAgree P k r r')

include h

theorem argument_agrees (hB : Inside B) {a b : ArgumentsSoFar} (hab : a.Alike P b) :
    Agrees P B colon k 1 (ArgumentsSoFar.Alike P) (argument r a) (argument r' b) := by
  refine .ifAccept (Nat.le_succ k) rfl (hB.stops.not (by decide)) ?_ ?_
  · exact (h .expression hB.stops).next fun _ _ _ =>
      .pure { hab with keywords := rfl, unpacked := rfl }
  refine .ifAccept (Nat.le_succ k) rfl (hB.stops.not (by decide)) ?_ ?_
  · refine .branch (by rw [hab.unpacked]) (fun _ => .fail) fun _ => ?_
    exact (h .expression hB.stops).next fun _ _ htu =>
      .pure { hab with positional := .cons htu.ofStarred hab.positional }
  refine (Agrees.nameThen hB.stops (hB.others _ (by decide))).past ?_
  rintro b _ rfl
  refine .ite (fun _ => ?_) fun _ => .branch (by rw [hab.keywords]) (fun _ => ?_) fun _ => .fail
  · refine (Agrees.identifier hB.stops).also fun _ _ _ => ?_
    refine (Agrees.expect rfl (hB.others _ (by decide))).next fun _ _ _ => ?_
    exact (h .expression hB.stops).next fun _ _ _ => .pure { hab with keywords := rfl }
  · refine (namedExpression_agrees h hB.stops (hB.others _ (by decide))).also fun t u htu => ?_
    exact (Agrees.refuse (hB.others _ (by decide))).next fun _ _ _ =>
      .pure { hab with positional := .cons htu hab.positional }

theorem moreArguments_agrees {n fuel fuel' : Nat} (hn : n ≤ k) (hfuel : n < fuel) (hfuel' : n < fuel')
    {a b : ArgumentsSoFar} (hab : a.Alike P b) :
    Agrees P (· = .symbol ")") true n 0 (ArgumentsSoFar.Alike P) (moreArguments r fuel a)
      (moreArguments r' fuel' b) := by
  have hB : Inside (· = .symbol ")") := inside_closer (by decide)
  obtain ⟨fuel, rfl⟩ := Nat.exists_eq_add_one_of_ne_zero (Nat.ne_zero_of_lt hfuel)
  obtain ⟨fuel', rfl⟩ := Nat.exists_eq_add_one_of_ne_zero (Nat.ne_zero_of_lt hfuel')
  induction n generalizing fuel fuel' a b with
  | zero =>
    refine .at_end fun Y Z last last' hfollowed _ => ?_
    cases hfollowed with
    | mk left right _ =>
      have hother : ∀ {t : Token} {ts : List Token}, t.lexeme.mark = .symbol ")" →
          ∀ t' ∈ (t :: ts).head?, t'.lexeme ≠ .symbol "," := by
        rintro t ts ht t' ⟨⟩ heq
        exact absurd (Lexeme.symbol.inj ((Lexeme.mark_symbol.1 ht).symm.trans heq)) (by decide)
      refine ⟨a, b, hab, ?_, ?_⟩
      · rw [moreArguments, run_bind, accept_of_other (hother left)]
        rfl
      · rw [moreArguments, run_bind, accept_of_other (hother right)]
        rfl
  | succ n ih =>
    obtain ⟨fuel, rfl⟩ := Nat.exists_eq_add_one_of_ne_zero
      (Nat.ne_zero_of_lt (Nat.lt_of_succ_lt_succ hfuel))
    obtain ⟨fuel', rfl⟩ := Nat.exists_eq_add_one_of_ne_zero
      (Nat.ne_zero_of_lt (Nat.lt_of_succ_lt_succ hfuel'))
    refine .ifAccept (Nat.le_refl _) rfl (hB.others _ (by decide)) ?_ (.pure hab)
    refine .ifClosed (.inl (by decide)) (.pure hab) ?_
    have hargument : Agrees P (· = .symbol ")") true n 1 (ArgumentsSoFar.Alike P) (argument r a)
        (argument r' b) :=
      (argument_agrees h hB hab).mono (Nat.le_of_succ_le hn) (Nat.le_refl 1) fun _ _ => id
    exact hargument.next fun a b hab => ih (by omega) hab fuel (by omega) fuel' (by omega)

theorem closeArguments_agrees {a b : ArgumentsSoFar} (hab : a.Alike P b) :
    Encloses P ")" k (fun _ _ => True) (closeArguments r a) (closeArguments r' b) := by
  have hmore : Agrees P (· = .symbol ")") true k 0 (ArgumentsSoFar.Alike P)
      (fun c => moreArguments r (c.rest.length + 1) a c)
      (fun c => moreArguments r' (c.rest.length + 1) b c) := by
    intro T U Y Z last last' halike hbalanced hlength hfollowed hstop
    have hfuel : T.length < (T ++ Y).length + 1 := by
      rw [List.length_append]
      omega
    have hfuel' : T.length < (U ++ Z).length + 1 := by
      rw [List.length_append, halike.length_eq]
      omega
    exact moreArguments_agrees h hlength hfuel hfuel' hab T U Y Z last last' halike hbalanced
      (Nat.le_refl _) hfollowed hstop
  exact .bind hmore fun _ _ _ => .expect (.inl (by decide)) (.pure trivial)

theorem arguments_agrees {start start' : Position} (hstart : P.starts start start') :
    Encloses P ")" k (fun _ _ => True) (arguments r (some start)) (arguments r' (some start')) := by
  have hB : Inside (· = .symbol ")") := inside_closer (by decide)
  have hnone : ArgumentsSoFar.Alike P {} {} := ⟨.nil, rfl, rfl⟩
  refine .ifAccept (.inl (by decide)) (.pure trivial) (.bind (argument_agrees h hB hnone)
    fun a b hab => ?_)
  have hclose := closeArguments_agrees h hab
  obtain ⟨ts, ks, unpacked⟩ := a
  obtain ⟨us, ks', unpacked'⟩ := b
  have hpositional : List.Forall₂ (Term.Alike P) ts us := hab.positional
  cases hpositional with
  | nil => exact hclose
  | cons htu hrest =>
    cases hrest with
    | nil =>
      refine .bind (nextIsClause_agrees hB) ?_
      rintro clause _ rfl
      refine .branch (by rw [htu.starred]) ?_ hclose
      exact .bind (clauses_agrees h hB) fun _ _ _ => .expect (.inl (by decide))
        (.spanFrom hstart fun _ _ _ => .pure trivial)
    | cons _ _ => exact hclose

/-! ## Subscripts -/

/-- A slice or an expression, behind the lower bound or the expression. -/
def sliceRest (r : Readers) (start : Position) (lower : Option Term) : Reader Term := do
  refuse ":="
  if ← accept ":" then
    let upper ← Reader.optional (r .expression)
    let step ← if ← accept ":" then Reader.optional (r .expression) else pure none
    return .slice (← spanFrom start) lower upper step
  else
    match lower with
    | some e => return e
    | none => Reader.fail

theorem sliceRest_agrees (hB : Inside B) {start start' : Position} (hstart : P.starts start start')
    {lower lower' : Option Term} (hlower : Option.Rel (Term.Alike P) lower lower') {least : Nat}
    (hleast : least = 0 ∨ least = 1 ∧ lower = none) :
    Agrees P B colon k least (Term.Alike P) (sliceRest r start lower)
      (sliceRest r' start' lower') := by
  have hslice : ∀ upper upper' step step' : Option Term,
      Agrees P B colon k 0 (Term.Alike P)
        (do return .slice (← spanFrom start) lower upper step)
        (do return .slice (← spanFrom start') lower' upper' step') := fun _ _ _ _ =>
    (Agrees.spanFrom hstart).next fun _ _ hspan =>
      .pure (.captured rfl rfl ⟨rfl, hspan⟩ rfl rfl rfl rfl rfl)
  refine (Agrees.refuse (hB.others _ (by decide))).past fun _ _ _ => ?_
  refine .ifAccept (Nat.le_succ k) rfl (hB.others _ (by decide)) ?_ ?_
  · have hzero : least - 1 = 0 := by omega
    rw [hzero]
    refine (h .expression hB.stops).optional.next fun upper upper' _ => ?_
    refine (Agrees.accept rfl (hB.others _ (by decide))).past ?_
    rintro b _ rfl
    refine .ite (fun _ => ?_) fun _ => ?_
    · exact (h .expression hB.stops).optional.next fun _ _ _ => hslice _ _ _ _
    · exact hslice _ _ none none
  · cases hlower with
    | none => exact .fail
    | some htu =>
      obtain rfl : least = 0 := hleast.resolve_right fun hone => by cases hone.2
      exact .pure htu

theorem sliceItem_agrees (hB : Inside B) :
    Agrees P B colon k 1 (Term.Alike P) (sliceItem r) (sliceItem r') := by
  refine Agrees.here.past fun s s' hs => ?_
  refine .ifAccept (Nat.le_succ k) rfl (hB.stops.not (by decide)) ((h .expression hB.stops).next
    fun _ _ htu => .pure htu.ofStarred) ?_
  refine (Agrees.nameThen hB.stops (hB.others _ (by decide))).past ?_
  rintro b _ rfl
  refine .ite (fun _ => namedExpression_agrees h hB.stops (hB.others _ (by decide))) fun _ => ?_
  refine (Agrees.nextIs (hB.others _ (by decide))).past ?_
  rintro b _ rfl
  refine .ite (fun _ => sliceRest_agrees h hB hs .none (.inr ⟨rfl, rfl⟩)) fun _ => ?_
  have hlower : Agrees P B colon k 1 (Option.Rel (Term.Alike P)) (some <$> r .expression)
      (some <$> r' .expression) := (h .expression hB.stops).map fun _ _ htu => .some htu
  exact hlower.also fun _ _ hrel => sliceRest_agrees h hB hs hrel (.inl rfl)

/-- The items of a subscript as one term. -/
def indexOf (items : List Term × Bool) : Reader Term :=
  match items with
  | ([.starred e], _) => return .tuple [.starred e]
  | items => return tupleOf items

omit h in
theorem indexOf_many (t t' : Term) (ts : List Term) (comma : Bool) :
    indexOf (t :: t' :: ts, comma) = Pure.pure (tupleOf (t :: t' :: ts, comma)) := by
  unfold indexOf
  split
  · rename_i heq
    cases heq
  · rfl

theorem subscriptIndex_agrees (hB : Inside B) :
    Agrees P B colon k 1 (Term.Alike P) (subscriptIndex r) (subscriptIndex r') := by
  refine (Agrees.commaSeparated (sliceItem_agrees h hB) (hB.others _ (by decide))).also ?_
  rintro ⟨ts, comma⟩ ⟨us, _⟩ ⟨hts, rfl⟩
  have htuple : Agrees P B colon k 0 (Term.Alike P) (Pure.pure (tupleOf (ts, comma)))
      (Pure.pure (tupleOf (us, comma))) := .pure (.tupleOf ⟨hts, rfl⟩)
  dsimp only at hts
  cases hts with
  | nil => exact htuple
  | @cons t u ts us htu hrest =>
    have hstarred := htu.starred
    cases hrest with
    | nil =>
      cases t with
      | starred t =>
        cases u with
        | starred u => exact .pure (.tuple (.cons htu .nil))
        | _ => cases hstarred
      | _ =>
        cases u with
        | starred u => cases hstarred
        | _ => exact htuple
    | cons _ _ =>
      change Agrees P B colon k 0 (Term.Alike P) (indexOf _) (indexOf _)
      rw [indexOf_many, indexOf_many]
      exact htuple

/-! ## Displays -/

theorem parenthesis_agrees {start start' : Position} (hstart : P.starts start start') :
    Encloses P ")" k (Term.Alike P) (parenthesis r start) (parenthesis r' start') := by
  have hB : Inside (· = .symbol ")") := inside_closer (by decide)
  have hclose : ")" ∈ [")", "]", "\x7d"] ∨ ")" = ":" := .inl (by decide)
  refine .ifAccept hclose (.pure (.tuple .nil)) ?_
  refine .bind (Agrees.nextIs (hB.stops.not (by decide))) ?_
  rintro yields _ rfl
  refine .ite ?_ ?_
  · exact .bind (yieldExpression_agrees h hB.stops (hB.others _ (by decide))
      (hB.others _ (by decide))) fun _ _ htu => .expect hclose (.pure htu)
  refine .bind (element_agrees h hB.stops (hB.others _ (by decide))) fun t u htu => ?_
  refine .bind (Agrees.accept rfl (hB.others _ (by decide))) ?_
  rintro comma _ rfl
  refine .ite ?_ (.branch (by rw [htu.starred]) .fail ?_)
  · refine .ifAccept hclose (.pure (.tuple (.cons htu .nil))) ?_
    refine .bind (Agrees.commaSeparated (element_agrees h hB.stops (hB.others _ (by decide)))
      (hB.others _ (by decide))) ?_
    rintro ⟨ts, _⟩ ⟨us, _⟩ hts
    exact .expect hclose (.pure (.tuple (.cons htu hts.1)))
  · refine .bind (nextIsClause_agrees hB) ?_
    rintro clause _ rfl
    refine .ite ?_ (.expect hclose (.pure htu))
    exact .bind (clauses_agrees h hB) fun _ _ _ => .expect hclose (.spanFrom hstart
      fun _ _ hspan => .pure (.captured rfl rfl ⟨rfl, hspan⟩ rfl rfl rfl rfl rfl))

/-- Elements, each behind a comma. -/
theorem elements_agree (hB : Inside B) :
    Agrees P B colon k 0 (List.Forall₂ (Term.Alike P)) (Reader.many (do expect ","; element r))
      (Reader.many (do expect ","; element r')) := by
  have helement : Agrees P B colon k 1 (Term.Alike P) (do expect ","; element r)
      (do expect ","; element r') :=
    (Agrees.expect rfl (hB.others _ (by decide))).also fun _ _ _ =>
      (element_agrees h hB.stops (hB.others _ (by decide))).free
  exact helement.many

theorem bracket_agrees {start start' : Position} (hstart : P.starts start start') :
    Encloses P "]" k (Term.Alike P) (bracket r start) (bracket r' start') := by
  have hB : Inside (· = .symbol "]") := inside_closer (by decide)
  have hclose : "]" ∈ [")", "]", "\x7d"] ∨ "]" = ":" := .inl (by decide)
  refine .ifAccept hclose (.pure (.list .nil)) ?_
  refine .bind (element_agrees h hB.stops (hB.others _ (by decide))) fun t u htu => ?_
  refine .bind (nextIsClause_agrees hB) ?_
  rintro clause _ rfl
  refine .branch (by rw [htu.starred]) ?_ ?_
  · exact .bind (clauses_agrees h hB) fun _ _ _ => .expect hclose (.spanFrom hstart
      fun _ _ hspan => .pure (.captured rfl rfl ⟨rfl, hspan⟩ rfl rfl rfl rfl rfl))
  · refine .bind (elements_agree h hB) fun ts us hts => ?_
    exact .bind (Agrees.accept rfl (hB.others _ (by decide))) fun _ _ _ =>
      .expect hclose (.pure (.list (.cons htu hts)))

theorem dictEntry_agrees (hB : Inside B) :
    Agrees P B colon k 1 (fun _ _ => True) (dictEntry r) (dictEntry r') := by
  refine .ifAccept (Nat.le_succ k) rfl (hB.stops.not (by decide)) ?_ ?_
  · exact (h .bitOr hB.stops).next fun _ _ _ => .pure trivial
  · refine (h .expression hB.stops).also fun _ _ _ => ?_
    refine (Agrees.expect rfl (hB.others _ (by decide))).next fun _ _ _ => ?_
    exact (h .expression hB.stops).next fun _ _ _ => .pure trivial

/-- Items of a dictionary, each behind a comma. -/
theorem entries_agree (hB : Inside B) :
    Agrees P B colon k 0 (List.Forall₂ fun _ _ => True) (Reader.many (do expect ","; dictEntry r))
      (Reader.many (do expect ","; dictEntry r')) := by
  have hentry : Agrees P B colon k 1 (fun _ _ => True) (do expect ","; dictEntry r)
      (do expect ","; dictEntry r') :=
    (Agrees.expect rfl (hB.others _ (by decide))).also fun _ _ _ => (dictEntry_agrees h hB).free
  exact hentry.many

theorem dictRest_agrees (x y : Option Term × Term) :
    Encloses P "\x7d" k (Term.Alike P) (dictRest r x) (dictRest r' y) := by
  have hB : Inside (· = .symbol "\x7d") := inside_closer (by decide)
  refine .bind (entries_agree h hB) fun _ _ _ => ?_
  refine .bind (Agrees.accept rfl (hB.others _ (by decide))) fun _ _ _ => ?_
  exact .expect (.inl (by decide)) (.pure (.whole ⟨rfl, rfl⟩ rfl rfl rfl rfl rfl))

theorem setRest_agrees {start start' : Position} (hstart : P.starts start start') {t u : Term}
    (htu : t.Alike P u) :
    Encloses P "\x7d" k (Term.Alike P) (setRest r start t) (setRest r' start' u) := by
  have hB : Inside (· = .symbol "\x7d") := inside_closer (by decide)
  have hclose : "\x7d" ∈ [")", "]", "\x7d"] ∨ "\x7d" = ":" := .inl (by decide)
  refine .bind (nextIsClause_agrees hB) ?_
  rintro clause _ rfl
  refine .branch (by rw [htu.starred]) ?_ ?_
  · exact .bind (clauses_agrees h hB) fun _ _ _ => .expect hclose (.spanFrom hstart
      fun _ _ hspan => .pure (.captured rfl rfl ⟨rfl, hspan⟩ rfl rfl rfl rfl rfl))
  · refine .bind (elements_agree h hB) fun ts us hts => ?_
    exact .bind (Agrees.accept rfl (hB.others "," (by decide))) fun _ _ _ =>
      .expect hclose (.spanFrom hstart
        fun _ _ hspan => .pure (.captured rfl rfl ⟨rfl, hspan⟩ rfl rfl rfl rfl rfl))

theorem brace_agrees {start start' : Position} (hstart : P.starts start start') :
    Encloses P "\x7d" k (Term.Alike P) (brace r start) (brace r' start') := by
  have hB : Inside (· = .symbol "\x7d") := inside_closer (by decide)
  have hclose : "\x7d" ∈ [")", "]", "\x7d"] ∨ "\x7d" = ":" := .inl (by decide)
  refine .ifAccept hclose (.pure (.whole ⟨rfl, rfl⟩ rfl rfl rfl rfl rfl)) ?_
  refine .bind (Agrees.nextIs (hB.stops.not (by decide))) ?_
  rintro unpacks _ rfl
  refine .ite (.bind (dictEntry_agrees h hB) fun x y _ => dictRest_agrees h x y) ?_
  refine .bind (Agrees.nextIs (hB.stops.not (by decide))) ?_
  rintro starred _ rfl
  refine .bind (Agrees.nameThen hB.stops (hB.others _ (by decide))) ?_
  rintro named _ rfl
  refine .ite (.bind (element_agrees h hB.stops (hB.others _ (by decide))) fun t u htu =>
    setRest_agrees h hstart htu) ?_
  refine .bind (namedExpression_agrees h hB.stops (hB.others _ (by decide))) fun t u htu => ?_
  refine .bind (Agrees.accept rfl (hB.others _ (by decide))) ?_
  rintro colon _ rfl
  refine .ite (.bind (h .expression hB.stops) fun v w _ => ?_) (setRest_agrees h hstart htu)
  refine .bind (nextIsClause_agrees hB) ?_
  rintro clause _ rfl
  refine .ite ?_ (dictRest_agrees h _ _)
  exact .bind (clauses_agrees h hB) fun _ _ _ => .expect hclose (.spanFrom hstart
    fun _ _ hspan => .pure (.captured rfl rfl ⟨rfl, hspan⟩ rfl rfl rfl rfl rfl))

/-! ## What stands behind an atom -/

omit h in
/-- Where no bracket or dot comes next, nothing stands behind an atom. -/
theorem trailers_other {start : Position} {t : Term} {ys : List Token} {last : Position}
    (hy : ∀ text ∈ [".", "(", "["], ∀ t' ∈ ys.head?, t'.lexeme ≠ .symbol text) (fuel : Nat) :
    trailers r start fuel t ⟨ys, last⟩ = some (t, ⟨ys, last⟩) := by
  cases fuel with
  | zero => rfl
  | succ fuel =>
    rw [trailers, run_bind, accept_of_other (hy "." (by decide))]
    simp only [Option.bind_some, Bool.false_eq_true, if_false]
    rw [run_bind, nextIs_of_other (hy "(" (by decide))]
    simp only [Option.bind_some, Bool.false_eq_true, if_false]
    rw [run_bind, accept_of_other (hy "[" (by decide))]
    rfl

omit h in
theorem trailers_end {start : Position} {t : Term} {y : Token} {ys : List Token} {last : Position}
    (hy : y.lexeme.mark.attach < Precedence.atom.rank) (fuel : Nat) :
    trailers r start fuel t ⟨y :: ys, last⟩ = some (t, ⟨y :: ys, last⟩) := by
  refine trailers_other (fun text htext t' ht' heq => ?_) fuel
  cases ht'
  have hall : ∀ text ∈ [".", "(", "["], (Mark.symbol text).attach = Precedence.atom.rank := by decide
  rw [heq, Lexeme.mark, hall text htext] at hy
  exact Nat.lt_irrefl _ hy

/-- The index of a subscript with the bracket that closes it. -/
def subscriptOf (r : Readers) (start : Position) (t : Term) : Reader Term := do
  let index ← subscriptIndex r
  expect "]"
  return .subscript (← spanFrom start) t index

theorem subscriptOf_agrees {start start' : Position} (hstart : P.starts start start') (t u : Term) :
    Encloses P "]" k (Term.Alike P) (subscriptOf r start t) (subscriptOf r' start' u) :=
  .bind (subscriptIndex_agrees h (inside_closer (by decide))) fun _ _ hindex =>
    .expect (.inl (by decide)) (.spanFrom hstart fun _ _ hspan => .pure (.subscript hindex hspan))

omit h in
theorem subscriptOf_bind (r : Readers) (start : Position) (t : Term) (f : Term → Reader Term) :
    (do
      let index ← subscriptIndex r
      expect "]"
      let span ← spanFrom start
      f (.subscript span t index)) = subscriptOf r start t >>= f := by
  simp only [subscriptOf, bind_assoc, pure_bind]

omit h in
theorem trailers_attribute {d : Token} (hd : d.lexeme = .symbol ".") (start : Position) (fuel : Nat)
    (t : Term) (ts : List Token) (last : Position) :
    trailers r start (fuel + 1) t ⟨d :: ts, last⟩ =
      (identifier >>= fun attr => trailers r start fuel (.attribute t attr)) ⟨ts, d.span.stop⟩ := by
  rw [trailers, run_bind, accept_of_head hd]
  rfl

omit h in
theorem trailers_call {d : Token} (hd : d.lexeme = .symbol "(") (start : Position) (fuel : Nat)
    (t : Term) (ts : List Token) (last : Position) :
    trailers r start (fuel + 1) t ⟨d :: ts, last⟩ =
      (arguments r (some d.span.start) >>= fun x => trailers r start fuel (.call t x.1 x.2))
        ⟨ts, d.span.stop⟩ := by
  have hdot : ∀ t' ∈ (d :: ts).head?, t'.lexeme ≠ .symbol "." := by
    rintro t' ⟨⟩
    simp [hd]
  rw [trailers, run_bind, accept_of_other hdot]
  simp only [Option.bind_some, Bool.false_eq_true, if_false]
  rw [run_bind, nextIs_of_head hd]
  simp only [Option.bind_some, if_true]
  rw [run_bind]
  simp only [here, List.head?_cons, Option.map_some, Option.getD_some, Option.bind_some]
  rw [run_bind, expect_of_head hd]
  rfl

omit h in
theorem trailers_subscript {d : Token} (hd : d.lexeme = .symbol "[") (start : Position) (fuel : Nat)
    (t : Term) (ts : List Token) (last : Position) :
    trailers r start (fuel + 1) t ⟨d :: ts, last⟩ =
      (subscriptOf r start t >>= trailers r start fuel) ⟨ts, d.span.stop⟩ := by
  have hother : ∀ text, text ≠ "[" → ∀ t' ∈ (d :: ts).head?, t'.lexeme ≠ .symbol text := by
    rintro text htext t' ⟨⟩
    rw [hd]
    exact fun heq => htext (Lexeme.symbol.inj heq).symm
  rw [trailers, run_bind, accept_of_other (hother "." (by decide))]
  simp only [Option.bind_some, Bool.false_eq_true, if_false]
  rw [run_bind, nextIs_of_other (hother "(" (by decide))]
  simp only [Option.bind_some, Bool.false_eq_true, if_false]
  rw [run_bind, accept_of_head hd]
  simp only [Option.bind_some, if_true]
  rw [subscriptOf_bind]

theorem trailers_agrees (hB : Stops B) {n fuel fuel' : Nat} (hn : n ≤ k + 1) (hfuel : n ≤ fuel)
    (hfuel' : n ≤ fuel') {start start' : Position} (hstart : P.starts start start') {t u : Term}
    (htu : t.Alike P u) :
    Agrees P B colon n 0 (Term.Alike P) (trailers r start fuel t) (trailers r' start' fuel' u) := by
  induction n generalizing fuel fuel' t u with
  | zero =>
    refine .at_end fun Y Z last last' hfollowed _ => ?_
    cases hfollowed with
    | mk left right _ =>
      exact ⟨t, u, htu, trailers_end (hB.lt left) fuel, trailers_end (hB.lt right) fuel'⟩
  | succ n ih =>
    obtain ⟨fuel, rfl⟩ := Nat.exists_eq_add_one_of_ne_zero (Nat.ne_zero_of_lt hfuel)
    obtain ⟨fuel', rfl⟩ := Nat.exists_eq_add_one_of_ne_zero (Nat.ne_zero_of_lt hfuel')
    have hrest : ∀ t u : Term, t.Alike P u → Agrees P B colon n 0 (Term.Alike P)
        (trailers r start fuel t) (trailers r' start' fuel' u) := fun t u htu =>
      ih (by omega) (by omega) (by omega) htu
    rw [trailers, trailers]
    refine .ifAccept (Nat.le_refl _) rfl (hB.not (by decide)) ?_ ?_
    · refine (Agrees.identifier hB).next ?_
      rintro attr _ rfl
      exact hrest _ _ (.whole ⟨rfl, rfl⟩ rfl rfl rfl rfl rfl)
    refine .ifNext (hB.not (by decide)) ?_ ?_
    · refine Agrees.here.past fun o o' ho => (Agrees.expectOpen rfl (hB.not (by decide))
        ((arguments_agrees h ho).mono (Nat.le_of_succ_le_succ hn)) fun _ _ _ => ?_).free
      exact hrest _ _ (.whole ⟨rfl, rfl⟩ rfl rfl rfl rfl rfl)
    · rw [subscriptOf_bind, subscriptOf_bind]
      exact .ifOpen rfl (hB.not (by decide))
        ((subscriptOf_agrees h hstart t u).mono (Nat.le_of_succ_le_succ hn)) hrest (Nat.zero_le 2)
        (.pure htu)

omit h in
theorem identifier_cons (t : Token) (ts : List Token) (last : Position) :
    identifier ⟨t :: ts, last⟩ = (match t.lexeme with
      | .name id => some (id, ⟨ts, t.span.stop⟩)
      | _ => none) := by
  obtain ⟨l, span⟩ := t
  cases l <;> rfl

/-- In some rounds, the loop behind an atom takes a stretch and gives a term like `u`. -/
def Rounds (P : Places) (r : Readers) (start : Position) (T Y : List Token) (last : Position) (t u : Term)
    (stop' : Position) : Prop :=
  ∃ n t' stop, n ≤ T.length ∧ t'.Alike P u ∧ P.stops stop stop' ∧
    ∀ fuel, trailers r start (fuel + n) t ⟨T ++ Y, last⟩ = trailers r start fuel t' ⟨Y, stop⟩

section

variable {start start' last last' stop' : Position} {t u u' : Term} {T U Y zs : List Token} {z : Token}

omit h in
theorem Rounds.none (htu : t.Alike P u) (halike : List.Forall₂ (Token.Alike P) T U)
    (hstop : P.stops last last')
    (hU : some (u, (⟨U ++ z :: zs, last'⟩ : Cursor)) = some (u', ⟨z :: zs, stop'⟩)) :
    Rounds P r start T Y last t u' stop' := by
  obtain ⟨rfl, hc⟩ := Prod.mk.inj (Option.some.inj hU)
  obtain ⟨hrest, rfl⟩ := Cursor.mk.inj hc
  obtain rfl := List.append_left_eq_self.1 hrest
  cases halike
  exact ⟨0, t, last, Nat.le_refl 0, htu, hstop, fun _ => rfl⟩

omit h in
theorem Rounds.next {d : Token} {T' : List Token} {v : Term} {l : Position}
    (hrest : Rounds P r start T' Y l v u' stop') (hle : T'.length ≤ T.length)
    (hd : ∀ fuel, trailers r start (fuel + 1) t ⟨d :: T ++ Y, last⟩ =
      trailers r start fuel v ⟨T' ++ Y, l⟩) : Rounds P r start (d :: T) Y last t u' stop' := by
  obtain ⟨n, t', stop, hn, ht', hstop', hrounds⟩ := hrest
  refine ⟨n + 1, t', stop, by rw [List.length_cons]; omega, ht', hstop', fun fuel => ?_⟩
  rw [← hrounds fuel, ← hd]
  rfl

/-- What stands behind an atom in the one place is read in the other, whatever comes behind it. -/
theorem trailers_rounds {fuel' : Nat} (hz : z.lexeme.mark.attach < Precedence.atom.rank)
    (hstart : P.starts start start') (htu : t.Alike P u) (halike : List.Forall₂ (Token.Alike P) T U)
    (hbalanced : Balanced colon T) (hlength : T.length ≤ k + 1) (hstop : P.stops last last')
    (hU : trailers r' start' fuel' u ⟨U ++ z :: zs, last'⟩ = some (u', ⟨z :: zs, stop'⟩)) :
    Rounds P r start T Y last t u' stop' := by
  induction fuel' generalizing T U t u last last' with
  | zero => exact .none htu halike hstop hU
  | succ fuel' ih =>
    cases halike with
    | nil =>
      rw [List.nil_append, trailers_end hz] at hU
      exact .none htu .nil hstop hU
    | @cons d e T U hde htail =>
      rw [List.length_cons] at hlength
      rw [List.cons_append] at hU
      by_cases hdot : e.lexeme = .symbol "."
      · have hd : d.lexeme = .symbol "." := (hde.lexeme.symbol_iff _).2 hdot
        have hT := hbalanced.tail (by rw [hd]; rfl)
        rw [trailers_attribute hdot] at hU
        obtain ⟨attr, c, hattr, hrest⟩ := bind_eq_some.1 hU
        cases htail with
        | nil =>
          -- What stands behind the stretch is no name.
          rw [List.nil_append, identifier_cons] at hattr
          cases hl : z.lexeme with
          | name id =>
            rw [hl] at hz
            exact (Nat.lt_irrefl _ hz).elim
          | _ =>
            rw [hl] at hattr
            cases hattr
        | @cons x y T U hxy htail =>
          rw [List.cons_append, identifier_cons] at hattr
          have hname : ∃ id, y.lexeme = .name id ∧ x.lexeme = .name id := by
            cases hl : y.lexeme with
            | name id => exact ⟨id, rfl, Lexeme.mark_name.1 (by rw [hxy.lexeme.mark, hl]; rfl)⟩
            | _ =>
              rw [hl] at hattr
              cases hattr
          obtain ⟨id, hy, hx⟩ := hname
          rw [hy] at hattr
          cases hattr
          have hattribute : (Term.attribute t attr).Alike P (.attribute u attr) :=
            .whole ⟨rfl, rfl⟩ rfl rfl rfl rfl rfl
          refine (ih hattribute htail (hT.tail (by rw [hx]; rfl))
            (by rw [List.length_cons] at hlength; omega) hxy.span.stop hrest).next
            (Nat.le_succ _) fun fuel => ?_
          rw [List.cons_append, List.cons_append, trailers_attribute hd, run_bind, identifier_cons, hx]
          rfl
      by_cases hparen : e.lexeme = .symbol "("
      · have hd : d.lexeme = .symbol "(" := (hde.lexeme.symbol_iff _).2 hparen
        rw [trailers_call hparen] at hU
        obtain ⟨w, c, hw, hrest⟩ := bind_eq_some.1 hU
        obtain ⟨v, T', U', l, l', -, hv, rfl, halike', hbalanced', hlt, hl⟩ :=
          ((arguments_agrees h hde.span.start).mono (Nat.le_of_succ_le_succ hlength)).success
            (Y := Y) (by rw [hd]; rfl) hbalanced htail (Nat.le_refl _) hde.span.stop hw
        have hcall : (Term.call t v.1 v.2).Alike P (.call u w.1 w.2) :=
          .whole ⟨rfl, rfl⟩ rfl rfl rfl rfl rfl
        refine (ih hcall halike' hbalanced' (by omega) hl hrest).next (Nat.le_of_lt hlt)
          fun fuel => ?_
        rw [List.cons_append, trailers_call hd, run_bind, hv]
        rfl
      by_cases hbracket : e.lexeme = .symbol "["
      · have hd : d.lexeme = .symbol "[" := (hde.lexeme.symbol_iff _).2 hbracket
        rw [trailers_subscript hbracket] at hU
        obtain ⟨w, c, hw, hrest⟩ := bind_eq_some.1 hU
        obtain ⟨v, T', U', l, l', hvw, hv, rfl, halike', hbalanced', hlt, hl⟩ :=
          ((subscriptOf_agrees h hstart t u).mono (Nat.le_of_succ_le_succ hlength)).success
            (Y := Y) (by rw [hd]; rfl) hbalanced htail (Nat.le_refl _) hde.span.stop hw
        refine (ih hvw halike' hbalanced' (by omega) hl hrest).next (Nat.le_of_lt hlt) fun fuel => ?_
        rw [List.cons_append, trailers_subscript hd, run_bind, hv]
        rfl
      · rw [trailers_other] at hU
        · exact .none htu (.cons hde htail) hstop hU
        · rintro text htext t' ⟨⟩
          simp only [List.mem_cons, List.not_mem_nil, or_false] at htext
          obtain rfl | rfl | rfl := htext <;> assumption

end

end

end Refactory.Grammar
