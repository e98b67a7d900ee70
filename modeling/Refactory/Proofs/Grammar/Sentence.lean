import Refactory.Grammar.StatementReader
import Refactory.Proofs.Grammar.Verbatim

/-! # Simple statements are read alike wherever they stand

On stretches of tokens that are alike, in front of line ends, the reader of simple statements has the same
outcome (`simpleStatement_agrees`). Of the statements that it gives, those that are captured keep the same
stretch of source: a simple statement on a line of its own that is captured when it stands alone
(`Sentence`) is captured with the same text wherever it stands (`Sentence.takes`). -/

namespace Refactory.Grammar

/-! ## Statements that are alike -/

/-- The kind and the stretch of source of a statement that is captured. -/
def Statement.extent? : Statement → Option (Text × Span)
  | .assign _ [_] _ => none
  | .assign span _ _ => some ("ChainedAssign", span)
  | .other span kind => some (kind, span)
  | _ => none

/-- Both are captured with stretches that correspond, or none is captured. -/
def Statement.Alike (P : Places) (s s' : Statement) : Prop :=
  Option.Rel (Kept P) s.extent? s'.extent?

variable {P : Places} {k : Nat} {r r' : Readers}

theorem Statement.Alike.assign {s s' : Span} (hs : s.Alike P s') {ts us : List Term}
    (h : ts.length = us.length) (v w : Term) :
    (Statement.assign s ts v).Alike P (.assign s' us w) := by
  rcases ts with _ | ⟨t, _ | ⟨t', ts⟩⟩
  · obtain rfl := List.length_eq_zero_iff.1 h.symm
    exact .some ⟨rfl, hs⟩
  · obtain ⟨u, rfl⟩ := List.length_eq_one_iff.1 h.symm
    exact .none
  · rcases us with _ | ⟨u, _ | ⟨u', us⟩⟩
    · cases h
    · cases h
    · exact .some ⟨rfl, hs⟩

theorem Statement.Alike.other {s s' : Span} (hs : s.Alike P s') (kind : Text) :
    (Statement.other s kind).Alike P (.other s' kind) := .some ⟨rfl, hs⟩

/-! ## Line ends -/

theorem stops_newline : Stops (· = .newline) := by
  rintro m rfl
  rfl

theorem newline_ne (text : String) : ¬ (· = Mark.newline) (Mark.symbol text) := fun heq => by
  cases heq

/-- The readers agree up to the end of a line. -/
abbrev InLines {α β : Type} (P : Places) (most least : Nat) (R : α → β → Prop) (p : Reader α)
    (q : Reader β) : Prop := Agrees P (· = .newline) true most least R p q

/-! ## Imports -/

theorem dottedName_agrees : InLines P k 1 (fun _ _ => True) dottedName dottedName := by
  have hmore : InLines P k 1 (fun _ _ => True) (do expect "."; identifier)
      (do expect "."; identifier) :=
    (Agrees.expect rfl (newline_ne _)).also fun _ _ _ =>
      (Agrees.identifier stops_newline).free.mono (Nat.le_refl _) (Nat.le_refl _) fun _ _ _ => trivial
  exact (Agrees.identifier stops_newline).also fun _ _ _ => hmore.many.next fun _ _ _ => .pure trivial

theorem asName_agrees {B : Mark → Prop} {colon : Bool} (hB : Stops B) (has : ¬ B (.symbol "as")) :
    Agrees P B colon k 0 (fun _ _ => True) asName asName := by
  refine .ifAccept (Nat.le_succ k) rfl has ?_ (.pure trivial)
  exact (Agrees.identifier hB).next fun _ _ _ => .pure trivial

theorem importStatement_agrees :
    InLines P k 1 (Statement.Alike P) importStatement importStatement := by
  have hitem : InLines P k 1 (fun _ _ => True)
      (do let name ← dottedName; return ImportedName.mk name (← asName))
      (do let name ← dottedName; return ImportedName.mk name (← asName)) :=
    dottedName_agrees.also fun _ _ _ =>
      (asName_agrees stops_newline (newline_ne _)).next fun _ _ _ => .pure trivial
  refine Agrees.here.past fun s s' hs => (Agrees.expect rfl (newline_ne _)).also fun _ _ _ => ?_
  refine hitem.next fun _ _ _ => ?_
  have hmore : InLines P k 1 (fun _ _ => True)
      (do expect ","; let name ← dottedName; return ImportedName.mk name (← asName))
      (do expect ","; let name ← dottedName; return ImportedName.mk name (← asName)) :=
    (Agrees.expect rfl (newline_ne _)).also fun _ _ _ => hitem.free
  exact hmore.many.next fun _ _ _ => (Agrees.spanFrom hs).next fun _ _ _ => .pure .none

/-- The dots that a symbol in front of a relative import stands for. -/
def dotsOf : Lexeme → Reader Nat
  | .symbol s => if s == "." then return 1 else if s == "..." then return 3 else Reader.fail
  | _ => Reader.fail

theorem relativeLevel_eq :
    relativeLevel = do return (← Reader.many (advance >>= dotsOf)).foldl (· + ·) 0 := rfl

theorem dotsOf_agrees : InLines P k 1 (· = ·) (advance >>= dotsOf) (advance >>= dotsOf) := by
  have hother : ∀ l : Lexeme, (∀ text ∈ [".", "..."], l ≠ .symbol text) → ∀ c : Cursor,
      dotsOf l c = none ∧ dotsOf l c = none := by
    intro l hl c
    cases l with
    | symbol s =>
      have hs : ∀ text ∈ [".", "..."], (s == text) = false := fun text htext =>
        beq_eq_false_iff_ne.2 fun heq => hl text htext (congrArg _ heq)
      rw [dotsOf, hs "." (by decide), hs "..." (by decide)]
      exact ⟨rfl, rfl⟩
    | _ => exact ⟨rfl, rfl⟩
  refine Agrees.advance (fun l l' hl _ => ?_) (fun l hl => hother l ?_) fun l hl => hother l ?_
  · cases hl with
    | string _ _ => exact .fail
    | refl _ =>
      cases l with
      | symbol s => exact .ite (fun _ => .pure rfl) fun _ => .ite (fun _ => .pure rfl) fun _ => .fail
      | _ => exact .fail
  · rintro text htext rfl
    revert hl
    revert text
    decide
  · rintro text - rfl
    cases hl

theorem relativeLevel_agrees : InLines P k 0 (· = ·) relativeLevel relativeLevel := by
  rw [relativeLevel_eq]
  refine dotsOf_agrees.many.next fun ms ns hms => .pure ?_
  rw [List.forall₂_eq_eq_eq] at hms
  rw [hms]

/-- An imported name with the name it is bound to. -/
def importedName : Reader ImportedName := do
  let name ← identifier
  return ⟨name, ← asName⟩

theorem importedName_agrees {B : Mark → Prop} {colon : Bool} (hB : Stops B)
    (has : ¬ B (.symbol "as")) :
    Agrees P B colon k 1 (fun _ _ => True) importedName importedName :=
  (Agrees.identifier hB).also fun _ _ _ => (asName_agrees hB has).next fun _ _ _ => .pure trivial

/-- Imported names in parentheses. -/
def enclosedNames : Reader (List ImportedName) := do
  let (names, _) ← commaSeparated importedName
  expect ")"
  return names

theorem importedNames_eq : importedNames = do
    if ← accept "*" then return [⟨"*", none⟩]
    else if ← accept "(" then enclosedNames >>= Pure.pure
    else
      let first ← importedName
      let others ← Reader.many (do expect ","; importedName)
      refuse ","
      return first :: others := by
  simp only [bind_pure]
  rfl

theorem importedNames_agrees : InLines P k 0 (fun _ _ => True) importedNames importedNames := by
  have hinside : Inside (· = .symbol ")") := inside_closer (by decide)
  have has : ¬ (· = Mark.symbol ")") (Mark.symbol "as") := fun heq =>
    absurd (Mark.symbol.inj heq) (by decide)
  have henclosed : Encloses P ")" k (fun _ _ => True) enclosedNames enclosedNames :=
    .bind (Agrees.commaSeparated (importedName_agrees hinside.stops has) (hinside.others _ (by decide)))
      fun _ _ _ => .expect (.inl (by decide)) (.pure trivial)
  have hname : InLines P (k + 1) 1 (fun _ _ => True) importedName importedName :=
    importedName_agrees stops_newline (newline_ne _)
  have hmore : InLines P (k + 1) 1 (fun _ _ => True) (do expect ","; importedName)
      (do expect ","; importedName) :=
    (Agrees.expect rfl (newline_ne _)).also fun _ _ _ => hname.free
  rw [importedNames_eq]
  refine .ifAccept (Nat.le_succ k) rfl (newline_ne _) (.pure trivial) ?_
  refine Agrees.mono ?_ (Nat.le_succ k) (Nat.le_refl 0) fun _ _ => id
  refine .ifOpen rfl (newline_ne _) henclosed (fun _ _ _ => .pure trivial) (Nat.zero_le 2) ?_
  exact hname.next fun _ _ _ => hmore.many.next fun _ _ _ =>
    (Agrees.refuse (newline_ne _)).next fun _ _ _ => .pure trivial

/-- An import from a module behind the name of the module. -/
def importFromRest (start : Position) (level : Nat) (module : Option Text) : Reader Statement := do
  if level = 0 && module.isNone then Reader.fail
  else
    expect "import"
    let names ← importedNames
    return .importFrom (← spanFrom start) module names level

theorem importFromRest_agrees {s s' : Position} (hs : P.starts s s') (level : Nat) {m m' : Option Text}
    (hm : m.isNone = m'.isNone) :
    InLines P k 0 (Statement.Alike P) (importFromRest s level m) (importFromRest s' level m') := by
  refine .branch (by rw [hm]) (fun _ => .fail) fun _ => ?_
  refine (Agrees.expect rfl (newline_ne _)).next fun _ _ _ => importedNames_agrees.next fun _ _ _ => ?_
  exact (Agrees.spanFrom hs).next fun _ _ _ => .pure .none

theorem fromStatement_agrees :
    InLines P k 1 (Statement.Alike P) fromStatement fromStatement := by
  refine Agrees.here.past fun s s' hs => (Agrees.expect rfl (newline_ne _)).also fun _ _ _ => ?_
  refine relativeLevel_agrees.next ?_
  rintro level _ rfl
  have hnamed : InLines P k 1 (fun m m' : Option Text => m.isNone = m'.isNone)
      (some <$> dottedName) (some <$> dottedName) := dottedName_agrees.map fun _ _ _ => rfl
  refine .ifNext (newline_ne _) ?_ ?_
  · exact importFromRest_agrees hs level rfl
  · exact hnamed.next fun _ _ hm => importFromRest_agrees hs level hm

section

variable (h : ReadersAgree P k r r')

include h

/-! ## Statements that begin with an expression -/

theorem assigned_agrees : InLines P k 1 (Term.Alike P) (assigned r) (assigned r') :=
  .ifNext (newline_ne _)
    (yieldExpression_agrees h stops_newline (newline_ne _) (newline_ne _))
    (starExpressions_agrees h stops_newline (newline_ne _))

omit h in
theorem assignment_end (fuel : Nat) (seen : List Term) {y : Token} (hy : y.lexeme.mark = .newline)
    (ys : List Token) (last : Position) : assignment r fuel seen ⟨y :: ys, last⟩ = none := by
  cases fuel with
  | zero => rfl
  | succ fuel =>
    rw [assignment, run_bind, expect_of_other]
    · rfl
    · rintro t ⟨⟩
      rw [Lexeme.mark_newline.1 hy]
      exact fun heq => by cases heq

theorem assignment_agrees {n fuel fuel' : Nat} (hn : n ≤ k) (hfuel : n ≤ fuel) (hfuel' : n ≤ fuel')
    {seen seen' : List Term} (hseen : seen.length = seen'.length) :
    InLines P n 0 (fun x y => x.1.length = y.1.length) (assignment r fuel seen)
      (assignment r' fuel' seen') := by
  induction n generalizing fuel fuel' seen seen' with
  | zero =>
    intro T U Y Z last last' halike _ hlength hfollowed _
    obtain rfl := List.length_eq_zero_iff.1 (Nat.le_zero.1 hlength)
    cases halike
    cases hfollowed with
    | mk left right _ =>
      rw [List.nil_append, List.nil_append, assignment_end fuel seen left,
        assignment_end fuel' seen' right]
      exact .fails
  | succ n ih =>
    obtain ⟨fuel, rfl⟩ := Nat.exists_eq_add_one_of_ne_zero (Nat.ne_zero_of_lt hfuel)
    obtain ⟨fuel', rfl⟩ := Nat.exists_eq_add_one_of_ne_zero (Nat.ne_zero_of_lt hfuel')
    have hreverse : seen.reverse.length = seen'.reverse.length := by
      rw [List.length_reverse, List.length_reverse, hseen]
    refine ((Agrees.expect rfl (newline_ne _)).first (Nat.le_refl _) fun _ _ _ => ?_).free
    have hn' : n ≤ k := Nat.le_of_succ_le hn
    refine .ifNext (newline_ne _) ?_ ?_
    · exact ((yieldExpression_agrees h stops_newline (newline_ne _) (newline_ne _)).mono hn'
        (Nat.zero_le 1) fun _ _ => id).next fun _ _ _ => .pure hreverse
    · refine ((starExpressions_agrees h stops_newline (newline_ne _)).mono hn' (Nat.zero_le 1)
        fun _ _ => id).next fun t u htu => ?_
      refine .ifNext (newline_ne _) (.branch (by rw [htu.target]) (fun _ => ?_) fun _ => .fail)
        (.pure hreverse)
      exact ih hn' (Nat.le_of_succ_le_succ hfuel) (Nat.le_of_succ_le_succ hfuel')
        (congrArg (· + 1) hseen)

theorem assignment_agrees_whole {seen seen' : List Term} (hseen : seen.length = seen'.length) :
    InLines P k 0 (fun x y => x.1.length = y.1.length) (fun c => assignment r c.rest.length seen c)
      (fun c => assignment r' c.rest.length seen' c) := by
  intro T U Y Z last last' halike hbalanced hlength hfollowed hstop
  have hfuel : T.length ≤ (T ++ Y).length := by
    rw [List.length_append]
    exact Nat.le_add_right _ _
  have hfuel' : T.length ≤ (U ++ Z).length := by
    rw [List.length_append, halike.length_eq]
    exact Nat.le_add_right _ _
  exact assignment_agrees h hlength hfuel hfuel' hseen _ _ _ _ _ _ halike hbalanced (Nat.le_refl _)
    hfollowed hstop

/-- Whether a lexeme is the operator of a combined assignment. -/
def isAugmented : Lexeme → Bool
  | .symbol s => augmentedOperators.contains s
  | _ => false

omit h in
theorem acceptAugmented_cons (t : Token) (ts : List Token) (last : Position) :
    acceptAugmented ⟨t :: ts, last⟩ =
      if isAugmented t.lexeme then some (true, ⟨ts, t.span.stop⟩) else some (false, ⟨t :: ts, last⟩) := by
  obtain ⟨l, span⟩ := t
  cases l with
  | symbol s =>
    change (if augmentedOperators.contains s then _ else _ : Reader Bool) _ = _
    rw [isAugmented]
    split <;> rfl
  | _ => rfl

omit h in
theorem acceptAugmented_agrees : InLines P k 0 (· = ·) acceptAugmented acceptAugmented := by
  intro T U Y Z last last' halike hbalanced hlength hfollowed hstop
  cases halike with
  | nil =>
    cases hfollowed with
    | @mk y z ys zs left right _ =>
      rw [List.nil_append, List.nil_append, acceptAugmented_cons, acceptAugmented_cons,
        Lexeme.mark_newline.1 left, Lexeme.mark_newline.1 right]
      exact .gives (T := []) (U := []) rfl .nil .nil (Nat.le_refl _) hstop
  | @cons t u T U ht htail =>
    have hsame : isAugmented t.lexeme = isAugmented u.lexeme := by
      have hlexeme := ht.lexeme
      generalize t.lexeme = l at hlexeme ⊢
      generalize u.lexeme = l' at hlexeme ⊢
      cases hlexeme <;> rfl
    rw [List.cons_append, List.cons_append, acceptAugmented_cons, acceptAugmented_cons, ← hsame]
    cases haugmented : isAugmented t.lexeme with
    | false => exact .gives (T := t :: T) (U := u :: U) rfl (.cons ht htail) hbalanced (Nat.le_refl _) hstop
    | true =>
      have hplain : t.lexeme.isPlain = true := by
        generalize t.lexeme = l at haugmented ⊢
        cases l with
        | symbol s =>
          have hall : ∀ s ∈ augmentedOperators, (Lexeme.symbol s).isPlain = true := by decide
          exact hall s (List.contains_iff_mem.1 haugmented)
        | _ => rfl
      exact .gives rfl htail (hbalanced.tail hplain) (Nat.le_succ _) ht.span.stop

theorem expressionStatement_agrees :
    InLines P k 1 (Statement.Alike P) (expressionStatement r) (expressionStatement r') := by
  have hassigned := assigned_agrees h
  refine Agrees.here.past fun s s' hs => ?_
  have hother : ∀ kind : Text, InLines P k 0 (Statement.Alike P)
      (do return .other (← spanFrom s) kind) (do return .other (← spanFrom s') kind) := fun kind =>
    (Agrees.spanFrom hs).next fun _ _ hspan => .pure (.other hspan kind)
  refine (starExpressions_agrees h stops_newline (newline_ne _)).also fun t u htu => ?_
  refine .ifNext (newline_ne _) (.branch (by rw [htu.target]) (fun _ => ?_) fun _ => .fail) ?_
  · have hassignment : InLines P k 0 (fun x y => x.1.length = y.1.length)
        (fun c => assignment r c.rest.length [t] c) (fun c => assignment r' c.rest.length [u] c) :=
      assignment_agrees_whole h rfl
    refine hassignment.next ?_
    rintro ⟨ts, v⟩ ⟨us, w⟩ hlength
    exact (Agrees.spanFrom hs).next fun _ _ hspan => .pure (.assign hspan hlength v w)
  refine .ifAccept (Nat.le_succ k) rfl (newline_ne _)
    (.branch (by rw [htu.single]) (fun _ => ?_) fun _ => .fail) ?_
  · refine (h .expression stops_newline).next fun _ _ _ => ?_
    exact .ifAccept (Nat.le_succ k) rfl (newline_ne _) (hassigned.next fun _ _ _ => hother _) (hother _)
  refine acceptAugmented_agrees.next ?_
  rintro augmented _ rfl
  refine .ite (fun _ => .branch (by rw [htu.single]) (fun _ => ?_) fun _ => .fail) fun _ => ?_
  · exact hassigned.next fun _ _ _ => hother _
  · exact (Agrees.spanFrom hs).next fun _ _ _ => .pure .none

/-! ## Statements behind a word -/

theorem raiseOperands_agrees :
    InLines P k 0 (fun _ _ => True) (raiseOperands r) (raiseOperands r') := by
  refine (h .expression stops_newline).optional.next fun x y hxy => ?_
  have hsome : x.isSome = y.isSome := by cases hxy <;> rfl
  refine .branch (by rw [hsome]) (fun _ => ?_) fun _ => .pure trivial
  refine .ifAccept (Nat.le_succ k) rfl (newline_ne _) ?_ (.pure trivial)
  exact (h .expression stops_newline).next fun _ _ _ => .pure trivial

theorem deleteOperands_agrees :
    InLines P k 0 (fun _ _ => True) (deleteOperands r) (deleteOperands r') := by
  refine (Agrees.commaSeparated (h .primary stops_newline) (newline_ne _)).next ?_
  rintro ⟨ts, _⟩ ⟨us, _⟩ ⟨htus, -⟩
  exact .branch (by rw [Term.Alike.areDeletable htus]) (fun _ => .pure trivial) fun _ => .fail

theorem assertOperands_agrees :
    InLines P k 0 (fun _ _ => True) (assertOperands r) (assertOperands r') := by
  refine (h .expression stops_newline).next fun _ _ _ => ?_
  refine .ifAccept (Nat.le_succ k) rfl (newline_ne _) ?_ (.pure trivial)
  exact (h .expression stops_newline).next fun _ _ _ => .pure trivial

omit h in
theorem nameOperands_agrees : InLines P k 0 (fun _ _ => True) nameOperands nameOperands := by
  have hmore : InLines P k 1 (· = ·) (do expect ","; identifier) (do expect ","; identifier) :=
    (Agrees.expect rfl (newline_ne _)).also fun _ _ _ => (Agrees.identifier stops_newline).free
  exact (Agrees.identifier stops_newline).next fun _ _ _ => hmore.many.next fun _ _ _ => .pure trivial

/-- A statement behind its word: operands and what they make. -/
def behindWord (start : Position) (kind : Text) (operands : Reader Unit) : Reader Statement := do
  operands
  return .other (← spanFrom start) kind

section

variable {α : Type} {text s : String} {span : Span} {ts : List Token} {last : Position}
  {p p' q q' : Reader α}

omit h in
theorem ifNext_symbol (hp : p' ⟨⟨.symbol s, span⟩ :: ts, last⟩ = p ⟨⟨.symbol s, span⟩ :: ts, last⟩)
    (hq : q' ⟨⟨.symbol s, span⟩ :: ts, last⟩ = q ⟨⟨.symbol s, span⟩ :: ts, last⟩) :
    (if s == text then p' else q') ⟨⟨.symbol s, span⟩ :: ts, last⟩ =
      (do if ← nextIs text then p else q) ⟨⟨.symbol s, span⟩ :: ts, last⟩ := by
  change _ = (if s == text then p else q) ⟨⟨.symbol s, span⟩ :: ts, last⟩
  split
  · exact hp
  · exact hq

omit h in
theorem ifAccept_symbol (hp : p' ⟨⟨.symbol s, span⟩ :: ts, last⟩ = p ⟨ts, span.stop⟩)
    (hq : q' ⟨⟨.symbol s, span⟩ :: ts, last⟩ = q ⟨⟨.symbol s, span⟩ :: ts, last⟩) :
    (if s == text then p' else q') ⟨⟨.symbol s, span⟩ :: ts, last⟩ =
      (do if ← accept text then p else q) ⟨⟨.symbol s, span⟩ :: ts, last⟩ := by
  rw [run_bind]
  split
  · rename_i hs
    obtain rfl := eq_of_beq hs
    rw [accept_of_head rfl]
    exact hp
  · rename_i hs
    rw [accept_of_other]
    · exact hq
    · rintro t ⟨⟩ heq
      exact hs (beq_iff_eq.2 (Lexeme.symbol.inj heq))

end

/-- The reader of simple statements, by the word that comes next. -/
def wordStatement (r : Readers) : Reader Statement := do
  let start ← here
  if ← accept "return" then
    let value ← Reader.optional (starExpressions r)
    return .ret (← spanFrom start) value
  else if ← nextIs "import" then importStatement
  else if ← nextIs "from" then fromStatement
  else if ← accept "pass" then return .pass (← spanFrom start)
  else if ← nextIs "yield" then
    let e ← yieldExpression r
    return .expr (← spanFrom start) e
  else if ← accept "raise" then behindWord start "Raise" (raiseOperands r)
  else if ← accept "del" then behindWord start "Delete" (deleteOperands r)
  else if ← accept "assert" then behindWord start "Assert" (assertOperands r)
  else if ← accept "break" then behindWord start "Break" (pure ())
  else if ← accept "continue" then behindWord start "Continue" (pure ())
  else if ← accept "global" then behindWord start "Global" nameOperands
  else if ← accept "nonlocal" then behindWord start "Nonlocal" nameOperands
  else expressionStatement r

omit h in
theorem simpleStatement_eq (r : Readers) : simpleStatement r = wordStatement r := by
  funext ⟨tokens, last⟩
  rcases tokens with _ | ⟨⟨l, span⟩, ts⟩
  · rfl
  cases l with
  | symbol s =>
    exact ifAccept_symbol rfl (ifNext_symbol rfl (ifNext_symbol rfl (ifAccept_symbol rfl
      (ifNext_symbol rfl (ifAccept_symbol rfl (ifAccept_symbol rfl (ifAccept_symbol rfl
        (ifAccept_symbol rfl (ifAccept_symbol rfl (ifAccept_symbol rfl (ifAccept_symbol rfl
          rfl)))))))))))
  | _ => rfl

omit h in
theorem behindWord_agrees {s s' : Position} (hs : P.starts s s') (kind : Text)
    {operands operands' : Reader Unit} (hoperands : InLines P k 0 (fun _ _ => True) operands operands') :
    InLines P k 0 (Statement.Alike P) (behindWord s kind operands) (behindWord s' kind operands') :=
  hoperands.next fun _ _ _ => (Agrees.spanFrom hs).next fun _ _ hspan => .pure (.other hspan kind)

theorem simpleStatement_agrees :
    InLines P k 1 (Statement.Alike P) (simpleStatement r) (simpleStatement r') := by
  have hword : ∀ {text : String} {p p' q q' : Reader Statement},
      (Lexeme.symbol text).isPlain = true → InLines P k 0 (Statement.Alike P) p p' →
      InLines P k 1 (Statement.Alike P) q q' →
      InLines P k 1 (Statement.Alike P) (do if ← accept text then p else q)
        (do if ← accept text then p' else q') := fun hplain hp hq =>
    .ifAccept (Nat.le_succ k) hplain (newline_ne _) hp hq
  rw [simpleStatement_eq, simpleStatement_eq]
  refine Agrees.here.past fun s s' hs => ?_
  refine hword rfl ?_ ?_
  · exact (starExpressions_agrees h stops_newline (newline_ne _)).optional.next fun _ _ _ =>
      (Agrees.spanFrom hs).next fun _ _ _ => .pure .none
  refine .ifNext (newline_ne _) importStatement_agrees ?_
  refine .ifNext (newline_ne _) fromStatement_agrees ?_
  refine hword rfl ((Agrees.spanFrom hs).next fun _ _ _ => .pure .none) ?_
  refine .ifNext (newline_ne _) ?_ ?_
  · exact (yieldExpression_agrees h stops_newline (newline_ne _) (newline_ne _)).also fun _ _ _ =>
      (Agrees.spanFrom hs).next fun _ _ _ => .pure .none
  refine hword rfl (behindWord_agrees hs _ (raiseOperands_agrees h)) ?_
  refine hword rfl (behindWord_agrees hs _ (deleteOperands_agrees h)) ?_
  refine hword rfl (behindWord_agrees hs _ (assertOperands_agrees h)) ?_
  refine hword rfl (behindWord_agrees hs _ (.pure trivial)) ?_
  refine hword rfl (behindWord_agrees hs _ (.pure trivial)) ?_
  refine hword rfl (behindWord_agrees hs _ nameOperands_agrees) ?_
  refine hword rfl (behindWord_agrees hs _ nameOperands_agrees) ?_
  exact expressionStatement_agrees h

end

/-! ## Captured statements -/

theorem Statement.toStmt_extent {t : Statement} {kind : Text} {span : Span}
    (h : t.extent? = some (kind, span)) (o : Origin) : t.toStmt o = captureStmt o kind span := by
  cases t with
  | assign s targets value =>
    rcases targets with _ | ⟨target, _ | ⟨target', targets⟩⟩
    · cases h
      rfl
    · cases h
    · cases h
      rfl
  | other => cases h; rfl
  | _ => cases h

/-- The words that a compound statement begins with. -/
def compoundWords : List String :=
  ["def", "@", "async", "class", "if", "with", "for", "while", "try"]

/-- The words that go on with a `try` statement, with which no other begins. -/
def tryWords : List Mark := ["except", "else", "finally"].map .symbol

/-- Whether a piece is read to its end as a simple statement that is captured with its text. -/
def isKeptAs (kind : Text) (text : List Char) : Bool :=
  match simpleStatement (readers text.length) ⟨excerpt text ++ [lineEnd text.length], {}⟩ with
  | some (t, c) => c.rest.length == 1 && isWhole kind text.length t.extent?
  | none => false

/-- A captured simple statement that can be read back: its brackets match, it begins with none of the words
of other statements, and it is read as what it is captured as. -/
structure Sentence (kind : Text) (text : List Char) : Prop extends Snippet text where
  balanced : balances [] ((excerpt text).map (·.lexeme)) = true
  begins : ∀ t ∈ (excerpt text).head?,
    t.lexeme.mark ∉ tryWords ∧ t.lexeme.mark ∉ compoundWords.map Mark.symbol
  read : isKeptAs kind text = true

variable {kind : Text} {text : List Char}

instance : Decidable (Sentence kind text) :=
  decidable_of_iff (Snippet text ∧ balances [] ((excerpt text).map (·.lexeme)) = true ∧
      (∀ t ∈ (excerpt text).head?,
        t.lexeme.mark ∉ tryWords ∧ t.lexeme.mark ∉ compoundWords.map Mark.symbol) ∧
      isKeptAs kind text = true)
    ⟨fun ⟨a, b, c, d⟩ => ⟨a, b, c, d⟩, fun ⟨a, b, c, d⟩ => ⟨a, b, c, d⟩⟩

theorem Sentence.first_not_mem (h : Sentence kind text) : (Mark.captured kind text).first ∉ tryWords ∧
    ∀ word ∈ compoundWords, (Mark.captured kind text).first ≠ .symbol word := by
  obtain ⟨t, ts, hts⟩ := List.exists_cons_of_ne_nil h.nonempty
  have hfirst : (Mark.captured kind text).first = t.lexeme.mark := by
    rw [Mark.first, hts]
    rfl
  obtain ⟨htry, hcompound⟩ := h.begins t (by rw [hts]; rfl)
  rw [hfirst]
  exact ⟨htry, fun word hword heq => hcompound (heq ▸ List.mem_map_of_mem hword)⟩

/-- A piece that stands alone is read to its end. -/
theorem Sentence.reads (h : Sentence kind text) : ∃ u stop,
    simpleStatement (readers text.length) ⟨excerpt text ++ [lineEnd text.length], {}⟩ =
      some (u, ⟨[lineEnd text.length], stop⟩) ∧ isWhole kind text.length u.extent? = true := by
  have hread := h.read
  unfold isKeptAs at hread
  split at hread
  · rename_i u c hu
    rw [Bool.and_eq_true, beq_iff_eq] at hread
    obtain ⟨hlength, hwhole⟩ := hread
    obtain ⟨front, hfront, -⟩ := Passes.front (fun _ => True) hu
    obtain ⟨rest, stop⟩ := c
    obtain ⟨t, rfl⟩ := List.length_eq_one_iff.1 hlength
    obtain ⟨-, hlast⟩ := List.append_inj' hfront rfl
    exact ⟨u, stop, by rw [hu, hlast], hwhole⟩
  · cases hread

/-- A captured statement is taken in front of the end of its line. -/
theorem Sentence.takes {start last : Position} {T ys : List Token} {y : Token} {depth : Nat}
    (h : Sentence kind text)
    (hT : List.Forall₂ (Token.Alike (edges start text.length text.length)) T (excerpt text))
    (hdepth : T.length ≤ depth) (hy : y.lexeme.mark = .newline) :
    ∃ t stop, simpleStatement (readers depth) ⟨T ++ y :: ys, last⟩ = some (t, ⟨y :: ys, stop⟩) ∧
      Occupies kind start text.length t.extent? := by
  obtain ⟨u, stop, hu, hwhole⟩ := h.reads
  have hagree : ReadersAgree (edges start text.length text.length) T.length (readers depth)
      (readers text.length) := readers_agree hdepth (h.length_alike hT)
  obtain ⟨t, stop', ht, halike⟩ := h.toSnippet.taken hT (balanced_alike hT h.balanced)
    (simpleStatement_agrees hagree) hy rfl hu
  exact ⟨t, stop', ht, .of_alike halike hwhole⟩

end Refactory.Grammar
