import Mathlib.Data.List.Infix
import Refactory.Grammar.StatementReader

/-! # Readers move forward

What a reader leaves is a suffix of what it was given (`Moves`), and an expression takes no layout
(`InLine`). Both are `Passes`, with what may be taken. Tokens are taken by `advance` alone, so this is
handed on from the parts of a reader to the whole, and the instances follow the readers one by one. An
expression begins with a token that is no layout (`Begins`). -/

namespace Refactory.Grammar

variable {α β : Type}

/-- A sequence gives what its second part gives behind the first. -/
theorem bind_eq_some {p : Reader α} {f : α → Reader β} {c c'' : Cursor} {b : β} :
    (p >>= f) c = some (b, c'') ↔ ∃ a c', p c = some (a, c') ∧ f a c' = some (b, c'') := by
  change (p c).bind (fun x => f x.1 x.2) = _ ↔ _
  cases p c with
  | none => simp
  | some x => exact ⟨fun h => ⟨x.1, x.2, rfl, h⟩, fun ⟨_, _, hx, h⟩ => by cases hx; exact h⟩

/-! ## What is left -/

/-- A reader only moves forward, and the lexemes that it takes on the way are all of some sort. -/
class Passes (ok : Lexeme → Prop) (p : Reader α) : Prop where
  taken {c c' : Cursor} {a : α} : p c = some (a, c') →
    ∃ front, c.rest = front ++ c'.rest ∧ ∀ t ∈ front, ok t.lexeme

/-- A reader only moves forward. -/
abbrev Moves (p : Reader α) : Prop := Passes (fun _ => True) p

/-- A reader takes nothing that is layout. -/
abbrev InLine (p : Reader α) : Prop := Passes (fun l => l.isLayout = false) p

/-- What a reader takes on the way, as lexemes of a given sort. -/
theorem Passes.front (ok : Lexeme → Prop) {p : Reader α} [Passes ok p] {c c' : Cursor} {a : α}
    (h : p c = some (a, c')) : ∃ front, c.rest = front ++ c'.rest ∧ ∀ t ∈ front, ok t.lexeme :=
  Passes.taken h

/-- What a reader leaves is a suffix of what it was given. -/
theorem Moves.suffix {p : Reader α} [Moves p] {c c' : Cursor} {a : α} (h : p c = some (a, c')) :
    c'.rest <:+ c.rest := by
  obtain ⟨front, hfront, -⟩ := Passes.front (fun _ => True) h
  exact ⟨front, hfront.symm⟩

section

variable {ok : Lexeme → Prop} {p q : Reader α} {f : α → Reader β}

instance (priority := low) [InLine p] : Moves p where
  taken hp := by
    obtain ⟨front, hfront, -⟩ := Passes.front (fun l => l.isLayout = false) hp
    exact ⟨front, hfront, fun _ _ => trivial⟩

theorem Passes.stay (h : ∀ c, ∃ a, p c = some (a, c)) : Passes ok p where
  taken {c c' a} hp := by
    obtain ⟨_, hc⟩ := h c
    rw [hc] at hp
    cases hp
    exact ⟨[], rfl, List.forall_mem_nil _⟩

theorem Passes.bind [Passes ok p] (h : ∀ a, Passes ok (f a)) : Passes ok (p >>= f) where
  taken hp := by
    obtain ⟨a, c', ha, hf⟩ := bind_eq_some.1 hp
    obtain ⟨front, hfront, hok⟩ := Passes.front ok ha
    obtain ⟨front', hfront', hok'⟩ := (h a).taken hf
    exact ⟨front ++ front', by rw [hfront, hfront', List.append_assoc],
      List.forall_mem_append.2 ⟨hok, hok'⟩⟩

instance [Passes ok p] [∀ a, Passes ok (f a)] : Passes ok (p >>= f) := Passes.bind inferInstance

instance (a : α) : Passes ok (pure a) := .stay fun _ => ⟨a, rfl⟩

instance (g : α → β) [Passes ok p] : Passes ok (g <$> p) where
  taken {c c' b} hp := by
    change (p c).bind (fun x => some (g x.1, x.2)) = _ at hp
    obtain ⟨⟨a, c''⟩, ha, hx⟩ := Option.bind_eq_some_iff.1 hp
    cases hx
    exact Passes.taken ha

instance : Passes ok (Reader.fail : Reader α) where
  taken hp := by cases hp

instance (b : Prop) [Decidable b] [Passes ok p] [Passes ok q] : Passes ok (if b then p else q) := by
  split <;> infer_instance

instance [Passes ok p] [Passes ok q] : Passes ok (p.or q) where
  taken {c c' a} hp := by
    unfold Reader.or at hp
    split at hp
    · rename_i hfirst
      cases hp
      exact Passes.taken hfirst
    · exact Passes.taken hp

instance [Passes ok p] : Passes ok (Reader.optional p) where
  taken {c c' a} hp := by
    unfold Reader.optional at hp
    split at hp
    · rename_i hsome
      cases hp
      exact Passes.taken hsome
    · cases hp
      exact ⟨[], rfl, List.forall_mem_nil _⟩

instance manyFuel_passes [Passes ok p] (fuel : Nat) : Passes ok (Reader.manyFuel p fuel) where
  taken {c c' as} hp := by
    induction fuel generalizing c as with
    | zero =>
      cases hp
      exact ⟨[], rfl, List.forall_mem_nil _⟩
    | succ fuel ih =>
      unfold Reader.manyFuel at hp
      split at hp
      · cases hp
        exact ⟨[], rfl, List.forall_mem_nil _⟩
      · rename_i a c'' hfirst
        obtain ⟨⟨as, c'''⟩, has, hx⟩ := Option.map_eq_some_iff.1 hp
        cases hx
        obtain ⟨front, hfront, hok⟩ := Passes.front ok hfirst
        obtain ⟨front', hfront', hok'⟩ := ih has
        exact ⟨front ++ front', by rw [hfront, hfront', List.append_assoc],
          List.forall_mem_append.2 ⟨hok, hok'⟩⟩

/-- The bound on a repetition can depend on what is left. -/
theorem Passes.bounded (g : Nat → Reader α) [∀ fuel, Passes ok (g fuel)] (bound : Cursor → Nat) :
    Passes ok (fun c => g (bound c) c) where
  taken hp := Passes.taken (p := g _) hp

instance many_passes [Passes ok p] : Passes ok (Reader.many p) :=
  Passes.bounded (Reader.manyFuel p) _

instance [Passes ok p] : Passes ok (Reader.some p) := by
  unfold Reader.some
  infer_instance

end

/-! ## Tokens -/

section

variable {ok : Lexeme → Prop}

instance : Passes ok peek := .stay fun _ => ⟨_, rfl⟩

instance : Passes ok here := .stay fun _ => ⟨_, rfl⟩

instance (start : Position) : Passes ok (spanFrom start) := .stay fun _ => ⟨_, rfl⟩

instance (text : String) : Passes ok (nameThen text) := .stay fun c => by
  unfold nameThen
  split <;> exact ⟨_, rfl⟩

instance : Passes ok nextIsStarHandler := .stay fun c => by
  unfold nextIsStarHandler
  split <;> exact ⟨_, rfl⟩

instance (text : String) : Passes ok (nextIs text) := by
  unfold nextIs
  refine Passes.bind fun l => ?_
  split <;> infer_instance

instance (id : String) : Passes ok (nextIsName id) := by
  unfold nextIsName
  refine Passes.bind fun l => ?_
  split <;> infer_instance

instance (text : String) : Passes ok (refuse text) := by
  unfold refuse
  infer_instance

end

theorem advance_eq_some {c c' : Cursor} {l : Lexeme} (h : advance c = some (l, c')) :
    ∃ t, c.rest = t :: c'.rest ∧ t.lexeme = l := by
  unfold advance at h
  split at h
  · cases h
  · rename_i t rest hrest
    cases h
    exact ⟨t, hrest, rfl⟩

instance : Moves advance where
  taken hp := by
    obtain ⟨t, hrest, -⟩ := advance_eq_some hp
    exact ⟨[t], hrest, fun _ _ => trivial⟩

/-- A token that leads on is no layout. -/
theorem InLine.advance {f : Lexeme → Reader β} (h : ∀ l, l.isLayout = false → InLine (f l))
    (hlayout : ∀ l, l.isLayout = true → ∀ c, f l c = none) : InLine (advance >>= f) where
  taken {c c' b} hp := by
    obtain ⟨l, c'', hadvance, hf⟩ := bind_eq_some.1 hp
    obtain ⟨t, hrest, rfl⟩ := advance_eq_some hadvance
    cases ht : t.lexeme.isLayout with
    | true =>
      rw [hlayout _ ht] at hf
      cases hf
    | false =>
      obtain ⟨front, hfront, hok⟩ := (h _ ht).taken hf
      exact ⟨t :: front, by rw [hrest, hfront]; rfl, List.forall_mem_cons.2 ⟨ht, hok⟩⟩

/-- A token that is taken after it was seen to be no layout. -/
theorem InLine.peek {f : Option Lexeme → Reader β}
    (h : ∀ l, InLine (f l) ∨ ∃ lexeme ∈ l, lexeme.isLayout = false ∧
      ∃ g : Lexeme → Reader β, f l = Grammar.advance >>= g ∧ ∀ x, InLine (g x)) :
    InLine (peek >>= f) where
  taken {c c' b} hp := by
    obtain ⟨l, c'', hpeek, hf⟩ := bind_eq_some.1 hp
    cases hpeek
    obtain hline | ⟨lexeme, hlexeme, hlayout, g, hg, hline⟩ := h (c.rest.head?.map (·.lexeme))
    · exact hline.taken hf
    · rw [hg] at hf
      obtain ⟨l, c'', hadvance, hf⟩ := bind_eq_some.1 hf
      obtain ⟨t, hrest, rfl⟩ := advance_eq_some hadvance
      obtain ⟨front, hfront, hok⟩ := (hline t.lexeme).taken hf
      rw [hrest] at hlexeme
      cases hlexeme
      exact ⟨t :: front, by rw [hrest, hfront]; rfl, List.forall_mem_cons.2 ⟨hlayout, hok⟩⟩

theorem nextIs_eq_some {text : String} {c c' : Cursor} {b : Bool}
    (h : nextIs text c = some (b, c')) :
    c' = c ∧ (b = true → ∃ t ∈ c.rest.head?, t.lexeme = .symbol text) := by
  obtain ⟨l, c'', hpeek, hl⟩ := bind_eq_some.1 h
  cases hpeek
  cases hhead : c.rest.head? with
  | none =>
    rw [hhead] at hl
    cases hl
    exact ⟨rfl, nofun⟩
  | some t =>
    rw [hhead] at hl
    cases hlexeme : t.lexeme with
    | symbol s =>
      rw [Option.map_some, hlexeme] at hl
      cases hl
      exact ⟨rfl, fun hb => ⟨t, rfl, by rw [hlexeme, eq_of_beq hb]⟩⟩
    | _ =>
      rw [Option.map_some, hlexeme] at hl
      cases hl
      exact ⟨rfl, nofun⟩

instance (text : String) : InLine (accept text) where
  taken {c c' b} hp := by
    obtain ⟨b', c'', hnext, hb⟩ := bind_eq_some.1 hp
    obtain ⟨rfl, htrue⟩ := nextIs_eq_some hnext
    split at hb
    · rename_i hb'
      obtain ⟨l, c'', hadvance, hx⟩ := bind_eq_some.1 hb
      cases hx
      obtain ⟨t, hrest, -⟩ := advance_eq_some hadvance
      obtain ⟨t', ht', hlexeme⟩ := htrue hb'
      rw [hrest] at ht'
      cases ht'
      exact ⟨[t], hrest, List.forall_mem_singleton.2 (by rw [hlexeme]; rfl)⟩
    · cases hb
      exact ⟨[], rfl, List.forall_mem_nil _⟩

instance (text : String) : InLine (expect text) := by
  unfold expect
  infer_instance

instance : InLine identifier := by
  unfold identifier
  refine InLine.advance (fun l _ => ?_) fun l hl c => ?_
  · split <;> infer_instance
  · cases l <;> first | rfl | cases hl

instance (isIt : Lexeme → Bool) : Moves (takeLayout isIt) := by
  unfold takeLayout
  infer_instance

instance : Moves newline := by
  unfold newline
  infer_instance

instance : Moves indent := by
  unfold indent
  infer_instance

instance : Moves dedent := by
  unfold dedent
  infer_instance

instance (item : Reader α) [InLine item] : InLine (commaSeparated item) := by
  unfold commaSeparated
  infer_instance

instance (item : Reader α) [Moves item] : Moves (commaSeparated item) := by
  unfold commaSeparated
  infer_instance

/-! ## Expressions -/

section

variable {r : Readers} [∀ level, InLine (r level)]

instance : InLine (namedExpression r) := by
  unfold namedExpression
  infer_instance

instance : InLine (element r) := by
  unfold element
  infer_instance

instance : InLine (starExpression r) := by
  unfold starExpression
  infer_instance

instance : InLine (starExpressions r) := by
  unfold starExpressions
  infer_instance

instance : InLine (yieldExpression r) := by
  unfold yieldExpression
  infer_instance

instance : InLine (target r) := by
  unfold target
  infer_instance

instance : InLine (targets r) := by
  unfold targets
  infer_instance

instance : InLine nextIsClause := by
  unfold nextIsClause
  infer_instance

instance : InLine (clause r) := by
  unfold clause
  infer_instance

instance : InLine (clauses r) := by
  unfold clauses
  infer_instance

instance (annotated starAnnotated : Bool) : InLine (paramName r annotated starAnnotated) := by
  unfold paramName
  infer_instance

instance (annotated : Bool) (p : ParamsSoFar) : InLine (paramItem r annotated p) := by
  unfold paramItem
  dsimp only
  -- what the search for instances cannot see through is a `match` on what was read before
  repeat' first | infer_instance | refine Passes.bind fun _ => ?_ | split

instance (annotated : Bool) (close : String) (fuel : Nat) (p : ParamsSoFar) :
    InLine (paramItems r annotated close fuel p) := by
  induction fuel generalizing p with
  | zero => unfold paramItems; infer_instance
  | succ fuel ih => unfold paramItems; infer_instance

instance (annotated : Bool) (close : String) : InLine (params r annotated close) where
  taken {c c' ps} hp := by
    obtain ⟨⟨p, c''⟩, hitems, hfinish⟩ := Option.bind_eq_some_iff.1 hp
    obtain ⟨_, -, hx⟩ := Option.bind_eq_some_iff.1 hfinish
    cases hx
    have h : InLine (paramItems r annotated close (c.rest.length + 1) {}) := inferInstance
    exact h.taken hitems

instance : InLine (lambda r) := by
  unfold lambda
  infer_instance

instance (a : ArgumentsSoFar) : InLine (argument r a) := by
  unfold argument
  repeat' first | infer_instance | refine Passes.bind fun _ => ?_

instance (fuel : Nat) (a : ArgumentsSoFar) : InLine (moreArguments r fuel a) := by
  induction fuel generalizing a with
  | zero => unfold moreArguments; infer_instance
  | succ fuel ih => unfold moreArguments; infer_instance

instance (first : ArgumentsSoFar) : InLine (closeArguments r first) := by
  unfold closeArguments
  have h : InLine _ := Passes.bounded (moreArguments r · first) fun c => c.rest.length + 1
  infer_instance

instance (start : Option Position) : InLine (arguments r start) := by
  unfold arguments
  repeat' first | infer_instance | refine Passes.bind fun _ => ?_ | split

instance : InLine (sliceItem r) := by
  unfold sliceItem
  dsimp only
  repeat' first | infer_instance | refine Passes.bind fun _ => ?_ | split

instance : InLine (subscriptIndex r) := by
  unfold subscriptIndex
  repeat' first | infer_instance | refine Passes.bind fun _ => ?_ | split

instance (start : Position) (fuel : Nat) (t : Term) : InLine (trailers r start fuel t) := by
  induction fuel generalizing t with
  | zero => unfold trailers; infer_instance
  | succ fuel ih =>
    unfold trailers
    repeat' first | infer_instance | refine Passes.bind fun _ => ?_

instance (start : Position) : InLine (parenthesis r start) := by
  unfold parenthesis
  repeat' first | infer_instance | refine Passes.bind fun _ => ?_ | split

instance (start : Position) : InLine (bracket r start) := by
  unfold bracket
  repeat' first | infer_instance | refine Passes.bind fun _ => ?_

instance : InLine (dictEntry r) := by
  unfold dictEntry
  infer_instance

instance (first : Option Term × Term) : InLine (dictRest r first) := by
  unfold dictRest
  infer_instance

instance (start : Position) (first : Term) : InLine (setRest r start first) := by
  unfold setRest
  infer_instance

instance (start : Position) : InLine (brace r start) := by
  unfold brace
  repeat' first | infer_instance | refine Passes.bind fun _ => ?_ | split

instance : InLine stringToken := by
  unfold stringToken
  refine InLine.advance (fun l _ => ?_) fun l hl c => ?_
  · split <;> infer_instance
  · cases l <;> first | rfl | cases hl

instance : InLine (strings r) := by
  unfold strings
  repeat' first | infer_instance | refine Passes.bind fun _ => ?_ | split

instance : InLine (atom r) := by
  unfold atom
  refine Passes.bind fun start => InLine.peek fun l => ?_
  split
  · exact .inl inferInstance
  · exact .inr ⟨_, rfl, rfl, _, rfl, fun _ => inferInstance⟩
  · exact .inr ⟨_, rfl, rfl, _, rfl, fun _ => inferInstance⟩
  · exact .inr ⟨_, rfl, rfl, _, rfl, fun _ => inferInstance⟩
  · exact .inl inferInstance

instance : InLine (primary r) := by
  unfold primary
  refine Passes.bind fun start => Passes.bind fun t => ?_
  exact Passes.bounded (trailers r start · t) _

instance : InLine (awaited r) := by
  unfold awaited
  infer_instance

instance : InLine (power r) := by
  unfold power
  infer_instance

instance : InLine (factor r) := by
  unfold factor
  refine InLine.peek fun l => ?_
  split
  · split
    · exact .inr ⟨_, rfl, rfl, _, rfl, fun _ => inferInstance⟩
    · exact .inl inferInstance
  · exact .inl inferInstance

instance (ops : List BinaryOp) : InLine (operator ops) := by
  unfold operator
  refine InLine.advance (fun l _ => ?_) fun l hl c => ?_
  · repeat' first | infer_instance | split
  · cases l <;> first | rfl | cases hl

instance (operand : Reader Term) [InLine operand] (ops : List BinaryOp) :
    InLine (leftGrouped operand ops) := by
  unfold leftGrouped
  infer_instance

instance : InLine (bitOr r) := by
  unfold bitOr bitXor bitAnd shift sum term
  infer_instance

instance : InLine compareOperator := by
  unfold compareOperator
  refine InLine.advance (fun l _ => ?_) fun l hl c => ?_
  · repeat' first | infer_instance | split
  · cases l <;> first | rfl | cases hl

instance : InLine (comparison r) := by
  unfold comparison
  infer_instance

instance : InLine (inversion r) := by
  unfold inversion
  infer_instance

instance (operand : Reader Term) [InLine operand] (op : BoolOp) : InLine (joined operand op) := by
  unfold joined
  infer_instance

instance : InLine (disjunction r) := by
  unfold disjunction conjunction
  infer_instance

instance : InLine (expression r) := by
  unfold expression
  infer_instance

instance (level : Level) : InLine (atLevel r level) := by
  cases level <;> unfold atLevel <;> infer_instance

end

instance (depth : Nat) (level : Level) : InLine (readers depth level) := by
  induction depth generalizing level with
  | zero => unfold readers; infer_instance
  | succ depth ih => exact inferInstanceAs (InLine (atLevel (readers depth) level))

/-! ## Patterns -/

instance (texts : List String) (f : String → Reader Unit) [∀ text, Moves (f text)] :
    Moves (forIn texts () fun text _ => do f text; pure (ForInStep.yield ())) := by
  induction texts with
  | nil => exact inferInstanceAs (Moves (pure ()))
  | cons t ts ih =>
    rw [List.forIn_cons]
    repeat' first | infer_instance | refine Passes.bind fun _ => ?_ | split

instance (texts : List String) : Moves (refuseAny texts) := by
  unfold refuseAny
  infer_instance

instance : Moves captureTarget := by
  unfold captureTarget
  infer_instance

instance : Moves dottedTarget := by
  unfold dottedTarget
  infer_instance

instance (imaginary : Bool) : Moves (numberToken imaginary) := by
  unfold numberToken
  repeat' first | infer_instance | refine Passes.bind fun _ => ?_ | split

instance : Moves numberPattern := by
  unfold numberPattern
  infer_instance

instance : Moves starPattern := by
  unfold starPattern
  infer_instance

section

variable {r : Readers} [∀ level, InLine (r level)] {p : Reader Unit} [Moves p]

instance : Moves (literalPattern r) := by
  unfold literalPattern
  repeat' first | infer_instance | refine Passes.bind fun _ => ?_ | split

instance : Moves (sequenceItem p) := by
  unfold sequenceItem
  infer_instance

instance : Moves (groupPattern p) := by
  unfold groupPattern
  infer_instance

instance : Moves (mappingItem r p) := by
  unfold mappingItem
  dsimp only
  repeat' first | infer_instance | refine Passes.bind fun _ => ?_ | split

instance : Moves (mappingPattern r p) := by
  unfold mappingPattern
  infer_instance

instance : Moves (classItem p) := by
  unfold classItem
  infer_instance

instance : Moves (classArguments p) := by
  unfold classArguments
  infer_instance

instance : Moves (namePattern p) := by
  unfold namePattern
  infer_instance

instance : Moves (closedPattern r p) := by
  unfold closedPattern
  repeat' first | infer_instance | refine Passes.bind fun _ => ?_ | split

instance (depth : Nat) : Moves (pattern r depth) := by
  induction depth with
  | zero => unfold pattern; infer_instance
  | succ depth ih =>
    unfold pattern
    infer_instance

instance (depth : Nat) : Moves (patterns r depth) := by
  unfold patterns
  infer_instance

end

/-! ## Statements -/

instance : Moves acceptAugmented := by
  unfold acceptAugmented
  repeat' first | infer_instance | refine Passes.bind fun _ => ?_ | split

instance : Moves dottedName := by
  unfold dottedName
  infer_instance

instance : Moves asName := by
  unfold asName
  infer_instance

instance : Moves importStatement := by
  unfold importStatement
  infer_instance

instance : Moves relativeLevel := by
  unfold relativeLevel
  refine @Passes.bind _ _ _ _ _ (@many_passes _ _ _ (Passes.bind fun l => ?_)) fun _ => inferInstance
  split <;> infer_instance

instance : Moves importedNames := by
  unfold importedNames
  repeat' first | infer_instance | refine Passes.bind fun _ => ?_

instance : Moves fromStatement := by
  unfold fromStatement
  dsimp only
  repeat' first | infer_instance | refine Passes.bind fun _ => ?_

instance : Moves nameOperands := by
  unfold nameOperands
  infer_instance

section

variable {r : Readers} [∀ level, InLine (r level)] {body : Reader (List Statement)} [Moves body]

instance : Moves (assigned r) := by
  unfold assigned
  infer_instance

instance (fuel : Nat) (seen : List Term) : Moves (assignment r fuel seen) := by
  induction fuel generalizing seen with
  | zero => unfold assignment; infer_instance
  | succ fuel ih => unfold assignment; infer_instance

instance : Moves (expressionStatement r) := by
  unfold expressionStatement
  have h (first : Term) : Moves _ := Passes.bounded (assignment r · [first]) fun c => c.rest.length
  repeat' first | infer_instance | refine Passes.bind fun _ => ?_ | split

instance : Moves (raiseOperands r) := by
  unfold raiseOperands
  infer_instance

instance : Moves (deleteOperands r) := by
  unfold deleteOperands
  infer_instance

instance : Moves (assertOperands r) := by
  unfold assertOperands
  infer_instance

instance (kind : Text) (operands : Reader Unit) [Moves operands] :
    Moves (keptWhole kind operands) := by
  unfold keptWhole
  infer_instance

instance : Moves (simpleStatement r) := by
  unfold simpleStatement
  repeat' first | infer_instance | refine Passes.bind fun _ => ?_ | split

instance : Moves (simpleStatements r) := by
  unfold simpleStatements
  infer_instance

instance : Moves (suite r body) := by
  unfold suite
  repeat' first | infer_instance | refine Passes.bind fun _ => ?_ | split

instance (word : String) : Moves (optionalSuite r body word) := by
  unfold optionalSuite
  infer_instance

instance (start : Position) (isAsync : Bool) (decorators : List Term) :
    Moves (functionDefinition r body start isAsync decorators) := by
  unfold functionDefinition
  dsimp only
  repeat' first | infer_instance | refine Passes.bind fun _ => ?_

instance (decorators : List Term) : Moves (classDefinition r body decorators) := by
  unfold classDefinition
  dsimp only
  repeat' first | infer_instance | refine Passes.bind fun _ => ?_

instance : Moves (withItem r) := by
  unfold withItem
  infer_instance

instance : Moves (withItems r) := by
  unfold withItems
  infer_instance

instance (start : Position) (kind : Text) : Moves (withStatement r body start kind) := by
  unfold withStatement
  infer_instance

instance (start : Position) (kind : Text) : Moves (forStatement r body start kind) := by
  unfold forStatement
  repeat' first | infer_instance | refine Passes.bind fun _ => ?_

instance : Moves (ifStatement r body) := by
  unfold ifStatement
  dsimp only
  repeat' first | infer_instance | refine Passes.bind fun _ => ?_

instance : Moves (whileStatement r body) := by
  unfold whileStatement
  repeat' first | infer_instance | refine Passes.bind fun _ => ?_

instance (star : Bool) : Moves (handler r body star) := by
  unfold handler
  dsimp only
  repeat' first | infer_instance | refine Passes.bind fun _ => ?_

instance : Moves (tryStatement r body) := by
  unfold tryStatement
  repeat' first | infer_instance | refine Passes.bind fun _ => ?_

instance (depth : Nat) : Moves (caseBlock r body depth) := by
  unfold caseBlock
  repeat' first | infer_instance | refine Passes.bind fun _ => ?_ | split

instance : InLine (matchSubject r) := by
  unfold matchSubject
  repeat' first | infer_instance | refine Passes.bind fun _ => ?_ | split

instance (depth : Nat) : Moves (matchStatement r body depth) := by
  unfold matchStatement
  repeat' first | infer_instance | refine Passes.bind fun _ => ?_

instance (decorators : List Term) : Moves (asyncStatement r body decorators) := by
  unfold asyncStatement
  infer_instance

instance : Moves (decorated r body) := by
  unfold decorated
  infer_instance

instance (depth : Nat) : Moves (statement r body depth) := by
  unfold statement
  repeat' first | infer_instance | refine Passes.bind fun _ => ?_ | split

instance (depth : Nat) : Moves (statementReader r depth) := by
  induction depth with
  | zero => unfold statementReader; infer_instance
  | succ depth ih => unfold statementReader; infer_instance

end

/-! ## What comes first -/

/-- A reader takes nothing unless a token comes next that is no layout. -/
class Begins (p : Reader α) : Prop where
  begins {c c' : Cursor} {a : α} : p c = some (a, c') →
    ∃ t ∈ c.rest.head?, t.lexeme.isLayout = false

section

variable {p q : Reader α} {f : α → Reader β}

instance [Begins p] : Begins (p >>= f) where
  begins hp := by
    obtain ⟨a, c', ha, -⟩ := bind_eq_some.1 hp
    exact Begins.begins ha

instance : Begins (Reader.fail : Reader α) where
  begins hp := by cases hp

theorem Begins.here {f : Position → Reader β} (h : ∀ at_, Begins (f at_)) :
    Begins (here >>= f) where
  begins hp := by
    obtain ⟨at_, c', hhere, hf⟩ := bind_eq_some.1 hp
    cases hhere
    exact Begins.begins hf

instance (f : Position → Reader β) [∀ at_, Begins (f at_)] : Begins (here >>= f) :=
  Begins.here inferInstance

theorem accept_eq_some {text : String} {c c' : Cursor} {b : Bool}
    (h : accept text c = some (b, c')) :
    (b = true → ∃ t ∈ c.rest.head?, t.lexeme = .symbol text) ∧ (b = false → c' = c) := by
  obtain ⟨b', c'', hnext, hb⟩ := bind_eq_some.1 h
  obtain ⟨rfl, htrue⟩ := nextIs_eq_some hnext
  split at hb
  · rename_i hb'
    obtain ⟨_, _, -, hx⟩ := bind_eq_some.1 hb
    cases hx
    exact ⟨fun _ => htrue hb', nofun⟩
  · cases hb
    exact ⟨nofun, fun _ => rfl⟩

/-- Looking at what comes next does not take it. -/
theorem Begins.peek {f : Option Lexeme → Reader β}
    (h : ∀ l, Begins (f l) ∨ ∃ lexeme ∈ l, lexeme.isLayout = false) : Begins (peek >>= f) where
  begins {c c' b} hp := by
    obtain ⟨l, c'', hpeek, hf⟩ := bind_eq_some.1 hp
    cases hpeek
    obtain hbegins | ⟨lexeme, hl, hlayout⟩ := h (c.rest.head?.map (·.lexeme))
    · exact Begins.begins hf
    · obtain ⟨t, ht, rfl⟩ := Option.map_eq_some_iff.1 hl
      exact ⟨t, ht, hlayout⟩

instance (text : String) [Begins p] [Begins q] : Begins (do if ← nextIs text then p else q) where
  begins {c c' a} hp := by
    obtain ⟨b, c'', hnext, hf⟩ := bind_eq_some.1 hp
    obtain ⟨rfl, -⟩ := nextIs_eq_some hnext
    split at hf
    · exact Begins.begins hf
    · exact Begins.begins hf

instance (text : String) [Begins q] : Begins (do if ← accept text then p else q) where
  begins {c c' a} hp := by
    obtain ⟨b, c'', haccept, hf⟩ := bind_eq_some.1 hp
    obtain ⟨htrue, hfalse⟩ := accept_eq_some haccept
    split at hf
    · rename_i hb
      obtain ⟨t, ht, hlexeme⟩ := htrue hb
      exact ⟨t, ht, by rw [hlexeme]; rfl⟩
    · rename_i hb
      rw [hfalse (Bool.eq_false_iff.2 hb)] at hf
      exact Begins.begins hf

instance (item : Reader α) [Begins item] : Begins (commaSeparated item) := by
  unfold commaSeparated
  infer_instance

end

instance (text : String) : Begins (expect text) := by
  unfold expect
  infer_instance

instance : Begins identifier where
  begins {c c' id} hp := by
    obtain ⟨l, c'', hadvance, hl⟩ := bind_eq_some.1 hp
    unfold advance at hadvance
    split at hadvance
    · cases hadvance
    · rename_i t rest hrest
      cases hadvance
      refine ⟨t, by rw [hrest]; rfl, ?_⟩
      cases hlexeme : t.lexeme with
      | newline | indent | dedent =>
        rw [hlexeme] at hl
        cases hl
      | _ => rfl

section

variable {r : Readers} [∀ level, Begins (r level)]

instance : Begins (starExpressions r) := by
  unfold starExpressions starExpression
  infer_instance

instance : Begins (lambda r) := by
  unfold lambda
  infer_instance

instance : Begins (atom r) := by
  unfold atom
  refine Begins.here fun start => Begins.peek fun l => ?_
  split
  case h_5 => exact .inl inferInstance
  all_goals exact .inr ⟨_, rfl, rfl⟩

instance : Begins (primary r) := by
  unfold primary
  infer_instance

instance : Begins (power r) := by
  unfold power awaited
  infer_instance

instance : Begins (factor r) := by
  unfold factor
  refine Begins.peek fun l => ?_
  split
  · exact .inr ⟨_, rfl, rfl⟩
  · exact .inl inferInstance

instance (operand : Reader Term) [Begins operand] (ops : List BinaryOp) :
    Begins (leftGrouped operand ops) := by
  unfold leftGrouped
  infer_instance

instance : Begins (bitOr r) := by
  unfold bitOr bitXor bitAnd shift sum term
  infer_instance

instance : Begins (inversion r) := by
  unfold inversion comparison
  infer_instance

instance (operand : Reader Term) [Begins operand] (op : BoolOp) : Begins (joined operand op) := by
  unfold joined
  infer_instance

instance : Begins (disjunction r) := by
  unfold disjunction conjunction
  infer_instance

instance : Begins (expression r) := by
  unfold expression
  infer_instance

instance (level : Level) : Begins (atLevel r level) := by
  cases level <;> unfold atLevel <;> infer_instance

end

instance (depth : Nat) (level : Level) : Begins (readers depth level) := by
  induction depth generalizing level with
  | zero => unfold readers; infer_instance
  | succ depth ih => exact inferInstanceAs (Begins (atLevel (readers depth) level))

section

variable {r : Readers} [∀ level, Begins (r level)] {body : Reader (List Statement)}

instance : Begins (expressionStatement r) := by
  unfold expressionStatement
  infer_instance

/-- What a symbol or a name leads to is behind a token that is no layout. -/
instance : Begins (simpleStatement r) := by
  unfold simpleStatement
  refine Begins.here fun start => Begins.peek fun l => ?_
  split
  · exact .inr ⟨_, rfl, rfl⟩
  · exact .inl inferInstance

instance : Begins (simpleStatements r) := by
  unfold simpleStatements
  infer_instance

instance (depth : Nat) : Begins (statement r body depth) := by
  unfold statement
  refine Begins.here fun start => Begins.peek fun l => ?_
  split
  · exact .inr ⟨_, rfl, rfl⟩
  · exact .inr ⟨_, rfl, rfl⟩
  · exact .inl inferInstance

end

end Refactory.Grammar
