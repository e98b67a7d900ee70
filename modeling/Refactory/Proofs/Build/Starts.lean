import Mathlib.Algebra.Order.BigOperators.Group.List
import Mathlib.Algebra.Order.Group.Nat
import Refactory.Proofs.Build.Captures
import Refactory.Proofs.Build.Whole

/-! # Statements that are read

What holds of every statement that is read is shown form by form: `Hereditary` asks that a predicate
is handed on from the statements within a statement to the statement, where a statement that can be
captured begins with a token that is no layout, and so on a line on which such a token begins. Main
statements: `readProgram_hereditary`, such a predicate holds of the statements of a source;
`readProgram_until`, the captured statements of a source without lone carriage returns begin on its
lines. -/

namespace Refactory

namespace Grammar

/-- A predicate holds of a handler if it holds of the statements in its body, and what the handler
catches is whole. -/
def Catch.Each (P : Statement → Prop) : Catch → Prop
  | .mk type _ body => (∀ t ∈ type, t.Whole) ∧ ∀ s ∈ body, P s

/-- A predicate is handed on from the statements within a statement to the statement, for the forms
that are read: expressions are whole, defaults fit their parameters, imports import something, and a
statement that can be captured begins on one of the first lines. -/
structure Hereditary (n : Nat) (P : Statement → Prop) : Prop where
  function {span : Span} {isAsync : Bool} {name : Text} {params : Params} {returns : Option Term}
    {decorators : List Term} {body : List Statement} (hparams : params.Aligned)
    (hterms : ∀ t ∈ params.terms, t.Whole) (hreturns : ∀ t ∈ returns, t.Whole)
    (hdecorators : ∀ t ∈ decorators, t.Whole) (hbody : ∀ s ∈ body, P s) :
    P (.function span isAsync name params returns decorators body)
  classDef {span : Span} {name : Text} {bases : List Term} {keywords : List Argument}
    {decorators : List Term} {body : List Statement} (hbases : ArgumentsWhole (bases, keywords))
    (hdecorators : ∀ t ∈ decorators, t.Whole) (hbody : ∀ s ∈ body, P s) :
    P (.classDef span name bases keywords decorators body)
  tryExcept {span : Span} {body orelse finalbody : List Statement} {handlers : List Catch}
    (hbody : ∀ s ∈ body, P s) (hhandlers : ∀ x ∈ handlers, x.Each P) (horelse : ∀ s ∈ orelse, P s)
    (hfinal : ∀ s ∈ finalbody, P s) : P (.tryExcept span body handlers orelse finalbody)
  assign {span : Span} {targets : List Term} {value : Term} (htargets : ∀ t ∈ targets, t.Whole)
    (hvalue : value.Whole) (h : span.start.line ≤ n) : P (.assign span targets value)
  other {span : Span} {kind : Text} (h : span.start.line ≤ n) : P (.other span kind)
  importNames {span : Span} {names : List ImportedName} (h : names ≠ []) :
    P (.importNames span names)
  importFrom {span : Span} {module : Option Text} {names : List ImportedName} {level : Nat}
    (h : names ≠ []) : P (.importFrom span module names level)
  ret {span : Span} {value : Option Term} (h : ∀ t ∈ value, t.Whole) : P (.ret span value)
  pass {span : Span} : P (.pass span)
  expr {span : Span} {value : Term} (h : value.Whole) : P (.expr span value)

/-! ## Statements of which the extent is kept -/

section

variable {n : Nat} {P : Statement → Prop} {r : Readers} [∀ level, InLine (r level)]
  {body : Reader (List Statement)} [Moves body] (hP : Hereditary n P)

include hP

theorem Hereditary.of_withStatement {start : Position} (hstart : start.line ≤ n) (kind : Text) :
    Ensures n (withStatement r body start kind) P := by
  unfold withStatement
  exact .skip fun _ => .skip fun _ => .skip fun _ => .spanFrom fun _ =>
    .pure (hP.other hstart)

theorem Hereditary.of_forStatement {start : Position} (hstart : start.line ≤ n) (kind : Text) :
    Ensures n (forStatement r body start kind) P := by
  unfold forStatement
  exact .skip fun _ => .skip fun _ => .skip fun _ => .skip fun _ => .skip fun _ => .skip fun _ =>
    .spanFrom fun _ => .pure (hP.other hstart)

theorem Hereditary.of_ifStatement : Ensures n (ifStatement r body) P := by
  unfold ifStatement
  exact .start fun _ hstart => .skip fun _ => .skip fun _ => .skip fun _ =>
    .spanFrom fun _ => .pure (hP.other hstart)

theorem Hereditary.of_whileStatement : Ensures n (whileStatement r body) P := by
  unfold whileStatement
  exact .start fun _ hstart => .skip fun _ => .skip fun _ => .skip fun _ => .skip fun _ =>
    .spanFrom fun _ => .pure (hP.other hstart)

theorem Hereditary.of_matchStatement (depth : Nat) : Ensures n (matchStatement r body depth) P := by
  unfold matchStatement
  exact .start fun _ hstart => .skip fun _ => .skip fun _ => .skip fun _ => .skip fun _ =>
    .skip fun _ => .skip fun _ => .skip fun _ => .spanFrom fun _ =>
      .pure (hP.other hstart)

end

/-! ## Simple statements -/

section

variable {n : Nat} {P : Statement → Prop} {r : Readers} [∀ level, InLine (r level)]
  [∀ level, Begins (r level)] [WholeReaders r] (hP : Hereditary n P)

include hP

omit hP [∀ level, InLine (r level)] [∀ level, Begins (r level)] in
theorem assignment_whole (fuel : Nat) {seen : List Term} (h : ∀ t ∈ seen, t.Whole) :
    (assignment r fuel seen).Gives fun x => (∀ t ∈ x.1, t.Whole) ∧ x.2.Whole := by
  have hr := WholeReaders.gives (r := r)
  have hseen : ∀ t ∈ seen.reverse, t.Whole := fun t ht => h t (List.mem_reverse.1 ht)
  induction fuel generalizing seen with
  | zero => exact .fail
  | succ fuel ih =>
    unfold assignment
    refine .skip fun _ => .skip fun _ => .ite
      ((yieldExpression_whole hr).bind fun _ hvalue => .pure ⟨hseen, hvalue⟩)
      ((starExpressions_whole hr).bind fun t ht => .skip fun _ => .ite (.ite ?_ .fail)
        (.pure ⟨hseen, ht⟩))
    have hmore : ∀ u ∈ t :: seen, u.Whole := List.forall_mem_cons.2 ⟨ht, h⟩
    exact ih hmore fun u hu => hmore u (List.mem_reverse.1 hu)

theorem Hereditary.of_expressionStatement : Ensures n (expressionStatement r) P := by
  have hr := WholeReaders.gives (r := r)
  unfold expressionStatement
  refine .start fun start hstart => ((starExpressions_whole hr).ensures n).bind fun first hfirst =>
    .skip fun _ => .ite ?_ ?_
  · have hmoves : Moves _ :=
      Passes.bounded (assignment r · [first]) fun c => c.rest.length
    have hassignment := Reader.Gives.bounded
      (fun fuel => assignment_whole (r := r) fuel (List.forall_mem_singleton.2 hfirst))
      fun c => c.rest.length
    exact .ite ((hassignment.ensures n).bind fun _ hx => .spanFrom fun _ =>
      .pure (hP.assign hx.1 hx.2 hstart)) .fail
  · have hother (kind : Text) :
        Ensures n (do return Statement.other (← spanFrom start) kind) P :=
      .spanFrom fun _ => .pure (hP.other hstart)
    refine .skip fun _ => .ite (.ite (.skip fun _ => .skip fun _ => ?_) .fail) (.skip fun _ => ?_)
    · exact .ite (.skip fun _ => hother _) (hother _)
    · exact .ite (.ite (.skip fun _ => hother _) .fail)
        (.spanFrom fun _ => .pure (hP.expr hfirst))

theorem Hereditary.of_keptWhole {c : Cursor} (hc : c.Until n) {t : Token} (ht : c.rest.head? = some t)
    (hlayout : t.lexeme.isLayout = false) (kind : Text) (operands : Reader Unit) :
    EnsuresAt c (keptWhole kind operands) P := fun s c' h => by
  obtain ⟨at_, _, hhere, h⟩ := bind_eq_some.1 h
  cases hhere
  obtain ⟨_, _, -, h⟩ := bind_eq_some.1 h
  obtain ⟨_, _, -, h⟩ := bind_eq_some.1 h
  obtain ⟨_, _, hspan, h⟩ := bind_eq_some.1 h
  cases hspan
  cases h
  refine hP.other ?_
  rw [ht]
  exact hc t (List.mem_of_mem_head? ht) hlayout

theorem Hereditary.of_importStatement : Ensures n importStatement P := by
  unfold importStatement
  exact .skip fun _ => .skip fun _ => .skip fun _ => .skip fun _ => .skip fun _ =>
    .pure (hP.importNames (List.cons_ne_nil _ _))

omit hP in
theorem importedNames_ne_nil : importedNames.Gives (· ≠ []) := by
  unfold importedNames
  dsimp only
  refine .skip fun _ => .ite (.pure (List.cons_ne_nil _ _)) (.skip fun _ => .ite ?_ ?_)
  · exact (Reader.Gives.commaSeparated_ne_nil _).bind fun _ hitems => .skip fun _ => .pure hitems
  · exact .skip fun _ => .skip fun _ => .skip fun _ => .pure (List.cons_ne_nil _ _)

theorem Hereditary.of_fromStatement : Ensures n fromStatement P := by
  unfold fromStatement
  dsimp only
  refine .skip fun _ => .skip fun _ => .skip fun _ => .skip fun _ => .ite ?_ (.skip fun _ => ?_) <;>
    exact .ite .fail (.skip fun _ => (importedNames_ne_nil.ensures n).bind fun _ hnames =>
      .skip fun _ => .pure (hP.importFrom hnames))

theorem Hereditary.of_simpleStatement : Ensures n (simpleStatement r) P := by
  have hr := WholeReaders.gives (r := r)
  unfold simpleStatement
  refine .skip fun start c hc => .peek ?_
  have hexpression := hP.of_expressionStatement (r := r) c hc
  cases hhead : c.rest.head? with
  | none => exact hexpression
  | some t =>
    cases hlexeme : t.lexeme with
    | symbol text =>
      have hkept := hP.of_keptWhole hc hhead (by rw [hlexeme]; rfl)
      rw [Option.map_some, hlexeme]
      refine .ite ?_ (.ite (hP.of_importStatement c hc) (.ite (hP.of_fromStatement c hc)
        (.ite ?_ (.ite ?_ (.ite (hkept _ _) (.ite (hkept _ _) (.ite (hkept _ _) (.ite (hkept _ _)
          (.ite (hkept _ _) (.ite (hkept _ _) (.ite (hkept _ _) hexpression)))))))))))
      · exact Ensures.skip (fun _ => ((starExpressions_whole hr).optional.ensures n).bind
          fun _ hvalue => .skip fun _ => .pure (hP.ret hvalue)) c hc
      · exact Ensures.skip (fun _ => .skip fun _ => .pure hP.pass) c hc
      · exact Ensures.bind ((yieldExpression_whole hr).ensures n) (fun _ hvalue => .skip fun _ =>
          .pure (hP.expr hvalue)) c hc
    | _ =>
      rw [Option.map_some, hlexeme]
      exact hexpression

theorem Hereditary.of_simpleStatements : Ensures n (simpleStatements r) (∀ s ∈ ·, P s) := by
  unfold simpleStatements
  refine hP.of_simpleStatement.bind fun _ hfirst => ?_
  have hmore : Ensures n (do expect ";"; simpleStatement r) P :=
    .skip fun _ => hP.of_simpleStatement
  exact hmore.many.bind fun _ hothers => .skip fun _ => .skip fun _ =>
    .pure (List.forall_mem_cons.2 ⟨hfirst, hothers⟩)

/-! ## Compound statements -/

variable {body : Reader (List Statement)} [Moves body]

theorem Hereditary.of_suite (h : Ensures n body (∀ s ∈ ·, P s)) :
    Ensures n (suite r body) (∀ s ∈ ·, P s) := by
  unfold suite
  refine .skip fun _ => .skip fun _ => ?_
  split
  · exact .skip fun _ => .skip fun _ => h.bind fun _ hbody => .skip fun _ => .pure hbody
  · exact hP.of_simpleStatements

theorem Hereditary.of_optionalSuite (h : Ensures n body (∀ s ∈ ·, P s)) (word : String) :
    Ensures n (optionalSuite r body word) (∀ s ∈ ·, P s) := by
  unfold optionalSuite
  exact .skip fun _ => .ite (hP.of_suite h) (.pure (List.forall_mem_nil _))

omit hP [∀ level, Begins (r level)] in
/-- A parameter list is aligned, and the terms in it are whole. -/
theorem params_ensured (annotated : Bool) (close : String) :
    Ensures n (params r annotated close) fun ps => ps.Aligned ∧ ∀ t ∈ ps.terms, t.Whole :=
  fun c hc ps c' h => ⟨params_aligned annotated close c hc ps c' h,
    params_whole WholeReaders.gives annotated close c ps c' h⟩

theorem Hereditary.of_functionDefinition (h : Ensures n body (∀ s ∈ ·, P s)) (start : Position)
    (isAsync : Bool) {decorators : List Term} (hdecorators : ∀ t ∈ decorators, t.Whole) :
    Ensures n (functionDefinition r body start isAsync decorators) P := by
  have hr := WholeReaders.gives (r := r)
  unfold functionDefinition
  have hrest (name : Text) (ps : Params) (hparams : ps.Aligned ∧ ∀ t ∈ ps.terms, t.Whole)
      (returns : Option Term) (hreturns : ∀ t ∈ returns, t.Whole) :
      Ensures n (do
        let body ← suite r body
        return Statement.function (← spanFrom start) isAsync name ps returns decorators body) P :=
    (hP.of_suite h).bind fun _ hbody => .skip fun _ =>
      .pure (hP.function hparams.1 hparams.2 hreturns hdecorators hbody)
  have hnone : (pure none : Reader (Option Term)).Gives (∀ t ∈ ·, t.Whole) := .pure nofun
  have hsome : (some <$> r .expression).Gives (∀ t ∈ ·, t.Whole) :=
    (hr _).map fun d hd t ht => Option.mem_some.1 ht ▸ hd
  exact .skip fun _ => .skip fun name => .skip fun _ => (params_ensured true _).bind fun ps hps =>
    .skip fun _ => .skip fun _ => .ite ((hsome.ensures n).bind (hrest name ps hps))
      ((hnone.ensures n).bind (hrest name ps hps))

theorem Hereditary.of_classDefinition (h : Ensures n body (∀ s ∈ ·, P s)) {decorators : List Term}
    (hdecorators : ∀ t ∈ decorators, t.Whole) :
    Ensures n (classDefinition r body decorators) P := by
  unfold classDefinition
  have hrest (start : Position) (name : Text) (bases : List Term × List Argument)
      (hbases : ArgumentsWhole bases) :
      Ensures n (do
        let body ← suite r body
        return Statement.classDef (← spanFrom start) name bases.1 bases.2 decorators body)
        P :=
    (hP.of_suite h).bind fun _ hbody => .skip fun _ => .pure (hP.classDef hbases hdecorators hbody)
  have hnone : (pure ([], []) : Reader (List Term × List Argument)).Gives ArgumentsWhole :=
    .pure ⟨List.forall_mem_nil _, List.forall_mem_nil _⟩
  exact .skip fun start => .skip fun _ => .skip fun name => .skip fun _ =>
    .ite (((arguments_whole WholeReaders.gives _).ensures n).bind (hrest start name))
      ((hnone.ensures n).bind (hrest start name))

theorem Hereditary.of_handler (h : Ensures n body (∀ s ∈ ·, P s)) (star : Bool) :
    Ensures n (handler r body star) (·.Each P) := by
  have hr := WholeReaders.gives (r := r)
  have hnone : ∀ t ∈ (none : Option Term), t.Whole := nofun
  unfold handler
  have hcatch {type : Option Term} (htype : ∀ t ∈ type, t.Whole) (name : Option Text) :
      Ensures n (do return Catch.mk type name (← suite r body)) (·.Each P) :=
    (hP.of_suite h).bind fun _ hbody => .pure ⟨htype, hbody⟩
  have hrest : Ensures n (do
      if !star && (← nextIs ":") then return Catch.mk none none (← suite r body)
      else
        let type ← r .expression
        let name ← asName
        return .mk (some type) name (← suite r body)) (·.Each P) :=
    .skip fun _ => .ite (hcatch hnone _) (((hr _).ensures n).bind fun type htype => .skip fun _ =>
      hcatch (fun t ht => Option.mem_some.1 ht ▸ htype) _)
  exact .skip fun _ => .ite (.skip fun _ => hrest) hrest

theorem Hereditary.of_tryStatement (h : Ensures n body (∀ s ∈ ·, P s)) :
    Ensures n (tryStatement r body) P := by
  unfold tryStatement
  refine .start fun start hstart => .skip fun _ => (hP.of_suite h).bind fun _ hbody =>
    .skip fun _ => .ite ?_ ?_
  · exact (hP.of_suite h).bind fun _ hfinal => .skip fun _ => .pure (hP.tryExcept hbody
      (List.forall_mem_nil _) (List.forall_mem_nil _) hfinal)
  · refine .skip fun star => (hP.of_handler h star).some.bind fun _ hhandlers =>
      (hP.of_optionalSuite h _).bind fun _ horelse => (hP.of_optionalSuite h _).bind
        fun _ hfinal => .spanFrom fun _ => .ite (.pure (hP.other hstart)) ?_
    exact .pure (hP.tryExcept hbody hhandlers horelse hfinal)

theorem Hereditary.of_asyncStatement (h : Ensures n body (∀ s ∈ ·, P s)) {decorators : List Term}
    (hdecorators : ∀ t ∈ decorators, t.Whole) :
    Ensures n (asyncStatement r body decorators) P := by
  unfold asyncStatement
  exact .start fun _ hstart => .skip fun _ => .skip fun _ =>
    .ite (hP.of_functionDefinition h _ _ hdecorators) (.ite .fail (.skip fun _ =>
      .ite (hP.of_withStatement hstart _) (hP.of_forStatement hstart _)))

theorem Hereditary.of_decorated (h : Ensures n body (∀ s ∈ ·, P s)) :
    Ensures n (decorated r body) P := by
  unfold decorated
  have hdecorator : (do
      expect "@"
      let e ← namedExpression r
      newline
      return e : Reader Term).Gives Term.Whole :=
    .skip fun _ => (namedExpression_whole WholeReaders.gives).bind fun _ he => .skip fun _ => .pure he
  exact (hdecorator.some.ensures n).bind fun _ hds => .skip fun _ => .skip fun _ =>
    .ite (hP.of_classDefinition h hds) (.skip fun _ => .ite (hP.of_asyncStatement h hds)
      (hP.of_functionDefinition h _ _ hds))

theorem Hereditary.of_statement (h : Ensures n body (∀ s ∈ ·, P s)) (depth : Nat) :
    Ensures n (statement r body depth) (∀ s ∈ ·, P s) := by
  have hsingle {p : Reader Statement} [Moves p] (hp : Ensures n p P) :
      Ensures n (do return [← p]) (∀ s ∈ ·, P s) :=
    hp.bind fun _ hs => .pure (List.forall_mem_singleton.2 hs)
  unfold statement
  refine fun c hc => .here (.peek ?_)
  have hsimple := hP.of_simpleStatements (r := r) c hc
  cases hhead : c.rest.head? with
  | none => exact hsimple
  | some t =>
    cases hlexeme : t.lexeme with
    | symbol text =>
      have hstart : t.span.start.line ≤ n :=
        hc t (List.mem_of_mem_head? hhead) (by rw [hlexeme]; rfl)
      rw [Option.map_some, hlexeme]
      have hnone : ∀ t ∈ ([] : List Term), t.Whole := List.forall_mem_nil _
      exact .ite (hsingle (hP.of_functionDefinition h _ _ hnone) c hc)
        (.ite (hsingle (hP.of_decorated h) c hc) (.ite (hsingle (hP.of_asyncStatement h hnone) c hc)
        (.ite (hsingle (hP.of_classDefinition h hnone) c hc) (.ite (hsingle hP.of_ifStatement c hc)
        (.ite (hsingle (hP.of_withStatement hstart _) c hc)
        (.ite (hsingle (hP.of_forStatement hstart _) c hc) (.ite (hsingle hP.of_whileStatement c hc)
        (.ite (hsingle (hP.of_tryStatement h) c hc) hsimple))))))))
    | name id =>
      rw [Option.map_some, hlexeme]
      exact .ite ((hsingle (hP.of_matchStatement _)).or hP.of_simpleStatements c hc) hsimple
    | _ =>
      rw [Option.map_some, hlexeme]
      exact hsimple

theorem Hereditary.of_statementReader (depth : Nat) :
    Ensures n (statementReader r depth) (∀ s ∈ ·, P s) := by
  induction depth with
  | zero => exact .fail
  | succ depth ih =>
    unfold statementReader
    refine Ensures.bind (hP.of_statement ih (depth + 1)).some fun groups hgroups => .pure ?_
    intro s hs
    obtain ⟨group, hgroup, hs⟩ := List.mem_flatten.1 hs
    exact hgroups group hgroup s hs

end

/-- A predicate that is handed on holds of the statements of a source, where `n` bounds the lines on
which tokens begin. -/
theorem readProgram_ensures {n : Nat} {P : Statement → Prop} (hP : Hereditary n P) {cs : List Char}
    {program : List Statement} (h : readProgram cs = some program)
    (hlines : ∀ tokens, tokenize (placed cs).ended = some tokens → Cursor.Until n ⟨tokens, {}⟩) :
    ∀ s ∈ program, P s := by
  obtain ⟨tokens, htokens, h⟩ := Option.bind_eq_some_iff.1 h
  split at h
  · cases h
    exact List.forall_mem_nil _
  · obtain ⟨⟨statements, c⟩, hstatements, h⟩ := Option.bind_eq_some_iff.1 h
    dsimp only at h
    split at h
    · cases h
      exact hP.of_statementReader _ _ (hlines tokens htokens) _ _ hstatements
    · cases h

/-- A predicate that is handed on whatever lines there are holds of the statements of a source. -/
theorem readProgram_hereditary {P : Statement → Prop} (hP : ∀ n, Hereditary n P) {cs : List Char}
    {program : List Statement} (h : readProgram cs = some program) : ∀ s ∈ program, P s := by
  cases htokens : tokenize (placed cs).ended with
  | none =>
    rw [readProgram, htokens] at h
    cases h
  | some tokens =>
    refine readProgram_ensures (hP (tokens.map fun t => t.span.start.line).sum) h
      fun tokens' htokens' t ht _ => ?_
    cases htokens.symm.trans htokens'
    exact List.le_sum_of_mem (List.mem_map_of_mem ht)

end Grammar

/-! ## Where captured statements begin -/

/-- A captured statement begins on one of the first lines. -/
def Capture.Until (n : Nat) : Capture → Prop
  | .statement span => span.start.line ≤ n
  | .expression _ => True

namespace Grammar

/-- Every statement captured within a statement begins on one of the first lines. -/
def Statement.Until (n : Nat) (s : Statement) : Prop := ∀ c ∈ s.captured, c.Until n

section

variable {n : Nat}

theorem expressions_until (xs : List Excerpt) : ∀ c ∈ xs.map Capture.expression, c.Until n :=
  List.forall_mem_map.2 fun _ _ => trivial

theorem Statement.capturedEach_until {ss : List Statement} :
    (∀ c ∈ Statement.capturedEach ss, c.Until n) ↔ ∀ s ∈ ss, s.Until n := by
  induction ss with
  | nil => exact ⟨fun _ => List.forall_mem_nil _, fun _ => List.forall_mem_nil _⟩
  | cons s ss ih =>
    rw [Statement.capturedEach, List.forall_mem_append, List.forall_mem_cons, ih, Statement.Until]

theorem Catch.capturedEach_until {hs : List Catch} (h : ∀ x ∈ hs, x.Each (·.Until n)) :
    ∀ c ∈ Catch.capturedEach hs, c.Until n := by
  induction hs with
  | nil => exact List.forall_mem_nil _
  | cons x hs ih =>
    obtain ⟨type, name, body⟩ := x
    rw [List.forall_mem_cons] at h
    exact List.forall_mem_append.2 ⟨expressions_until _, List.forall_mem_append.2
      ⟨Statement.capturedEach_until.2 h.1.2, ih h.2⟩⟩

theorem Statement.until_hereditary : Hereditary n (Statement.Until n) where
  function _ _ _ _ hbody := List.forall_mem_append.2 ⟨expressions_until _, List.forall_mem_append.2
    ⟨capturedEach_until.2 hbody, List.forall_mem_append.2
      ⟨expressions_until _, expressions_until _⟩⟩⟩
  classDef _ _ hbody := List.forall_mem_append.2 ⟨expressions_until _, List.forall_mem_append.2
    ⟨capturedEach_until.2 hbody, List.forall_mem_append.2
      ⟨expressions_until _, expressions_until _⟩⟩⟩
  tryExcept hbody hhandlers horelse hfinal := List.forall_mem_append.2
    ⟨capturedEach_until.2 hbody, List.forall_mem_append.2
      ⟨Catch.capturedEach_until hhandlers, List.forall_mem_append.2
        ⟨capturedEach_until.2 horelse, capturedEach_until.2 hfinal⟩⟩⟩
  assign {_ targets _} _ _ h := match targets with
    | [_] => List.forall_mem_append.2 ⟨expressions_until _, expressions_until _⟩
    | [] | _ :: _ :: _ => List.forall_mem_singleton.2 h
  other h := List.forall_mem_singleton.2 h
  importNames _ := List.forall_mem_nil _
  importFrom _ := List.forall_mem_nil _
  ret _ := expressions_until _
  pass := List.forall_mem_nil _
  expr _ := expressions_until _

end

/-- The statements of a source in which no carriage return stands alone begin on its lines. -/
theorem readProgram_until {cs : List Char} {program : List Statement}
    (h : readProgram cs = some program) (hreturns : ¬ Text.LoneReturn (Text.ofChars cs)) :
    ∀ s ∈ program, s.Until (Text.ofChars cs).lines.length := by
  refine readProgram_ensures Statement.until_hereditary h fun tokens htokens t ht hlayout => ?_
  obtain ⟨q, hq, hstart⟩ := tokenize_starts htokens t ht hlayout
  rw [hstart]
  exact placed_ended_until hreturns q hq

end Grammar

end Refactory
