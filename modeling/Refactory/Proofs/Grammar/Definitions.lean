import Refactory.Proofs.Grammar.Parameters
import Refactory.Proofs.Grammar.Simple

/-! # Definitions are read back

A block stands behind a colon on lines of its own (`suite_takes`). Function and class definitions are
read with the bodies that the reader of the block takes (`TakesBlock`), behind decorators or not. Main
statements: `functionStatement_takes`, `classStatement_takes`. -/

namespace Refactory

open Grammar Inks

namespace Grammar

/-! ## What is written -/

theorem length_le_commas {x : List Ink} {xs : List (List Ink)} (h : x ∈ xs) :
    (marks x).length ≤ (marks (commas xs)).length := by
  cases xs with
  | nil => cases h
  | cons y ys =>
    rw [commas, marks_join, List.length_append]
    rcases List.mem_cons.1 h with rfl | h
    · exact Nat.le_add_right _ _
    · have hle := length_mem_le_flatMap (f := fun y => marks [Ink.symbol ",", Ink.gap] ++ marks y) h
      rw [List.length_append] at hle
      exact Nat.le_trans (Nat.le_trans (Nat.le_add_left _ _) hle) (Nat.le_add_left _ _)

/-- A parameter is part of an item of the list. -/
theorem Param.length_le {p : Param} {ps : List Param} (h : p ∈ ps) (sawStar : Bool) :
    (marks p.inks).length ≤ (marks (commas (Param.inksEach sawStar ps))).length := by
  have hitem : ∃ x ∈ Param.inksEach sawStar ps, (marks p.inks).length ≤ (marks x).length := by
    induction ps generalizing sawStar with
    | nil => cases h
    | cons q ps ih =>
      rw [Param.inksEach]
      rcases List.mem_cons.1 h with rfl | h
      · have hstar : ∀ text : String, (marks p.inks).length ≤ (marks (.symbol text :: p.inks)).length :=
          fun text => Nat.le_succ _
        split
        · exact ⟨_, List.mem_cons_self, hstar _⟩
        · exact ⟨_, List.mem_cons_self, hstar _⟩
        · exact ⟨_, List.mem_append_right _ List.mem_cons_self, Nat.le_refl _⟩
        · exact ⟨_, List.mem_append_left _ List.mem_cons_self, Nat.le_refl _⟩
      · split
        · exact (ih h true).imp fun x hx => ⟨List.mem_cons_of_mem _ hx.1, hx.2⟩
        · exact (ih h sawStar).imp fun x hx => ⟨List.mem_cons_of_mem _ hx.1, hx.2⟩
        · exact (ih h true).imp fun x hx =>
            ⟨List.mem_append_right _ (List.mem_cons_of_mem _ hx.1), hx.2⟩
        · exact (ih h sawStar).imp fun x hx => ⟨List.mem_append_right _ hx.1, hx.2⟩
  obtain ⟨x, hx, hle⟩ := hitem
  exact Nat.le_trans hle (length_le_commas hx)

/-- The marks of a function definition from its keyword on. -/
def defMarks (f : FunctionHead) : List Mark :=
  .symbol "def" :: .name f.name :: .symbol "(" :: (marks (commas (Param.inksEach false f.params)) ++
    .symbol ")" :: (marks (returnInks f.returns) ++ [.symbol ":"]))

theorem marks_function (f : FunctionHead) :
    marks f.inks = (if f.isAsync then [.symbol "async"] else []) ++ defMarks f := by
  rw [FunctionHead.inks, marks_append, defMarks]
  congr 1
  · split_ifs <;> rfl
  · simp [paramInks]

/-- The marks of a class definition. -/
theorem marks_class (c : ClassHead) : marks c.inks =
    .symbol "class" :: .name c.name :: (marks (baseInks c.bases c.keywords) ++ [.symbol ":"]) := by
  simp [ClassHead.inks]

theorem marks_bases (bases : List Expr) (keywords : List Keyword) :
    marks (baseInks bases keywords) = [] ∧ bases = [] ∧ keywords = [] ∨
      marks (baseInks bases keywords) = .symbol "(" ::
        (argumentMarks (Expr.marksAt .test) Keyword.marks bases keywords ++ [.symbol ")"]) := by
  unfold baseInks
  split
  · rename_i hnil
    rw [List.append_eq_nil_iff, List.map_eq_nil_iff, List.map_eq_nil_iff] at hnil
    exact .inl ⟨rfl, hnil⟩
  · rw [marks_mark, marks_append, marks_arguments]
    exact .inr rfl

variable [Setting] {mode : RenderMode} {ms after : List Mark} {depth : Nat} {r : Readers}
  {statements : Reader (List Statement)}

/-! ## Blocks -/

/-- Statements of the grammar stand for those of a block, locations left out. -/
def Statement.Are (ts : List Statement) (b : List Stmt) : Prop :=
  List.Forall₂ (fun s t => Statement.Is t s) b ts

theorem Statement.Are.toBlock {ts : List Statement} {b : List Stmt} (h : Statement.Are ts b) :
    ∃ b', Statement.toBlock origin ts = .ok b' ∧ Stmt.bareEach b' = Stmt.bareEach b := by
  induction h with
  | nil => exact ⟨[], rfl, rfl⟩
  | cons hs _ ih =>
    obtain ⟨s', hs', hbare⟩ := hs
    obtain ⟨b', hb', hrest⟩ := ih
    refine ⟨s' :: b', ?_, ?_⟩
    · rw [Statement.toBlock, hs', hb']
      rfl
    · rw [Stmt.bareEach, Stmt.bareEach, hbare, hrest]

/-- The reader of a block takes its statements, up to where it ends. -/
def TakesBlock (p : Reader (List Statement)) (b : List Stmt) : Prop :=
  ∀ after, Takes p (Stmt.marksEach b ++ .dedent :: after) fun ts ms' =>
    Statement.Are ts b ∧ ms' = .dedent :: after

theorem suite_takes {b : List Stmt} (h : TakesBlock statements b) :
    Takes (suite r statements) (.symbol ":" :: (blockMarks (Stmt.marksEach b) ++ after)) fun ts ms' =>
      Statement.Are ts b ∧ ms' = after := by
  have hmarks : blockMarks (Stmt.marksEach b) ++ after =
      .newline :: .indent :: (Stmt.marksEach b ++ .dedent :: after) := by
    simp [blockMarks]
  rw [hmarks]
  refine expect_hit (peek_newline (newline_takes.past fun _ => ?_))
  refine indent_takes.past fun _ => (h after).next fun ts hts => ?_
  exact dedent_takes.past fun _ => .pure ⟨hts, rfl⟩

/-! ## Functions -/

/-- What a function gives is read up to the colon. -/
theorem returns_takes {returns : Option Expr} (h : returns.all (Expr.isReadable mode false) = true)
    (hdepth : (marks (returnInks returns)).length ≤ depth) {β : Type}
    {f : Option Term → Reader β} {post : β → List Mark → Prop}
    (hf : ∀ t, Option.Rel (fun e t => Term.Is t e) returns t →
      Takes (f t) (.symbol ":" :: after) post) :
    Takes (do
      let t ← if ← accept "->" then some <$> deepReaders depth .expression else pure none
      f t) (marks (returnInks returns) ++ .symbol ":" :: after) post := by
  cases returns with
  | none => exact ifAccept_miss (symbol_head_ne (by decide) _) (Takes.pure_bind (hf none .none))
  | some e =>
    have hmarks : marks (returnInks (some e)) = .symbol "->" :: e.marksAt .test := rfl
    rw [hmarks, List.length_cons] at hdepth
    rw [hmarks]
    refine ifAccept_hit (Takes.next ?_ hf)
    exact (Expr.takes_expression h (by omega) (clear_cons (by decide))).map
      fun t ms' ht => ⟨.some ht.1, ht.2⟩

theorem functionDefinition_takes {head : FunctionHead} {body : List Stmt} {location : Option Location}
    (h : head.isRegular mode = true) (hdepth : (defMarks head).length ≤ depth)
    (hbody : TakesBlock statements body) {ds : List Term}
    (hds : List.Forall₂ (fun e t => Term.Is t e) head.decorators ds) (start : Position) :
    Takes (functionDefinition (deepReaders depth) statements start head.isAsync ds)
      (defMarks head ++ (blockMarks (Stmt.marksEach body) ++ after)) fun t ms' =>
        t.Is (.function head body location) ∧ ms' = after := by
  simp only [FunctionHead.isRegular, Bool.and_eq_true, List.all_eq_true, decide_eq_true_iff] at h
  obtain ⟨⟨⟨⟨-, hparams⟩, hpairs⟩, hreturns⟩, -⟩ := h
  simp only [defMarks, List.length_cons, List.length_append] at hdepth
  have hmarks : defMarks head ++ (blockMarks (Stmt.marksEach body) ++ after) =
      .symbol "def" :: .name head.name :: .symbol "(" ::
        (marks (commas (Param.inksEach false head.params)) ++ .symbol ")" ::
          (marks (returnInks head.returns) ++ .symbol ":" ::
            (blockMarks (Stmt.marksEach body) ++ after))) := by
    simp [defMarks]
  rw [hmarks]
  refine expect_hit (identifier_takes.next fun name hname => ?_)
  refine expect_hit ((params_takes hparams hpairs fun p hp => ?_).next fun ps hps => ?_)
  · have hle := Param.length_le hp false
    omega
  refine expect_hit (returns_takes hreturns (by omega) fun returns hreturns => ?_)
  refine (suite_takes hbody).next fun ts hts => ?_
  refine takes_spanFrom fun span => .pure ⟨?_, rfl⟩
  obtain ⟨b, hb, hbare⟩ := hts.toBlock
  refine ⟨.function head b (some span.location), ?_, ?_⟩
  · rw [Statement.toStmt, hps, hb, Term.toExpr?_of hreturns, Term.toExprs_of hds, hname]
    rfl
  · rw [Stmt.bare, Stmt.bare, hbare]

/-! ## Classes -/

/-- What is read behind the name of a class and its arguments. -/
theorem classBody_takes {head : ClassHead} {body : List Stmt} {location : Option Location}
    (hbody : TakesBlock statements body) {ds bs : List Term} {ks : List Argument}
    (hds : List.Forall₂ (fun e t => Term.Is t e) head.decorators ds)
    (harguments : ArgumentsAre (bs, ks) head.bases head.keywords) (start : Position) :
    Takes (do
      let body ← suite (deepReaders depth) statements
      return .classDef (← spanFrom start) head.name bs ks ds body)
      (.symbol ":" :: (blockMarks (Stmt.marksEach body) ++ after)) fun t ms' =>
        Statement.Is t (.classDef head body location) ∧ ms' = after := by
  refine (suite_takes hbody).next fun ts hts => ?_
  refine takes_spanFrom fun span => .pure ⟨?_, rfl⟩
  obtain ⟨b, hb, hbare⟩ := hts.toBlock
  refine ⟨.classDef head b (some span.location), ?_, ?_⟩
  · rw [Statement.toStmt, Term.toExprs_of harguments.1, hb, Argument.toKeywords_of harguments.2,
      Term.toExprs_of hds]
    rfl
  · rw [Stmt.bare, Stmt.bare, hbare]

theorem classDefinition_takes {head : ClassHead} {body : List Stmt} {location : Option Location}
    (h : head.isRegular mode = true) (hdepth : (marks head.inks).length ≤ depth)
    (hbody : TakesBlock statements body) {ds : List Term}
    (hds : List.Forall₂ (fun e t => Term.Is t e) head.decorators ds) :
    Takes (classDefinition (deepReaders depth) statements ds)
      (marks head.inks ++ (blockMarks (Stmt.marksEach body) ++ after)) fun t ms' =>
        t.Is (.classDef head body location) ∧ ms' = after := by
  simp only [ClassHead.isRegular, Bool.and_eq_true, Expr.areReadable_iff, Keyword.areReadable_iff] at h
  obtain ⟨⟨⟨-, hbases⟩, hkeywords⟩, -⟩ := h
  rw [marks_class] at hdepth ⊢
  simp only [List.length_cons, List.length_append] at hdepth
  simp only [List.cons_append, List.append_assoc, List.nil_append]
  refine takes_here fun start => expect_hit (identifier_takes.next_eq ?_)
  obtain ⟨hmarks, hbases, hkeywords⟩ | hmarks := marks_bases head.bases head.keywords
  · rw [hmarks]
    refine ifAccept_miss (symbol_head_ne (by decide) _)
      (Takes.pure_bind (classBody_takes hbody hds ?_ start))
    rw [hbases, hkeywords]
    exact ⟨.nil, .nil⟩
  · rw [hmarks, List.length_cons, List.length_append] at hdepth
    rw [hmarks, List.cons_append, List.append_assoc]
    obtain ⟨hleBases, hleKeywords⟩ :=
      length_le_argumentMarks (Expr.marksAt .test) Keyword.marks head.bases head.keywords
    refine ifAccept_hit ((arguments_takes (fun x hx => ?_) (fun x hx => ?_) none).next fun x hx => ?_)
    · have hle := hleBases x hx
      exact (takesBelow depth).element (hbases x hx) (by omega) (by omega)
    · have hle := hleKeywords x hx
      exact (takesBelow depth).passed (hkeywords x hx).1 (by omega) (by omega)
    · exact classBody_takes hbody hds hx start

/-! ## Decorators -/

theorem decorators_take {ds : List Expr} {d : Expr} (h : ∀ x ∈ d :: ds, x.isDecorator mode = true)
    (hdepth : (decoratorMarks (d :: ds)).length ≤ depth) (hafter : next? after ≠ some (.symbol "@")) :
    Takes (Reader.some (do
      expect "@"
      let e ← namedExpression (deepReaders depth)
      newline
      return e)) (decoratorMarks (d :: ds) ++ after) fun ts ms' =>
        List.Forall₂ (fun e t => Term.Is t e) (d :: ds) ts ∧ ms' = after := by
  refine Takes.oneOrMore (expect_miss hafter).bind (by simp) fun x ys hys => ?_
  have hx : x ∈ d :: ds := hys.subset List.mem_cons_self
  have hle : (marks (decoratorInks x) ++ [Mark.newline]).length ≤ depth :=
    Nat.le_trans
      (length_mem_le_flatMap (f := fun x => marks (decoratorInks x) ++ [Mark.newline]) hx) hdepth
  have hmarks : marks (decoratorInks x) = .symbol "@" :: x.marksAt .named := by
    rw [decoratorInks, marks_mark]
    rfl
  rw [hmarks, List.length_append, List.length_cons] at hle
  rw [hmarks, List.append_assoc, List.cons_append]
  have hbreaks : Breaks (.newline :: (ys.flatMap (fun x => marks (decoratorInks x) ++ [Mark.newline]) ++
    after)) := breaks_cons (by decide) _
  refine expect_hit (Takes.next (P := fun t => t.Is x) (k := .newline ::
    (ys.flatMap (fun x => marks (decoratorInks x) ++ [Mark.newline]) ++ after)) ?_ fun t ht => ?_)
  · obtain ⟨hreadable, hyield⟩ := Expr.isDecorator_iff.1 (h x hx)
    exact Expr.takes_named hreadable hyield (by omega) (hbreaks.clear _) (hbreaks.head_ne _)
  · exact newline_takes.past fun _ => .pure ⟨ht, rfl⟩

/-! ## Statements -/

theorem single_takes {p : Reader Statement} {s : Stmt}
    (h : Takes p ms fun t ms' => Statement.Is t s ∧ ms' = after) :
    Takes (do return [← p]) ms fun ts ms' => (∃ t, ts = [t] ∧ Statement.Is t s) ∧ ms' = after :=
  h.next fun t ht => .pure ⟨⟨t, rfl, ht⟩, rfl⟩

/-- A definition behind its decorators, if there are any. -/
theorem statement_decorated {ds : List Expr} (h : ∀ x ∈ ds, x.isDecorator mode = true)
    (hdepth : (decoratorMarks ds).length ≤ depth) {text : String} (htext : text ≠ "@") {k : Nat}
    {s : Stmt}
    (hbare : ds = [] → Takes (statement (deepReaders depth) statements k) (.symbol text :: ms)
      fun ts ms' => (∃ t, ts = [t] ∧ t.Is s) ∧ ms' = after)
    (hbehind : ∀ ts, List.Forall₂ (fun e t => Term.Is t e) ds ts → ∀ start, Takes (do
      if ← nextIs "class" then classDefinition (deepReaders depth) statements ts
      else if ← nextIs "async" then asyncStatement (deepReaders depth) statements ts
      else functionDefinition (deepReaders depth) statements start false ts) (.symbol text :: ms)
        fun t ms' => t.Is s ∧ ms' = after) :
    Takes (statement (deepReaders depth) statements k) (decoratorMarks ds ++ .symbol text :: ms)
      fun ts ms' => (∃ t, ts = [t] ∧ t.Is s) ∧ ms' = after := by
  cases ds with
  | nil => exact hbare rfl
  | cons d ds =>
    have hdecorated : Takes (decorated (deepReaders depth) statements)
        (decoratorMarks (d :: ds) ++ .symbol text :: ms) fun t ms' => t.Is s ∧ ms' = after := by
      refine (decorators_take h hdepth (symbol_head_ne htext _)).next fun ts hts => ?_
      exact takes_here fun start => hbehind ts hts start
    obtain ⟨rest, hrest⟩ : ∃ rest, decoratorMarks (d :: ds) = .symbol "@" :: rest := ⟨_, rfl⟩
    rw [hrest, List.cons_append] at hdecorated ⊢
    exact takes_here fun start => peek_symbol (single_takes hdecorated)

/-- A function definition is read, with its decorators and its body. -/
theorem functionStatement_takes {head : FunctionHead} {body : List Stmt} {location : Option Location}
    (h : head.isRegular mode = true)
    (hdepth : (decoratorMarks head.decorators ++ marks head.inks).length ≤ depth)
    (hbody : TakesBlock statements body) (k : Nat) :
    Takes (statement (deepReaders depth) statements k) (decoratorMarks head.decorators ++
      (marks head.inks ++ (blockMarks (Stmt.marksEach body) ++ after))) fun ts ms' =>
        (∃ t, ts = [t] ∧ t.Is (.function head body location)) ∧ ms' = after := by
  rw [List.length_append, marks_function, List.length_append] at hdepth
  have hplain := FunctionHead.are_decorators h
  have hdefinition : ∀ ts, List.Forall₂ (fun e t => Term.Is t e) head.decorators ts → ∀ start,
      Takes (functionDefinition (deepReaders depth) statements start head.isAsync ts)
        (defMarks head ++ (blockMarks (Stmt.marksEach body) ++ after)) fun t ms' =>
          t.Is (.function head body location) ∧ ms' = after := fun ts hts start =>
    functionDefinition_takes h (by omega) hbody hts start
  obtain ⟨rest, hrest⟩ : ∃ rest, defMarks head = .symbol "def" :: rest := ⟨_, rfl⟩
  rw [marks_function]
  cases hasync : head.isAsync with
  | false =>
    rw [hasync, hrest, List.cons_append] at hdefinition
    rw [if_neg Bool.false_ne_true, List.nil_append, hrest, List.cons_append]
    refine statement_decorated hplain (by omega) (by decide) (fun hnil => ?_) fun ts hts start => ?_
    · rw [hnil] at hdefinition
      exact takes_here fun start => peek_symbol (single_takes (hdefinition [] .nil start))
    · exact ifNext_miss (symbol_head_ne (by decide) _) (ifNext_miss (symbol_head_ne (by decide) _)
        (hdefinition ts hts start))
  | true =>
    rw [hasync, hrest, List.cons_append] at hdefinition
    rw [if_pos rfl, List.singleton_append, List.cons_append, hrest, List.cons_append]
    have hstatement : ∀ ts, List.Forall₂ (fun e t => Term.Is t e) head.decorators ts →
        Takes (asyncStatement (deepReaders depth) statements ts) (.symbol "async" :: .symbol "def" ::
          (rest ++ (blockMarks (Stmt.marksEach body) ++ after))) fun t ms' =>
            t.Is (.function head body location) ∧ ms' = after := fun ts hts =>
      takes_here fun start => expect_hit (ifNext_hit (hdefinition ts hts start))
    refine statement_decorated hplain (by omega) (by decide) (fun hnil => ?_) fun ts hts start => ?_
    · rw [hnil] at hstatement
      exact takes_here fun start => peek_symbol (single_takes (hstatement [] .nil))
    · exact ifNext_miss (symbol_head_ne (by decide) _) (ifNext_hit (hstatement ts hts))

/-- A class definition is read, with its decorators and its body. -/
theorem classStatement_takes {head : ClassHead} {body : List Stmt} {location : Option Location}
    (h : head.isRegular mode = true)
    (hdepth : (decoratorMarks head.decorators ++ marks head.inks).length ≤ depth)
    (hbody : TakesBlock statements body) (k : Nat) :
    Takes (statement (deepReaders depth) statements k) (decoratorMarks head.decorators ++
      (marks head.inks ++ (blockMarks (Stmt.marksEach body) ++ after))) fun ts ms' =>
        (∃ t, ts = [t] ∧ t.Is (.classDef head body location)) ∧ ms' = after := by
  rw [List.length_append] at hdepth
  have hplain := ClassHead.are_decorators h
  have hdefinition : ∀ ts, List.Forall₂ (fun e t => Term.Is t e) head.decorators ts →
      Takes (classDefinition (deepReaders depth) statements ts)
        (marks head.inks ++ (blockMarks (Stmt.marksEach body) ++ after)) fun t ms' =>
          t.Is (.classDef head body location) ∧ ms' = after := fun ts hts =>
    classDefinition_takes h (by omega) hbody hts
  rw [marks_class, List.cons_append] at hdefinition ⊢
  refine statement_decorated hplain (by omega) (by decide) (fun hnil => ?_) fun ts hts start =>
    ifNext_hit (hdefinition ts hts)
  rw [hnil] at hdefinition
  exact takes_here fun start => peek_symbol (single_takes (hdefinition [] .nil))

end Grammar

end Refactory
