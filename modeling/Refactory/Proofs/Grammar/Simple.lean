import Refactory.Proofs.Grammar.Items
import Refactory.Proofs.Render.Bare
import Refactory.Proofs.Render.Script

/-! # Simple statements are read back

What is read on a line of its own stands for the statement that was written there, its location left out
(`Statement.Is`). There is a lemma for each form: imports, `return`, assignments and expressions. Main
statement: `Stmt.takes_line`. -/

namespace Refactory

open Grammar Inks

/-- Only a `yield` is written otherwise where it can stand without parentheses. -/
theorem Expr.marks_yielding {e : Expr} (h : e.strength ≠ .yielding) :
    e.marksAt .yielding = e.marksAt .test := Expr.marksAt_next (by decide) h

/-- What begins no expression and is no star does not come next. -/
theorem Expr.head_ne {mode : RenderMode} {e : Expr} (h : e.isReadable mode true = true) {text : String}
    (hstarts : (Mark.symbol text).starts < Precedence.test.rank) (hstar : text ≠ "*")
    (ms : List Mark) : next? (e.marksAt .test ++ ms) ≠ some (.symbol text) := by
  cases hstarred : e.isStarred with
  | false =>
    exact ((Expr.opens (Expr.readable_of_not_starred h hstarred) .test).append ms).head_ne hstarts
  | true =>
    cases e with
    | starred value =>
      have hmarks : (Expr.starred value).marksAt .test = .symbol "*" :: value.marksAt .bitOr :=
        Expr.marksAt_of_le (Nat.le_refl _)
      rw [hmarks]
      exact symbol_head_ne hstar.symm _
    | _ => cases hstarred

namespace Grammar

variable {ms after : List Mark}

/-! ## The text of an import -/

theorem forall₂_eq {α : Type} {xs ys : List α} (h : List.Forall₂ Eq xs ys) : xs = ys := by
  rwa [List.forall₂_eq_eq_eq] at h

theorem marks_flatMap {α : Type} (f : α → List Ink) (xs : List α) :
    marks (xs.flatMap f) = xs.flatMap fun x => marks (f x) := by
  induction xs with
  | nil => rfl
  | cons x xs ih => rw [List.flatMap_cons, List.flatMap_cons, marks_append, ih]

/-- Neither a dot nor a bound name comes next: a name that is imported ends here. -/
structure NameEnds (after : List Mark) : Prop where
  dot : next? after ≠ some (.symbol ".")
  bound : next? after ≠ some (.symbol "as")

theorem nameEnds_comma (ms : List Mark) : NameEnds (.symbol "," :: ms) :=
  ⟨symbol_head_ne (by decide) _, symbol_head_ne (by decide) _⟩

theorem Breaks.nameEnds (h : Breaks after) : NameEnds after := ⟨h.head_ne _, h.head_ne _⟩

theorem bound_head_ne {name : Option Text} (hafter : NameEnds after) :
    next? (marks (boundInks name) ++ after) ≠ some (.symbol ".") := by
  cases name with
  | none => exact hafter.dot
  | some id => exact symbol_head_ne (by decide) _

/-- An imported name stands for an alias. -/
def ImportedName.Is (a : Alias) (n : ImportedName) : Prop := n.toAlias = a

theorem toAliases_of {names : List Alias} {ns : List ImportedName}
    (h : List.Forall₂ ImportedName.Is names ns) : ns.map ImportedName.toAlias = names := by
  refine forall₂_eq ?_
  rw [List.forall₂_map_left_iff]
  exact h.flip

theorem marks_aliases (a : Alias) (names : List Alias) :
    marks (commas ((a :: names).map Alias.inks)) =
      marks a.inks ++ names.flatMap fun x => .symbol "," :: marks x.inks := by
  rw [List.map_cons, commas, marks_join, List.flatMap_map]
  rfl

/-- A token that stands for so many dots. -/
def dotMark (n : Nat) : Mark := .symbol (if n = 3 then "..." else ".")

theorem marks_level (level : Nat) : marks (levelInks level) =
    (List.replicate (level / 3) 3 ++ List.replicate (level % 3) 1).flatMap fun n => [dotMark n] := by
  have hrun : ∀ (k n : Nat) (text : String), .symbol text = dotMark n →
      marks (List.replicate k (.symbol text)) = (List.replicate k n).flatMap fun n => [dotMark n] := by
    intro k n text htext
    induction k with
    | zero => rfl
    | succ k ih =>
      rw [List.replicate_succ, marks_mark, ih, htext]
      rfl
  rw [levelInks, marks_append, List.flatMap_append, hrun _ 3 "..." rfl, hrun _ 1 "." rfl]

theorem Text.inks_head_ne {t : Text} (h : t.isDotted = true) (text : String) (ms : List Mark) :
    next? (marks t.inks ++ ms) ≠ some (.symbol text) := by
  obtain ⟨id, ids, -, -, hinks⟩ := Text.inks_eq h
  simp [hinks]

/-- What is behind the dots of an import begins with a name or with the word behind the module. -/
theorem module_head_ne {module : Option Text} (h : module.all Text.isDotted = true) {text : String}
    (htext : text ≠ "import") (ms : List Mark) :
    next? (marks (module.elim [] Text.inks) ++ .symbol "import" :: ms) ≠ some (.symbol text) := by
  cases module with
  | none => exact symbol_head_ne htext.symm _
  | some m => exact Text.inks_head_ne h text _

variable [Setting] {mode : RenderMode} {depth : Nat}

/-- A statement of the source stands for one of the tree, locations left out. -/
def Statement.Is (t : Statement) (s : Stmt) : Prop :=
  ∃ s', t.toStmt origin = .ok s' ∧ s'.bare = s.bare

/-! ## Imports -/

/-- Names with dots between them are one text. -/
theorem dottedName_takes {t : Text} (h : t.isDotted = true)
    (hafter : next? after ≠ some (.symbol ".")) :
    Takes dottedName (marks t.inks ++ after) fun found ms' => found = t ∧ ms' = after := by
  obtain ⟨id, ids, hsplit, -, hinks⟩ := Text.inks_eq h
  have hmarks : marks t.inks = .name id :: ids.flatMap fun i => [.symbol ".", .name i] := by
    rw [hinks, marks_mark, marks_flatMap]
    rfl
  rw [hmarks, List.cons_append]
  refine identifier_takes.next fun first hfirst => ?_
  refine (Takes.many (R := Eq) (expect_miss hafter).bind (by simp) fun x ys _ => ?_).next
    fun others hothers => ?_
  · exact expect_hit (identifier_takes.mono fun _ _ h => ⟨h.1.symm, h.2⟩)
  · rw [← forall₂_eq hothers, hfirst, ← hsplit]
    exact .pure ⟨Text.join_splitOn _ t, rfl⟩

/-- The name that something is bound to, if any. -/
theorem asName_takes (name : Option Text) (hafter : next? after ≠ some (.symbol "as")) :
    Takes asName (marks (boundInks name) ++ after) fun found ms' => found = name ∧ ms' = after := by
  cases name with
  | none => exact ifAccept_miss hafter (.pure ⟨rfl, rfl⟩)
  | some id =>
    exact ifAccept_hit (identifier_takes.next fun found hfound =>
      .pure ⟨congrArg some hfound, rfl⟩)

/-- A module with the name that it is bound to. -/
theorem moduleName_takes {a : Alias} (h : a.isRegular = true) (hafter : NameEnds after) :
    Takes (do
      let name ← dottedName
      return (⟨name, ← asName⟩ : ImportedName)) (marks a.inks ++ after)
      fun n ms' => ImportedName.Is a n ∧ ms' = after := by
  rw [Alias.isRegular, Bool.and_eq_true] at h
  rw [Alias.inks, marks_append, List.append_assoc]
  refine (dottedName_takes h.1 (bound_head_ne hafter)).next_eq ?_
  exact (asName_takes a.asName hafter.bound).next_eq (.pure ⟨rfl, rfl⟩)

/-- A member of a module with the name that it is bound to. -/
theorem memberName_takes {a : Alias} (h : a.name.isNormalName = true) (hafter : NameEnds after) :
    Takes (do
      let name ← identifier
      return (⟨name, ← asName⟩ : ImportedName)) (marks a.inks ++ after)
      fun n ms' => ImportedName.Is a n ∧ ms' = after := by
  have hmarks : marks a.inks = .name a.name :: marks (boundInks a.asName) := by
    rw [Alias.inks, Text.inks, Text.splitOn_name h]
    rfl
  rw [hmarks, List.cons_append]
  refine identifier_takes.next_eq ?_
  exact (asName_takes a.asName hafter.bound).next_eq (.pure ⟨rfl, rfl⟩)

/-- Imported names with commas between them, up to the end of the line. -/
theorem importedItems_takes {item : Reader ImportedName} {a : Alias} {names : List Alias}
    (h : ∀ x ∈ a :: names, ∀ after', NameEnds after' →
      Takes item (marks x.inks ++ after') fun n ms' => ImportedName.Is x n ∧ ms' = after')
    (hafter : Breaks after) {β : Type} {f : ImportedName → List ImportedName → Reader β}
    {post : β → List Mark → Prop}
    (hf : ∀ n ns, List.Forall₂ ImportedName.Is (a :: names) (n :: ns) → Takes (f n ns) after post) :
    Takes (do
      let first ← item
      let others ← Reader.many (do expect ","; item)
      f first others) (marks (commas ((a :: names).map Alias.inks)) ++ after) post := by
  rw [marks_aliases, List.append_assoc]
  refine (h a List.mem_cons_self _ ?_).next fun n hn => ?_
  · cases names with
    | nil => exact hafter.nameEnds
    | cons x names => exact nameEnds_comma _
  · refine (Takes.commaItems nameEnds_comma hafter.nameEnds (hafter.head_ne _) fun x hx =>
      h x (List.mem_cons_of_mem a hx)).next fun ns hns => ?_
    exact hf _ _ (.cons hn hns)

theorem importStatement_takes {names : List Alias} {location : Option Location}
    (h : (Stmt.importNames names location).isRegular mode = true) (hafter : Breaks after) :
    Takes importStatement (marks (Stmt.importNames names location).inks ++ after) fun t ms' =>
      t.Is (.importNames names location) ∧ ms' = after := by
  rw [Stmt.isRegular, Bool.and_eq_true, List.all_eq_true] at h
  cases names with
  | nil => cases h.1
  | cons a names =>
    refine takes_here fun start => expect_hit ?_
    dsimp only
    refine importedItems_takes (fun x hx after' hafter' => moduleName_takes (h.2 x hx) hafter') hafter
      fun n ns hns => takes_spanFrom fun span => ?_
    refine .pure ⟨⟨_, rfl, ?_⟩, rfl⟩
    rw [Stmt.bare, toAliases_of hns]
    rfl

/-- The dots in front of a relative import, of which three are one token. -/
theorem relativeLevel_takes (level : Nat) (hdot : next? after ≠ some (.symbol "."))
    (hdots : next? after ≠ some (.symbol "...")) :
    Takes relativeLevel (marks (levelInks level) ++ after) fun n ms' => n = level ∧ ms' = after := by
  have hsum : (List.replicate (level / 3) 3 ++ List.replicate (level % 3) 1).sum = level := by
    simp only [List.sum_append, List.sum_replicate_nat]
    omega
  rw [marks_level]
  refine (Takes.many (R := Eq) ?_ (by simp) fun n ns hn => ?_).next
    fun dots hdots => .pure ⟨?_, rfl⟩
  · refine advance_rejects fun l hl c => ?_
    cases l with
    | symbol s =>
      have hne : ∀ text : String, next? after ≠ some (.symbol text) → (s == text) = false :=
        fun text htext => beq_eq_false_iff_ne.2 fun hs => htext (by rw [hl, hs]; rfl)
      simp only [hne _ hdot, hne _ hdots, Bool.false_eq_true, if_false]
      rfl
    | _ => rfl
  · have hmem := hn.subset List.mem_cons_self
    rw [List.mem_append, List.mem_replicate, List.mem_replicate] at hmem
    refine (advance_takes rfl).next fun l hl => ?_
    rw [Lexeme.mark_symbol.1 hl]
    obtain ⟨-, rfl⟩ | ⟨-, rfl⟩ := hmem
    · exact .pure ⟨rfl, rfl⟩
    · exact .pure ⟨rfl, rfl⟩
  · rw [← forall₂_eq hdots, ← List.sum_eq_foldl, hsum]

/-- What an import takes from a module: everything, or members up to the end of the line. -/
theorem importedNames_takes {names : List Alias} (h : Alias.areMembers names = true)
    (hne : names ≠ []) (hafter : Breaks after) :
    Takes importedNames (marks (Alias.memberInks names) ++ after) fun ns ms' =>
      ns.map ImportedName.toAlias = names ∧ ms' = after := by
  rw [Alias.areMembers, Bool.or_eq_true, beq_iff_eq, List.all_eq_true] at h
  unfold Alias.memberInks
  split_ifs with hall
  · rw [hall]
    exact ifAccept_hit (.pure ⟨rfl, rfl⟩)
  · have hnames := h.resolve_left hall
    obtain ⟨a, names, rfl⟩ := List.exists_cons_of_ne_nil hne
    have hmember : ∀ x ∈ a :: names, x.name.isNormalName = true := fun x hx =>
      (Bool.and_eq_true _ _ ▸ hnames x hx).2
    have hhead : ∀ text : String, next? (marks (commas ((a :: names).map Alias.inks)) ++ after) ≠
        some (.symbol text) := by
      intro text
      rw [marks_aliases, Alias.inks, Text.inks, Text.splitOn_name (hmember a List.mem_cons_self)]
      simp [Inks.join]
    refine ifAccept_miss (hhead _) (ifAccept_miss (hhead _) ?_)
    exact importedItems_takes
      (fun x hx after' hafter' => memberName_takes (hmember x hx) hafter') hafter fun n ns hns => refuse_pass (hafter.head_ne _) (.pure ⟨toAliases_of hns, rfl⟩)

/-- What is read behind the dots of an import and the module. -/
theorem importMembers_takes {module : Option Text} {names : List Alias} {level : Int}
    {location : Option Location} (hnames : Alias.areMembers names = true) (hne : names ≠ [])
    (hlevel : 0 ≤ level) (hafter : Breaks after) (start : Position) :
    Takes (do
      expect "import"
      let names ← importedNames
      return .importFrom (← spanFrom start) module names level.toNat)
      (.symbol "import" :: (marks (Alias.memberInks names) ++ after)) fun t ms' =>
        Statement.Is t (.importFrom module names level location) ∧ ms' = after := by
  refine expect_hit ((importedNames_takes hnames hne hafter).next fun ns hns => ?_)
  refine takes_spanFrom fun span => .pure ⟨⟨_, rfl, ?_⟩, rfl⟩
  rw [Stmt.bare, hns, Int.toNat_of_nonneg hlevel]
  rfl

theorem fromStatement_takes {module : Option Text} {names : List Alias} {level : Int}
    {location : Option Location}
    (h : (Stmt.importFrom module names level location).isRegular mode = true) (hafter : Breaks after) :
    Takes fromStatement (marks (Stmt.importFrom module names level location).inks ++ after)
      fun t ms' => t.Is (.importFrom module names level location) ∧ ms' = after := by
  simp only [Stmt.isRegular, Bool.and_eq_true, decide_eq_true_iff, Bool.not_eq_true',
    Bool.and_eq_false_iff, beq_eq_false_iff_ne, List.isEmpty_eq_false_iff] at h
  obtain ⟨⟨⟨⟨hmodule, hlevel⟩, hsome⟩, hne⟩, hnames⟩ := h
  have hmarks : marks (Stmt.importFrom module names level location).inks ++ after =
      .symbol "from" :: (marks (levelInks level.toNat) ++ (marks (module.elim [] Text.inks) ++
        .symbol "import" :: (marks (Alias.memberInks names) ++ after))) := by
    simp [Stmt.inks]
  rw [hmarks]
  refine takes_here fun start => expect_hit ?_
  refine (relativeLevel_takes level.toNat (module_head_ne hmodule (by decide) _)
    (module_head_ne hmodule (by decide) _)).next_eq ?_
  have hlevelNat : level.toNat = 0 ↔ level = 0 := by omega
  cases module with
  | none =>
    refine ifNext_hit (Takes.pure_bind ?_)
    have hzero : level ≠ 0 := hsome.resolve_right (by simp)
    beta_reduce
    rw [if_neg (by simp [hlevelNat, hzero])]
    exact importMembers_takes hnames hne hlevel hafter start
  | some m =>
    refine ifNext_miss (Text.inks_head_ne hmodule _ _) (Takes.next_eq (a := some m)
      ((dottedName_takes hmodule (symbol_head_ne (by decide) _)).map
        fun found ms' hfound => ⟨congrArg some hfound.1, hfound.2⟩) ?_)
    beta_reduce
    rw [if_neg (by simp)]
    exact importMembers_takes hnames hne hlevel hafter start

/-! ## Targets -/

theorem Term.forall₂_of_toExprs {ts : List Term} {es : List Expr}
    (h : Term.toExprs origin ts = .ok es) (hslices : Term.areSliceless ts = true) :
    List.Forall₂ (fun e t => Term.Is t e) es ts := by
  induction ts generalizing es with
  | nil =>
    cases h
    exact .nil
  | cons t ts ih =>
    rw [Term.areSliceless, Bool.and_eq_true] at hslices
    obtain ⟨e, he, h⟩ := bind_ok.1 h
    obtain ⟨rest, hrest, h⟩ := bind_ok.1 h
    cases h
    exact .cons ⟨he, hslices.1⟩ (ih hrest hslices.2)

theorem Term.Is.of_tuple {ts : List Term} {e : Expr} (h : (Term.tuple ts).Is e) :
    ∃ es, e = .tuple es ∧ List.Forall₂ (fun e t => Term.Is t e) es ts := by
  obtain ⟨es, hes, hok⟩ := bind_ok.1 h.toExpr
  exact ⟨es, (Except.ok.inj hok).symm, Term.forall₂_of_toExprs hes h.sliceless⟩

theorem Term.Is.of_list {ts : List Term} {e : Expr} (h : (Term.list ts).Is e) :
    ∃ es, e = .list es ∧ List.Forall₂ (fun e t => Term.Is t e) es ts := by
  obtain ⟨es, hes, hok⟩ := bind_ok.1 h.toExpr
  exact ⟨es, (Except.ok.inj hok).symm, Term.forall₂_of_toExprs hes h.sliceless⟩

theorem Term.Is.of_starred {t : Term} {e : Expr} (h : (Term.starred t).Is e) :
    ∃ v, e = .starred v ∧ t.Is v := by
  obtain ⟨v, hv, hok⟩ := bind_ok.1 h.toExpr
  exact ⟨v, (Except.ok.inj hok).symm, hv, h.sliceless⟩

mutual

/-- What stands for a target can be assigned to. -/
theorem Term.isTarget_of : ∀ (t : Term) {e : Expr}, t.Is e → e.isTarget = true → t.isTarget = true
  | .name _, _, _, _ | .attribute .., _, _, _ | .subscript .., _, _, _ => rfl
  | .tuple ts, _, h, he => by
    obtain ⟨es, rfl, hes⟩ := h.of_tuple
    exact Term.areTargets_of ts hes he
  | .list ts, _, h, he => by
    obtain ⟨es, rfl, hes⟩ := h.of_list
    exact Term.areTargets_of ts hes he
  | .starred t, _, h, he => by
    obtain ⟨v, rfl, hv⟩ := h.of_starred
    rw [Expr.isTarget, Bool.and_eq_true, Bool.not_eq_true'] at he
    rw [Term.isTarget, hv.not_starred he.1, Term.isTarget_of t hv he.2]
    rfl
  | .string .., _, h, he | .number _, _, h, he | .truth _, _, h, he | .noneLiteral, _, h, he => by
    cases h.toExpr
    cases he
  | .slice .., _, h, he => by cases h.sliceless
  | .bytes .., _, h, he | .ellipsis _, _, h, he | .set .., _, h, he
  | .lambda .., _, h, he | .conditional .., _, h, he | .named .., _, h, he | .listComp .., _, h, he
  | .setComp .., _, h, he | .dictComp .., _, h, he | .generator .., _, h, he | .await .., _, h, he
  | .yield .., _, h, he | .yieldFrom .., _, h, he => by
    obtain ⟨source, rfl⟩ := capture_ok h.toExpr
    rw [Expr.isTarget, beq_iff_eq] at he
    exact absurd he (by decide)
  | .call .., _, h, he => by
    obtain ⟨_, -, h⟩ := bind_ok.1 h.toExpr
    obtain ⟨_, -, h⟩ := bind_ok.1 h
    obtain ⟨_, -, h⟩ := bind_ok.1 h
    cases h
    cases he
  | .binary .., _, h, he | .compare .., _, h, he | .dict .., _, h, he => by
    obtain ⟨_, -, h⟩ := bind_ok.1 h.toExpr
    obtain ⟨_, -, h⟩ := bind_ok.1 h
    cases h
    cases he
  | .unary .., _, h, he | .logical .., _, h, he => by
    obtain ⟨_, -, h⟩ := bind_ok.1 h.toExpr
    cases h
    cases he
  | .formatted .., _, h, he => by
    obtain ⟨pieces, -, h⟩ := bind_ok.1 h.toExpr
    cases pieces with
    | some pieces =>
      cases h
      cases he
    | none =>
      obtain ⟨source, rfl⟩ := capture_ok h
      rw [Expr.isTarget, beq_iff_eq] at he
      exact absurd he (by decide)

theorem Term.areTargets_of : ∀ (ts : List Term) {es : List Expr},
    List.Forall₂ (fun e t => Term.Is t e) es ts → Expr.areTargets es = true →
      Term.areTargets ts = true
  | [], _, _, _ => rfl
  | t :: ts, _, .cons h hs, he => by
    rw [Expr.areTargets, Bool.and_eq_true] at he
    rw [Term.areTargets, Term.isTarget_of t h he.1, Term.areTargets_of ts hs he.2]
    rfl

end

/-! ## Expressions and assignments -/

theorem acceptAugmented_miss (h : ∀ text ∈ augmentedOperators, next? ms ≠ some (.symbol text)) :
    Takes acceptAugmented ms fun b ms' => b = false ∧ ms' = ms := by
  refine peek_takes.next fun l hl => ?_
  cases l with
  | none => exact .pure ⟨rfl, rfl⟩
  | some l =>
    cases l with
    | symbol s =>
      have hs : augmentedOperators.contains s = false := by
        rw [List.contains_eq_mem, decide_eq_false_iff_not]
        exact fun hmem => h s hmem hl.symm
      simp only [hs, Bool.false_eq_true, if_false]
      exact .pure ⟨rfl, rfl⟩
    | _ => exact .pure ⟨rfl, rfl⟩

/-- A `yield` that is captured stands without parentheses where it is a statement or is assigned. -/
theorem Expr.takes_yield (depth : Nat) {e : Expr} (h : e.isReadable mode true = true) (hyield : e.strength = .yielding)
    (hafter : Breaks after) : next? (e.marksAt .yielding ++ after) = some (.symbol "yield") ∧
      TakesExpr (yieldExpression (deepReaders depth)) (e.marksAt .yielding ++ after) e after := by
  have hstarred : e.isStarred = false := by
    cases e with
    | starred value => cases hyield
    | _ => rfl
  obtain ⟨kind, word, rfl, hword⟩ := Expr.captured_of_loose (Expr.readable_of_not_starred h hstarred)
    (by rw [hyield]; decide)
  have hmarks : (Expr.captured kind (some (Text.ofChars word))).marksAt .yielding =
      [.captured kind word] := by
    rw [Expr.marksAt_of_le (by rw [hyield]), Expr.inks, filterMap_char_ofChars]
    rfl
  rw [hmarks]
  exact ⟨congrArg some (hword.yields.2 hyield), hword.yieldExpression hyield (Nat.le_add_right _ _)
    (hafter.clear _) (hafter.head_ne _) (hafter.head_ne _)⟩

theorem expressionStatement_takes {e : Expr} {location : Option Location}
    (h : e.isReadable mode true = true) (hdepth : (e.marksAt .test).length < depth) (hafter : Breaks after) :
    Takes (expressionStatement (deepReaders depth)) (e.marksAt .test ++ after) fun t ms' =>
      t.Is (.expr e location) ∧ ms' = after := by
  refine takes_here fun start => (Expr.takes_starExpressions h hdepth (hafter.clear _)
    (hafter.head_ne _)).next fun t ht => ?_
  refine ifNext_miss (hafter.head_ne _) (ifAccept_miss (hafter.head_ne _) ?_)
  refine (acceptAugmented_miss fun text _ => hafter.head_ne text).next_eq ?_
  rw [if_neg Bool.false_ne_true]
  refine takes_spanFrom fun span =>
    .pure ⟨⟨.expr e (some span.location), ?_, rfl⟩, rfl⟩
  rw [Statement.toStmt, ht.toExpr]
  rfl

/-- The value behind the last sign of an assignment. -/
theorem assignment_takes {e : Expr} (h : e.isReadable mode true = true)
    (hdepth : (e.marksAt .yielding).length < depth) (hafter : Breaks after) (seen : List Term)
    {fuel : Nat} (hfuel : 0 < fuel) :
    Takes (assignment (deepReaders depth) fuel seen) (.symbol "=" :: (e.marksAt .yielding ++ after))
      fun x ms' => (x.1 = seen.reverse ∧ x.2.Is e) ∧ ms' = after := by
  obtain ⟨fuel, rfl⟩ := Nat.exists_eq_add_one_of_ne_zero (Nat.ne_of_gt hfuel)
  by_cases hyield : e.strength = .yielding
  · obtain ⟨hnext, htakes⟩ := Expr.takes_yield depth h hyield hafter
    exact expect_hit (ifNext_found hnext (htakes.next fun t ht => .pure ⟨⟨rfl, ht⟩, rfl⟩))
  · rw [Expr.marks_yielding hyield] at hdepth ⊢
    refine expect_hit (ifNext_miss (Expr.head_ne h (by decide) (by decide) _) ?_)
    refine (Expr.takes_starExpressions h hdepth (hafter.clear _) (hafter.head_ne _)).next
      fun t ht => ?_
    exact ifNext_miss (hafter.head_ne _) (.pure ⟨⟨rfl, ht⟩, rfl⟩)

/-- The targets of an assignment are told apart again. -/
theorem assignTargets_of {es : List Expr} {ts : List Term}
    (h : List.Forall₂ (fun e t => Term.Is t e) es ts) (hes : Expr.areUnpacked es = true) :
    List.Forall₂ (fun e t => Term.Is t e) es (assignTargets (tupleOf (ts, false))) ∧
      (tupleOf (ts, false)).isTarget = true := by
  unfold Expr.areUnpacked at hes
  split at hes
  · cases hes
  · cases hes
  · rename_i hnil htuple
    match es, ts, h with
    | [], _, _ => exact (hnil rfl).elim
    | [e], [t], .cons ht .nil =>
      refine ⟨?_, Term.isTarget_of t ht (by simpa [Expr.areTargets] using hes)⟩
      have hsingle : assignTargets t = [t] := by
        unfold assignTargets
        split
        · obtain ⟨es, rfl, hlist⟩ := ht.of_tuple
          cases hlist with
          | cons _ hlist =>
            cases hlist with
            | cons _ _ => exact (htuple _ _ _ rfl).elim
        · rfl
      rw [tupleOf, hsingle]
      exact .cons ht .nil
    | e :: e' :: es, t :: t' :: ts, h => exact ⟨h, Term.areTargets_of _ h hes⟩

/-- The targets of an assignment, up to the sign behind them. -/
theorem assignTargets_take {e : Expr} {es : List Expr}
    (h : ∀ x ∈ e :: es, x.isReadable mode true = true) (hunpacked : Expr.areUnpacked (e :: es) = true)
    (hdepth : (commaMarks (Expr.marksAt .test) (e :: es)).length < depth) :
    Takes (starExpressions (deepReaders depth))
      (commaMarks (Expr.marksAt .test) (e :: es) ++ .symbol "=" :: after) fun t ms' =>
        (t.isTarget = true ∧ List.Forall₂ (fun e t => Term.Is t e) (e :: es) (assignTargets t)) ∧
          ms' = .symbol "=" :: after := by
  refine (commaSeparated_takes_star h hdepth (clear_cons (by decide))
    (symbol_head_ne (by decide) _)).next ?_
  rintro ⟨ts, _⟩ ⟨hts, rfl⟩
  exact .pure ⟨(assignTargets_of hts hunpacked).symm, rfl⟩

theorem assignStatement_takes {targets : List Expr} {value : Expr} {location : Option Location}
    (h : (Stmt.assign targets value location).isRegular mode = true)
    (hdepth : (marks (Stmt.assign targets value location).inks).length < depth)
    (hafter : Breaks after) :
    Takes (expressionStatement (deepReaders depth))
      (marks (Stmt.assign targets value location).inks ++ after) fun t ms' =>
        t.Is (.assign targets value location) ∧ ms' = after := by
  simp only [Stmt.isRegular, Bool.and_eq_true, Expr.areReadable_iff] at h
  obtain ⟨⟨htargets, hunpacked⟩, hvalue⟩ := h
  have hmarks : marks (Stmt.assign targets value location).inks =
      commaMarks (Expr.marksAt .test) targets ++ .symbol "=" :: value.marksAt .yielding := by
    rw [Stmt.inks, marks_append, marks_commas, marks_gap, marks_mark, marks_gap]
    rfl
  obtain ⟨e, es, rfl⟩ := List.exists_cons_of_ne_nil (show targets ≠ [] by
    rintro rfl
    cases hunpacked)
  rw [hmarks, List.length_append, List.length_cons] at hdepth
  rw [hmarks, List.append_assoc, List.cons_append]
  refine takes_here fun start => (assignTargets_take htargets hunpacked (by omega)).next ?_
  rintro t ⟨htarget, ht⟩
  refine ifNext_hit ?_
  rw [if_pos htarget]
  refine Takes.next (P := fun x => x.1 = [t] ∧ x.2.Is value) (k := after) (fun c hc => ?_) ?_
  · refine assignment_takes hvalue (by omega) hafter [t] ?_ c hc
    rw [List.length_pos_iff]
    rintro hnil
    have htokens := hc.length_le
    rw [hnil] at htokens
    cases htokens
  · rintro ⟨_, v⟩ ⟨rfl, hv⟩
    refine takes_spanFrom fun span =>
      .pure ⟨⟨.assign (e :: es) value (some span.location), ?_, rfl⟩, rfl⟩
    rw [Statement.toStmt, Term.toExprs_of ht, hv.toExpr]
    rfl

/-! ## Lines -/

section

variable {r : Readers} {post : Statement → List Mark → Prop}

/-- The words that a simple statement of its own sort begins with. -/
def simpleWords : List String :=
  ["return", "import", "from", "pass", "yield", "raise", "del", "assert", "break", "continue", "global",
    "nonlocal"]

/-- What does not begin with a word of its own is an expression or an assignment. -/
theorem simpleStatement_expression (hhead : ∀ text ∈ simpleWords, next? ms ≠ some (.symbol text))
    (h : Takes (expressionStatement r) ms post) : Takes (simpleStatement r) ms post := by
  refine takes_here fun start => peek_takes.next fun l hl => ?_
  cases l with
  | none => exact h
  | some l =>
    cases l with
    | symbol s =>
      have hs : ∀ text ∈ simpleWords, ¬ (s == text) = true := fun text htext heq =>
        hhead text htext (by rw [← hl, beq_iff_eq.1 heq]; rfl)
      simp only [simpleWords, List.forall_mem_cons] at hs
      obtain ⟨h1, h2, h3, h4, h5, h6, h7, h8, h9, h10, h11, h12, -⟩ := hs
      simp only [if_neg h1, if_neg h2, if_neg h3, if_neg h4, if_neg h5, if_neg h6, if_neg h7, if_neg h8,
        if_neg h9, if_neg h10, if_neg h11, if_neg h12]
      exact h
    | _ => exact h

theorem simpleStatement_import (h : Takes importStatement (.symbol "import" :: ms) post) :
    Takes (simpleStatement r) (.symbol "import" :: ms) post :=
  takes_here fun _ => peek_symbol h

theorem simpleStatement_from (h : Takes fromStatement (.symbol "from" :: ms) post) :
    Takes (simpleStatement r) (.symbol "from" :: ms) post :=
  takes_here fun _ => peek_symbol h

end

theorem returnStatement_takes {value : Option Expr} {location : Option Location}
    (h : value.all (Expr.isReadable mode true) = true)
    (hdepth : (marks (Stmt.ret value location).inks).length < depth) (hafter : Breaks after) :
    Takes (simpleStatement (deepReaders depth)) (marks (Stmt.ret value location).inks ++ after)
      fun t ms' => t.Is (.ret value location) ∧ ms' = after := by
  cases value with
  | none =>
    refine takes_here fun start => peek_symbol ?_
    refine (advance_takes rfl).next fun _ _ => ?_
    refine (Takes.optional_none (rejects_layout hafter)).next_eq ?_
    exact takes_spanFrom fun span => .pure ⟨⟨.ret none (some span.location), rfl, rfl⟩, rfl⟩
  | some value =>
    have hmarks : marks (Stmt.ret (some value) location).inks =
        .symbol "return" :: value.marksAt .test := rfl
    rw [hmarks, List.length_cons] at hdepth
    rw [hmarks, List.cons_append]
    refine takes_here fun start => peek_symbol ?_
    refine (advance_takes rfl).next fun _ _ => ?_
    refine (Takes.optional (Expr.takes_starExpressions h (by omega) (hafter.clear _)
      (hafter.head_ne _))).bind fun found ms' ⟨t, hfound, ht, hms⟩ => ?_
    rw [hfound, hms]
    refine takes_spanFrom fun span =>
      .pure ⟨⟨.ret (some value) (some span.location), ?_, rfl⟩, rfl⟩
    rw [Statement.toStmt, Term.toExpr?_of (.some ht)]
    rfl

/-- What begins with `yield` is an expression by itself. -/
theorem yieldStatement_takes {r : Readers} {e : Expr} {location : Option Location}
    (hhead : next? ms = some (.symbol "yield")) (h : TakesExpr (yieldExpression r) ms e after) :
    Takes (simpleStatement r) ms fun t ms' => t.Is (.expr e location) ∧ ms' = after := by
  refine takes_here fun start => peek_found hhead (h.next fun t ht => ?_)
  refine takes_spanFrom fun span => .pure ⟨⟨.expr e (some span.location), ?_, rfl⟩, rfl⟩
  rw [Statement.toStmt, ht.toExpr]
  rfl

theorem passStatement_takes {r : Readers} {location : Option Location} :
    Takes (simpleStatement r) (.symbol "pass" :: after) fun t ms' =>
      t.Is (.pass location) ∧ ms' = after := by
  refine takes_here fun start => peek_symbol ?_
  refine (advance_takes rfl).next fun _ _ => ?_
  exact takes_spanFrom fun span =>
    .pure ⟨⟨.pass (some span.location), rfl, rfl⟩, rfl⟩

end Grammar

variable [Setting] {mode : RenderMode} {after : List Mark} {depth : Nat}

/-- A statement without blocks is read. -/
theorem Stmt.takes_simple {s : Stmt} (h : s.isRegular mode = true) (hsimple : s.isSimple = true)
    (hdepth : (Inks.marks s.inks).length < depth) (hafter : Breaks after) :
    Takes (simpleStatement (deepReaders depth)) (Inks.marks s.inks ++ after) fun t ms' =>
      Statement.Is t s ∧ ms' = after := by
  have hword : ∀ text ∈ simpleWords, (Mark.symbol text).starts < Precedence.test.rank ∧
      text ≠ "*" := by decide
  cases s with
  | importNames names location => exact simpleStatement_import (importStatement_takes h hafter)
  | importFrom module names level location =>
    exact simpleStatement_from (fromStatement_takes h hafter)
  | ret value location => exact returnStatement_takes h hdepth hafter
  | pass location => exact passStatement_takes
  | expr value location =>
    change (value.marksAt .yielding).length < depth at hdepth
    change Takes _ (value.marksAt .yielding ++ after) _
    by_cases hyield : value.strength = .yielding
    · obtain ⟨hnext, htakes⟩ := Expr.takes_yield depth h hyield hafter
      exact yieldStatement_takes hnext htakes
    · rw [Expr.marks_yielding hyield] at hdepth ⊢
      exact simpleStatement_expression (fun text htext =>
        Expr.head_ne h (hword text htext).1 (hword text htext).2 _)
        (expressionStatement_takes h hdepth hafter)
  | assign targets value location =>
    refine simpleStatement_expression (fun text htext => ?_) (assignStatement_takes h hdepth hafter)
    simp only [Stmt.isRegular, Bool.and_eq_true, Expr.areReadable_iff] at h
    obtain ⟨e, es, rfl⟩ := List.exists_cons_of_ne_nil (show targets ≠ [] by
      rintro rfl
      cases h.1.2)
    rw [Stmt.inks, marks_append, marks_commas, commaMarks, List.append_assoc, List.append_assoc]
    exact Expr.head_ne (h.1.1 e List.mem_cons_self) (hword text htext).1 (hword text htext).2 _
  | _ => cases hsimple

/-- A line is read as the statement on it. -/
theorem Statement.takes_line {s : Stmt} {ms : List Mark}
    (h : Takes (simpleStatement (deepReaders depth)) (ms ++ .newline :: after) fun t ms' =>
      Statement.Is t s ∧ ms' = .newline :: after) :
    Takes (simpleStatements (deepReaders depth)) (ms ++ .newline :: after) fun ts ms' =>
      (∃ t, ts = [t] ∧ t.Is s) ∧ ms' = after := by
  have hbreaks : Breaks (.newline :: after) := breaks_cons (by decide) _
  refine h.next fun t ht => ?_
  refine (Takes.many_none (expect_miss (hbreaks.head_ne _)).bind).next_eq ?_
  refine (accept_miss (hbreaks.head_ne _)).next fun _ _ => ?_
  exact newline_takes.past fun _ => .pure ⟨⟨t, rfl, ht⟩, rfl⟩

end Refactory
