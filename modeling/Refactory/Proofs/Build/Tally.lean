import Refactory.Proofs.Build.Count
import Refactory.Proofs.Build.Escapes
import Refactory.Proofs.Rewrite.Visits

/-! # Captures that become nodes

A module holds one node for each construct that was captured on the way, except for those in the fields
of a formatted string that is given up later on and captured whole: their captures are wasted
(`Grammar.Statement.toBlock_tally`). So the count that comes with a module is never below the number of
its captured nodes, and it is above it exactly if a formatted string wasted captures
(`parseSource_counts`), which happens (`parseSource_wasted`). -/

namespace Refactory

open Grammar

/-! ## Captured nodes -/

/-- Whether an expression is kept by its text. -/
def Expr.isCaptured : Expr → Bool
  | .captured .. => true
  | _ => false

/-- Whether a statement is kept by its text. -/
def Stmt.isCaptured : Stmt → Bool
  | .captured .. => true
  | _ => false

/-- How many expressions among several and their sub-expressions are captured. -/
def Expr.capturedIn (es : List Expr) : Nat := (es.flatMap Expr.postorder).countP Expr.isCaptured

/-- How many statements of a block, at any depth, and expressions in them are captured. -/
def Stmt.capturedIn (b : Block) : Nat :=
  (Stmt.nodesIn b).countP Stmt.isCaptured + Expr.capturedIn ((Stmt.nodesIn b).flatMap Stmt.exprs)

/-- How many nodes of a module are captured. -/
def Module.capturedNodes (m : Module) : Nat := Stmt.capturedIn m.body

namespace Expr

@[simp] theorem capturedIn_nil : capturedIn [] = 0 := rfl

@[simp] theorem capturedIn_append (es fs : List Expr) :
    capturedIn (es ++ fs) = capturedIn es + capturedIn fs := by
  rw [capturedIn, List.flatMap_append, List.countP_append, capturedIn, capturedIn]

theorem capturedIn_cons (e : Expr) (es : List Expr) :
    capturedIn (e :: es) = capturedIn [e] + capturedIn es := capturedIn_append [e] es

theorem capturedIn_children {e : Expr} (h : e.isCaptured = false) :
    capturedIn [e] = capturedIn e.children := by
  rw [capturedIn, List.flatMap_singleton, postorder_eq, List.countP_append, List.countP_singleton,
    if_neg (by rw [h]; exact Bool.false_ne_true), Nat.add_zero, capturedIn]

theorem capturedIn_captured (kind : Text) (source : Option Text) :
    capturedIn [.captured kind source] = 1 := by
  rw [capturedIn, List.flatMap_singleton, postorder_eq]
  rfl

end Expr

namespace Stmt

@[simp] theorem capturedIn_nil : capturedIn [] = 0 := rfl

@[simp] theorem capturedIn_append (b c : Block) :
    capturedIn (b ++ c) = capturedIn b + capturedIn c := by
  simp only [capturedIn, nodesIn_append, List.countP_append, List.flatMap_append,
    Expr.capturedIn_append]
  omega

theorem capturedIn_cons (s : Stmt) (b : Block) :
    capturedIn (s :: b) = capturedIn [s] + capturedIn b := capturedIn_append [s] b

theorem capturedIn_singleton (s : Stmt) :
    capturedIn [s] = s.isCaptured.toNat + Expr.capturedIn s.exprs + capturedIn s.blocks.flatten := by
  have hinside : nodesIn s.blocks.flatten = s.blocks.flatMap nodesIn := by
    rw [nodesIn_eq, List.flatten_eq_flatMap, List.flatMap_assoc]
    exact List.flatMap_congr fun b _ => (nodesIn_eq b).symm
  have hnodes : nodesIn [s] = s :: nodesIn s.blocks.flatten := by
    rw [hinside, ← nodes_eq, nodesIn, nodesIn, List.append_nil]
  have hself : (if s.isCaptured = true then 1 else 0) = s.isCaptured.toNat := by
    cases s.isCaptured <;> rfl
  rw [capturedIn, hnodes, List.countP_cons, hself, List.flatMap_cons, Expr.capturedIn_append,
    capturedIn]
  omega

end Stmt

/-! ## Captures and nodes -/

/-- An expression that wasted captures: a formatted string of which fields were captured before it was
given up. -/
def Excerpt.Wastes (x : Excerpt) : Prop :=
  ∃ span parts, x.term = .formatted span parts ∧ Part.capturedEach parts ≠ []

/-- A captured construct that wasted captures. -/
def Capture.Wastes : Capture → Prop
  | .statement _ => False
  | .expression x => x.Wastes

/-- So many nodes are left of several captures: no more than there were, and fewer exactly if one of
them wasted others. -/
structure Tally {γ : Type} (wastes : γ → Prop) (captures : List γ) (nodes : Nat) : Prop where
  le : nodes ≤ captures.length
  lt : nodes < captures.length ↔ ∃ x ∈ captures, wastes x

namespace Tally

variable {γ : Type} {wastes : γ → Prop} {xs ys : List γ} {m n : Nat}

theorem none : Tally wastes [] 0 := ⟨Nat.le_refl 0, by simp⟩

theorem one {x : γ} (h : ¬ wastes x) : Tally wastes [x] 1 := ⟨Nat.le_refl 1, by simpa using h⟩

theorem add (h : Tally wastes xs m) (h' : Tally wastes ys n) : Tally wastes (xs ++ ys) (m + n) := by
  have hle := h.le
  have hle' := h'.le
  refine ⟨by rw [List.length_append]; omega, ?_⟩
  simp only [List.length_append, List.mem_append, or_and_right, exists_or, ← h.lt, ← h'.lt]
  omega

theorem of_eq (h : Tally wastes xs m) (heq : m = n) : Tally wastes xs n := heq ▸ h

theorem expressions {xs : List Excerpt} (h : Tally Excerpt.Wastes xs n) :
    Tally Capture.Wastes (xs.map .expression) n :=
  ⟨by rw [List.length_map]; exact h.le, by simpa [Capture.Wastes] using h.lt⟩

end Tally

/-! ## Expressions -/

theorem capture_ok {o : Origin} {kind : Text} {span : Span} {t : Term} {e : Expr}
    (h : capture o kind span t = .ok e) : ∃ text, e = .captured kind text := by
  unfold capture at h
  dsimp only at h
  split at h
  · cases htext : t.canonicalText with
    | error f =>
      rw [htext] at h
      cases h
    | ok text =>
      rw [htext] at h
      cases h
      exact ⟨_, rfl⟩
  · cases h
    exact ⟨_, rfl⟩

theorem Expr.capturedIn_capture {o : Origin} {kind : Text} {span : Span} {t : Term} {e : Expr}
    (h : capture o kind span t = .ok e) : Expr.capturedIn [e] = 1 := by
  obtain ⟨text, rfl⟩ := capture_ok h
  exact Expr.capturedIn_captured kind text

/-- A captured expression that is no formatted string is one node for one capture. -/
theorem capture_tally {o : Origin} {kind : Text} {span : Span} {t : Term} {e : Expr}
    (h : capture o kind span t = .ok e) (ht : ∀ span parts, t ≠ .formatted span parts) :
    Tally Excerpt.Wastes [⟨span, t⟩] (Expr.capturedIn [e]) := by
  rw [Expr.capturedIn_capture h]
  exact .one fun ⟨span, parts, hformatted, _⟩ => ht span parts hformatted

/-- A formatted string that is given up leaves one node, whatever has been captured in its fields. -/
theorem Tally.given_up {span : Span} {parts : List Grammar.Part} :
    Tally Excerpt.Wastes (Part.capturedEach parts ++ [⟨span, .formatted span parts⟩]) 1 := by
  refine ⟨by simp, ?_⟩
  rw [List.length_append, List.length_singleton, Nat.lt_add_left_iff_pos, List.length_pos_iff]
  constructor
  · exact fun h => ⟨_, List.mem_append_right _ (List.mem_singleton.2 rfl), span, parts, rfl, h⟩
  · rintro ⟨x, hx, span', parts', hterm, hparts⟩ hnil
    rw [hnil, List.nil_append, List.mem_singleton] at hx
    subst hx
    cases hterm
    exact hparts hnil

namespace Grammar

section

variable {o : Origin}

mutual

theorem Term.toExpr_tally : ∀ (t : Term) {e : Expr}, t.toExpr o = .ok e →
    Tally Excerpt.Wastes t.captured (Expr.capturedIn [e])
  | .name _, _, h | .string .., _, h | .number _, _, h | .truth _, _, h | .noneLiteral, _, h => by
    cases h
    rw [Expr.capturedIn_children rfl]
    exact .none
  | .call func args keywords, _, h => by
    obtain ⟨f, hf, h⟩ := bind_ok.1 h
    obtain ⟨as, has, h⟩ := bind_ok.1 h
    obtain ⟨ks, hks, h⟩ := bind_ok.1 h
    cases h
    rw [Expr.capturedIn_children rfl, Expr.children, List.cons_append, Expr.capturedIn_cons,
      Expr.capturedIn_append]
    exact (Term.toExpr_tally func hf).add
      ((Term.toExprs_tally args has).add (Argument.toKeywords_tally keywords hks))
  | .binary left _ right, _, h => by
    obtain ⟨l, hl, h⟩ := bind_ok.1 h
    obtain ⟨r, hr, h⟩ := bind_ok.1 h
    cases h
    rw [Expr.capturedIn_children rfl, Expr.children, Expr.capturedIn_cons]
    exact (Term.toExpr_tally left hl).add (Term.toExpr_tally right hr)
  | .unary _ operand, _, h => by
    obtain ⟨e, he, h⟩ := bind_ok.1 h
    cases h
    rw [Expr.capturedIn_children rfl]
    exact Term.toExpr_tally operand he
  | .logical _ values, _, h => by
    obtain ⟨es, hes, h⟩ := bind_ok.1 h
    cases h
    rw [Expr.capturedIn_children rfl]
    exact Term.toExprs_tally values hes
  | .compare left _ comparators, _, h => by
    obtain ⟨l, hl, h⟩ := bind_ok.1 h
    obtain ⟨es, hes, h⟩ := bind_ok.1 h
    cases h
    rw [Expr.capturedIn_children rfl, Expr.children, Expr.capturedIn_cons]
    exact (Term.toExpr_tally left hl).add (Term.toExprs_tally comparators hes)
  | .attribute value _, _, h => by
    obtain ⟨e, he, h⟩ := bind_ok.1 h
    cases h
    rw [Expr.capturedIn_children rfl]
    exact Term.toExpr_tally value he
  | .subscript span value index, e, h => by
    by_cases hslice : ∃ inner lower upper step, index = .slice inner lower upper step
    · obtain ⟨inner, lower, upper, step, rfl⟩ := hslice
      exact capture_tally h nofun
    · have hindex := fun inner lower upper step h => hslice ⟨inner, lower, upper, step, h⟩
      have hconverted : Term.toExpr o (.subscript span value index) =
          (do return .subscript (← value.toExpr o) (← index.toExpr o)) := by
        rw [Term.toExpr]
        exact hindex
      rw [hconverted] at h
      obtain ⟨v, hv, h⟩ := bind_ok.1 h
      obtain ⟨i, hi, h⟩ := bind_ok.1 h
      cases h
      rw [Expr.capturedIn_children rfl, Expr.children, Expr.capturedIn_cons, Term.captured]
      · exact (Term.toExpr_tally value hv).add (Term.toExpr_tally index hi)
      · exact hindex
  | .starred value, _, h => by
    obtain ⟨e, he, h⟩ := bind_ok.1 h
    cases h
    rw [Expr.capturedIn_children rfl]
    exact Term.toExpr_tally value he
  | .tuple elements, _, h | .list elements, _, h => by
    obtain ⟨es, hes, h⟩ := bind_ok.1 h
    cases h
    rw [Expr.capturedIn_children rfl]
    exact Term.toExprs_tally elements hes
  | .dict keys values, _, h => by
    obtain ⟨ks, hks, h⟩ := bind_ok.1 h
    obtain ⟨vs, hvs, h⟩ := bind_ok.1 h
    cases h
    rw [Expr.capturedIn_children rfl, Expr.children, Expr.capturedIn_append]
    exact (Term.toKeys_tally keys hks).add (Term.toExprs_tally values hvs)
  | .formatted span parts, e, h => by
    obtain ⟨pieces, hpieces, h⟩ := bind_ok.1 h
    have hplain := Part.toPieces_isSome hpieces
    rw [Term.captured, ← hplain]
    cases pieces with
    | none =>
      rw [Expr.capturedIn_capture h]
      exact .given_up
    | some pieces =>
      cases h
      rw [Expr.capturedIn_children rfl, Option.isSome_some, if_pos rfl, List.append_nil]
      exact Part.toPieces_tally parts hpieces
  | .bytes .., _, h | .ellipsis _, _, h | .slice .., _, h | .set .., _, h | .lambda .., _, h
  | .conditional .., _, h | .named .., _, h | .listComp .., _, h | .setComp .., _, h
  | .dictComp .., _, h | .generator .., _, h | .await .., _, h | .yield .., _, h
  | .yieldFrom .., _, h => capture_tally h nofun

theorem Term.toExprs_tally : ∀ (ts : List Term) {es : List Expr}, Term.toExprs o ts = .ok es →
    Tally Excerpt.Wastes (Term.capturedEach ts) (Expr.capturedIn es)
  | [], _, h => by
    cases h
    exact .none
  | t :: rest, _, h => by
    obtain ⟨e, he, h⟩ := bind_ok.1 h
    obtain ⟨es, hes, h⟩ := bind_ok.1 h
    cases h
    rw [Expr.capturedIn_cons]
    exact (Term.toExpr_tally t he).add (Term.toExprs_tally rest hes)

theorem Term.toKeys_tally : ∀ (ts : List (Option Term)) {ks : List (Option Expr)},
    Term.toKeys o ts = .ok ks →
    Tally Excerpt.Wastes (Term.capturedKeys ts) (Expr.capturedIn (ks.filterMap id))
  | [], _, h => by
    cases h
    exact .none
  | none :: rest, _, h => by
    obtain ⟨ks, hks, h⟩ := bind_ok.1 h
    cases h
    rw [List.filterMap_cons]
    exact Term.toKeys_tally rest hks
  | some t :: rest, _, h => by
    obtain ⟨e, he, h⟩ := bind_ok.1 h
    obtain ⟨ks, hks, h⟩ := bind_ok.1 h
    cases h
    rw [List.filterMap_cons]
    dsimp only [id]
    rw [Expr.capturedIn_cons]
    exact (Term.toExpr_tally t he).add (Term.toKeys_tally rest hks)

theorem Argument.toKeywords_tally : ∀ (as : List Argument) {ks : List Keyword},
    Argument.toKeywords o as = .ok ks →
    Tally Excerpt.Wastes (Argument.capturedEach as) (Expr.capturedIn (ks.map Keyword.value))
  | [], _, h => by
    cases h
    exact .none
  | .mk _ value :: rest, _, h => by
    obtain ⟨e, he, h⟩ := bind_ok.1 h
    obtain ⟨ks, hks, h⟩ := bind_ok.1 h
    cases h
    rw [List.map_cons, Expr.capturedIn_cons]
    exact (Term.toExpr_tally value he).add (Argument.toKeywords_tally rest hks)

theorem Part.toPieces_tally : ∀ (ps : List Part) {pieces : List Piece},
    Part.toPieces o ps = .ok (some pieces) →
    Tally Excerpt.Wastes (Part.capturedEach ps) (Expr.capturedIn (pieces.filterMap Piece.value?))
  | [], _, h => by
    cases h
    exact .none
  | .text _ :: rest, _, h => by
    obtain ⟨others, hothers, h⟩ := bind_ok.1 h
    obtain ⟨others, rfl, rfl⟩ := Option.map_eq_some_iff.1 (Except.ok.inj h)
    rw [List.filterMap_cons]
    exact Part.toPieces_tally rest hothers
  | .field value _ none :: rest, _, h => by
    obtain ⟨e, he, h⟩ := bind_ok.1 h
    obtain ⟨others, hothers, h⟩ := bind_ok.1 h
    obtain ⟨others, rfl, rfl⟩ := Option.map_eq_some_iff.1 (Except.ok.inj h)
    rw [List.filterMap_cons, Piece.value?, Expr.capturedIn_cons]
    exact (Term.toExpr_tally value he).add (Part.toPieces_tally rest hothers)
  | .field value _ (some spec) :: rest, _, h => by
    rw [Part.toPieces] at h
    rw [Part.capturedEach]
    cases hspec : plainSpec spec with
    | none =>
      rw [hspec] at h
      cases h
    | some text =>
      rw [hspec] at h
      obtain ⟨e, he, h⟩ := bind_ok.1 h
      obtain ⟨others, hothers, h⟩ := bind_ok.1 h
      obtain ⟨others, rfl, rfl⟩ := Option.map_eq_some_iff.1 (Except.ok.inj h)
      rw [List.filterMap_cons, Piece.value?, Expr.capturedIn_cons]
      exact (Term.toExpr_tally value he).add (Part.toPieces_tally rest hothers)

end

/-! ## Statements -/

theorem Term.toExpr?_tally {t : Option Term} {e : Option Expr} (h : Term.toExpr? o t = .ok e) :
    Tally Excerpt.Wastes (Term.captured? t) (Expr.capturedIn e.toList) := by
  cases t with
  | none =>
    cases h
    exact .none
  | some t =>
    obtain ⟨e, he, h⟩ := bind_ok.1 h
    cases h
    rw [Term.captured?, Option.toList_some, List.flatMap_singleton]
    exact Term.toExpr_tally t he

theorem ParamName.toParam_tally {kind : ParamKind} {default : Option Term} {n : ParamName}
    {p : Param} (h : n.toParam o kind default = .ok p) :
    Tally Excerpt.Wastes (n.captured default) (Expr.capturedIn p.exprs) := by
  cases n with
  | mk name hint =>
    obtain ⟨a, ha, h⟩ := bind_ok.1 h
    obtain ⟨d, hd, h⟩ := bind_ok.1 h
    cases h
    rw [Param.exprs, Expr.capturedIn_append]
    exact (Term.toExpr?_tally ha).add (Term.toExpr?_tally hd)

theorem toParam_each_tally {α : Type} {items : List α} {g : α → Except Fault Param}
    {parts : α → List Excerpt} {ps : List Param} (h : items.mapM g = .ok ps)
    (hitems : ∀ item ∈ items, ∀ p, g item = .ok p →
      Tally Excerpt.Wastes (parts item) (Expr.capturedIn p.exprs)) :
    Tally Excerpt.Wastes (items.flatMap parts) (Expr.capturedIn (ps.flatMap Param.exprs)) := by
  induction items generalizing ps with
  | nil =>
    cases h
    exact .none
  | cons item items ih =>
    rw [List.forall_mem_cons] at hitems
    rw [List.mapM_cons] at h
    obtain ⟨p, hp, h⟩ := bind_ok.1 h
    obtain ⟨ps, hps, h⟩ := bind_ok.1 h
    cases h
    rw [List.flatMap_cons, List.flatMap_cons, Expr.capturedIn_append]
    exact (hitems.1 p hp).add (ih hps hitems.2)

theorem Params.toParams_tally {ps : Params} {params : List Param} (h : ps.toParams o = .ok params) :
    Tally Excerpt.Wastes ps.captured (Expr.capturedIn (params.flatMap Param.exprs)) := by
  obtain ⟨positionalOnly, positional, varPositional, keywordOnly, keywordDefaults, varKeyword,
    defaults⟩ := ps
  obtain ⟨first, hfirst, h⟩ := bind_ok.1 h
  obtain ⟨rest, hrest, h⟩ := bind_ok.1 h
  obtain ⟨keywords, hkeywords, h⟩ := bind_ok.1 h
  obtain ⟨last, hlast, h⟩ := bind_ok.1 h
  cases h
  have hnamed : positionalOnly ++ positional = (positionalOnly.map (·, ParamKind.positionalOnly) ++
      positional.map (·, ParamKind.positional)).map (·.1) := by simp [Function.comp_def]
  rw [Params.captured, hnamed, List.length_map, List.zip_map_left, List.flatMap_map]
  refine (((toParam_each_tally hfirst fun _ _ _ hp => ParamName.toParam_tally hp).add
    ((toParam_each_tally hrest fun _ _ _ hp => ParamName.toParam_tally hp).add
      ((toParam_each_tally hkeywords fun _ _ _ hp => ParamName.toParam_tally hp).add
        (toParam_each_tally hlast fun _ _ _ hp => ParamName.toParam_tally hp)))).of_eq ?_)
  simp only [List.flatMap_append, Expr.capturedIn_append]
  omega

theorem captureStmt_tally {kind : Text} {span : Span} {s : Stmt}
    (h : captureStmt o kind span = .ok s) :
    Tally Capture.Wastes [.statement span] (Stmt.capturedIn [s]) := by
  unfold captureStmt at h
  split at h
  · cases h
  · cases h
    exact (Tally.one id).of_eq rfl

mutual

theorem Statement.toStmt_tally : ∀ (s : Statement) {t : Stmt}, s.toStmt o = .ok t →
    Tally Capture.Wastes s.captured (Stmt.capturedIn [t])
  | .function _ _ _ params returns decorators body, _, h => by
    obtain ⟨ps, hps, h⟩ := bind_ok.1 h
    obtain ⟨block, hblock, h⟩ := bind_ok.1 h
    obtain ⟨rs, hrs, h⟩ := bind_ok.1 h
    obtain ⟨ds, hds, h⟩ := bind_ok.1 h
    cases h
    refine ((Params.toParams_tally hps).expressions.add ((Statement.toBlock_tally body hblock).add
      ((Term.toExpr?_tally hrs).expressions.add (Term.toExprs_tally _ hds).expressions))).of_eq ?_
    simp [Stmt.capturedIn_singleton, Stmt.isCaptured, Stmt.exprs, Stmt.blocks]
    omega
  | .classDef _ _ bases keywords decorators body, _, h => by
    obtain ⟨bs, hbs, h⟩ := bind_ok.1 h
    obtain ⟨block, hblock, h⟩ := bind_ok.1 h
    obtain ⟨ks, hks, h⟩ := bind_ok.1 h
    obtain ⟨ds, hds, h⟩ := bind_ok.1 h
    cases h
    refine ((Term.toExprs_tally _ hbs).expressions.add ((Statement.toBlock_tally body hblock).add
      ((Argument.toKeywords_tally _ hks).expressions.add
        (Term.toExprs_tally _ hds).expressions))).of_eq ?_
    simp [Stmt.capturedIn_singleton, Stmt.isCaptured, Stmt.exprs, Stmt.blocks]
    omega
  | .importNames .., _, h | .importFrom .., _, h | .pass _, _, h => by
    cases h
    exact .none
  | .assign _ [] _, _, h | .assign _ (_ :: _ :: _) _, _, h | .other .., _, h => captureStmt_tally h
  | .assign _ [target] value, _, h => by
    obtain ⟨ts, hts, h⟩ := bind_ok.1 h
    obtain ⟨v, hv, h⟩ := bind_ok.1 h
    cases h
    refine ((Term.toExprs_tally _ hts).expressions.add
      (Term.toExpr_tally value hv).expressions).of_eq ?_
    simp [Stmt.capturedIn_singleton, Stmt.isCaptured, Stmt.exprs, Stmt.blocks]
  | .ret _ value, _, h => by
    obtain ⟨v, hv, h⟩ := bind_ok.1 h
    cases h
    refine (Term.toExpr?_tally hv).expressions.of_eq ?_
    simp [Stmt.capturedIn_singleton, Stmt.isCaptured, Stmt.exprs, Stmt.blocks]
  | .expr _ value, _, h => by
    obtain ⟨v, hv, h⟩ := bind_ok.1 h
    cases h
    refine (Term.toExpr_tally value hv).expressions.of_eq ?_
    simp [Stmt.capturedIn_singleton, Stmt.isCaptured, Stmt.exprs, Stmt.blocks]
  | .tryExcept _ body handlers orelse finalbody, _, h => by
    obtain ⟨b, hb, h⟩ := bind_ok.1 h
    obtain ⟨hs, hhs, h⟩ := bind_ok.1 h
    obtain ⟨e, he, h⟩ := bind_ok.1 h
    obtain ⟨f, hf, h⟩ := bind_ok.1 h
    cases h
    refine ((Statement.toBlock_tally body hb).add ((Catch.toHandlers_tally handlers hhs).add
      ((Statement.toBlock_tally orelse he).add (Statement.toBlock_tally finalbody hf)))).of_eq ?_
    simp [Stmt.capturedIn_singleton, Stmt.isCaptured, Stmt.exprs, Stmt.blocks]
    omega

/-- The captures of a block and the captured nodes that are left of them. -/
theorem Statement.toBlock_tally : ∀ (ss : List Statement) {b : Block},
    Statement.toBlock o ss = .ok b →
    Tally Capture.Wastes (Statement.capturedEach ss) (Stmt.capturedIn b)
  | [], _, h => by
    cases h
    exact .none
  | s :: rest, _, h => by
    obtain ⟨t, ht, h⟩ := bind_ok.1 h
    obtain ⟨b, hb, h⟩ := bind_ok.1 h
    cases h
    rw [Stmt.capturedIn_cons]
    exact (Statement.toStmt_tally s ht).add (Statement.toBlock_tally rest hb)

theorem Catch.toHandlers_tally : ∀ (cs : List Catch) {hs : List Handler},
    Catch.toHandlers o cs = .ok hs → Tally Capture.Wastes (Catch.capturedEach cs)
      (Expr.capturedIn (hs.filterMap Handler.type) + Stmt.capturedIn (hs.map Handler.body).flatten)
  | [], _, h => by
    cases h
    exact .none
  | .mk type name body :: rest, _, h => by
    obtain ⟨t, ht, h⟩ := bind_ok.1 h
    obtain ⟨b, hb, h⟩ := bind_ok.1 h
    obtain ⟨hs, hhs, h⟩ := bind_ok.1 h
    cases h
    refine ((Term.toExpr?_tally ht).expressions.add ((Statement.toBlock_tally body hb).add
      (Catch.toHandlers_tally rest hhs))).of_eq ?_
    have htypes : Expr.capturedIn ((Handler.mk t name b :: hs).filterMap Handler.type) =
        Expr.capturedIn t.toList + Expr.capturedIn (hs.filterMap Handler.type) := by
      rw [List.filterMap_cons, Handler.type]
      cases t with
      | none => exact (Nat.zero_add _).symm
      | some e => exact Expr.capturedIn_cons e _
    rw [htypes, List.map_cons, List.flatten_cons, Handler.body, Stmt.capturedIn_append]
    omega

end

end

end Grammar

/-! ## Whole sources -/

/-- The count of a source that is built is at least the number of captured nodes in the module, and
more exactly if a formatted string in it was given up after something in its fields had been
captured. -/
theorem parseSource_counts {source path : Text} {p : Parsed} (h : parseSource source path = .ok p) :
    ∃ program, readSource source = some program ∧ p.module.capturedNodes ≤ p.captures ∧
      (p.module.capturedNodes < p.captures ↔
        ∃ x, .expression x ∈ Statement.capturedEach program ∧ x.Wastes) := by
  cases hprogram : readSource source with
  | none =>
    rw [parseSource_none hprogram] at h
    cases h
  | some program =>
    obtain ⟨chars, -, hread⟩ := Option.bind_eq_some_iff.1 hprogram
    split at hread
    · cases hread
    · rw [parseSource_some hprogram] at h
      obtain ⟨b, hb, h⟩ := bind_ok.1 h
      cases h
      have htally := Statement.toBlock_tally program hb
      refine ⟨program, rfl, ?_⟩
      dsimp only
      rw [readProgram_captures hread]
      refine ⟨htally.le, htally.lt.trans ⟨?_, ?_⟩⟩
      · rintro ⟨span | x, hx, hwastes⟩
        · exact hwastes.elim
        · exact ⟨x, hx, hwastes⟩
      · rintro ⟨x, hx, hwastes⟩
        exact ⟨_, hx, hwastes⟩

/-- A captured statement, a captured expression, and a formatted string that is kept with a captured
expression in its field. -/
theorem parseSource_counts_sample :
    let source : Text := "del x\ny = lambda: 0\nz = f\"\x7b[a for a in b]\x7d\"\n"
    ∃ p, parseSource source noFile = .ok p ∧ ∃ program, readSource source = some program ∧
      p.module.capturedNodes ≤ p.captures ∧
      (p.module.capturedNodes < p.captures ↔
        ∃ x, .expression x ∈ Statement.capturedEach program ∧ x.Wastes) := by
  intro source
  have hbuilt : (parseSource source noFile).toOption.isSome = true := by decide +kernel
  cases hparse : parseSource source noFile with
  | error f =>
    rw [hparse] at hbuilt
    cases hbuilt
  | ok p => exact ⟨p, rfl, parseSource_counts hparse⟩

/-- The comprehension in the first field is captured before the format of the second field, which holds
a field itself, gives the formatted string up: two captures, one node. -/
theorem parseSource_wasted :
    let source : Text := "f\"\x7b[a for a in b]\x7d\x7bx:\x7by\x7d\x7d\"\n"
    ∃ p, parseSource source noFile = .ok p ∧ p.captures = 2 ∧ p.module.capturedNodes = 1 := by
  intro source
  have hbuilt : (parseSource source noFile).toOption.any (fun p => p.captures == 2 &&
      p.module.capturedNodes == 1) = true := by
    decide +kernel
  cases hparse : parseSource source noFile with
  | error f =>
    rw [hparse] at hbuilt
    cases hbuilt
  | ok p =>
    rw [hparse] at hbuilt
    obtain ⟨hcount, hnodes⟩ := (Bool.and_eq_true _ _).mp hbuilt
    exact ⟨p, rfl, beq_iff_eq.1 hcount, beq_iff_eq.1 hnodes⟩

end Refactory
