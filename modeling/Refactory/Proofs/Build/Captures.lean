import Refactory.Build
import Refactory.Proofs.Grammar.Lines
import Refactory.Proofs.Render.Faults

/-! # What capturing can fail with

`Statement.captured` lists the constructs that the conversion of a statement captures. The conversion
fails exactly if one of them cannot be captured, and then with the fault of one of them
(`Statement.toBlock_blames`). -/

namespace Refactory

open Grammar

/-- An expression that is captured, and where it stands. -/
structure Excerpt where
  span : Span
  term : Term

/-- A construct that is captured. -/
inductive Capture
  | statement (span : Span)
  | expression (excerpt : Excerpt)

/-- An expression cannot be captured: it stands on several lines and has no canonical text. -/
def Excerpt.Fails (source : Text) (x : Excerpt) (f : Fault) : Prop :=
  CodePoint.scalar '\n' ∈ x.span.slice source ∧ x.term.canonicalText = .error f

/-- A construct cannot be captured: it is such an expression, or a statement that begins on a line
which the source does not have. -/
def Capture.Fails (source : Text) : Capture → Fault → Prop
  | .statement span, f => f = .outOfRange ∧ source.lines.length < span.start.line
  | .expression x, f => x.Fails source f

namespace Grammar

/-! ## Constructs that are captured -/

/-- Whether no format holds a field. -/
def Part.arePlain : List Part → Bool
  | [] => true
  | .text _ :: rest | .field _ _ none :: rest => Part.arePlain rest
  | .field _ _ (some spec) :: rest => (plainSpec spec).isSome && Part.arePlain rest

mutual

/-- What the conversion of a term captures, in order. -/
def Term.captured : Term → List Excerpt
  | .name _ | .string .. | .number _ | .truth _ | .noneLiteral => []
  | .call func args keywords =>
    func.captured ++ (Term.capturedEach args ++ Argument.capturedEach keywords)
  | .binary left _ right => left.captured ++ right.captured
  | .unary _ operand => operand.captured
  | .logical _ values => Term.capturedEach values
  | .compare left _ comparators => left.captured ++ Term.capturedEach comparators
  | .attribute value _ => value.captured
  | t@(.subscript span _ (.slice ..)) => [⟨span, t⟩]
  | .subscript _ value index => value.captured ++ index.captured
  | .starred value => value.captured
  | .tuple elements | .list elements => Term.capturedEach elements
  | .dict keys values => Term.capturedKeys keys ++ Term.capturedEach values
  | t@(.formatted span parts) =>
    Part.capturedEach parts ++ if Part.arePlain parts then [] else [⟨span, t⟩]
  | t@(.bytes span _) | t@(.ellipsis span) | t@(.slice span ..) | t@(.set span _)
  | t@(.lambda span ..) | t@(.conditional span ..) | t@(.named span ..) | t@(.listComp span ..)
  | t@(.setComp span ..) | t@(.dictComp span ..) | t@(.generator span ..) | t@(.await span _)
  | t@(.yield span _) | t@(.yieldFrom span _) => [⟨span, t⟩]

/-- What the conversion of several terms captures. -/
def Term.capturedEach : List Term → List Excerpt
  | [] => []
  | t :: rest => t.captured ++ Term.capturedEach rest

/-- What the conversion of terms that can be absent captures. -/
def Term.capturedKeys : List (Option Term) → List Excerpt
  | [] => []
  | none :: rest => Term.capturedKeys rest
  | some t :: rest => t.captured ++ Term.capturedKeys rest

/-- What the conversion of keyword arguments captures. -/
def Argument.capturedEach : List Argument → List Excerpt
  | [] => []
  | .mk _ value :: rest => value.captured ++ Argument.capturedEach rest

/-- What the conversion of the fields of a formatted string captures, up to the first whose format
holds a field. -/
def Part.capturedEach : List Part → List Excerpt
  | [] => []
  | .text _ :: rest => Part.capturedEach rest
  | .field value _ none :: rest => value.captured ++ Part.capturedEach rest
  | .field value _ (some spec) :: rest =>
    if (plainSpec spec).isSome then value.captured ++ Part.capturedEach rest else []

end

/-- What the conversion of an optional term captures. -/
def Term.captured? (t : Option Term) : List Excerpt := t.toList.flatMap Term.captured

/-- What the conversion of a parameter captures. -/
def ParamName.captured (default : Option Term) : ParamName → List Excerpt
  | .mk _ hint => Term.captured? hint ++ Term.captured? default

/-- What the conversion of a parameter list captures. -/
def Params.captured : Params → List Excerpt
  | .mk positionalOnly positional varPositional keywordOnly keywordDefaults varKeyword defaults =>
    let named := positionalOnly ++ positional
    (named.zip (alignDefaults named.length defaults)).flatMap (fun (name, default) =>
      name.captured default) ++
    (varPositional.toList.flatMap (ParamName.captured none) ++
    ((keywordOnly.zip keywordDefaults).flatMap (fun (name, default) => name.captured default) ++
    varKeyword.toList.flatMap (ParamName.captured none)))

mutual

/-- What the conversion of a statement captures, in order. -/
def Statement.captured : Statement → List Capture
  | .function _ _ _ params returns decorators body =>
    params.captured.map .expression ++ (Statement.capturedEach body ++
      ((Term.captured? returns).map .expression ++ (Term.capturedEach decorators).map .expression))
  | .classDef _ _ bases keywords decorators body =>
    (Term.capturedEach bases).map .expression ++ (Statement.capturedEach body ++
      ((Argument.capturedEach keywords).map .expression ++
        (Term.capturedEach decorators).map .expression))
  | .importNames .. | .importFrom .. | .pass _ => []
  | .assign _ [target] value => 
    (Term.capturedEach (assignTargets target)).map .expression ++ value.captured.map .expression
  | .assign span .. | .other span _ => [.statement span]
  | .ret _ value => (Term.captured? value).map .expression
  | .expr _ value => value.captured.map .expression
  | .tryExcept _ body handlers orelse finalbody =>
    Statement.capturedEach body ++ (Catch.capturedEach handlers ++
      (Statement.capturedEach orelse ++ Statement.capturedEach finalbody))

/-- What the conversion of a block captures. -/
def Statement.capturedEach : List Statement → List Capture
  | [] => []
  | s :: rest => s.captured ++ Statement.capturedEach rest

/-- What the conversion of handlers captures. -/
def Catch.capturedEach : List Catch → List Capture
  | [] => []
  | .mk type _ body :: rest =>
    (Term.captured? type).map .expression ++
      (Statement.capturedEach body ++ Catch.capturedEach rest)

end

end Grammar

/-! ## Faults -/

/-- A result fails exactly if one of several things has a fault, and then with such a fault. -/
def BlamesAny {α γ : Type} (F : γ → Fault → Prop) (xs : List γ) (r : Except Fault α) : Prop :=
  Blames (fun f => ∃ x ∈ xs, F x f) r

namespace BlamesAny

variable {α β γ : Type} {F : γ → Fault → Prop} {xs ys : List γ} {r : Except Fault α}

theorem ok (a : α) : BlamesAny F [] (.ok a) := fun f hf => by simp at hf

theorem bind_of {next : α → Except Fault β} (h : BlamesAny F xs r)
    (hnext : ∀ a, r = .ok a → BlamesAny F ys (next a)) : BlamesAny F (xs ++ ys) (r >>= next) := by
  cases r with
  | error f =>
    obtain ⟨x, hx, hf⟩ := h
    exact ⟨x, List.mem_append_left ys hx, hf⟩
  | ok a =>
    refine Blames.congr (hnext a rfl) fun f => ?_
    have hnone : ¬ ∃ x ∈ xs, F x f := h f
    simp only [List.mem_append, or_and_right, exists_or, hnone, false_or]

theorem bind {next : α → Except Fault β} (h : BlamesAny F xs r)
    (hnext : ∀ a, BlamesAny F ys (next a)) : BlamesAny F (xs ++ ys) (r >>= next) :=
  h.bind_of fun a _ => hnext a

/-- What is done with the result of a part that can fail cannot fail itself. -/
theorem last {g : α → β} (h : BlamesAny F xs r) : BlamesAny F xs (do return g (← r)) :=
  Blames.last h fun _ => ⟨_, rfl⟩

theorem mapM {δ : Type} {items : List δ} {g : δ → Except Fault α} {parts : δ → List γ}
    (h : ∀ item ∈ items, BlamesAny F (parts item) (g item)) :
    BlamesAny F (items.flatMap parts) (items.mapM g) := by
  induction items with
  | nil => exact ok []
  | cons item items ih =>
    rw [List.forall_mem_cons] at h
    rw [List.mapM_cons, List.flatMap_cons]
    exact h.1.bind fun _ => (ih h.2).last

end BlamesAny

section

variable {source : Text}

/-- An expression in a statement is blamed as it is by itself. -/
theorem BlamesAny.expressions {α : Type} {xs : List Excerpt} {r : Except Fault α}
    (h : BlamesAny (Excerpt.Fails source) xs r) :
    BlamesAny (Capture.Fails source) (xs.map .expression) r :=
  Blames.congr h fun f => by simp [Capture.Fails]

/-! ## Expressions -/

theorem capture_blames (kind : Text) (span : Span) (t : Term) :
    BlamesAny (Excerpt.Fails source) [⟨span, t⟩] (capture (.ofText source) kind span t) := by
  unfold capture
  dsimp only [Origin.ofText]
  split_ifs with hlines
  · have hmem := List.contains_iff_mem.1 hlines
    cases htext : t.canonicalText with
    | error f => exact ⟨_, List.mem_singleton.2 rfl, hmem, htext⟩
    | ok text =>
      refine (Blames.ok _).congr fun f => ?_
      simp [Excerpt.Fails, htext]
  · refine (Blames.ok _).congr fun f => ?_
    simp only [List.mem_singleton, exists_eq_left, Excerpt.Fails, false_iff]
    exact fun hfails => hlines (List.contains_iff_mem.2 hfails.1)

theorem Grammar.Part.toPieces_isSome {o : Origin} {parts : List Part} {pieces : Option (List Piece)}
    (h : Part.toPieces o parts = .ok pieces) : pieces.isSome = Part.arePlain parts := by
  induction parts generalizing pieces with
  | nil => cases h; rfl
  | cons p rest ih =>
    obtain _ | ⟨value, conversion, _ | spec⟩ := p
    · obtain ⟨others, hothers, hx⟩ := bind_ok.1 h
      cases hx
      rw [Option.isSome_map, ih hothers, Part.arePlain]
    · obtain ⟨v, -, h⟩ := bind_ok.1 h
      obtain ⟨others, hothers, hx⟩ := bind_ok.1 h
      cases hx
      rw [Option.isSome_map, ih hothers, Part.arePlain]
    · rw [Part.toPieces] at h
      cases hspec : plainSpec spec with
      | none =>
        rw [hspec] at h
        cases h
        rw [Part.arePlain, hspec]
        rfl
      | some text =>
        rw [hspec] at h
        obtain ⟨v, -, h⟩ := bind_ok.1 h
        obtain ⟨others, hothers, hx⟩ := bind_ok.1 h
        cases hx
        rw [Option.isSome_map, ih hothers, Part.arePlain, hspec, Option.isSome_some, Bool.true_and]

mutual

theorem Grammar.Term.toExpr_blames :
    ∀ t : Term, BlamesAny (Excerpt.Fails source) t.captured (t.toExpr (.ofText source))
  | .name _ | .string .. | .number _ | .truth _ | .noneLiteral => .ok _
  | .call func args keywords =>
    (Term.toExpr_blames func).bind fun _ => (Term.toExprs_blames args).bind fun _ =>
      (Argument.toKeywords_blames keywords).last
  | .binary left _ right => (Term.toExpr_blames left).bind fun _ => (Term.toExpr_blames right).last
  | .unary _ operand => (Term.toExpr_blames operand).last
  | .logical _ values => (Term.toExprs_blames values).last
  | .compare left _ comparators =>
    (Term.toExpr_blames left).bind fun _ => (Term.toExprs_blames comparators).last
  | .attribute value _ => (Term.toExpr_blames value).last
  | .subscript span value index => by
    by_cases hslice : ∃ inner lower upper step, index = .slice inner lower upper step
    · obtain ⟨inner, lower, upper, step, rfl⟩ := hslice
      exact capture_blames _ _ _
    · have hindex := fun inner lower upper step h => hslice ⟨inner, lower, upper, step, h⟩
      rw [Term.captured, Term.toExpr]
      · exact (Term.toExpr_blames value).bind fun _ => (Term.toExpr_blames index).last
      · exact hindex
      · exact hindex
  | .starred value => (Term.toExpr_blames value).last
  | .tuple elements => (Term.toExprs_blames elements).last
  | .list elements => (Term.toExprs_blames elements).last
  | .dict keys values =>
    (Term.toKeys_blames keys).bind fun _ => (Term.toExprs_blames values).last
  | .formatted span parts => by
    rw [Term.captured, Term.toExpr]
    refine (Part.toPieces_blames parts).bind_of fun pieces hpieces => ?_
    rw [← Part.toPieces_isSome hpieces]
    cases pieces with
    | none => exact capture_blames _ _ _
    | some pieces => exact .ok _
  | .bytes .. | .ellipsis _ | .slice .. | .set .. | .lambda .. | .conditional .. | .named ..
  | .listComp .. | .setComp .. | .dictComp .. | .generator .. | .await .. | .yield ..
  | .yieldFrom .. => capture_blames _ _ _

theorem Grammar.Term.toExprs_blames : ∀ ts : List Term,
    BlamesAny (Excerpt.Fails source) (Term.capturedEach ts) (Term.toExprs (.ofText source) ts)
  | [] => .ok _
  | t :: rest => (Term.toExpr_blames t).bind fun _ => (Term.toExprs_blames rest).last

theorem Grammar.Term.toKeys_blames : ∀ ts : List (Option Term),
    BlamesAny (Excerpt.Fails source) (Term.capturedKeys ts) (Term.toKeys (.ofText source) ts)
  | [] => .ok _
  | none :: rest => (Term.toKeys_blames rest).last
  | some t :: rest => (Term.toExpr_blames t).bind fun _ => (Term.toKeys_blames rest).last

theorem Grammar.Argument.toKeywords_blames : ∀ ks : List Argument,
    BlamesAny (Excerpt.Fails source) (Argument.capturedEach ks)
      (Argument.toKeywords (.ofText source) ks)
  | [] => .ok _
  | .mk _ value :: rest =>
    (Term.toExpr_blames value).bind fun _ => (Argument.toKeywords_blames rest).last

theorem Grammar.Part.toPieces_blames : ∀ ps : List Part,
    BlamesAny (Excerpt.Fails source) (Part.capturedEach ps) (Part.toPieces (.ofText source) ps)
  | [] => .ok _
  | .text _ :: rest => (Part.toPieces_blames rest).last
  | .field value _ none :: rest =>
    (Term.toExpr_blames value).bind fun _ => (Part.toPieces_blames rest).last
  | .field value _ (some spec) :: rest => by
    rw [Part.capturedEach, Part.toPieces]
    cases plainSpec spec with
    | none => exact .ok _
    | some text => exact (Term.toExpr_blames value).bind fun _ => (Part.toPieces_blames rest).last

end

/-! ## Statements -/

theorem Grammar.Term.toExpr?_blames (t : Option Term) :
    BlamesAny (Excerpt.Fails source) (Term.captured? t) (Term.toExpr? (.ofText source) t) := by
  cases t with
  | none => exact .ok _
  | some t =>
    rw [Term.captured?, Option.toList_some, List.flatMap_singleton]
    exact (Term.toExpr_blames t).last

theorem Grammar.ParamName.toParam_blames (kind : ParamKind) (default : Option Term) (n : ParamName) :
    BlamesAny (Excerpt.Fails source) (n.captured default)
      (n.toParam (.ofText source) kind default) := by
  cases n with
  | mk name hint => exact (Term.toExpr?_blames hint).bind fun _ => (Term.toExpr?_blames default).last

theorem Grammar.Params.toParams_blames (ps : Params) :
    BlamesAny (Excerpt.Fails source) ps.captured (ps.toParams (.ofText source)) := by
  obtain ⟨positionalOnly, positional, varPositional, keywordOnly, keywordDefaults, varKeyword,
    defaults⟩ := ps
  rw [Params.captured, Params.toParams]
  refine BlamesAny.bind ?_ fun _ => BlamesAny.bind (BlamesAny.mapM fun n _ => n.toParam_blames _ _)
    fun _ => BlamesAny.bind (BlamesAny.mapM fun n _ => n.1.toParam_blames _ _) fun _ =>
      (BlamesAny.mapM fun n _ => n.toParam_blames _ _).last
  have hnamed : positionalOnly ++ positional = (positionalOnly.map (·, ParamKind.positionalOnly) ++
      positional.map (·, ParamKind.positional)).map (·.1) := by simp [Function.comp_def]
  rw [hnamed, List.length_map, List.zip_map_left, List.flatMap_map]
  exact BlamesAny.mapM fun n _ => n.1.1.toParam_blames _ _

/-- Capturing a statement fails if it begins on a line that the source does not have. -/
theorem captureStmt_blames (kind : Text) (span : Span) :
    BlamesAny (Capture.Fails source) [.statement span] (captureStmt (.ofText source) kind span) := by
  have hlines : source.lines.length = _ + 1 := Text.length_splitOn _ source
  unfold captureStmt
  dsimp only [Origin.ofText]
  split
  · rename_i hnone
    have hle := List.getElem?_eq_none_iff.1 hnone
    exact ⟨_, List.mem_singleton.2 rfl, rfl, by omega⟩
  · rename_i hsome
    obtain ⟨hlt, -⟩ := List.getElem?_eq_some_iff.1 hsome
    refine (Blames.ok _).congr fun f => ?_
    simp only [List.mem_singleton, exists_eq_left, Capture.Fails, false_iff]
    exact fun hfails => by omega

mutual

theorem Grammar.Statement.toStmt_blames :
    ∀ s : Statement, BlamesAny (Capture.Fails source) s.captured (s.toStmt (.ofText source))
  | .function _ _ _ params returns decorators body =>
    (Params.toParams_blames params).expressions.bind fun _ =>
      (Statement.toBlock_blames body).bind fun _ =>
        (Term.toExpr?_blames returns).expressions.bind fun _ =>
          (Term.toExprs_blames decorators).expressions.last
  | .classDef _ _ bases keywords decorators body =>
    (Term.toExprs_blames bases).expressions.bind fun _ =>
      (Statement.toBlock_blames body).bind fun _ =>
        (Argument.toKeywords_blames keywords).expressions.bind fun _ =>
          (Term.toExprs_blames decorators).expressions.last
  | .importNames .. | .importFrom .. | .pass _ => .ok _
  | .assign _ [] _ | .assign _ (_ :: _ :: _) _ | .other .. => captureStmt_blames _ _
  | .assign _ [target] value =>
    (Term.toExprs_blames (assignTargets target)).expressions.bind fun _ =>
      (Term.toExpr_blames value).expressions.last
  | .ret _ value => (Term.toExpr?_blames value).expressions.last
  | .expr _ value => (Term.toExpr_blames value).expressions.last
  | .tryExcept _ body handlers orelse finalbody =>
    (Statement.toBlock_blames body).bind fun _ => (Catch.toHandlers_blames handlers).bind fun _ =>
      (Statement.toBlock_blames orelse).bind fun _ => (Statement.toBlock_blames finalbody).last

/-- The conversion of a block fails exactly if something in it cannot be captured. -/
theorem Grammar.Statement.toBlock_blames : ∀ ss : List Statement,
    BlamesAny (Capture.Fails source) (Statement.capturedEach ss)
      (Statement.toBlock (.ofText source) ss)
  | [] => .ok _
  | s :: rest => (Statement.toStmt_blames s).bind fun _ => (Statement.toBlock_blames rest).last

theorem Grammar.Catch.toHandlers_blames : ∀ hs : List Catch,
    BlamesAny (Capture.Fails source) (Catch.capturedEach hs) (Catch.toHandlers (.ofText source) hs)
  | [] => .ok _
  | .mk type _ body :: rest =>
    (Term.toExpr?_blames type).expressions.bind fun _ =>
      (Statement.toBlock_blames body).bind fun _ => (Catch.toHandlers_blames rest).last

end

end

end Refactory
