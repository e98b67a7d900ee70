import Refactory.Proofs.Build.Parameters
import Refactory.Proofs.Grammar.Sentence
import Refactory.Proofs.Render.Layout
import Refactory.Proofs.Render.Marks

/-! # Statements as marks and gaps

`Stmt.heads` are the lines of a statement without those of its blocks, as marks and gaps: the lines that
are written for statements that have a form of their own (`Stmt.isRegular`) are what they spell. -/

namespace Refactory

open Grammar Inks

/-! ## Regular statements -/

/-- Whether a text is names in normal form with dots between them. -/
def Text.isDotted (t : Text) : Bool := (t.splitOn '.').all Text.isNormalName

/-- Whether an alias names a module and what it is bound to. -/
def Alias.isRegular (a : Alias) : Bool := a.name.isDotted && a.asName.all Text.isNormalName

/-- The alias that stands for everything in a module. -/
def Alias.everything : Alias := ⟨"*", none⟩

/-- Whether aliases can be those of an import from a module: one for everything, or names without
dots. -/
def Alias.areMembers (names : List Alias) : Bool :=
  names == [Alias.everything] || names.all fun a => a.isRegular && a.name.isNormalName

mutual

/-- Whether an expression can be assigned to. -/
def Expr.isTarget : Expr → Bool
  | .name _ | .attribute .. | .subscript .. => true
  | .captured kind _ => kind == Text.ofString "Slice"
  | .tuple elements | .list elements => Expr.areTargets elements
  | .starred value => !value.isStarred && value.isTarget
  | _ => false

/-- Whether all expressions can be assigned to. -/
def Expr.areTargets : List Expr → Bool
  | [] => true
  | e :: es => e.isTarget && Expr.areTargets es

end

/-- Whether expressions are the targets of an assignment: those of a tuple stand one by one. -/
def Expr.areUnpacked : List Expr → Bool
  | [] | [.tuple (_ :: _ :: _)] => false
  | targets => Expr.areTargets targets

/-- Whether a parameter takes the rest of the arguments of a sort. -/
def ParamKind.isRest : ParamKind → Bool
  | .varPositional | .varKeyword => true
  | _ => false

/-- Whether a parameter by itself can be read back: an annotation can have a star behind a star, and
what takes the rest of the arguments has no default. -/
def Param.isRegular (mode : RenderMode) (p : Param) : Bool :=
  p.name.isNormalName && p.hint.all (Expr.isReadable mode (p.kind == .varPositional)) &&
    p.default.all (Expr.isReadable mode false) && !(p.kind.isRest && p.default.isSome)

/-- Whether arguments can reach a parameter by position. -/
def ParamKind.isPositional : ParamKind → Bool
  | .positionalOnly | .positional => true
  | _ => false

/-- Whether a parameter can stand before another: by their kinds, and because a positional one behind
one that has a default has a default as well. -/
def Param.Precedes (p q : Param) : Prop :=
  p.kind.Before q.kind ∧
    (q.kind.isPositional = true → p.default.isSome = true → q.default.isSome = true)

instance : DecidableRel ParamKind.Before := fun k l => by unfold ParamKind.Before; infer_instance

instance : DecidableRel Param.Precedes := fun p q => by unfold Param.Precedes; infer_instance

/-- Whether a decorator can be read back: a `yield` by itself is none, and no parentheses are put around
it. -/
def Expr.isDecorator (mode : RenderMode) (d : Expr) : Bool :=
  d.isReadable mode false && d.strength != .yielding

/-- Whether a function definition without its body can be read back. -/
def FunctionHead.isRegular (mode : RenderMode) (f : FunctionHead) : Bool :=
  f.name.isNormalName && f.params.all (Param.isRegular mode) &&
    decide (f.params.Pairwise Param.Precedes) && f.returns.all (Expr.isReadable mode false) &&
      f.decorators.all (Expr.isDecorator mode)

/-- Whether a class definition without its body can be read back. -/
def ClassHead.isRegular (mode : RenderMode) (c : ClassHead) : Bool :=
  c.name.isNormalName && Expr.areReadable mode true c.bases && Keyword.areReadable mode c.keywords &&
    c.decorators.all (Expr.isDecorator mode)

/-- Whether a handler can be read back: one that catches everything binds no name. -/
def Handler.isRegular (mode : RenderMode) : Handler → Bool
  | .mk none name body => name.isNone && !body.isEmpty
  | .mk (some type) name body =>
    type.isReadable mode false && name.all Text.isNormalName && !body.isEmpty

/-- Whether a captured source can be read back wherever a statement of its kind can stand. -/
def Text.isSentence (source kind : Text) : Bool :=
  match source.chars? with
  | some word => Sentence kind word
  | none => false

/-- Whether a statement by itself, the statements of its blocks left out, can be read back. -/
def Stmt.isRegular (mode : RenderMode) : Stmt → Bool
  | .function head body _ => head.isRegular mode && !body.isEmpty
  | .classDef head body _ => head.isRegular mode && !body.isEmpty
  | .importNames names _ => !names.isEmpty && names.all Alias.isRegular
  | .importFrom module names level _ =>
    module.all Text.isDotted && 0 ≤ level && !(level == 0 && module.isNone) && !names.isEmpty &&
      Alias.areMembers names
  | .assign targets value _ =>
    Expr.areReadable mode true targets && Expr.areUnpacked targets && value.isReadable mode true
  | .ret value _ => value.all (Expr.isReadable mode true)
  | .pass _ => true
  | .expr value _ => value.isReadable mode true
  | .tryExcept body handlers orelse finalbody _ =>
    !body.isEmpty && handlers.all (Handler.isRegular mode) &&
      (!handlers.isEmpty || orelse.isEmpty && !finalbody.isEmpty)
  | .captured kind (some source) _ => mode = .passthrough && source.isSentence kind
  | .captured _ none _ | .foreign _ => false

/-- Whether a statement has a form of its own on one line. -/
def Stmt.isSimple : Stmt → Bool
  | .importNames .. | .importFrom .. | .assign .. | .ret .. | .pass _ | .expr .. => true
  | _ => false

/-! ## Lines -/

/-- Names with dots between them. -/
def Text.inks (t : Text) : List Ink :=
  Inks.join [.symbol "."] ((t.splitOn '.').map fun part => [.mark (.name part)])

/-- A name that something is bound to. -/
def boundInks : Option Text → List Ink
  | none => []
  | some id => [.gap, .symbol "as", .gap, .mark (.name id)]

/-- An alias as marks and gaps. -/
def Alias.inks (a : Alias) : List Ink := a.name.inks ++ boundInks a.asName

/-- What an import takes from a module. -/
def Alias.memberInks (names : List Alias) : List Ink :=
  if names = [Alias.everything] then [.symbol "*"] else commas (names.map Alias.inks)

/-- The dots in front of a relative import: three of them are one mark. -/
def levelInks (level : Nat) : List Ink :=
  List.replicate (level / 3) (.symbol "...") ++ List.replicate (level % 3) (.symbol ".")

/-- An annotation behind its colon. -/
def hintInks : Option Expr → List Ink
  | none => []
  | some a => .symbol ":" :: .gap :: a.inksAt .test

/-- A default behind its sign, which has blanks around it behind an annotation. -/
def defaultInks (hinted : Bool) : Option Expr → List Ink
  | none => []
  | some d =>
    if hinted then .gap :: .symbol "=" :: .gap :: d.inksAt .test else .symbol "=" :: d.inksAt .test

/-- A parameter without its stars. -/
def Param.inks (p : Param) : List Ink :=
  .mark (.name p.name) :: (hintInks p.hint ++ defaultInks p.hint.isSome p.default)

/-- The items of a parameter list, with a slash behind positional-only parameters and a star in front of
keyword-only ones. -/
def Param.inksEach (sawStar : Bool) : List Param → List (List Ink)
  | [] => []
  | p :: ps =>
    let slash : List (List Ink) :=
      if p.kind = .positionalOnly && (ps.head?.map (·.kind)) ≠ some .positionalOnly then
        [[.symbol "/"]]
      else []
    match p.kind with
    | .varPositional => (.symbol "*" :: p.inks) :: Param.inksEach true ps
    | .varKeyword => (.symbol "**" :: p.inks) :: Param.inksEach sawStar ps
    | .keywordOnly =>
      (if sawStar then [] else [[.symbol "*"]]) ++ p.inks :: Param.inksEach true ps
    | _ => p.inks :: slash ++ Param.inksEach sawStar ps

/-- A decorator. -/
def decoratorInks (d : Expr) : List Ink := .symbol "@" :: d.inksAt .named

/-- What a function gives, behind its arrow. -/
def returnInks : Option Expr → List Ink
  | none => []
  | some r => .gap :: .symbol "->" :: .gap :: r.inksAt .test

/-- A parameter list in its parentheses. -/
def paramInks (ps : List Param) : List Ink :=
  .symbol "(" :: (commas (Param.inksEach false ps) ++ [.symbol ")"])

/-- The line of a function definition above its body. -/
def FunctionHead.inks (f : FunctionHead) : List Ink :=
  (if f.isAsync then [.symbol "async", .gap] else []) ++ .symbol "def" :: .gap ::
    .mark (.name f.name) :: (paramInks f.params ++ returnInks f.returns ++ [.symbol ":"])

/-- The arguments of a class definition, without parentheses if there are none. -/
def baseInks (bases : List Expr) (keywords : List Keyword) : List Ink :=
  match bases.map (Expr.inksAt .test) ++ keywords.map Keyword.inks with
  | [] => []
  | items => .symbol "(" :: (commas items ++ [.symbol ")"])

/-- The line of a class definition above its body. -/
def ClassHead.inks (c : ClassHead) : List Ink :=
  .symbol "class" :: .gap :: .mark (.name c.name) ::
    (baseInks c.bases c.keywords ++ [.symbol ":"])

/-- The line of a handler above its body. -/
def Handler.inks : Handler → List Ink
  | .mk none _ _ => [.symbol "except", .symbol ":"]
  | .mk (some type) name _ =>
    .symbol "except" :: .gap :: (type.inksAt .test ++ boundInks name ++ [.symbol ":"])

/-- The line with which a statement begins, behind its decorators. -/
def Stmt.inks : Stmt → List Ink
  | .function head _ _ => head.inks
  | .classDef head _ _ => head.inks
  | .importNames names _ => .symbol "import" :: .gap :: commas (names.map Alias.inks)
  | .importFrom module names level _ =>
    .symbol "from" :: .gap :: (levelInks level.toNat ++ (module.elim [] Text.inks ++
      .gap :: .symbol "import" :: .gap :: Alias.memberInks names))
  | .assign targets value _ =>
    commas (targets.map (Expr.inksAt .test)) ++ .gap :: .symbol "=" :: .gap ::
      value.inksAt .yielding
  | .ret none _ => [.symbol "return"]
  | .ret (some value) _ => .symbol "return" :: .gap :: value.inksAt .test
  | .pass _ => [.symbol "pass"]
  | .expr value _ => value.inksAt .yielding
  | .tryExcept .. => [.symbol "try", .symbol ":"]
  | .captured kind (some source) _ => [.mark (.captured kind (source.filterMap CodePoint.char?))]
  | .captured _ none _ | .foreign _ => []

/-- The lines of a statement without those of its blocks and the words in front of these. -/
def Stmt.heads : Stmt → List (List Ink)
  | .function head _ _ => head.decorators.map decoratorInks ++ [head.inks]
  | .classDef head _ _ => head.decorators.map decoratorInks ++ [head.inks]
  | .tryExcept _ handlers _ _ _ => handlers.map Handler.inks
  | s => [s.inks]

/-! ## Spelling -/

section

variable {mode : RenderMode}

theorem Text.text_inks {t : Text} (h : t.isDotted = true) : text t.inks = t := by
  rw [Text.isDotted, List.all_eq_true] at h
  have hparts : ((t.splitOn '.').map fun part => [Ink.mark (.name part)]).map text =
      t.splitOn '.' := by
    rw [List.map_map]
    refine (List.map_congr_left fun part hpart => ?_).trans (List.map_id _)
    rw [Function.comp_apply, text_name (h part hpart), text_nil, List.append_nil]
    rfl
  rw [Text.inks, text_join, hparts]
  exact Text.join_splitOn _ _

/-- A name has no dot in it. -/
theorem Text.splitOn_name {id : Text} (h : id.isNormalName = true) : id.splitOn '.' = [id] := by
  refine Text.splitOn_of_not_mem fun hdot => ?_
  obtain ⟨word, rfl, hbindable, -⟩ := Text.isNormalName_eq h
  rw [Text.isBindable, Bool.and_eq_true] at hbindable
  have hidentifier := hbindable.1
  cases word with
  | nil => cases hdot
  | cons c word =>
    rw [Text.ofChars, List.map_cons, Text.isIdentifier, Bool.and_eq_true,
      List.all_eq_true] at hidentifier
    have hnot : ∀ p : CodePoint → Bool, p (CodePoint.scalar '.') = false → ∀ c, p c = true →
        CodePoint.scalar '.' ≠ c := by
      rintro p hp c hc rfl
      cases hc.symm.trans hp
    rcases List.mem_cons.1 hdot with heq | hmem
    · exact hnot CodePoint.beginsIdentifier (by decide +kernel) _ hidentifier.1 heq
    · exact hnot CodePoint.continuesIdentifier (by decide +kernel) _ (hidentifier.2 _ hmem) rfl

theorem Text.ne_nil_of_dotted {t : Text} (h : t.isDotted = true) : t ≠ [] := by
  rintro rfl
  cases h

theorem text_bound {name : Option Text} (h : name.all Text.isNormalName = true) :
    text (boundInks name) = match name.getD [] with
      | [] => []
      | n => " as " ++ n := by
  cases name with
  | none => rfl
  | some id =>
    have hid : id.isNormalName = true := h
    cases id with
    | nil => cases hid
    | cons c rest =>
      simp only [boundInks, text_gap, text_symbol, text_name hid, text_nil, List.append_nil,
        Option.getD_some]
      rfl

theorem Alias.render_eq {a : Alias} (h : a.isRegular = true) : a.render = text a.inks := by
  rw [Alias.isRegular, Bool.and_eq_true] at h
  rw [Alias.inks, text_append, Text.text_inks h.1, text_bound h.2, Alias.render]
  cases a.asName.getD [] with
  | nil => exact (List.append_nil _).symm
  | cons c rest => exact List.append_assoc _ _ _

theorem aliases_eq {names : List Alias} (h : names.all Alias.isRegular = true) :
    Text.join ", " (names.map Alias.render) = text (commas (names.map Alias.inks)) := by
  rw [List.all_eq_true] at h
  rw [text_commas, List.map_map]
  exact congrArg _ (List.map_congr_left fun a ha => Alias.render_eq (h a ha))

theorem members_eq {names : List Alias} (h : Alias.areMembers names = true) :
    Text.join ", " (names.map Alias.render) = text (Alias.memberInks names) := by
  unfold Alias.memberInks
  split_ifs with hall
  · rw [hall]
    rfl
  · rw [Alias.areMembers, Bool.or_eq_true, beq_iff_eq, List.all_eq_true] at h
    exact aliases_eq (List.all_eq_true.2 fun a ha =>
      (Bool.and_eq_true _ _ ▸ h.resolve_left hall a ha).1)

theorem text_level (level : Nat) : text (levelInks level) = Text.times level "." := by
  have hrun : ∀ (symbol : String) (n k : Nat), Text.ofString symbol = Text.times k "." →
      text (List.replicate n (.symbol symbol)) = Text.times (k * n) "." := by
    intro symbol n k hsymbol
    induction n with
    | zero => rfl
    | succ n ih =>
      rw [List.replicate_succ, text_symbol, ih, hsymbol, ← times_add]
      congr 1
      rw [Nat.mul_succ, Nat.add_comm]
  rw [levelInks, text_append, hrun "..." _ 3 rfl, hrun "." _ 1 rfl, ← times_add]
  congr 1
  omega

theorem Param.render_eq {p : Param} (h : p.isRegular mode = true) :
    p.render mode = .ok (text p.inks) := by
  obtain ⟨name, kind, hint, default⟩ := p
  simp only [Param.isRegular, Bool.and_eq_true] at h
  obtain ⟨⟨⟨hname, hhint⟩, hdefault⟩, -⟩ := h
  have hplain {e : Expr} {star : Bool} (he : e.isReadable mode star = true) :
      place .test (e.render mode .double) = .ok (text (e.inksAt .test)) :=
    (e.rendered mode star he).place .test
  cases hint with
  | none =>
    cases default with
    | none => simp [Param.render, Param.inks, hintInks, defaultInks, text_name hname, bind,
        Except.bind, pure, Except.pure]
    | some d =>
      simp [Param.render, Param.inks, hintInks, defaultInks, text_name hname, hplain hdefault, bind,
        Except.bind, pure, Except.pure]
  | some a =>
    cases default with
    | none =>
      simp [Param.render, Param.inks, hintInks, defaultInks, text_name hname, hplain hhint, bind,
        Except.bind, pure, Except.pure]
      rfl
    | some d =>
      simp [Param.render, Param.inks, hintInks, defaultInks, text_name hname, hplain hhint,
        hplain hdefault, bind, Except.bind, pure, Except.pure]
      rfl

theorem paramItems_eq {ps : List Param} (h : ps.all (Param.isRegular mode) = true) (sawStar : Bool) :
    paramItems mode sawStar ps = ((Param.inksEach sawStar ps).map text).map .ok := by
  induction ps generalizing sawStar with
  | nil => rfl
  | cons p ps ih =>
    rw [List.all_cons, Bool.and_eq_true] at h
    have hp : p.render mode = _ := Param.render_eq h.1
    have hrest := ih h.2
    rw [paramItems, Param.inksEach]
    cases hkind : p.kind with
    | varPositional => simp [hp, hrest, Except.map]
    | varKeyword => simp [hp, hrest, Except.map]
    | keywordOnly => cases sawStar <;> simp [hp, hrest]
    | positional => simp [hp, hrest]
    | positionalOnly =>
      simp only [hp, hrest]
      split_ifs <;> simp

theorem Expr.isDecorator_iff {d : Expr} : d.isDecorator mode = true ↔
    d.isReadable mode false = true ∧ d.strength ≠ .yielding := by
  rw [Expr.isDecorator, Bool.and_eq_true, bne_iff_ne]

theorem decoratorLines_eq {ds : List Expr} (h : ∀ d ∈ ds, d.isDecorator mode = true) :
    decoratorLines mode [] ds = .ok (ds.map fun d => text (decoratorInks d)) := by
  rw [decoratorLines, ← inOrder_ok, List.map_map]
  refine congrArg _ (List.map_congr_left fun d hd => ?_)
  rw [(d.rendered mode false (Expr.isDecorator_iff.1 (h d hd)).1).place .named, Function.comp_apply, decoratorInks, text_symbol]
  rfl

theorem FunctionHead.are_decorators {f : FunctionHead} (h : f.isRegular mode = true) :
    ∀ d ∈ f.decorators, d.isDecorator mode = true := by
  simp only [FunctionHead.isRegular, Bool.and_eq_true, List.all_eq_true] at h
  exact h.2

theorem ClassHead.are_decorators {c : ClassHead} (h : c.isRegular mode = true) :
    ∀ d ∈ c.decorators, d.isDecorator mode = true := by
  simp only [ClassHead.isRegular, Bool.and_eq_true, List.all_eq_true] at h
  exact h.2

theorem FunctionHead.render_eq {f : FunctionHead} (h : f.isRegular mode = true) :
    f.render mode [] = .ok (f.decorators.map (fun d => text (decoratorInks d)) ++ [text f.inks]) := by
  simp only [FunctionHead.isRegular, Bool.and_eq_true] at h
  obtain ⟨⟨⟨⟨hname, hparams⟩, -⟩, hreturns⟩, hdecorators⟩ := h
  rw [FunctionHead.render, decoratorLines_eq (List.all_eq_true.1 hdecorators), paramItems_eq hparams,
    inOrder_ok]
  cases hr : f.returns with
  | none =>
    cases hasync : f.isAsync <;>
      simp [FunctionHead.inks, paramInks, hr, hasync, text_name hname, text_commas, returnInks, bind,
        Except.bind, pure, Except.pure] <;> rfl
  | some r =>
    rw [hr] at hreturns
    have hplace := (r.rendered mode false hreturns).place .test
    cases hasync : f.isAsync <;>
      simp [FunctionHead.inks, paramInks, hr, hasync, text_name hname, text_commas, hplace,
        returnInks, bind, Except.bind, pure, Except.pure] <;> rfl

theorem ClassHead.render_eq {c : ClassHead} (h : c.isRegular mode = true) :
    c.render mode [] = .ok (c.decorators.map (fun d => text (decoratorInks d)) ++ [text c.inks]) := by
  simp only [ClassHead.isRegular, Bool.and_eq_true] at h
  obtain ⟨⟨⟨hname, hbases⟩, hkeywords⟩, hdecorators⟩ := h
  have hbases : c.bases.map (fun b => place .test (b.render mode .double)) =
      (c.bases.map fun b => text (b.inksAt .test)).map .ok := by
    rw [Expr.areReadable_iff] at hbases
    rw [List.map_map]
    exact List.map_congr_left fun b hb => (b.rendered mode true (hbases b hb)).place .test
  have hkeywords := Expr.renderKeywords_eq (fun k hk =>
    k.value.rendered mode false (Keyword.areReadable_iff.1 hkeywords k hk).1) hkeywords
  have hitems : c.bases.map (fun b => text (b.inksAt .test)) ++
      c.keywords.map (fun k => text k.inks) =
        (c.bases.map (Expr.inksAt .test) ++ c.keywords.map Keyword.inks).map text := by
    simp [Function.comp_def]
  rw [ClassHead.render, decoratorLines_eq (List.all_eq_true.1 hdecorators), hbases, hkeywords,
    inOrder_ok, inOrder_ok]
  simp only [bind, Except.bind, pure, Except.pure, hitems]
  rw [ClassHead.inks, baseInks]
  cases c.bases.map (Expr.inksAt .test) ++ c.keywords.map Keyword.inks with
  | nil => simp [text_name hname]; rfl
  | cons x xs => simp [text_name hname, text_commas]; rfl

theorem Handler.head_eq {h : Handler} (hregular : h.isRegular mode = true) :
    handlerHead mode [] h = .ok (text h.inks) := by
  obtain ⟨type, name, body⟩ := h
  cases type with
  | none => rfl
  | some type =>
    simp only [Handler.isRegular, Bool.and_eq_true] at hregular
    obtain ⟨⟨htype, hname⟩, -⟩ := hregular
    have hplace := (type.rendered mode false htype).place .test
    rw [handlerHead]
    simp only [Handler.type, Handler.name, hplace, Handler.inks, text_symbol, text_gap, text_append,
      text_bound hname, text_nil, bind, Except.bind, pure, Except.pure, List.append_assoc,
      List.append_nil, List.nil_append]
    rfl

theorem importSource_eq {module : Option Text} (level : Int)
    (h : module.all Text.isDotted = true) :
    importSource module level = text (levelInks level.toNat ++ module.elim [] Text.inks) := by
  rw [importSource, text_append, text_level]
  cases module with
  | none => rfl
  | some m => exact congrArg _ (Text.text_inks h).symm

/-- A relative import may leave out the module, an absolute one may not. -/
theorem importSource_ne_nil {module : Option Text} {level : Int}
    (h : module.all Text.isDotted = true) (hlevel : 0 ≤ level)
    (hsome : level ≠ 0 ∨ module.isNone = false) : importSource module level ≠ [] := by
  cases module with
  | none =>
    have hpos : 0 < level.toNat := by
      have hzero : level ≠ 0 := hsome.resolve_right Bool.noConfusion
      omega
    obtain ⟨n, hn⟩ := Nat.exists_eq_add_one_of_ne_zero (Nat.ne_of_gt hpos)
    rw [importSource, hn]
    exact List.cons_ne_nil _ _
  | some m =>
    rw [importSource]
    exact List.append_ne_nil_of_right_ne_nil _ (Text.ne_nil_of_dotted h)

theorem Stmt.ownLines_importFrom {module : Option Text} {names : List Alias} {level : Int}
    {location : Option Location}
    (h : (Stmt.importFrom module names level location).isRegular mode = true) (d : Nat) :
    (Stmt.importFrom module names level location).ownLines mode d =
      .ok [Text.times (4 * d) " " ++ text (Stmt.importFrom module names level location).inks] := by
  simp only [Stmt.isRegular, Bool.and_eq_true, decide_eq_true_iff, Bool.not_eq_true',
    Bool.and_eq_false_iff, beq_eq_false_iff_ne] at h
  obtain ⟨⟨⟨⟨hmodule, hlevel⟩, hsome⟩, -⟩, hnames⟩ := h
  have htext : text (Stmt.importFrom module names level location).inks =
      Text.ofString "from" ++ (Text.ofString " " ++ (importSource module level ++
        (Text.ofString " " ++ (Text.ofString "import" ++ (Text.ofString " " ++
          text (Alias.memberInks names)))))) := by
    rw [Stmt.inks, ← List.append_assoc]
    simp only [text_symbol, text_gap, text_append, importSource_eq level hmodule, List.append_assoc]
  obtain ⟨c, rest, hsource⟩ :=
    List.exists_cons_of_ne_nil (importSource_ne_nil hmodule hlevel hsome)
  rw [Stmt.ownLines, members_eq hnames, htext, hsource, levelPad_natCast]
  simp
  rfl

theorem Stmt.ownLines_assign {targets : List Expr} {value : Expr} {location : Option Location}
    (h : (Stmt.assign targets value location).isRegular mode = true) (d : Nat) :
    (Stmt.assign targets value location).ownLines mode d =
      .ok [Text.times (4 * d) " " ++ text (Stmt.assign targets value location).inks] := by
  simp only [Stmt.isRegular, Bool.and_eq_true, Expr.areReadable_iff] at h
  have htargets : targets.map (fun t => place .test (t.render mode .double)) =
      (targets.map fun t => text (t.inksAt .test)).map .ok := by
    rw [List.map_map]
    exact List.map_congr_left fun t ht => (t.rendered mode true (h.1.1 t ht)).place .test
  rw [Stmt.ownLines, htargets, inOrder_ok, (value.rendered mode true h.2).place .yielding]
  simp [Stmt.inks, levelPad_natCast, text_commas, bind, Except.bind, pure, Except.pure,
    Function.comp_def]
  rfl

/-- A captured statement that can be read back is repeated. -/
theorem Stmt.captured_cases {kind : Text} {source : Option Text} {location : Option Location}
    (h : (Stmt.captured kind source location).isRegular mode = true) :
    mode = .passthrough ∧ ∃ word, source = some (Text.ofChars word) ∧ Sentence kind word := by
  cases source with
  | none => cases h
  | some source =>
    rw [Stmt.isRegular, Bool.and_eq_true, decide_eq_true_iff, Text.isSentence] at h
    obtain ⟨hmode, hsource⟩ := h
    split at hsource
    · rename_i word hword
      exact ⟨hmode, word, by rw [Text.chars?_eq hword], decide_eq_true_iff.1 hsource⟩
    · cases hsource

/-- Where no string is open, a line adds no row of a string. -/
theorem Source.Scan.line_rows {s s' : Source.Scan} {row : Nat} {line : Text} (hopened : s.opened = none)
    (h : s.line row line = some s') : s'.rows = s.rows := by
  rw [Source.Scan.line, hopened] at h
  dsimp only at h
  split at h
  · split at h
    · cases h
      rfl
    · split at h
      · cases h
        rfl
      · obtain ⟨levels, -, rfl⟩ := Option.map_eq_some_iff.1 h
        rfl
  · cases h
    rfl

theorem Source.continuationRows_line {t : Text} (h : t.OneLine) : Source.continuationRows t = [] := by
  have hlines : t.lines = [t] := Text.splitOn_of_not_mem h
  have hends : Source.linesWithEnds t = if t.isEmpty then [] else [t] := by
    rw [Source.linesWithEnds, hlines]
    rfl
  rw [Source.continuationRows, hends]
  split_ifs
  · rfl
  · rw [Source.scanLines]
    cases hline : Source.Scan.line {} 1 t with
    | none => rfl
    | some s =>
      have hrows : s.rows = [] := Source.Scan.line_rows rfl hline
      dsimp only
      rw [Source.scanLines]
      split_ifs
      · exact congrArg List.reverse hrows
      · rfl

/-- A text on one line is indented as such, if there is something on it. -/
theorem Source.indentSource_line {t : Text} (h : t.OneLine) (hblank : t.isBlank = false) (pad : Text) :
    Source.indentSource t pad = [pad ++ t] := by
  have hlines : t.lines = [t] := Text.splitOn_of_not_mem h
  rw [Source.indentSource, Source.continuationRows_line h, hlines, Source.indentFrom, hblank]
  rfl

theorem Grammar.Snippet.oneLine {word : List Char} (h : Snippet word) : (Text.ofChars word).OneLine := by
  intro hmem
  obtain ⟨c, hc, heq⟩ := List.mem_map.1 hmem
  cases heq
  exact absurd (h.printable _ hc) (by decide)

theorem Stmt.ownLines_captured {kind : Text} {word : List Char} {location : Option Location}
    (h : Sentence kind word) (d : Nat) :
    (Stmt.captured kind (some (Text.ofChars word)) location).ownLines .passthrough d =
      .ok [Text.times (4 * d) " " ++ Text.ofChars word] := by
  cases word with
  | nil => exact (Nat.lt_irrefl 0 h.length_pos).elim
  | cons c word =>
    have hfirst := (h.first c rfl).1
    simp only [isInkChar, Bool.and_eq_true, Bool.not_eq_true'] at hfirst
    have hblank : (Text.ofChars (c :: word)).isBlank = false :=
      Bool.and_eq_false_iff.2 (.inl hfirst.1.1)
    rw [← levelPad_natCast, ← Source.indentSource_line h.oneLine hblank]
    rfl

/-- A statement without blocks is one line. -/
theorem Stmt.ownLines_regular {s : Stmt} (h : s.isRegular mode = true) (hblocks : s.blocks = [])
    (d : Nat) : s.ownLines mode d = .ok [Text.times (4 * d) " " ++ text s.inks] := by
  cases s with
  | function head body location | classDef head body location => cases hblocks
  | tryExcept body handlers orelse finalbody location => cases hblocks
  | foreign kind => cases h
  | captured kind source location =>
    obtain ⟨rfl, word, rfl, hword⟩ := Stmt.captured_cases h
    rw [Stmt.ownLines_captured hword, Stmt.inks, filterMap_char_ofChars, text_cons, text_nil,
      List.append_nil]
    rfl
  | pass location => rw [Stmt.ownLines, levelPad_natCast]; rfl
  | importNames names location =>
    rw [Stmt.isRegular, Bool.and_eq_true] at h
    rw [Stmt.ownLines, aliases_eq h.2, Stmt.inks, text_symbol, text_gap, levelPad_natCast]
    exact congrArg (Except.ok [·]) (List.append_assoc _ _ _)
  | importFrom module names level location => exact Stmt.ownLines_importFrom h d
  | assign targets value location => exact Stmt.ownLines_assign h d
  | ret value location =>
    cases value with
    | none => rw [Stmt.ownLines, levelPad_natCast]; rfl
    | some value =>
      rw [Stmt.ownLines, (value.rendered mode true h).place .test, Stmt.inks, text_symbol, text_gap,
        levelPad_natCast]
      exact congrArg (Except.ok [·]) (List.append_assoc _ _ _)
  | expr value location =>
    rw [Stmt.ownLines, (value.rendered mode true h).place .yielding, Stmt.inks, levelPad_natCast]
    rfl

end

end Refactory
