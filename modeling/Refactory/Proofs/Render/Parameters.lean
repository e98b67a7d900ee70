import Refactory.Proofs.Build.Parameters
import Refactory.Proofs.Render.Faults
import Refactory.Proofs.Render.Ink

/-! # Parameter lists that are written

`readParams` reads the items of a parameter list by the rules of the language: a slash makes the names
in front of it positional-only, a star or a starred name makes later names keyword-only, and a name
behind two stars takes the other keyword arguments. How an expression is read is left open. What is
written for parameters in the order of their kinds is read back to their names and kinds and to which of
them have an annotation and a default (`paramItems_read`); with the order in which parameters are built
this is `params_survive`.

The language rejects some lists that are read here: those with a positional parameter without a default
behind one that has one, those in which a name comes twice, and those with a default behind a starred
name. What is written for them is read back as they are all the same. -/

namespace Refactory

open Grammar

/-! ## Reading a parameter -/

/-- What a parameter list shows of a parameter: its name, its kind, and whether it has an annotation
and a default. -/
structure ParamShape where
  name : Text
  kind : ParamKind
  hasHint : Bool
  hasDefault : Bool
deriving DecidableEq

/-- What is shown of a parameter that is taken to be of some kind. -/
def Param.shapeAs (p : Param) (kind : ParamKind) : ParamShape :=
  ⟨p.name, kind, p.hint.isSome, p.default.isSome⟩

/-- What is shown of a parameter. -/
def Param.shape (p : Param) : ParamShape := p.shapeAs p.kind

section

variable (expr : Text → Option Text)

/-- Whether an annotation comes next, and what stands behind it. -/
def readHint : Text → Option (Bool × Text)
  | CodePoint.scalar ':' :: rest => (expr rest).map (true, ·)
  | rest => some (false, rest)

/-- Whether a default comes next, with which the item has to end. -/
def readDefault (rest : Text) : Option Bool :=
  match rest.dropWhile (· = CodePoint.scalar ' ') with
  | [] => some false
  | CodePoint.scalar '=' :: value => if expr value = some [] then some true else none
  | _ => none

/-- A parameter of a kind without its stars: a name, an annotation behind a colon and a default
behind an equals sign. Names are the same when their normal forms are. -/
def readParam (kind : ParamKind) (item : Text) : Option ParamShape := do
  let name : Text := item.take 1 ++ (item.drop 1).takeWhile CodePoint.continuesIdentifier
  let word ← name.chars?
  if !name.isBindable then none
  let (hasHint, rest) ← readHint expr (item.drop name.length)
  let hasDefault ← readDefault expr rest
  return ⟨Text.ofChars (compatibleForm word), kind, hasHint, hasDefault⟩

/-! ## Reading a list -/

/-- A parameter list as far as it has been read: the parameters, whether there was a slash, whether there
was a star, whether a star without a name still waits for a parameter, and whether there was a name
behind two stars. -/
structure ParamsRead where
  params : List ParamShape := []
  slash : Bool := false
  star : Bool := false
  bare : Bool := false
  closed : Bool := false

/-- Names that turn out to stand in front of a slash. -/
def positionalOnly (params : List ParamShape) : List ParamShape :=
  params.map ({ · with kind := .positionalOnly })

/-- Reads an item. -/
def ParamsRead.take (r : ParamsRead) (item : Text) : Option ParamsRead :=
  if r.closed then none
  else if item = "/" then
    if r.slash || r.star || r.params.isEmpty then none
    else some { r with params := positionalOnly r.params, slash := true }
  else if item = "*" then
    if r.star then none else some { r with star := true, bare := true }
  else
    match (item.takeWhile (· = CodePoint.scalar '*')).length with
    | 0 => (readParam expr (if r.star then .keywordOnly else .positional) item).map fun p =>
      { r with params := r.params ++ [p], bare := false }
    | 1 =>
      if r.star then none
      else (readParam expr .varPositional (item.drop 1)).map fun p =>
        { r with params := r.params ++ [p], star := true }
    | 2 => (readParam expr .varKeyword (item.drop 2)).map fun p =>
      { r with params := r.params ++ [p], closed := true }
    | _ => none

/-- Reads the items of a parameter list. -/
def readParams (items : List Text) : Option (List ParamShape) := do
  let r ← items.foldlM (ParamsRead.take expr) {}
  if r.bare then none else some r.params

/-- A text is read as an expression, with a blank in front of it or without, if nothing stands behind it
or an equals sign. -/
def ReadsText (t : Text) : Prop :=
  ∀ lead : Text, lead = [] ∨ lead = " " → ∀ rest : Text, rest = [] ∨ (∃ d, rest = " = " ++ d) →
    expr (lead ++ t ++ rest) = some rest

end

/-! ## Writing a parameter -/

section

variable {mode : RenderMode} {expr : Text → Option Text}

/-- The texts of what a parameter holds are read. -/
def Param.Reads (mode : RenderMode) (expr : Text → Option Text) (p : Param) : Prop :=
  ∀ e ∈ p.exprs, ∀ t, place .test (e.render mode .double) = .ok t → ReadsText expr t

/-- A name ends in front of an annotation, in front of a default and at the end. -/
theorem take_name {name : Text} (h : name.isIdentifier = true) {rest : Text}
    (hrest : ∀ c ∈ rest.head?, c = ':' ∨ c = '=') :
    (name ++ rest).take 1 ++ ((name ++ rest).drop 1).takeWhile CodePoint.continuesIdentifier =
      name := by
  cases name with
  | nil => cases h
  | cons c name =>
    rw [Text.isIdentifier, Bool.and_eq_true, List.all_eq_true] at h
    have hnone : rest.takeWhile CodePoint.continuesIdentifier = [] := by
      cases rest with
      | nil => rfl
      | cons d rest =>
        refine List.takeWhile_cons_of_neg ?_
        obtain rfl | rfl := hrest d rfl <;> decide +kernel
    change c :: (name ++ rest).takeWhile CodePoint.continuesIdentifier = c :: name
    rw [List.takeWhile_append_of_pos h.2, hnone, List.append_nil]

/-- Behind the name stand the annotation and the default, which are found where they are. -/
theorem Param.render_fields {p : Param} (hreads : p.Reads mode expr) {t : Text}
    (h : p.render mode = .ok t) : ∃ rest middle : Text, t = p.name ++ rest ∧
      (∀ c ∈ rest.head?, c = ':' ∨ c = '=') ∧
      readHint expr rest = some (p.hint.isSome, middle) ∧
      readDefault expr middle = some p.default.isSome := by
  obtain ⟨name, kind, hint, default⟩ := p
  cases hint with
  | none =>
    cases default with
    | none =>
      cases h
      exact ⟨[], [], by simp, nofun, rfl, rfl⟩
    | some d =>
      obtain ⟨_, hhint, h⟩ := bind_ok.1 h
      cases hhint
      obtain ⟨value, hvalue, h⟩ := bind_ok.1 h
      cases h
      have hread := hreads d (by simp [exprs]) value hvalue [] (.inl rfl) [] (.inl rfl)
      rw [List.nil_append, List.append_nil] at hread
      exact ⟨"=" ++ value, "=" ++ value, by simp, fun c hc => .inr (Option.some.inj hc).symm, rfl,
        if_pos hread⟩
  | some a =>
    cases default with
    | none =>
      obtain ⟨text, htext, h⟩ := bind_ok.1 h
      cases h
      have hread := hreads a (by simp [exprs]) text htext " " (.inr rfl) [] (.inl rfl)
      rw [List.append_nil] at hread
      exact ⟨": " ++ text, [], by simp, fun c hc => .inl (Option.some.inj hc).symm,
        congrArg (Option.map (true, ·)) hread, rfl⟩
    | some d =>
      obtain ⟨text, htext, h⟩ := bind_ok.1 h
      obtain ⟨_, hhint, h⟩ := bind_ok.1 h
      cases hhint
      obtain ⟨value, hvalue, h⟩ := bind_ok.1 h
      cases h
      have hread := hreads a (by simp [exprs]) text htext " " (.inr rfl) (" = " ++ value)
        (.inr ⟨value, rfl⟩)
      have hread' := hreads d (by simp [exprs]) value hvalue " " (.inr rfl) [] (.inl rfl)
      rw [List.append_nil] at hread'
      exact ⟨": " ++ text ++ (" = " ++ value), " = " ++ value, by simp,
        fun c hc => .inl (Option.some.inj hc).symm, congrArg (Option.map (true, ·)) hread,
        if_pos hread'⟩

/-- A parameter that is written is read as what is shown of it, of whatever kind. -/
theorem Param.render_read {p : Param} (hname : p.name.isNormalName = true)
    (hreads : p.Reads mode expr) {t : Text} (h : p.render mode = .ok t) (kind : ParamKind) :
    readParam expr kind t = some (p.shapeAs kind) := by
  obtain ⟨rest, middle, rfl, hrest, hhint, hdefault⟩ := p.render_fields hreads h
  unfold Text.isNormalName at hname
  split at hname
  · rename_i word hword
    rw [Bool.and_eq_true, beq_iff_eq] at hname
    obtain ⟨hbindable, hnormal⟩ := hname
    have hidentifier : p.name.isIdentifier = true := ((Bool.and_eq_true _ _).mp hbindable).1
    rw [readParam]
    dsimp only
    rw [take_name hidentifier hrest, List.drop_left, hword, hbindable]
    simp only [Bool.not_true, Bool.false_eq_true, if_false, hhint, hdefault, Option.bind_eq_bind,
      Option.bind_some]
    rw [hnormal, ← Text.chars?_eq hword]
    rfl
  · cases hname

/-- What is written for a parameter begins with a letter, so that the stars in front of it can be told,
and it is no mark of a list. -/
theorem Param.render_starred {p : Param} (hname : p.name.isNormalName = true)
    (hreads : p.Reads mode expr) {t : Text} (h : p.render mode = .ok t) (n : Nat) :
    let item : Text := List.replicate n (CodePoint.scalar '*') ++ t
    item ≠ "/" ∧ item ≠ "*" ∧ (item.takeWhile (· = CodePoint.scalar '*')).length = n ∧
      item.drop n = t := by
  obtain ⟨rest, -, rfl, -⟩ := p.render_fields hreads h
  obtain ⟨word, -, hbindable, -⟩ := Text.isNormalName_eq hname
  have hidentifier : p.name.isIdentifier = true := ((Bool.and_eq_true _ _).mp hbindable).1
  cases hword : p.name with
  | nil =>
    rw [hword] at hidentifier
    cases hidentifier
  | cons c tail =>
    rw [hword] at hidentifier
    have hbegins : c.beginsIdentifier = true := ((Bool.and_eq_true _ _).mp hidentifier).1
    have hmem : c ∈ List.replicate n (CodePoint.scalar '*') ++ (c :: tail ++ rest) :=
      List.mem_append_right _ List.mem_cons_self
    have hstar : c ≠ CodePoint.scalar '*' := by
      rintro rfl
      exact absurd hbegins (by decide +kernel)
    have hslash : c ≠ CodePoint.scalar '/' := by
      rintro rfl
      exact absurd hbegins (by decide +kernel)
    refine ⟨fun heq => ?_, fun heq => ?_, ?_, List.drop_left' List.length_replicate⟩
    · rw [heq] at hmem
      exact hslash (List.mem_singleton.1 hmem)
    · rw [heq] at hmem
      exact hstar (List.mem_singleton.1 hmem)
    · rw [List.takeWhile_append_of_pos (by simp), List.cons_append,
        List.takeWhile_cons_of_neg (by simpa using hstar), List.append_nil, List.length_replicate]

/-! ## Writing a list -/

namespace ParamsRead

variable {r : ParamsRead} {p : Param} {ps : List Param} {t : Text}

theorem take_one {r' : ParamsRead} {item : Text} (h : r.take expr item = some r') :
    [item].foldlM (take expr) r = some r' := by
  rw [List.foldlM_cons, h]
  rfl

theorem take_two {r₁ r₂ : ParamsRead} {item₁ item₂ : Text} (h : r.take expr item₁ = some r₁)
    (h' : r₁.take expr item₂ = some r₂) : [item₁, item₂].foldlM (take expr) r = some r₂ := by
  rw [List.foldlM_cons, h]
  exact take_one h'

theorem take_slash (hclosed : r.closed = false) (hslash : r.slash = false) (hstar : r.star = false)
    (hparams : r.params ≠ []) : r.take expr "/" =
      some { r with params := positionalOnly r.params, slash := true } := by
  rw [take, hclosed, hslash, hstar, List.isEmpty_eq_false_iff.2 hparams]
  rfl

theorem take_bare (hclosed : r.closed = false) (hstar : r.star = false) :
    r.take expr "*" = some { r with star := true, bare := true } := by
  rw [take, hclosed, hstar]
  rfl

section

variable (hclosed : r.closed = false) (hname : p.name.isNormalName = true)
  (hreads : p.Reads mode expr) (ht : p.render mode = .ok t)

include hclosed hname hreads ht

theorem take_plain {k : ParamKind} (hkind : (if r.star then .keywordOnly else .positional) = k) :
    r.take expr t = some { r with params := r.params ++ [p.shapeAs k], bare := false } := by
  obtain ⟨hslash, hstar, hlength, -⟩ := Param.render_starred hname hreads ht 0
  rw [List.replicate_zero, List.nil_append] at hslash hstar hlength
  rw [take, hclosed, if_neg Bool.false_ne_true, if_neg hslash, if_neg hstar, hlength]
  rw [hkind, Param.render_read hname hreads ht]
  rfl

theorem take_starred (hunstarred : r.star = false) : r.take expr ("*" ++ t) =
    some { r with params := r.params ++ [p.shapeAs .varPositional], star := true } := by
  obtain ⟨hslash, hstar, hlength, hdrop⟩ := Param.render_starred hname hreads ht 1
  change r.take expr (List.replicate 1 (CodePoint.scalar '*') ++ t) = _
  rw [take, hclosed, if_neg Bool.false_ne_true, if_neg hslash, if_neg hstar, hlength]
  rw [hunstarred, if_neg Bool.false_ne_true, hdrop, Param.render_read hname hreads ht]
  rfl

theorem take_double : r.take expr ("**" ++ t) =
    some { r with params := r.params ++ [p.shapeAs .varKeyword], closed := true } := by
  obtain ⟨hslash, hstar, hlength, hdrop⟩ := Param.render_starred hname hreads ht 2
  change r.take expr (List.replicate 2 (CodePoint.scalar '*') ++ t) = _
  rw [take, hclosed, if_neg Bool.false_ne_true, if_neg hslash, if_neg hstar, hlength]
  rw [hdrop, Param.render_read hname hreads ht]
  rfl

end

/-- What has been read agrees with the parameters that are still to be written: a star has been read if
one was written, and then only names that are passed by keyword follow; positional-only names follow
only if there was no slash, and nothing follows two stars. -/
structure Ready (r : ParamsRead) (sawStar : Bool) (ps : List Param) : Prop where
  star : r.star = sawStar
  bare : r.bare = false
  closed : r.closed = true → ps = []
  slash : r.slash = true → ∀ q ∈ ps, q.kind ≠ .positionalOnly
  later : sawStar = true → ∀ q ∈ ps, ParamKind.varPositional.rank < q.kind.rank

/-- The parameters that have been read, with the kinds that they have in view of what follows: in front
of positional-only names, a slash is still to come. -/
def settled (r : ParamsRead) (ps : List Param) : List ParamShape :=
  if ps.head?.map Param.kind = some .positionalOnly then positionalOnly r.params else r.params

theorem settled_cons (hkind : p.kind ≠ .positionalOnly) : r.settled (p :: ps) = r.params :=
  if_neg fun h => hkind (Option.some.inj h)

/-- No slash is to come behind a parameter that is not positional-only. -/
theorem settled_later (hbefore : ∀ q ∈ ps, p.kind.Before q.kind) (hkind : p.kind ≠ .positionalOnly) :
    r.settled ps = r.params := by
  refine if_neg fun h => ?_
  obtain ⟨q, hq, hnext⟩ := Option.map_eq_some_iff.1 h
  have hbefore := hbefore q (List.mem_of_mem_head? hq)
  rw [hnext] at hbefore
  exact hkind (ParamKind.before_positionalOnly.1 hbefore)

namespace Ready

variable {sawStar : Bool}

theorem unclosed (h : r.Ready sawStar (p :: ps)) : r.closed = false := by
  by_contra hclosed
  cases h.closed (Bool.not_eq_false _ ▸ hclosed)

/-- No star was read in front of a parameter that can be passed by position. -/
theorem unstarred (h : r.Ready sawStar (p :: ps))
    (hrank : p.kind.rank ≤ ParamKind.varPositional.rank) : sawStar = false := by
  by_contra hstar
  exact Nat.not_lt.2 hrank (h.later (Bool.not_eq_false _ ▸ hstar) p List.mem_cons_self)

/-- Behind a parameter there is nothing to see to but the marks that come with it. -/
theorem next (h : r.Ready sawStar (p :: ps)) {r' : ParamsRead} {sawStar' : Bool}
    (hstar : r'.star = sawStar') (hbare : r'.bare = false)
    (hclosed : r'.closed = true → r.closed = true ∨ ps = [])
    (hslash : r'.slash = true → r.slash = true ∨ ∀ q ∈ ps, q.kind ≠ .positionalOnly)
    (hlater : sawStar' = true →
      sawStar = true ∨ ∀ q ∈ ps, ParamKind.varPositional.rank < q.kind.rank) :
    r'.Ready sawStar' ps where
  star := hstar
  bare := hbare
  closed hr := (hclosed hr).elim (fun hr => nomatch h.closed hr) id
  slash hr := (hslash hr).elim (fun hr => (List.forall_mem_cons.1 (h.slash hr)).2) id
  later hsaw := (hlater hsaw).elim (fun hsaw => (List.forall_mem_cons.1 (h.later hsaw)).2) id

end Ready

end ParamsRead

theorem map_ok {x : Except Fault Text} {f : Text → Text} {item : Text} (h : x.map f = .ok item) :
    ∃ t, x = .ok t ∧ f t = item := by
  cases x with
  | error e => cases h
  | ok t => exact ⟨t, rfl, Except.ok.inj h⟩

theorem inOrder_cons_ok {part : Except Fault Text} {parts : List (Except Fault Text)}
    {items : List Text} (h : inOrder (part :: parts) = .ok items) :
    ∃ t rest, part = .ok t ∧ inOrder parts = .ok rest ∧ items = t :: rest := by
  rw [inOrder, List.mapM_cons] at h
  obtain ⟨t, ht, h⟩ := bind_ok.1 h
  obtain ⟨rest, hrest, h⟩ := bind_ok.1 h
  cases h
  exact ⟨t, rest, ht, hrest, rfl⟩

/-- A parameter is read from its items as it is, and the reader is then where it has to be for the items
of the others. -/
def ParamsRead.Passes (mode : RenderMode) (expr : Text → Option Text) (r : ParamsRead) (p : Param)
    (ps : List Param) (items : List Text) : Prop :=
  ∃ own rest sawStar r', items = own ++ rest ∧ inOrder (paramItems mode sawStar ps) = .ok rest ∧
    own.foldlM (ParamsRead.take expr) r = some r' ∧ r'.Ready sawStar ps ∧
    r'.settled ps = r.settled (p :: ps) ++ [p.shape]

section

variable {p : Param} {ps : List Param} {r : ParamsRead} {sawStar : Bool} {items : List Text}
  (hordered : KindOrdered (p :: ps)) (hname : p.name.isNormalName = true)
  (hreads : p.Reads mode expr) (hready : r.Ready sawStar (p :: ps))
  (hitems : inOrder (paramItems mode sawStar (p :: ps)) = .ok items)

include hordered hname hreads hready hitems

/-- A positional-only parameter is read as a positional one until the slash comes, which stands behind
the last of them. -/
theorem paramItems_positionalOnly (hkind : p.kind = .positionalOnly) :
    r.Passes mode expr p ps items := by
  obtain rfl : sawStar = false := hready.unstarred (by rw [hkind]; decide)
  have hcons : r.settled (p :: ps) = positionalOnly r.params := if_pos (congrArg some hkind)
  have hshape : positionalOnly (r.params ++ [p.shapeAs .positional]) =
      positionalOnly r.params ++ [p.shape] := by
    rw [Param.shape, hkind, positionalOnly, List.map_append]
    rfl
  have htake (t : Text) (ht : p.render mode = .ok t) :=
    ParamsRead.take_plain (k := .positional) hready.unclosed hname hreads ht
      (by rw [hready.star]; rfl)
  rw [paramItems, hkind] at hitems
  rw [ParamsRead.Passes, hcons, ← hshape]
  by_cases hnext : ps.head?.map Param.kind = some .positionalOnly
  · rw [hnext] at hitems
    obtain ⟨t, rest, ht, hrest, rfl⟩ := inOrder_cons_ok hitems
    exact ⟨[t], rest, false, _, rfl, hrest, ParamsRead.take_one (htake t ht),
      hready.next hready.star rfl .inl .inl .inl, if_pos hnext⟩
  · have hmark : (decide (ParamKind.positionalOnly = .positionalOnly) &&
        decide (ps.head?.map Param.kind ≠ some .positionalOnly)) = true := by
      rw [decide_eq_true hnext]
      rfl
    dsimp only at hitems
    rw [if_pos hmark] at hitems
    obtain ⟨t, others, ht, hothers, rfl⟩ := inOrder_cons_ok hitems
    obtain ⟨_, rest, hslashed, hrest, rfl⟩ := inOrder_cons_ok hothers
    cases hslashed
    have hunslashed : r.slash = false := by
      by_contra h
      exact hready.slash (Bool.not_eq_false _ ▸ h) p List.mem_cons_self hkind
    have hlast : ∀ q ∈ ps, q.kind ≠ .positionalOnly :=
      KindOrdered.not_positionalOnly (List.pairwise_cons.1 hordered).2 hnext
    exact ⟨[t, "/"], rest, false, _, rfl, hrest, ParamsRead.take_two (htake t ht)
      (ParamsRead.take_slash hready.unclosed hunslashed hready.star
        (List.append_ne_nil_of_right_ne_nil _ (List.cons_ne_nil _ _))),
      hready.next hready.star rfl .inl (fun _ => .inr hlast) .inl, if_neg hnext⟩

theorem paramItems_step : r.Passes mode expr p ps items := by
  have hbefore (q : Param) (hq : q ∈ ps) : p.kind.Before q.kind :=
    (List.pairwise_cons.1 hordered).1 q.kind (List.mem_map_of_mem hq)
  have hkeyword (hrank : ParamKind.varPositional.rank ≤ p.kind.rank) (q : Param) (hq : q ∈ ps) :
      ParamKind.varPositional.rank < q.kind.rank := (hbefore q hq).varPositional_lt hrank
  have hsettled (hkind : p.kind ≠ .positionalOnly) {r' : ParamsRead}
      (hparams : r'.params = r.params ++ [p.shapeAs p.kind]) :
      r'.settled ps = r.settled (p :: ps) ++ [p.shape] := by
    rw [ParamsRead.settled_later hbefore hkind, ParamsRead.settled_cons hkind, hparams, Param.shape]
  cases hkind : p.kind with
  | positionalOnly => exact paramItems_positionalOnly hordered hname hreads hready hitems hkind
  | positional =>
    obtain rfl : sawStar = false := hready.unstarred (by rw [hkind]; decide)
    rw [paramItems, hkind] at hitems
    rw [hkind] at hsettled
    obtain ⟨t, rest, ht, hrest, rfl⟩ := inOrder_cons_ok hitems
    have htake := ParamsRead.take_plain (k := .positional) hready.unclosed hname hreads ht
      (by rw [hready.star]; rfl)
    exact ⟨[t], rest, false, _, rfl, hrest, ParamsRead.take_one htake,
      hready.next hready.star rfl .inl .inl .inl, hsettled (by decide) rfl⟩
  | varPositional =>
    obtain rfl : sawStar = false := hready.unstarred (by rw [hkind])
    rw [paramItems, hkind] at hitems
    rw [hkind] at hsettled hkeyword
    obtain ⟨_, rest, hitem, hrest, rfl⟩ := inOrder_cons_ok hitems
    obtain ⟨t, ht, rfl⟩ := map_ok hitem
    have htake := ParamsRead.take_starred hready.unclosed hname hreads ht hready.star
    exact ⟨["*" ++ t], rest, true, _, rfl, hrest, ParamsRead.take_one htake,
      hready.next rfl hready.bare .inl .inl fun _ => .inr (hkeyword (Nat.le_refl _)),
      hsettled (by decide) rfl⟩
  | keywordOnly =>
    rw [paramItems, hkind] at hitems
    rw [hkind] at hsettled hkeyword
    have hkeyword := hkeyword (by decide)
    cases sawStar with
    | true =>
      obtain ⟨t, rest, ht, hrest, rfl⟩ := inOrder_cons_ok hitems
      have htake := ParamsRead.take_plain (k := .keywordOnly) hready.unclosed hname hreads ht
        (by rw [hready.star]; rfl)
      exact ⟨[t], rest, true, _, rfl, hrest, ParamsRead.take_one htake,
        hready.next hready.star rfl .inl .inl .inl, hsettled (by decide) rfl⟩
    | false =>
      obtain ⟨_, others, hbare, hothers, rfl⟩ := inOrder_cons_ok hitems
      cases hbare
      obtain ⟨t, rest, ht, hrest, rfl⟩ := inOrder_cons_ok hothers
      have htake := ParamsRead.take_plain (r := { r with star := true, bare := true })
        (k := .keywordOnly) hready.unclosed hname hreads ht rfl
      exact ⟨["*", t], rest, true, _, rfl, hrest,
        ParamsRead.take_two (ParamsRead.take_bare hready.unclosed hready.star) htake,
        hready.next rfl rfl .inl .inl fun _ => .inr hkeyword, hsettled (by decide) rfl⟩
  | varKeyword =>
    rw [paramItems, hkind] at hitems
    rw [hkind] at hsettled hbefore
    obtain ⟨_, rest, hitem, hrest, rfl⟩ := inOrder_cons_ok hitems
    obtain ⟨t, ht, rfl⟩ := map_ok hitem
    have hlast : ps = [] := List.eq_nil_iff_forall_not_mem.2 fun q hq =>
      ParamKind.not_varKeyword_before (hbefore q hq)
    exact ⟨["**" ++ t], rest, sawStar, _, rfl, hrest,
      ParamsRead.take_one (ParamsRead.take_double hready.unclosed hname hreads ht),
      hready.next hready.star hready.bare (fun _ => .inr hlast) .inl .inl, hsettled (by decide) rfl⟩

end

/-- The items that are written for the parameters that are left are read from where the reader is. -/
theorem paramItems_take {ps : List Param} (hordered : KindOrdered ps)
    (hnames : ∀ p ∈ ps, p.name.isNormalName = true) (hreads : ∀ p ∈ ps, p.Reads mode expr)
    {r : ParamsRead} {sawStar : Bool} (hready : r.Ready sawStar ps) {items : List Text}
    (hitems : inOrder (paramItems mode sawStar ps) = .ok items) :
    ∃ r', items.foldlM (ParamsRead.take expr) r = some r' ∧ r'.bare = false ∧
      r'.params = r.settled ps ++ ps.map Param.shape := by
  induction ps generalizing r sawStar items with
  | nil =>
    cases hitems
    exact ⟨r, rfl, hready.bare, (List.append_nil _).symm⟩
  | cons p ps ih =>
    rw [List.forall_mem_cons] at hnames hreads
    obtain ⟨own, rest, sawStar', r₁, rfl, hrest, hown, hready', hsettled⟩ :=
      paramItems_step hordered hnames.1 hreads.1 hready hitems
    obtain ⟨r', hr', hbare, hparams⟩ := ih hordered.tail hnames.2 hreads.2 hready' hrest
    refine ⟨r', ?_, hbare, ?_⟩
    · rw [List.foldlM_append, hown]
      exact hr'
    · rw [hparams, hsettled, List.append_assoc, List.map_cons, List.singleton_append]

/-- What is written for parameters in the order of their kinds is read as they are. -/
theorem paramItems_read {ps : List Param} (hordered : KindOrdered ps)
    (hnames : ∀ p ∈ ps, p.name.isNormalName = true) (hreads : ∀ p ∈ ps, p.Reads mode expr)
    {items : List Text} (hitems : inOrder (paramItems mode false ps) = .ok items) :
    readParams expr items = some (ps.map Param.shape) := by
  have hready : ParamsRead.Ready {} false ps := ⟨rfl, rfl, nofun, nofun, nofun⟩
  obtain ⟨r, hr, hbare, hparams⟩ := paramItems_take hordered hnames hreads hready hitems
  have hsettled : ParamsRead.settled {} ps = [] := by
    rw [ParamsRead.settled]
    split <;> rfl
  rw [readParams, hr, Option.bind_eq_bind, Option.bind_some, hbare, if_neg Bool.false_ne_true,
    hparams, hsettled, List.nil_append]

end

/-- Parameter lists survive: building one is building its parameters in the order of their kinds, with
the defaults at the last of the positional ones, and what is written for parameters in that order, which
fails for nothing but an annotation or a default that cannot be written, is read as they are. -/
theorem params_survive :
    (∀ (o : Origin) (ps : Params), ps.Aligned →
      ps.toParams o = ps.places.mapM (·.toParam o) ∧
        ∀ params, ps.toParams o = .ok params → KindOrdered params) ∧
      ∀ (mode : RenderMode) (ps : List Param), KindOrdered ps →
        (∀ p ∈ ps, p.name.isNormalName = true) →
        Blames (fun f => ∃ e ∈ ps.flatMap Param.exprs, e.Faulty mode f)
            (inOrder (paramItems mode false ps)) ∧
          ∀ (expr : Text → Option Text) (items : List Text), (∀ p ∈ ps, p.Reads mode expr) →
            inOrder (paramItems mode false ps) = .ok items →
            readParams expr items = some (ps.map Param.shape) :=
  ⟨fun _ _ h => ⟨Params.toParams_places h, fun _ hps => Params.toParams_ordered h hps⟩,
    fun mode ps hordered hnames => ⟨paramItems_blames mode false ps, fun _ _ hreads hitems =>
      paramItems_read hordered hnames hreads hitems⟩⟩

/-- The parameters `a: int, b=1, /, c=2, *args, d, e: str = 3, **kw`, where an expression is read up
to the next blank. -/
theorem params_survive_sample :
    let o : Origin := ⟨[], [], []⟩
    let ps : Params := .mk [.mk "a" (some (.name "int")), .mk "b" none] [.mk "c" none]
      (some (.mk "args" none)) [.mk "d" none, .mk "e" (some (.name "str"))]
      [none, some (.number (.int 3))] (some (.mk "kw" none))
      [.number (.int 1), .number (.int 2)]
    let expr : Text → Option Text := fun t =>
      some ((t.dropWhile (· = CodePoint.scalar ' ')).dropWhile (· ≠ CodePoint.scalar ' '))
    let items : List Text := ["a: int", "b=1", "/", "c=2", "*args", "d", "e: str = 3", "**kw"]
    ps.Aligned ∧ ∃ params, ps.toParams o = .ok params ∧
      ps.toParams o = ps.places.mapM (·.toParam o) ∧ KindOrdered params ∧
      (∀ p ∈ params, p.name.isNormalName = true) ∧ (∀ p ∈ params, p.Reads .strict expr) ∧
      inOrder (paramItems .strict false params) = .ok items ∧
      readParams expr items = some (params.map Param.shape) := by
  intro o ps expr items
  have haligned : ps.Aligned := ⟨by decide, by decide⟩
  obtain ⟨hbuild, hordered⟩ := params_survive.1 o ps haligned
  let params : List Param := [⟨"a", .positionalOnly, some (.name "int"), none⟩,
    ⟨"b", .positionalOnly, none, some (.number (.int 1))⟩,
    ⟨"c", .positional, none, some (.number (.int 2))⟩, ⟨"args", .varPositional, none, none⟩,
    ⟨"d", .keywordOnly, none, none⟩,
    ⟨"e", .keywordOnly, some (.name "str"), some (.number (.int 3))⟩,
    ⟨"kw", .varKeyword, none, none⟩]
  have hparams : ps.toParams o = .ok params := by rfl
  have hnames : ∀ p ∈ params, p.name.isNormalName = true := by decide +kernel
  have hreads : ∀ p ∈ params, p.Reads .strict expr := by
    intro p hp e he
    have hexprs : e ∈ params.flatMap Param.exprs := List.mem_flatMap.2 ⟨p, hp, he⟩
    change e ∈ [Expr.name "int", .number (.int 1), .number (.int 2), .name "str",
      .number (.int 3)] at hexprs
    simp only [List.mem_cons, List.not_mem_nil, or_false] at hexprs
    obtain rfl | rfl | rfl | rfl | rfl := hexprs <;> intro t ht <;> cases ht <;>
      rintro lead (rfl | rfl) rest (rfl | ⟨d, rfl⟩) <;> rfl
  have hitems : inOrder (paramItems .strict false params) = .ok items := by rfl
  have hkinds := hordered params hparams
  exact ⟨haligned, params, hparams, hbuild, hkinds, hnames, hreads, hitems,
    (params_survive.2 .strict params hkinds hnames).2 expr items hreads hitems⟩

end Refactory
