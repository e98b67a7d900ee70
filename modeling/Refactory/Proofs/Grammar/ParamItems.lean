import Refactory.Proofs.Grammar.Items
import Refactory.Proofs.Render.Heads

/-! # Items of parameter lists

What has been read of a parameter list is kept apart by the ways in which arguments reach the
parameters. `ParamsSoFar.Are` says that this stands for the parameters so far, and
`ParamsSoFar.Between` that the reader stands between these and those to come; for a parameter of each
kind, there is a lemma about the item that is written for it. -/

namespace Refactory

open Grammar Inks

/-! ## Parameters by kind -/

/-- The parameters of a kind. -/
def Param.ofKind (k : ParamKind) (ps : List Param) : List Param := ps.filter (·.kind = k)

/-- The parameters that arguments reach by position. -/
def Param.positionals (ps : List Param) : List Param := ps.filter (·.kind.isPositional)

/-- Whether a parameter shows that a star has been read. -/
def ParamKind.isStarred (k : ParamKind) : Bool := k == .varPositional || k == .keywordOnly

section

variable {k : ParamKind} {ps : List Param}

@[simp] theorem Param.ofKind_concat (p : Param) :
    ofKind k (ps ++ [p]) = ofKind k ps ++ if p.kind = k then [p] else [] := by
  simp [ofKind, List.filter_cons]

@[simp] theorem Param.positionals_concat (p : Param) :
    positionals (ps ++ [p]) = positionals ps ++ if p.kind.isPositional then [p] else [] := by
  simp [positionals, List.filter_cons]

theorem Param.kind_of_mem {p : Param} (h : p ∈ ofKind k ps) : p.kind = k := by
  simpa using List.of_mem_filter h

/-- What is related to the parameters of a kind is related to parameters that have this kind. -/
theorem Param.ofKind_forall₂ {α : Type} {R : Param → α → Prop} {xs : List α}
    (h : List.Forall₂ R (ofKind k ps) xs) :
    List.Forall₂ (fun p x => p.kind = k ∧ R p x) (ofKind k ps) xs :=
  (List.forall₂_and_left _ _).2 ⟨fun _ hp => Param.kind_of_mem hp, h⟩

theorem Param.ofKind_eq_nil (h : ∀ p ∈ ps, p.kind ≠ k) : ofKind k ps = [] :=
  List.filter_eq_nil_iff.2 fun p hp => by simpa using h p hp

theorem Param.ofKind_eq_self (h : ∀ p ∈ ps, p.kind = k) : ofKind k ps = ps :=
  List.filter_eq_self.2 fun p hp => by simpa using h p hp

/-- Parameters in the order of their kinds are those of one kind behind those of the other. -/
theorem Param.split_kinds (h : ps.Pairwise Param.Precedes) :
    ps = ofKind .positionalOnly ps ++ ofKind .positional ps ++ ofKind .varPositional ps ++
      ofKind .keywordOnly ps ++ ofKind .varKeyword ps := by
  induction ps with
  | nil => rfl
  | cons p ps ih =>
    obtain ⟨hp, hps⟩ := List.pairwise_cons.1 h
    have hnone : ∀ k : ParamKind, ¬ p.kind.Before k → ofKind k ps = [] := fun k hk =>
      Param.ofKind_eq_nil fun x hx heq => hk (heq ▸ (hp x hx).1)
    have hcons : ∀ k : ParamKind, ofKind k (p :: ps) =
        (if p.kind = k then [p] else []) ++ ofKind k ps := by
      intro k
      simp only [ofKind, List.filter_cons, decide_eq_true_eq]
      split_ifs <;> rfl
    have ih := ih hps
    have hbefore : ∀ k l : ParamKind, l.rank < k.rank → ¬ k.Before l := by
      rintro k l hlt (hbefore | ⟨rfl, -⟩)
      · exact Nat.lt_asymm hlt hbefore
      · exact Nat.lt_irrefl _ hlt
    cases hkind : p.kind with
    | positionalOnly => simpa [hcons, hkind] using ih
    | positional =>
      have h₀ := hnone .positionalOnly (hkind ▸ hbefore _ _ (by decide))
      simpa [hcons, hkind, h₀] using ih
    | varPositional =>
      have h₀ := hnone .positionalOnly (hkind ▸ hbefore _ _ (by decide))
      have h₁ := hnone .positional (hkind ▸ hbefore _ _ (by decide))
      simpa [hcons, hkind, h₀, h₁] using ih
    | keywordOnly =>
      have h₀ := hnone .positionalOnly (hkind ▸ hbefore _ _ (by decide))
      have h₁ := hnone .positional (hkind ▸ hbefore _ _ (by decide))
      have h₂ := hnone .varPositional (hkind ▸ hbefore _ _ (by decide))
      simpa [hcons, hkind, h₀, h₁, h₂] using ih
    | varKeyword =>
      have h₀ := hnone .positionalOnly (hkind ▸ hbefore _ _ (by decide))
      have h₁ := hnone .positional (hkind ▸ hbefore _ _ (by decide))
      have h₂ := hnone .varPositional (hkind ▸ hbefore _ _ (by decide))
      have h₃ := hnone .keywordOnly (hkind ▸ hbefore _ _ (by decide))
      simpa [hcons, hkind, h₀, h₁, h₂, h₃] using ih

theorem Param.positionals_eq (h : ps.Pairwise Param.Precedes) :
    positionals ps = ofKind .positionalOnly ps ++ ofKind .positional ps := by
  induction ps with
  | nil => rfl
  | cons p ps ih =>
    obtain ⟨hp, hps⟩ := List.pairwise_cons.1 h
    have ih := ih hps
    simp only [positionals, ofKind, List.filter_cons] at ih ⊢
    cases hkind : p.kind with
    | positional =>
      have hnone : ps.filter (·.kind = .positionalOnly) = [] :=
        Param.ofKind_eq_nil fun x hx heq => by
          have hbefore := (hp x hx).1
          rw [hkind, heq] at hbefore
          exact absurd hbefore (by decide)
      simpa [hnone, ParamKind.isPositional] using ih
    | _ => simpa [ParamKind.isPositional] using ih

/-- The defaults of positional parameters belong to the last of them. -/
theorem alignDefaults_eq {xs : List Param} (h : xs.Pairwise fun p q =>
      p.default.isSome = true → q.default.isSome = true) :
    alignDefaults xs.length (xs.filterMap Param.default) = xs.map Param.default := by
  induction xs with
  | nil => rfl
  | cons x xs ih =>
    obtain ⟨hx, hxs⟩ := List.pairwise_cons.1 h
    have hle := List.length_filterMap_le Param.default xs
    have ih := ih hxs
    rw [alignDefaults] at ih ⊢
    cases hd : x.default with
    | none =>
      rw [List.filterMap_cons_none hd, List.length_cons, List.map_cons, hd,
        Nat.sub_add_comm hle, List.replicate_succ, List.cons_append, ih]
    | some d =>
      have hall : ∀ y ∈ xs, y.default.isSome = true := fun y hy => hx y hy (by rw [hd]; rfl)
      have hlength : (xs.filterMap Param.default).length = xs.length :=
        List.filterMap_length_eq_length.2 hall
      rw [hlength, Nat.sub_self, List.replicate_zero, List.nil_append] at ih
      rw [List.filterMap_cons_some hd, List.length_cons, List.length_cons, hlength, Nat.sub_self,
        List.replicate_zero, List.nil_append, List.map_cons, List.map_cons, hd, ih]

end

namespace Grammar

/-! ## Marks -/

variable {after : List Mark} {depth : Nat}

/-- The marks of an annotation. -/
def hintMarks (hint : Option Expr) : List Mark := marks (hintInks hint)

/-- The marks of a default, whether there are blanks around its sign or not. -/
def defaultMarks : Option Expr → List Mark
  | none => []
  | some d => .symbol "=" :: d.marksAt .test

theorem marks_param (p : Param) :
    marks p.inks = .name p.name :: (hintMarks p.hint ++ defaultMarks p.default) := by
  have hdefault : ∀ hinted : Bool,
      marks (defaultInks hinted p.default) = defaultMarks p.default := by
    intro hinted
    cases p.default with
    | none => rfl
    | some d => cases hinted <;> rfl
  rw [Param.inks, marks_mark, marks_append, hdefault]
  rfl

/-- Neither a colon nor what goes on with an expression comes next: a name in a parameter list ends
here. -/
structure Parted (after : List Mark) : Prop where
  clear : Clear .test after
  colon : next? after ≠ some (.symbol ":")

theorem parted_symbol {text : String} (h : (Mark.symbol text).attach < Precedence.test.rank)
    (hcolon : text ≠ ":") (ms : List Mark) : Parted (.symbol text :: ms) :=
  ⟨clear_cons h, symbol_head_ne hcolon ms⟩

/-- The marks of items with commas between them, up to the parenthesis that closes the list. -/
def itemMarks (after : List Mark) : List (List Mark) → List Mark
  | [] => .symbol ")" :: after
  | x :: xs => x ++ (xs.flatMap (.symbol "," :: ·) ++ .symbol ")" :: after)

theorem marks_items (items : List (List Ink)) :
    marks (commas items) ++ .symbol ")" :: after = itemMarks after (items.map marks) := by
  cases items with
  | nil => rfl
  | cons x xs =>
    rw [commas, marks_join, List.map_cons, itemMarks, List.flatMap_map, List.append_assoc]
    rfl

theorem parted_rest (xs : List (List Mark)) :
    Parted (xs.flatMap (.symbol "," :: ·) ++ .symbol ")" :: after) ∧
      next? (xs.flatMap (.symbol "," :: ·) ++ .symbol ")" :: after) ≠ some (.symbol "=") := by
  cases xs with
  | nil => exact ⟨parted_symbol (by decide) (by decide) _, symbol_head_ne (by decide) _⟩
  | cons x xs => exact ⟨parted_symbol (by decide) (by decide) _, symbol_head_ne (by decide) _⟩

/-- No star has been read before a positional parameter, or one that takes the rest of these. -/
theorem isPositional_of_before {k l : ParamKind} (h : k.Before l)
    (hl : l.rank ≤ ParamKind.varPositional.rank) : k.isPositional = true := by
  revert h hl
  cases k <;> cases l <;> simp [ParamKind.Before, ParamKind.rank, ParamKind.isPositional]

theorem default_none_of_rest {mode : RenderMode} {p : Param} (hregular : p.isRegular mode = true)
    (hkind : p.kind.isRest = true) : p.default = none := by
  rw [Param.isRegular, Bool.and_eq_true, hkind] at hregular
  simpa using hregular.2

/-! ## Names with annotations -/

variable [Setting]

/-- A name in a parameter list stands for a parameter without its default. -/
def ParamName.Is (n : ParamName) (p : Param) : Prop :=
  ∃ hint, n = .mk p.name hint ∧ Option.Rel (fun e t => Term.Is t e) p.hint hint

/-- A name with a default stands for a parameter. -/
def ParamName.IsWith (n : ParamName) (default : Option Term) (p : Param) : Prop :=
  n.Is p ∧ Option.Rel (fun e t => Term.Is t e) p.default default

variable {mode : RenderMode} {p : Param} {n : ParamName} {default : Option Term}

theorem ParamName.IsWith.toParam (h : n.IsWith default p) :
    n.toParam origin p.kind default = .ok p := by
  obtain ⟨⟨hint, rfl, hhint⟩, hdefault⟩ := h
  rw [ParamName.toParam, Term.toExpr?_of hhint, Term.toExpr?_of hdefault]
  rfl

/-- A name with its annotation, which can have a star in front if it says so. -/
theorem paramName_takes {star : Bool} (h : p.hint.all (Expr.isReadable mode star) = true)
    (hdepth : (hintMarks p.hint).length ≤ depth) (hafter : Parted after) :
    Takes (paramName (deepReaders depth) true star) (.name p.name :: (hintMarks p.hint ++ after))
      fun n ms' => n.Is p ∧ ms' = after := by
  refine identifier_takes.next_eq ?_
  obtain ⟨name, kind, hint, default⟩ := p
  cases hint with
  | none => exact ifAccept_miss hafter.colon (.pure ⟨⟨none, rfl, .none⟩, rfl⟩)
  | some a =>
    have ha : a.isReadable mode star = true := h
    have hdepth : (a.marksAt .test).length < depth := hdepth
    have hread : TakesExpr (if star then starExpression (deepReaders depth)
        else deepReaders depth .expression) (a.marksAt .test ++ after) a after := by
      cases star with
      | true => exact Expr.takes_star ha hdepth hafter.clear
      | false => exact Expr.takes_expression ha hdepth hafter.clear
    refine ifAccept_hit ?_
    cases star with
    | true => exact hread.next fun t ht => .pure ⟨⟨some t, rfl, .some ht⟩, rfl⟩
    | false => exact hread.next fun t ht => .pure ⟨⟨some t, rfl, .some ht⟩, rfl⟩

/-! ## One item -/

section

variable {r : Readers} {q : ParamsSoFar} {ms : List Mark}

theorem paramItem_slash (hkeyword : q.varKeyword = none) (hslash : q.slash = false)
    (hstar : q.star = false) (hpositional : q.positional ≠ []) :
    Takes (paramItem r true q) (.symbol "/" :: after) fun q' ms' =>
      q' = { q with positionalOnly := q.positional, positional := [], slash := true } ∧
        ms' = after := by
  rw [paramItem, if_neg (by simp [hkeyword])]
  refine ifAccept_hit ?_
  rw [if_neg (by simp [hslash, hstar, hpositional])]
  exact .pure ⟨rfl, rfl⟩

theorem paramItem_star (hkeyword : q.varKeyword = none) (hstar : q.star = false) :
    Takes (paramItem r true q) (.symbol "*" :: .symbol "," :: after) fun q' ms' =>
      q' = { q with star := true } ∧ ms' = .symbol "," :: after := by
  rw [paramItem, if_neg (by simp [hkeyword])]
  refine ifAccept_miss (symbol_head_ne (by decide) _) (ifAccept_miss (symbol_head_ne (by decide) _)
    (ifAccept_hit ?_))
  rw [if_neg (by simp [hstar])]
  exact ifNext_hit (.pure ⟨rfl, rfl⟩)

theorem paramItem_varPositional (hkeyword : q.varKeyword = none) (hstar : q.star = false)
    {id : Text}
    (h : Takes (paramName r true true) (.name id :: ms) fun n ms' => n.Is p ∧ ms' = after) :
    Takes (paramItem r true q) (.symbol "*" :: .name id :: ms) fun q' ms' =>
      (∃ n : ParamName, n.Is p ∧ q' = { q with star := true, varPositional := some n }) ∧
        ms' = after := by
  rw [paramItem, if_neg (by simp [hkeyword])]
  refine ifAccept_miss (symbol_head_ne (by decide) _) (ifAccept_miss (symbol_head_ne (by decide) _)
    (ifAccept_hit ?_))
  rw [if_neg (by simp [hstar])]
  exact ifNext_miss (by simp) (h.next fun n hn => .pure ⟨⟨n, hn, rfl⟩, rfl⟩)

theorem paramItem_varKeyword (hkeyword : q.varKeyword = none)
    (h : Takes (paramName r true false) ms fun n ms' => n.Is p ∧ ms' = after) :
    Takes (paramItem r true q) (.symbol "**" :: ms) fun q' ms' =>
      (∃ n : ParamName, n.Is p ∧ q' = { q with varKeyword := some n }) ∧ ms' = after := by
  rw [paramItem, if_neg (by simp [hkeyword])]
  refine ifAccept_miss (symbol_head_ne (by decide) _) (ifAccept_hit ?_)
  exact h.next fun n hn => .pure ⟨⟨n, hn, rfl⟩, rfl⟩

/-- A parameter without a star, by the name it has and by its default. -/
def ParamsSoFar.add (q : ParamsSoFar) (n : ParamName) (default : Option Term) : ParamsSoFar :=
  if q.star then
    { q with keywordOnly := q.keywordOnly ++ [n], keywordDefaults := q.keywordDefaults ++ [default] }
  else { q with positional := q.positional ++ [n], defaults := q.defaults ++ default.toList }

/-- A parameter without a star. It has a default if the positional ones before it have one. -/
theorem paramItem_name (hkeyword : q.varKeyword = none)
    (hdefaults : q.star = false → p.default = none → q.defaults = [])
    (hregular : p.isRegular mode = true) (hkind : p.kind ≠ .varPositional)
    (hdepth : (marks p.inks).length ≤ depth) (hafter : Parted after)
    (hequals : next? after ≠ some (.symbol "=")) :
    Takes (paramItem (deepReaders depth) true q) (marks p.inks ++ after) fun q' ms' =>
      (∃ n default, ParamName.IsWith n default p ∧ q' = q.add n default) ∧ ms' = after := by
  simp only [Param.isRegular, Bool.and_eq_true, beq_eq_false_iff_ne.2 hkind] at hregular
  obtain ⟨⟨⟨-, hhint⟩, hdefault⟩, -⟩ := hregular
  rw [marks_param, List.length_cons, List.length_append] at hdepth
  rw [marks_param, List.cons_append, List.append_assoc]
  have hparted : Parted (defaultMarks p.default ++ after) := by
    cases p.default with
    | none => exact hafter
    | some d => exact parted_symbol (by decide) (by decide) _
  rw [paramItem, if_neg (by simp [hkeyword])]
  refine ifAccept_miss (by simp) (ifAccept_miss (by simp) (ifAccept_miss (by simp) ?_))
  refine (paramName_takes hhint (by omega) hparted).next fun n hn => ?_
  cases hd : p.default with
  | none =>
    refine ifAccept_miss hequals (Takes.pure_bind ?_)
    beta_reduce
    have hwith : n.IsWith none p := ⟨hn, hd ▸ .none⟩
    cases hstar : q.star with
    | true => exact .pure ⟨⟨n, none, hwith, by rw [ParamsSoFar.add, if_pos hstar, hstar]⟩, rfl⟩
    | false =>
      have hempty := hdefaults hstar hd
      rw [if_neg Bool.false_ne_true, hempty]
      refine .pure ⟨⟨n, none, hwith, ?_⟩, rfl⟩
      rw [ParamsSoFar.add, hstar, if_neg Bool.false_ne_true, hempty]
      rfl
  | some d =>
    rw [hd] at hdefault hdepth
    rw [defaultMarks, List.length_cons] at hdepth
    have hread : Takes (some <$> deepReaders depth .expression) (d.marksAt .test ++ after) fun t ms' =>
        (∃ u, t = some u ∧ Term.Is u d) ∧ ms' = after :=
      (Expr.takes_expression hdefault (by omega) hafter.clear).map
        fun u ms' hu => ⟨⟨u, rfl, hu.1⟩, hu.2⟩
    refine ifAccept_hit (hread.next ?_)
    rintro _ ⟨u, rfl, hu⟩
    have hwith : n.IsWith (some u) p := ⟨hn, by rw [hd]; exact .some hu⟩
    cases hstar : q.star with
    | true => exact .pure ⟨⟨n, some u, hwith, by rw [ParamsSoFar.add, if_pos hstar, hstar]⟩, rfl⟩
    | false =>
      beta_reduce
      rw [if_neg Bool.false_ne_true]
      refine .pure ⟨⟨n, some u, hwith, ?_⟩, rfl⟩
      rw [ParamsSoFar.add, hstar, if_neg Bool.false_ne_true]
      rfl

end

/-! ## What has been read -/

/-- What has been read of a parameter list stands for parameters. Those in front of a slash are told
from the others only when it has been read. -/
structure ParamsSoFar.Are (q : ParamsSoFar) (ps : List Param) : Prop where
  positionalOnly : List.Forall₂ (fun p n => ParamName.Is n p)
    (if q.slash then Param.ofKind .positionalOnly ps else []) q.positionalOnly
  positional : List.Forall₂ (fun p n => ParamName.Is n p)
    (if q.slash then Param.ofKind .positional ps else Param.positionals ps) q.positional
  defaults : List.Forall₂ (fun e t => Term.Is t e)
    ((Param.positionals ps).filterMap Param.default) q.defaults
  varPositional : List.Forall₂ (fun p n => ParamName.Is n p) (Param.ofKind .varPositional ps)
    q.varPositional.toList
  keywordOnly : List.Forall₂ (fun p x => ParamName.IsWith x.1 x.2 p) (Param.ofKind .keywordOnly ps)
    (q.keywordOnly.zip q.keywordDefaults)
  keywordDefaults : q.keywordOnly.length = q.keywordDefaults.length
  varKeyword : List.Forall₂ (fun p n => ParamName.Is n p) (Param.ofKind .varKeyword ps)
    q.varKeyword.toList

/-- The state of the reader between the parameters that it has read and those that come. -/
structure ParamsSoFar.Between (q : ParamsSoFar) (done ps : List Param) : Prop
    extends q.Are done where
  star : q.star = done.any (·.kind.isStarred)
  slash : q.slash = (done.any (·.kind == .positionalOnly) &&
    ps.head?.map Param.kind != some .positionalOnly)

section

variable {q : ParamsSoFar} {done ps : List Param}

theorem ParamsSoFar.Are.varKeyword_none (h : q.Are done)
    (hdone : ∀ x ∈ done, x.kind ≠ .varKeyword) : q.varKeyword = none := by
  have hrest := h.varKeyword
  rw [Param.ofKind_eq_nil hdone] at hrest
  exact Option.toList_eq_nil_iff.1 (List.forall₂_nil_left_iff.1 hrest)

theorem ParamsSoFar.Are.addKeywordOnly (h : q.Are done) (hkind : p.kind = .keywordOnly)
    (hp : n.IsWith default p) : ParamsSoFar.Are { q with
      keywordOnly := q.keywordOnly ++ [n]
      keywordDefaults := q.keywordDefaults ++ [default] } (done ++ [p]) where
  positionalOnly := by simpa [hkind] using h.positionalOnly
  positional := by simpa [hkind, ParamKind.isPositional] using h.positional
  defaults := by simpa [hkind, ParamKind.isPositional] using h.defaults
  varPositional := by simpa [hkind] using h.varPositional
  keywordOnly := by
    rw [Param.ofKind_concat, if_pos hkind, List.zip_append h.keywordDefaults]
    exact List.rel_append h.keywordOnly (.cons hp .nil)
  keywordDefaults := by simp [h.keywordDefaults]
  varKeyword := by simpa [hkind] using h.varKeyword

theorem ParamsSoFar.Are.addVarPositional (h : q.Are done) (hkind : p.kind = .varPositional)
    (hnone : ∀ x ∈ done, x.kind ≠ .varPositional) (hp : n.Is p) :
    ParamsSoFar.Are { q with star := true, varPositional := some n } (done ++ [p]) where
  positionalOnly := by simpa [hkind] using h.positionalOnly
  positional := by simpa [hkind, ParamKind.isPositional] using h.positional
  defaults := by simpa [hkind, ParamKind.isPositional] using h.defaults
  varPositional := by
    rw [Param.ofKind_concat, Param.ofKind_eq_nil hnone, if_pos hkind]
    exact .cons hp .nil
  keywordOnly := by simpa [hkind] using h.keywordOnly
  keywordDefaults := h.keywordDefaults
  varKeyword := by simpa [hkind] using h.varKeyword

theorem ParamsSoFar.Are.addVarKeyword (h : q.Are done) (hkind : p.kind = .varKeyword)
    (hnone : ∀ x ∈ done, x.kind ≠ .varKeyword) (hp : n.Is p) :
    ParamsSoFar.Are { q with varKeyword := some n } (done ++ [p]) where
  positionalOnly := by simpa [hkind] using h.positionalOnly
  positional := by simpa [hkind, ParamKind.isPositional] using h.positional
  defaults := by simpa [hkind, ParamKind.isPositional] using h.defaults
  varPositional := by simpa [hkind] using h.varPositional
  keywordOnly := by simpa [hkind] using h.keywordOnly
  keywordDefaults := h.keywordDefaults
  varKeyword := by
    rw [Param.ofKind_concat, Param.ofKind_eq_nil hnone, if_pos hkind]
    exact .cons hp .nil

theorem ParamsSoFar.Are.addPositional (h : q.Are done) (hkind : p.kind.isPositional = true)
    (hslash : q.slash = true → p.kind = .positional) (hp : n.IsWith default p) :
    ParamsSoFar.Are { q with
      positional := q.positional ++ [n]
      defaults := q.defaults ++ default.toList } (done ++ [p]) := by
  have hother : ∀ k : ParamKind, k.isPositional = false → p.kind ≠ k := by
    rintro _ hk rfl
    exact absurd hkind (Bool.eq_false_iff.1 hk)
  refine ⟨?_, ?_, ?_, ?_, ?_, h.keywordDefaults, ?_⟩
  · have hpositionalOnly := h.positionalOnly
    cases hs : q.slash with
    | false => simpa [hs] using hpositionalOnly
    | true => simpa [hs, hslash hs] using hpositionalOnly
  · have hpositional := h.positional
    cases hs : q.slash with
    | false =>
      rw [hs] at hpositional
      simpa [hkind] using List.rel_append hpositional (.cons hp.1 .nil)
    | true =>
      rw [hs] at hpositional
      simpa [hslash hs] using List.rel_append hpositional (.cons hp.1 .nil)
  · rw [Param.positionals_concat, if_pos hkind, List.filterMap_append]
    refine List.rel_append h.defaults ?_
    obtain ⟨-, hdefault⟩ := hp
    cases hd : p.default with
    | none =>
      rw [hd] at hdefault
      cases hdefault
      simp [hd]
    | some d =>
      rw [hd] at hdefault
      cases hdefault with
      | some hdefault => simpa [hd] using hdefault
  · simpa [hother .varPositional rfl] using h.varPositional
  · simpa [hother .keywordOnly rfl] using h.keywordOnly
  · simpa [hother .varKeyword rfl] using h.varKeyword

/-- A slash behind parameters that are all positional-only. -/
theorem ParamsSoFar.Are.addSlash (h : q.Are done) (hslash : q.slash = false)
    (hdone : ∀ x ∈ done, x.kind = .positionalOnly) :
    ParamsSoFar.Are { q with positionalOnly := q.positional, positional := [], slash := true }
      done where
  positionalOnly := by
    have hpositional := h.positional
    rw [hslash, if_neg Bool.false_ne_true, Param.positionals,
      List.filter_eq_self.2 fun x hx => by rw [hdone x hx]; rfl] at hpositional
    simpa [Param.ofKind_eq_self hdone] using hpositional
  positional := by
    simp [Param.ofKind_eq_nil (k := .positional) fun x hx => by rw [hdone x hx]; nofun]
  defaults := h.defaults
  varPositional := h.varPositional
  keywordOnly := h.keywordOnly
  keywordDefaults := h.keywordDefaults
  varKeyword := h.varKeyword

end

/-! ## One item after the other -/

section

variable {r : Readers} {q : ParamsSoFar} {x : List Mark} {xs : List (List Mark)}
  {P : ParamsSoFar → Prop} {post : ParamsSoFar → List Mark → Prop} {fuel : Nat}

/-- Where a symbol comes next, it does not matter what would be read without it. -/
theorem ifNext_other {β : Type} {p p' p'' : Reader β} {text : String} {ms : List Mark}
    {post : β → List Mark → Prop}
    (h : Takes (do if ← nextIs text then p else p') (.symbol text :: ms) post) :
    Takes (do if ← nextIs text then p else p'') (.symbol text :: ms) post := fun c hc => by
  obtain ⟨b, c', _, hnext, -, rfl, -⟩ := nextIs_hit text c hc
  obtain ⟨a, c'', ms', hp, hpost⟩ := h c hc
  obtain ⟨_, _, hnext', hp⟩ := bind_eq_some.1 hp
  cases hnext.symm.trans hnext'
  exact ⟨a, c'', ms', bind_eq_some.2 ⟨_, _, hnext, hp⟩, hpost⟩

/-- An item is read, and the list goes on behind it. -/
theorem paramItems_cons
    (hx : next? (x ++ (xs.flatMap (.symbol "," :: ·) ++ .symbol ")" :: after)) ≠ some (.symbol ")"))
    (hitem : Takes (paramItem r true q) (x ++ (xs.flatMap (.symbol "," :: ·) ++ .symbol ")" :: after))
      fun q' ms' => P q' ∧ ms' = xs.flatMap (.symbol "," :: ·) ++ .symbol ")" :: after)
    (hrest : ∀ q', P q' → Takes (paramItems r true ")" (fuel + 1) q') (itemMarks after xs) post) :
    Takes (paramItems r true ")" (fuel + 2) q) (itemMarks after (x :: xs)) post := by
  refine ifNext_miss hx (hitem.next fun q' hq' => ?_)
  cases xs with
  | nil => exact ifAccept_miss (symbol_head_ne (by decide) _) (ifNext_other (hrest q' hq'))
  | cons y ys =>
    rw [List.flatMap_cons, List.append_assoc, List.cons_append]
    exact ifAccept_hit (hrest q' hq')

end

section

variable {q : ParamsSoFar} {done ps : List Param}

/-- Behind a parameter that is not positional-only, no slash is to come. -/
theorem ParamsSoFar.Between.slash_next (h : q.Between done (p :: ps))
    (hkind : p.kind ≠ .positionalOnly) (hps : ∀ x ∈ ps, p.Precedes x) :
    q.slash = ((done ++ [p]).any (·.kind == .positionalOnly) &&
      ps.head?.map Param.kind != some .positionalOnly) := by
  have hhead : ps.head?.map Param.kind ≠ some .positionalOnly := by
    cases ps with
    | nil => simp
    | cons x ps =>
      intro hx
      have hbefore := (hps x List.mem_cons_self).1
      rw [Option.some.inj hx] at hbefore
      exact hkind (ParamKind.before_positionalOnly.1 hbefore)
  rw [h.slash, List.head?_cons, Option.map_some, bne_iff_ne.2 hhead, List.any_append, Bool.and_true,
    bne_iff_ne.2 fun heq => hkind (Option.some.inj heq), Bool.and_true]
  simp [hkind]

theorem ParamsSoFar.Between.star_false (h : q.Between done (p :: ps))
    (hdone : ∀ x ∈ done, x.Precedes p) (hkind : p.kind.rank ≤ ParamKind.varPositional.rank) :
    q.star = false := by
  rw [h.star, List.any_eq_false]
  intro x hx hstar
  have hpositional := isPositional_of_before (hdone x hx).1 hkind
  generalize x.kind = k at hstar hpositional
  cases k <;> simp [ParamKind.isPositional, ParamKind.isStarred] at hstar hpositional

end

/-! ## The parameters one after the other -/

section

variable {q : ParamsSoFar} {done ps : List Param} {fuel : Nat}

/-- A positional parameter. -/
theorem ParamsSoFar.Between.takes_positional (h : q.Between done (p :: ps))
    (hdone : ∀ x ∈ done, x.Precedes p) (hkeyword : q.varKeyword = none)
    (hregular : p.isRegular mode = true) (hkind : p.kind.isPositional = true)
    (hdepth : (marks p.inks).length ≤ depth) (hafter : Parted after)
    (hequals : next? after ≠ some (.symbol "=")) :
    Takes (paramItem (deepReaders depth) true q) (marks p.inks ++ after) fun q' ms' =>
      (ParamsSoFar.Are q' (done ++ [p]) ∧ q'.star = false ∧ q'.slash = q.slash ∧
        q'.varKeyword = none ∧ q'.positional ≠ []) ∧ ms' = after := by
  have hother : ∀ k : ParamKind, k.isPositional = false → p.kind ≠ k := by
    rintro _ hk rfl
    exact absurd hkind (Bool.eq_false_iff.1 hk)
  have hrank : p.kind.rank ≤ ParamKind.varPositional.rank := by
    generalize p.kind = k at hkind
    cases k <;> first | decide | cases hkind
  have hstar := h.star_false hdone hrank
  have hslash : q.slash = true → p.kind = .positional := by
    intro hslash
    rw [h.slash, List.head?_cons, Option.map_some] at hslash
    generalize p.kind = k at hkind hslash
    cases k <;> first | rfl | simp [ParamKind.isPositional] at hslash hkind
  have hdefaults : p.default = none → q.defaults = [] := by
    intro hnone
    have hdefaults := h.defaults
    have hempty : (Param.positionals done).filterMap Param.default = [] := by
      refine List.filterMap_eq_nil_iff.2 fun x hx => Option.not_isSome_iff_eq_none.1 fun hsome => ?_
      have hlater := (hdone x (List.mem_of_mem_filter hx)).2 hkind hsome
      rw [hnone] at hlater
      cases hlater
    rw [hempty] at hdefaults
    exact List.forall₂_nil_left_iff.1 hdefaults
  refine (paramItem_name hkeyword (fun _ => hdefaults) hregular (hother _ rfl) hdepth hafter
    hequals).mono fun q' ms' ⟨⟨n, default, hn, hq'⟩, hms⟩ => ?_
  rw [ParamsSoFar.add, if_neg (by rw [hstar]; exact Bool.false_ne_true)] at hq'
  rw [hq']
  exact ⟨⟨h.addPositional hkind hslash hn, hstar, rfl, hkeyword, by simp⟩, hms⟩

/-- A parameter that takes the rest of the positional arguments. -/
theorem ParamsSoFar.Between.takes_varPositional (h : q.Between done (p :: ps))
    (hdone : ∀ x ∈ done, x.Precedes p) (hps : ∀ x ∈ ps, p.Precedes x)
    (hkeyword : q.varKeyword = none) (hregular : p.isRegular mode = true)
    (hkind : p.kind = .varPositional) (hdepth : (marks p.inks).length ≤ depth)
    (hafter : Parted after) :
    Takes (paramItem (deepReaders depth) true q) (.symbol "*" :: (marks p.inks ++ after)) fun q' ms' =>
      (ParamsSoFar.Between q' (done ++ [p]) ps ∧ q'.star = true) ∧ ms' = after := by
  have hstar := h.star_false hdone (by rw [hkind])
  have hnone : ∀ x ∈ done, x.kind ≠ .varPositional := fun x hx heq => by
    have hpositional := isPositional_of_before (hdone x hx).1 (by rw [hkind])
    rw [heq] at hpositional
    cases hpositional
  have hdefault := default_none_of_rest hregular (by rw [hkind]; rfl)
  simp only [Param.isRegular, Bool.and_eq_true, hkind, beq_self_eq_true] at hregular
  rw [marks_param, hdefault, defaultMarks, List.append_nil, List.length_cons] at hdepth
  rw [marks_param, hdefault, defaultMarks, List.append_nil, List.cons_append]
  refine (paramItem_varPositional hkeyword hstar
    (paramName_takes hregular.1.1.2 (by omega) hafter)).mono ?_
  rintro _ ms' ⟨⟨n, hn, rfl⟩, hms⟩
  refine ⟨⟨⟨h.addVarPositional hkind hnone hn, ?_, ?_⟩, rfl⟩, hms⟩
  · simp [hkind, ParamKind.isStarred]
  · exact h.slash_next (by simp [hkind]) hps

/-- A parameter behind a star, whether this has been read with another parameter or alone. -/
theorem ParamsSoFar.Are.takes_keywordOnly (h : q.Are done) (hstar : q.star = true)
    (hslash : q.slash = ((done ++ [p]).any (·.kind == .positionalOnly) &&
      ps.head?.map Param.kind != some .positionalOnly))
    (hkeyword : q.varKeyword = none) (hregular : p.isRegular mode = true)
    (hkind : p.kind = .keywordOnly) (hdepth : (marks p.inks).length ≤ depth)
    (hafter : Parted after) (hequals : next? after ≠ some (.symbol "=")) :
    Takes (paramItem (deepReaders depth) true q) (marks p.inks ++ after) fun q' ms' =>
      (ParamsSoFar.Between q' (done ++ [p]) ps ∧ q'.star = true) ∧ ms' = after := by
  refine (paramItem_name hkeyword (fun hfalse => by rw [hstar] at hfalse; cases hfalse) hregular
    (by simp [hkind]) hdepth hafter hequals).mono fun q' ms' ⟨⟨n, default, hn, hq'⟩, hms⟩ => ?_
  rw [ParamsSoFar.add, if_pos hstar] at hq'
  rw [hq']
  refine ⟨⟨⟨h.addKeywordOnly hkind hn, ?_, hslash⟩, hstar⟩, hms⟩
  simp [hstar, hkind, ParamKind.isStarred]

/-- A parameter that takes the rest of the keyword arguments. -/
theorem ParamsSoFar.Between.takes_varKeyword (h : q.Between done (p :: ps))
    (hdone : ∀ x ∈ done, x.Precedes p) (hps : ∀ x ∈ ps, p.Precedes x)
    (hkeyword : q.varKeyword = none) (hregular : p.isRegular mode = true)
    (hkind : p.kind = .varKeyword) (hdepth : (marks p.inks).length ≤ depth)
    (hafter : Parted after) :
    Takes (paramItem (deepReaders depth) true q) (.symbol "**" :: (marks p.inks ++ after)) fun q' ms' =>
      (ParamsSoFar.Between q' (done ++ [p]) ps ∧ q'.star = q.star) ∧ ms' = after := by
  have hnone : ∀ x ∈ done, x.kind ≠ .varKeyword := fun x hx heq =>
    ParamKind.not_varKeyword_before (heq ▸ (hdone x hx).1)
  have hdefault := default_none_of_rest hregular (by rw [hkind]; rfl)
  simp only [Param.isRegular, Bool.and_eq_true, hkind] at hregular
  rw [marks_param, hdefault, defaultMarks, List.append_nil, List.length_cons] at hdepth
  rw [marks_param, hdefault, defaultMarks, List.append_nil, List.cons_append]
  refine (paramItem_varKeyword hkeyword
    (paramName_takes hregular.1.1.2 (by omega) hafter)).mono ?_
  rintro _ ms' ⟨⟨n, hn, rfl⟩, hms⟩
  refine ⟨⟨⟨h.addVarKeyword hkind hnone hn, ?_, ?_⟩, rfl⟩, hms⟩
  · simp [h.star, hkind, ParamKind.isStarred]
  · exact h.slash_next (by simp [hkind]) hps

end

end Grammar

end Refactory
