import Refactory.Proofs.Rewrite.Congruence
import Refactory.Proofs.Tree.Exprs

/-! # Passes that have nothing left to do

An expression is at rest under a rewriter if no sub-expression would be replaced and none is foreign. A
pass over expressions at rest succeeds and changes nothing (`Stmt.rewriteBlock_stays`). A rewriter
settles if what it puts in is at rest as soon as the parts of the node were; a pass then leaves
everything at rest (`Stmt.rewriteBlock_atRest`). -/

namespace Refactory

/-- Whether an expression is a node, and not a foreign object. -/
def Expr.isNode : Expr → Bool
  | .foreign _ => false
  | _ => true

/-- The rewriter would replace no sub-expression, and none is foreign. -/
def Expr.AtRest (f : Rewriter) (e : Expr) : Prop :=
  e.All fun n => f n = .ok none ∧ n.isNode = true

/-- A statement is a node, and the expressions that it holds itself are at rest. -/
structure Stmt.AtRest (f : Rewriter) (s : Stmt) : Prop where
  isNode : s.isNode = true
  exprs : ∀ e ∈ s.exprs, e.AtRest f

/-! ## Nothing to do -/

namespace Visit

variable {α β : Type}

/-- A visit succeeds and changes nothing. -/
structure Stays (v : Visit α) (a : α) : Prop where
  result : v.result = .ok a
  count : v.count = 0

theorem Stays.keep (a : α) : (Visit.keep a).Stays a := ⟨rfl, rfl⟩

theorem Stays.map {v : Visit α} {a : α} (make : α → β) (h : v.Stays a) :
    (v.map make).Stays (make a) := ⟨by simp [Visit.map, h.result, Except.map], h.count⟩

theorem Stays.pair {v : Visit α} {w : Visit β} {a : α} {b : β} (h : v.Stays a) (h' : w.Stays b) :
    (v.pair b w).Stays (a, b) := by
  constructor <;> simp [Visit.pair, h.result, h'.result, h.count, h'.count, Except.map]

theorem Stays.consEach {v : Visit α} {w : Visit (List α)} {a : α} {as : List α} (h : v.Stays a)
    (h' : w.Stays as) : (v.consEach as w).Stays (a :: as) := (h.pair h').map _

theorem Stays.consAll {v : Visit α} {w : Visit (List α)} {a : α} {as : List α} (h : v.Stays a)
    (h' : w.Stays as) : (v.consAll as w).Stays (a :: as) := by
  constructor <;> simp [Visit.consAll, h.result, h'.result, h.count, h'.count, Except.map]

theorem Stays.show_ {v : Visit Expr} {e : Expr} {f : Rewriter} (h : v.Stays e)
    (hf : f e = .ok none) : (v.show_ f).Stays e := by
  constructor <;> simp [Visit.show_, h.result, h.count, hf]

end Visit

open Visit (Stays)

section

variable {f : Rewriter}

theorem Expr.rewriteAll_stays {es : List Expr} (h : ∀ e ∈ es, (e.rewrite f).Stays e) :
    (Expr.rewriteAll f es).Stays es := by
  induction es with
  | nil => exact .keep []
  | cons e es ih =>
    rw [List.forall_mem_cons] at h
    exact h.1.consAll (ih h.2)

theorem Expr.rewriteKeys_stays {ks : List (Option Expr)}
    (h : ∀ e ∈ ks.filterMap id, (e.rewrite f).Stays e) : (Expr.rewriteKeys f ks).Stays ks := by
  induction ks with
  | nil => exact .keep []
  | cons k ks ih =>
    cases k with
    | none => exact (Stays.keep none).consAll (ih h)
    | some e =>
      have h := List.forall_mem_cons.1 h
      exact Stays.consAll ⟨(h.1.map some).result, h.1.count⟩ (ih h.2)

theorem Keyword.rewriteEach_stays {ks : List Keyword}
    (h : ∀ e ∈ ks.map Keyword.value, (e.rewrite f).Stays e) :
    (Keyword.rewriteEach f ks).Stays ks := by
  induction ks with
  | nil => exact .keep []
  | cons k ks ih =>
    obtain ⟨arg, value⟩ := k
    have h := List.forall_mem_cons.1 h
    exact (h.1.map _).consEach (ih h.2)

theorem Piece.rewriteEach_stays {ps : List Piece}
    (h : ∀ e ∈ ps.filterMap Piece.value?, (e.rewrite f).Stays e) :
    (Piece.rewriteEach f ps).Stays ps := by
  induction ps with
  | nil => exact .keep []
  | cons p ps ih =>
    cases p with
    | text value => exact (Stays.keep _).consEach (ih h)
    | field value conversion spec =>
      have h := List.forall_mem_cons.1 h
      exact (h.1.map _).consEach (ih h.2)

/-- A pass over an expression at rest changes nothing. -/
theorem Expr.AtRest.rewrite {e : Expr} (h : e.AtRest f) : (e.rewrite f).Stays e := by
  induction e using Expr.induct_children with
  | h e ih =>
  obtain ⟨⟨hf, hnode⟩, hchildren⟩ := Expr.all_iff.1 h
  have ih : ∀ c ∈ e.children, (c.rewrite f).Stays c := fun c hc => ih c hc (hchildren c hc)
  cases e with
  | call func args keywords =>
    rw [Expr.children, List.forall_mem_append, List.forall_mem_cons] at ih
    exact (((ih.1.1.pair (Expr.rewriteAll_stays ih.1.2)).pair
      (Keyword.rewriteEach_stays ih.2)).map _).show_ hf
  | binary left op right => exact (((ih left (by simp [children])).pair (ih right (by simp [children]))).map _).show_ hf
  | unary op operand => exact ((ih operand (by simp [children])).map _).show_ hf
  | logical op values => exact ((Expr.rewriteAll_stays ih).map _).show_ hf
  | compare left ops comparators =>
    rw [Expr.children, List.forall_mem_cons] at ih
    exact ((ih.1.pair (Expr.rewriteAll_stays ih.2)).map _).show_ hf
  | «attribute» value attr => exact ((ih value (by simp [children])).map _).show_ hf
  | subscript value index => exact (((ih value (by simp [children])).pair (ih index (by simp [children]))).map _).show_ hf
  | starred value => exact ((ih value (by simp [children])).map _).show_ hf
  | tuple elements => exact ((Expr.rewriteAll_stays ih).map _).show_ hf
  | list elements => exact ((Expr.rewriteAll_stays ih).map _).show_ hf
  | dict keys values =>
    rw [Expr.children, List.forall_mem_append] at ih
    exact (((Expr.rewriteKeys_stays ih.1).pair (Expr.rewriteAll_stays ih.2)).map _).show_ hf
  | formatted parts => exact ((Piece.rewriteEach_stays ih).map _).show_ hf
  | foreign kind => cases hnode
  | name _ | string _ | number _ | truth _ | noneLiteral | captured _ _ =>
    exact (Stays.keep _).show_ hf

theorem Expr.rewriteOption_stays {e : Option Expr} (h : ∀ c ∈ e.toList, c.AtRest f) :
    (Expr.rewriteOption f e).Stays e := by
  cases e with
  | none => exact .keep none
  | some e => exact (h e (by simp)).rewrite.map some

theorem Param.rewriteEach_stays {ps : List Param}
    (h : ∀ c ∈ ps.flatMap Param.exprs, c.AtRest f) : (Param.rewriteEach f ps).Stays ps := by
  induction ps with
  | nil => exact .keep []
  | cons p ps ih =>
    rw [List.flatMap_cons, List.forall_mem_append, Param.exprs, List.forall_mem_append] at h
    exact (((Expr.rewriteOption_stays h.1.1).pair (Expr.rewriteOption_stays h.1.2)).map _).consEach
      (ih h.2)

theorem Handler.rewriteTypes_stays {hs : List Handler}
    (h : ∀ c ∈ hs.filterMap Handler.type, c.AtRest f) :
    (Handler.rewriteTypes f hs).Stays (hs.map Handler.type) := by
  induction hs with
  | nil => exact .keep []
  | cons handler hs ih =>
    obtain ⟨type, name, body⟩ := handler
    rw [List.filterMap_cons] at h
    cases type with
    | none => exact (Expr.rewriteOption_stays (by simp)).consEach (ih h)
    | some e =>
      have h := List.forall_mem_cons.1 h
      exact (Expr.rewriteOption_stays (by simpa using h.1)).consEach (ih h.2)

theorem Expr.rewriteAll_atRest {es : List Expr} (h : ∀ e ∈ es, e.AtRest f) :
    (Expr.rewriteAll f es).Stays es := Expr.rewriteAll_stays fun e he => (h e he).rewrite

mutual

theorem Stmt.rewriteExprs_stays :
    ∀ s : Stmt, (∀ t ∈ s.nodes, t.AtRest f) → (s.rewriteExprs f).Stays s
  | .function head body location, h => by
    obtain ⟨hs, hbody⟩ := List.forall_mem_cons.1 h
    have hexprs := hs.exprs
    rw [Stmt.exprs, List.forall_mem_append, List.forall_mem_append] at hexprs
    rw [Stmt.rewriteExprs, FunctionHead.rewrite]
    exact (((((Expr.rewriteAll_atRest hexprs.1.1).pair (Param.rewriteEach_stays hexprs.1.2)).pair
      (Expr.rewriteOption_stays hexprs.2)).map _).pair (Stmt.rewriteBlock_stays body hbody)).map _
  | .classDef head body location, h => by
    obtain ⟨hs, hbody⟩ := List.forall_mem_cons.1 h
    have hexprs := hs.exprs
    rw [Stmt.exprs, List.forall_mem_append, List.forall_mem_append] at hexprs
    rw [Stmt.rewriteExprs, ClassHead.rewrite]
    exact (((((Expr.rewriteAll_atRest hexprs.1.1).pair (Expr.rewriteAll_atRest hexprs.1.2)).pair
      (Keyword.rewriteEach_stays fun e he => (hexprs.2 e he).rewrite)).map _).pair
      (Stmt.rewriteBlock_stays body hbody)).map _
  | .assign targets value location, h => by
    have hexprs := (List.forall_mem_singleton.1 h).exprs
    rw [Stmt.exprs, List.forall_mem_append] at hexprs
    rw [Stmt.rewriteExprs]
    exact ((Expr.rewriteAll_atRest hexprs.1).pair (hexprs.2 value (by simp)).rewrite).map _
  | .ret value location, h => by
    rw [Stmt.rewriteExprs]
    exact (Expr.rewriteOption_stays (List.forall_mem_singleton.1 h).exprs).map (Stmt.ret · location)
  | .expr value location, h => by
    rw [Stmt.rewriteExprs]
    exact ((List.forall_mem_singleton.1 h).exprs value (by simp [Stmt.exprs])).rewrite.map
      (Stmt.expr · location)
  | .tryExcept body handlers orelse finalbody location, h => by
    obtain ⟨hs, hblocks⟩ := List.forall_mem_cons.1 h
    rw [List.forall_mem_append, List.forall_mem_append, List.forall_mem_append] at hblocks
    obtain ⟨⟨⟨hbody, hhandlers⟩, horelse⟩, hfinal⟩ := hblocks
    have hall := ((((Handler.rewriteTypes_stays hs.exprs).pair
      (Stmt.rewriteBlock_stays body hbody)).pair
      (Handler.rewriteBodies_stays handlers hhandlers)).pair
      (Stmt.rewriteBlock_stays orelse horelse)).pair (Stmt.rewriteBlock_stays finalbody hfinal)
    have hmap := hall.map fun ((((types, body), bodies), orelse), finalbody) =>
      Stmt.tryExcept body (Handler.rebuild handlers types bodies) orelse finalbody location
    simp only [Handler.rebuild_self] at hmap
    exact hmap
  | .foreign _, h => by cases (List.forall_mem_singleton.1 h).isNode
  | .importNames .., _ | .importFrom .., _ | .pass _, _ | .captured .., _ => .keep _

/-- A pass over statements at rest changes nothing. -/
theorem Stmt.rewriteBlock_stays :
    ∀ b : List Stmt, (∀ t ∈ Stmt.nodesIn b, t.AtRest f) → (Stmt.rewriteBlock f b).Stays b
  | [], _ => .keep []
  | s :: rest, h => by
    rw [Stmt.nodesIn, List.forall_mem_append] at h
    exact (Stmt.rewriteExprs_stays s h.1).consEach (Stmt.rewriteBlock_stays rest h.2)

theorem Handler.rewriteBodies_stays :
    ∀ hs : List Handler, (∀ t ∈ Handler.nodesIn hs, t.AtRest f) →
      (Handler.rewriteBodies f hs).Stays (hs.map Handler.body)
  | [], _ => .keep []
  | .mk _ _ body :: rest, h => by
    rw [Handler.nodesIn, List.forall_mem_append] at h
    exact (Stmt.rewriteBlock_stays body h.1).consEach (Handler.rewriteBodies_stays rest h.2)

end

/-! ## Settling -/

section

variable {R : Expr → Expr → Prop}

theorem Keyword.Congr.values {ks ks' : List Keyword} (h : List.Forall₂ (Keyword.Congr R) ks ks') :
    List.Forall₂ R (ks.map Keyword.value) (ks'.map Keyword.value) := by
  induction h with
  | nil => exact .nil
  | cons hk _ ih =>
    obtain ⟨h⟩ := hk
    exact .cons h ih

theorem Piece.Congr.values {ps ps' : List Piece} (h : List.Forall₂ (Piece.Congr R) ps ps') :
    List.Forall₂ R (ps.filterMap Piece.value?) (ps'.filterMap Piece.value?) := by
  induction h with
  | nil => exact .nil
  | cons hp _ ih =>
    cases hp with
    | text => exact ih
    | field h => exact .cons h ih

theorem forall₂_filterMap_id {α β : Type} {R : α → β → Prop} {as : List (Option α)}
    {bs : List (Option β)} (h : List.Forall₂ (Option.Rel R) as bs) :
    List.Forall₂ R (as.filterMap id) (bs.filterMap id) := by
  induction h with
  | nil => exact .nil
  | cons hab _ ih =>
    cases hab with
    | none => exact ih
    | some h => exact .cons h ih

/-- What is directly inside congruent expressions is related. -/
theorem Expr.Congr.children {e e' : Expr} (h : Expr.Congr R e e') :
    List.Forall₂ R e.children e'.children := by
  cases h with
  | call hfunc hargs hkeywords =>
    exact List.rel_append (.cons hfunc hargs) (Keyword.Congr.values hkeywords)
  | binary hleft hright => exact .cons hleft (.cons hright .nil)
  | unary h => exact .cons h .nil
  | logical h => exact h
  | compare hleft hcomparators => exact .cons hleft hcomparators
  | «attribute» h => exact .cons h .nil
  | subscript hvalue hindex => exact .cons hvalue (.cons hindex .nil)
  | starred h => exact .cons h .nil
  | tuple h => exact h
  | list h => exact h
  | dict hkeys hvalues => exact List.rel_append (forall₂_filterMap_id hkeys) hvalues
  | formatted h => exact Piece.Congr.values h
  | name | string | number | truth | noneLiteral | captured => exact .nil

theorem forall₂_toList {α β : Type} {R : α → β → Prop} {a : Option α} {b : Option β}
    (h : Option.Rel R a b) : List.Forall₂ R a.toList b.toList := by
  cases h with
  | none => exact .nil
  | some h => exact .cons h .nil

theorem forall₂_mem_right {α β : Type} {R : α → β → Prop} {as : List α} {bs : List β}
    (h : List.Forall₂ R as bs) {b : β} (hb : b ∈ bs) : ∃ a ∈ as, R a b := by
  induction h with
  | nil => cases hb
  | cons hab _ ih =>
    rcases List.mem_cons.1 hb with rfl | hb
    · exact ⟨_, List.mem_cons_self, hab⟩
    · obtain ⟨a, ha, hr⟩ := ih hb
      exact ⟨a, List.mem_cons_of_mem _ ha, hr⟩

theorem forall₂_mem_left {α β : Type} {R : α → β → Prop} {as : List α} {bs : List β}
    (h : List.Forall₂ R as bs) {a : α} (ha : a ∈ as) : ∃ b ∈ bs, R a b :=
  forall₂_mem_right h.flip ha

theorem Param.Congr.hints {ps ps' : List Param} (h : List.Forall₂ (Param.Congr R) ps ps') :
    List.Forall₂ (Option.Rel R) (ps.map Param.hint) (ps'.map Param.hint) := by
  induction h with
  | nil => exact .nil
  | cons hp _ ih => exact .cons hp.hint ih

theorem Param.Congr.exprs {ps ps' : List Param} (h : List.Forall₂ (Param.Congr R) ps ps') :
    List.Forall₂ R (ps.flatMap Param.exprs) (ps'.flatMap Param.exprs) := by
  induction h with
  | nil => exact .nil
  | cons hp _ ih =>
    exact List.rel_append (List.rel_append (forall₂_toList hp.hint) (forall₂_toList hp.default)) ih

/-- The expressions that congruent statements hold themselves are related. -/
theorem Stmt.Congr.exprs {s s' : Stmt} (h : Stmt.Congr R s s') :
    List.Forall₂ R s.exprs s'.exprs := by
  cases h with
  | function h =>
    exact List.rel_append (List.rel_append h.decorators (Param.Congr.exprs h.params))
      (forall₂_toList h.returns)
  | classDef h =>
    exact List.rel_append (List.rel_append h.decorators h.bases) (Keyword.Congr.values h.keywords)
  | assign htargets hvalue => exact List.rel_append htargets (.cons hvalue .nil)
  | ret h => exact forall₂_toList h
  | expr h => exact .cons h .nil
  | tryExcept htypes hnames =>
    have h := forall₂_filterMap_id htypes
    rwa [List.filterMap_map, List.filterMap_map] at h
  | importNames | importFrom | pass | captured => exact .nil

theorem Stmt.Congr.isNode {s s' : Stmt} (h : Stmt.Congr R s s') : s'.isNode = true := by
  cases h <;> rfl

theorem Expr.Congr.isNode {e e' : Expr} (h : Expr.Congr R e e') : e'.isNode = true := by
  cases h <;> rfl

theorem Expr.Congr.isSound {e e' : Expr} (h : Expr.Congr R e e') (he : e.isSound = true) :
    e'.isSound = true := by
  cases h with
  | dict hkeys hvalues =>
    simp only [Expr.isSound, decide_eq_true_eq] at he ⊢
    rw [← hkeys.length_eq, ← hvalues.length_eq, he]
  | _ => rfl

/-- What holds throughout what is inside an expression holds inside a congruent one, if the relation
keeps it. -/
theorem Expr.Congr.children_all {P : Expr → Prop} {e e' : Expr} (h : Expr.Congr R e e')
    (hP : ∀ {c c' : Expr}, R c c' → c.All P → c'.All P) (he : e.All P) :
    ∀ c ∈ e'.children, c.All P := by
  intro c' hc'
  obtain ⟨c, hc, hrel⟩ := forall₂_mem_right h.children hc'
  exact hP hrel ((Expr.all_iff.1 he).2 c hc)

end

/-- What a rewriter puts in is at rest if what was directly inside the node is. -/
def Rewriter.Settles (f : Rewriter) : Prop :=
  ∀ node new, f node = .ok (some new) → (∀ c ∈ node.children, c.AtRest f) → new.AtRest f

theorem Rewriter.Settles.relates (hf : f.Settles) : f.Relates fun _ e => e.AtRest f where
  keep hcongr hnone :=
    Expr.all_iff.2 ⟨⟨hnone, hcongr.isNode⟩, fun _ hc =>
      (forall₂_mem_right hcongr.children hc).elim fun _ h => h.2⟩
  replace hcongr hsome :=
    hf _ _ hsome fun _ hc => (forall₂_mem_right hcongr.children hc).elim fun _ h => h.2

/-- A pass with a rewriter that settles leaves everything at rest. -/
theorem Stmt.rewriteBlock_atRest (hf : f.Settles) (b : List Stmt) :
    (Stmt.rewriteBlock f b).Gives fun b' => ∀ s ∈ Stmt.nodesIn b', s.AtRest f := by
  refine (Stmt.rewriteBlock_congr hf.relates b).mono fun b' h s hs => ?_
  obtain ⟨s₀, -, hcongr⟩ := forall₂_mem_right h hs
  refine ⟨hcongr.isNode, fun e he => ?_⟩
  obtain ⟨-, -, hrest⟩ := forall₂_mem_right hcongr.exprs he
  exact hrest

end

end Refactory
