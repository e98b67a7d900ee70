import Refactory.Proofs.Modernize.Scope
import Refactory.Proofs.Tree.Names

/-! # Statements that stay while lookups are rewritten

A guarded lookup collapses into one statement, and rewriting expressions moves none. So every statement
that is not inside a collapsed one has a counterpart at its own path (`Stmt.stand`), what is visible at it
stays visible (`outside_inView`), and if it gets a call it mentions the function
(`Stmt.Becomes.mentions`). -/

namespace Refactory

/-! ## Outside what collapses -/

/-- The items that are not inside a gone one. -/
def outside (gone : Stmt → Bool) (items : List (Path × Stmt)) : List (Path × Stmt) :=
  clearOf gone List.dropLast items

section

variable {gone : Stmt → Bool} {path : Path} {lo mid hi : Nat} {items more : List (Path × Stmt)}

theorem outside_append (h : Under path lo mid items) (h' : Under path mid hi more) :
    outside gone (items ++ more) = outside gone items ++ outside gone more :=
  clearOf_append List.dropLast_prefix h h'

theorem outside_cons {k : Int} {s : Stmt} (h : Under (path ++ [k]) lo hi items) :
    outside gone ((path ++ [k], s) :: items) =
      (path ++ [k], s) :: if gone s then [] else outside gone items := by
  have hbelow : ∀ i ∈ items, path ++ [k] <+: i.1.dropLast := by
    intro i hi
    obtain ⟨n, rest, heq, -, -⟩ := h i hi
    rw [heq, List.dropLast_append_of_ne_nil (List.cons_ne_nil _ _)]
    exact List.prefix_append _ _
  have hself : ¬path ++ [k] <+: (path ++ [k]).dropLast := by
    rw [List.dropLast_concat]
    intro hstarts
    have hlength := hstarts.length_le
    rw [List.length_append, List.length_singleton] at hlength
    omega
  refine (clearOf_cons List.dropLast_prefix h hbelow).trans ?_
  rw [if_neg fun hgone => hself hgone.2]
  rfl

/-- What is visible outside is outside. -/
theorem outside_inView {i : Path × Stmt} (hi : i ∈ outside gone items) (Q : Path × Stmt → Prop) :
    InView (outside gone items) Q i.1 ↔ InView items Q i.1 := by
  have hmem : ∀ {j : Path × Stmt}, j ∈ outside gone items ↔
      j ∈ items ∧ ∀ g ∈ items, gone g.2 = true → ¬g.1 <+: j.1.dropLast := by
    intro j
    simp [outside, clearOf, List.isPrefixOf_iff_prefix]
  constructor
  · rintro ⟨j, hj, hview⟩
    exact ⟨j, (hmem.1 hj).1, hview⟩
  · rintro ⟨j, hj, himport, hsees, hQ⟩
    refine ⟨j, hmem.2 ⟨hj, fun g hg hgone hstarts => ?_⟩, himport, hsees, hQ⟩
    exact (hmem.1 hi).2 g hg hgone (hstarts.trans hsees)

end

/-! ## What statements become -/

section

variable {g : Stmt → Option (List Stmt)} {f : Rewriter}

/-- What a statement has become, imports and blocks apart: it, or what has replaced it, with its own
expressions rewritten. -/
def Stmt.Becomes (g : Stmt → Option (List Stmt)) (f : Rewriter) (s s' : Stmt) : Prop :=
  ∃ t, (g s = some [t] ∨ g s = none ∧ t = s) ∧ (t.surface.rewriteExprs f).result = .ok s'.surface

theorem Stmt.rewriteBlock_isNode {b b' : List Stmt} (h : (Stmt.rewriteBlock f b).result = .ok b') :
    ∀ t ∈ Stmt.nodesIn b', t.isNode = true := by
  have hrelates : f.Relates fun _ _ => True := ⟨fun _ _ => trivial, fun _ _ => trivial⟩
  intro t ht
  obtain ⟨s, -, hcongr⟩ := forall₂_mem_right (Stmt.rewriteBlock_congr hrelates b b' h) ht
  exact hcongr.isNode

/-- Passes over the statements and the expressions of a block leave a statement for each one that is
not inside a replaced one, at its path. -/
def Stmt.Stand (g : Stmt → Option (List Stmt)) (f : Rewriter) (b : List Stmt) : Prop :=
  ∀ path first b', (Stmt.replaceBlock g b).fault = none →
    (Stmt.rewriteBlock f (Stmt.replaceBlock g b).now).result = .ok b' →
      b'.length = b.length ∧
      List.Forall₂ (fun i i' => i'.1 = i.1 ∧ i.2.Becomes g f i'.2)
        (outside (fun s => (g s).isSome) (Stmt.walkBlock path first b).items)
        (Stmt.walkBlock path first b').items

theorem Stmt.Stand.append {b c : List Stmt} (hb : Stmt.Stand g f b) (hc : Stmt.Stand g f c)
    (hnodes : ∀ t ∈ Stmt.nodesIn b, t.isNode = true) : Stmt.Stand g f (b ++ c) := by
  intro path first d hfault hd
  obtain ⟨happend, hnow⟩ := Stmt.replaceBlock_append (g := g) b c
  obtain ⟨hfront, hback⟩ := Option.or_eq_none_iff.1 (happend.symm.trans hfault)
  rw [hnow hfront, Stmt.rewriteBlock_append] at hd
  obtain ⟨b', c', hb', hc', rfl⟩ := hd
  obtain ⟨hlength, hfirst⟩ := hb path first b' hfront hb'
  obtain ⟨hlength', hsecond⟩ := hc path (first + b.length) c' hback hc'
  refine ⟨by rw [List.length_append, List.length_append, hlength, hlength'], ?_⟩
  rw [Stmt.walkBlock_items_append path first hnodes,
    Stmt.walkBlock_items_append path first (Stmt.rewriteBlock_isNode hb'), hlength,
    outside_append (Stmt.walkBlock_under path first b) (Stmt.walkBlock_under path _ c)]
  exact List.rel_append hfirst hsecond

/-- A statement and its children, or what takes its place. -/
theorem Stmt.Stand.single {s : Stmt} (hs : s.isNode = true)
    (h : (s.replace g).fault = none → ∃ t, (s.replace g).now = [t] ∧
      (g s = some [t] ∨ g s = none ∧ t.surface = s.surface) ∧
      ∀ (path : Path) (b' : List Stmt), (Stmt.rewriteBlock f t.children).result = .ok b' →
        List.Forall₂ (fun i i' => i'.1 = i.1 ∧ i.2.Becomes g f i'.2)
          (if (g s).isSome then []
            else outside (fun s => (g s).isSome) (Stmt.walkBlock path 0 s.children).items)
          (Stmt.walkBlock path 0 b').items) : Stmt.Stand g f [s] := by
  intro path first b' hfault hb'
  obtain ⟨hcons, hnow⟩ := Stmt.replaceBlock_cons (g := g) s []
  obtain ⟨hstmt, -⟩ := Option.or_eq_none_iff.1 (hcons.symm.trans hfault)
  obtain ⟨t, hreplace, ht, hinside⟩ := h hstmt
  have hnode' := Stmt.rewriteBlock_isNode hb'
  rw [hnow hstmt, hreplace] at hb'
  obtain ⟨t', rest, ht', hrest, rfl⟩ := Visit.consEach_ok.1 hb'
  cases hrest
  obtain ⟨hsurface, hchildren⟩ := Stmt.rewriteExprs_children ht'
  refine ⟨rfl, ?_⟩
  rw [Stmt.walkBlock_singleton path first hs, outside_cons (Stmt.walkBlock_under _ 0 s.children),
    Stmt.walkBlock_singleton path first (hnode' t' (by simp [Stmt.nodesIn, Stmt.nodes_children]))]
  refine .cons ⟨rfl, ?_⟩ (hinside _ _ hchildren)
  rcases ht with hsome | ⟨hnone, hsame⟩
  · exact ⟨t, .inl hsome, hsurface⟩
  · exact ⟨s, .inr ⟨hnone, rfl⟩, hsame ▸ hsurface⟩

/-- Passes over the statements and the expressions of a block keep its statements where they are, if
what takes the place of one is one without blocks. -/
theorem Stmt.stand (hg : ∀ s new, g s = some new → ∃ t, new = [t] ∧ t.children = []) {b : List Stmt}
    (hnodes : ∀ t ∈ Stmt.nodesIn b, t.isNode = true) : Stmt.Stand g f b := by
  refine Stmt.induct_nodes ?_ (fun hnode hs hb => hs.append hb hnode) ?_ hnodes
  · intro path first b' _ hb'
    cases hb'
    exact ⟨rfl, .nil⟩
  · intro s hnode hchildren
    cases hs : g s with
    | some new =>
      obtain ⟨t, rfl, ht⟩ := hg s new hs
      refine .single hnode fun _ => ⟨t, by rw [Stmt.replace_some hs], .inl hs, ?_⟩
      intro path b' hb'
      rw [ht] at hb'
      cases hb'
      rw [hs]
      exact .nil
    | none =>
      refine .single hnode fun hfault => ?_
      obtain ⟨hinside, hnow⟩ := Stmt.replace_none hnode hs
      obtain ⟨t, ht, hsurface, htchildren⟩ := hnow hfault
      refine ⟨t, ht, .inr ⟨hs, hsurface⟩, fun path b' hb' => ?_⟩
      rw [htchildren] at hb'
      rw [hs]
      exact (hchildren path 0 b' (hinside.symm.trans hfault) hb').2

/-- What is no import stays none, and an import stays as it is. -/
theorem Stmt.rewriteExprs_isImport {s s' : Stmt} (h : (s.rewriteExprs f).result = .ok s') :
    s'.isImport = s.isImport ∧ (s.isImport = true → s' = s) := by
  have hrelates : f.Relates fun _ _ => True := ⟨fun _ _ => trivial, fun _ _ => trivial⟩
  have hnodes := Stmt.rewriteExprs_congr hrelates s s' h
  rw [Stmt.nodes_eq, Stmt.nodes_eq, List.forall₂_cons] at hnodes
  cases hnodes.1 with
  | importNames | importFrom => exact ⟨rfl, fun _ => rfl⟩
  | _ => exact ⟨rfl, nofun⟩

theorem Stmt.Becomes.isImport {s s' : Stmt} (h : s.Becomes g f s')
    (hg : ∀ t, g s = some [t] → s.isImport = false ∧ t.isImport = false) :
    s'.isImport = s.isImport ∧ (s.isImport = true → s' = s) := by
  obtain ⟨t, ht, hsurface⟩ := h
  obtain ⟨hsame, hkeep⟩ := Stmt.rewriteExprs_isImport hsurface
  rw [Stmt.surface_isImport, Stmt.surface_isImport] at hsame
  rcases ht with hsome | ⟨-, rfl⟩
  · obtain ⟨hs, ht⟩ := hg t hsome
    refine ⟨by rw [hsame, ht, hs], fun himport => ?_⟩
    rw [hs] at himport
    cases himport
  · refine ⟨hsame, fun himport => ?_⟩
    have hself : ∀ u : Stmt, u.isImport = true → u.surface = u := fun u hu => by
      cases u <;> first | rfl | cases hu
    rw [← hself s' (hsame.trans himport), ← hself t himport]
    exact hkeep ((Stmt.surface_isImport t).trans himport)

end

/-! ## Calls -/

/-- A lookup stands in an expression of a statement itself. -/
def Stmt.LooksUp (callers : List Text) (s : Stmt) : Prop :=
  ∃ e ∈ s.exprs, ∃ n : Expr, n.Within e ∧ versionArgument? callers n ≠ none

/-- What an expression has become with lookups turned into calls: names and calls by name stay such,
and if there was a lookup inside, the function is mentioned. -/
structure Expr.CallsFor (callers : List Text) (function : Text) (e e' : Expr) : Prop where
  name : ∀ id, e = .name id → e' = e
  call : ∀ id argument, e = .call (.name id) [argument] [] →
    ∃ argument', e' = .call (.name id) [argument'] []
  calls : (∃ n : Expr, n.Within e ∧ versionArgument? callers n ≠ none) → (Expr.name function).Within e'

theorem versionArgument?_ne_none {callers : List Text} {e : Expr}
    (h : versionArgument? callers e ≠ none) : ∃ id argument, id ∈ callers ∧
      e = .attribute (.call (.name id) [argument] []) "version" := by
  unfold versionArgument? at h
  split at h
  · rename_i id argument attr
    split at h
    · rename_i hlookup
      exact ⟨id, argument, List.contains_iff_mem.1 hlookup.2, by rw [hlookup.1]⟩
    · exact (h rfl).elim
  · exact (h rfl).elim

theorem lookupCall_callsFor (callers : List Text) (function : Text) :
    Rewriter.Relates (fun e => .ok (lookupCall callers function e)) (Expr.CallsFor callers function) where
  keep {e node} hcongr hnone := by
    refine ⟨?_, ?_, ?_⟩
    · rintro id rfl
      cases hcongr
      rfl
    · rintro id argument rfl
      cases hcongr with
      | call hfunc hargs hkeywords =>
        cases hkeywords
        cases hargs with
        | cons hargument hrest =>
          cases hrest
          rw [hfunc.name id rfl]
          exact ⟨_, rfl⟩
    · rintro ⟨n, hn, hlookup⟩
      rcases Expr.within_iff.1 hn with rfl | ⟨c, hc, hn⟩
      · -- A lookup would still be one after what is inside it has been rewritten.
        obtain ⟨id, argument, hid, rfl⟩ := versionArgument?_ne_none hlookup
        cases hcongr with
        | «attribute» hvalue =>
          obtain ⟨argument', rfl⟩ := hvalue.call id argument rfl
          simp [lookupCall, versionArgument?, hid] at hnone
      · obtain ⟨c', hc', hrel⟩ := forall₂_mem_left hcongr.children hc
        exact Expr.within_iff.2 (.inr ⟨c', hc', hrel.calls ⟨n, hn, hlookup⟩⟩)
  replace {e node new} hcongr hnew := by
    rw [Except.ok.injEq, lookupCall, Option.map_eq_some_iff] at hnew
    obtain ⟨argument, hargument, rfl⟩ := hnew
    obtain ⟨id, argument', -, rfl⟩ := versionArgument?_ne_none (hargument ▸ Option.some_ne_none _)
    cases hcongr
    refine ⟨nofun, nofun, fun _ => ?_⟩
    exact Expr.within_iff.2 (.inr ⟨_, List.mem_cons_self, .self⟩)

/-- A statement that gets a call mentions the function. -/
theorem Stmt.Becomes.mentions {callers notFound : List Text} {function : Text} {s s' : Stmt}
    (h : s.Becomes (collapse callers notFound function)
      (fun e => .ok (lookupCall callers function e)) s')
    (hcall : (collapse callers notFound function s).isSome = true ∨ s.LooksUp callers) :
    s'.Mentions function := by
  obtain ⟨t, ht, hsurface⟩ := h
  have hrelates := lookupCall_callsFor callers function
  have hnodes := Stmt.rewriteExprs_congr hrelates _ _ hsurface
  rw [Stmt.nodes_eq, Stmt.nodes_eq, List.forall₂_cons] at hnodes
  have hexprs := hnodes.1.exprs
  rw [Stmt.surface_exprs, Stmt.surface_exprs] at hexprs
  have hname : ∀ e' ∈ s'.exprs, (Expr.name function).Within e' → s'.Mentions function :=
    fun e' he' hwithin => .inl ⟨e', he', _, hwithin, List.mem_singleton_self _⟩
  rcases ht with hsome | ⟨hnone, rfl⟩
  · obtain ⟨targets, -, -, -, location, argument, -, -, hassign⟩ := collapse_some hsome
    cases hassign
    obtain ⟨value, hvalue, hrel⟩ :=
      forall₂_mem_left hexprs (List.mem_append_right _ (List.mem_singleton_self _))
    obtain ⟨argument', rfl⟩ := hrel.call function argument rfl
    exact hname _ hvalue (Expr.within_iff.2 (.inr ⟨_, List.mem_cons_self, .self⟩))
  · rw [hnone] at hcall
    obtain ⟨e, he, hlookup⟩ := hcall.resolve_left nofun
    obtain ⟨e', he', hrel⟩ := forall₂_mem_left hexprs he
    exact hname e' he' (hrel.calls hlookup)

end Refactory
