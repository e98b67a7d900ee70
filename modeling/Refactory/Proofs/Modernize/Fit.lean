import Refactory.Proofs.Build.Fit
import Refactory.Proofs.Modernize.Settled
import Refactory.Proofs.Modernize.Total

/-! # Edits that keep modules fit

Every edit that a plan is made of leaves a fit module if it succeeds on one (`Edit.KeepsFit`). That its
imports are named is known (`Edit.Honest`), and what is left to see to are the nodes. Edits of imports
keep the content of a tree; the others put in expressions and statements that are as fit as those that
they take away. -/

namespace Refactory

/-! ## What is put in -/

theorem Stmt.surface_fit (s : Stmt) : s.surface.Fit ↔ s.Fit := by
  constructor <;> rintro ⟨hnode, hexprs⟩
  · exact ⟨s.surface_isNode ▸ hnode, s.surface_exprs ▸ hexprs⟩
  · exact ⟨s.surface_isNode.trans hnode, s.surface_exprs.symm ▸ hexprs⟩

theorem Stmt.isImport_fit {s : Stmt} (h : s.isImport = true) : s.Fit :=
  ⟨Stmt.isImport_isNode h, by simp [Stmt.isImport_exprs h]⟩

/-- Trees of one content have fit nodes together. -/
theorem Stmt.nodes_fit_of_content {b c : List Stmt} (h : Stmt.content b = Stmt.content c)
    (hb : ∀ s ∈ Stmt.nodesIn b, s.Fit) : ∀ s ∈ Stmt.nodesIn c, s.Fit := by
  have htransport := Stmt.content_forall (fun _ => Stmt.isImport_fit) Stmt.surface_fit
  rw [htransport] at hb ⊢
  rwa [← h]

theorem Expr.Congr.isPaired {R : Expr → Expr → Prop} {e e' : Expr} (h : Expr.Congr R e e')
    (he : e.isPaired = true) : e'.isPaired = true := by
  cases h with
  | compare hleft hcomparators =>
    simp only [Expr.isPaired, decide_eq_true_eq] at he ⊢
    rw [← hcomparators.length_eq, he]
  | dict hkeys hvalues =>
    simp only [Expr.isPaired, decide_eq_true_eq] at he ⊢
    rw [← hkeys.length_eq, ← hvalues.length_eq, he]
  | _ => rfl

/-- An expression with what is inside as fit as before is as fit. -/
theorem Expr.Congr.fit {e e' : Expr} (h : Expr.Congr (fun c c' => c.Fit → c'.Fit) e e')
    (he : e.Fit) : e'.Fit := by
  obtain ⟨hsound, hpaired⟩ := he e .self
  exact .of_children ⟨h.isSound hsound, h.isPaired hpaired⟩ (h.children_all (fun h => h) he)

/-- A rewriter puts in what is fit for what is fit. -/
def Rewriter.Fits (f : Rewriter) : Prop :=
  ∀ node new, f node = .ok (some new) → node.Fit → new.Fit

theorem Rewriter.Fits.relates {f : Rewriter} (hf : f.Fits) : f.Relates fun e e' => e.Fit → e'.Fit where
  keep hcongr _ := hcongr.fit
  replace hcongr hnew he := hf _ _ hnew (hcongr.fit he)

theorem lookupCall_fits (callers : List Text) (function : Text) :
    Rewriter.Fits fun e => .ok (lookupCall callers function e) := by
  intro node new hnew hnode
  rw [Except.ok.injEq, lookupCall, Option.map_eq_some_iff] at hnew
  obtain ⟨argument, hargument, rfl⟩ := hnew
  exact Expr.call_all ⟨rfl, rfl⟩ ⟨rfl, rfl⟩ fun n hn =>
    hnode n (hn.trans (versionArgument?_within hargument))

theorem modernizeFormat_fits : Rewriter.Fits modernizeFormat := by
  intro node new hnew hnode
  obtain ⟨parts, args, rfl, hfields, -, hfills⟩ := modernizeFormat_some hnew
  exact .of_children ⟨rfl, rfl⟩ fun e he =>
    hfills.args_all (Expr.all_iff.1 hnode).2 e ((hfields e).1 he)

/-! ## Edits -/

/-- An edit that succeeds on a fit module leaves a fit module. -/
def Edit.KeepsFit {α : Type} (e : Edit α) : Prop :=
  ∀ ⦃m : Module⦄ ⦃a : α⦄ ⦃m' : Module⦄, m.Fit → e.perform m = (.ok a, m') → m'.Fit

/-- An edit keeps the imports of a module named, so it is enough to look at the nodes. -/
theorem Edit.Honest.keepsFit {α : Type} {e : Edit α} {nothing : α → Prop} (he : e.Honest nothing)
    (hnodes : ∀ ⦃m : Module⦄ ⦃a : α⦄ ⦃m' : Module⦄, (∀ s ∈ Stmt.nodesIn m.body, s.Fit) →
      e.perform m = (.ok a, m') → ∀ s ∈ Stmt.nodesIn m'.body, s.Fit) : e.KeepsFit :=
  fun _ _ _ hm h => ⟨hnodes hm.nodes h, (he hm.named h).1⟩

section

variable {m m' : Module}

theorem rewriteExprs_nodes {f : Rewriter} (hf : f.Fits) {n : Nat}
    (hm : ∀ s ∈ Stmt.nodesIn m.body, s.Fit) (h : (rewriteExprs f).perform m = (.ok n, m')) :
    ∀ s ∈ Stmt.nodesIn m'.body, s.Fit := by
  intro s' hs'
  obtain ⟨s, hs, hcongr⟩ := forall₂_mem_right
    (Stmt.rewriteBlock_congr hf.relates m.body m'.body (rewriteExprs_ok h).1) hs'
  refine ⟨hcongr.isNode, fun e' he' => ?_⟩
  obtain ⟨e, he, hfit⟩ := forall₂_mem_right hcongr.exprs he'
  exact hfit ((hm s hs).exprs e he)

/-- Replacing statements succeeds and leaves fit nodes, if replacements are fit. -/
theorem replaceStmts_nodes {g : Stmt → Option (List Stmt)}
    (hg : ∀ s new, g s = some new → (∀ t ∈ s.nodes, t.Fit) → ∀ t ∈ Stmt.nodesIn new, t.Fit)
    (hm : ∀ s ∈ Stmt.nodesIn m.body, s.Fit) :
    ∀ s ∈ Stmt.nodesIn (m.replaceStmts g).now, s.Fit :=
  (Stmt.replaceBlock_nodes (fun _ h => h.isNode) Stmt.surface_fit hg hm).2

theorem collapse_fit {callers notFound : List Text} {function : Text} {s : Stmt} {new : List Stmt}
    (h : collapse callers notFound function s = some new) (hs : ∀ t ∈ s.nodes, t.Fit) :
    ∀ t ∈ Stmt.nodesIn new, t.Fit := by
  intro t ht
  obtain ⟨hnode, hexprs⟩ := collapse_nodes h t ht
  refine ⟨hnode, fun e he => ?_⟩
  obtain ⟨u, hu, d, hd, rfl | ⟨argument, hargument, rfl⟩⟩ := hexprs e he
  · exact (hs u hu).exprs e hd
  · exact Expr.call_all ⟨rfl, rfl⟩ ⟨rfl, rfl⟩ fun n hn =>
      (hs u hu).exprs d hd n (hn.trans hargument)

theorem renameImports_fit (old new : Text) : (renameImports old new).KeepsFit := by
  refine (renameImports_honest old new).keepsFit fun m n m' hm h => ?_
  obtain ⟨-, -, rfl⟩ := renameImports_ok h
  refine replaceStmts_nodes (fun s news hnews _ t ht => ?_) hm
  rw [Option.ite_none_left_eq_some, Option.some.injEq] at hnews
  obtain ⟨hold, rfl⟩ := hnews
  have himport : ∀ t ∈ [s.renameImport old new], t.isImport = true := by
    rw [List.forall_mem_singleton, Stmt.renameImport_isImport]
    exact Stmt.isImport_of_importsOf hold
  rw [Stmt.nodesIn_of_imports himport] at ht
  exact Stmt.isImport_fit (himport t ht)

theorem renameThrough_fit : ∀ table, (renameThrough table).KeepsFit
  | [], m, applied, m', hm, h => by
    cases h
    exact hm
  | (old, new) :: rest, m, applied, m', hm, h => by
    rw [renameThrough, Edit.perform_bind_ok] at h
    obtain ⟨count, mid, hfirst, h⟩ := h
    rw [Edit.perform_bind_ok] at h
    obtain ⟨others, m'', hrest, h⟩ := h
    cases h
    exact renameThrough_fit rest (renameImports_fit old new hm hfirst) hrest

theorem renameLegacyImports_fit (table : List (Text × Text)) : (renameLegacyImports table).KeepsFit :=
  renameThrough_fit _

theorem modernizeStrings_fit : modernizeStrings.KeepsFit :=
  modernizeStrings_honest.keepsFit fun _ _ _ => rewriteExprs_nodes modernizeFormat_fits

theorem modernizeVersions_fit (targetModule targetFunction : Text) :
    (modernizeVersions targetModule targetFunction).KeepsFit := by
  refine (modernizeVersions_honest targetModule targetFunction).keepsFit fun m report m' hm h => ?_
  rcases modernizeVersions_ok h with ⟨-, rfl, -⟩ | ⟨p, -, ⟨r⟩⟩
  · exact hm
  · refine Stmt.nodes_fit_of_content (r.content.1.trans r.content.2) ?_
    refine rewriteExprs_nodes (lookupCall_fits p.callers p.function) ?_ r.rewrite
    obtain ⟨-, -, hcollapsed⟩ := replaceStmts_ok r.collapse
    rw [hcollapsed]
    exact replaceStmts_nodes (fun _ _ => collapse_fit) hm

theorem dropUnusedImports_fit : dropUnusedImports.KeepsFit := by
  refine dropUnusedImports_honest.keepsFit fun m removed m' hm h => ?_
  obtain ⟨used, -, -, rfl⟩ := dropUnusedImports_ok h
  exact Stmt.nodes_fit_of_content (dropUnused_content used m.body).symm hm

theorem sortImports_fit : sortImports.KeepsFit := by
  refine sortImports_honest.keepsFit fun m n m' hm h => ?_
  obtain ⟨hperm, -⟩ := sortRuns_perm (sortImports_ok h)
  rw [Stmt.nodesIn_eq] at hm ⊢
  intro s hs
  exact hm s ((hperm.flatMap_right _).mem_iff.1 hs)

/-- A definition by another name holds what it held, but for plain names. -/
theorem Stmt.renameDefined_fit (old new : Text) {s : Stmt} (hs : ∀ t ∈ s.nodes, t.Fit) :
    ∀ t ∈ (s.renameDefined old new).nodes, t.Fit := by
  have hself := hs s s.mem_nodes_self
  have hblocks : (s.renameDefined old new).blocks = s.blocks := by cases s <;> rfl
  rw [Stmt.nodes_eq, List.forall_mem_cons] at hs
  rw [Stmt.nodes_eq, hblocks, List.forall_mem_cons]
  refine ⟨?_, hs.2⟩
  cases s with
  | assign targets value location =>
    obtain ⟨htargets, hvalue⟩ := List.forall_mem_append.1 hself.exprs
    refine ⟨rfl, List.forall_mem_append.2 ⟨?_, hvalue⟩⟩
    rw [List.forall_mem_map]
    intro e he
    cases e with
    | name id => exact .of_children ⟨rfl, rfl⟩ (List.forall_mem_nil _)
    | _ => exact htargets _ he
  | _ => exact ⟨hself.isNode, hself.exprs⟩

theorem renameDefinitions_fit (what : Definition) (old new : Text) :
    (renameDefinitions what old new).KeepsFit := by
  refine (renameDefinitions_honest what old new).keepsFit fun m location m' hm h => ?_
  obtain rfl := renameDefinitions_ok h
  rw [Stmt.nodesIn_eq, List.forall_mem_flatMap] at hm ⊢
  rw [List.forall_mem_map]
  intro s hs
  split
  · exact Stmt.renameDefined_fit old new (hm s hs)
  · exact hm s hs

end

end Refactory
