import Refactory.Modernize.ImportSource
import Refactory.Modernize.Order
import Refactory.Modernize.Returns
import Refactory.Modernize.Strings
import Refactory.Modernize.Unused
import Refactory.Proofs.Modernize.Splice
import Refactory.Proofs.Rewrite.Perform
import Refactory.Proofs.Tree.Nodes
import Refactory.Session.Edits

/-! # Edits that tell what they do

The modernizations decide by what they report whether there is something to log. On a module whose
imports all import something, one that reports nothing has changed nothing, and all of them leave such
a module (`Edit.Honest`). An import of nothing would break this: removing it is not reported. -/

namespace Refactory

/-- Every import imports something. -/
def Module.Named (m : Module) : Prop :=
  Stmt.EachImport (fun s => s.importsNothing = false) m.body

/-- On a module whose imports are named, an edit that succeeds leaves such a module, and the module as
it was if it reports nothing. -/
def Edit.Honest {α : Type} (e : Edit α) (nothing : α → Prop) : Prop :=
  ∀ ⦃m : Module⦄ ⦃a : α⦄ ⦃m' : Module⦄, m.Named → e.perform m = (.ok a, m') →
    m'.Named ∧ (nothing a → m' = m)

/-! ## Passes -/

theorem replaceStmts_ok {g : Stmt → Option (List Stmt)} {m m' : Module} {n : Nat}
    (h : (replaceStmts g).perform m = (.ok n, m')) :
    (m.replaceStmts g).fault = none ∧ n = (m.replaceStmts g).count ∧
      m' = ⟨(m.replaceStmts g).now⟩ := by
  change replaceStmts g m = _ at h
  rw [replaceStmts] at h
  cases hfault : (m.replaceStmts g).fault with
  | some f =>
    simp only [hfault] at h
    cases h
  | none =>
    simp only [hfault] at h
    cases h
    exact ⟨rfl, rfl, rfl⟩

theorem rewriteExprs_ok {f : Rewriter} {m m' : Module} {n : Nat}
    (h : (rewriteExprs f).perform m = (.ok n, m')) :
    (m.rewriteExprs f).result = .ok m'.body ∧ n = (m.rewriteExprs f).count := by
  change ((m.rewriteExprs f).result.map fun _ => (m.rewriteExprs f).count,
    Module.mk (m.rewriteExprs f).now) = _ at h
  cases hresult : (m.rewriteExprs f).result with
  | error fault => simp [hresult, Except.map] at h
  | ok b =>
    simp only [hresult, Except.map, Prod.mk.injEq, Except.ok.injEq, Visit.now] at h
    exact ⟨by rw [← h.2], h.1.symm⟩

theorem rewriteExprs_honest (f : Rewriter) : (rewriteExprs f).Honest (· = 0) := by
  intro m n m' hm h
  obtain ⟨hresult, rfl⟩ := rewriteExprs_ok h
  refine ⟨?_, fun hcount => ?_⟩
  · rw [Module.Named, Stmt.EachImport, Stmt.rewriteBlock_importList f m.body m'.body hresult]
    exact hm
  · exact congrArg Module.mk (Stmt.rewriteBlock_keeps f m.body hcount m'.body hresult)

theorem modernizeStrings_honest : modernizeStrings.Honest (· = 0) := rewriteExprs_honest _

/-! ## Sources of imports -/

theorem Stmt.renameImport_importsNothing (old new : Text) (s : Stmt) :
    (s.renameImport old new).importsNothing = s.importsNothing := by
  cases s with
  | importNames names location => exact List.isEmpty_map
  | _ => rfl

theorem Stmt.renameImport_isImport (old new : Text) (s : Stmt) :
    (s.renameImport old new).isImport = s.isImport := by
  cases s <;> rfl

theorem Stmt.renameImport_blocks (old new : Text) (s : Stmt) :
    (s.renameImport old new).blocks = s.blocks := by
  cases s <;> rfl

theorem Stmt.importsOf_other {s : Stmt} (h : s.isImport = false) (old : Text) :
    s.importsOf old = 0 := by
  cases s with
  | importNames names location | importFrom module names level location => cases h
  | _ => rfl

theorem Stmt.isImport_of_importsOf {s : Stmt} {old : Text} (h : s.importsOf old ≠ 0) :
    s.isImport = true := by
  cases himport : s.isImport with
  | true => rfl
  | false => exact (h (Stmt.importsOf_other himport old)).elim

/-- What an import of `new` in place of `old` imports is what the import did. -/
theorem renameImport_turnsImports {p q : Stmt → Prop} (old new : Text)
    (hkeep : ∀ s : Stmt, s.importsOf old = 0 → p s → q s)
    (hrename : ∀ s : Stmt, s.importsOf old ≠ 0 → p s → q (s.renameImport old new)) :
    TurnsImports p q fun s =>
      if s.importsOf old = 0 then none else some [s.renameImport old new] where
  replace s news h hs := by
    simp only [Option.ite_none_left_eq_some, Option.some.injEq] at h
    obtain ⟨hold, rfl⟩ := h
    have himport := Stmt.isImport_of_importsOf hold
    rw [Stmt.eachImport_singleton, Stmt.renameImport_blocks, Stmt.isImport_blocks himport]
    exact ⟨fun _ => hrename s hold ((Stmt.eachImport_singleton.1 hs).1 himport), by simp⟩
  keep s _ h hs := by
    rw [ite_eq_left_iff] at h
    exact hkeep s (by simpa using h) hs

theorem renameImports_ok {old new : Text} {m m' : Module} {n : Nat}
    (h : (renameImports old new).perform m = (.ok n, m')) :
    let r := m.replaceStmts fun s =>
      if s.importsOf old = 0 then none else some [s.renameImport old new]
    r.fault = none ∧ n = (r.seen.map (Stmt.importsOf old)).foldr (· + ·) 0 ∧ m' = ⟨r.now⟩ := by
  change renameImports old new m = _ at h
  rw [renameImports] at h
  dsimp only
  generalize (m.replaceStmts fun s =>
    if s.importsOf old = 0 then none else some [s.renameImport old new]) = r at h ⊢
  cases hfault : r.fault with
  | some f =>
    simp only [hfault] at h
    cases h
  | none =>
    simp only [hfault] at h
    cases h
    exact ⟨rfl, rfl, rfl⟩

theorem foldr_add_eq_zero {ns : List Nat} : ns.foldr (· + ·) 0 = 0 ↔ ∀ n ∈ ns, n = 0 := by
  induction ns with
  | nil => simp
  | cons n ns ih => rw [List.foldr_cons, Nat.add_eq_zero_iff, ih, List.forall_mem_cons]

theorem renameImports_honest (old new : Text) : (renameImports old new).Honest (· = 0) := by
  intro m n m' hm h
  obtain ⟨hfault, rfl, rfl⟩ := renameImports_ok h
  refine ⟨Stmt.replaceBlock_eachImport (renameImport_turnsImports old new (fun _ _ h => h)
    fun s _ h => (Stmt.renameImport_importsNothing old new s).trans h) m.body hm hfault, ?_⟩
  intro hsum
  rw [foldr_add_eq_zero] at hsum
  have hnow := (Stmt.replaceBlock_follows _ m.body).keeps fun s hs =>
    if_pos (hsum _ (List.mem_map_of_mem hs))
  rw [Module.replaceStmts, hnow]

theorem renameThrough_honest : ∀ table, (renameThrough table).Honest (· = [])
  | [], m, applied, m', hm, h => by
    cases h
    exact ⟨hm, fun _ => rfl⟩
  | (old, new) :: rest, m, applied, m', hm, h => by
    rw [renameThrough, Edit.perform_bind_ok] at h
    obtain ⟨count, mid, hfirst, h⟩ := h
    rw [Edit.perform_bind_ok] at h
    obtain ⟨others, m'', hrest, h⟩ := h
    rw [Edit.perform_pure, Prod.mk.injEq, Except.ok.injEq] at h
    obtain ⟨rfl, rfl⟩ := h
    obtain ⟨hmid, hidle⟩ := renameImports_honest old new hm hfirst
    obtain ⟨hnamed, hidle'⟩ := renameThrough_honest rest hmid hrest
    refine ⟨hnamed, fun hnone => ?_⟩
    by_cases hcount : count = 0
    · rw [hidle' (by simpa [hcount] using hnone), hidle hcount]
    · simp [hcount] at hnone

theorem renameLegacyImports_honest (table : List (Text × Text)) :
    (renameLegacyImports table).Honest (· = []) := renameThrough_honest _

/-! ## Unused imports -/

theorem Stmt.importsNothing_other {s : Stmt} (h : s.isImport = false) :
    s.importsNothing = false := by
  cases s with
  | importNames names location | importFrom module names level location => cases h
  | _ => rfl

theorem Stmt.dropUnused_other {s : Stmt} (h : s.isImport = false) (used : List Text) :
    s.dropUnused used = s := by
  cases s with
  | importNames names location | importFrom module names level location => cases h
  | _ => rfl

theorem Stmt.dropUnused_isImport (used : List Text) (s : Stmt) :
    (s.dropUnused used).isImport = s.isImport := by
  cases s with
  | importFrom module names level location =>
    by_cases h : module = some (Text.ofString "__future__") <;>
      simp [Stmt.dropUnused, Stmt.droppable, h, Stmt.setAliases, Stmt.isImport]
  | _ => rfl

/-- An import none of whose names is unused stays as it is. -/
theorem Stmt.dropUnused_self {used : List Text} {s : Stmt} (h : s.unusedNames used = []) :
    s.dropUnused used = s := by
  have hkept : ∀ names binding, s.droppable = some (names, binding) →
      names.filter (·.isKept used binding) = names := by
    intro names binding hs
    simp only [Stmt.unusedNames, hs, List.map_eq_nil_iff, List.filter_eq_nil_iff] at h
    rw [List.filter_eq_self]
    simpa using h
  unfold Stmt.dropUnused
  cases hs : s.droppable with
  | none => rfl
  | some found =>
    obtain ⟨names, binding⟩ := found
    simp only [hkept names binding hs]
    cases s with
    | importNames names' location => cases hs; rfl
    | importFrom module names' level location =>
      simp only [Stmt.droppable, Option.ite_none_left_eq_some, Option.some.injEq,
        Prod.mk.injEq] at hs
      rw [← hs.2.1]
      rfl
    | _ => cases hs

theorem dropUnusedImports_ok {m m' : Module} {removed : List Text}
    (h : dropUnusedImports.perform m = (.ok removed, m')) :
    ∃ used, usedNames m = .ok used ∧ removed = m.body.flatMap (·.unusedNames used) ∧
      m' = ⟨(m.body.map (·.dropUnused used)).filter (!·.importsNothing)⟩ := by
  rw [dropUnusedImports, Edit.perform_bind_ok] at h
  obtain ⟨used, mid, hask, h⟩ := h
  obtain ⟨hused, rfl⟩ := Edit.perform_ask_ok hask
  obtain ⟨hremoved, rfl⟩ := Prod.mk.inj h
  exact ⟨used, hused, (Except.ok.inj hremoved).symm, rfl⟩

theorem dropUnusedImports_honest : dropUnusedImports.Honest (· = []) := by
  intro m removed m' hm h
  obtain ⟨used, -, rfl, rfl⟩ := dropUnusedImports_ok h
  rw [Module.Named, Stmt.eachImport_iff] at hm
  refine ⟨?_, fun hnone => ?_⟩
  · rw [Module.Named, Stmt.eachImport_iff]
    intro t ht
    rw [List.mem_filter, List.mem_map] at ht
    obtain ⟨⟨s, hs, rfl⟩, hkept⟩ := ht
    cases himport : s.isImport with
    | false =>
      rw [Stmt.dropUnused_other himport]
      exact hm s hs
    | true =>
      have himport' := (Stmt.dropUnused_isImport used s).trans himport
      rw [Stmt.eachImport_singleton, Stmt.isImport_blocks himport']
      exact ⟨fun _ => by simpa using hkept, by simp⟩
  · have hself : m.body.map (·.dropUnused used) = m.body := by
      refine (List.map_congr_left fun s hs => ?_).trans (List.map_id _)
      exact Stmt.dropUnused_self (List.flatMap_eq_nil_iff.1 hnone s hs)
    have hnamed : m.body.filter (!·.importsNothing) = m.body := by
      rw [List.filter_eq_self]
      intro s hs
      cases himport : s.isImport with
      | true => simpa using (Stmt.eachImport_singleton.1 (hm s hs)).1 himport
      | false => rw [Stmt.importsNothing_other himport, Bool.not_false]
    rw [hself, hnamed]

/-! ## Order -/

theorem sortRun_perm {run sorted : List Stmt} {changed : Bool}
    (h : sortRun run = .ok (sorted, changed)) : sorted.Perm run ∧ (changed = false → sorted = run) := by
  unfold sortRun at h
  cases hkeys : run.mapM Stmt.importKey with
  | error f => simp [hkeys, bind, Except.bind] at h
  | ok keys =>
    simp only [hkeys, bind, Except.bind] at h
    split at h
    · cases h
      exact ⟨.refl _, fun _ => rfl⟩
    · cases h
      refine ⟨?_, fun hfalse => by cases hfalse⟩
      have hlength : keys.length = run.length := by
        simpa using (congrArg List.length (mapM_ok.1 hkeys)).symm
      have hperm := (List.mergeSort_perm (keys.zip run) fun a b => keyLe a.1 b.1).map (·.2)
      rwa [List.map_snd_zip (by omega)] at hperm

/-- Ordering the runs of a block moves its statements, and none if no run is reported. -/
theorem sortRuns_perm {run rest b : List Stmt} {n : Nat} (h : sortRuns run rest = (b, .ok n)) :
    b.Perm (run.reverse ++ rest) ∧ (n = 0 → b = run.reverse ++ rest) := by
  induction rest generalizing run b n with
  | nil =>
    rw [sortRuns] at h
    split at h
    · rename_i sorted changed hrun
      cases h
      obtain ⟨hperm, hself⟩ := sortRun_perm hrun
      rw [List.append_nil]
      exact ⟨hperm, fun hn => hself (by cases changed <;> simp_all)⟩
    · cases h
  | cons s rest ih =>
    rw [sortRuns] at h
    split at h
    · have := ih h
      simpa using this
    · split at h
      · rename_i sorted changed hrun
        obtain ⟨hperm, hself⟩ := sortRun_perm hrun
        rcases hrest : sortRuns [] rest with ⟨tail, count⟩
        cases count with
        | error f => simp [hrest, Except.map] at h
        | ok k =>
          simp only [hrest, Except.map, Prod.mk.injEq, Except.ok.injEq] at h
          obtain ⟨rfl, rfl⟩ := h
          obtain ⟨hperm', hself'⟩ := ih hrest
          refine ⟨hperm.append (hperm'.cons s), fun hn => ?_⟩
          rw [hself (by cases changed <;> simp_all), hself' (by omega)]
          rfl
      · cases h

theorem sortImports_ok {m m' : Module} {n : Nat} (h : sortImports.perform m = (.ok n, m')) :
    sortRuns [] m.body = (m'.body, .ok n) := by
  change ((sortRuns [] m.body).2, Module.mk (sortRuns [] m.body).1) = _ at h
  rw [Prod.mk.injEq] at h
  exact Prod.ext (congrArg Module.body h.2) h.1

theorem sortImports_honest : sortImports.Honest (· = 0) := by
  intro m n m' hm h
  obtain ⟨hperm, hself⟩ := sortRuns_perm (sortImports_ok h)
  refine ⟨?_, fun hn => congrArg Module.mk (hself hn)⟩
  rw [Module.Named, Stmt.eachImport_iff] at hm ⊢
  exact fun s hs => hm s (hperm.mem_iff.1 hs)

/-! ## Definitions -/

theorem Stmt.annotateReturn_some {hints : List (Text × Expr)} {s t : Stmt}
    (h : s.annotateReturn hints = some t) :
    (∃ name, t.name? = some name) ∧ t.importList = s.importList := by
  cases s with
  | function head body location =>
    simp only [Stmt.annotateReturn, Option.ite_none_left_eq_some, Option.map_eq_some_iff] at h
    obtain ⟨-, hint, -, rfl⟩ := h
    exact ⟨⟨_, rfl⟩, rfl⟩
  | _ => cases h

theorem annotateReturns_honest (hints : List (Text × Expr)) :
    (annotateReturns hints).Honest (· = []) := by
  intro m names m' hm h
  obtain ⟨hnames, rfl⟩ := Prod.mk.inj h
  refine ⟨?_, fun hnone => ?_⟩
  · rw [Module.Named, Stmt.EachImport, Stmt.importListIn_eq, List.flatMap_map]
    have hsame : ∀ s : Stmt, ((s.annotateReturn hints).getD s).importList = s.importList := by
      intro s
      cases hs : s.annotateReturn hints with
      | none => rfl
      | some t => exact (Stmt.annotateReturn_some hs).2
    simp only [hsame, ← Stmt.importListIn_eq]
    exact hm
  · cases hnames
    refine congrArg Module.mk ((List.map_congr_left fun s hs => ?_).trans (List.map_id _))
    cases hs' : s.annotateReturn hints with
    | none => rfl
    | some t =>
      obtain ⟨⟨name, hname⟩, -⟩ := Stmt.annotateReturn_some hs'
      have := List.filterMap_eq_nil_iff.1 hnone s hs
      simp [hs', hname] at this

theorem Stmt.renameDefined_importList (old new : Text) (s : Stmt) :
    (s.renameDefined old new).importList = s.importList := by
  cases s <;> rfl

/-- Definitions are renamed where they stand, unless that is refused. -/
theorem renameDefinitions_outcome (what : Definition) (old new : Text) (m : Module) :
    (∃ f, (renameDefinitions what old new).perform m = (.error f, m) ∧ f.isRefusal = true) ∨
      ∃ location, (renameDefinitions what old new).perform m =
        (.ok location, ⟨m.body.map fun s => if s.defines what old then s.renameDefined old new else s⟩) := by
  unfold renameDefinitions
  split
  · rw [Edit.perform_bind]
    cases hfirst : m.body.find? (·.defines what old) with
    | none =>
      refine .inl ⟨.notFound what old, ?_, rfl⟩
      simp only [Edit.perform_get, hfirst]
      rfl
    | some first =>
      refine .inr ⟨first.location, ?_⟩
      simp only [Edit.perform_bind, Edit.perform_get, hfirst]
      rfl
  · exact .inl ⟨.notIdentifier new, rfl, rfl⟩

theorem renameDefinitions_ok {what : Definition} {old new : Text} {m m' : Module}
    {location : Option Location} (h : (renameDefinitions what old new).perform m = (.ok location, m')) :
    m' = ⟨m.body.map fun s => if s.defines what old then s.renameDefined old new else s⟩ := by
  rcases renameDefinitions_outcome what old new m with ⟨f, hf, -⟩ | ⟨location', hok⟩
  · cases h.symm.trans hf
  · exact (Prod.mk.inj (h.symm.trans hok)).2

theorem renameDefinitions_honest (what : Definition) (old new : Text) :
    (renameDefinitions what old new).Honest fun _ => False := by
  intro m location m' hm h
  obtain rfl := renameDefinitions_ok h
  refine ⟨?_, False.elim⟩
  have hsame : ∀ s : Stmt, (if s.defines what old then s.renameDefined old new else s).importList =
      s.importList := by
    intro s
    split
    · exact Stmt.renameDefined_importList old new s
    · rfl
  rw [Module.Named, Stmt.EachImport, Stmt.importListIn_eq, List.flatMap_map]
  simp only [hsame, ← Stmt.importListIn_eq]
  exact hm

/-! ## By reference -/

theorem editRef_honest {edit : Block → Nat → Block} (r : Ref)
    (hedit : ∀ b i, Stmt.EachImport (fun s => s.importsNothing = false) b →
      Stmt.EachImport (fun s => s.importsNothing = false) (edit b i)) :
    (editRef r edit).Honest fun _ => False := by
  intro m a m' hm h
  refine ⟨?_, False.elim⟩
  rw [editRef, Edit.perform_bind_ok] at h
  obtain ⟨m₀, _, hget, h⟩ := h
  cases hget
  split at h
  · rename_i after hafter
    cases h
    cases hcheck : r.check m with
    | error f => simp [hcheck, bind, Except.bind] at hafter
    | ok _ =>
      simp only [hcheck, bind, Except.bind, Module.editAt] at hafter
      split at hafter
      · cases hafter
      · rename_i step rest hpath
        cases hb : Block.editAt edit r.path 0 m.body step rest with
        | error f => simp [hb, Except.map] at hafter
        | ok b' =>
          simp only [hb, Except.map] at hafter
          cases hafter
          exact Block.editAt_eachImport hedit hm hb
  · cases h

end Refactory
