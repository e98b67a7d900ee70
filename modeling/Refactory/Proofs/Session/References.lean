import Refactory.Proofs.Modernize.Sources
import Refactory.Proofs.Session.ByReference
import Refactory.Proofs.Tree.Places

/-! # References that stay good

Rewriting expressions, pointing imports at another module, annotating returns and renaming a variable
change what statements hold, and leave every statement where it is, of its kind and with its name
(`Visit.Holds`, `Stmt.mapImports_samePlaces`). So a reference that was found before is one that is found
afterwards, and edits by reference go by it (`Session.Accepts`). Main statement: `references_survive`. -/

namespace Refactory

/-! ## Passes over expressions -/

namespace Visit

variable {α β : Type}

/-- What a visit leaves satisfies `P`, whether it succeeds or fails. -/
structure Holds (v : Visit α) (P : α → Prop) : Prop where
  left : P v.left
  gives : v.Gives P

theorem Holds.trivial (v : Visit α) : v.Holds fun _ => True := ⟨True.intro, .trivial v⟩

theorem Holds.now {v : Visit α} {P : α → Prop} (h : v.Holds P) : P v.now := by
  unfold Visit.now
  cases hresult : v.result with
  | ok a => exact h.gives a hresult
  | error f => exact h.left

theorem Holds.keep {P : α → Prop} {a : α} (h : P a) : (Visit.keep a).Holds P := ⟨h, .keep h⟩

theorem Holds.fail {P : α → Prop} {a : α} (h : P a) (f : Fault) : (Visit.fail a f).Holds P :=
  ⟨h, .fail a f⟩

theorem Holds.map {v : Visit α} {P : α → Prop} {Q : β → Prop} {make : α → β} (h : v.Holds P)
    (hmake : ∀ a, P a → Q (make a)) : (v.map make).Holds Q := ⟨hmake _ h.now, h.gives.map hmake⟩

theorem Holds.pair {v : Visit α} {w : Visit β} {P : α → Prop} {Q : β → Prop} {b : β}
    (h : v.Holds P) (hb : Q b) (h' : w.Holds Q) : (v.pair b w).Holds fun x => P x.1 ∧ Q x.2 := by
  refine ⟨?_, h.gives.pair h'.gives⟩
  obtain ⟨left, result, seen, count⟩ := v
  cases result with
  | error f => exact ⟨h.left, hb⟩
  | ok a => exact ⟨h.gives a rfl, h'.now⟩

theorem Holds.consEach {v : Visit α} {w : Visit (List α)} {P : α → Prop} {Q R : List α → Prop}
    {as : List α} (h : v.Holds P) (has : Q as) (h' : w.Holds Q)
    (hcons : ∀ a as, P a → Q as → R (a :: as)) : (v.consEach as w).Holds R :=
  (h.pair has h').map fun x hx => hcons x.1 x.2 hx.1 hx.2

end Visit

open Visit (Holds)

section

variable {f : Rewriter}

theorem FunctionHead.rewrite_name (h : FunctionHead) :
    (h.rewrite f).Holds fun h' => h'.name = h.name := (Holds.trivial _).map fun _ _ => rfl

theorem ClassHead.rewrite_name (h : ClassHead) :
    (h.rewrite f).Holds fun h' => h'.name = h.name := (Holds.trivial _).map fun _ _ => rfl

theorem Handler.rewriteTypes_holds (hs : List Handler) :
    (Handler.rewriteTypes f hs).Holds fun types => types.length = hs.length := by
  induction hs with
  | nil => exact .keep rfl
  | cons h hs ih =>
    obtain ⟨type, name, body⟩ := h
    exact (Holds.trivial _).consEach (List.length_map _) ih fun _ _ _ hlength =>
      congrArg (· + 1) hlength

mutual

/-- A pass over the expressions of a statement leaves it in its place, however it ends. -/
theorem Stmt.rewriteExprs_samePlaces :
    ∀ s : Stmt, (s.rewriteExprs f).Holds s.SamePlaces
  | .function head body location => by
    rw [Stmt.rewriteExprs]
    exact ((FunctionHead.rewrite_name head).pair (.refl body)
      (Stmt.rewriteBlock_samePlaces body)).map fun _ ⟨hname, hbody⟩ =>
        .block rfl (congrArg some hname) rfl rfl rfl hbody
  | .classDef head body location => by
    rw [Stmt.rewriteExprs]
    exact ((ClassHead.rewrite_name head).pair (.refl body)
      (Stmt.rewriteBlock_samePlaces body)).map fun _ ⟨hname, hbody⟩ =>
        .block rfl (congrArg some hname) rfl rfl rfl hbody
  | .tryExcept body handlers orelse finalbody location => by
    rw [Stmt.rewriteExprs]
    refine (((((Handler.rewriteTypes_holds handlers).pair (.refl body)
      (Stmt.rewriteBlock_samePlaces body)).pair ⟨List.length_map _, .refl _⟩
      (Handler.rewriteBodies_samePlaces handlers)).pair (.refl orelse)
      (Stmt.rewriteBlock_samePlaces orelse)).pair (.refl finalbody)
      (Stmt.rewriteBlock_samePlaces finalbody)).map ?_
    rintro ⟨⟨⟨⟨types, body'⟩, bodies⟩, orelse'⟩, finalbody'⟩
      ⟨⟨⟨⟨htypes, hbody⟩, hlength, hbodies⟩, horelse⟩, hfinal⟩
    refine .mk rfl rfl rfl ?_
    simp only [Stmt.children, Stmt.blocks, Handler.rebuild_bodies htypes hlength,
      List.flatten_append, List.flatten_cons, List.flatten_nil, List.append_nil]
    exact List.rel_append (List.rel_append hbody hbodies) (List.rel_append horelse hfinal)
  | .foreign kind => .fail (.refl _) _
  | .assign .. | .ret .. | .expr .. => by
    rw [Stmt.rewriteExprs]
    exact (Holds.trivial _).map fun _ _ => .mk rfl rfl rfl .nil
  | .importNames .. | .importFrom .. | .pass _ | .captured .. => .keep (.refl _)

/-- A pass over the expressions of a block leaves all its statements in their places. -/
theorem Stmt.rewriteBlock_samePlaces :
    ∀ b : List Stmt, (Stmt.rewriteBlock f b).Holds (Block.SamePlaces b)
  | [] => .keep .nil
  | s :: rest => (Stmt.rewriteExprs_samePlaces s).consEach (.refl rest)
      (Stmt.rewriteBlock_samePlaces rest) fun _ _ => .cons

theorem Handler.rewriteBodies_samePlaces :
    ∀ hs : List Handler, (Handler.rewriteBodies f hs).Holds fun bodies =>
      bodies.length = hs.length ∧ Block.SamePlaces (hs.map Handler.body).flatten bodies.flatten
  | [] => .keep ⟨rfl, .nil⟩
  | .mk _ _ body :: rest => (Stmt.rewriteBlock_samePlaces body).consEach
      ⟨List.length_map _, .refl _⟩ (Handler.rewriteBodies_samePlaces rest)
      fun _ _ hbody hrest => ⟨congrArg (· + 1) hrest.1, List.rel_append hbody hrest.2⟩

end

end

/-! ## Edits of imports and definitions -/

section

variable {φ : Stmt → Stmt}

mutual

theorem Stmt.mapImports_samePlaces (hφ : ∀ s : Stmt, s.isImport = true → s.SamePlaces (φ s)) :
    ∀ s : Stmt, s.SamePlaces (s.mapImports φ)
  | .importNames .. | .importFrom .. => hφ _ rfl
  | .function head body location | .classDef head body location =>
    .block rfl rfl rfl rfl rfl (Stmt.mapImportsIn_samePlaces hφ body)
  | .tryExcept body handlers orelse finalbody location => by
    refine .mk rfl rfl rfl ?_
    simp only [Stmt.mapImports, Stmt.children, Stmt.blocks, List.flatten_append, List.flatten_cons,
      List.flatten_nil, List.append_nil]
    exact List.rel_append (List.rel_append (Stmt.mapImportsIn_samePlaces hφ body)
      (Handler.mapImportsEach_samePlaces hφ handlers)) (List.rel_append
        (Stmt.mapImportsIn_samePlaces hφ orelse) (Stmt.mapImportsIn_samePlaces hφ finalbody))
  | .assign .. | .ret .. | .pass _ | .expr .. | .captured .. | .foreign _ => .refl _

/-- A block with changed imports holds the same places, if each import does. -/
theorem Stmt.mapImportsIn_samePlaces (hφ : ∀ s : Stmt, s.isImport = true → s.SamePlaces (φ s)) :
    ∀ b : List Stmt, Block.SamePlaces b (Stmt.mapImportsIn φ b)
  | [] => .nil
  | s :: rest => .cons (Stmt.mapImports_samePlaces hφ s) (Stmt.mapImportsIn_samePlaces hφ rest)

theorem Handler.mapImportsEach_samePlaces
    (hφ : ∀ s : Stmt, s.isImport = true → s.SamePlaces (φ s)) :
    ∀ hs : List Handler, Block.SamePlaces (hs.map Handler.body).flatten
      ((Handler.mapImportsEach φ hs).map Handler.body).flatten
  | [] => .nil
  | .mk _ _ body :: rest => List.rel_append (Stmt.mapImportsIn_samePlaces hφ body)
      (Handler.mapImportsEach_samePlaces hφ rest)

end

end

theorem Stmt.renameImport_samePlaces (old new : Text) (s : Stmt) (h : s.isImport = true) :
    s.SamePlaces (s.renameImport old new) := by
  cases s with
  | importNames names location | importFrom module names level location => exact .mk rfl rfl rfl .nil
  | _ => cases h

/-- An annotated function is the same function. -/
theorem Stmt.annotateReturn_samePlaces (hints : List (Text × Expr)) (s : Stmt) :
    s.SamePlaces ((s.annotateReturn hints).getD s) := by
  cases hs : s.annotateReturn hints with
  | none => exact .refl s
  | some s' =>
    cases s with
    | function head body location =>
      rw [Stmt.annotateReturn] at hs
      split at hs
      · cases hs
      · obtain ⟨hint, -, rfl⟩ := Option.map_eq_some_iff.1 hs
        exact .block rfl rfl rfl rfl rfl (.refl body)
    | _ => cases hs

/-- What defines a variable is an assignment, and stays one. -/
theorem Stmt.renameDefined_samePlaces (old new : Text) {s : Stmt}
    (h : s.defines .variable old = true) : s.SamePlaces (s.renameDefined old new) := by
  cases s with
  | assign targets value location => exact .mk rfl rfl rfl .nil
  | _ => simp [Stmt.defines] at h

theorem Block.samePlaces_map {b : Block} {change : Stmt → Stmt}
    (h : ∀ s : Stmt, s.SamePlaces (change s)) : Block.SamePlaces b (b.map change) := by
  induction b with
  | nil => exact .nil
  | cons s b ih => exact .cons (h s) ih

/-! ## Edits in place -/

/-- An edit leaves every statement of a module of nodes in its place, if it completes. -/
def Edit.InPlace {α : Type} (e : Edit α) : Prop :=
  ∀ (m : Module) (a : α) (m' : Module), (∀ s ∈ Stmt.nodesIn m.body, s.isNode = true) →
    e.perform m = (.ok a, m') → Block.SamePlaces m.body m'.body

namespace Edit.InPlace

variable {α β : Type} {e : Edit α}

theorem pure (a : α) : (Pure.pure a : Edit α).InPlace := by
  intro m b m' _ hrun
  cases hrun
  exact .refl m.body

theorem ask (question : Module → Except Fault α) : (Edit.ask question).InPlace := by
  intro m a m' _ hrun
  obtain ⟨-, rfl⟩ := Edit.perform_ask_ok hrun
  exact .refl _

theorem bind {next : α → Edit β} (h : e.InPlace) (hnext : ∀ a, (next a).InPlace) :
    (e >>= next).InPlace := by
  intro m b m' hm hrun
  obtain ⟨a, mid, he, hnext'⟩ := Edit.perform_bind_ok.1 hrun
  have hmid := h m a mid hm he
  exact hmid.trans (hnext a mid b m' (Module.isNode_same hmid hm) hnext')

theorem map (h : e.InPlace) (f : α → β) : (f <$> e).InPlace := by
  intro m b m' hm hrun
  obtain ⟨a, hrun, -⟩ := Edit.perform_map_ok.1 hrun
  exact h m a m' hm hrun

end Edit.InPlace

theorem rewriteExprs_samePlaces (f : Rewriter) (m : Module) :
    Block.SamePlaces m.body ((rewriteExprs f).perform m).2.body :=
  (Stmt.rewriteBlock_samePlaces m.body).now

theorem rewriteExprs_inPlace (f : Rewriter) : (rewriteExprs f).InPlace := by
  intro m n m' _ hrun
  have hsame := rewriteExprs_samePlaces f m
  rwa [hrun] at hsame

theorem renameImports_inPlace (old new : Text) : (renameImports old new).InPlace := by
  intro m n m' hm hrun
  rw [renameImports_sends hm] at hrun
  cases hrun
  exact Stmt.mapImportsIn_samePlaces (Stmt.renameImport_samePlaces old new) m.body

theorem renameThrough_inPlace (table : List (Text × Text)) : (renameThrough table).InPlace := by
  induction table with
  | nil => exact .pure []
  | cons entry rest ih =>
    exact (renameImports_inPlace entry.1 entry.2).bind fun _ => ih.bind fun _ => .pure _

theorem annotateReturns_inPlace (hints : List (Text × Expr)) : (annotateReturns hints).InPlace := by
  intro m names m' _ hrun
  cases hrun
  exact Block.samePlaces_map fun s => s.annotateReturn_samePlaces hints

theorem renameVariable_inPlace (old new : Text) :
    (renameDefinitions .variable old new).InPlace := by
  intro m location m' _ hrun
  unfold renameDefinitions at hrun
  split at hrun
  · rw [Edit.perform_bind_ok] at hrun
    obtain ⟨m₀, _, hget, hrun⟩ := hrun
    cases hget
    split at hrun
    · cases hrun
    obtain ⟨-, rfl⟩ := Prod.mk.inj hrun
    refine Block.samePlaces_map fun s => ?_
    split
    · next hdefines => exact Stmt.renameDefined_samePlaces old new hdefines
    · exact .refl s
  · cases hrun

/-! ## Steps in place -/

/-- A step leaves every statement of a module of nodes in its place, if it completes. -/
def Step.InPlace {α : Type} (p : Step α) : Prop :=
  ∀ (s : Session) (a : α) (s' : Session), (∀ t ∈ Stmt.nodesIn s.module.body, t.isNode = true) →
    p.perform s = (.ok a, s') → Block.SamePlaces s.module.body s'.module.body

theorem Edit.InPlace.record {α : Type} {e : Edit α} (h : e.InPlace) (log : α → Option Change) :
    (Session.record e log).InPlace := by
  intro s a s' hs hrun
  rw [Session.perform_record] at hrun
  rcases he : e.perform s.module with ⟨f | b, after⟩ <;> rw [he] at hrun
  · cases hrun
  · have hsame := h s.module b after hs he
    cases hlog : log b <;> simp only [hlog] at hrun <;> cases hrun <;> exact hsame

theorem Step.IsQuestion.inPlace {α : Type} {p : Step α} (h : p.IsQuestion) : p.InPlace := by
  intro s a s' _ hrun
  have hsame := h s
  rw [hrun] at hsame
  cases hsame
  exact .refl _

namespace Step.InPlace

variable {α β : Type} {p : Step α}

theorem bind {next : α → Step β} (h : p.InPlace) (hnext : ∀ a, (next a).InPlace) :
    (p >>= next).InPlace := by
  intro s b s' hs hrun
  rw [Step.perform_bind] at hrun
  rcases hp : p.perform s with ⟨f | a, mid⟩ <;> rw [hp] at hrun
  · cases hrun
  · have hmid := h s a mid hs hp
    exact hmid.trans (hnext a mid b s' (Module.isNode_same hmid hs) hrun)

theorem map (h : p.InPlace) (f : α → β) : (f <$> p).InPlace := by
  intro s b s' hs hrun
  rw [Step.perform_map] at hrun
  rcases hp : p.perform s with ⟨f | a, after⟩ <;> rw [hp] at hrun <;> cases hrun
  exact h s a _ hs hp

end Step.InPlace

/-- The actions that change what statements hold and nothing else. -/
inductive Action.InPlace : Action → Prop
  | modernizeStrings : InPlace .modernizeStrings
  | replaceImport (old new : Text) : InPlace (.replaceImport old new)
  | modernizeImports : InPlace .modernizeImports
  | annotate (hints : List (Text × Text)) : InPlace (.annotate hints)
  | renameVariable (old new : Text) : InPlace (.rename .variable old new)
  | rewriteExprs (description : Text) (f : Rewriter) : InPlace (.transform description (rewriteExprs f))

theorem Action.InPlace.step {a : Action} (h : a.InPlace) : a.step.InPlace := by
  cases h with
  | modernizeStrings => exact ((rewriteExprs_inPlace modernizeFormat).record _).map _
  | replaceImport old new =>
    refine Step.InPlace.map ?_ _
    unfold Session.replaceImport
    split
    · exact Step.IsQuestion.inPlace fun _ => rfl
    · exact ((renameImports_inPlace old new).map _).record _
  | modernizeImports => exact ((renameThrough_inPlace _).record _).map _
  | annotate hints =>
    refine Step.InPlace.map (Step.InPlace.bind (Step.IsQuestion.inPlace ?_) fun parsed =>
      (annotateReturns_inPlace parsed).record _) _
    exact Step.IsQuestion.mapM (fun _ => (Step.IsQuestion.ofExcept _).bind fun _ _ => rfl) _
  | renameVariable old new =>
    exact (((renameVariable_inPlace old new).bind fun _ => .pure _).record _).map _
  | rewriteExprs description f =>
    exact (((rewriteExprs_inPlace f).bind fun _ => (Edit.InPlace.ask _).bind fun _ =>
      .pure _).record _).map _

/-! ## References -/

namespace Session

/-- The edits by a reference to the statement at index `k` below `above` succeed, and put in, or take
out, what they are asked to, right there. -/
structure Accepts (s : Session) (r : Ref) (above : Path) (k : Nat) : Prop where
  path : r.path = above ++ [(k : Int)]
  replaceNode : ∀ (i : Insertion) (new : List Stmt), i.statements = .ok new →
    ∃ c s', (replaceNode r i).perform s = (.ok c, s') ∧
      s.module.Spliced s'.module above k (k + 1) new
  insertBefore : ∀ (i : Insertion) (new : List Stmt), i.statements = .ok new →
    ∃ c s', (insertBefore r i).perform s = (.ok c, s') ∧ s.module.Spliced s'.module above k k new
  insertAfter : ∀ (i : Insertion) (new : List Stmt), i.statements = .ok new →
    ∃ c s', (insertAfter r i).perform s = (.ok c, s') ∧
      s.module.Spliced s'.module above (k + 1) (k + 1) new
  removeNode : ∃ c s', (removeNode r).perform s = (.ok c, s') ∧
    s.module.Spliced s'.module above k (k + 1) []

theorem accepts_of_follow {s : Session} {r : Ref} {t : Stmt}
    (ht : Block.follow s.module.body r.path = some t) (hr : Ref.of r.path t = .ok r)
    {above : Path} {k : Nat} (hpath : r.path = above ++ [(k : Int)]) : s.Accepts r above k where
  path := hpath
  replaceNode i new hnew := by
    rw [Session.replaceNode, perform_statements hnew]
    exact ⟨_, perform_put hpath ht hr (Nat.zero_le 1) (Nat.le_refl 1) (fun _ _ => rfl) _⟩
  insertBefore i new hnew := by
    rw [Session.insertBefore, perform_statements hnew]
    exact ⟨_, perform_put hpath ht hr (Nat.le_refl 0) (Nat.zero_le 1) (fun _ _ => rfl) _⟩
  insertAfter i new hnew := by
    rw [Session.insertAfter, perform_statements hnew]
    exact ⟨_, perform_put hpath ht hr (Nat.le_refl 1) (Nat.le_refl 1) (fun _ _ => rfl) _⟩
  removeNode := by
    refine ⟨_, perform_put hpath ht hr (Nat.zero_le 1) (Nat.le_refl 1) (fun b i => ?_) _⟩
    rw [Block.put, List.append_nil, Nat.add_zero, List.eraseIdx_eq_take_drop_succ]

end Session

/-- A reference leads to a statement in either module that holds the same places, and the edits of the
second go by it. -/
structure Ref.Lasts (r : Ref) (m m' : Module) : Prop where
  statement : ∃ t t', m.resolve r.path = .ok t ∧ m'.resolve r.path = .ok t' ∧ t.SamePlaces t'
  accepted : ∃ above k, ∀ s : Session, s.module = m' → s.Accepts r above k

/-- The same references are found in either module, and all of them last. -/
def Module.KeepsReferences (m m' : Module) : Prop :=
  ∀ kind, ∃ refs, findNodes m kind = .ok refs ∧ findNodes m' kind = .ok refs ∧
    ∀ r ∈ refs, r.Lasts m m'

theorem Module.keepsReferences {m m' : Module} (h : Block.SamePlaces m.body m'.body)
    (hm : ∀ s ∈ Stmt.nodesIn m.body, s.isNode = true) : m.KeepsReferences m' := by
  intro kind
  obtain ⟨refs, hrefs⟩ := findNodes_exists hm kind
  refine ⟨refs, hrefs, (Module.findNodes_same h kind).trans hrefs, fun r hr => ?_⟩
  obtain ⟨t, hmem, href⟩ := mem_findNodes hrefs hr
  have hfollow := (Module.mem_walk hm).1 hmem
  obtain ⟨t', hfollow', hsame⟩ := h.follow hfollow
  obtain ⟨above, k, hpath⟩ := Block.follow_path hfollow
  refine ⟨⟨t, t', Module.resolve_iff.2 hfollow, Module.resolve_iff.2 hfollow', hsame⟩,
    above, k, fun s hs => ?_⟩
  subst hs
  exact Session.accepts_of_follow hfollow' ((hsame.ref r.path).trans href) hpath

/-- Every pass over expressions, however it ends, and every action that changes what statements hold
and nothing else, if it completes, keep the references to the statements of a module. -/
theorem references_survive {s : Session} (h : ∀ t ∈ Stmt.nodesIn s.module.body, t.isNode = true) :
    (∀ f, s.module.KeepsReferences ((rewriteExprs f).perform s.module).2) ∧
    ∀ a : Action, a.InPlace → ∀ reply s', a.step.perform s = (.ok reply, s') →
      s.module.KeepsReferences s'.module :=
  ⟨fun f => Module.keepsReferences (rewriteExprs_samePlaces f s.module) h,
    fun _ ha reply s' hrun => Module.keepsReferences (ha.step s reply s' h hrun) h⟩

/-- A reference found before an import is pointed at another module removes the import afterwards, and
what stood behind it takes its place. -/
theorem references_survive_sample :
    let s : Session := ⟨⟨[.importNames [⟨"imp", none⟩] none, .function ⟨"f", [], none, [], false⟩
      [.importFrom (some "imp") [⟨"reload", none⟩] 0 none, .pass none] none]⟩,
      [], none, .lenient, "importlib.metadata", "version"⟩
    let a : Action := .replaceImport "imp" "importlib"
    let r : Ref := ⟨[1, 0], .importFrom, none, none⟩
    (∀ t ∈ Stmt.nodesIn s.module.body, t.isNode = true) ∧ a.InPlace ∧
    ∃ reply s', a.step.perform s = (.ok reply, s') ∧ s'.module.resolve r.path =
        .ok (.importFrom (some "importlib") [⟨"reload", none⟩] 0 none) ∧
      ∃ c s'', (Session.removeNode r).perform s' = (.ok c, s'') ∧
        s''.module.resolve r.path = .ok (.pass none) := by
  intro s a r
  have h : ∀ t ∈ Stmt.nodesIn s.module.body, t.isNode = true := by decide
  have ha : a.InPlace := .replaceImport _ _
  obtain ⟨-, hactions⟩ := references_survive h
  refine ⟨h, ha, _, _, rfl, rfl, ?_⟩
  obtain ⟨refs, hrefs, -, hlast⟩ := hactions a ha _ _ rfl none
  have hr : r ∈ refs := by
    cases hrefs
    decide
  obtain ⟨above, k, haccept⟩ := (hlast r hr).accepted
  have hedits := haccept _ rfl
  obtain ⟨rfl, rfl⟩ : above = [1] ∧ k = 0 := by
    have hsame : [1] ++ [((0 : Nat) : Int)] = above ++ [(k : Int)] := hedits.path
    obtain ⟨habove, hk⟩ := List.append_inj' hsame rfl
    exact ⟨habove.symm, (Int.ofNat.inj (List.cons.inj hk).1).symm⟩
  obtain ⟨c, s'', hremoved, hspliced⟩ := hedits.removeNode
  refine ⟨c, s'', hremoved, ?_⟩
  exact hspliced.kept [1, 1] _ rfl (by decide) fun n hfirst hpast => by
    obtain rfl : n = 0 := by omega
    decide

end Refactory
