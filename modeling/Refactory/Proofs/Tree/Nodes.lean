import Refactory.Proofs.Tree.Imports
import Refactory.Tree.Walk

/-! # The statements of a tree

`Stmt.nodesIn` lists the statements of a block at any depth in pre-order. A walk ends well unless one
of them is foreign, and then it has met exactly these (`Stmt.walkBlock_meets`); a pass over
statements that replaces nothing is shown the same (`Stmt.replaceBlock_shows`). The imports of a tree
are those among its statements (`Stmt.filter_nodesIn`). -/

namespace Refactory

mutual

/-- A statement and the statements inside it, in pre-order. -/
def Stmt.nodes : Stmt → List Stmt
  | .function head body location => .function head body location :: Stmt.nodesIn body
  | .classDef head body location => .classDef head body location :: Stmt.nodesIn body
  | .tryExcept body handlers orelse finalbody location =>
    .tryExcept body handlers orelse finalbody location ::
      (Stmt.nodesIn body ++ Handler.nodesIn handlers ++ Stmt.nodesIn orelse ++
        Stmt.nodesIn finalbody)
  | .importNames names location => [.importNames names location]
  | .importFrom module names level location => [.importFrom module names level location]
  | .assign targets value location => [.assign targets value location]
  | .ret value location => [.ret value location]
  | .pass location => [.pass location]
  | .expr value location => [.expr value location]
  | .captured kind source location => [.captured kind source location]
  | .foreign kind => [.foreign kind]

/-- The statements inside a block, in pre-order. -/
def Stmt.nodesIn : List Stmt → List Stmt
  | [] => []
  | s :: rest => s.nodes ++ Stmt.nodesIn rest

/-- The statements inside the bodies of handlers, in pre-order. -/
def Handler.nodesIn : List Handler → List Stmt
  | [] => []
  | .mk _ _ body :: rest => Stmt.nodesIn body ++ Handler.nodesIn rest

end

theorem Stmt.nodesIn_eq (b : List Stmt) : Stmt.nodesIn b = b.flatMap Stmt.nodes := by
  induction b with
  | nil => rfl
  | cons s rest ih => rw [Stmt.nodesIn, ih, List.flatMap_cons]

@[simp] theorem Stmt.nodesIn_append (b c : List Stmt) :
    Stmt.nodesIn (b ++ c) = Stmt.nodesIn b ++ Stmt.nodesIn c := by
  simp only [Stmt.nodesIn_eq, List.flatMap_append]

theorem Handler.nodesIn_eq (hs : List Handler) :
    Handler.nodesIn hs = (hs.map Handler.body).flatMap Stmt.nodesIn := by
  induction hs with
  | nil => rfl
  | cons h rest ih =>
    obtain ⟨type, name, body⟩ := h
    rw [Handler.nodesIn, ih, List.map_cons, List.flatMap_cons, Handler.body]

theorem Stmt.nodes_eq (s : Stmt) : s.nodes = s :: s.blocks.flatMap Stmt.nodesIn := by
  cases s <;> simp [Stmt.nodes, Stmt.blocks, Handler.nodesIn_eq]

theorem Stmt.mem_nodes_self (s : Stmt) : s ∈ s.nodes := by
  rw [Stmt.nodes_eq]
  exact List.mem_cons_self

theorem Stmt.nodesIn_of_imports {b : List Stmt} (h : ∀ s ∈ b, s.isImport = true) :
    Stmt.nodesIn b = b := by
  induction b with
  | nil => rfl
  | cons s rest ih =>
    rw [List.forall_mem_cons] at h
    rw [Stmt.nodesIn, Stmt.nodes_eq, Stmt.isImport_blocks h.1, ih h.2]
    rfl

mutual

theorem Stmt.nodes_trans :
    ∀ (s : Stmt) {t u : Stmt}, t ∈ s.nodes → u ∈ t.nodes → u ∈ s.nodes
  | .function _ body _, t, u, ht, hu | .classDef _ body _, t, u, ht, hu => by
    rcases List.mem_cons.1 ht with rfl | ht
    · exact hu
    · exact List.mem_cons_of_mem _ (Stmt.nodesIn_trans body ht hu)
  | .tryExcept body handlers orelse finalbody _, t, u, ht, hu => by
    rcases List.mem_cons.1 ht with rfl | ht
    · exact hu
    · simp only [List.mem_append] at ht
      simp only [Stmt.nodes, List.mem_cons, List.mem_append]
      exact .inr (ht.imp (Or.imp (Or.imp (Stmt.nodesIn_trans body · hu)
        (Handler.nodesIn_trans handlers · hu)) (Stmt.nodesIn_trans orelse · hu))
        (Stmt.nodesIn_trans finalbody · hu))
  | .importNames .., t, u, ht, hu | .importFrom .., t, u, ht, hu | .assign .., t, u, ht, hu
  | .ret .., t, u, ht, hu | .pass _, t, u, ht, hu | .expr .., t, u, ht, hu
  | .captured .., t, u, ht, hu | .foreign _, t, u, ht, hu => List.mem_singleton.1 ht ▸ hu

/-- What is inside a statement of a block is inside the block. -/
theorem Stmt.nodesIn_trans :
    ∀ (b : List Stmt) {t u : Stmt}, t ∈ Stmt.nodesIn b → u ∈ t.nodes → u ∈ Stmt.nodesIn b
  | s :: rest, t, u, ht, hu => List.mem_append.2 ((List.mem_append.1 ht).imp
      (fun ht => Stmt.nodes_trans s ht hu) fun ht => Stmt.nodesIn_trans rest ht hu)

theorem Handler.nodesIn_trans :
    ∀ (hs : List Handler) {t u : Stmt},
      t ∈ Handler.nodesIn hs → u ∈ t.nodes → u ∈ Handler.nodesIn hs
  | .mk _ _ body :: rest, t, u, ht, hu => List.mem_append.2 ((List.mem_append.1 ht).imp
      (fun ht => Stmt.nodesIn_trans body ht hu) fun ht => Handler.nodesIn_trans rest ht hu)

end

mutual

theorem Stmt.filter_nodes : ∀ s : Stmt, s.nodes.filter Stmt.isImport = s.importList
  | .function _ body _ | .classDef _ body _ => by
    simp [Stmt.nodes, Stmt.importList, Stmt.isImport, Stmt.filter_nodesIn body]
  | .tryExcept body handlers orelse finalbody _ => by
    simp [Stmt.nodes, Stmt.importList, Stmt.isImport, Stmt.filter_nodesIn body,
      Handler.filter_nodesIn handlers, Stmt.filter_nodesIn orelse, Stmt.filter_nodesIn finalbody]
  | .importNames .. | .importFrom .. | .assign .. | .ret .. | .pass _ | .expr .. | .captured ..
  | .foreign _ => rfl

/-- The imports of a block are those among its statements. -/
theorem Stmt.filter_nodesIn :
    ∀ b : List Stmt, (Stmt.nodesIn b).filter Stmt.isImport = Stmt.importListIn b
  | [] => rfl
  | s :: rest => by
    simp [Stmt.nodesIn, Stmt.importListIn, Stmt.filter_nodes s, Stmt.filter_nodesIn rest]

theorem Handler.filter_nodesIn :
    ∀ hs : List Handler, (Handler.nodesIn hs).filter Stmt.isImport = Handler.importListIn hs
  | [] => rfl
  | .mk _ _ body :: rest => by
    simp [Handler.nodesIn, Handler.importListIn, Stmt.filter_nodesIn body,
      Handler.filter_nodesIn rest]

end

/-- The imports that satisfy a test which only imports pass. -/
theorem Stmt.filter_importListIn {isIt : Stmt → Bool} (hisIt : ∀ s, isIt s = true → s.isImport = true)
    (b : List Stmt) : (Stmt.importListIn b).filter isIt = (Stmt.nodesIn b).filter isIt := by
  rw [← Stmt.filter_nodesIn, List.filter_filter]
  congr 1
  funext s
  cases h : isIt s with
  | true => simp [hisIt s h]
  | false => rfl

/-! ## Walks -/

namespace Walk

variable {α β : Type}

/-- A walk that meets `as` and, unless it ends in a fault, nothing else. -/
structure Meets (w : Walk α) (f : α → β) (bs : List β) (good : β → Bool) : Prop where
  fault : w.fault = none ↔ ∀ b ∈ bs, good b = true
  items : w.fault = none → w.items.map f = bs

variable {f : α → β} {good : β → Bool}

theorem Meets.empty : (Walk.empty : Walk α).Meets f [] good := ⟨by simp [Walk.empty], fun _ => rfl⟩

theorem Meets.cons {w : Walk α} {bs : List β} {a : α} (h : w.Meets f bs good)
    (ha : good (f a) = true) : (Walk.cons a w).Meets f (f a :: bs) good := by
  refine ⟨?_, fun hf => ?_⟩
  · rw [List.forall_mem_cons]
    exact ⟨fun hf => ⟨ha, h.fault.1 hf⟩, fun hb => h.fault.2 hb.2⟩
  · rw [Walk.cons, List.map_cons, h.items hf]

theorem Meets.append {v w : Walk α} {as bs : List β} (h : v.Meets f as good)
    (h' : w.Meets f bs good) : (v.append w).Meets f (as ++ bs) good := by
  unfold Walk.append
  cases hv : v.fault with
  | some fault =>
    have hbad : ¬ ∀ a ∈ as, good a = true := fun H => by
      rw [h.fault.2 H] at hv
      cases hv
    refine ⟨?_, fun hf => ?_⟩
    · simp only [hv, reduceCtorEq, false_iff]
      exact fun H => hbad fun a ha => H a (List.mem_append_left _ ha)
    · rw [hf] at hv
      cases hv
  | none =>
    refine ⟨?_, fun hf => ?_⟩
    · simp only [List.mem_append, or_imp, forall_and, h'.fault]
      exact ⟨fun H => ⟨h.fault.1 hv, H⟩, fun H => H.2⟩
    · rw [List.map_append, h.items hv, h'.items hf]

end Walk

/-- Whether a statement is a node, and not a foreign object. -/
def Stmt.isNode : Stmt → Bool
  | .foreign _ => false
  | _ => true

theorem Stmt.isImport_isNode {s : Stmt} (h : s.isImport = true) : s.isNode = true := by
  cases s with
  | importNames names location | importFrom module names level location => rfl
  | _ => cases h

open Walk (Meets)

mutual

theorem Stmt.walkAt_meets (path : Path) :
    ∀ s : Stmt, (s.walkAt path).Meets (·.2) s.nodes Stmt.isNode
  | .function _ body _ => (Stmt.walkBlock_meets path 0 body).cons rfl
  | .classDef _ body _ => (Stmt.walkBlock_meets path 0 body).cons rfl
  | .tryExcept body handlers orelse finalbody _ => by
    rw [Stmt.nodes, List.append_assoc, List.append_assoc]
    exact ((Stmt.walkBlock_meets path _ body).append
      ((Handler.walkEach_meets path _ handlers).append
        ((Stmt.walkBlock_meets path _ orelse).append
          (Stmt.walkBlock_meets path _ finalbody)))).cons rfl
  | .foreign kind => ⟨by simp [Stmt.walkAt, Walk.cons, Walk.stop, Stmt.nodes, Stmt.isNode],
      fun h => by cases h⟩
  | .importNames .. | .importFrom .. | .assign .. | .ret .. | .pass _ | .expr ..
  | .captured .. => Meets.empty.cons rfl

/-- A walk over a block meets its statements. -/
theorem Stmt.walkBlock_meets (path : Path) :
    ∀ (first : Nat) (b : List Stmt),
      (Stmt.walkBlock path first b).Meets (·.2) (Stmt.nodesIn b) Stmt.isNode
  | _, [] => .empty
  | first, s :: rest =>
    (Stmt.walkAt_meets (path ++ [(first : Int)]) s).append (Stmt.walkBlock_meets path (first + 1) rest)

theorem Handler.walkEach_meets (path : Path) :
    ∀ (first : Nat) (hs : List Handler),
      (Handler.walkEach path first hs).Meets (·.2) (Handler.nodesIn hs) Stmt.isNode
  | _, [] => .empty
  | first, .mk _ _ body :: rest =>
    (Stmt.walkBlock_meets path first body).append (Handler.walkEach_meets path _ rest)

end

theorem Walk.all_ok {α : Type} {w : Walk α} {items : List α} :
    w.all = .ok items ↔ w.fault = none ∧ w.items = items := by
  unfold Walk.all
  cases w.fault <;> simp

/-- A walk over a module that ends well lists its statements. -/
theorem Module.walk_all {m : Module} {items : List (Path × Stmt)} (h : m.walk.all = .ok items) :
    items.map (·.2) = Stmt.nodesIn m.body := by
  obtain ⟨hfault, rfl⟩ := Walk.all_ok.1 h
  exact (Stmt.walkBlock_meets [] 0 m.body).items hfault

/-! ## Passes over statements -/

namespace Replaced

variable {α β : Type} {g : Stmt → Option (List Stmt)}

/-- A pass that ends well and replaces nothing was shown the statements `ss`. -/
def Shows (g : Stmt → Option (List Stmt)) (r : Replaced α) (ss : List Stmt) : Prop :=
  r.fault = none → (∀ s ∈ r.seen, g s = none) → r.seen = ss

theorem Shows.leaf (a : α) (fault : Option Fault) : Shows g { now := a, fault : Replaced α } [] :=
  fun _ _ => rfl

theorem Shows.map {r : Replaced α} {ss : List Stmt} (make : α → β) (h : r.Shows g ss) :
    (r.map make).Shows g ss := h

theorem Shows.pair {r : Replaced α} {s : Replaced β} {b : β} {ss ts : List Stmt}
    (h : r.Shows g ss) (h' : s.Shows g ts) : (r.pair b s).Shows g (ss ++ ts) := by
  unfold Replaced.pair
  cases hr : r.fault with
  | some f => intro hfault; cases hfault
  | none =>
    intro hfault hseen
    simp only at hfault hseen ⊢
    rw [h hr fun t ht => hseen t (List.mem_append_left _ ht),
      h' hfault fun t ht => hseen t (List.mem_append_right _ ht)]

theorem Shows.choose {s : Stmt} {inside : Replaced Stmt} {ss : List Stmt}
    (h : inside.Shows g ss) : (Replaced.choose (g s) s inside).Shows g (s :: ss) := by
  intro hfault hseen
  cases hg : g s with
  | some new => simp [Replaced.choose, hg] at hseen
  | none =>
    simp only [Replaced.choose, hg] at hfault hseen ⊢
    rw [h hfault fun t ht => hseen t (List.mem_cons_of_mem _ ht)]

end Replaced

open Replaced (Shows Leaves)

mutual

theorem Stmt.replace_shows (g : Stmt → Option (List Stmt)) :
    ∀ s : Stmt, (s.replace g).Shows g s.nodes
  | .function _ body _ => ((Stmt.replaceBlock_shows g body).map _).choose
  | .classDef _ body _ => ((Stmt.replaceBlock_shows g body).map _).choose
  | .tryExcept body handlers orelse finalbody _ =>
    (((((Stmt.replaceBlock_shows g body).pair (Handler.replaceBodies_shows g handlers)).pair
      (Stmt.replaceBlock_shows g orelse)).pair (Stmt.replaceBlock_shows g finalbody)).map _).choose
  | .foreign _ | .importNames .. | .importFrom .. | .assign .. | .ret .. | .pass _ | .expr ..
  | .captured .. => (Shows.leaf _ _).choose

/-- A pass over a block that replaces nothing is shown all its statements. -/
theorem Stmt.replaceBlock_shows (g : Stmt → Option (List Stmt)) :
    ∀ b : List Stmt, (Stmt.replaceBlock g b).Shows g (Stmt.nodesIn b)
  | [] => .leaf _ _
  | s :: rest => ((Stmt.replace_shows g s).pair (Stmt.replaceBlock_shows g rest)).map _

theorem Handler.replaceBodies_shows (g : Stmt → Option (List Stmt)) :
    ∀ hs : List Handler, (Handler.replaceBodies g hs).Shows g (Handler.nodesIn hs)
  | [] => .leaf _ _
  | .mk _ _ body :: rest =>
    ((Stmt.replaceBlock_shows g body).pair (Handler.replaceBodies_shows g rest)).map _

end

/-- A pass over a block that ends well and counts no replacement would replace no statement. -/
theorem Stmt.replaceBlock_none {g : Stmt → Option (List Stmt)} {b : List Stmt}
    (hfault : (Stmt.replaceBlock g b).fault = none) (hcount : (Stmt.replaceBlock g b).count = 0) :
    ∀ s ∈ Stmt.nodesIn b, g s = none := by
  have hseen : ∀ s ∈ (Stmt.replaceBlock g b).seen, g s = none := by
    rw [(Stmt.replaceBlock_follows g b).count, List.countP_eq_zero] at hcount
    simpa using hcount
  rwa [Stmt.replaceBlock_shows g b hfault hseen] at hseen

/-! ## Passes that leave nodes -/

theorem Replaced.choose_isNode {g : Stmt → Option (List Stmt)}
    (hg : ∀ s new, g s = some new → ∀ t ∈ Stmt.nodesIn new, t.isNode = true) {s : Stmt}
    {inside : Replaced Stmt} (h : inside.Leaves fun s => ∀ t ∈ s.nodes, t.isNode = true) :
    (Replaced.choose (g s) s inside).Leaves fun b => ∀ t ∈ Stmt.nodesIn b, t.isNode = true := by
  cases hs : g s with
  | some new => exact fun _ => hg s new hs
  | none => exact fun hfault => by simpa [Replaced.choose, Stmt.nodesIn] using h hfault

mutual

theorem Stmt.replace_isNode {g : Stmt → Option (List Stmt)}
    (hg : ∀ s new, g s = some new → ∀ t ∈ Stmt.nodesIn new, t.isNode = true) :
    ∀ s : Stmt, (s.replace g).Leaves fun b => ∀ t ∈ Stmt.nodesIn b, t.isNode = true
  | .function _ body _ => Replaced.choose_isNode hg
      ((Stmt.replaceBlock_isNode hg body).map fun _ h => List.forall_mem_cons.2 ⟨rfl, h⟩)
  | .classDef _ body _ => Replaced.choose_isNode hg
      ((Stmt.replaceBlock_isNode hg body).map fun _ h => List.forall_mem_cons.2 ⟨rfl, h⟩)
  | .tryExcept body handlers orelse finalbody _ => Replaced.choose_isNode hg
      (((((Stmt.replaceBlock_isNode hg body).pair (Handler.replaceBodies_isNode hg handlers)).pair
        (Stmt.replaceBlock_isNode hg orelse)).pair (Stmt.replaceBlock_isNode hg finalbody)).map
        fun _ ⟨⟨⟨hb, hl, hh⟩, ho⟩, hf⟩ => by
          rw [Stmt.nodes, Handler.nodesIn_eq, Handler.rebuild_bodies (List.length_map _) hl]
          exact List.forall_mem_cons.2 ⟨rfl, List.forall_mem_append.2
            ⟨List.forall_mem_append.2 ⟨List.forall_mem_append.2 ⟨hb, hh⟩, ho⟩, hf⟩⟩)
  | .foreign _ => Replaced.choose_isNode hg fun hfault => by cases hfault
  | .importNames .. | .importFrom .. | .assign .. | .ret .. | .pass _ | .expr ..
  | .captured .. => Replaced.choose_isNode hg fun _ => by simp [Stmt.nodes, Stmt.isNode]

/-- A pass that ends well leaves nothing but nodes, if it puts nothing else in. -/
theorem Stmt.replaceBlock_isNode {g : Stmt → Option (List Stmt)}
    (hg : ∀ s new, g s = some new → ∀ t ∈ Stmt.nodesIn new, t.isNode = true) :
    ∀ b : List Stmt,
      (Stmt.replaceBlock g b).Leaves fun b' => ∀ t ∈ Stmt.nodesIn b', t.isNode = true
  | [] => fun _ => by simp [Stmt.replaceBlock, Stmt.nodesIn]
  | s :: rest => ((Stmt.replace_isNode hg s).pair (Stmt.replaceBlock_isNode hg rest)).map
      fun _ h => by simpa [or_imp, forall_and] using h

theorem Handler.replaceBodies_isNode {g : Stmt → Option (List Stmt)}
    (hg : ∀ s new, g s = some new → ∀ t ∈ Stmt.nodesIn new, t.isNode = true) :
    ∀ hs : List Handler, (Handler.replaceBodies g hs).Leaves fun bs =>
      bs.length = hs.length ∧ ∀ t ∈ bs.flatMap Stmt.nodesIn, t.isNode = true
  | [] => fun _ => by simp [Handler.replaceBodies]
  | .mk _ _ body :: rest => ((Stmt.replaceBlock_isNode hg body).pair
      (Handler.replaceBodies_isNode hg rest)).map fun _ ⟨hb, hl, hrest⟩ =>
        ⟨by simp [hl], List.forall_mem_append.2 ⟨hb, hrest⟩⟩

end

/-! ## Passes with nothing to do -/

namespace Replaced

variable {α β : Type} {g : Stmt → Option (List Stmt)}

/-- A pass ends well and replaces nothing. -/
structure Stays (r : Replaced α) (a : α) (ss : List Stmt) : Prop where
  now : r.now = a
  fault : r.fault = none
  seen : r.seen = ss
  count : r.count = 0

theorem Stays.leaf (a : α) : Stays { now := a : Replaced α } a [] := ⟨rfl, rfl, rfl, rfl⟩

theorem Stays.map {r : Replaced α} {a : α} {ss : List Stmt} (make : α → β) (h : r.Stays a ss) :
    (r.map make).Stays (make a) ss := ⟨congrArg make h.now, h.fault, h.seen, h.count⟩

theorem Stays.pair {r : Replaced α} {s : Replaced β} {a : α} {b : β} {ss ts : List Stmt}
    (h : r.Stays a ss) (h' : s.Stays b ts) : (r.pair b s).Stays (a, b) (ss ++ ts) := by
  unfold Replaced.pair
  rw [h.fault]
  exact ⟨by rw [h.now, h'.now], h'.fault, by rw [h.seen, h'.seen], by rw [h.count, h'.count]⟩

theorem Stays.choose {s : Stmt} {inside : Replaced Stmt} {ss : List Stmt} (h : inside.Stays s ss)
    (hs : g s = none) : (Replaced.choose (g s) s inside).Stays [s] (s :: ss) := by
  rw [hs]
  exact ⟨congrArg ([·]) h.now, h.fault, congrArg (s :: ·) h.seen, h.count⟩

end Replaced

mutual

theorem Stmt.replace_stays {g : Stmt → Option (List Stmt)} :
    ∀ s : Stmt, (∀ t ∈ s.nodes, g t = none ∧ t.isNode = true) → (s.replace g).Stays [s] s.nodes
  | .function head body location, h => by
    obtain ⟨hs, hbody⟩ := List.forall_mem_cons.1 h
    exact ((Stmt.replaceBlock_stays body hbody).map (Stmt.function head · location)).choose hs.1
  | .classDef head body location, h => by
    obtain ⟨hs, hbody⟩ := List.forall_mem_cons.1 h
    exact ((Stmt.replaceBlock_stays body hbody).map (Stmt.classDef head · location)).choose hs.1
  | .tryExcept body handlers orelse finalbody location, h => by
    obtain ⟨hs, hblocks⟩ := List.forall_mem_cons.1 h
    rw [List.forall_mem_append, List.forall_mem_append, List.forall_mem_append] at hblocks
    obtain ⟨⟨⟨hbody, hhandlers⟩, horelse⟩, hfinal⟩ := hblocks
    have hall := (((Stmt.replaceBlock_stays body hbody).pair
      (Handler.replaceBodies_stays handlers hhandlers)).pair
      (Stmt.replaceBlock_stays orelse horelse)).pair (Stmt.replaceBlock_stays finalbody hfinal)
    have hmap := hall.map fun (((body, bodies), orelse), finalbody) =>
      Stmt.tryExcept body (Handler.rebuild handlers (handlers.map Handler.type) bodies) orelse
        finalbody location
    simp only [Handler.rebuild_self] at hmap
    exact hmap.choose hs.1
  | .foreign _, h => by cases (List.forall_mem_singleton.1 h).2
  | .importNames .., h | .importFrom .., h | .assign .., h | .ret .., h | .pass _, h
  | .expr .., h | .captured .., h =>
    (Replaced.Stays.leaf _).choose (List.forall_mem_singleton.1 h).1

/-- A pass over statements none of which is replaced or foreign changes nothing. -/
theorem Stmt.replaceBlock_stays {g : Stmt → Option (List Stmt)} :
    ∀ b : List Stmt, (∀ t ∈ Stmt.nodesIn b, g t = none ∧ t.isNode = true) →
      (Stmt.replaceBlock g b).Stays b (Stmt.nodesIn b)
  | [], _ => .leaf []
  | s :: rest, h => by
    rw [Stmt.nodesIn, List.forall_mem_append] at h
    exact ((Stmt.replace_stays s h.1).pair (Stmt.replaceBlock_stays rest h.2)).map
      fun (new, rest) => new ++ rest

theorem Handler.replaceBodies_stays {g : Stmt → Option (List Stmt)} :
    ∀ hs : List Handler, (∀ t ∈ Handler.nodesIn hs, g t = none ∧ t.isNode = true) →
      (Handler.replaceBodies g hs).Stays (hs.map Handler.body) (Handler.nodesIn hs)
  | [], _ => .leaf []
  | .mk _ _ body :: rest, h => by
    rw [Handler.nodesIn, List.forall_mem_append] at h
    exact ((Stmt.replaceBlock_stays body h.1).pair (Handler.replaceBodies_stays rest h.2)).map
      fun (body, bodies) => body :: bodies

end

end Refactory
