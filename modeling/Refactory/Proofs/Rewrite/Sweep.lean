import Refactory.Proofs.Modernize.Standing
import Refactory.Proofs.Tree.Replacement

/-! # Passes that count through blocks

A pass over statements can run by position (`Stmt.sweep`): an index goes through a block, what replaces
the statement at the index is put into the block, which grows or shrinks, and the index goes on behind
it. A statement is its surface and its blocks (`Stmt.eq_of_blocks`), so what a pass does to a statement
is what it does to its blocks, one after the other (`Stmt.replace_blocks`), and the pass by position is
the pass by structure (`Stmt.sweep_eq`): in front of the index stands what is done, and behind it what
stood there before. Main statement: `replaceStmts_preorder`. -/

namespace Refactory

/-! ## The blocks of a statement -/

theorem Handler.eq_of_bodies {hs hs' : List Handler}
    (hsurface : hs.map Handler.surface = hs'.map Handler.surface)
    (hbodies : hs.map Handler.body = hs'.map Handler.body) : hs = hs' := by
  induction hs generalizing hs' with
  | nil =>
    cases hs' with
    | nil => rfl
    | cons h hs' => cases hbodies
  | cons h hs ih =>
    cases hs' with
    | nil => cases hbodies
    | cons h' hs' =>
      rw [List.map_cons, List.map_cons, List.cons.injEq] at hsurface hbodies
      obtain ⟨type, name, body⟩ := h
      obtain ⟨type', name', body'⟩ := h'
      rw [Handler.surface, Handler.surface] at hsurface
      obtain ⟨hhead, htail⟩ := hsurface
      cases hhead
      rw [ih htail hbodies.2, show body = body' from hbodies.1]

/-- A statement is its surface and its blocks. -/
theorem Stmt.eq_of_blocks {s t : Stmt} (hsurface : s.surface = t.surface)
    (hblocks : s.blocks = t.blocks) : s = t := by
  cases s with
  | function head body location =>
    cases t with
    | function head' body' location' =>
      cases hsurface
      cases hblocks
      rfl
    | _ => cases hsurface
  | classDef head body location =>
    cases t with
    | classDef head' body' location' =>
      cases hsurface
      cases hblocks
      rfl
    | _ => cases hsurface
  | tryExcept body handlers orelse finalbody location =>
    cases t with
    | tryExcept body' handlers' orelse' finalbody' location' =>
      injection hsurface with _ hhandlers _ _ hlocation
      obtain ⟨hbody, hrest⟩ := List.cons.inj hblocks
      obtain ⟨hbodies, hlast⟩ := List.append_inj' hrest rfl
      rw [hbody, Handler.eq_of_bodies hhandlers hbodies, hlocation]
      cases hlast
      rfl
    | _ => cases hsurface
  | _ => cases t <;> first | exact hsurface | cases hsurface

/-- The statement with `bs` in place of its blocks from the `k`th on. -/
def Stmt.setBlocks (s : Stmt) (k : Nat) : List Block → Stmt
  | [] => s
  | b :: bs => (s.setBlock k b).setBlocks (k + 1) bs

theorem Stmt.setBlocks_surface (s : Stmt) (k : Nat) (bs : List Block) :
    (s.setBlocks k bs).surface = s.surface := by
  induction bs generalizing s k with
  | nil => rfl
  | cons b bs ih => rw [Stmt.setBlocks, ih, Stmt.setBlock_surface]

theorem Stmt.setBlocks_blocks {s : Stmt} {k : Nat} {bs : List Block}
    (h : k + bs.length = s.blocks.length) : (s.setBlocks k bs).blocks = s.blocks.take k ++ bs := by
  induction bs generalizing s k with
  | nil =>
    rw [List.length_nil, Nat.add_zero] at h
    rw [Stmt.setBlocks, List.append_nil, List.take_of_length_le (Nat.le_of_eq h.symm)]
  | cons b bs ih =>
    rw [List.length_cons] at h
    have hk : k < s.blocks.length := by omega
    have hset := Stmt.setBlock_blocks hk b
    have hlength : k + 1 + bs.length = (s.setBlock k b).blocks.length := by
      rw [hset, List.length_set]
      omega
    rw [Stmt.setBlocks, ih hlength, hset, List.take_add_one, List.take_set_of_le (Nat.le_refl k),
      List.getElem?_set_self hk, List.append_assoc]
    rfl

/-- The statement with all its blocks replaced. -/
theorem Stmt.setBlocks_all {s : Stmt} {bs : List Block} (h : bs.length = s.blocks.length) :
    (s.setBlocks 0 bs).blocks = bs := by
  rw [Stmt.setBlocks_blocks ((Nat.zero_add _).trans h), List.take_zero, List.nil_append]

/-! ## Passes over blocks -/

namespace Replaced

variable {α β γ : Type}

theorem map_map (r : Replaced α) (make : α → β) (make' : β → γ) :
    (r.map make).map make' = r.map fun a => make' (make a) := rfl

theorem map_congr {r : Replaced α} {make make' : α → β} (h : make r.now = make' r.now) :
    r.map make = r.map make' := by
  unfold map
  rw [h]

theorem pair_seen {r : Replaced α} (h : r.fault = none) (b : β) (s : Replaced β) :
    (r.pair b s).seen = r.seen ++ s.seen := by
  unfold pair
  rw [h]

end Replaced

section

variable {g : Stmt → Option (List Stmt)}

/-- Replaces the statements of blocks, one block after the other. -/
def Stmt.replaceEach (g : Stmt → Option (List Stmt)) : List Block → Replaced (List Block)
  | [] => { now := [] }
  | b :: bs => ((Stmt.replaceBlock g b).pair bs (Stmt.replaceEach g bs)).map fun (b, bs) => b :: bs

theorem Handler.replaceBodies_eq (hs : List Handler) :
    Handler.replaceBodies g hs = Stmt.replaceEach g (hs.map Handler.body) := by
  induction hs with
  | nil => rfl
  | cons h hs ih =>
    obtain ⟨type, name, body⟩ := h
    rw [Handler.replaceBodies, ih]
    rfl

theorem Stmt.replaceEach_length (bs : List Block) :
    (Stmt.replaceEach g bs).now.length = bs.length := by
  induction bs with
  | nil => rfl
  | cons b bs ih =>
    rw [Stmt.replaceEach, Replaced.map, Replaced.pair]
    cases (Stmt.replaceBlock g b).fault with
    | some f => rfl
    | none => exact congrArg (· + 1) ih

theorem Stmt.replaceEach_concat (bs cs : List Block) :
    Stmt.replaceEach g (bs ++ cs) =
      ((Stmt.replaceEach g bs).pair cs (Stmt.replaceEach g cs)).map fun (bs, cs) => bs ++ cs := by
  induction bs with
  | nil => simp [Stmt.replaceEach, Replaced.pair, Replaced.map]
  | cons b bs ih =>
    rw [List.cons_append, Stmt.replaceEach, ih, Stmt.replaceEach]
    unfold Replaced.pair
    cases (Stmt.replaceBlock g b).fault with
    | some f => simp [Replaced.map]
    | none =>
      simp only [Replaced.map]
      cases (Stmt.replaceEach g bs).fault <;> simp [Nat.add_assoc]

/-- Replacing in blocks one after the other is replacing in one block that they make up. -/
theorem Stmt.replaceEach_flatten (bs : List Block) :
    (Stmt.replaceEach g bs).map List.flatten = Stmt.replaceBlock g bs.flatten := by
  induction bs with
  | nil => rfl
  | cons b bs ih =>
    rw [List.flatten_cons, Stmt.replaceBlock_concat, ← ih, Stmt.replaceEach]
    unfold Replaced.pair
    cases (Stmt.replaceBlock g b).fault <;> rfl

theorem Stmt.replaceEach_singleton (b : Block) :
    Stmt.replaceEach g [b] = (Stmt.replaceBlock g b).map fun b => [b] := by
  unfold Stmt.replaceEach Stmt.replaceEach Replaced.pair Replaced.map
  cases (Stmt.replaceBlock g b).fault <;> simp

theorem Stmt.replaceEach_try (body : Block) (bodies : List Block) (orelse finalbody : Block) :
    Stmt.replaceEach g (body :: bodies ++ [orelse, finalbody]) =
      ((((Stmt.replaceBlock g body).pair bodies (Stmt.replaceEach g bodies)).pair orelse
        (Stmt.replaceBlock g orelse)).pair finalbody (Stmt.replaceBlock g finalbody)).map
        fun (((b, bs), o), e) => b :: bs ++ [o, e] := by
  rw [Stmt.replaceEach_concat, Stmt.replaceEach, Stmt.replaceEach, Stmt.replaceEach_singleton]
  unfold Replaced.pair Replaced.map
  cases (Stmt.replaceBlock g body).fault <;> cases (Stmt.replaceEach g bodies).fault <;>
    cases (Stmt.replaceBlock g orelse).fault <;> simp [Nat.add_assoc]

/-- A statement that is not replaced keeps its surface, and its blocks are replaced one after the
other. -/
theorem Stmt.replace_blocks {s : Stmt} (hs : s.isNode = true) :
    s.replace g = Replaced.choose (g s) s ((Stmt.replaceEach g s.blocks).map (s.setBlocks 0)) := by
  cases s with
  | function head body location | classDef head body location =>
    rw [Stmt.replace, Stmt.blocks, Stmt.replaceEach_singleton]
    rfl
  | tryExcept body handlers orelse finalbody location =>
    have hlength := Stmt.replaceEach_length (g := g)
      (body :: handlers.map Handler.body ++ [orelse, finalbody])
    rw [Stmt.replace, Stmt.blocks, Handler.replaceBodies_eq]
    rw [Stmt.replaceEach_try] at hlength ⊢
    rw [Replaced.map_map]
    refine congrArg (Replaced.choose _ _) (Replaced.map_congr ?_)
    rw [Replaced.map] at hlength
    generalize (Replaced.pair (Replaced.pair _ _ _) _ _).now = parts at hlength ⊢
    obtain ⟨⟨⟨b, bs⟩, o⟩, e⟩ := parts
    have hbs : bs.length = handlers.length := by
      simp only [List.length_append, List.length_cons, List.length_map] at hlength
      omega
    have htypes : (handlers.map Handler.type).length = handlers.length := List.length_map _
    obtain ⟨ht, hn⟩ := Handler.rebuild_names htypes hbs
    refine Stmt.eq_of_blocks ?_ ?_
    · rw [Stmt.setBlocks_surface]
      exact congrArg (Stmt.tryExcept [] · [] [] location) (Handler.surface_eq ht hn)
    · rw [Stmt.setBlocks_all hlength, Stmt.blocks, Handler.rebuild_bodies htypes hbs]
  | foreign kind => cases hs
  | _ => rfl

/-- A pass over nodes ends well, whatever takes the place of statements. -/
theorem Stmt.replaceBlock_fault {b : List Stmt} (h : ∀ s ∈ Stmt.nodesIn b, s.isNode = true) :
    (Stmt.replaceBlock g b).fault = none := by
  refine Stmt.induct_nodes (P := fun b => (Stmt.replaceBlock g b).fault = none) rfl ?_ ?_ h
  · intro s b _ hs hb
    rw [(Stmt.replaceBlock_append [s] b).1, hs, hb]
    rfl
  · intro s hs hchildren
    rw [(Stmt.replaceBlock_cons s []).1]
    cases hg : g s with
    | some new =>
      rw [Stmt.replace_some hg]
      rfl
    | none =>
      rw [(Stmt.replace_none hs hg).1, hchildren]
      rfl

theorem Stmt.replaceEach_now {bs : List Block}
    (h : ∀ b ∈ bs, (Stmt.replaceBlock g b).fault = none) :
    (Stmt.replaceEach g bs).now = bs.map fun b => (Stmt.replaceBlock g b).now := by
  induction bs with
  | nil => rfl
  | cons b bs ih =>
    rw [List.forall_mem_cons] at h
    rw [Stmt.replaceEach, Replaced.map, Replaced.pair_now h.1, ih h.2]
    rfl

/-- A pass over nodes puts the replacement of each statement in its place, or else the statement with
the same done to its blocks. -/
theorem Stmt.replaceBlock_flatMap {b : List Stmt} (h : ∀ s ∈ Stmt.nodesIn b, s.isNode = true) :
    (Stmt.replaceBlock g b).now = b.flatMap fun s =>
      (g s).getD [s.setBlocks 0 (s.blocks.map fun c => (Stmt.replaceBlock g c).now)] := by
  induction b with
  | nil => rfl
  | cons s b ih =>
    have hfault := Stmt.replaceBlock_fault (g := g) h
    obtain ⟨hcons, hnow⟩ := Stmt.replaceBlock_cons (g := g) s b
    obtain ⟨hs, -⟩ := Option.or_eq_none_iff.1 (hcons.symm.trans hfault)
    rw [Stmt.nodesIn, List.forall_mem_append, Stmt.nodes_eq, List.forall_mem_cons] at h
    obtain ⟨⟨hnode, hinside⟩, hb⟩ := h
    rw [hnow hs, ih hb, List.flatMap_cons]
    congr 1
    rw [Stmt.replace_blocks hnode]
    cases g s with
    | some new => rfl
    | none =>
      rw [Replaced.choose, Replaced.map, Stmt.replaceEach_now]
      · rfl
      · intro c hc
        exact Stmt.replaceBlock_fault fun t ht => hinside t (List.mem_flatMap.2 ⟨c, hc, ht⟩)

/-- A pass over nodes is shown, in pre-order, those that are not inside one that it replaces. -/
theorem Stmt.replaceBlock_seen {b : List Stmt} (h : ∀ s ∈ Stmt.nodesIn b, s.isNode = true)
    (path : Path) (first : Nat) : (Stmt.replaceBlock g b).seen =
      (outside (fun s => (g s).isSome) (Stmt.walkBlock path first b).items).map (·.2) := by
  revert path first
  refine Stmt.induct_nodes (P := fun b => ∀ (path : Path) (first : Nat),
    (Stmt.replaceBlock g b).seen =
      (outside (fun s => (g s).isSome) (Stmt.walkBlock path first b).items).map (·.2)) ?_ ?_ ?_ h
  · intro path first
    rfl
  · intro s b hs hseen hrest path first
    rw [Stmt.replaceBlock_concat, Replaced.map, Replaced.pair_seen (Stmt.replaceBlock_fault hs),
      hseen path first, hrest path (first + 1), Stmt.walkBlock_items_append path first hs,
      outside_append (Stmt.walkBlock_under path first [s]) (Stmt.walkBlock_under path _ b),
      List.map_append]
    rfl
  · intro s hs hchildren path first
    have hseen : (Stmt.replaceBlock g [s]).seen = (s.replace g).seen := by
      rw [Stmt.replaceBlock, Stmt.replaceBlock, Replaced.map]
      unfold Replaced.pair
      cases (s.replace g).fault <;> simp
    rw [Stmt.walkBlock_singleton path first hs, outside_cons (Stmt.walkBlock_under _ 0 s.children),
      hseen, Stmt.replace_blocks hs, List.map_cons]
    cases g s with
    | some new => rfl
    | none =>
      have hinside := congrArg Replaced.seen (Stmt.replaceEach_flatten (g := g) s.blocks)
      exact congrArg (s :: ·) (hinside.trans (hchildren _ 0))

end

/-! ## Passes by position -/

/-- The statements inside a block from an index on. -/
theorem Stmt.nodesIn_drop {b : Block} {i : Nat} (h : i < b.length) :
    Stmt.nodesIn (b.drop i) =
      b[i] :: (b[i].blocks.flatMap Stmt.nodesIn ++ Stmt.nodesIn (b.drop (i + 1))) := by
  rw [List.drop_eq_getElem_cons h, Stmt.nodesIn, Stmt.nodes_eq]
  rfl

theorem Block.drop_splice {b : Block} {i : Nat} (h : i < b.length) (new : List Stmt) :
    (b.take i ++ new ++ b.drop (i + 1)).drop (i + new.length) = b.drop (i + 1) := by
  have hlength : (b.take i ++ new).length = i + new.length := by
    rw [List.length_append, List.length_take_of_le (Nat.le_of_lt h)]
  rw [← hlength, List.drop_left]

mutual

/-- Replaces statements of a block from the index `i` on. -/
def Stmt.sweep (g : Stmt → Option (List Stmt)) (b : Block) (i : Nat) : Replaced Block :=
  if h : i < b.length then
    match g b[i] with
    | some new =>
      let rest := Stmt.sweep g (b.take i ++ new ++ b.drop (i + 1)) (i + new.length)
      { rest with seen := b[i] :: rest.seen, count := 1 + rest.count }
    | none =>
      let inside := Stmt.sweepInside g b[i]
      match inside.fault with
      | some f =>
        { now := b.set i inside.now, fault := some f, seen := b[i] :: inside.seen,
          count := inside.count }
      | none =>
        let rest := Stmt.sweep g (b.set i inside.now) (i + 1)
        { rest with seen := b[i] :: inside.seen ++ rest.seen, count := inside.count + rest.count }
  else { now := b }
-- What is still to be visited: a replacement is skipped, so it does not count.
termination_by ((Stmt.nodesIn (b.drop i)).length, 0)
decreasing_by
  · rw [Block.drop_splice h, Stmt.nodesIn_drop h, List.length_cons, List.length_append]
    exact Prod.Lex.left _ _ (by omega)
  · rw [Stmt.nodesIn_drop h, List.length_cons, List.length_append]
    exact Prod.Lex.left _ _ (by omega)
  · rw [List.drop_set_of_lt (by omega), Stmt.nodesIn_drop h, List.length_cons,
      List.length_append]
    exact Prod.Lex.left _ _ (by omega)

/-- Replaces statements in the blocks of a statement. -/
def Stmt.sweepInside (g : Stmt → Option (List Stmt)) (s : Stmt) : Replaced Stmt :=
  match s with
  | .foreign kind => { now := .foreign kind, fault := some (.notVariant kind) }
  | s => (Stmt.sweepEach g s.blocks).map (s.setBlocks 0)
termination_by ((s.blocks.flatMap Stmt.nodesIn).length, s.blocks.length + 2)
decreasing_by exact Prod.Lex.right _ (Nat.lt_succ_self _)

/-- Replaces statements in blocks, one block after the other. -/
def Stmt.sweepEach (g : Stmt → Option (List Stmt)) (bs : List Block) : Replaced (List Block) :=
  match bs with
  | [] => { now := [] }
  | b :: bs => ((Stmt.sweep g b 0).pair bs (Stmt.sweepEach g bs)).map fun (b, bs) => b :: bs
termination_by ((bs.flatMap Stmt.nodesIn).length, bs.length + 1)
decreasing_by
  · rw [List.flatMap_cons, List.length_append, List.drop_zero, Prod.lex_def, List.length_cons]
    omega
  · rw [List.flatMap_cons, List.length_append, Prod.lex_def, List.length_cons]
    omega

end

section

variable {g : Stmt → Option (List Stmt)}

/-- The pass by position at an index with `front` before it: it has been there and comes back no more. -/
theorem Stmt.sweep_from {b : List Stmt}
    (hb : ∀ s ∈ b, s.replace g = Replaced.choose (g s) s (Stmt.sweepInside g s)) (front : Block) :
    Stmt.sweep g (front ++ b) front.length = (Stmt.replaceBlock g b).map (front ++ ·) := by
  induction b generalizing front with
  | nil =>
    rw [Stmt.sweep, dif_neg (by simp)]
    rfl
  | cons s b ih =>
    rw [List.forall_mem_cons] at hb
    have hlt : front.length < (front ++ s :: b).length := by simp
    have hget : (front ++ s :: b)[front.length] = s := by simp
    have hset : ∀ s', (front ++ s :: b).set front.length s' = front ++ [s'] ++ b := by simp
    have hsplice : ∀ new, (front ++ s :: b).take front.length ++ new ++
        (front ++ s :: b).drop (front.length + 1) = front ++ new ++ b := by simp
    have hrest : ∀ new, Stmt.sweep g (front ++ new ++ b) (front.length + new.length) =
        (Stmt.replaceBlock g b).map (front ++ new ++ ·) := by
      intro new
      rw [← List.length_append]
      exact ih hb.2 (front ++ new)
    rw [Stmt.sweep, dif_pos hlt, hget, Stmt.replaceBlock, hb.1]
    cases hg : g s with
    | some new =>
      simp only [hsplice, hrest new, Replaced.choose, Replaced.pair, Replaced.map]
      simp
    | none =>
      simp only [hset, Replaced.choose, Replaced.pair, Replaced.map]
      cases hinside : (Stmt.sweepInside g s).fault with
      | some f => simp
      | none =>
        rw [show front.length + 1 = front.length + [(Stmt.sweepInside g s).now].length from rfl, hrest]
        simp [Replaced.map]

theorem Stmt.sweepEach_eq {bs : List Block}
    (hbs : ∀ s ∈ bs.flatten, s.replace g = Replaced.choose (g s) s (Stmt.sweepInside g s)) :
    Stmt.sweepEach g bs = Stmt.replaceEach g bs := by
  induction bs with
  | nil => rw [Stmt.sweepEach, Stmt.replaceEach]
  | cons b bs ih =>
    rw [List.flatten_cons, List.forall_mem_append] at hbs
    rw [Stmt.sweepEach, Stmt.replaceEach, ih hbs.2]
    rw [show Stmt.sweep g b 0 = Stmt.replaceBlock g b from Stmt.sweep_from hbs.1 []]

theorem Stmt.sweepInside_eq (s : Stmt) :
    s.replace g = Replaced.choose (g s) s (Stmt.sweepInside g s) := by
  induction s using Stmt.induct_children with
  | h s ih =>
    cases hs : s.isNode with
    | true =>
      rw [Stmt.replace_blocks hs, Stmt.sweepInside, Stmt.sweepEach_eq ih]
      intro kind hkind
      rw [hkind] at hs
      cases hs
    | false =>
      cases s with
      | foreign kind => rw [Stmt.replace, Stmt.sweepInside]
      | _ => cases hs

/-- The pass by position is the pass by structure. -/
theorem Stmt.sweep_eq (b : Block) : Stmt.sweep g b 0 = Stmt.replaceBlock g b :=
  Stmt.sweep_from (fun s _ => Stmt.sweepInside_eq s) []

end

/-- A pass over the statements of a module of nodes can run by position, which comes to an end with the
same outcome, and never fails. It is shown, in pre-order, the statements that are not inside one that it
replaces, and nothing inside a replacement; it counts the replacements; and of each block it leaves what
replaces its statements one after the other, or else the statement itself, with its surface, around what
the pass leaves of its blocks. -/
theorem replaceStmts_preorder (g : Stmt → Option (List Stmt)) {m : Module}
    (h : ∀ s ∈ Stmt.nodesIn m.body, s.isNode = true) :
    Stmt.sweep g m.body 0 = m.replaceStmts g ∧
    (replaceStmts g).perform m = (.ok (m.replaceStmts g).count, ⟨(m.replaceStmts g).now⟩) ∧
    (m.replaceStmts g).seen = (outside (fun s => (g s).isSome) m.walk.items).map (·.2) ∧
    (m.replaceStmts g).count = (m.replaceStmts g).seen.countP (fun s => (g s).isSome) ∧
    (∀ b : Block, (∀ s ∈ Stmt.nodesIn b, s.isNode = true) →
      (Stmt.replaceBlock g b).now = b.flatMap fun s =>
        (g s).getD [s.setBlocks 0 (s.blocks.map fun c => (Stmt.replaceBlock g c).now)]) ∧
    ∀ (s : Stmt) (bs : List Block), bs.length = s.blocks.length →
      (s.setBlocks 0 bs).blocks = bs ∧ (s.setBlocks 0 bs).surface = s.surface := by
  refine ⟨Stmt.sweep_eq m.body, ?_, Stmt.replaceBlock_seen h [] 0,
    (Stmt.replaceBlock_follows g m.body).count, fun b hb => Stmt.replaceBlock_flatMap hb, ?_⟩
  · have hfault : (m.replaceStmts g).fault = none := Stmt.replaceBlock_fault h
    rw [Edit.perform]
    change (match (m.replaceStmts g).fault with
      | some f => Except.error f
      | none => .ok (m.replaceStmts g).count, _) = _
    rw [hfault]
  · intro s bs hbs
    exact ⟨Stmt.setBlocks_all hbs, s.setBlocks_surface 0 bs⟩

/-- A function is replaced as a whole; elsewhere `pass` goes, and a `return` is doubled. -/
theorem replaceStmts_preorder_sample :
    let g : Stmt → Option (List Stmt)
      | .pass _ => some []
      | .ret value location => some [.ret value location, .ret value location]
      | .function head _ location => some [.pass location, .function head [.ret none none] location]
      | _ => none
    let head : FunctionHead := ⟨"f", [], none, [], false⟩
    let m : Module := ⟨[.pass none, .function head [.pass none] none,
      .tryExcept [.ret none none, .pass none] [⟨none, none, [.pass none]⟩] []
        [.pass none, .expr .noneLiteral none, .ret none none] none]⟩
    (∀ s ∈ Stmt.nodesIn m.body, s.isNode = true) ∧
    (replaceStmts g).perform m = (.ok 7, ⟨[.pass none, .function head [.ret none none] none,
      .tryExcept [.ret none none, .ret none none] [⟨none, none, []⟩] []
        [.expr .noneLiteral none, .ret none none, .ret none none] none]⟩) ∧
    (m.replaceStmts g).seen = (m.walk.items.map (·.2)).eraseIdx 2 := by
  intro g head m
  have h : ∀ s ∈ Stmt.nodesIn m.body, s.isNode = true := by decide
  obtain ⟨-, hperform, hseen, -, -, -⟩ := replaceStmts_preorder g h
  exact ⟨h, hperform, hseen.trans rfl⟩

end Refactory
