import Refactory.Proofs.Rewrite.Outcome
import Refactory.Tree.Path

/-! # The imports of a tree

`Stmt.importList` lists the import statements at any depth, in order. A pass over expressions keeps
the list (`Stmt.rewriteBlock_importList`). A property of all imports survives a pass over statements
whose replacements keep it (`Stmt.replaceBlock_eachImport`), and an edit of one block
(`Block.editAt_eachImport`). -/

namespace Refactory

mutual

/-- The imports inside a statement. -/
def Stmt.importList : Stmt → List Stmt
  | .function _ body _ => Stmt.importListIn body
  | .classDef _ body _ => Stmt.importListIn body
  | .tryExcept body handlers orelse finalbody _ =>
    Stmt.importListIn body ++ Handler.importListIn handlers ++ Stmt.importListIn orelse ++
      Stmt.importListIn finalbody
  | .importNames names location => [.importNames names location]
  | .importFrom module names level location => [.importFrom module names level location]
  | .assign .. | .ret .. | .pass _ | .expr .. | .captured .. | .foreign _ => []

/-- The imports inside a block. -/
def Stmt.importListIn : List Stmt → List Stmt
  | [] => []
  | s :: rest => s.importList ++ Stmt.importListIn rest

/-- The imports inside the bodies of handlers. -/
def Handler.importListIn : List Handler → List Stmt
  | [] => []
  | .mk _ _ body :: rest => Stmt.importListIn body ++ Handler.importListIn rest

end

theorem Stmt.importListIn_eq (b : List Stmt) : Stmt.importListIn b = b.flatMap Stmt.importList := by
  induction b with
  | nil => rfl
  | cons s rest ih => rw [Stmt.importListIn, ih, List.flatMap_cons]

@[simp] theorem Stmt.importListIn_append (b c : List Stmt) :
    Stmt.importListIn (b ++ c) = Stmt.importListIn b ++ Stmt.importListIn c := by
  simp only [Stmt.importListIn_eq, List.flatMap_append]

theorem Handler.importListIn_eq (hs : List Handler) :
    Handler.importListIn hs = (hs.map Handler.body).flatMap Stmt.importListIn := by
  induction hs with
  | nil => rfl
  | cons h rest ih =>
    obtain ⟨type, name, body⟩ := h
    rw [Handler.importListIn, ih, List.map_cons, List.flatMap_cons, Handler.body]

/-- An import lists itself, any other statement the imports of its blocks. -/
theorem Stmt.importList_eq (s : Stmt) :
    s.importList = if s.isImport then [s] else s.blocks.flatMap Stmt.importListIn := by
  cases s <;>
    simp [Stmt.importList, Stmt.isImport, Stmt.blocks, Handler.importListIn_eq]

section

variable {s : Stmt} (h : s.isImport = true)
include h

theorem Stmt.isImport_blocks : s.blocks = [] := by
  cases s with
  | importNames names location | importFrom module names level location => rfl
  | _ => cases h

theorem Stmt.isImport_exprs : s.exprs = [] := by
  cases s with
  | importNames names location | importFrom module names level location => rfl
  | _ => cases h

end

theorem Stmt.importListIn_of_imports {b : List Stmt} (h : ∀ s ∈ b, s.isImport = true) :
    Stmt.importListIn b = b := by
  induction b with
  | nil => rfl
  | cons s rest ih =>
    rw [List.forall_mem_cons] at h
    rw [Stmt.importListIn, Stmt.importList_eq, if_pos h.1, ih h.2]
    rfl

mutual

theorem Stmt.importList_isImport : ∀ s : Stmt, ∀ t ∈ s.importList, t.isImport = true
  | .function _ body _ => Stmt.importListIn_isImport body
  | .classDef _ body _ => Stmt.importListIn_isImport body
  | .tryExcept body handlers orelse finalbody _ => by
    simp only [Stmt.importList, List.forall_mem_append]
    exact ⟨⟨⟨Stmt.importListIn_isImport body, Handler.importListIn_isImport handlers⟩,
      Stmt.importListIn_isImport orelse⟩, Stmt.importListIn_isImport finalbody⟩
  | .importNames .. | .importFrom .. => List.forall_mem_singleton.2 rfl
  | .assign .. | .ret .. | .pass _ | .expr .. | .captured .. | .foreign _ => by
    simp [Stmt.importList]

theorem Stmt.importListIn_isImport : ∀ b : List Stmt, ∀ t ∈ Stmt.importListIn b, t.isImport = true
  | [] => by simp [Stmt.importListIn]
  | s :: rest => List.forall_mem_append.2
      ⟨Stmt.importList_isImport s, Stmt.importListIn_isImport rest⟩

theorem Handler.importListIn_isImport :
    ∀ hs : List Handler, ∀ t ∈ Handler.importListIn hs, t.isImport = true
  | [] => by simp [Handler.importListIn]
  | .mk _ _ body :: rest => List.forall_mem_append.2
      ⟨Stmt.importListIn_isImport body, Handler.importListIn_isImport rest⟩

end

/-! ## Passes over expressions -/

open Visit (Gives)

theorem Handler.rebuild_bodies {hs : List Handler} {types : List (Option Expr)}
    {bodies : List Block} (htypes : types.length = hs.length) (hbodies : bodies.length = hs.length) :
    (Handler.rebuild hs types bodies).map Handler.body = bodies := by
  fun_induction Handler.rebuild hs types bodies with
  | case1 _ name _ hs t ts b bs ih =>
    simp only [List.length_cons, Nat.add_right_cancel_iff] at htypes hbodies
    rw [List.map_cons, ih htypes hbodies, Handler.body]
  | case2 hs types bodies h =>
    cases hs with
    | nil => exact (List.length_eq_zero_iff.1 hbodies).symm
    | cons handler hs =>
      obtain ⟨t, ts, rfl⟩ := List.exists_cons_of_length_eq_add_one htypes
      obtain ⟨b, bs, rfl⟩ := List.exists_cons_of_length_eq_add_one hbodies
      obtain ⟨type, name, body⟩ := handler
      exact (h _ _ _ _ _ _ _ _ rfl rfl rfl).elim

theorem Handler.rewriteTypes_length (f : Rewriter) :
    ∀ hs : List Handler, (Handler.rewriteTypes f hs).Gives fun ts => ts.length = hs.length
  | [] => .keep rfl
  | .mk _ _ _ :: rest =>
    (Gives.trivial _).consEach (Handler.rewriteTypes_length f rest) fun _ _ _ h => by simp [h]

mutual

theorem Stmt.rewriteExprs_importList (f : Rewriter) :
    ∀ s : Stmt, (s.rewriteExprs f).Gives fun s' => s'.importList = s.importList
  | .function _ body _ =>
    ((Gives.trivial _).pair (Stmt.rewriteBlock_importList f body)).map fun _ hx => hx.2
  | .classDef _ body _ =>
    ((Gives.trivial _).pair (Stmt.rewriteBlock_importList f body)).map fun _ hx => hx.2
  | .assign .. => (Gives.trivial _).map fun _ _ => rfl
  | .ret .. => (Gives.trivial _).map fun _ _ => rfl
  | .expr .. => (Gives.trivial _).map fun _ _ => rfl
  | .tryExcept body handlers orelse finalbody _ =>
    (((((Handler.rewriteTypes_length f handlers).pair (Stmt.rewriteBlock_importList f body)).pair
      (Handler.rewriteBodies_importList f handlers)).pair
      (Stmt.rewriteBlock_importList f orelse)).pair
      (Stmt.rewriteBlock_importList f finalbody)).map
      fun _ ⟨⟨⟨⟨ht, hb⟩, hl, hh⟩, ho⟩, hf⟩ => by
        simp only [Stmt.importList, hb, ho, hf, Handler.importListIn_eq,
          Handler.rebuild_bodies ht hl, hh]
  | .foreign _ => .fail _ _
  | .importNames .. | .importFrom .. | .pass _ | .captured .. => .keep rfl

/-- A pass over expressions does not touch imports. -/
theorem Stmt.rewriteBlock_importList (f : Rewriter) :
    ∀ b : List Stmt, (Stmt.rewriteBlock f b).Gives fun b' =>
      Stmt.importListIn b' = Stmt.importListIn b
  | [] => .keep rfl
  | s :: rest =>
    (Stmt.rewriteExprs_importList f s).consEach (Stmt.rewriteBlock_importList f rest)
      fun _ _ hs hrest => by rw [Stmt.importListIn, hs, hrest, Stmt.importListIn]

theorem Handler.rewriteBodies_importList (f : Rewriter) :
    ∀ hs : List Handler, (Handler.rewriteBodies f hs).Gives fun bs =>
      bs.length = hs.length ∧
        bs.flatMap Stmt.importListIn = (hs.map Handler.body).flatMap Stmt.importListIn
  | [] => .keep ⟨rfl, rfl⟩
  | .mk _ _ body :: rest =>
    (Stmt.rewriteBlock_importList f body).consEach (Handler.rewriteBodies_importList f rest)
      fun _ _ hb hrest => by simp [hb, hrest, Handler.body]

end

/-! ## Properties of all imports -/

variable {p q : Stmt → Prop}

/-- Every import inside a block satisfies `p`. -/
def Stmt.EachImport (p : Stmt → Prop) (b : List Stmt) : Prop := ∀ s ∈ Stmt.importListIn b, p s

@[simp] theorem Stmt.eachImport_nil : Stmt.EachImport p [] := by
  simp [Stmt.EachImport, Stmt.importListIn]

@[simp] theorem Stmt.eachImport_append {b c : List Stmt} :
    Stmt.EachImport p (b ++ c) ↔ Stmt.EachImport p b ∧ Stmt.EachImport p c := by
  simp only [Stmt.EachImport, Stmt.importListIn_append, List.mem_append, or_imp, forall_and]

theorem Stmt.eachImport_cons {s : Stmt} {b : List Stmt} :
    Stmt.EachImport p (s :: b) ↔ Stmt.EachImport p [s] ∧ Stmt.EachImport p b :=
  Stmt.eachImport_append (b := [s])

theorem Stmt.eachImport_iff {b : List Stmt} :
    Stmt.EachImport p b ↔ ∀ s ∈ b, Stmt.EachImport p [s] := by
  induction b with
  | nil => simp
  | cons s rest ih => rw [Stmt.eachImport_cons, ih, List.forall_mem_cons]

/-- A single statement: what it is itself, if it is an import, and what its blocks hold. -/
theorem Stmt.eachImport_singleton {s : Stmt} :
    Stmt.EachImport p [s] ↔ (s.isImport = true → p s) ∧ ∀ b ∈ s.blocks, Stmt.EachImport p b := by
  simp only [Stmt.EachImport, Stmt.importListIn, List.append_nil, Stmt.importList_eq]
  cases h : s.isImport with
  | true => simp [Stmt.isImport_blocks h]
  | false => simp; exact ⟨fun H b hb t ht => H t b hb ht, fun H t b hb ht => H b hb t ht⟩

theorem Stmt.eachImport_imports {b : List Stmt} (h : ∀ s ∈ b, s.isImport = true) :
    Stmt.EachImport p b ↔ ∀ s ∈ b, p s := by
  rw [Stmt.eachImport_iff]
  refine forall₂_congr fun s hs => ?_
  simp [Stmt.eachImport_singleton, h s hs, Stmt.isImport_blocks (h s hs)]

/-! ## Passes over statements -/

open Replaced (Leaves)

/-- Where imports satisfied `p`, they satisfy `q` after a pass with `g`: those of a replacement, and
those that are kept. -/
structure TurnsImports (p q : Stmt → Prop) (g : Stmt → Option (List Stmt)) : Prop where
  replace : ∀ s new, g s = some new → Stmt.EachImport p [s] → Stmt.EachImport q new
  keep : ∀ s : Stmt, s.isImport = true → g s = none → p s → q s

theorem TurnsImports.choose {g : Stmt → Option (List Stmt)} {s : Stmt} {inside : Replaced Stmt}
    (hg : TurnsImports p q g) (hs : Stmt.EachImport p [s])
    (h : g s = none → inside.Leaves fun s => Stmt.EachImport q [s]) :
    (Replaced.choose (g s) s inside).Leaves (Stmt.EachImport q) := by
  cases hs' : g s with
  | some new => exact fun _ => hg.replace s new hs' hs
  | none => exact h hs'

theorem Handler.rebuild_eachImport :
    ∀ {hs : List Handler} {types : List (Option Expr)} {bodies : List Block},
      (∀ b ∈ bodies, Stmt.EachImport p b) →
        ∀ b ∈ (Handler.rebuild hs types bodies).map Handler.body, Stmt.EachImport p b
  | .mk _ _ _ :: _, _ :: _, b :: bs, h => by
    rw [Handler.rebuild, List.map_cons, List.forall_mem_cons]
    rw [List.forall_mem_cons] at h
    exact ⟨h.1, Handler.rebuild_eachImport h.2⟩
  | [], _, _, _ | _ :: _, [], _, _ | _ :: _, _ :: _, [], _ => by simp [Handler.rebuild]

theorem Stmt.eachImport_tryExcept {body orelse finalbody : Block} {handlers : List Handler}
    {location : Option Location} :
    Stmt.EachImport p [.tryExcept body handlers orelse finalbody location] ↔
      ((Stmt.EachImport p body ∧ ∀ b ∈ handlers.map Handler.body, Stmt.EachImport p b) ∧
        Stmt.EachImport p orelse) ∧ Stmt.EachImport p finalbody := by
  simp [Stmt.eachImport_singleton, Stmt.isImport, Stmt.blocks, or_imp, forall_and, and_assoc]

mutual

theorem Stmt.replace_eachImport {g : Stmt → Option (List Stmt)} (hg : TurnsImports p q g) :
    ∀ s : Stmt, Stmt.EachImport p [s] → (s.replace g).Leaves (Stmt.EachImport q)
  | .function head body location, h => by
    have hb : Stmt.EachImport p body := (Stmt.eachImport_singleton.1 h).2 body (by simp [Stmt.blocks])
    refine hg.choose h fun _ => (Stmt.replaceBlock_eachImport hg body hb).map fun b hb => ?_
    simpa [Stmt.eachImport_singleton, Stmt.isImport, Stmt.blocks] using hb
  | .classDef head body location, h => by
    have hb : Stmt.EachImport p body := (Stmt.eachImport_singleton.1 h).2 body (by simp [Stmt.blocks])
    refine hg.choose h fun _ => (Stmt.replaceBlock_eachImport hg body hb).map fun b hb => ?_
    simpa [Stmt.eachImport_singleton, Stmt.isImport, Stmt.blocks] using hb
  | .tryExcept body handlers orelse finalbody location, h => by
    obtain ⟨⟨⟨hb, hh⟩, ho⟩, hf⟩ := Stmt.eachImport_tryExcept.1 h
    refine hg.choose h fun _ => ((((Stmt.replaceBlock_eachImport hg body hb).pair
      (Handler.replaceBodies_eachImport hg handlers hh)).pair
      (Stmt.replaceBlock_eachImport hg orelse ho)).pair
      (Stmt.replaceBlock_eachImport hg finalbody hf)).map ?_
    intro _ ⟨⟨⟨hb, hh⟩, ho⟩, hf⟩
    exact Stmt.eachImport_tryExcept.2 ⟨⟨⟨hb, Handler.rebuild_eachImport hh⟩, ho⟩, hf⟩
  | .importNames names location, h => hg.choose h fun hnone _ => by
    rw [Stmt.eachImport_singleton] at h ⊢
    exact ⟨fun _ => hg.keep _ rfl hnone (h.1 rfl), by simp [Stmt.blocks]⟩
  | .importFrom module names level location, h => hg.choose h fun hnone _ => by
    rw [Stmt.eachImport_singleton] at h ⊢
    exact ⟨fun _ => hg.keep _ rfl hnone (h.1 rfl), by simp [Stmt.blocks]⟩
  | .foreign _, h | .assign .., h | .ret .., h | .pass _, h | .expr .., h | .captured .., h =>
    hg.choose h fun _ _ => by simp [Stmt.eachImport_singleton, Stmt.isImport, Stmt.blocks]

/-- A pass over statements that ends well turns a property of all imports into another. -/
theorem Stmt.replaceBlock_eachImport {g : Stmt → Option (List Stmt)} (hg : TurnsImports p q g) :
    ∀ b : List Stmt, Stmt.EachImport p b → (Stmt.replaceBlock g b).Leaves (Stmt.EachImport q)
  | [], _ => fun _ => Stmt.eachImport_nil
  | s :: rest, h => by
    obtain ⟨hs, hrest⟩ := Stmt.eachImport_cons.1 h
    exact ((Stmt.replace_eachImport hg s hs).pair (Stmt.replaceBlock_eachImport hg rest hrest)).map
      fun _ hx => Stmt.eachImport_append.2 hx

theorem Handler.replaceBodies_eachImport {g : Stmt → Option (List Stmt)} (hg : TurnsImports p q g) :
    ∀ hs : List Handler, (∀ b ∈ hs.map Handler.body, Stmt.EachImport p b) →
      (Handler.replaceBodies g hs).Leaves fun bs => ∀ b ∈ bs, Stmt.EachImport q b
  | [], _ => fun _ => by simp [Handler.replaceBodies]
  | .mk _ _ body :: rest, h => by
    rw [List.map_cons, List.forall_mem_cons] at h
    exact ((Stmt.replaceBlock_eachImport hg body h.1).pair
      (Handler.replaceBodies_eachImport hg rest h.2)).map fun _ hx => List.forall_mem_cons.2 hx

end

/-! ## Edits of one block -/

theorem Stmt.setHandlerBody_eachImport {block : Block} (hblock : Stmt.EachImport p block) :
    ∀ (k : Nat) {hs : List Handler}, (∀ b ∈ hs.map Handler.body, Stmt.EachImport p b) →
      ∀ b ∈ (Stmt.setHandlerBody block k hs).map Handler.body, Stmt.EachImport p b
  | 0, [], h | _ + 1, [], h => by simp [Stmt.setHandlerBody]
  | 0, .mk _ _ _ :: _, h => by
    rw [List.map_cons, List.forall_mem_cons] at h
    exact List.forall_mem_cons.2 ⟨hblock, h.2⟩
  | k + 1, _ :: _, h => by
    rw [List.map_cons, List.forall_mem_cons] at h
    rw [Stmt.setHandlerBody, List.map_cons, List.forall_mem_cons]
    exact ⟨h.1, Stmt.setHandlerBody_eachImport hblock k h.2⟩

theorem Stmt.setBlock_eachImport {s : Stmt} {block : Block} (k : Nat)
    (hs : Stmt.EachImport p [s]) (hblock : Stmt.EachImport p block) :
    Stmt.EachImport p [s.setBlock k block] := by
  cases s with
  | function head body location =>
    simpa [Stmt.setBlock, Stmt.eachImport_singleton, Stmt.isImport, Stmt.blocks] using hblock
  | classDef head body location =>
    simpa [Stmt.setBlock, Stmt.eachImport_singleton, Stmt.isImport, Stmt.blocks] using hblock
  | tryExcept body handlers orelse finalbody location =>
    obtain ⟨⟨⟨hb, hh⟩, ho⟩, hf⟩ := Stmt.eachImport_tryExcept.1 hs
    simp only [Stmt.setBlock]
    split
    · exact Stmt.eachImport_tryExcept.2 ⟨⟨⟨hblock, hh⟩, ho⟩, hf⟩
    split
    · exact Stmt.eachImport_tryExcept.2
        ⟨⟨⟨hb, Stmt.setHandlerBody_eachImport hblock _ hh⟩, ho⟩, hf⟩
    split
    · exact Stmt.eachImport_tryExcept.2 ⟨⟨⟨hb, hh⟩, hblock⟩, hf⟩
    · exact Stmt.eachImport_tryExcept.2 ⟨⟨⟨hb, hh⟩, ho⟩, hblock⟩
  | importNames _ _ | importFrom _ _ _ _ | assign _ _ _ | ret _ _ | pass _ | expr _ _
  | captured _ _ _ | foreign _ => exact hs

theorem Stmt.EachImport.getD {b : Block} (h : Stmt.EachImport p b) (i : Nat) :
    Stmt.EachImport p [b[i]?.getD default] := by
  cases hi : b[i]? with
  | none => simp [Stmt.eachImport_singleton, default, Stmt.isImport, Stmt.blocks]
  | some s => exact Stmt.eachImport_iff.1 h s (List.mem_of_getElem? hi)

/-- An edit of the block at a path keeps a property of all imports, if it does so in that block. -/
theorem Block.editAt_eachImport {edit : Block → Nat → Block}
    (hedit : ∀ b i, Stmt.EachImport p b → Stmt.EachImport p (edit b i)) {path : Path} :
    ∀ {rest : Path} {depth : Nat} {b b' : Block} {step : Int},
      Stmt.EachImport p b → Block.editAt edit path depth b step rest = .ok b' →
        Stmt.EachImport p b'
  | [], depth, b, b', step, h, hb' => by
    rw [Block.editAt] at hb'
    split at hb'
    · cases hb'
    · cases hb'
      exact hedit _ _ h
  | next :: rest, depth, b, b', step, h, hb' => by
    rw [Block.editAt] at hb'
    split at hb'
    · cases hb'
    · rename_i i _
      have hs := h.getD i
      generalize b[i]?.getD default = s at hb' hs
      cases hchild : s.child next with
      | error f => simp [hchild, bind, Except.bind] at hb'
      | ok found =>
        obtain ⟨k, j⟩ := found
        simp only [hchild, bind, Except.bind] at hb'
        split at hb'
        · cases hb'
        · rename_i inner hinner
          cases hb'
          have hblock : Stmt.EachImport p (s.blocks[k]?.getD []) := by
            cases hk : s.blocks[k]? with
            | none => simp
            | some block =>
              exact (Stmt.eachImport_singleton.1 hs).2 block (List.mem_of_getElem? hk)
          have hset := Stmt.setBlock_eachImport k hs (Block.editAt_eachImport hedit hblock hinner)
          rw [Stmt.eachImport_iff] at h ⊢
          intro t ht
          rcases List.mem_or_eq_of_mem_set ht with ht | rfl
          · exact h t ht
          · exact hset

end Refactory
