import Refactory.Proofs.Modernize.Splice
import Refactory.Proofs.Tree.Nodes

/-! # What a tree holds besides imports

`Stmt.content` lists the statements of a block at any depth that are no imports, each without its
blocks. A splice that puts imports in place of imports keeps it (`Stmt.spliceBlock_content`). A
property of all statements that imports have anyway, and that does not look into blocks, is a property
of the content (`Stmt.content_forall`). -/

namespace Refactory

/-- A statement with its blocks emptied. -/
def Stmt.surface : Stmt → Stmt
  | .function head _ location => .function head [] location
  | .classDef head _ location => .classDef head [] location
  | .tryExcept _ handlers _ _ location =>
    .tryExcept [] (handlers.map fun h => .mk h.type h.name []) [] [] location
  | s => s

/-- The statements of a block at any depth that are no imports, without their blocks. -/
def Stmt.content (b : List Stmt) : List Stmt :=
  ((Stmt.nodesIn b).filter (!·.isImport)).map Stmt.surface

@[simp] theorem Stmt.content_nil : Stmt.content [] = [] := rfl

@[simp] theorem Stmt.content_append (b c : List Stmt) :
    Stmt.content (b ++ c) = Stmt.content b ++ Stmt.content c := by
  simp [Stmt.content]

theorem Stmt.content_cons (s : Stmt) (b : List Stmt) :
    Stmt.content (s :: b) = Stmt.content [s] ++ Stmt.content b := Stmt.content_append [s] b

theorem Stmt.content_singleton (s : Stmt) :
    Stmt.content [s] =
      (if s.isImport then [] else [s.surface]) ++ s.blocks.flatMap Stmt.content := by
  simp only [Stmt.content, Stmt.nodesIn, List.append_nil, Stmt.nodes_eq, List.filter_cons,
    List.filter_flatMap]
  cases s.isImport <;> simp only [Bool.not_true, Bool.not_false, if_true, Bool.false_eq_true,
    if_false, List.map_cons, List.map_flatMap] <;> rfl

theorem Stmt.content_import {s : Stmt} (h : s.isImport = true) : Stmt.content [s] = [] := by
  simp [Stmt.content_singleton, h, Stmt.isImport_blocks h]

theorem Stmt.content_imports {b : List Stmt} (h : ∀ s ∈ b, s.isImport = true) :
    Stmt.content b = [] := by
  induction b with
  | nil => rfl
  | cons s rest ih =>
    rw [List.forall_mem_cons] at h
    rw [Stmt.content_cons, Stmt.content_import h.1, ih h.2, List.append_nil]

/-- What every statement satisfies, if imports satisfy it and blocks do not matter. -/
theorem Stmt.content_forall {P : Stmt → Prop} (himport : ∀ s : Stmt, s.isImport = true → P s)
    (hsurface : ∀ s : Stmt, P s.surface ↔ P s) (b : List Stmt) :
    (∀ s ∈ Stmt.nodesIn b, P s) ↔ ∀ s ∈ Stmt.content b, P s := by
  simp only [Stmt.content, List.forall_mem_map, List.mem_filter, hsurface]
  refine ⟨fun h s hs => h s hs.1, fun h s hs => ?_⟩
  cases hs' : s.isImport with
  | true => exact himport s hs'
  | false => exact h s ⟨hs, by simp [hs']⟩

theorem Stmt.content_tryExcept (body : Block) (handlers : List Handler) (orelse finalbody : Block)
    (location : Option Location) :
    Stmt.content [.tryExcept body handlers orelse finalbody location] =
      .tryExcept [] (handlers.map fun h => .mk h.type h.name []) [] [] location ::
        (Stmt.content body ++ (handlers.map Handler.body).flatMap Stmt.content ++
          Stmt.content orelse ++ Stmt.content finalbody) := by
  simp [Stmt.content_singleton, Stmt.isImport, Stmt.surface, Stmt.blocks]

/-! ## Splices -/

section

variable {isIt : Stmt → Bool}

theorem Stmt.splice_import_content {s : Stmt} (hs : s.isImport = true) {news : List (List Stmt)}
    (h : ∀ new ∈ news, ∀ t ∈ new, t.isImport = true) :
    Stmt.content (s.splice isIt news).1 = Stmt.content [s] ∧
      ∀ new ∈ (s.splice isIt news).2, ∀ t ∈ new, t.isImport = true := by
  rw [Stmt.content_import hs]
  cases hit : isIt s with
  | false =>
    rw [Stmt.splice_other (Stmt.isImport_blocks hs) hit]
    exact ⟨Stmt.content_import hs, h⟩
  | true =>
    cases news with
    | nil =>
      rw [Stmt.splice_nil (Stmt.isImport_blocks hs)]
      exact ⟨Stmt.content_import hs, h⟩
    | cons new news =>
      rw [List.forall_mem_cons] at h
      rw [Stmt.splice_hit hs hit]
      exact ⟨Stmt.content_imports h.1, h.2⟩

mutual

theorem Stmt.splice_content (hisIt : ∀ s, isIt s = true → s.isImport = true) :
    ∀ (news : List (List Stmt)) (s : Stmt), (∀ new ∈ news, ∀ t ∈ new, t.isImport = true) →
      Stmt.content (s.splice isIt news).1 = Stmt.content [s] ∧
        ∀ new ∈ (s.splice isIt news).2, ∀ t ∈ new, t.isImport = true
  | news, .function head body location, h => by
    have hb := Stmt.spliceBlock_content hisIt news body h
    simpa [Stmt.splice, Stmt.content_singleton, Stmt.isImport, Stmt.surface, Stmt.blocks] using hb
  | news, .classDef head body location, h => by
    have hb := Stmt.spliceBlock_content hisIt news body h
    simpa [Stmt.splice, Stmt.content_singleton, Stmt.isImport, Stmt.surface, Stmt.blocks] using hb
  | news, .tryExcept body handlers orelse finalbody location, h => by
    have hb := Stmt.spliceBlock_content hisIt news body h
    have hh := Handler.spliceEach_content hisIt _ handlers hb.2
    have ho := Stmt.spliceBlock_content hisIt _ orelse hh.2.2
    have hf := Stmt.spliceBlock_content hisIt _ finalbody ho.2
    simp only [Stmt.splice, Stmt.content_tryExcept, hb.1, hh.1, hh.2.1, ho.1, hf.1]
    exact ⟨trivial, hf.2⟩
  | _, .importNames .., h | _, .importFrom .., h => Stmt.splice_import_content rfl h
  | news, .assign .., h | news, .ret .., h | news, .pass _, h | news, .expr .., h
  | news, .captured .., h | news, .foreign _, h => by
    rw [Stmt.splice_plain hisIt rfl rfl]
    exact ⟨rfl, h⟩

/-- A splice of imports for imports keeps the content. -/
theorem Stmt.spliceBlock_content (hisIt : ∀ s, isIt s = true → s.isImport = true) :
    ∀ (news : List (List Stmt)) (b : List Stmt), (∀ new ∈ news, ∀ t ∈ new, t.isImport = true) →
      Stmt.content (Stmt.spliceBlock isIt news b).1 = Stmt.content b ∧
        ∀ new ∈ (Stmt.spliceBlock isIt news b).2, ∀ t ∈ new, t.isImport = true
  | news, [], h => ⟨rfl, h⟩
  | news, s :: rest, h => by
    have hs := Stmt.splice_content hisIt news s h
    have hrest := Stmt.spliceBlock_content hisIt _ rest hs.2
    rw [Stmt.spliceBlock, Stmt.content_append, hs.1, hrest.1, ← Stmt.content_cons]
    exact ⟨rfl, hrest.2⟩

theorem Handler.spliceEach_content (hisIt : ∀ s, isIt s = true → s.isImport = true) :
    ∀ (news : List (List Stmt)) (hs : List Handler), (∀ new ∈ news, ∀ t ∈ new, t.isImport = true) →
      ((Handler.spliceEach isIt news hs).1.map fun h => Handler.mk h.type h.name []) =
          (hs.map fun h => Handler.mk h.type h.name []) ∧
        ((Handler.spliceEach isIt news hs).1.map Handler.body).flatMap Stmt.content =
          (hs.map Handler.body).flatMap Stmt.content ∧
        ∀ new ∈ (Handler.spliceEach isIt news hs).2, ∀ t ∈ new, t.isImport = true
  | news, [], h => ⟨rfl, rfl, h⟩
  | news, .mk type name body :: rest, h => by
    have hb := Stmt.spliceBlock_content hisIt news body h
    have hrest := Handler.spliceEach_content hisIt _ rest hb.2
    simp only [Handler.spliceEach, List.map_cons, List.flatMap_cons, hrest.1, hrest.2.1]
    exact ⟨rfl, congrArg (· ++ _) hb.1, hrest.2.2⟩

end

end

end Refactory
