import Refactory.Proofs.Tree.Names
import Refactory.Tree.Path

/-! # Paths and statements

The blocks of a statement share one numbering, so a path leads through lists of children
(`Stmt.children`, `Stmt.descend`), wherever one block ends and the next begins. Resolving a path is
following it that way (`Module.resolve_iff`), and a walk lists exactly the paths that can be followed
(`Module.mem_walk`), in lexicographic order (`Module.walk_sorted`). Main statement:
`Module.paths_of_statements`, paths and statements belong together one to one. -/

namespace Refactory

/-! ## Children -/

/-- The statements directly inside a statement, those of all its blocks in one list. -/
def Stmt.children (s : Stmt) : Block := s.blocks.flatten

theorem Stmt.nodes_children (s : Stmt) : s.nodes = s :: Stmt.nodesIn s.children := by
  rw [Stmt.nodes_eq, Stmt.children]
  congr 1
  induction s.blocks with
  | nil => rfl
  | cons b bs ih => rw [List.flatMap_cons, List.flatten_cons, Stmt.nodesIn_append, ih]

theorem Stmt.mem_nodesIn {b : List Stmt} {s t : Stmt} (hs : s ∈ b) (ht : t ∈ s.nodes) :
    t ∈ Stmt.nodesIn b := by
  rw [Stmt.nodesIn_eq]
  exact List.mem_flatMap.2 ⟨s, hs, ht⟩

section

variable {P : Stmt → Prop}

mutual

/-- What holds of a statement if it holds of those directly inside holds of all. -/
theorem Stmt.induct_children (h : ∀ s : Stmt, (∀ c ∈ s.children, P c) → P s) : ∀ s : Stmt, P s
  | .function _ body _ | .classDef _ body _ => h _ (by
      rw [Stmt.children, Stmt.blocks, List.flatten_singleton]
      exact Stmt.induct_block h body)
  | .tryExcept body handlers orelse finalbody _ => h _ (by
      rw [Stmt.children, Stmt.blocks, List.flatten_append, List.flatten_cons]
      refine List.forall_mem_append.2 ⟨List.forall_mem_append.2
        ⟨Stmt.induct_block h body, Handler.induct_bodies h handlers⟩, ?_⟩
      rw [List.flatten_cons, List.flatten_singleton]
      exact List.forall_mem_append.2 ⟨Stmt.induct_block h orelse, Stmt.induct_block h finalbody⟩)
  | .importNames .. | .importFrom .. | .assign .. | .ret .. | .pass _ | .expr .. | .captured ..
  | .foreign _ => h _ fun _ hc => by cases hc

theorem Stmt.induct_block (h : ∀ s : Stmt, (∀ c ∈ s.children, P c) → P s) :
    ∀ (b : List Stmt), ∀ c ∈ b, P c
  | [] => fun _ hc => by cases hc
  | s :: rest => List.forall_mem_cons.2 ⟨Stmt.induct_children h s, Stmt.induct_block h rest⟩

theorem Handler.induct_bodies (h : ∀ s : Stmt, (∀ c ∈ s.children, P c) → P s) :
    ∀ (hs : List Handler), ∀ c ∈ (hs.map Handler.body).flatten, P c
  | [] => fun _ hc => by cases hc
  | .mk _ _ body :: rest => by
    rw [List.map_cons, List.flatten_cons]
    exact List.forall_mem_append.2 ⟨Stmt.induct_block h body, Handler.induct_bodies h rest⟩

end

end

/-! ## Following a path -/

/-- The statement of a block that a step leads to. -/
def Block.child? (b : Block) (step : Int) : Option Stmt := if 0 ≤ step then b[step.toNat]? else none

/-- The statement that steps lead to from a statement, counted through its blocks. -/
def Stmt.descend (s : Stmt) : Path → Option Stmt
  | [] => some s
  | step :: rest => (Block.child? s.children step).bind (·.descend rest)

/-- The statement that a path leads to in a block. -/
def Block.follow (b : Block) : Path → Option Stmt
  | [] => none
  | step :: rest => (b.child? step).bind (·.descend rest)

@[simp] theorem Block.child?_natCast (b : Block) (i : Nat) : b.child? i = b[i]? := by
  simp [Block.child?]

theorem Block.child?_eq_some {b : Block} {step : Int} {s : Stmt} :
    b.child? step = some s ↔ ∃ i : Nat, step = i ∧ b[i]? = some s := by
  unfold Block.child?
  split
  · rename_i hstep
    constructor
    · exact fun h => ⟨step.toNat, by omega, h⟩
    · rintro ⟨i, rfl, h⟩
      exact h
  · rename_i hstep
    constructor
    · exact fun h => by cases h
    · rintro ⟨i, rfl, -⟩
      exact (hstep (Int.natCast_nonneg i)).elim

theorem Block.index?_eq (b : Block) (step : Int) :
    (∃ (i : Nat) (s : Stmt), step = i ∧ b[i]? = some s ∧ b.index? step = some i) ∨
      (b.child? step = none ∧ b.index? step = none) := by
  unfold Block.index? Block.child?
  by_cases hstep : 0 ≤ step
  · by_cases hlength : step.toNat < b.length
    · exact .inl ⟨step.toNat, b[step.toNat], by omega, List.getElem?_eq_getElem hlength,
        if_pos ⟨hstep, hlength⟩⟩
    · refine .inr ⟨?_, if_neg fun h => hlength h.2⟩
      rw [if_pos hstep, List.getElem?_eq_none (Nat.le_of_not_lt hlength)]
  · exact .inr ⟨if_neg hstep, if_neg fun h => hstep h.1⟩

/-- An index into the flattened blocks falls into one of them, with the blocks in front of it making up
the difference. -/
theorem flatIndex_some {bs : List Block} {i k j : Nat} (h : flatIndex bs i = some (k, j)) :
    ∃ (front : List Block) (b : Block) (back : List Block), bs = front ++ b :: back ∧
      front.length = k ∧ j < b.length ∧ front.flatten.length + j = i := by
  induction bs generalizing i k j with
  | nil => cases h
  | cons b bs ih =>
    rw [flatIndex] at h
    split at h
    · rename_i hi
      cases h
      exact ⟨[], b, bs, rfl, rfl, hi, Nat.zero_add _⟩
    · rename_i hi
      obtain ⟨⟨k', j'⟩, hrest, hkj⟩ := Option.map_eq_some_iff.1 h
      cases hkj
      obtain ⟨front, c, back, rfl, rfl, hj, hsum⟩ := ih hrest
      refine ⟨b :: front, c, back, rfl, rfl, hj, ?_⟩
      rw [List.flatten_cons, List.length_append]
      omega

theorem flatIndex_none {bs : List Block} {i : Nat} (h : flatIndex bs i = none) :
    bs.flatten[i]? = none := by
  induction bs generalizing i with
  | nil => rfl
  | cons b bs ih =>
    rw [flatIndex] at h
    split at h
    · cases h
    · rename_i hi
      rw [List.flatten_cons, List.getElem?_append_right (Nat.le_of_not_lt hi)]
      exact ih (Option.map_eq_none_iff.1 h)

/-- The child at an index into the flattened blocks stands in the block that the index falls into. -/
theorem flatIndex_child {bs : List Block} {i k j : Nat} (h : flatIndex bs i = some (k, j)) :
    bs.flatten[i]? = (bs[k]?.getD [])[j]? := by
  obtain ⟨front, b, back, rfl, rfl, hj, rfl⟩ := flatIndex_some h
  rw [List.flatten_append, List.flatten_cons, List.getElem?_append_right (Nat.le_add_right _ _),
    Nat.add_sub_cancel_left, List.getElem?_append_left hj, List.getElem?_append_right (Nat.le_refl _),
    Nat.sub_self]
  rfl

/-- A step that is no child of a node leads nowhere. -/
theorem Stmt.child_of_none {s : Stmt} {step : Int} (hs : s.isNode = true) (hstep : 0 ≤ step)
    (h : flatIndex s.blocks step.toNat = none) :
    s.child step = .error (.noChild s.variant step) := by
  cases s with
  | foreign kind => cases hs
  | _ => simp only [Stmt.child, decide_eq_true hstep, h]

/-- A step leads from a statement into one of its blocks if it has such a child, and nowhere
otherwise. -/
theorem Stmt.child_eq (s : Stmt) (step : Int) :
    (∃ k j, s.child step = .ok (k, j) ∧ flatIndex s.blocks step.toNat = some (k, j) ∧ 0 ≤ step ∧
      Block.child? s.children step = (s.blocks[k]?.getD []).child? (j : Int)) ∨
    ∃ f, s.child step = .error f ∧ Block.child? s.children step = none ∧
      (s.isNode = true → f.category = "LookupError") := by
  by_cases hstep : 0 ≤ step
  · cases hfound : flatIndex s.blocks step.toNat with
    | some found =>
      obtain ⟨k, j⟩ := found
      refine .inl ⟨k, j, ?_, rfl, hstep, ?_⟩
      · cases s with
        | foreign kind => cases hfound
        | _ => simp only [Stmt.child, decide_eq_true hstep, hfound]
      · rw [Block.child?, if_pos hstep, Stmt.children, flatIndex_child hfound, Block.child?_natCast]
    | none =>
      have hnone : Block.child? s.children step = none := by
        rw [Block.child?, if_pos hstep]
        exact flatIndex_none hfound
      cases hs : s.isNode with
      | true => exact .inr ⟨_, Stmt.child_of_none hs hstep hfound, hnone, fun _ => rfl⟩
      | false =>
        cases s with
        | foreign kind =>
          exact .inr ⟨.notVariant kind, by simp only [Stmt.child, decide_eq_true hstep], hnone, nofun⟩
        | _ => cases hs
  · refine .inr ⟨.noChild s.variant step, ?_, if_neg hstep, fun _ => rfl⟩
    simp only [Stmt.child, decide_eq_false hstep]

/-- Locating succeeds where a path can be followed, and the block and index that it gives are those of
the statement. -/
theorem Block.locate_of_follow {path : Path} {depth : Nat} {b : Block} {step : Int} {rest : Path}
    {t : Stmt} (h : b.follow (step :: rest) = some t) :
    ∃ b' i, Block.locate path depth b step rest = .ok (b', i) ∧ b'[i]? = some t := by
  induction rest generalizing depth b step with
  | nil =>
    rcases b.index?_eq step with ⟨i, s, rfl, hs, hindex⟩ | ⟨hnone, -⟩
    · refine ⟨b, i, ?_, ?_⟩
      · simp only [Block.locate, hindex]
      · simpa [Block.follow, Stmt.descend, hs] using h
    · rw [Block.follow, hnone] at h
      cases h
  | cons next rest ih =>
    rcases b.index?_eq step with ⟨i, s, rfl, hs, hindex⟩ | ⟨hnone, -⟩
    · rw [Block.follow, Block.child?_natCast, hs, Option.bind_some, Stmt.descend] at h
      rcases s.child_eq next with ⟨k, j, hchild, -, -, hsame⟩ | ⟨f, -, hnone, -⟩
      · rw [hsame] at h
        obtain ⟨b', i', hlocate, ht⟩ : ∃ b' i', Block.locate path (depth + 1) _ (j : Int) rest =
            .ok (b', i') ∧ b'[i']? = some t := ih h
        refine ⟨b', i', ?_, ht⟩
        simp only [Block.locate, hindex, hs, Option.getD_some, hchild, bind, Except.bind]
        exact hlocate
      · rw [hnone] at h
        cases h
    · rw [Block.follow, hnone] at h
      cases h

/-- Locating fails where a path cannot be followed. -/
theorem Block.locate_of_not_follow {path : Path} {depth : Nat} {b : Block} {step : Int} {rest : Path}
    (h : b.follow (step :: rest) = none) :
    ∃ f, Block.locate path depth b step rest = .error f ∧
      ((∀ s ∈ Stmt.nodesIn b, s.isNode = true) → f.category = "LookupError") := by
  induction rest generalizing depth b step with
  | nil =>
    rcases b.index?_eq step with ⟨i, s, rfl, hs, hindex⟩ | ⟨-, hindex⟩
    · simp [Block.follow, Stmt.descend, hs] at h
    · exact ⟨.stalePath path depth, by simp only [Block.locate, hindex], fun _ => rfl⟩
  | cons next rest ih =>
    rcases b.index?_eq step with ⟨i, s, rfl, hs, hindex⟩ | ⟨-, hindex⟩
    · rw [Block.follow, Block.child?_natCast, hs, Option.bind_some, Stmt.descend] at h
      have hmem : ∀ t ∈ s.nodes, t ∈ Stmt.nodesIn b := fun t ht =>
        Stmt.mem_nodesIn (List.mem_of_getElem? hs) ht
      rcases s.child_eq next with ⟨k, j, hchild, -, -, hsame⟩ | ⟨f, hchild, -, hcategory⟩
      · rw [hsame] at h
        obtain ⟨f, hlocate, hcategory⟩ : ∃ f, Block.locate path (depth + 1) _ (j : Int) rest =
            .error f ∧ _ := ih h
        refine ⟨f, ?_, fun hnodes => hcategory fun t ht => hnodes t (hmem t ?_)⟩
        · simp only [Block.locate, hindex, hs, Option.getD_some, hchild, bind, Except.bind]
          exact hlocate
        · rw [Stmt.nodes_eq]
          refine List.mem_cons_of_mem _ (List.mem_flatMap.2 ?_)
          cases hblock : s.blocks[k]? with
          | none =>
            rw [hblock] at ht
            cases ht
          | some c =>
            rw [hblock] at ht
            exact ⟨c, List.mem_of_getElem? hblock, ht⟩
      · refine ⟨f, ?_, fun hnodes => hcategory (hnodes s (hmem s ?_))⟩
        · simp only [Block.locate, hindex, hs, Option.getD_some, hchild, bind, Except.bind]
        · rw [Stmt.nodes_eq]
          exact List.mem_cons_self
    · exact ⟨.stalePath path depth, by simp only [Block.locate, hindex], fun _ => rfl⟩

namespace Module

variable {m : Module}

theorem locate_of_follow {path : Path} {t : Stmt} (h : Block.follow m.body path = some t) :
    ∃ b i, m.locate path = .ok (b, i) ∧ b[i]? = some t := by
  cases path with
  | nil => cases h
  | cons step rest => exact Block.locate_of_follow h

theorem locate_of_not_follow {path : Path} (h : Block.follow m.body path = none) :
    ∃ f, m.locate path = .error f ∧
      ((∀ s ∈ Stmt.nodesIn m.body, s.isNode = true) → f.category = "LookupError") := by
  cases path with
  | nil => exact ⟨.emptyPath, rfl, fun _ => rfl⟩
  | cons step rest => exact Block.locate_of_not_follow h

/-- A path resolves to the statement that it leads to. -/
theorem resolve_iff {path : Path} {t : Stmt} :
    m.resolve path = .ok t ↔ Block.follow m.body path = some t := by
  cases hfollow : Block.follow m.body path with
  | some s =>
    obtain ⟨b, i, hlocate, hs⟩ := locate_of_follow hfollow
    simp [resolve, hlocate, hs, bind, Except.bind, pure, Except.pure]
  | none =>
    obtain ⟨f, hlocate, -⟩ := locate_of_not_follow hfollow
    simp [resolve, hlocate, bind, Except.bind]

end Module

/-! ## Walks -/

theorem Walk.append_items {α : Type} {v : Walk α} (h : v.fault = none) (w : Walk α) :
    (v.append w).items = v.items ++ w.items := by
  rw [Walk.append, h]

theorem Walk.append_assoc {α : Type} (u v w : Walk α) :
    (u.append v).append w = u.append (v.append w) := by
  unfold Walk.append
  cases hu : u.fault with
  | some f => simp only [hu]
  | none =>
    cases hv : v.fault with
    | some f => simp only [hv]
    | none => simp only [List.append_assoc]

/-- A walk over two blocks in a row counts through. -/
theorem Stmt.walkBlock_append (path : Path) (first : Nat) (b c : List Stmt) :
    Stmt.walkBlock path first (b ++ c) =
      (Stmt.walkBlock path first b).append (Stmt.walkBlock path (first + b.length) c) := by
  induction b generalizing first with
  | nil => rfl
  | cons s b ih =>
    rw [List.cons_append, Stmt.walkBlock, Stmt.walkBlock, ih, Walk.append_assoc, List.length_cons,
      Nat.add_assoc, Nat.add_comm 1]

theorem Handler.walkEach_eq (path : Path) (first : Nat) (hs : List Handler) :
    Handler.walkEach path first hs = Stmt.walkBlock path first (hs.map Handler.body).flatten := by
  induction hs generalizing first with
  | nil => rfl
  | cons h hs ih =>
    obtain ⟨type, name, body⟩ := h
    rw [Handler.walkEach, ih, List.map_cons, List.flatten_cons, Stmt.walkBlock_append]
    rfl

/-- A walk over a node goes on with its children. -/
theorem Stmt.walkAt_eq (path : Path) {s : Stmt} (h : s.isNode = true) :
    s.walkAt path = Walk.cons (path, s) (Stmt.walkBlock path 0 s.children) := by
  cases s with
  | foreign kind => cases h
  | tryExcept body handlers orelse finalbody location =>
    simp only [Stmt.walkAt, Stmt.children, Stmt.blocks, List.flatten_append, List.flatten_cons,
      List.flatten_nil, List.append_nil, Stmt.walkBlock_append, Handler.walkEach_eq,
      Nat.zero_add, List.cons_append]
    rw [Nat.add_comm (handlers.map Handler.body).flatten.length]
  | function head body location =>
    simp only [Stmt.walkAt, Stmt.children, Stmt.blocks, List.flatten_singleton]
  | classDef head body location =>
    simp only [Stmt.walkAt, Stmt.children, Stmt.blocks, List.flatten_singleton]
  | _ => rfl

/-- A walk over nodes alone ends well. -/
theorem Stmt.walkAt_fault (path : Path) {s : Stmt} (h : ∀ t ∈ s.nodes, t.isNode = true) :
    (s.walkAt path).fault = none := (Stmt.walkAt_meets path s).fault.2 h

/-- The items of a walk over a block are those of its statements, in order. -/
theorem Stmt.walkBlock_items (path : Path) (first : Nat) {b : List Stmt}
    (h : ∀ t ∈ Stmt.nodesIn b, t.isNode = true) :
    (Stmt.walkBlock path first b).items =
      (b.zipIdx first).flatMap fun x => (x.1.walkAt (path ++ [(x.2 : Int)])).items := by
  induction b generalizing first with
  | nil => rfl
  | cons s b ih =>
    rw [Stmt.nodesIn, List.forall_mem_append] at h
    rw [Stmt.walkBlock, Walk.append_items (Stmt.walkAt_fault _ h.1), ih (first + 1) h.2,
      List.zipIdx_cons, List.flatMap_cons]

/-- A walk from a statement meets what its path leads to. -/
theorem Stmt.mem_walkAt : ∀ (s : Stmt) (path p : Path) (t : Stmt),
    (∀ u ∈ s.nodes, u.isNode = true) →
      ((p, t) ∈ (s.walkAt path).items ↔ ∃ rest, p = path ++ rest ∧ s.descend rest = some t) := by
  refine Stmt.induct_children fun s ih path p t h => ?_
  rw [Stmt.nodes_children, List.forall_mem_cons] at h
  rw [Stmt.walkAt_eq path h.1, Walk.cons, List.mem_cons, Prod.mk.injEq,
    Stmt.walkBlock_items path 0 h.2, List.mem_flatMap]
  have hchild : ∀ c ∈ s.children, ∀ u ∈ c.nodes, u.isNode = true := fun c hc u hu =>
    h.2 u (Stmt.mem_nodesIn hc hu)
  constructor
  · rintro (⟨rfl, rfl⟩ | ⟨⟨c, i⟩, hc, hmem⟩)
    · exact ⟨[], (List.append_nil _).symm, rfl⟩
    · have hget : s.children[i]? = some c := List.mem_zipIdx_iff_getElem?.1 hc
      have hc' := List.mem_of_getElem? hget
      obtain ⟨rest, rfl, hrest⟩ := (ih c hc' _ p t (hchild c hc')).1 hmem
      refine ⟨(i : Int) :: rest, by simp, ?_⟩
      rw [Stmt.descend, Block.child?_natCast, hget]
      exact hrest
  · rintro ⟨rest, rfl, hrest⟩
    cases rest with
    | nil => exact .inl ⟨List.append_nil _, (Option.some.inj hrest).symm⟩
    | cons step rest =>
      obtain ⟨c, hc, hbelow⟩ := Option.bind_eq_some_iff.1 hrest
      obtain ⟨i, rfl, hget⟩ := Block.child?_eq_some.1 hc
      have hc' := List.mem_of_getElem? hget
      refine .inr ⟨(c, i), List.mem_zipIdx_iff_getElem?.2 hget, ?_⟩
      exact (ih c hc' _ _ t (hchild c hc')).2 ⟨rest, by simp, hbelow⟩

theorem Stmt.mem_walkBlock {path p : Path} {first : Nat} {b : List Stmt} {t : Stmt}
    (h : ∀ u ∈ Stmt.nodesIn b, u.isNode = true)
    (hmem : (p, t) ∈ (Stmt.walkBlock path first b).items) :
    ∃ (k : Nat) (rest : Path), first ≤ k ∧ p = path ++ (k : Int) :: rest := by
  rw [Stmt.walkBlock_items path first h] at hmem
  obtain ⟨⟨c, k⟩, hc, hmem⟩ := List.mem_flatMap.1 hmem
  obtain ⟨hfirst, -, -⟩ := List.mem_zipIdx hc
  have hnodes : ∀ u ∈ c.nodes, u.isNode = true := fun u hu =>
    h u (Stmt.mem_nodesIn (List.fst_mem_of_mem_zipIdx hc) hu)
  obtain ⟨rest, rfl, -⟩ := (Stmt.mem_walkAt c _ p t hnodes).1 hmem
  exact ⟨k, rest, hfirst, by simp⟩

/-- What comes later in a block comes later in the order of paths. -/
theorem Stmt.walkBlock_sorted {path : Path} (first : Nat) {b : List Stmt}
    (h : ∀ u ∈ Stmt.nodesIn b, u.isNode = true)
    (hwalk : ∀ c ∈ b, ∀ p, ((c.walkAt p).items.map (·.1)).Pairwise (· < ·)) :
    ((Stmt.walkBlock path first b).items.map (·.1)).Pairwise (· < ·) := by
  induction b generalizing first with
  | nil => exact List.Pairwise.nil
  | cons s b ih =>
    rw [Stmt.nodesIn, List.forall_mem_append] at h
    rw [List.forall_mem_cons] at hwalk
    rw [Stmt.walkBlock, Walk.append_items (Stmt.walkAt_fault _ h.1), List.map_append,
      List.pairwise_append]
    refine ⟨hwalk.1 _, ih (first + 1) h.2 hwalk.2, fun p hp q hq => ?_⟩
    obtain ⟨⟨p, t⟩, ht, rfl⟩ := List.mem_map.1 hp
    obtain ⟨⟨q, u⟩, hu, rfl⟩ := List.mem_map.1 hq
    obtain ⟨rest, rfl, -⟩ := (Stmt.mem_walkAt s _ p t h.1).1 ht
    obtain ⟨k, rest', hk, rfl⟩ := Stmt.mem_walkBlock h.2 hu
    show path ++ [(first : Int)] ++ rest < path ++ (k : Int) :: rest'
    rw [List.append_assoc]
    exact List.append_left_lt (List.cons_lt_cons_iff.2 (.inl (by omega)))

/-- A walk from a statement lists paths in lexicographic order. -/
theorem Stmt.walkAt_sorted : ∀ (s : Stmt) (path : Path), (∀ u ∈ s.nodes, u.isNode = true) →
    ((s.walkAt path).items.map (·.1)).Pairwise (· < ·) := by
  refine Stmt.induct_children fun s ih path h => ?_
  rw [Stmt.nodes_children, List.forall_mem_cons] at h
  have hchild : ∀ c ∈ s.children, ∀ p, ((c.walkAt p).items.map (·.1)).Pairwise (· < ·) :=
    fun c hc p => ih c hc p fun u hu =>
      h.2 u (Stmt.mem_nodesIn hc hu)
  rw [Stmt.walkAt_eq path h.1, Walk.cons, List.map_cons, List.pairwise_cons]
  refine ⟨fun p hp => ?_, Stmt.walkBlock_sorted 0 h.2 hchild⟩
  obtain ⟨⟨p, t⟩, ht, rfl⟩ := List.mem_map.1 hp
  obtain ⟨k, rest, -, rfl⟩ := Stmt.mem_walkBlock h.2 ht
  show path < path ++ (k : Int) :: rest
  calc path = path ++ [] := (List.append_nil path).symm
    _ < path ++ (k : Int) :: rest := List.append_left_lt (List.nil_lt_cons _ _)

namespace Module

variable {m : Module}

/-- A walk over a module meets what paths lead to. -/
theorem mem_walk (h : ∀ s ∈ Stmt.nodesIn m.body, s.isNode = true) {p : Path} {t : Stmt} :
    (p, t) ∈ m.walk.items ↔ Block.follow m.body p = some t := by
  rw [walk, Stmt.walkBlock_items [] 0 h, List.mem_flatMap]
  have hchild : ∀ c ∈ m.body, ∀ u ∈ c.nodes, u.isNode = true := fun c hc u hu =>
    h u (Stmt.mem_nodesIn hc hu)
  constructor
  · rintro ⟨⟨c, i⟩, hc, hmem⟩
    have hget : m.body[i]? = some c := List.mem_zipIdx_iff_getElem?.1 hc
    obtain ⟨rest, rfl, hrest⟩ :=
      (Stmt.mem_walkAt c _ p t (hchild c (List.mem_of_getElem? hget))).1 hmem
    show Block.follow m.body ((i : Int) :: rest) = some t
    rw [Block.follow, Block.child?_natCast, hget]
    exact hrest
  · intro hfollow
    cases p with
    | nil => cases hfollow
    | cons step rest =>
      obtain ⟨c, hc, hbelow⟩ := Option.bind_eq_some_iff.1 hfollow
      obtain ⟨i, rfl, hget⟩ := Block.child?_eq_some.1 hc
      refine ⟨(c, i), List.mem_zipIdx_iff_getElem?.2 hget, ?_⟩
      exact (Stmt.mem_walkAt c _ _ t (hchild c (List.mem_of_getElem? hget))).2 ⟨rest, rfl, hbelow⟩

theorem walk_sorted (h : ∀ s ∈ Stmt.nodesIn m.body, s.isNode = true) :
    (m.walk.items.map (·.1)).Pairwise (· < ·) :=
  Stmt.walkBlock_sorted 0 h fun c hc p => Stmt.walkAt_sorted c p fun u hu =>
    h u (Stmt.mem_nodesIn hc hu)

/-- A walk over nodes lists each of them once, under the path that resolves to it, in the order of
paths; a path that it does not list cannot be located. -/
theorem paths_of_statements (h : ∀ s ∈ Stmt.nodesIn m.body, s.isNode = true) :
    m.walk.fault = none ∧ m.walk.items.map (·.2) = Stmt.nodesIn m.body ∧
    (m.walk.items.map (·.1)).Pairwise (· < ·) ∧
    (∀ p s, (p, s) ∈ m.walk.items → m.resolve p = .ok s) ∧
    (∀ p b i, m.locate p = .ok (b, i) → ∃ s, b[i]? = some s ∧ (p, s) ∈ m.walk.items) ∧
    ∀ p, p ∉ m.walk.items.map (·.1) → ∃ f, m.locate p = .error f ∧ f.category = "LookupError" := by
  have hfault := walk_fault h
  refine ⟨hfault, walk_items hfault, walk_sorted h, fun p s hmem => ?_, fun p b i hlocate => ?_,
    fun p hp => ?_⟩
  · exact resolve_iff.2 ((mem_walk h).1 hmem)
  · cases hfollow : Block.follow m.body p with
    | none =>
      obtain ⟨f, hfail, -⟩ := locate_of_not_follow hfollow
      cases hlocate.symm.trans hfail
    | some t =>
      obtain ⟨c, j, hfound, hget⟩ := locate_of_follow hfollow
      cases hlocate.symm.trans hfound
      exact ⟨t, hget, (mem_walk h).2 hfollow⟩
  · have hfollow : Block.follow m.body p = none := by
      refine Option.eq_none_iff_forall_ne_some.2 fun t ht => hp ?_
      exact List.mem_map.2 ⟨(p, t), (mem_walk h).2 ht, rfl⟩
    obtain ⟨f, hfail, hcategory⟩ := locate_of_not_follow hfollow
    exact ⟨f, hfail, hcategory h⟩

/-- A `try` statement in a function, with an empty body and an empty handler in between. -/
theorem paths_of_statements_sample :
    let m : Module := ⟨[.pass none, .function ⟨"f", [], none, [], false⟩ [
      .tryExcept [] [⟨none, none, []⟩, ⟨none, some "e", [.pass none, .ret none none]⟩] []
        [.expr .noneLiteral none] none] none]⟩
    (∀ s ∈ Stmt.nodesIn m.body, s.isNode = true) ∧
    m.walk.items.map (·.1) = [[0], [1], [1, 0], [1, 0, 0], [1, 0, 1], [1, 0, 2]] ∧
    m.resolve [1, 0, 2] = .ok (.expr .noneLiteral none) ∧
    ∃ f, m.locate [1, 0, 3] = .error f ∧ f.category = "LookupError" := by
  intro m
  have h : ∀ s ∈ Stmt.nodesIn m.body, s.isNode = true := by decide
  obtain ⟨-, -, -, hresolve, -, hlocate⟩ := paths_of_statements h
  have hwalk : m.walk.items.map (·.1) = [[0], [1], [1, 0], [1, 0, 0], [1, 0, 1], [1, 0, 2]] := by
    decide
  have hlast : m.walk.items[5]? = some ([1, 0, 2], .expr .noneLiteral none) := rfl
  refine ⟨h, hwalk, hresolve _ _ (List.mem_of_getElem? hlast), hlocate _ ?_⟩
  rw [hwalk]
  decide

end Module

/-! ## References -/

/-- Nodes can be found wherever there is nothing else. -/
theorem findNodes_exists {m : Module} (h : ∀ s ∈ Stmt.nodesIn m.body, s.isNode = true)
    (kind : Option NodeKind) : ∃ refs, findNodes m kind = .ok refs := by
  have hfault := Module.walk_fault h
  have hrefs : ∃ refs, m.walk.collect (fun i => Ref.of i.1 i.2) = .ok refs := by
    refine Walk.collect_exists hfault fun i hi => ?_
    have hnode := h i.2 (Module.walk_items hfault ▸ List.mem_map_of_mem hi)
    cases hs : i.2 with
    | foreign kind =>
      rw [hs] at hnode
      cases hnode
    | _ => exact ⟨_, rfl⟩
  obtain ⟨refs, hrefs⟩ := hrefs
  exact ⟨_, bind_ok.2 ⟨refs, hrefs, rfl⟩⟩

/-- A reference that was found is one to the statement at its path. -/
theorem mem_findNodes {m : Module} {kind : Option NodeKind} {refs : List Ref}
    (h : findNodes m kind = .ok refs) {r : Ref} (hr : r ∈ refs) :
    ∃ s, (r.path, s) ∈ m.walk.items ∧ Ref.of r.path s = .ok r := by
  obtain ⟨all, hall, hrefs⟩ := bind_ok.1 h
  cases hrefs
  have hmem : (.ok r : Except Fault Ref) ∈ all.map .ok := List.mem_map_of_mem (List.mem_filter.1 hr).1
  rw [← (Walk.collect_ok.1 hall).1] at hmem
  obtain ⟨⟨path, s⟩, hs, href⟩ := List.mem_map.1 hmem
  obtain ⟨k, hk, hr'⟩ := bind_ok.1 href
  cases hr'
  exact ⟨s, hs, href⟩

end Refactory
