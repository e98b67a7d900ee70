import Refactory.Proofs.Tree.Content
import Refactory.Proofs.Tree.Paths

/-! # Paths after an edit

An edit at a path changes one of the blocks of the statement around it. In the numbering that its
blocks share, that looks like the same edit of the list of all its children, so an edit is seen
through paths alone (`Edited`, `Module.editAt_edited`). What paths then lead to, when statements are
put in place of others, is `Module.Spliced` (`Module.editAt_spliced`). -/

namespace Refactory

/-! ## Setting a block -/

theorem Stmt.setHandlerBody_bodies (body : Block) (k : Nat) (hs : List Handler) :
    (Stmt.setHandlerBody body k hs).map Handler.body = (hs.map Handler.body).set k body := by
  induction hs generalizing k with
  | nil => cases k <;> rfl
  | cons h hs ih =>
    obtain ⟨type, name, old⟩ := h
    cases k with
    | zero => rfl
    | succ k => simp only [Stmt.setHandlerBody, List.map_cons, List.set_cons_succ, ih]

theorem Stmt.setHandlerBody_surface (body : Block) (k : Nat) (hs : List Handler) :
    (Stmt.setHandlerBody body k hs).map (fun h => Handler.mk h.type h.name []) =
      hs.map fun h => Handler.mk h.type h.name [] := by
  induction hs generalizing k with
  | nil => cases k <;> rfl
  | cons h hs ih =>
    obtain ⟨type, name, old⟩ := h
    cases k with
    | zero => rfl
    | succ k => simp only [Stmt.setHandlerBody, List.map_cons, ih]

/-- A statement with a block replaced has that block in place of the old one. -/
theorem Stmt.setBlock_blocks {s : Stmt} {k : Nat} (h : k < s.blocks.length) (c : Block) :
    (s.setBlock k c).blocks = s.blocks.set k c := by
  cases s with
  | function head body location | classDef head body location =>
    obtain rfl : k = 0 := by simpa [Stmt.blocks] using h
    rfl
  | tryExcept body handlers orelse finalbody location =>
    have hk : k < handlers.length + 3 := by
      simp [Stmt.blocks] at h
      omega
    have hlength : (handlers.map Handler.body).length = handlers.length := List.length_map _
    cases k with
    | zero => rfl
    | succ k =>
      rw [Stmt.setBlock, if_neg (Nat.succ_ne_zero k)]
      obtain hlt | rfl | rfl : k < handlers.length ∨ k = handlers.length ∨ k = handlers.length + 1 := by
        omega
      · rw [if_pos (Nat.succ_le_of_lt hlt), Stmt.blocks, Nat.add_sub_cancel,
          Stmt.setHandlerBody_bodies, Stmt.blocks, List.cons_append, List.cons_append,
          List.set_cons_succ, List.set_append_left k c (hlength ▸ hlt)]
      · rw [if_neg (by omega), if_pos rfl, Stmt.blocks, Stmt.blocks, List.cons_append, List.cons_append,
          List.set_cons_succ, List.set_append_right _ c (Nat.le_of_eq hlength), hlength, Nat.sub_self]
        rfl
      · rw [if_neg (by omega), if_neg (by omega), Stmt.blocks, Stmt.blocks, List.cons_append,
          List.cons_append, List.set_cons_succ, List.set_append_right _ c (by omega), hlength,
          Nat.add_sub_cancel_left]
        rfl
  | _ => cases h

/-- Replacing a block leaves the rest of a statement alone. -/
theorem Stmt.setBlock_surface (s : Stmt) (k : Nat) (c : Block) :
    (s.setBlock k c).surface = s.surface := by
  cases s with
  | tryExcept body handlers orelse finalbody location =>
    rw [Stmt.setBlock]
    repeat' split
    all_goals simp only [Stmt.surface, Stmt.setHandlerBody_surface]
  | _ => rfl

/-! ## Edits seen through paths -/

/-- An edit at an index of a block is local if it does not depend on what stands around the block. -/
def Block.Local (edit : Block → Nat → Block) : Prop :=
  ∀ (front b back : Block) (i : Nat), i < b.length →
    edit (front ++ b ++ back) (front.length + i) = front ++ edit b i ++ back

/-- A block before and after an edit at a path. -/
inductive Edited (edit : Block → Nat → Block) : Path → Block → Block → Prop
  | here {b : Block} {i : Nat} (h : i < b.length) : Edited edit [(i : Int)] b (edit b i)
  | inside {b : Block} {i : Nat} {s s' : Stmt} {rest : Path} (hs : b[i]? = some s)
      (surface : s'.surface = s.surface) (h : Edited edit rest s.children s'.children) :
      Edited edit ((i : Int) :: rest) b (b.set i s')

namespace Edited

variable {edit : Block → Nat → Block} {path : Path} {b b' : Block}

theorem ne_nil (h : Edited edit path b b') : path ≠ [] := by
  cases h with
  | here h => exact List.cons_ne_nil _ _
  | inside hs surface h => exact List.cons_ne_nil _ _

/-- An edit of a block is one of the list that the block is part of. -/
theorem widen (hlocal : Block.Local edit) {j : Nat} {rest : Path} (front back : Block)
    (h : Edited edit ((j : Int) :: rest) b b') :
    Edited edit (((front.length + j : Nat) : Int) :: rest) (front ++ b ++ back)
      (front ++ b' ++ back) := by
  generalize hpath : (j : Int) :: rest = path at h
  cases h with
  | @here _ i h =>
    obtain ⟨hj, rfl⟩ := List.cons.inj hpath
    obtain rfl : j = i := Int.ofNat.inj hj
    rw [← hlocal front b back j h]
    refine .here ?_
    simp only [List.length_append]
    omega
  | @inside _ i s s' _ hs surface h =>
    obtain ⟨hj, rfl⟩ := List.cons.inj hpath
    obtain rfl : j = i := Int.ofNat.inj hj
    have hj : j < b.length := (List.getElem?_eq_some_iff.1 hs).1
    have hset : front ++ b.set j s' ++ back = (front ++ b ++ back).set (front.length + j) s' := by
      rw [List.append_assoc, List.append_assoc, List.set_append_right _ _ (Nat.le_add_right _ _),
        Nat.add_sub_cancel_left, List.set_append_left _ _ hj]
    rw [hset]
    refine .inside ?_ surface h
    rw [List.append_assoc, List.getElem?_append_right (Nat.le_add_right _ _), Nat.add_sub_cancel_left,
      List.getElem?_append_left hj, hs]

end Edited

/-- Where a path can be followed, a local edit at it succeeds. -/
theorem Block.editAt_edited {edit : Block → Nat → Block} (hlocal : Block.Local edit) {path : Path}
    {depth : Nat} {b : Block} {step : Int} {rest : Path} {t : Stmt}
    (h : b.follow (step :: rest) = some t) :
    ∃ b', Block.editAt edit path depth b step rest = .ok b' ∧ Edited edit (step :: rest) b b' := by
  induction rest generalizing depth b step with
  | nil =>
    rcases b.index?_eq step with ⟨i, s, rfl, hs, hindex⟩ | ⟨hnone, -⟩
    · refine ⟨edit b i, ?_, .here (List.getElem?_eq_some_iff.1 hs).1⟩
      simp only [Block.editAt, hindex]
    · rw [Block.follow, hnone] at h
      cases h
  | cons next rest ih =>
    rcases b.index?_eq step with ⟨i, s, rfl, hs, hindex⟩ | ⟨hnone, -⟩
    · rw [Block.follow, Block.child?_natCast, hs, Option.bind_some, Stmt.descend] at h
      rcases s.child_eq next with ⟨k, j, hchild, hflat, hnext, hsame⟩ | ⟨f, -, hnone, -⟩
      · rw [hsame] at h
        obtain ⟨inner, hedit, hinner⟩ : ∃ inner, Block.editAt edit path (depth + 1) _ (j : Int) rest =
            .ok inner ∧ _ := ih h
        refine ⟨b.set i (s.setBlock k inner), ?_, .inside hs (s.setBlock_surface k inner) ?_⟩
        · simp only [Block.editAt, hindex, hs, Option.getD_some, hchild, bind, Except.bind, hedit]
          rfl
        -- The block that the step leads into, and those before and after it.
        obtain ⟨front, c, back, hblocks, rfl, hj, hsum⟩ := flatIndex_some hflat
        have hc : s.blocks[front.length]?.getD [] = c := by
          rw [hblocks, List.getElem?_append_right (Nat.le_refl _), Nat.sub_self]
          rfl
        have hlength : front.length < s.blocks.length := by
          rw [hblocks, List.length_append, List.length_cons]
          omega
        have hchildren : s.children = front.flatten ++ c ++ back.flatten := by
          rw [Stmt.children, hblocks, List.flatten_append, List.flatten_cons, List.append_assoc]
        have hafter : (s.setBlock front.length inner).children =
            front.flatten ++ inner ++ back.flatten := by
          rw [Stmt.children, Stmt.setBlock_blocks hlength, hblocks,
            List.set_append_right _ _ (Nat.le_refl _), Nat.sub_self, List.set_cons_zero,
            List.flatten_append, List.flatten_cons, List.append_assoc]
        have hstep : next = ((front.flatten.length + j : Nat) : Int) := by omega
        rw [hc] at hinner
        rw [hchildren, hafter, hstep]
        exact hinner.widen hlocal front.flatten back.flatten
      · rw [hnone] at h
        cases h
    · rw [Block.follow, hnone] at h
      cases h

theorem Module.editAt_edited {edit : Block → Nat → Block} (hlocal : Block.Local edit) {m : Module}
    {path : Path} {t : Stmt} (h : Block.follow m.body path = some t) :
    ∃ m', m.editAt path edit = .ok m' ∧ Edited edit path m.body m'.body := by
  cases path with
  | nil => cases h
  | cons step rest =>
    obtain ⟨b', hedit, hb'⟩ : ∃ b', Block.editAt edit (step :: rest) 0 m.body step rest = .ok b' ∧ _ :=
      Block.editAt_edited hlocal h
    exact ⟨⟨b'⟩, by rw [Module.editAt, hedit]; rfl, hb'⟩

/-! ## Replacing statements -/

/-- A block with `new` in place of the statements from `first` up to `past`. -/
def Block.put (new : List Stmt) (b : Block) (first past : Nat) : Block :=
  b.take first ++ new ++ b.drop past

theorem Block.put_local (new : List Stmt) {lo hi : Nat} (hlo : lo ≤ 1) (hhi : hi ≤ 1) :
    Block.Local fun b i => b.put new (i + lo) (i + hi) := by
  intro front b back i hi'
  have hlo' : i + lo ≤ b.length := by omega
  have hhi' : i + hi ≤ b.length := by omega
  simp only [Block.put, List.append_assoc, Nat.add_assoc, List.take_length_add_append,
    List.drop_length_add_append, List.take_append_of_le_length hlo',
    List.drop_append_of_le_length hhi']

/-- The path with its step after `above` moved by `offset` if it is `past` or a later one; a path that
does not go through `above` stays. -/
def Path.shift (past offset : Int) : Path → Path → Path
  | [], step :: rest => (if past ≤ step then step + offset else step) :: rest
  | a :: above, step :: rest => step :: (if a = step then Path.shift past offset above rest else rest)
  | _, [] => []

/-- What paths lead to after `new` was put in place of the statements at `first` up to `past` below
`above`. -/
structure Module.Spliced (m m' : Module) (above : Path) (first past : Nat) (new : List Stmt) :
    Prop where
  /-- The new statements stand where the old ones began. -/
  placed : ∀ j (h : j < new.length), m'.resolve (above ++ [((first + j : Nat) : Int)]) = .ok new[j]
  /-- All else is where it was, but for the steps behind the edit. -/
  kept : ∀ q t, m.resolve q = .ok t → ¬q <+: above →
    (∀ k : Nat, first ≤ k → k < past → ¬above ++ [(k : Int)] <+: q) →
    m'.resolve (Path.shift past (new.length - (past - first)) above q) = .ok t
  /-- The statements around the edit differ in nothing but their blocks. -/
  around : ∀ q, q ≠ [] → q <+: above → ∃ t t', m.resolve q = .ok t ∧ m'.resolve q = .ok t' ∧
    t'.surface = t.surface ∧ t'.kind = t.kind ∧ t'.name? = t.name? ∧ t'.exprs = t.exprs
  /-- There is nothing besides. -/
  all : ∀ q t, m'.resolve q = .ok t → q <+: above ∨
    (∃ j, j < new.length ∧ above ++ [((first + j : Nat) : Int)] <+: q) ∨
    ∃ p, m.resolve p = .ok t ∧ Path.shift past (new.length - (past - first)) above p = q

theorem Stmt.surface_kind (s : Stmt) : s.surface.kind = s.kind := by cases s <;> rfl

theorem Stmt.surface_name? (s : Stmt) : s.surface.name? = s.name? := by cases s <;> rfl

theorem Path.shift_ne_nil {past offset : Int} {above q : Path} (h : q ≠ []) :
    Path.shift past offset above q ≠ [] := by
  cases q with
  | nil => exact (h rfl).elim
  | cons step rest => cases above <;> exact List.cons_ne_nil _ _

theorem Block.follow_cons {b : Block} {i : Nat} {s : Stmt} (hs : b[i]? = some s) (q : Path) :
    b.follow ((i : Int) :: q) = s.descend q := by
  rw [Block.follow, Block.child?_natCast, hs, Option.bind_some]

theorem Stmt.descend_eq_follow (s : Stmt) {q : Path} (h : q ≠ []) :
    s.descend q = Block.follow s.children q := by
  cases q with
  | nil => exact (h rfl).elim
  | cons step rest => rfl

/-- A path that can be followed has a last step, which counts from zero. -/
theorem Block.follow_path {b : Block} {path : Path} {t : Stmt} (h : b.follow path = some t) :
    ∃ (above : Path) (k : Nat), path = above ++ [(k : Int)] := by
  induction path generalizing b with
  | nil => cases h
  | cons step rest ih =>
    obtain ⟨c, hc, hbelow⟩ := Option.bind_eq_some_iff.1 h
    obtain ⟨i, rfl, -⟩ := Block.child?_eq_some.1 hc
    by_cases hnil : rest = []
    · exact ⟨[], i, by rw [hnil]; rfl⟩
    · rw [Stmt.descend_eq_follow c hnil] at hbelow
      obtain ⟨above, k, rfl⟩ := ih hbelow
      exact ⟨(i : Int) :: above, k, rfl⟩

theorem Block.getElem?_set_of {b : Block} {i : Nat} {s : Stmt} (hs : b[i]? = some s) (s' : Stmt) :
    (b.set i s')[i]? = some s' := List.getElem?_set_self (List.getElem?_eq_some_iff.1 hs).1

section

variable {new : List Stmt} {b : Block} {first past : Nat}

theorem Block.getElem?_put_before {n : Nat} (hfirst : first ≤ b.length) (hn : n < first) :
    (b.put new first past)[n]? = b[n]? := by
  rw [Block.put, List.append_assoc, List.getElem?_append_left (by rw [List.length_take]; omega),
    List.getElem?_take_of_lt hn]

theorem Block.getElem?_put_new {j : Nat} (hfirst : first ≤ b.length) (hj : j < new.length) :
    (b.put new first past)[first + j]? = some new[j] := by
  have hlength : (b.take first).length = first := List.length_take_of_le hfirst
  rw [Block.put, List.append_assoc, List.getElem?_append_right (by omega), hlength,
    Nat.add_sub_cancel_left, List.getElem?_append_left hj, List.getElem?_eq_getElem hj]

theorem Block.getElem?_put_behind {n : Nat} (hfirst : first ≤ b.length) (hn : past ≤ n) :
    (b.put new first past)[first + new.length + (n - past)]? = b[n]? := by
  have hlength : (b.take first ++ new).length = first + new.length := by
    rw [List.length_append, List.length_take_of_le hfirst]
  rw [Block.put, List.getElem?_append_right (by omega), hlength, Nat.add_sub_cancel_left,
    List.getElem?_drop, Nat.add_sub_cancel' hn]

end

namespace Edited

variable {new : List Stmt} {lo hi : Nat} {path above : Path} {k : Nat} {b b' : Block}

theorem placed (h : Edited (fun b i => b.put new (i + lo) (i + hi)) path b b') (hlo : lo ≤ 1)
    (hpath : path = above ++ [(k : Int)]) {j : Nat} (hj : j < new.length) :
    b'.follow (above ++ [((k + lo + j : Nat) : Int)]) = some new[j] := by
  induction h generalizing above with
  | @here b i hi =>
    obtain ⟨rfl, hk⟩ | ⟨above, rfl, hk⟩ := List.cons_eq_append_iff.1 hpath
    · obtain rfl : k = i := Int.ofNat.inj (List.cons.inj hk).1
      exact Block.follow_cons (Block.getElem?_put_new (by omega) hj) []
    · simp at hk
  | @inside b i s s' rest hs surface h ih =>
    obtain ⟨rfl, hk⟩ | ⟨above, rfl, hrest⟩ := List.cons_eq_append_iff.1 hpath
    · exact (h.ne_nil (List.cons.inj hk).2.symm).elim
    · rw [List.cons_append, Block.follow_cons (Block.getElem?_set_of hs s'),
        Stmt.descend_eq_follow s' (by simp)]
      exact ih hrest

theorem kept (h : Edited (fun b i => b.put new (i + lo) (i + hi)) path b b') (hlo : lo ≤ hi)
    (hhi : hi ≤ 1) (hpath : path = above ++ [(k : Int)]) {q : Path} {t : Stmt}
    (hq : b.follow q = some t) (habove : ¬q <+: above)
    (hgone : ∀ n : Nat, k + lo ≤ n → n < k + hi → ¬above ++ [(n : Int)] <+: q) :
    b'.follow (Path.shift ((k + hi : Nat) : Int)
      (new.length - (((k + hi : Nat) : Int) - ((k + lo : Nat) : Int))) above q) = some t := by
  induction h generalizing above q with
  | @here b i hi' =>
    obtain ⟨rfl, hk⟩ | ⟨above, rfl, hk⟩ := List.cons_eq_append_iff.1 hpath
    · obtain rfl : k = i := Int.ofNat.inj (List.cons.inj hk).1
      cases q with
      | nil => cases hq
      | cons step rest =>
        obtain ⟨c, hc, hbelow⟩ := Option.bind_eq_some_iff.1 hq
        obtain ⟨n, rfl, hget⟩ := Block.child?_eq_some.1 hc
        rw [Path.shift]
        by_cases hn : k + hi ≤ n
        · have hstep : (n : Int) + (new.length - (((k + hi : Nat) : Int) - ((k + lo : Nat) : Int))) =
              ((k + lo + new.length + (n - (k + hi)) : Nat) : Int) := by omega
          rw [if_pos (by omega), hstep, Block.follow_cons, hbelow]
          rw [Block.getElem?_put_behind (by omega) hn, hget]
        · by_cases hfirst : n < k + lo
          · rw [if_neg (by omega), Block.follow_cons, hbelow]
            rw [Block.getElem?_put_before (by omega) hfirst, hget]
          · exact (hgone n (by omega) (by omega) (List.prefix_append [(n : Int)] rest)).elim
    · simp at hk
  | @inside b i s s' rest hs surface h ih =>
    obtain ⟨rfl, hk⟩ | ⟨above, rfl, hrest⟩ := List.cons_eq_append_iff.1 hpath
    · exact (h.ne_nil (List.cons.inj hk).2.symm).elim
    · cases q with
      | nil => cases hq
      | cons step q =>
        obtain ⟨c, hc, hbelow⟩ := Option.bind_eq_some_iff.1 hq
        obtain ⟨n, rfl, hget⟩ := Block.child?_eq_some.1 hc
        rw [Path.shift]
        by_cases hn : i = n
        · subst hn
          obtain rfl : s = c := Option.some.inj (hs.symm.trans hget)
          have hne : q ≠ [] := fun hnil => habove (by
            rw [hnil]
            exact List.prefix_append [(i : Int)] above)
          rw [if_pos rfl, Block.follow_cons (Block.getElem?_set_of hs s'),
            Stmt.descend_eq_follow s' (Path.shift_ne_nil hne)]
          refine ih hrest (Stmt.descend_eq_follow s hne ▸ hbelow) (fun hpre => habove ?_)
            fun n hfirst hpast hpre => hgone n hfirst hpast ?_
          · exact List.cons_prefix_cons.2 ⟨rfl, hpre⟩
          · exact List.cons_prefix_cons.2 ⟨rfl, hpre⟩
        · rw [if_neg (by omega), Block.follow_cons (s := c), hbelow]
          rw [List.getElem?_set_ne hn, hget]

theorem around (h : Edited (fun b i => b.put new (i + lo) (i + hi)) path b b')
    (hpath : path = above ++ [(k : Int)]) {q : Path} (hne : q ≠ []) (hq : q <+: above) :
    ∃ t t', b.follow q = some t ∧ b'.follow q = some t' ∧ t'.surface = t.surface := by
  induction h generalizing above q with
  | @here b i hi' =>
    obtain ⟨rfl, hk⟩ | ⟨above, rfl, hk⟩ := List.cons_eq_append_iff.1 hpath
    · exact (hne (List.prefix_nil.1 hq)).elim
    · simp at hk
  | @inside b i s s' rest hs surface h ih =>
    obtain ⟨rfl, hk⟩ | ⟨above, rfl, hrest⟩ := List.cons_eq_append_iff.1 hpath
    · exact (h.ne_nil (List.cons.inj hk).2.symm).elim
    · cases q with
      | nil => exact (hne rfl).elim
      | cons step q =>
        obtain ⟨rfl, hq'⟩ := List.cons_prefix_cons.1 hq
        rw [Block.follow_cons hs, Block.follow_cons (Block.getElem?_set_of hs s')]
        by_cases hnil : q = []
        · subst hnil
          exact ⟨s, s', rfl, rfl, surface⟩
        · rw [Stmt.descend_eq_follow s hnil, Stmt.descend_eq_follow s' hnil]
          exact ih hrest hnil hq'

theorem all (h : Edited (fun b i => b.put new (i + lo) (i + hi)) path b b') (hlo : lo ≤ hi)
    (hhi : hi ≤ 1) (hpath : path = above ++ [(k : Int)]) {q : Path} {t : Stmt}
    (hq : b'.follow q = some t) : q <+: above ∨
      (∃ j, j < new.length ∧ above ++ [((k + lo + j : Nat) : Int)] <+: q) ∨
      ∃ p, b.follow p = some t ∧ Path.shift ((k + hi : Nat) : Int)
        (new.length - (((k + hi : Nat) : Int) - ((k + lo : Nat) : Int))) above p = q := by
  induction h generalizing above q with
  | @here b i hi' =>
    obtain ⟨rfl, hk⟩ | ⟨above, rfl, hk⟩ := List.cons_eq_append_iff.1 hpath
    · obtain rfl : k = i := Int.ofNat.inj (List.cons.inj hk).1
      cases q with
      | nil => cases hq
      | cons step rest =>
        obtain ⟨c, hc, hbelow⟩ := Option.bind_eq_some_iff.1 hq
        obtain ⟨n, rfl, hget⟩ := Block.child?_eq_some.1 hc
        refine .inr ?_
        by_cases hfirst : n < k + lo
        · rw [Block.getElem?_put_before (by omega) hfirst] at hget
          refine .inr ⟨(n : Int) :: rest, (Block.follow_cons hget rest).trans hbelow, ?_⟩
          rw [Path.shift, if_neg (by omega)]
        · by_cases hnew : n < k + lo + new.length
          · refine .inl ⟨n - (k + lo), by omega, ?_⟩
            rw [Nat.add_sub_cancel' (Nat.le_of_not_lt hfirst)]
            exact List.prefix_append [(n : Int)] rest
          · have hn : n = k + lo + new.length + (n - (lo + new.length) + hi - (k + hi)) := by omega
            rw [hn, Block.getElem?_put_behind (by omega) (by omega)] at hget
            refine .inr ⟨_, (Block.follow_cons hget rest).trans hbelow, ?_⟩
            rw [Path.shift, if_pos (by omega)]
            congr 1
            omega
    · simp at hk
  | @inside b i s s' rest hs surface h ih =>
    obtain ⟨rfl, hk⟩ | ⟨above, rfl, hrest⟩ := List.cons_eq_append_iff.1 hpath
    · exact (h.ne_nil (List.cons.inj hk).2.symm).elim
    · cases q with
      | nil => cases hq
      | cons step q =>
        obtain ⟨c, hc, hbelow⟩ := Option.bind_eq_some_iff.1 hq
        obtain ⟨n, rfl, hget⟩ := Block.child?_eq_some.1 hc
        by_cases hn : i = n
        · subst hn
          rw [Block.getElem?_set_of hs] at hget
          obtain rfl : s' = c := Option.some.inj hget
          by_cases hnil : q = []
          · subst hnil
            exact .inl (List.prefix_append [(i : Int)] above)
          · rw [Stmt.descend_eq_follow s' hnil] at hbelow
            refine (ih hrest hbelow).imp (fun hpre => List.cons_prefix_cons.2 ⟨rfl, hpre⟩)
              (Or.imp ?_ ?_)
            · rintro ⟨j, hj, hpre⟩
              exact ⟨j, hj, List.cons_prefix_cons.2 ⟨rfl, hpre⟩⟩
            · rintro ⟨p, hp, rfl⟩
              have hne : p ≠ [] := fun h => by
                rw [h] at hp
                cases hp
              refine ⟨(i : Int) :: p, ?_, by rw [Path.shift, if_pos rfl]⟩
              rw [Block.follow_cons hs, Stmt.descend_eq_follow s hne, hp]
        · rw [List.getElem?_set_ne hn] at hget
          refine .inr (.inr ⟨(n : Int) :: q, (Block.follow_cons hget q).trans hbelow, ?_⟩)
          rw [Path.shift, if_neg (by omega)]

end Edited

/-- Where a path can be followed, statements can be put before, in place of, or behind the one that it
leads to. -/
theorem Module.editAt_spliced {m : Module} (new : List Stmt) {lo hi : Nat} (hlo : lo ≤ hi)
    (hhi : hi ≤ 1) {above : Path} {k : Nat} {t : Stmt}
    (h : Block.follow m.body (above ++ [(k : Int)]) = some t) :
    ∃ m', m.editAt (above ++ [(k : Int)]) (fun b i => b.put new (i + lo) (i + hi)) = .ok m' ∧
      m.Spliced m' above (k + lo) (k + hi) new := by
  have hlocal := Block.put_local new (Nat.le_trans hlo hhi) hhi
  obtain ⟨m', hedit, hedited⟩ := Module.editAt_edited hlocal h
  refine ⟨m', hedit, fun j hj => ?_, fun q u hq habove hgone => ?_, fun q hne hq => ?_,
    fun q u hq => ?_⟩
  · exact Module.resolve_iff.2 (hedited.placed (Nat.le_trans hlo hhi) rfl hj)
  · exact Module.resolve_iff.2 (hedited.kept hlo hhi rfl (Module.resolve_iff.1 hq) habove hgone)
  · obtain ⟨u, u', hu, hu', hsurface⟩ := hedited.around rfl hne hq
    refine ⟨u, u', Module.resolve_iff.2 hu, Module.resolve_iff.2 hu', hsurface, ?_, ?_, ?_⟩
    · rw [← Stmt.surface_kind, hsurface, Stmt.surface_kind]
    · rw [← Stmt.surface_name?, hsurface, Stmt.surface_name?]
    · rw [← Stmt.surface_exprs, hsurface, Stmt.surface_exprs]
  · refine (hedited.all hlo hhi rfl (Module.resolve_iff.1 hq)).imp_right (Or.imp_right ?_)
    rintro ⟨p, hp, hshift⟩
    exact ⟨p, Module.resolve_iff.2 hp, hshift⟩

end Refactory
