import Refactory.Proofs.Modernize.Attached
import Refactory.Proofs.Rewrite.Children

/-! # Imports in view

An import is visible at a statement if it stands at the top of the module, or in a block of a statement
around the other (`Path.Sees`). A splice of imports moves statements within their blocks but never into
others. So what is visible at a statement afterwards is what took the place of the imports that were
visible before (`Stmt.spliceBlock_inView`). -/

namespace Refactory

/-! ## Paths -/

/-- An import at `q` is visible at a statement at `p`: it stands at the top, or in a block of a
statement around the one at `p`. -/
def Path.Sees (p q : Path) : Prop := q.dropLast <+: p.dropLast

/-- What stands directly in a block is visible everywhere in the block. -/
theorem Path.sees_beside (path rest : Path) (k k' : Int) :
    Path.Sees (path ++ k :: rest) (path ++ [k']) := by
  rw [Path.Sees, List.dropLast_concat, List.dropLast_append_of_ne_nil (List.cons_ne_nil _ _)]
  exact List.prefix_append _ _

/-- What stands deeper in a block is visible only below the same statement of the block. -/
theorem Path.sees_below {path rest rest' : Path} {k k' : Int} (hrest' : rest' ≠ []) :
    Path.Sees (path ++ k :: rest) (path ++ k' :: rest') ↔
      k = k' ∧ rest ≠ [] ∧ rest'.dropLast <+: rest.dropLast := by
  rw [Path.Sees, List.dropLast_append_of_ne_nil (List.cons_ne_nil _ _),
    List.dropLast_append_of_ne_nil (List.cons_ne_nil _ _), List.prefix_append_right_inj,
    List.dropLast_cons_of_ne_nil hrest']
  cases rest with
  | nil => simp
  | cons step rest =>
    rw [List.dropLast_cons_of_ne_nil (List.cons_ne_nil _ _), List.cons_prefix_cons]
    simp [eq_comm]

/-! ## Views -/

/-- Among items, an import that satisfies `Q` is visible at a path. -/
def InView (items : List (Path × Stmt)) (Q : Path × Stmt → Prop) (p : Path) : Prop :=
  ∃ j ∈ items, j.2.isImport = true ∧ p.Sees j.1 ∧ Q j

theorem inView_filter {items : List (Path × Stmt)} {Q : Path × Stmt → Prop} {p : Path} :
    InView items Q p ↔ ∃ j ∈ items.filter (·.2.isImport), p.Sees j.1 ∧ Q j := by
  simp [InView, and_assoc]

/-- Among items, an import that satisfies `Q` stands directly in the block at a path. -/
def Beside (path : Path) (items : List (Path × Stmt)) (Q : Path × Stmt → Prop) : Prop :=
  ∃ j ∈ items, j.2.isImport = true ∧ (∃ k, j.1 = path ++ [k]) ∧ Q j

/-- Among items, an import that satisfies `Q` is visible at a path, and does not stand directly in the
block at `path`. -/
def Below (path : Path) (items : List (Path × Stmt)) (Q : Path × Stmt → Prop) (p : Path) : Prop :=
  ∃ j ∈ items, j.2.isImport = true ∧ (∀ k, j.1 ≠ path ++ [k]) ∧ p.Sees j.1 ∧ Q j

/-- The items that are no imports. -/
def plain (items : List (Path × Stmt)) : List (Path × Stmt) := items.filter (!·.2.isImport)

theorem mem_plain {items : List (Path × Stmt)} {i : Path × Stmt} :
    i ∈ plain items ↔ i ∈ items ∧ i.2.isImport = false := by
  simp [plain]

section

variable {path : Path} {lo mid hi : Nat} {items more : List (Path × Stmt)} {Q : Path × Stmt → Prop}
  {i : Path × Stmt}

theorem Under.inView (h : Under path lo hi items) (hi : i ∈ items) :
    InView items Q i.1 ↔ Beside path items Q ∨ Below path items Q i.1 := by
  obtain ⟨k, rest, heq, -, -⟩ := h i hi
  constructor
  · rintro ⟨j, hj, himport, hsees, hQ⟩
    by_cases hbeside : ∃ k, j.1 = path ++ [k]
    · exact .inl ⟨j, hj, himport, hbeside, hQ⟩
    · exact .inr ⟨j, hj, himport, not_exists.1 hbeside, hsees, hQ⟩
  · rintro (⟨j, hj, himport, ⟨k', hk'⟩, hQ⟩ | ⟨j, hj, himport, -, hsees, hQ⟩)
    · refine ⟨j, hj, himport, ?_, hQ⟩
      rw [heq, hk']
      exact Path.sees_beside ..
    · exact ⟨j, hj, himport, hsees, hQ⟩

theorem beside_append :
    Beside path (items ++ more) Q ↔ Beside path items Q ∨ Beside path more Q := by
  simp only [Beside, List.mem_append, or_and_right, exists_or]

theorem below_append {p : Path} :
    Below path (items ++ more) Q p ↔ Below path items Q p ∨ Below path more Q p := by
  simp only [Below, List.mem_append, or_and_right, exists_or]

/-- From one statement of a block, what stands inside the others is not visible. -/
theorem Under.not_below (h : Under path lo mid items) (h' : Under path mid hi more) :
    (∀ i ∈ items, ¬Below path more Q i.1) ∧ ∀ i ∈ more, ¬Below path items Q i.1 := by
  have hapart : ∀ {k k' : Nat} {rest rest' : Path}, k ≠ k' →
      (∀ n, path ++ (k' : Int) :: rest' ≠ path ++ [n]) →
      ¬Path.Sees (path ++ (k : Int) :: rest) (path ++ (k' : Int) :: rest') := by
    intro k k' rest rest' hk hdeep hsees
    have hrest' : rest' ≠ [] := fun hnil => hdeep k' (by rw [hnil])
    exact hk (by exact_mod_cast ((Path.sees_below hrest').1 hsees).1)
  constructor
  · rintro i hi ⟨j, hj, -, hdeep, hsees, -⟩
    obtain ⟨k, rest, hik, -, hk⟩ := h i hi
    obtain ⟨k', rest', hjk, hk', -⟩ := h' j hj
    rw [hik, hjk] at hsees
    exact hapart (by omega) (hjk ▸ hdeep) hsees
  · rintro i hi ⟨j, hj, -, hdeep, hsees, -⟩
    obtain ⟨k, rest, hik, hk, -⟩ := h' i hi
    obtain ⟨k', rest', hjk, -, hk'⟩ := h j hj
    rw [hik, hjk] at hsees
    exact hapart (by omega) (hjk ▸ hdeep) hsees

/-- What is visible inside a statement is what is visible among its children. -/
theorem Under.below_cons {step : Int} {s : Stmt} (h : Under (path ++ [step]) lo hi items)
    (hs : s.isImport = false) (p : Path) :
    Below path ((path ++ [step], s) :: items) Q p ↔ InView items Q p := by
  constructor
  · rintro ⟨j, hj, himport, -, hsees, hQ⟩
    rcases List.mem_cons.1 hj with rfl | hj
    · rw [hs] at himport
      cases himport
    · exact ⟨j, hj, himport, hsees, hQ⟩
  · rintro ⟨j, hj, himport, hsees, hQ⟩
    refine ⟨j, List.mem_cons_of_mem _ hj, himport, fun n hn => ?_, hsees, hQ⟩
    obtain ⟨k, rest, hjk, -, -⟩ := h j hj
    rw [hjk, List.append_assoc, List.append_cancel_left_eq] at hn
    cases hn

/-- At a statement of a block, nothing deeper in the block is visible. -/
theorem Under.not_below_self {step : Int} {s : Stmt} (h : Under (path ++ [step]) lo hi items)
    (hs : s.isImport = false) :
    ¬Below path ((path ++ [step], s) :: items) Q (path ++ [step]) := by
  rintro ⟨j, hj, himport, -, hsees, -⟩
  rcases List.mem_cons.1 hj with rfl | hj
  · rw [hs] at himport
    cases himport
  · obtain ⟨k, rest, hjk, -, -⟩ := h j hj
    rw [hjk, List.append_assoc, List.singleton_append] at hsees
    exact ((Path.sees_below (List.cons_ne_nil _ _)).1 hsees).2.1 rfl

theorem Under.not_beside_cons {step : Int} {s : Stmt} (h : Under (path ++ [step]) lo hi items)
    (hs : s.isImport = false) : ¬Beside path ((path ++ [step], s) :: items) Q := by
  rintro ⟨j, hj, himport, ⟨n, hn⟩, -⟩
  rcases List.mem_cons.1 hj with rfl | hj
  · rw [hs] at himport
    cases himport
  · obtain ⟨k, rest, hjk, -, -⟩ := h j hj
    rw [hjk, List.append_assoc, List.append_cancel_left_eq] at hn
    cases hn

end

/-! ## Views that correspond -/

/-- Imports stand in a block one by one. -/
theorem Stmt.walkBlock_imports {path : Path} {first : Nat} {b : List Stmt}
    (h : ∀ t ∈ b, t.isImport = true) : (Stmt.walkBlock path first b).items =
      (b.zipIdx first).map fun x => (path ++ [(x.2 : Int)], x.1) := by
  induction b generalizing first with
  | nil => rfl
  | cons s b ih =>
    rw [List.forall_mem_cons] at h
    have hs : s.walkAt (path ++ [(first : Int)]) =
        ⟨[(path ++ [(first : Int)], s)], none⟩ := by
      cases s <;> first | rfl | cases h.1
    rw [Stmt.walkBlock, hs, Walk.append_items rfl, ih h.2, List.zipIdx_cons, List.map_cons]
    rfl

theorem Stmt.surface_isImport (s : Stmt) : s.surface.isImport = s.isImport := by
  cases s <;> rfl

theorem forall₂_imp_mem {α β : Type} {R S : α → β → Prop} {as : List α} {bs : List β}
    (h : List.Forall₂ R as bs) (himp : ∀ a ∈ as, ∀ b ∈ bs, R a b → S a b) :
    List.Forall₂ S as bs := by
  induction h with
  | nil => exact .nil
  | cons hab _ ih =>
    refine .cons (himp _ List.mem_cons_self _ List.mem_cons_self hab) (ih fun a ha b hb => ?_)
    exact himp a (List.mem_cons_of_mem _ ha) b (List.mem_cons_of_mem _ hb)

/-- Two blocks hold the same statements besides imports. Where an import that satisfies `Q` is visible
in the first, one that satisfies `Q'` is visible at the same statement of the second. -/
structure SameViews (path path' : Path) (Q : Path × Stmt → Prop) (Q' : Stmt → Prop)
    (items items' : List (Path × Stmt)) : Prop where
  beside : Beside path' items' (Q' ·.2) ↔ Beside path items Q
  plain : List.Forall₂ (fun i i' => i'.2.surface = i.2.surface ∧
    (Below path' items' (Q' ·.2) i'.1 ↔ Below path items Q i.1)) (plain items) (plain items')

namespace SameViews

variable {path path' : Path} {lo mid hi lo' mid' hi' : Nat} {Q : Path × Stmt → Prop}
  {Q' : Stmt → Prop} {items items' more more' : List (Path × Stmt)}

theorem inView (h : SameViews path path' Q Q' items items') (hitems : Under path lo hi items)
    (hitems' : Under path' lo' hi' items') :
    List.Forall₂ (fun i i' => i'.2.surface = i.2.surface ∧
      (InView items' (Q' ·.2) i'.1 ↔ InView items Q i.1))
      (Refactory.plain items) (Refactory.plain items') := by
  refine forall₂_imp_mem h.plain fun i hi i' hi' hrel => ⟨hrel.1, ?_⟩
  rw [hitems.inView (mem_plain.1 hi).1, hitems'.inView (mem_plain.1 hi').1, h.beside, hrel.2]

theorem append (h : SameViews path path' Q Q' items items')
    (h' : SameViews path path' Q Q' more more') (hitems : Under path lo mid items)
    (hmore : Under path mid hi more) (hitems' : Under path' lo' mid' items')
    (hmore' : Under path' mid' hi' more') :
    SameViews path path' Q Q' (items ++ more) (items' ++ more') := by
  obtain ⟨hfront, hback⟩ := hitems.not_below (Q := Q) hmore
  obtain ⟨hfront', hback'⟩ := hitems'.not_below (Q := (Q' ·.2)) hmore'
  constructor
  · rw [beside_append, beside_append, h.beside, h'.beside]
  · rw [Refactory.plain, Refactory.plain, List.filter_append, List.filter_append]
    refine List.rel_append (forall₂_imp_mem h.plain ?_) (forall₂_imp_mem h'.plain ?_)
    · intro i hi i' hi' hrel
      rw [below_append, below_append, or_iff_left (hfront i (mem_plain.1 hi).1),
        or_iff_left (hfront' i' (mem_plain.1 hi').1)]
      exact hrel
    · intro i hi i' hi' hrel
      rw [below_append, below_append, or_iff_right (hback i (mem_plain.1 hi).1),
        or_iff_right (hback' i' (mem_plain.1 hi').1)]
      exact hrel

/-- A statement around children whose views correspond. -/
theorem cons {k k' : Int} {s s' : Stmt}
    (h : SameViews (path ++ [k]) (path' ++ [k']) Q Q' items items') (hs : s.isImport = false)
    (hsurface : s'.surface = s.surface) (hitems : Under (path ++ [k]) lo hi items)
    (hitems' : Under (path' ++ [k']) lo' hi' items') :
    SameViews path path' Q Q' ((path ++ [k], s) :: items) ((path' ++ [k'], s') :: items') := by
  have hs' : s'.isImport = false := by
    rw [← Stmt.surface_isImport, hsurface, Stmt.surface_isImport, hs]
  constructor
  · exact iff_of_false (hitems'.not_beside_cons hs') (hitems.not_beside_cons hs)
  · rw [Refactory.plain, Refactory.plain, List.filter_cons_of_pos (by simpa using hs),
      List.filter_cons_of_pos (by simpa using hs')]
    refine .cons ⟨hsurface, iff_of_false (hitems'.not_below_self hs') (hitems.not_below_self hs)⟩ ?_
    refine forall₂_imp_mem (h.inView hitems hitems') fun i _ i' _ hrel => ?_
    rw [hitems.below_cons hs, hitems'.below_cons hs']
    exact hrel

/-- Imports that take the place of one. -/
theorem imports {k first : Nat} {j : Stmt} {new : List Stmt} (hj : j.isImport = true)
    (hnew : ∀ t ∈ new, t.isImport = true) (hQ : Q (path ++ [(k : Int)], j) ↔ ∃ t ∈ new, Q' t) :
    SameViews path path' Q Q' [(path ++ [(k : Int)], j)] (Stmt.walkBlock path' first new).items := by
  rw [Stmt.walkBlock_imports hnew]
  constructor
  · constructor
    · rintro ⟨_, hmem, -, -, ht⟩
      obtain ⟨⟨t, n⟩, htn, rfl⟩ := List.mem_map.1 hmem
      exact ⟨_, List.mem_singleton_self _, hj, ⟨_, rfl⟩,
        hQ.2 ⟨t, List.fst_mem_of_mem_zipIdx htn, ht⟩⟩
    · rintro ⟨i, hi, -, -, hi'⟩
      cases List.mem_singleton.1 hi
      obtain ⟨t, ht, hQt⟩ := hQ.1 hi'
      rw [← List.zipIdx_map_fst first new] at ht
      obtain ⟨x, hx, rfl⟩ := List.mem_map.1 ht
      exact ⟨_, List.mem_map_of_mem hx, hnew _ (List.fst_mem_of_mem_zipIdx hx), ⟨_, rfl⟩, hQt⟩
  · have hplain : Refactory.plain [(path ++ [(k : Int)], j)] = [] := by simp [Refactory.plain, hj]
    have hplain' : Refactory.plain ((new.zipIdx first).map fun x => (path' ++ [(x.2 : Int)], x.1)) =
        [] := by
      rw [Refactory.plain, List.filter_eq_nil_iff, List.forall_mem_map]
      intro x hx
      simp [hnew _ (List.fst_mem_of_mem_zipIdx hx)]
    rw [hplain, hplain']
    exact .nil

end SameViews

/-- What holds of blocks of nodes, if it holds of none, of statements one by one, and of a statement
alone as soon as it holds of its children. -/
theorem Stmt.induct_nodes {P : List Stmt → Prop} (nil : P [])
    (cons : ∀ {s b}, (∀ t ∈ Stmt.nodesIn [s], t.isNode = true) → P [s] → P b → P ([s] ++ b))
    (single : ∀ s : Stmt, s.isNode = true → P s.children → P [s]) {b : List Stmt}
    (hnodes : ∀ t ∈ Stmt.nodesIn b, t.isNode = true) : P b := by
  have hblock : ∀ b : List Stmt, (∀ c ∈ b, P [c]) → (∀ t ∈ Stmt.nodesIn b, t.isNode = true) → P b := by
    intro b hb hnodes
    induction b with
    | nil => exact nil
    | cons s b ih =>
      rw [List.forall_mem_cons] at hb
      rw [Stmt.nodesIn, List.forall_mem_append] at hnodes
      exact cons (by simpa [Stmt.nodesIn] using hnodes.1) hb.1 (ih hb.2 hnodes.2)
  have hstmt : ∀ s : Stmt, (∀ t ∈ s.nodes, t.isNode = true) → P [s] := by
    refine Stmt.induct_children fun s ih hnodes => ?_
    rw [Stmt.nodes_children, List.forall_mem_cons] at hnodes
    refine single s hnodes.1 (hblock _ (fun c hc => ih c hc fun t ht => ?_) hnodes.2)
    exact hnodes.2 t (Stmt.mem_nodesIn hc ht)
  exact hblock b (fun s hs => hstmt s fun t ht => hnodes t (Stmt.mem_nodesIn hs ht)) hnodes

/-! ## Splices -/

/-- A splice of `news` goes over items: while there are any, each hit is replaced by the next of them,
and some are left. An import satisfies `Q` if `Q'` holds of something that stands in its place. -/
inductive Takes (isIt : Stmt → Bool) (Q : Path × Stmt → Prop) (Q' : Stmt → Prop) :
    List (List Stmt) → List (Path × Stmt) → List (List Stmt) → Prop
  | nil {news} : Takes isIt Q Q' news [] news
  | hit {j new news items left} (hj : isIt j.2 = true) (hnew : ∀ t ∈ new, t.isImport = true)
    (hQ : Q j ↔ ∃ t ∈ new, Q' t) (h : Takes isIt Q Q' news items left) :
    Takes isIt Q Q' (new :: news) (j :: items) left
  | keep {j news items left} (hj : isIt j.2 = false ∨ news = [])
    (hQ : j.2.isImport = true → (Q j ↔ Q' j.2)) (h : Takes isIt Q Q' news items left) :
    Takes isIt Q Q' news (j :: items) left

namespace Takes

variable {isIt : Stmt → Bool} {Q : Path × Stmt → Prop} {Q' : Stmt → Prop}

theorem append {news left : List (List Stmt)} {items more : List (Path × Stmt)}
    (h : Takes isIt Q Q' news (items ++ more) left) :
    ∃ rest, Takes isIt Q Q' news items rest ∧ Takes isIt Q Q' rest more left := by
  induction items generalizing news with
  | nil => exact ⟨news, .nil, h⟩
  | cons j items ih =>
    cases h with
    | hit hj hnew hQ h =>
      obtain ⟨rest, hitems, hmore⟩ := ih h
      exact ⟨rest, .hit hj hnew hQ hitems, hmore⟩
    | keep hj hQ h =>
      obtain ⟨rest, hitems, hmore⟩ := ih h
      exact ⟨rest, .keep hj hQ hitems, hmore⟩

theorem trans {news rest left : List (List Stmt)} {items more : List (Path × Stmt)}
    (h : Takes isIt Q Q' news items rest) (h' : Takes isIt Q Q' rest more left) :
    Takes isIt Q Q' news (items ++ more) left := by
  induction h with
  | nil => exact h'
  | hit hj hnew hQ _ ih => exact .hit hj hnew hQ (ih h')
  | keep hj hQ _ ih => exact .keep hj hQ (ih h')

/-- Nothing is taken where there is no hit, or nothing to take. -/
theorem keepAll {news : List (List Stmt)} {items : List (Path × Stmt)}
    (hnone : (∀ j ∈ items, isIt j.2 = false) ∨ news = [])
    (hQ : ∀ j ∈ items, j.2.isImport = true → (Q j ↔ Q' j.2)) : Takes isIt Q Q' news items news := by
  induction items with
  | nil => exact .nil
  | cons j items ih =>
    rw [List.forall_mem_cons] at hQ
    refine .keep (hnone.imp_left fun h => h j List.mem_cons_self) hQ.1 (ih ?_ hQ.2)
    exact hnone.imp_left fun h i hi => h i (List.mem_cons_of_mem _ hi)

/-- The first hit is replaced, and no other. -/
theorem first {new : List Stmt} {items : List (Path × Stmt)} {j : Path × Stmt}
    (hj : items.find? (isIt ·.2) = some j) (hdistinct : items.Nodup)
    (hnew : ∀ t ∈ new, t.isImport = true) (hQ : Q j ↔ ∃ t ∈ new, Q' t)
    (hother : ∀ i ∈ items, i ≠ j → i.2.isImport = true → (Q i ↔ Q' i.2)) :
    Takes isIt Q Q' [new] items [] := by
  obtain ⟨hit, front, back, rfl, hfront⟩ := List.find?_eq_some_iff_append.1 hj
  have hne : ∀ i, i ∈ front ∨ i ∈ back → i ≠ j := by
    rintro i hi rfl
    rw [List.nodup_append, List.nodup_cons] at hdistinct
    rcases hi with hi | hi
    · exact hdistinct.2.2 i hi i List.mem_cons_self rfl
    · exact hdistinct.2.1.1 hi
  refine (keepAll (.inl fun i hi => by simpa using hfront i hi) fun i hi => ?_).trans
    (.hit hit hnew hQ (keepAll (.inr rfl) fun i hi => ?_))
  · exact hother i (List.mem_append_left _ hi) (hne i (.inl hi))
  · exact hother i (List.mem_append_right _ (List.mem_cons_of_mem _ hi)) (hne i (.inr hi))

/-- Each hit is replaced by what belongs to it. -/
theorem each {becomes : Stmt → List Stmt} {items : List (Path × Stmt)}
    (hnew : ∀ j ∈ items, isIt j.2 = true → ∀ t ∈ becomes j.2, t.isImport = true)
    (hQ : ∀ j ∈ items, isIt j.2 = true → (Q j ↔ ∃ t ∈ becomes j.2, Q' t))
    (hother : ∀ j ∈ items, isIt j.2 = false → j.2.isImport = true → (Q j ↔ Q' j.2)) :
    Takes isIt Q Q' ((items.filter (isIt ·.2)).map (becomes ·.2)) items [] := by
  induction items with
  | nil => exact .nil
  | cons j items ih =>
    rw [List.forall_mem_cons] at hnew hQ hother
    have hrest := ih hnew.2 hQ.2 hother.2
    cases hj : isIt j.2 with
    | true =>
      rw [List.filter_cons, if_pos hj, List.map_cons]
      exact .hit hj (hnew.1 hj) (hQ.1 hj) hrest
    | false =>
      rw [List.filter_cons, if_neg (by simp [hj])]
      exact .keep (.inl hj) (hother.1 hj) hrest

end Takes

/-- A splice in a block leaves views that correspond, wherever the blocks stand. -/
def Stmt.SplicesViews (isIt : Stmt → Bool) (Q : Path × Stmt → Prop) (Q' : Stmt → Prop)
    (b : List Stmt) : Prop :=
  ∀ path path' first first' news left,
    Takes isIt Q Q' news (Stmt.walkBlock path first b).items left →
      (Stmt.spliceBlock isIt news b).2 = left ∧
      (∀ t ∈ Stmt.nodesIn (Stmt.spliceBlock isIt news b).1, t.isNode = true) ∧
      SameViews path path' Q Q' (Stmt.walkBlock path first b).items
        (Stmt.walkBlock path' first' (Stmt.spliceBlock isIt news b).1).items

section

variable {isIt : Stmt → Bool} {Q : Path × Stmt → Prop} {Q' : Stmt → Prop}

theorem Stmt.walkBlock_under (path : Path) (first : Nat) (b : List Stmt) :
    Under path first (first + b.length) (Stmt.walkBlock path first b).items :=
  (Stmt.walkBlock_tracks (fun _ => false) path first b).under

theorem Stmt.walkBlock_items_append (path : Path) (first : Nat) {b c : List Stmt}
    (hnodes : ∀ t ∈ Stmt.nodesIn b, t.isNode = true) :
    (Stmt.walkBlock path first (b ++ c)).items =
      (Stmt.walkBlock path first b).items ++ (Stmt.walkBlock path (first + b.length) c).items := by
  rw [Stmt.walkBlock_append, Walk.append_items ((Stmt.walkBlock_meets path first b).fault.2 hnodes)]

theorem Stmt.SplicesViews.append {b c : List Stmt} (hb : Stmt.SplicesViews isIt Q Q' b)
    (hc : Stmt.SplicesViews isIt Q Q' c) (hnodes : ∀ t ∈ Stmt.nodesIn b, t.isNode = true) :
    Stmt.SplicesViews isIt Q Q' (b ++ c) := by
  intro path path' first first' news left h
  rw [Stmt.walkBlock_items_append path first hnodes] at h
  obtain ⟨rest, hfront, hback⟩ := h.append
  obtain ⟨hrest, hnodes', hviews⟩ := hb path path' first first' news rest hfront
  obtain ⟨hleft, hnodes'', hviews'⟩ := hc path path' (first + b.length)
    (first' + (Stmt.spliceBlock isIt news b).1.length) rest left hback
  rw [Stmt.spliceBlock_append, hrest]
  refine ⟨hleft, ?_, ?_⟩
  · rw [Stmt.nodesIn_append]
    exact List.forall_mem_append.2 ⟨hnodes', hnodes''⟩
  · rw [Stmt.walkBlock_items_append path first hnodes,
      Stmt.walkBlock_items_append path' first' hnodes']
    exact hviews.append hviews' (Stmt.walkBlock_under path first b)
      (Stmt.walkBlock_under path _ c) (Stmt.walkBlock_under path' first' _)
      (Stmt.walkBlock_under path' _ _)

theorem Stmt.SplicesViews.importStmt {s : Stmt} (hs : s.isImport = true) :
    Stmt.SplicesViews isIt Q Q' [s] := by
  intro path path' first first' news left htakes
  have hwalk : (Stmt.walkBlock path first [s]).items = [(path ++ [(first : Int)], s)] :=
    Stmt.walkBlock_imports (List.forall_mem_singleton.2 hs)
  have himports : ∀ {new : List Stmt}, (∀ t ∈ new, t.isImport = true) →
      ∀ t ∈ Stmt.nodesIn new, t.isNode = true := by
    intro new hnew t ht
    rw [Stmt.nodesIn_of_imports hnew] at ht
    exact Stmt.isImport_isNode (hnew t ht)
  rw [hwalk] at htakes ⊢
  rw [Stmt.spliceBlock_singleton]
  cases htakes with
  | hit hj hnew hQ h =>
    cases h
    rw [Stmt.splice_hit hs hj]
    exact ⟨rfl, himports hnew, .imports hs hnew hQ⟩
  | keep hj hQ h =>
    cases h
    have hkeep : s.splice isIt news = ([s], news) := by
      rcases hj with hother | rfl
      · exact Stmt.splice_other (Stmt.isImport_blocks hs) hother news
      · exact Stmt.splice_nil (Stmt.isImport_blocks hs)
    have hself : ∀ t ∈ [s], t.isImport = true := List.forall_mem_singleton.2 hs
    rw [hkeep]
    exact ⟨rfl, himports hself, .imports hs hself (by simpa using hQ hs)⟩

theorem Stmt.walkBlock_singleton (path : Path) (first : Nat) {s : Stmt} (h : s.isNode = true) :
    (Stmt.walkBlock path first [s]).items =
      (path ++ [(first : Int)], s) ::
        (Stmt.walkBlock (path ++ [(first : Int)]) 0 s.children).items := by
  rw [Stmt.walkBlock, Stmt.walkAt_eq _ h, Stmt.walkBlock, Walk.append, Walk.cons]
  split
  · rfl
  · exact List.append_nil _

/-- A splice in a statement that is no import is one in its children. -/
theorem Stmt.SplicesViews.around (hisIt : ∀ s, isIt s = true → s.isImport = true) {s : Stmt}
    (h : Stmt.SplicesViews isIt Q Q' s.children) (hs : s.isImport = false) (hnode : s.isNode = true) :
    Stmt.SplicesViews isIt Q Q' [s] := by
  intro path path' first first' news left htakes
  rw [Stmt.walkBlock_singleton path first hnode] at htakes ⊢
  obtain ⟨s', hsplice, hsurface, hchildren⟩ := Stmt.splice_children hisIt news hs
  have hnode' : s'.isNode = true := by
    rw [← Stmt.surface_isNode, hsurface, Stmt.surface_isNode, hnode]
  cases htakes with
  | hit hj =>
    rw [hisIt s hj] at hs
    cases hs
  | keep _ _ htakes =>
    obtain ⟨hleft, hnodes, hviews⟩ :=
      h (path ++ [(first : Int)]) (path' ++ [(first' : Int)]) 0 0 news left htakes
    rw [← hchildren] at hnodes hviews
    rw [Stmt.spliceBlock_singleton, hsplice]
    refine ⟨hleft, ?_, ?_⟩
    · rw [Stmt.nodesIn, Stmt.nodesIn, List.append_nil, Stmt.nodes_children]
      exact List.forall_mem_cons.2 ⟨hnode', hnodes⟩
    · rw [Stmt.walkBlock_singleton path' first' hnode']
      exact hviews.cons hs hsurface (Stmt.walkBlock_under _ 0 s.children)
        (Stmt.walkBlock_under _ 0 s'.children)

/-- A splice of imports leaves views that correspond. -/
theorem Stmt.splicesViews (hisIt : ∀ s, isIt s = true → s.isImport = true) {b : List Stmt}
    (hnodes : ∀ t ∈ Stmt.nodesIn b, t.isNode = true) : Stmt.SplicesViews isIt Q Q' b := by
  refine Stmt.induct_nodes ?_ (fun hnode hs hb => hs.append hb hnode) ?_ hnodes
  · intro path path' first first' news left htakes
    cases htakes
    refine ⟨rfl, by simp [Stmt.spliceBlock, Stmt.nodesIn], ?_, .nil⟩
    simp [Beside, Stmt.walkBlock, Walk.empty, Stmt.spliceBlock]
  · intro s hnode hchildren
    cases hs : s.isImport with
    | true => exact .importStmt hs
    | false => exact .around hisIt hchildren hs hnode

/-- At each statement, what is visible after a splice of imports is what took the place of an import
that was visible before. -/
theorem Stmt.spliceBlock_inView (hisIt : ∀ s, isIt s = true → s.isImport = true) {b : List Stmt}
    (hnodes : ∀ t ∈ Stmt.nodesIn b, t.isNode = true) {news left : List (List Stmt)}
    (h : Takes isIt Q Q' news (Stmt.walkBlock [] 0 b).items left) :
    List.Forall₂ (fun i i' => i'.2.surface = i.2.surface ∧
      (InView (Stmt.walkBlock [] 0 (Stmt.spliceBlock isIt news b).1).items (Q' ·.2) i'.1 ↔
        InView (Stmt.walkBlock [] 0 b).items Q i.1))
      (plain (Stmt.walkBlock [] 0 b).items)
      (plain (Stmt.walkBlock [] 0 (Stmt.spliceBlock isIt news b).1).items) := by
  obtain ⟨-, -, hviews⟩ := Stmt.splicesViews hisIt hnodes [] [] 0 0 news left h
  exact hviews.inView (Stmt.walkBlock_under [] 0 b) (Stmt.walkBlock_under [] 0 _)

end

end Refactory
