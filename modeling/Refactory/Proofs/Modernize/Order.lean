import Refactory.Proofs.Modernize.Honest
import Refactory.Proofs.Tree.Content

/-! # Imports in order

Keys are totally ordered, so that a run of imports that has been put in order is in order
(`sortRun_again`). Ordering a block puts its runs in order one after the other (`Sorts`). It moves
nothing but imports, the rest of the tree is as it was, and doing it again changes nothing
(`sortRuns_again`). -/

namespace Refactory

/-! ## Keys -/

theorem Text.nil_le (s : Text) : Text.le [] s = true := by
  cases s <;> rfl

theorem Text.cons_le_cons (a b : CodePoint) (s t : Text) :
    Text.le (a :: s) (b :: t) = true ↔ a.val < b.val ∨ a.val = b.val ∧ Text.le s t = true := by
  simp only [Text.le, Text.lt, Bool.not_eq_true', Bool.or_eq_false_iff, Bool.and_eq_false_iff,
    decide_eq_false_iff_not, beq_eq_false_iff_ne, ne_eq]
  cases Text.lt t s <;> simp <;> omega

theorem Text.le_trans {s t u : Text} (hst : Text.le s t = true) (htu : Text.le t u = true) :
    Text.le s u = true := by
  induction s generalizing t u with
  | nil => exact Text.nil_le u
  | cons a s ih =>
    cases t with
    | nil => cases hst
    | cons b t =>
      cases u with
      | nil => cases htu
      | cons c u =>
        rw [Text.cons_le_cons] at hst htu ⊢
        rcases hst with hab | ⟨hab, hst⟩ <;> rcases htu with hbc | ⟨hbc, htu⟩
        · exact .inl (Nat.lt_trans hab hbc)
        · exact .inl (hbc ▸ hab)
        · exact .inl (hab ▸ hbc)
        · exact .inr ⟨hab.trans hbc, ih hst htu⟩

theorem Text.le_total (s t : Text) : Text.le s t = true ∨ Text.le t s = true := by
  induction s generalizing t with
  | nil => exact .inl (Text.nil_le t)
  | cons a s ih =>
    cases t with
    | nil => exact .inr (Text.nil_le _)
    | cons b t =>
      rw [Text.cons_le_cons, Text.cons_le_cons]
      rcases Nat.lt_trichotomy a.val b.val with h | h | h
      · exact .inl (.inl h)
      · exact (ih t).imp (fun h' => .inr ⟨h, h'⟩) fun h' => .inr ⟨h.symm, h'⟩
      · exact .inr (.inl h)

theorem keyLe_iff (a b : Nat × Text) :
    keyLe a b = true ↔ a.1 < b.1 ∨ a.1 = b.1 ∧ Text.le a.2 b.2 = true := by
  simp [keyLe]

theorem keyLe_trans (a b c : Nat × Text) (hab : keyLe a b = true) (hbc : keyLe b c = true) :
    keyLe a c = true := by
  rw [keyLe_iff] at hab hbc ⊢
  rcases hab with hab | ⟨hab, hab'⟩ <;> rcases hbc with hbc | ⟨hbc, hbc'⟩
  · exact .inl (by omega)
  · exact .inl (by omega)
  · exact .inl (by omega)
  · exact .inr ⟨by omega, Text.le_trans hab' hbc'⟩

theorem keyLe_total (a b : Nat × Text) : (keyLe a b || keyLe b a) = true := by
  rw [Bool.or_eq_true, keyLe_iff, keyLe_iff]
  rcases Nat.lt_trichotomy a.1 b.1 with h | h | h
  · exact .inl (.inl h)
  · exact (Text.le_total a.2 b.2).imp (fun h' => .inr ⟨h, h'⟩) fun h' => .inr ⟨h.symm, h'⟩
  · exact .inr (.inl h)

theorem keysOrdered_of_pairwise {keys : List (Nat × Text)}
    (h : keys.Pairwise fun a b => keyLe a b = true) : keysOrdered keys = true := by
  induction keys with
  | nil => rfl
  | cons a rest ih =>
    rw [List.pairwise_cons] at h
    cases rest with
    | nil => rfl
    | cons b rest => rw [keysOrdered, h.1 b List.mem_cons_self, ih h.2]; rfl

theorem pairwise_of_keysOrdered {keys : List (Nat × Text)} (h : keysOrdered keys = true) :
    keys.Pairwise fun a b => keyLe a b = true := by
  induction keys with
  | nil => exact .nil
  | cons a rest ih =>
    cases rest with
    | nil => exact List.pairwise_singleton ..
    | cons b rest =>
      rw [keysOrdered, Bool.and_eq_true] at h
      have hrest := ih h.2
      rw [List.pairwise_cons]
      refine ⟨?_, hrest⟩
      intro c hc
      rcases List.mem_cons.1 hc with rfl | hc
      · exact h.1
      · exact keyLe_trans a b c h.1 ((List.pairwise_cons.1 hrest).1 c hc)

/-! ## Runs -/

/-- A run of imports, each with its key. -/
def Keyed (pairs : List ((Nat × Text) × Stmt)) : Prop := ∀ p ∈ pairs, p.2.importKey = .ok p.1

theorem Keyed.mapM_importKey {pairs : List ((Nat × Text) × Stmt)} (h : Keyed pairs) :
    (pairs.map (·.2)).mapM Stmt.importKey = .ok (pairs.map (·.1)) := by
  rw [mapM_ok, List.map_map, List.map_map]
  exact List.map_congr_left h

theorem exists_keyed {run : List Stmt} {keys : List (Nat × Text)}
    (h : run.mapM Stmt.importKey = .ok keys) :
    Keyed (keys.zip run) ∧ (keys.zip run).map (·.1) = keys ∧ (keys.zip run).map (·.2) = run := by
  have hkeys := mapM_ok.1 h
  have hlength : keys.length = run.length := by
    simpa using (congrArg List.length hkeys).symm
  refine ⟨?_, List.map_fst_zip (by omega), List.map_snd_zip (by omega)⟩
  intro p hp
  obtain ⟨n, hn⟩ := List.mem_iff_getElem?.1 hp
  rw [List.getElem?_zip_eq_some] at hn
  have hn' := congrArg (·[n]?) hkeys
  simp only [List.getElem?_map, hn.1, hn.2, Option.map_some, Option.some.injEq] at hn'
  exact hn'

/-- What ordering makes of a run: it is sorted by its keys, and has changed if they were not in
order. -/
theorem sortRun_ok {run sorted : List Stmt} {changed : Bool}
    (h : sortRun run = .ok (sorted, changed)) :
    ∃ pairs, Keyed pairs ∧ pairs.map (·.2) = run ∧
      sorted = (pairs.mergeSort fun p q => keyLe p.1 q.1).map (·.2) ∧
      changed = !keysOrdered (pairs.map (·.1)) := by
  obtain ⟨keys, hkeys, h⟩ := bind_ok.1 h
  obtain ⟨hkeyed, hfst, hsnd⟩ := exists_keyed hkeys
  refine ⟨keys.zip run, hkeyed, hsnd, ?_⟩
  rw [hfst]
  split at h
  · rename_i hordered
    cases h
    have hpairwise := pairwise_of_keysOrdered hordered
    rw [← hfst, List.pairwise_map] at hpairwise
    rw [List.mergeSort_of_pairwise hpairwise, hordered]
    exact ⟨hsnd.symm, rfl⟩
  · rename_i hordered
    cases h
    exact ⟨rfl, by simp [hordered]⟩

/-- A run that has been put in order stays as it is. -/
theorem sortRun_again {run sorted : List Stmt} {changed : Bool}
    (h : sortRun run = .ok (sorted, changed)) : sortRun sorted = .ok (sorted, false) := by
  obtain ⟨pairs, hkeyed, -, rfl, -⟩ := sortRun_ok h
  have hpairwise : (pairs.mergeSort fun p q => keyLe p.1 q.1).Pairwise fun p q =>
      keyLe p.1 q.1 = true :=
    List.pairwise_mergeSort (fun p q r => keyLe_trans p.1 q.1 r.1)
      (fun p q => keyLe_total p.1 q.1) _
  have hsorted : Keyed (pairs.mergeSort fun p q => keyLe p.1 q.1) := by
    intro p hp
    exact hkeyed p (List.mem_mergeSort.1 hp)
  rw [sortRun, hsorted.mapM_importKey]
  exact if_pos (keysOrdered_of_pairwise (List.pairwise_map.2 hpairwise))

theorem sortRuns_imports {imports : List Stmt} (h : ∀ s ∈ imports, s.isImport = true)
    (run rest : List Stmt) :
    sortRuns run (imports ++ rest) = sortRuns (imports.reverse ++ run) rest := by
  induction imports generalizing run with
  | nil => rfl
  | cons s imports ih =>
    rw [List.forall_mem_cons] at h
    rw [List.cons_append, sortRuns, if_pos h.1, ih h.2, List.reverse_cons, List.append_assoc]
    rfl

/-! ## Blocks -/

/-- A block becomes another by ordering its runs of imports, so many of which change. A run can be
empty. -/
inductive Sorts : List Stmt → List Stmt → Nat → Prop
  | last {run sorted : List Stmt} {changed : Bool} (himport : ∀ s ∈ run, s.isImport = true)
    (hrun : sortRun run = .ok (sorted, changed)) : Sorts run sorted (if changed then 1 else 0)
  | next {run sorted rest tail : List Stmt} {s : Stmt} {changed : Bool} {n : Nat}
    (himport : ∀ s ∈ run, s.isImport = true) (hrun : sortRun run = .ok (sorted, changed))
    (hs : s.isImport = false) (hrest : Sorts rest tail n) :
    Sorts (run ++ s :: rest) (sorted ++ s :: tail) (n + if changed then 1 else 0)

theorem sortRuns_sorts {run rest b : List Stmt} {n : Nat} (hrun : ∀ s ∈ run, s.isImport = true)
    (h : sortRuns run rest = (b, .ok n)) : Sorts (run.reverse ++ rest) b n := by
  induction rest generalizing run b n with
  | nil =>
    rw [sortRuns] at h
    rw [List.append_nil]
    split at h
    · rename_i hsorted
      cases h
      exact .last (fun t ht => hrun t (List.mem_reverse.1 ht)) hsorted
    · cases h
  | cons s rest ih =>
    rw [sortRuns] at h
    split at h
    · rename_i hs
      have hrun' : ∀ t ∈ s :: run, t.isImport = true := List.forall_mem_cons.2 ⟨hs, hrun⟩
      simpa using ih hrun' h
    · rename_i hs
      split at h
      · rename_i sorted changed hsorted
        rcases hrest : sortRuns [] rest with ⟨tail, count⟩
        cases count with
        | error f => simp [hrest, Except.map] at h
        | ok k =>
          simp only [hrest, Except.map, Prod.mk.injEq, Except.ok.injEq] at h
          obtain ⟨rfl, rfl⟩ := h
          exact .next (fun t ht => hrun t (List.mem_reverse.1 ht)) hsorted (by simpa using hs)
            (ih (List.forall_mem_nil _) hrest)
      · cases h

theorem sortRun_imports {run sorted : List Stmt} {changed : Bool}
    (himport : ∀ s ∈ run, s.isImport = true) (h : sortRun run = .ok (sorted, changed)) :
    ∀ s ∈ sorted, s.isImport = true := by
  intro s hs
  exact himport s ((sortRun_perm h).1.mem_iff.1 hs)

theorem Sorts.content {b b' : List Stmt} {n : Nat} (h : Sorts b b' n) :
    Stmt.content b' = Stmt.content b := by
  induction h with
  | last himport hrun =>
    rw [Stmt.content_imports himport, Stmt.content_imports (sortRun_imports himport hrun)]
  | next himport hrun hs _ ih =>
    rw [Stmt.content_append, Stmt.content_append, Stmt.content_imports himport,
      Stmt.content_imports (sortRun_imports himport hrun), Stmt.content_cons, ih,
      ← Stmt.content_cons]

theorem Sorts.again {b b' : List Stmt} {n : Nat} (h : Sorts b b' n) :
    sortRuns [] b' = (b', .ok 0) := by
  induction h with
  | last himport hrun =>
    have hruns := sortRuns_imports (sortRun_imports himport hrun) [] []
    rw [List.append_nil, List.append_nil] at hruns
    rw [hruns, sortRuns, List.reverse_reverse, sortRun_again hrun]
    rfl
  | next himport hrun hs _ ih =>
    rw [sortRuns_imports (sortRun_imports himport hrun), List.append_nil, sortRuns,
      if_neg (by simp [hs]), List.reverse_reverse, sortRun_again hrun]
    simp [ih, Except.map]

/-- Ordering moves imports only, and does not move them again. -/
theorem sortRuns_again {run rest b : List Stmt} {n : Nat} (hrun : ∀ s ∈ run, s.isImport = true)
    (h : sortRuns run rest = (b, .ok n)) :
    sortRuns [] b = (b, .ok 0) ∧ Stmt.content b = Stmt.content rest := by
  have hsorts := sortRuns_sorts hrun h
  refine ⟨hsorts.again, ?_⟩
  rw [hsorts.content, Stmt.content_append, Stmt.content_imports (by simpa using hrun),
    List.nil_append]

end Refactory
