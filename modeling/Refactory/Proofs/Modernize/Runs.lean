import Refactory.Proofs.Modernize.Order
import Refactory.Proofs.Modernize.Total

/-! # Runs of imports

The imports of a block come in runs that other statements cut off from each other (`ImportRun`).
Ordering a block puts each of them in the order of its keys without moving equals (`StableOrder`), and
leaves everything else at its index. Main statement: `sortImports_runs`. -/

namespace Refactory

/-! ## Order -/

/-- Two imports have keys, and that of the first does not stand behind that of the second. -/
def Stmt.KeyLe (s t : Stmt) : Prop :=
  ∃ a b, s.importKey = .ok a ∧ t.importKey = .ok b ∧ keyLe a b = true

/-- Imports whose keys do not decrease. -/
def InOrder (run : List Stmt) : Prop := run.Pairwise Stmt.KeyLe

/-- Whether a statement has a key. -/
def Stmt.hasKey (key : Nat × Text) (s : Stmt) : Bool :=
  match s.importKey with
  | .ok k => k == key
  | .error _ => false

/-- The same imports in order, those with one key as they stood. -/
structure StableOrder (run sorted : List Stmt) : Prop where
  perm : sorted.Perm run
  ordered : InOrder sorted
  stable : ∀ key, sorted.filter (Stmt.hasKey key) = run.filter (Stmt.hasKey key)

theorem Keyed.inOrder_iff {pairs : List ((Nat × Text) × Stmt)} (h : Keyed pairs) :
    InOrder (pairs.map (·.2)) ↔ pairs.Pairwise fun p q => keyLe p.1 q.1 = true := by
  rw [InOrder, List.pairwise_map]
  constructor
  · intro hle
    refine hle.imp_of_mem ?_
    rintro p q hp hq ⟨a, b, ha, hb, hab⟩
    cases (h p hp).symm.trans ha
    cases (h q hq).symm.trans hb
    exact hab
  · intro hle
    exact hle.imp_of_mem fun hp hq hpq => ⟨_, _, h _ hp, h _ hq, hpq⟩

theorem Keyed.filter_hasKey {pairs : List ((Nat × Text) × Stmt)} (h : Keyed pairs)
    (key : Nat × Text) :
    (pairs.map (·.2)).filter (Stmt.hasKey key) = (pairs.filter (·.1 == key)).map (·.2) := by
  rw [List.filter_map]
  refine congrArg _ (List.filter_congr ?_)
  intro p hp
  simp [Stmt.hasKey, h p hp]

/-- Sorting by keys keeps the order of what has the same key. -/
theorem mergeSort_filter_key (pairs : List ((Nat × Text) × Stmt)) (key : Nat × Text) :
    (pairs.mergeSort fun p q => keyLe p.1 q.1).filter (·.1 == key) =
      pairs.filter (·.1 == key) := by
  have hequal : (pairs.filter (·.1 == key)).Pairwise fun p q => keyLe p.1 q.1 = true := by
    rw [List.pairwise_filter]
    refine List.pairwise_of_forall ?_
    intro p q hp hq
    rw [eq_of_beq hp, eq_of_beq hq]
    simpa using keyLe_total key key
  -- What has the key is sorted already, so it comes out of the sort as a whole.
  have hsub : (pairs.filter (·.1 == key)).Sublist (pairs.mergeSort fun p q => keyLe p.1 q.1) :=
    List.sublist_mergeSort (fun p q r => keyLe_trans p.1 q.1 r.1) (fun p q => keyLe_total p.1 q.1)
      hequal List.filter_sublist
  have hsub' := hsub.filter (·.1 == key)
  rw [List.filter_filter] at hsub'
  simp only [Bool.and_self] at hsub'
  exact (hsub'.eq_of_length ((List.mergeSort_perm ..).filter _).length_eq.symm).symm

/-- A run is put in stable order, and counts as changed if it was not in order. -/
theorem sortRun_stable {run sorted : List Stmt} {changed : Bool}
    (h : sortRun run = .ok (sorted, changed)) :
    StableOrder run sorted ∧ (changed = true ↔ ¬InOrder run) := by
  have hperm := (sortRun_perm h).1
  obtain ⟨pairs, hkeyed, rfl, rfl, rfl⟩ := sortRun_ok h
  have hsorted : Keyed (pairs.mergeSort fun p q => keyLe p.1 q.1) := by
    intro p hp
    exact hkeyed p (List.mem_mergeSort.1 hp)
  refine ⟨⟨hperm, ?_, ?_⟩, ?_⟩
  · apply hsorted.inOrder_iff.2
    exact List.pairwise_mergeSort (fun p q r => keyLe_trans p.1 q.1 r.1)
      (fun p q => keyLe_total p.1 q.1) _
  · intro key
    rw [hsorted.filter_hasKey, hkeyed.filter_hasKey, mergeSort_filter_key]
  · have hkeys : keysOrdered (pairs.map (·.1)) = true ↔ InOrder (pairs.map (·.2)) := by
      rw [hkeyed.inOrder_iff]
      constructor
      · intro hordered
        exact List.pairwise_map.1 (pairwise_of_keysOrdered hordered)
      · intro hpairwise
        exact keysOrdered_of_pairwise (List.pairwise_map.2 hpairwise)
    rw [Bool.not_eq_true', ← Bool.not_eq_true, hkeys]

/-! ## Runs -/

/-- Whether an import stands at an index, if there is a statement. -/
def importAt (b : List Stmt) (k : Nat) : Option Bool := b[k]?.map Stmt.isImport

/-- The imports from one index up to another, in front of and behind which there is none. -/
structure ImportRun (b : List Stmt) (i j : Nat) : Prop where
  lt : i < j
  imports : ∀ k, i ≤ k → k < j → importAt b k = some true
  first : ∀ k, k + 1 = i → importAt b k = some false
  last : importAt b j ≠ some true

theorem importAt_eq {b : List Stmt} {k : Nat} : importAt b k = (b.map Stmt.isImport)[k]? :=
  List.getElem?_map.symm

theorem importAt_of_imports {run : List Stmt} (h : ∀ s ∈ run, s.isImport = true) {k : Nat}
    (hk : k < run.length) : importAt run k = some true := by
  rw [importAt, List.getElem?_eq_getElem hk, Option.map_some, h _ (List.getElem_mem hk)]

theorem importAt_none {b : List Stmt} {k : Nat} (hk : b.length ≤ k) : importAt b k = none := by
  rw [importAt, List.getElem?_eq_none hk, Option.map_none]

/-- Where the runs are depends on nothing but what is an import. -/
theorem ImportRun.congr {b b' : List Stmt} (h : b'.map Stmt.isImport = b.map Stmt.isImport)
    {i j : Nat} (hrun : ImportRun b i j) : ImportRun b' i j := by
  have hat : ∀ k, importAt b' k = importAt b k := by
    intro k
    rw [importAt_eq, importAt_eq, h]
  refine ⟨hrun.lt, ?_, ?_, ?_⟩
  · intro k hi hj
    exact (hat k).trans (hrun.imports k hi hj)
  · intro k hk
    exact (hat k).trans (hrun.first k hk)
  · exact hat j ▸ hrun.last

/-- A run that begins within imports begins with the first and goes to where they end. -/
theorem ImportRun.bounds {b : List Stmt} {n : Nat} (hin : ∀ k, k < n → importAt b k = some true)
    (hend : importAt b n ≠ some true) {i j : Nat} (hrun : ImportRun b i j) (hi : i ≤ n) :
    i = 0 ∧ j = n := by
  have hj : j ≤ n := by
    by_contra hlong
    exact hend (hrun.imports n hi (by omega))
  constructor
  · cases i with
    | zero => rfl
    | succ i =>
      have hfirst := hrun.first i rfl
      have hlt := hrun.lt
      rw [hin i (by omega)] at hfirst
      cases hfirst
  · by_contra hshort
    exact hrun.last (hin j (by omega))

theorem importRun_of_imports {run : List Stmt} (h : ∀ s ∈ run, s.isImport = true) {i j : Nat} :
    ImportRun run i j ↔ run ≠ [] ∧ i = 0 ∧ j = run.length := by
  have hin : ∀ k, k < run.length → importAt run k = some true := fun k => importAt_of_imports h
  have hend : importAt run run.length ≠ some true := by
    rw [importAt_none (Nat.le_refl _)]
    exact Option.some_ne_none _ |>.symm
  constructor
  · intro hrun
    have hi : i < run.length := by
      by_contra hlong
      have himport := hrun.imports i (Nat.le_refl i) hrun.lt
      rw [importAt_none (by omega)] at himport
      cases himport
    exact ⟨List.ne_nil_of_length_pos (by omega), hrun.bounds hin hend (by omega)⟩
  · rintro ⟨hne, rfl, rfl⟩
    exact ⟨List.length_pos_of_ne_nil hne, fun k _ hk => hin k hk, nofun, hend⟩

section

variable {run rest : List Stmt} {s : Stmt}

theorem importAt_append_left {k : Nat} (hk : k < run.length) :
    importAt (run ++ s :: rest) k = importAt run k := by
  rw [importAt, List.getElem?_append_left hk]
  rfl

theorem importAt_append_self : importAt (run ++ s :: rest) run.length = some s.isImport := by
  rw [importAt, List.getElem?_append_right (Nat.le_refl _), Nat.sub_self]
  rfl

theorem importAt_append_right (run rest : List Stmt) (s : Stmt) (k : Nat) :
    importAt (run ++ s :: rest) (run.length + 1 + k) = importAt rest k := by
  rw [importAt, List.getElem?_append_right (by omega), show run.length + 1 + k - run.length = k + 1
    by omega, List.getElem?_cons_succ]
  rfl

/-- The runs of imports in front of another statement and of what is behind it. -/
theorem importRun_append (h : ∀ t ∈ run, t.isImport = true) (hs : s.isImport = false) {i j : Nat} :
    ImportRun (run ++ s :: rest) i j ↔ (run ≠ [] ∧ i = 0 ∧ j = run.length) ∨
      ∃ i' j', ImportRun rest i' j' ∧ i = run.length + 1 + i' ∧ j = run.length + 1 + j' := by
  have hin : ∀ k, k < run.length → importAt (run ++ s :: rest) k = some true := by
    intro k hk
    exact (importAt_append_left hk).trans (importAt_of_imports h hk)
  have hself : importAt (run ++ s :: rest) run.length = some false := by
    rw [importAt_append_self, hs]
  have hend : importAt (run ++ s :: rest) run.length ≠ some true := by
    rw [hself]
    nofun
  constructor
  · intro hrun
    rcases Nat.lt_or_ge run.length i with hi | hi
    · obtain ⟨i', rfl⟩ := Nat.exists_eq_add_of_le hi
      have hlt := hrun.lt
      obtain ⟨j', rfl⟩ := Nat.exists_eq_add_of_le (show run.length + 1 ≤ j by omega)
      refine .inr ⟨i', j', ⟨by omega, ?_, ?_, ?_⟩, rfl, rfl⟩
      · intro k hi' hj'
        rw [← importAt_append_right run rest s]
        exact hrun.imports _ (by omega) (by omega)
      · intro k hk
        rw [← importAt_append_right run rest s]
        exact hrun.first _ (by omega)
      · rw [← importAt_append_right run rest s]
        exact hrun.last
    · obtain ⟨hzero, hlength⟩ := hrun.bounds hin hend hi
      have hlt := hrun.lt
      exact .inl ⟨List.ne_nil_of_length_pos (by omega), hzero, hlength⟩
  · rintro (⟨hne, rfl, rfl⟩ | ⟨i', j', hrun, rfl, rfl⟩)
    · exact ⟨List.length_pos_of_ne_nil hne, fun k _ hk => hin k hk, nofun, hend⟩
    · have hlt := hrun.lt
      refine ⟨by omega, ?_, ?_, ?_⟩
      · intro k hi hj
        obtain ⟨k', rfl⟩ := Nat.exists_eq_add_of_le (show run.length + 1 ≤ k by omega)
        rw [importAt_append_right]
        exact hrun.imports k' (by omega) (by omega)
      · intro k hk
        cases i' with
        | zero =>
          obtain rfl : k = run.length := by omega
          exact hself
        | succ i' =>
          obtain rfl : k = run.length + 1 + i' := by omega
          rw [importAt_append_right]
          exact hrun.first i' rfl
      · rw [importAt_append_right]
        exact hrun.last

end

/-! ## Blocks -/

theorem extract_append_left (run rest : List Stmt) : (run ++ rest).extract 0 run.length = run := by
  simp

theorem extract_append_right (run rest : List Stmt) (s : Stmt) (i j : Nat) :
    (run ++ s :: rest).extract (run.length + 1 + i) (run.length + 1 + j) = rest.extract i j := by
  have hdrop : (run ++ s :: rest).drop (run.length + 1 + i) = rest.drop i := by
    rw [Nat.add_assoc, ← List.drop_drop, List.drop_left, Nat.add_comm, List.drop_succ_cons]
  rw [List.extract_eq_take_drop, List.extract_eq_take_drop, hdrop, Nat.add_sub_add_left]

theorem StableOrder.length_eq {run sorted : List Stmt} (h : StableOrder run sorted) :
    sorted.length = run.length := h.perm.length_eq

namespace Sorts

variable {b b' : List Stmt} {n : Nat}

theorem map_isImport (h : Sorts b b' n) : b'.map Stmt.isImport = b.map Stmt.isImport := by
  have himports : ∀ {run sorted : List Stmt} {changed : Bool}, (∀ s ∈ run, s.isImport = true) →
      sortRun run = .ok (sorted, changed) → sorted.map Stmt.isImport = run.map Stmt.isImport := by
    intro run sorted changed himport hrun
    rw [List.map_eq_replicate_iff.2 himport,
      List.map_eq_replicate_iff.2 (sortRun_imports himport hrun), (sortRun_perm hrun).1.length_eq]
  induction h with
  | last himport hrun => exact himports himport hrun
  | next himport hrun _ _ ih =>
    rw [List.map_append, List.map_append, List.map_cons, List.map_cons, ih, himports himport hrun]

theorem stays (h : Sorts b b' n) {k : Nat} {s : Stmt} (hk : b[k]? = some s)
    (hs : s.isImport = false) : b'[k]? = some s := by
  induction h generalizing k with
  | last himport _ =>
    have htrue := himport s (List.mem_of_getElem? hk)
    rw [hs] at htrue
    cases htrue
  | @next run sorted rest tail t changed n himport hrun _ _ ih =>
    have hlength := (sortRun_perm hrun).1.length_eq
    rcases Nat.lt_or_ge k run.length with hlt | hge
    · rw [List.getElem?_append_left hlt] at hk
      have htrue := himport s (List.mem_of_getElem? hk)
      rw [hs] at htrue
      cases htrue
    · rw [List.getElem?_append_right hge] at hk
      rw [List.getElem?_append_right (by omega), hlength]
      cases hoffset : k - run.length with
      | zero =>
        rw [hoffset] at hk
        exact hk
      | succ k' =>
        rw [hoffset, List.getElem?_cons_succ] at hk
        rw [List.getElem?_cons_succ]
        exact ih hk

/-- Each run is put in stable order where it stands. -/
theorem stableOrder (h : Sorts b b' n) {i j : Nat} (hij : ImportRun b i j) :
    StableOrder (b.extract i j) (b'.extract i j) := by
  induction h generalizing i j with
  | @last run sorted _ himport hrun =>
    obtain ⟨-, rfl, rfl⟩ := (importRun_of_imports himport).1 hij
    have hstable := (sortRun_stable hrun).1
    have hself := extract_append_left run []
    have hsorted := extract_append_left sorted []
    rw [List.append_nil] at hself hsorted
    rw [hself, ← hstable.length_eq, hsorted]
    exact hstable
  | @next run sorted rest tail s _ _ himport hrun hs _ ih =>
    have hstable := (sortRun_stable hrun).1
    rcases (importRun_append himport hs).1 hij with ⟨-, rfl, rfl⟩ | ⟨i', j', hij', rfl, rfl⟩
    · rw [extract_append_left, ← hstable.length_eq, extract_append_left]
      exact hstable
    · rw [extract_append_right, ← hstable.length_eq, extract_append_right]
      exact ih hij'

end Sorts

/-- The bounds of a run at the start of a block, if it has changed. -/
def changedRun (changed : Bool) (run : List Stmt) : List (Nat × Nat) :=
  if changed then [(0, run.length)] else []

theorem mem_changedRun {run sorted b : List Stmt} {changed : Bool}
    (hrun : sortRun run = .ok (sorted, changed)) (hb : b.extract 0 run.length = run) {i j : Nat} :
    (i, j) ∈ changedRun changed run ↔
      (run ≠ [] ∧ i = 0 ∧ j = run.length) ∧ ¬InOrder (b.extract i j) := by
  have hchanged := (sortRun_stable hrun).2
  unfold changedRun
  cases changed with
  | false =>
    have hordered : InOrder run := by simpa using hchanged
    simp only [Bool.false_eq_true, if_false, List.not_mem_nil, false_iff]
    rintro ⟨⟨-, rfl, rfl⟩, hnot⟩
    exact hnot (hb.symm ▸ hordered)
  | true =>
    have hnot : ¬InOrder run := hchanged.1 rfl
    have hne : run ≠ [] := by
      rintro rfl
      exact hnot .nil
    simp only [if_true, List.mem_singleton, Prod.mk.injEq]
    constructor
    · rintro ⟨rfl, rfl⟩
      exact ⟨⟨hne, rfl, rfl⟩, hb.symm ▸ hnot⟩
    · rintro ⟨⟨-, hi, hj⟩, -⟩
      exact ⟨hi, hj⟩

theorem length_changedRun (changed : Bool) (run : List Stmt) :
    (changedRun changed run).length = if changed then 1 else 0 := by
  cases changed <;> rfl

/-- As many runs change as are not in order. -/
theorem Sorts.changes {b b' : List Stmt} {n : Nat} (h : Sorts b b' n) :
    ∃ changed : List (Nat × Nat), changed.Nodup ∧ changed.length = n ∧
      ∀ i j, (i, j) ∈ changed ↔ ImportRun b i j ∧ ¬InOrder (b.extract i j) := by
  induction h with
  | @last run sorted changed himport hrun =>
    have hself := extract_append_left run []
    rw [List.append_nil] at hself
    refine ⟨changedRun changed run, ?_, length_changedRun .., ?_⟩
    · cases changed
      · exact List.nodup_nil
      · exact List.nodup_singleton _
    · intro i j
      rw [importRun_of_imports himport, mem_changedRun hrun hself]
  | @next run sorted rest tail s changed n himport hrun hs _ ih =>
    obtain ⟨others, hnodup, hlength, hothers⟩ := ih
    let shift (p : Nat × Nat) : Nat × Nat := (run.length + 1 + p.1, run.length + 1 + p.2)
    have hshift : shift.Injective := by
      rintro ⟨i, j⟩ ⟨i', j'⟩ heq
      simp only [shift, Prod.mk.injEq, Nat.add_left_cancel_iff] at heq
      rw [heq.1, heq.2]
    refine ⟨others.map shift ++ changedRun changed run, ?_, ?_, ?_⟩
    · refine List.nodup_append.2 ⟨hnodup.map hshift, ?_, ?_⟩
      · cases changed
        · exact List.nodup_nil
        · exact List.nodup_singleton _
      · rintro p hp q hq rfl
        obtain ⟨⟨i, j⟩, -, rfl⟩ := List.mem_map.1 hp
        have hzero := ((mem_changedRun hrun (extract_append_left run (s :: rest))).1 hq).1.2.1
        simp only at hzero
        omega
    · rw [List.length_append, List.length_map, hlength, length_changedRun]
    · intro i j
      rw [List.mem_append, mem_changedRun hrun (extract_append_left run (s :: rest)),
        importRun_append himport hs, or_and_right, or_comm, List.mem_map]
      refine or_congr_right ?_
      constructor
      · rintro ⟨⟨i', j'⟩, hmem, heq⟩
        obtain ⟨rfl, rfl⟩ := Prod.mk.inj heq
        obtain ⟨hij, hnot⟩ := (hothers i' j').1 hmem
        exact ⟨⟨i', j', hij, rfl, rfl⟩, extract_append_right run rest s i' j' ▸ hnot⟩
      · rintro ⟨⟨i', j', hij, rfl, rfl⟩, hnot⟩
        rw [extract_append_right] at hnot
        exact ⟨(i', j'), (hothers i' j').2 ⟨hij, hnot⟩, rfl⟩

/-! ## Modules -/

/-- Ordering the imports of a module whose top-level imports all import something succeeds. Other
statements stay at their index. The runs of imports stay where they are, and each is put in the order of
its keys, with imports that have the same key as they stood. The number that is reported is that of the
runs whose keys were not in order. -/
theorem sortImports_runs {m : Module}
    (hm : ∀ s ∈ m.body, s.isImport = true → s.importsNothing = false) :
    ∃ n m', sortImports.perform m = (.ok n, m') ∧ m'.body.length = m.body.length ∧
      (∀ (k : Nat) (s : Stmt), m.body[k]? = some s → s.isImport = false → m'.body[k]? = some s) ∧
      (∀ i j, ImportRun m'.body i j ↔ ImportRun m.body i j) ∧
      (∀ i j, ImportRun m.body i j → StableOrder (m.body.extract i j) (m'.body.extract i j)) ∧
      ∃ changed : List (Nat × Nat), changed.Nodup ∧ changed.length = n ∧
        ∀ i j, (i, j) ∈ changed ↔ ImportRun m.body i j ∧ ¬InOrder (m.body.extract i j) := by
  obtain ⟨n, hn⟩ : ∃ n, (sortRuns [] m.body).2 = .ok n := by
    refine sortRuns_of_keys (List.forall_mem_nil _) fun s hs himport => ?_
    exact Stmt.importKey_of_named himport (hm s hs himport)
  have hrun : sortImports.perform m = (.ok n, ⟨(sortRuns [] m.body).1⟩) := Prod.ext hn rfl
  have hsorts : Sorts m.body (sortRuns [] m.body).1 n :=
    sortRuns_sorts (List.forall_mem_nil _) (sortImports_ok hrun)
  have hflags := hsorts.map_isImport
  refine ⟨n, _, hrun, ?_, ?_, ?_, ?_, hsorts.changes⟩
  · simpa using congrArg List.length hflags
  · intro k s
    exact hsorts.stays
  · intro i j
    exact ⟨.congr hflags.symm, .congr hflags⟩
  · intro i j
    exact hsorts.stableOrder

/-- A run of imports, two of which have the same key, and another one behind it. -/
def runsSample : Module :=
  ⟨[.importFrom (some "b") [⟨"run", none⟩] 1 none, .importFrom (some "a") [⟨"stop", none⟩] 1 none,
    .importFrom (some "A") [⟨"wait", none⟩] 1 none, .pass none,
    .importFrom none [⟨"go", none⟩] 2 none]⟩

theorem sortImports_runs_sample :
    (∀ s ∈ runsSample.body, s.isImport = true → s.importsNothing = false) ∧
      ∃ m', sortImports.perform runsSample = (.ok 1, m') ∧ m'.body[3]? = some (.pass none) ∧
        StableOrder (runsSample.body.extract 0 3) (m'.body.extract 0 3) := by
  have hnamed : ∀ s ∈ runsSample.body, s.isImport = true → s.importsNothing = false := by
    decide
  have himport : ∀ s ∈ runsSample.body.take 3, s.isImport = true := by decide
  have hrun : ImportRun runsSample.body 0 3 :=
    (importRun_append himport rfl).2 (.inl ⟨List.cons_ne_nil _ _, rfl, rfl⟩)
  obtain ⟨n, m', hsort, -, hstays, -, hstable, -⟩ := sortImports_runs hnamed
  have hone : (sortImports.perform runsSample).1.toOption = some 1 := by decide +kernel
  rw [hsort] at hone
  cases hone
  exact ⟨hnamed, m', hsort, hstays 3 _ rfl rfl, hstable 0 3 hrun⟩

end Refactory
