import Refactory.Proofs.Modernize.Version

/-! # Imports that are still in the tree

A statement is still in the tree after a pass has replaced others, if neither it nor a statement around
it was replaced. By paths: no replaced statement has a path that begins its own
(`Stmt.walkBlock_tracks`). By the tree: it is among the survivors (`Stmt.survivorsIn`), whose imports
are those that the pass leaves (`Stmt.replaceBlock_survivors`). So the old imports that are attached are
just those in the tree after guarded lookups have collapsed (`VersionRun.attached_imports`). -/

namespace Refactory

mutual

/-- A statement and those inside it that are neither gone nor inside one that is. -/
def Stmt.survivors (gone : Stmt → Bool) : Stmt → List Stmt
  | .function head body location =>
    if gone (.function head body location) then []
    else .function head body location :: Stmt.survivorsIn gone body
  | .classDef head body location =>
    if gone (.classDef head body location) then []
    else .classDef head body location :: Stmt.survivorsIn gone body
  | .tryExcept body handlers orelse finalbody location =>
    if gone (.tryExcept body handlers orelse finalbody location) then []
    else .tryExcept body handlers orelse finalbody location ::
      (Stmt.survivorsIn gone body ++ (Handler.survivorsIn gone handlers ++
        (Stmt.survivorsIn gone orelse ++ Stmt.survivorsIn gone finalbody)))
  | s => if gone s then [] else [s]

/-- The survivors of a block. -/
def Stmt.survivorsIn (gone : Stmt → Bool) : List Stmt → List Stmt
  | [] => []
  | s :: rest => s.survivors gone ++ Stmt.survivorsIn gone rest

/-- The survivors of the bodies of handlers. -/
def Handler.survivorsIn (gone : Stmt → Bool) : List Handler → List Stmt
  | [] => []
  | .mk _ _ body :: rest => Stmt.survivorsIn gone body ++ Handler.survivorsIn gone rest

end

/-! ## By paths -/

section

variable {gone : Stmt → Bool}

/-- The items that no path of a gone item begins. -/
def unshaded (gone : Stmt → Bool) (items : List (Path × Stmt)) : List (Path × Stmt) :=
  items.filter fun i => !((items.filter (gone ·.2)).map (·.1)).any (·.isPrefixOf i.1)

/-- The paths of items go on below `path` with a step from `lo` on and before `hi`. -/
def Under (path : Path) (lo hi : Nat) (items : List (Path × Stmt)) : Prop :=
  ∀ i ∈ items, ∃ (k : Nat) (rest : Path), i.1 = path ++ (k : Int) :: rest ∧ lo ≤ k ∧ k < hi

theorem Under.append {path : Path} {lo mid hi : Nat} {items more : List (Path × Stmt)}
    (h : Under path lo mid items) (h' : Under path mid hi more) (hlo : lo ≤ mid) (hhi : mid ≤ hi) :
    Under path lo hi (items ++ more) := by
  intro i hi'
  rcases List.mem_append.1 hi' with hi' | hi'
  · obtain ⟨k, rest, heq, hk, hk'⟩ := h i hi'
    exact ⟨k, rest, heq, hk, by omega⟩
  · obtain ⟨k, rest, heq, hk, hk'⟩ := h' i hi'
    exact ⟨k, rest, heq, by omega, hk'⟩

/-- Paths that differ in a step do not begin one another. -/
theorem isPrefixOf_of_step {path rest rest' : Path} {k k' : Nat} (h : k ≠ k') :
    List.isPrefixOf (path ++ (k : Int) :: rest) (path ++ (k' : Int) :: rest') = false := by
  rw [Bool.eq_false_iff, ne_eq, List.isPrefixOf_iff_prefix, List.prefix_append_right_inj,
    List.cons_prefix_cons]
  exact fun hstep => h (by exact_mod_cast hstep.1)

/-- The items whose path, as far as `up` takes of it, no path of a gone item begins. -/
def clearOf (gone : Stmt → Bool) (up : Path → Path) (items : List (Path × Stmt)) :
    List (Path × Stmt) :=
  items.filter fun i => !((items.filter (gone ·.2)).map (·.1)).any (·.isPrefixOf (up i.1))

theorem clearOf_append {up : Path → Path} (hup : ∀ p, up p <+: p) {path : Path} {lo mid hi : Nat}
    {items more : List (Path × Stmt)}
    (h : Under path lo mid items) (h' : Under path mid hi more) :
    clearOf gone up (items ++ more) = clearOf gone up items ++ clearOf gone up more := by
  have hnot : ∀ {p q : Path}, List.isPrefixOf p q = false → List.isPrefixOf p (up q) = false := by
    intro p q hpq
    rw [Bool.eq_false_iff, ne_eq, List.isPrefixOf_iff_prefix] at hpq ⊢
    exact fun hstarts => hpq (hstarts.trans (hup q))
  have hapart : ∀ i ∈ items, ∀ j ∈ more,
      List.isPrefixOf j.1 (up i.1) = false ∧ List.isPrefixOf i.1 (up j.1) = false := by
    intro i hi j hj
    obtain ⟨k, rest, hik, -, hk⟩ := h i hi
    obtain ⟨k', rest', hjk, hk', -⟩ := h' j hj
    constructor
    · exact hnot (by rw [hik, hjk]; exact isPrefixOf_of_step (by omega))
    · exact hnot (by rw [hik, hjk]; exact isPrefixOf_of_step (by omega))
  unfold clearOf
  simp only [List.filter_append, List.map_append, List.any_append]
  congr 1
  · refine List.filter_congr fun i hi => ?_
    have hnone : ((more.filter (gone ·.2)).map (·.1)).any (·.isPrefixOf (up i.1)) = false := by
      simp only [List.any_map, List.any_eq_false, List.mem_filter]
      exact fun j hj => by simp [(hapart i hi j hj.1).1]
    rw [hnone, Bool.or_false]
  · refine List.filter_congr fun j hj => ?_
    have hnone : ((items.filter (gone ·.2)).map (·.1)).any (·.isPrefixOf (up j.1)) = false := by
      simp only [List.any_map, List.any_eq_false, List.mem_filter]
      exact fun i hi => by simp [(hapart i hi.1 j hj).2]
    rw [hnone, Bool.false_or]

/-- Of a statement and what is inside it, a gone statement leaves at most itself. -/
theorem clearOf_cons {up : Path → Path} (hup : ∀ p, up p <+: p) {path : Path} {lo hi : Nat} {s : Stmt}
    {items : List (Path × Stmt)} (h : Under path lo hi items)
    (hbelow : ∀ i ∈ items, path <+: up i.1) :
    clearOf gone up ((path, s) :: items) =
      (if gone s ∧ path <+: up path then [] else [(path, s)]) ++
        if gone s then [] else clearOf gone up items := by
  have hself : ((items.filter (gone ·.2)).map (·.1)).any (·.isPrefixOf (up path)) = false := by
    simp only [List.any_map, List.any_eq_false, List.mem_filter]
    rintro i ⟨hi, -⟩ hstarts
    have hstarts : i.1 <+: up path := List.isPrefixOf_iff_prefix.1 hstarts
    obtain ⟨k, rest, heq, -, -⟩ := h i hi
    have hlength : i.1.length ≤ path.length := (hstarts.trans (hup path)).length_le
    rw [heq, List.length_append, List.length_cons] at hlength
    omega
  unfold clearOf
  by_cases hgone : gone s = true
  · have hgones : ((path, s) :: items).filter (gone ·.2) = (path, s) :: items.filter (gone ·.2) :=
      List.filter_cons_of_pos hgone
    have hnone : (items.filter fun i =>
        !(((path, s) :: items.filter (gone ·.2)).map (·.1)).any (·.isPrefixOf (up i.1))) = [] := by
      rw [List.filter_eq_nil_iff]
      intro i hi
      have hstarts := List.isPrefixOf_iff_prefix.2 (hbelow i hi)
      simp [hstarts]
    rw [hgones, List.filter_cons, hnone, List.map_cons, List.any_cons, hself, if_pos hgone,
      List.append_nil]
    by_cases hstarts : path <+: up path <;> simp [hstarts, hgone]
  · have hgones : ((path, s) :: items).filter (gone ·.2) = items.filter (gone ·.2) :=
      List.filter_cons_of_neg hgone
    rw [hgones, List.filter_cons, hself, if_neg hgone, if_neg (not_and.2 fun h => (hgone h).elim)]
    rfl

theorem unshaded_append {path : Path} {lo mid hi : Nat} {items more : List (Path × Stmt)}
    (h : Under path lo mid items) (h' : Under path mid hi more) :
    unshaded gone (items ++ more) = unshaded gone items ++ unshaded gone more :=
  clearOf_append List.prefix_refl h h'

theorem unshaded_cons {path : Path} {lo hi : Nat} {s : Stmt} {items : List (Path × Stmt)}
    (h : Under path lo hi items) :
    unshaded gone ((path, s) :: items) =
      if gone s then [] else (path, s) :: unshaded gone items := by
  have hbelow : ∀ i ∈ items, path <+: i.1 := by
    intro i hi
    obtain ⟨k, rest, heq, -, -⟩ := h i hi
    exact heq ▸ List.prefix_append ..
  refine (clearOf_cons List.prefix_refl h hbelow).trans ?_
  cases gone s with
  | true => simp
  | false => rfl

/-- A walk meets statements below `path` in a range of steps, and if it ends well, those that are not
shaded are `ss`. -/
structure Walk.Tracks (gone : Stmt → Bool) (w : Walk (Path × Stmt)) (path : Path) (lo hi : Nat)
    (ss : List Stmt) : Prop where
  under : Under path lo hi w.items
  unshaded : w.fault = none → (unshaded gone w.items).map (·.2) = ss

theorem Walk.Tracks.empty (path : Path) (lo : Nat) :
    Walk.Tracks gone (Walk.empty : Walk (Path × Stmt)) path lo lo [] :=
  ⟨by simp [Under, Walk.empty], fun _ => rfl⟩

theorem Walk.Tracks.append {v w : Walk (Path × Stmt)} {path : Path} {lo mid hi : Nat}
    {ss ts : List Stmt} (h : v.Tracks gone path lo mid ss) (h' : w.Tracks gone path mid hi ts)
    (hlo : lo ≤ mid) (hhi : mid ≤ hi) : (v.append w).Tracks gone path lo hi (ss ++ ts) := by
  unfold Walk.append
  cases hv : v.fault with
  | some f =>
    refine ⟨fun i hi' => ?_, fun hfault => ?_⟩
    · obtain ⟨k, rest, heq, hk, hk'⟩ := h.under i hi'
      exact ⟨k, rest, heq, hk, by omega⟩
    · rw [hfault] at hv
      cases hv
  | none =>
    refine ⟨h.under.append h'.under hlo hhi, fun hfault => ?_⟩
    rw [unshaded_append h.under h'.under, List.map_append, h.unshaded hv, h'.unshaded hfault]

/-- A statement in front of a walk over what is inside it. -/
theorem Walk.Tracks.cons {w : Walk (Path × Stmt)} {path : Path} {first hi : Nat} {s : Stmt}
    {ss : List Stmt} (h : w.Tracks gone (path ++ [(first : Int)]) 0 hi ss) :
    (Walk.cons (path ++ [(first : Int)], s) w).Tracks gone path first (first + 1)
      (if gone s then [] else s :: ss) := by
  refine ⟨fun i hi' => ?_, fun hfault => ?_⟩
  · rcases List.mem_cons.1 hi' with rfl | hi'
    · exact ⟨first, [], rfl, Nat.le_refl _, by omega⟩
    · obtain ⟨k, rest, heq, -, -⟩ := h.under i hi'
      exact ⟨first, (k : Int) :: rest, by rw [heq, List.append_assoc]; rfl, Nat.le_refl _, by omega⟩
  · rw [Walk.cons, unshaded_cons h.under]
    split
    · rfl
    · rw [List.map_cons, h.unshaded hfault]

mutual

theorem Stmt.walkAt_tracks (gone : Stmt → Bool) (path : Path) (first : Nat) :
    ∀ s : Stmt, (s.walkAt (path ++ [(first : Int)])).Tracks gone path first (first + 1)
      (s.survivors gone)
  | .function head body location => (Stmt.walkBlock_tracks gone _ 0 body).cons
  | .classDef head body location => (Stmt.walkBlock_tracks gone _ 0 body).cons
  | .tryExcept body handlers orelse finalbody location => by
    have hb := Stmt.walkBlock_tracks gone (path ++ [(first : Int)]) 0 body
    have hh := Handler.walkEach_tracks gone (path ++ [(first : Int)]) body.length handlers
    have ho := Stmt.walkBlock_tracks gone (path ++ [(first : Int)])
      ((handlers.map Handler.body).flatten.length + body.length) orelse
    have hf := Stmt.walkBlock_tracks gone (path ++ [(first : Int)])
      ((handlers.map Handler.body).flatten.length + body.length + orelse.length) finalbody
    rw [Nat.zero_add] at hb
    rw [Nat.add_comm body.length] at hh
    exact (hb.append (hh.append (ho.append hf (by omega) (by omega)) (by omega) (by omega))
      (by omega) (by omega)).cons
  | .foreign kind => by
    refine ⟨fun i hi => ?_, fun hfault => by cases hfault⟩
    cases List.mem_singleton.1 hi
    exact ⟨first, [], rfl, Nat.le_refl _, by omega⟩
  | .importNames .. | .importFrom .. | .assign .. | .ret .. | .pass _ | .expr .. | .captured .. =>
    (Walk.Tracks.empty _ 0).cons

/-- By paths, the statements of a block that survive are those that no gone one stands around. -/
theorem Stmt.walkBlock_tracks (gone : Stmt → Bool) (path : Path) :
    ∀ (first : Nat) (b : List Stmt),
      (Stmt.walkBlock path first b).Tracks gone path first (first + b.length)
        (Stmt.survivorsIn gone b)
  | first, [] => Walk.Tracks.empty path first
  | first, s :: rest => by
    have hrest := Stmt.walkBlock_tracks gone path (first + 1) rest
    rw [Nat.add_right_comm, Nat.add_assoc] at hrest
    exact (Stmt.walkAt_tracks gone path first s).append hrest (by omega) (by simp)

theorem Handler.walkEach_tracks (gone : Stmt → Bool) (path : Path) :
    ∀ (first : Nat) (hs : List Handler),
      (Handler.walkEach path first hs).Tracks gone path first
        (first + (hs.map Handler.body).flatten.length) (Handler.survivorsIn gone hs)
  | first, [] => Walk.Tracks.empty path first
  | first, .mk _ _ body :: rest => by
    have hrest := Handler.walkEach_tracks gone path (first + body.length) rest
    rw [Nat.add_assoc] at hrest
    rw [List.map_cons, List.flatten_cons, List.length_append]
    exact (Stmt.walkBlock_tracks gone path first body).append hrest (by omega)
      (Nat.add_le_add_left (Nat.le_add_right _ _) _)

end

end

/-! ## By the tree -/

section

variable {g : Stmt → Option (List Stmt)} (hg : ∀ s new, g s = some new → Stmt.importListIn new = [])
include hg

theorem Replaced.choose_survivors {s : Stmt} {inside : Replaced Stmt} {ss : List Stmt}
    (h : inside.Leaves fun s' => s'.importList = (s :: ss).filter Stmt.isImport) :
    (Replaced.choose (g s) s inside).Leaves fun b => Stmt.importListIn b =
      ((if (g s).isSome then [] else s :: ss).filter Stmt.isImport) := by
  cases hs : g s with
  | some new => exact fun _ => hg s new hs
  | none =>
    intro hfault
    simp only [Replaced.choose, Stmt.importListIn, List.append_nil, Option.isSome_none,
      Bool.false_eq_true, if_false]
    exact h hfault

end

mutual

theorem Stmt.replace_survivors {g : Stmt → Option (List Stmt)}
    (hg : ∀ s new, g s = some new → Stmt.importListIn new = []) :
    ∀ s : Stmt, (s.replace g).Leaves fun b =>
      Stmt.importListIn b = (s.survivors fun t => (g t).isSome).filter Stmt.isImport
  | .function _ body _ => Replaced.choose_survivors hg
      ((Stmt.replaceBlock_survivors hg body).map fun _ h => h)
  | .classDef _ body _ => Replaced.choose_survivors hg
      ((Stmt.replaceBlock_survivors hg body).map fun _ h => h)
  | .tryExcept body handlers orelse finalbody _ => Replaced.choose_survivors hg
      (((((Stmt.replaceBlock_survivors hg body).pair (Handler.replaceBodies_survivors hg handlers)).pair
        (Stmt.replaceBlock_survivors hg orelse)).pair
        (Stmt.replaceBlock_survivors hg finalbody)).map fun _ ⟨⟨⟨hb, hl, hh⟩, ho⟩, hf⟩ => by
          rw [Stmt.importList, Handler.importListIn_eq,
            Handler.rebuild_bodies (List.length_map _) hl, hb, hh, ho, hf]
          simp [Stmt.isImport])
  | .foreign _ | .importNames .. | .importFrom .. | .assign .. | .ret .. | .pass _ | .expr ..
  | .captured .. => Replaced.choose_survivors hg fun _ => rfl

/-- The imports that a pass leaves are those of the survivors, if it puts none in. -/
theorem Stmt.replaceBlock_survivors {g : Stmt → Option (List Stmt)}
    (hg : ∀ s new, g s = some new → Stmt.importListIn new = []) :
    ∀ b : List Stmt, (Stmt.replaceBlock g b).Leaves fun b' =>
      Stmt.importListIn b' = (Stmt.survivorsIn (fun t => (g t).isSome) b).filter Stmt.isImport
  | [] => fun _ => rfl
  | s :: rest => ((Stmt.replace_survivors hg s).pair (Stmt.replaceBlock_survivors hg rest)).map
      fun _ h => by rw [Stmt.importListIn_append, h.1, h.2, Stmt.survivorsIn, List.filter_append]

theorem Handler.replaceBodies_survivors {g : Stmt → Option (List Stmt)}
    (hg : ∀ s new, g s = some new → Stmt.importListIn new = []) :
    ∀ hs : List Handler, (Handler.replaceBodies g hs).Leaves fun bs => bs.length = hs.length ∧
      bs.flatMap Stmt.importListIn =
        (Handler.survivorsIn (fun t => (g t).isSome) hs).filter Stmt.isImport
  | [] => fun _ => ⟨rfl, rfl⟩
  | .mk _ _ body :: rest => ((Stmt.replaceBlock_survivors hg body).pair
      (Handler.replaceBodies_survivors hg rest)).map fun _ h => by
        rw [List.flatMap_cons, h.1, h.2.2, Handler.survivorsIn, List.filter_append]
        exact ⟨by simp [h.2.1], rfl⟩

end

/-! ## Old imports -/

theorem collapse_importListIn {callers notFound : List Text} {function : Text} {s : Stmt}
    {new : List Stmt} (h : collapse callers notFound function s = some new) :
    Stmt.importListIn new = [] := by
  obtain ⟨targets, value, at_, handlers, location, argument, -, -, rfl⟩ := collapse_some h
  rfl

/-- The attached old imports are those in the tree after guarded lookups have collapsed. -/
theorem VersionRun.attached_imports {p : VersionPlan} {targetModule targetFunction : Text}
    {m m' : Module} {report : Option VersionReport}
    (r : VersionRun p targetModule targetFunction m report m') :
    (p.legacy.filter (·.attached)).map (·.stmt) =
      (Stmt.importListIn r.afterCollapse.body).filter (·.takesFrom legacyVersionModule) := by
  obtain ⟨hfault, -, hafter⟩ := replaceStmts_ok r.collapse
  obtain ⟨hwalk, hitems⟩ := Walk.all_ok.1 r.of.walk
  have hsurvivors := Stmt.replaceBlock_survivors (g := p.collapse)
    (fun _ _ h => collapse_importListIn h) m.body hfault
  have htracks := (Stmt.walkBlock_tracks (fun s => (p.collapse s).isSome) [] 0 m.body).unshaded hwalk
  have hunshaded : (unshaded (fun s => (p.collapse s).isSome) p.items).map (·.2) =
      Stmt.survivorsIn (fun s => (p.collapse s).isSome) m.body := by
    rw [← hitems]
    exact htracks
  have htakes : ∀ s : Stmt, (s.takesFrom legacyVersionModule && s.isImport) =
      s.takesFrom legacyVersionModule := fun s => by
    cases h : s.takesFrom legacyVersionModule with
    | false => rfl
    | true => exact Stmt.takesFrom_isImport h
  rw [hafter, Module.replaceStmts, hsurvivors, ← hunshaded, List.filter_filter,
    List.filter_congr fun s _ => htakes s, List.filter_map, unshaded, List.filter_filter,
    VersionPlan.legacy, legacyImports, List.filter_map, List.filter_filter, List.map_map]
  congr 1
  exact List.filter_congr fun i _ => Bool.and_comm ..

end Refactory
