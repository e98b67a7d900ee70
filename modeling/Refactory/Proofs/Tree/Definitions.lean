import Mathlib.Data.List.Infix
import Refactory.Proofs.Tree.Paths

/-! # Names of definitions

The names of definitions are collected by a recursion that enters class bodies alone, while references
come from a walk through everything. Whether the recursion comes to a statement is told by the steps
of its path (`Stmt.entered`): a class has to be entered at each of them (`Stmt.entered_iff`). So the
names are those of the references within classes, in order. Main statement: `Module.names_of_refs`. -/

namespace Refactory

/-- A path leads to a class definition. -/
def Module.HasClassAt (m : Module) (path : Path) : Prop :=
  ∃ s, m.resolve path = .ok s ∧ s.isClass = true

/-- Everything around the place of a path is a class definition. -/
def Module.WithinClasses (m : Module) (path : Path) : Prop :=
  ∀ p, p <+: path → p ≠ [] → p ≠ path → m.HasClassAt p

instance (m : Module) (path : Path) : Decidable (m.HasClassAt path) :=
  match h : m.resolve path with
  | .ok s => decidable_of_iff (s.isClass = true) (by simp [Module.HasClassAt, h])
  | .error _ => isFalse (by simp [Module.HasClassAt, h])

instance (m : Module) (path : Path) : Decidable (m.WithinClasses path) :=
  decidable_of_iff (∀ p ∈ path.inits, p ≠ [] → p ≠ path → m.HasClassAt p)
    (by simp [Module.WithinClasses])

/-- A predicate picks out the definitions of a kind. -/
structure Stmt.Defines (wanted : Stmt → Bool) (kind : NodeKind) : Prop where
  kind : ∀ {s : Stmt}, wanted s = true ↔ s.kind = .ok kind
  named : ∀ {s : Stmt}, wanted s = true → ∃ x, s.name? = some x

theorem Stmt.isFunction_defines : Stmt.Defines Stmt.isFunction .functionDef where
  kind {s} := by cases s <;> simp [Stmt.isFunction, Stmt.kind]
  named {s} h := by
    cases s with
    | function head body location => exact ⟨head.name, rfl⟩
    | _ => cases h

theorem Stmt.isClass_defines : Stmt.Defines Stmt.isClass .classDef where
  kind {s} := by cases s <;> simp [Stmt.isClass, Stmt.kind]
  named {s} h := by
    cases s with
    | classDef head body location => exact ⟨head.name, rfl⟩
    | _ => cases h

/-! ## The way through classes -/

/-- Whether a collection of names that is at a statement goes on to what the steps lead to. -/
def Stmt.entered (nested : Bool) (s : Stmt) : Path → Bool
  | [] => true
  | step :: rest =>
    nested && s.isClass && (Block.child? s.children step).any (Stmt.entered nested · rest)

/-- Whether a collection of names from a block comes to what a path leads to. -/
def Block.entered (nested : Bool) (b : Block) : Path → Bool
  | [] => false
  | step :: rest => (b.child? step).any (Stmt.entered nested · rest)

theorem Stmt.entered_cons (nested : Bool) (s : Stmt) (step : Int) (rest : Path) :
    s.entered nested (step :: rest) =
      (nested && s.isClass && Block.entered nested s.children (step :: rest)) := rfl

/-- A collection with nesting comes to a statement iff each one on the way to it is a class. -/
theorem Stmt.entered_iff {s t : Stmt} {rest : Path} (h : s.descend rest = some t) :
    s.entered true rest = true ↔
      ∀ p, p <+: rest → p ≠ rest → ∃ u, s.descend p = some u ∧ u.isClass = true := by
  induction rest generalizing s with
  | nil => simp [Stmt.entered]
  | cons step rest ih =>
    obtain ⟨c, hc, ht⟩ := Option.bind_eq_some_iff.1 h
    have hbelow (p : Path) : s.descend (step :: p) = c.descend p := by
      rw [Stmt.descend, hc, Option.bind_some]
    rw [Stmt.entered, hc, Option.any_some, Bool.true_and, Bool.and_eq_true, ih ht]
    constructor
    · rintro ⟨hs, hrest⟩ p hp hne
      rcases List.prefix_cons_iff.1 hp with rfl | ⟨q, rfl, hq⟩
      · exact ⟨s, rfl, hs⟩
      · rw [hbelow]
        exact hrest q hq fun heq => hne (heq ▸ rfl)
    · intro hall
      refine ⟨?_, fun p hp hne => ?_⟩
      · obtain ⟨u, hu, hclass⟩ := hall [] List.nil_prefix (List.cons_ne_nil _ _).symm
        cases hu
        exact hclass
      · rw [← hbelow]
        exact hall (step :: p) (List.cons_prefix_cons.2 ⟨rfl, hp⟩) fun heq => hne (List.cons.inj heq).2

/-- A collection without nesting stays where it is. -/
theorem Stmt.entered_false (s : Stmt) (rest : Path) : s.entered false rest = rest.isEmpty := by
  cases rest <;> rfl

namespace Module

variable {m : Module} {path : Path} {t : Stmt}

theorem entered_iff_withinClasses (h : Block.follow m.body path = some t) :
    Block.entered true m.body path = true ↔ m.WithinClasses path := by
  cases path with
  | nil => cases h
  | cons step rest =>
    obtain ⟨c, hc, ht⟩ := Option.bind_eq_some_iff.1 h
    have hbelow (p : Path) (s : Stmt) : m.resolve (step :: p) = .ok s ↔ c.descend p = some s := by
      rw [resolve_iff, Block.follow, hc, Option.bind_some]
    rw [Block.entered, hc, Option.any_some, Stmt.entered_iff ht]
    constructor
    · intro hall p hp hnil hne
      obtain ⟨q, rfl, hq⟩ := (List.prefix_cons_iff.1 hp).resolve_left hnil
      simpa only [HasClassAt, hbelow] using hall q hq fun heq => hne (heq ▸ rfl)
    · intro hall p hp hne
      simpa only [HasClassAt, hbelow] using hall (step :: p) (List.cons_prefix_cons.2 ⟨rfl, hp⟩)
        (List.cons_ne_nil _ _) fun heq => hne (List.cons.inj heq).2

theorem entered_iff_length (h : Block.follow m.body path = some t) :
    Block.entered false m.body path = true ↔ path.length = 1 := by
  cases path with
  | nil => cases h
  | cons step rest =>
    obtain ⟨c, hc, -⟩ := Option.bind_eq_some_iff.1 h
    rw [Block.entered, hc, Option.any_some, Stmt.entered_false, List.isEmpty_iff, List.length_cons]
    simp

end Module

/-! ## Names along a walk -/

section

variable {wanted : Stmt → Bool} {kind : NodeKind} {nested : Bool}

theorem Stmt.definedNames_eq (wanted : Stmt → Bool) (nested : Bool) (s : Stmt) :
    s.definedNames wanted nested = (if wanted s then s.name?.toList else []) ++
      if nested && s.isClass then Stmt.blockNames wanted nested s.children else [] := by
  cases s with
  | classDef head body location => simp [Stmt.definedNames, Stmt.isClass, Stmt.name?, Stmt.children,
      Stmt.blocks]
  | _ => simp [Stmt.definedNames, Stmt.isClass]

theorem Stmt.blockNames_eq (wanted : Stmt → Bool) (nested : Bool) (b : List Stmt) :
    Stmt.blockNames wanted nested b = b.flatMap (·.definedNames wanted nested) := by
  induction b with
  | nil => rfl
  | cons s b ih => rw [Stmt.blockNames, ih, List.flatMap_cons]

/-- The names that are given on a walk below `path` for what is wanted and can be entered. -/
def Walk.names (wanted : Stmt → Bool) (path : Path) (enter : Path → Bool) (w : Walk (Path × Stmt)) :
    List (Option Text) :=
  (w.items.filter fun i => wanted i.2 && enter (i.1.drop path.length)).map (·.2.name?)

/-- A collection over a block gives the names along a walk over it if those over its statements do. -/
theorem Stmt.blockNames_walkBlock (path : Path) {b : List Stmt}
    (h : ∀ t ∈ Stmt.nodesIn b, t.isNode = true)
    (hwalk : ∀ c ∈ b, ∀ p, (c.definedNames wanted nested).map some =
      (c.walkAt p).names wanted p (c.entered nested)) :
    (Stmt.blockNames wanted nested b).map some =
      (Stmt.walkBlock path 0 b).names wanted path (Block.entered nested b) := by
  have hchild : ∀ x ∈ b.zipIdx, (x.1.definedNames wanted nested).map some =
      ((x.1.walkAt (path ++ [(x.2 : Int)])).items.filter fun i =>
        wanted i.2 && Block.entered nested b (i.1.drop path.length)).map (·.2.name?) := by
    rintro ⟨c, k⟩ hx
    have hget : b[k]? = some c := List.mem_zipIdx_iff_getElem?.1 hx
    have hc := List.mem_of_getElem? hget
    have hnodes : ∀ u ∈ c.nodes, u.isNode = true := fun u hu => h u (Stmt.mem_nodesIn hc hu)
    rw [hwalk c hc (path ++ [(k : Int)]), Walk.names]
    refine congrArg (List.map _) (List.filter_congr ?_)
    rintro ⟨p, t⟩ hmem
    obtain ⟨rest, rfl, -⟩ := (Stmt.mem_walkAt c _ p t hnodes).1 hmem
    simp [List.append_assoc, Block.entered, hget]
  calc (Stmt.blockNames wanted nested b).map some
      = b.zipIdx.flatMap fun x => (x.1.definedNames wanted nested).map some := by
        rw [Stmt.blockNames_eq, List.map_flatMap]
        conv_lhs => rw [← List.zipIdx_map_fst 0 b]
        rw [List.flatMap_map]
    _ = (Stmt.walkBlock path 0 b).names wanted path (Block.entered nested b) := by
        rw [Walk.names, Stmt.walkBlock_items path 0 h, List.filter_flatMap, List.map_flatMap]
        exact List.flatMap_congr hchild

/-- A collection from a statement gives the names along a walk for what it enters. -/
theorem Stmt.definedNames_walkAt (hw : Stmt.Defines wanted kind) : ∀ s : Stmt,
    (∀ t ∈ s.nodes, t.isNode = true) → ∀ path : Path, (s.definedNames wanted nested).map some =
      (s.walkAt path).names wanted path (s.entered nested) := by
  refine Stmt.induct_children fun s ih h path => ?_
  rw [Stmt.nodes_children, List.forall_mem_cons] at h
  have hblock := Stmt.blockNames_walkBlock path h.2 fun c hc =>
    ih c hc fun u hu => h.2 u (Stmt.mem_nodesIn hc hu)
  have hown : (if wanted s then s.name?.toList else []).map some =
      if wanted s then [s.name?] else [] := by
    split
    · rename_i hwanted
      obtain ⟨x, hx⟩ := hw.named hwanted
      rw [hx]
      rfl
    · rfl
  -- Below a statement the path has a step, so the statement itself has to be entered first.
  have hinside : (Stmt.walkBlock path 0 s.children).names wanted path (s.entered nested) =
      if nested && s.isClass then (Stmt.blockNames wanted nested s.children).map some else [] := by
    have hsteps : (Stmt.walkBlock path 0 s.children).names wanted path (s.entered nested) =
        (Stmt.walkBlock path 0 s.children).names wanted path fun p =>
          nested && s.isClass && Block.entered nested s.children p := by
      refine congrArg (List.map _) (List.filter_congr ?_)
      rintro ⟨p, t⟩ hmem
      obtain ⟨k, rest, -, rfl⟩ := Stmt.mem_walkBlock h.2 hmem
      rw [List.drop_left, Stmt.entered_cons]
    rw [hsteps, hblock]
    cases nested && s.isClass <;> simp [Walk.names]
  calc (s.definedNames wanted nested).map some
      = (if wanted s then [s.name?] else []) ++
          if nested && s.isClass then (Stmt.blockNames wanted nested s.children).map some else [] := by
        rw [Stmt.definedNames_eq, List.map_append, hown, apply_ite (List.map some), List.map_nil]
    _ = (s.walkAt path).names wanted path (s.entered nested) := by
        rw [← hinside, Stmt.walkAt_eq path h.1]
        cases hwanted : wanted s <;> simp [Walk.names, Walk.cons, hwanted, Stmt.entered]

/-- What a reference tells about the statement that it is made for. -/
theorem Ref.of_ok {path : Path} {s : Stmt} {r : Ref} :
    Ref.of path s = .ok r ↔ s.kind = .ok r.kind ∧ r.path = path ∧ r.name = s.name? ∧
      r.location = s.location := by
  constructor
  · intro h
    obtain ⟨k, hk, hr⟩ := bind_ok.1 h
    cases hr
    exact ⟨hk, rfl, rfl, rfl⟩
  · rintro ⟨hk, rfl, hname, hlocation⟩
    exact bind_ok.2 ⟨r.kind, hk, by rw [← hname, ← hlocation]; rfl⟩

/-- The names in references of a kind are those of the statements that the references are made for. -/
theorem Ref.filter_names (hw : Stmt.Defines wanted kind) (keep : Path → Bool)
    {items : List (Path × Stmt)} {refs : List Ref}
    (h : items.map (fun i => Ref.of i.1 i.2) = refs.map .ok) :
    (refs.filter fun r => keep r.path && kind == r.kind).map Ref.name =
      (items.filter fun i => wanted i.2 && keep i.1).map (·.2.name?) := by
  induction items generalizing refs with
  | nil =>
    cases List.map_eq_nil_iff.1 h.symm
    rfl
  | cons i items ih =>
    obtain ⟨r, rest, rfl, hr, hrest⟩ := List.map_eq_cons_iff.1 h.symm
    obtain ⟨hkind, hpath, hname, -⟩ := Ref.of_ok.1 hr.symm
    have hkept : (keep r.path && kind == r.kind) = (wanted i.2 && keep i.1) := by
      have hwanted : (kind == r.kind) = wanted i.2 := by
        rw [Bool.eq_iff_iff, beq_iff_eq, hw.kind, hkind, Except.ok.injEq, eq_comm]
      rw [hwanted, hpath, Bool.and_comm]
    rw [List.filter_cons, List.filter_cons, hkept]
    split
    · rw [List.map_cons, List.map_cons, hname, ih hrest.symm]
    · exact ih hrest.symm

end

/-! ## Names and references -/

namespace Module

variable {m : Module}

/-- The names of the definitions of a kind are those of the references that a collection comes to. -/
theorem blockNames_of_refs {wanted : Stmt → Bool} {kind : NodeKind} (hw : Stmt.Defines wanted kind)
    (h : ∀ s ∈ Stmt.nodesIn m.body, s.isNode = true) {refs : List Ref}
    (hrefs : findNodes m (some kind) = .ok refs) (nested : Bool) :
    (Stmt.blockNames wanted nested m.body).map some =
      (refs.filter fun r => Block.entered nested m.body r.path).map Ref.name := by
  obtain ⟨all, hall, hfilter⟩ := bind_ok.1 hrefs
  cases hfilter
  have hchild : ∀ c ∈ m.body, ∀ p, (c.definedNames wanted nested).map some =
      (c.walkAt p).names wanted p (c.entered nested) := fun c hc =>
    Stmt.definedNames_walkAt hw c fun u hu => h u (Stmt.mem_nodesIn hc hu)
  rw [Stmt.blockNames_walkBlock [] h hchild, List.filter_filter]
  exact (Ref.filter_names hw _ (Walk.collect_ok.1 hall).1).symm

/-- The names of the definitions of a kind, within classes and at the top. -/
theorem names_of_kind {wanted : Stmt → Bool} {kind : NodeKind} (hw : Stmt.Defines wanted kind)
    (h : ∀ s ∈ Stmt.nodesIn m.body, s.isNode = true) :
    ∃ refs, findNodes m (some kind) = .ok refs ∧
      (Stmt.blockNames wanted true m.body).map some =
        (refs.filter fun r => m.WithinClasses r.path).map Ref.name ∧
      (Stmt.blockNames wanted false m.body).map some =
        (refs.filter fun r => r.depth = 0).map Ref.name := by
  obtain ⟨refs, hrefs⟩ := findNodes_exists h (some kind)
  refine ⟨refs, hrefs, ?_, ?_⟩
  · rw [blockNames_of_refs hw h hrefs]
    refine congrArg (List.map _) (List.filter_congr fun r hr => ?_)
    obtain ⟨s, hs, -⟩ := mem_findNodes hrefs hr
    rw [Bool.eq_iff_iff, entered_iff_withinClasses ((mem_walk h).1 hs), decide_eq_true_iff]
  · rw [blockNames_of_refs hw h hrefs]
    refine congrArg (List.map _) (List.filter_congr fun r hr => ?_)
    obtain ⟨s, hs, -⟩ := mem_findNodes hrefs hr
    rw [Bool.eq_iff_iff, entered_iff_length ((mem_walk h).1 hs), decide_eq_true_iff, Ref.depth]
    omega

/-- The names of functions and of classes are those of the references to them, in the same order: with
nesting, of the references whose paths lead through classes alone, and without, of those at the top. -/
theorem names_of_refs (h : ∀ s ∈ Stmt.nodesIn m.body, s.isNode = true) :
    ∃ functions classes, findNodes m (some .functionDef) = .ok functions ∧
      findNodes m (some .classDef) = .ok classes ∧
      (m.functionNames true).map some =
        (functions.filter fun r => m.WithinClasses r.path).map Ref.name ∧
      (m.classNames true).map some =
        (classes.filter fun r => m.WithinClasses r.path).map Ref.name ∧
      (m.functionNames false).map some = (functions.filter fun r => r.depth = 0).map Ref.name ∧
      (m.classNames false).map some = (classes.filter fun r => r.depth = 0).map Ref.name := by
  obtain ⟨functions, hfunctions, hmethods, hplain⟩ := names_of_kind Stmt.isFunction_defines h
  obtain ⟨classes, hclasses, hinner, houter⟩ := names_of_kind Stmt.isClass_defines h
  exact ⟨functions, classes, hfunctions, hclasses, hmethods, hinner, hplain, houter⟩

/-- A class in a class, and functions in a class, in a function and in a `try` statement. -/
theorem names_of_refs_sample :
    let m : Module := ⟨[
      .classDef ⟨"A", [], [], []⟩ [.classDef ⟨"B", [], [], []⟩
        [.function ⟨"f", [], none, [], false⟩ [.function ⟨"g", [], none, [], false⟩ [] none] none]
        none] none,
      .tryExcept [.function ⟨"h", [], none, [], false⟩ [] none] [] [] [] none,
      .function ⟨"k", [], none, [], false⟩ [.classDef ⟨"C", [], [], []⟩ [] none] none]⟩
    (∀ s ∈ Stmt.nodesIn m.body, s.isNode = true) ∧
    ∃ functions, findNodes m (some .functionDef) = .ok functions ∧
      functions.map Ref.path = [[0, 0, 0], [0, 0, 0, 0], [1, 0], [2]] ∧
      (functions.filter fun r => m.WithinClasses r.path).map Ref.name =
        [some ("f" : Text), some ("k" : Text)] := by
  intro m
  have h : ∀ s ∈ Stmt.nodesIn m.body, s.isNode = true := by decide
  obtain ⟨functions, -, hfunctions, -, hnames, -⟩ := names_of_refs h
  refine ⟨h, functions, hfunctions, ?_, hnames.symm.trans rfl⟩
  have hpaths : (findNodes m (some .functionDef)).map (List.map Ref.path) =
      .ok [[0, 0, 0], [0, 0, 0, 0], [1, 0], [2]] := rfl
  rw [hfunctions] at hpaths
  exact Except.ok.inj hpaths

end Module

end Refactory
