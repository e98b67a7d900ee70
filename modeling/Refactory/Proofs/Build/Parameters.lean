import Refactory.Proofs.Build.Ensures
import Refactory.Build
import Refactory.Proofs.Rewrite.Perform

/-! # Parameter lists that are built

The parameters of a function come in the order of their kinds (`KindOrdered`), and the defaults of the
positional ones belong to the last of them: the one with the number `i` has its default by
`lastDefault`. Main statement: `Grammar.Params.toParams_places`. -/

namespace Refactory

/-! ## The order of kinds -/

/-- The number of a kind in the order in which a parameter list has them. -/
def ParamKind.rank : ParamKind → Nat
  | .positionalOnly => 0
  | .positional => 1
  | .varPositional => 2
  | .keywordOnly => 3
  | .varKeyword => 4

/-- Whether a parameter of one kind can stand before one of another: the kinds have their order, and
there is only one parameter that takes the rest of the arguments of a sort. -/
def ParamKind.Before (k l : ParamKind) : Prop :=
  k.rank < l.rank ∨ k = l ∧ k ≠ .varPositional ∧ k ≠ .varKeyword

/-- The parameters of a list come in the order of their kinds. -/
def KindOrdered (ps : List Param) : Prop := (ps.map Param.kind).Pairwise ParamKind.Before

theorem ParamKind.before_positionalOnly {k : ParamKind} :
    k.Before .positionalOnly ↔ k = .positionalOnly := by
  cases k <;> simp [Before, rank]

theorem ParamKind.not_varKeyword_before {l : ParamKind} : ¬ ParamKind.varKeyword.Before l := by
  cases l <;> simp [Before, rank]

/-- Behind a parameter that takes the rest of the positional arguments, or follows one, names are passed
by keyword. -/
theorem ParamKind.Before.varPositional_lt {k l : ParamKind} (h : k.Before l)
    (hk : ParamKind.varPositional.rank ≤ k.rank) : ParamKind.varPositional.rank < l.rank := by
  revert h hk
  cases k <;> cases l <;> simp [Before, rank]

/-- Behind a parameter that is not positional-only, there is none that is. -/
theorem KindOrdered.not_positionalOnly {ps : List Param} (h : KindOrdered ps)
    (hhead : ps.head?.map Param.kind ≠ some .positionalOnly) :
    ∀ q ∈ ps, q.kind ≠ .positionalOnly := by
  cases ps with
  | nil => nofun
  | cons p ps =>
    rw [List.head?_cons, Option.map_some, ne_eq, Option.some.injEq] at hhead
    refine List.forall_mem_cons.2 ⟨hhead, fun q hq hkind => hhead ?_⟩
    have hbefore := (List.pairwise_cons.1 h).1 q.kind (List.mem_map_of_mem hq)
    rw [hkind] at hbefore
    exact ParamKind.before_positionalOnly.1 hbefore

theorem pairwise_before_replicate {n : Nat} {k : ParamKind} (h : k ≠ .varPositional)
    (h' : k ≠ .varKeyword) : (List.replicate n k).Pairwise ParamKind.Before :=
  List.pairwise_replicate.2 (.inr (.inr ⟨rfl, h, h'⟩))

namespace Grammar

/-! ## Parameters and defaults -/

/-- A parameter before its conversion: its name with the annotation, its kind and its default. -/
structure Place where
  name : ParamName
  kind : ParamKind
  default : Option Term

/-- The default of the parameter with the number `i` among `count` ones, of which the last have the
defaults. -/
def lastDefault {α : Type} (count : Nat) (defaults : List α) (i : Nat) : Option α :=
  if i + defaults.length < count then none else defaults[i + defaults.length - count]?

/-- Positional parameters of their kinds, with the defaults at the last of them. -/
def positionalPlaces (named : List (ParamName × ParamKind)) (defaults : List Term) : List Place :=
  named.mapIdx fun i n => ⟨n.1, n.2, lastDefault named.length defaults i⟩

/-- The parameters of a list in the order of their kinds. -/
def Params.places : Params → List Place
  | .mk positionalOnly positional varPositional keywordOnly keywordDefaults varKeyword defaults =>
    positionalPlaces (positionalOnly.map (·, ParamKind.positionalOnly) ++
      positional.map (·, ParamKind.positional)) defaults ++
    varPositional.toList.map (⟨·, .varPositional, none⟩) ++
    (keywordOnly.zip keywordDefaults).map (fun n => ⟨n.1, .keywordOnly, n.2⟩) ++
    varKeyword.toList.map (⟨·, .varKeyword, none⟩)

/-- The parameter that becomes of a place. -/
def Place.toParam (o : Origin) (x : Place) : Except Fault Param := x.name.toParam o x.kind x.default

theorem alignDefaults_get {α : Type} {count : Nat} {defaults : List α}
    (h : defaults.length ≤ count) (i : Nat) (hi : i < count) :
    (alignDefaults count defaults)[i]? = some (lastDefault count defaults i) := by
  rw [alignDefaults, lastDefault]
  split
  · rw [List.getElem?_append_left (by rw [List.length_replicate]; omega),
      List.getElem?_replicate, if_pos (by omega)]
  · have hindex : i - (List.replicate (count - defaults.length) (none : Option α)).length =
        i + defaults.length - count := by
      rw [List.length_replicate]
      omega
    have hlt : i + defaults.length - count < defaults.length := by omega
    rw [List.getElem?_append_right (by rw [List.length_replicate]; omega), hindex,
      List.getElem?_map, List.getElem?_eq_getElem hlt]
    rfl

/-- Putting the defaults beside the parameters gives each its own. -/
theorem zip_alignDefaults {α β : Type} {names : List β} {defaults : List α}
    (h : defaults.length ≤ names.length) :
    names.zip (alignDefaults names.length defaults) =
      names.mapIdx fun i name => (name, lastDefault names.length defaults i) := by
  refine List.ext_getElem? fun i => ?_
  rw [List.getElem?_mapIdx, List.zip_eq_zipWith, List.getElem?_zipWith]
  cases hname : names[i]? with
  | none => rfl
  | some name =>
    rw [alignDefaults_get h i (List.getElem?_eq_some_iff.1 hname).1]
    rfl

section

variable {o : Origin} {ps : Params}

/-- Positional parameters are built with the defaults of their places. -/
theorem positionalPlaces_toParam {named : List (ParamName × ParamKind)} {defaults : List Term}
    (h : defaults.length ≤ named.length) :
    (named.zip (alignDefaults named.length defaults)).mapM
      (fun ((name, kind), default) => name.toParam o kind default) =
      (positionalPlaces named defaults).mapM (·.toParam o) := by
  have hplaces : positionalPlaces named defaults =
      (named.zip (alignDefaults named.length defaults)).map fun x => ⟨x.1.1, x.1.2, x.2⟩ := by
    rw [zip_alignDefaults h, positionalPlaces]
    exact List.ext_getElem? fun i => by simp [Option.map_map, Function.comp_def]
  rw [hplaces, List.mapM_map]
  rfl

/-- Building a parameter list is building the parameters of its places one after the other. -/
theorem Params.toParams_places (h : ps.Aligned) : ps.toParams o = ps.places.mapM (·.toParam o) := by
  obtain ⟨positionalOnly, positional, varPositional, keywordOnly, keywordDefaults, varKeyword,
    defaults⟩ := ps
  have hdefaults : defaults.length ≤ (positionalOnly.map (·, ParamKind.positionalOnly) ++
      positional.map (·, ParamKind.positional)).length := by
    rw [List.length_append, List.length_map, List.length_map]
    exact h.1
  rw [Params.toParams, Params.places]
  dsimp only
  rw [positionalPlaces_toParam hdefaults]
  simp only [List.mapM_append, List.mapM_map, bind_assoc, pure_bind]
  rfl

theorem ParamName.toParam_kind {kind : ParamKind} {default : Option Term} {n : ParamName} {p : Param}
    (h : n.toParam o kind default = .ok p) : p.kind = kind := by
  cases n with
  | mk name hint =>
    obtain ⟨a, -, h⟩ := bind_ok.1 h
    obtain ⟨d, -, h⟩ := bind_ok.1 h
    cases h
    rfl

theorem positionalPlaces_kind (named : List (ParamName × ParamKind)) (defaults : List Term) :
    (positionalPlaces named defaults).map Place.kind = named.map (·.2) := by
  rw [positionalPlaces]
  exact List.ext_getElem? fun i => by simp [Option.map_map, Function.comp_def]

theorem Params.places_ordered (ps : Params) :
    (ps.places.map Place.kind).Pairwise ParamKind.Before := by
  obtain ⟨positionalOnly, positional, varPositional, keywordOnly, keywordDefaults, varKeyword,
    defaults⟩ := ps
  have hkinds : (Params.mk positionalOnly positional varPositional keywordOnly keywordDefaults
      varKeyword defaults).places.map Place.kind =
      List.replicate positionalOnly.length ParamKind.positionalOnly ++
      List.replicate positional.length ParamKind.positional ++
      varPositional.toList.map (fun _ => ParamKind.varPositional) ++
      List.replicate (keywordOnly.zip keywordDefaults).length ParamKind.keywordOnly ++
      varKeyword.toList.map fun _ => ParamKind.varKeyword := by
    rw [Params.places]
    simp only [List.map_append, positionalPlaces_kind, List.map_map, Function.comp_def,
      List.map_const']
  have hsingle {n : Option ParamName} {k : ParamKind} :
      (n.toList.map fun _ => k).Pairwise ParamKind.Before := by
    cases n with
    | none => exact .nil
    | some n => exact List.pairwise_singleton _ _
  rw [hkinds]
  simp only [List.pairwise_append, List.mem_append, List.mem_replicate, List.mem_map]
  refine ⟨⟨⟨⟨pairwise_before_replicate (by decide) (by decide),
    pairwise_before_replicate (by decide) (by decide), ?_⟩, hsingle, ?_⟩,
    pairwise_before_replicate (by decide) (by decide), ?_⟩, hsingle, ?_⟩
  · rintro _ ⟨-, rfl⟩ _ ⟨-, rfl⟩
    exact .inl (by decide)
  · rintro _ (⟨-, rfl⟩ | ⟨-, rfl⟩) _ ⟨_, -, rfl⟩ <;> exact .inl (by decide)
  · rintro _ ((⟨-, rfl⟩ | ⟨-, rfl⟩) | ⟨_, -, rfl⟩) _ ⟨-, rfl⟩ <;> exact .inl (by decide)
  · rintro _ (((⟨-, rfl⟩ | ⟨-, rfl⟩) | ⟨_, -, rfl⟩) | ⟨-, rfl⟩) _ ⟨_, -, rfl⟩ <;>
      exact .inl (by decide)

theorem Place.toParam_kinds {places : List Place} {params : List Param}
    (h : places.mapM (·.toParam o) = .ok params) :
    params.map Param.kind = places.map Place.kind := by
  induction places generalizing params with
  | nil =>
    cases h
    rfl
  | cons x places ih =>
    rw [List.mapM_cons] at h
    obtain ⟨p, hp, h⟩ := bind_ok.1 h
    obtain ⟨ps, hps, h⟩ := bind_ok.1 h
    cases h
    rw [List.map_cons, List.map_cons, ParamName.toParam_kind hp, ih hps]

/-- The parameters that are built come in the order of their kinds. -/
theorem Params.toParams_ordered (h : ps.Aligned) {params : List Param}
    (hps : ps.toParams o = .ok params) : KindOrdered params := by
  rw [Params.toParams_places h] at hps
  rw [KindOrdered, Place.toParam_kinds hps]
  exact ps.places_ordered

end

end Grammar

end Refactory
