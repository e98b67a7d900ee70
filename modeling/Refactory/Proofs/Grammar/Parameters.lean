import Refactory.Proofs.Grammar.ParamItems

/-! # Parameter lists are read back

The items of a parameter list are read one after the other (`TakesParams`), a slash behind the last of
the positional-only parameters and a star in front of the first of the keyword-only ones. Main
statement: `params_takes`, what has been read is converted to the parameters that were written. -/

namespace Refactory

open Grammar Inks

/-- A parameter has its place between others and can be read by itself. -/
structure Param.Placed (mode : RenderMode) (depth : Nat) (done : List Param) (p : Param) (ps : List Param) : Prop where
  earlier : ∀ x ∈ done, x.Precedes p
  later : ∀ x ∈ ps, p.Precedes x
  regular : p.isRegular mode = true
  depth_le : (marks p.inks).length ≤ depth

namespace Grammar

variable {mode : RenderMode} {p : Param} {after : List Mark} {depth : Nat}

/-! ## Items -/

section

variable {ps : List Param}

theorem head_param_ne (p : Param) (ms : List Mark) (text : String) :
    next? (marks p.inks ++ ms) ≠ some (.symbol text) := by
  rw [marks_param]
  simp

theorem inksEach_positional (sawStar : Bool) (hkind : p.kind = .positional) :
    Param.inksEach sawStar (p :: ps) = p.inks :: Param.inksEach sawStar ps := by
  simp [Param.inksEach, hkind]

theorem inksEach_positionalOnly (sawStar : Bool) (hkind : p.kind = .positionalOnly) :
    Param.inksEach sawStar (p :: ps) =
      p.inks :: ((if ps.head?.map Param.kind = some .positionalOnly then [] else [[.symbol "/"]]) ++
        Param.inksEach sawStar ps) := by
  split_ifs with hnext <;> simp [Param.inksEach, hkind, hnext]

theorem inksEach_varPositional (sawStar : Bool) (hkind : p.kind = .varPositional) :
    Param.inksEach sawStar (p :: ps) = (.symbol "*" :: p.inks) :: Param.inksEach true ps := by
  simp [Param.inksEach, hkind]

theorem inksEach_keywordOnly (sawStar : Bool) (hkind : p.kind = .keywordOnly) :
    Param.inksEach sawStar (p :: ps) =
      (if sawStar then [] else [[.symbol "*"]]) ++ p.inks :: Param.inksEach true ps := by
  simp [Param.inksEach, hkind]

theorem inksEach_varKeyword (sawStar : Bool) (hkind : p.kind = .varKeyword) :
    Param.inksEach sawStar (p :: ps) = (.symbol "**" :: p.inks) :: Param.inksEach sawStar ps := by
  simp [Param.inksEach, hkind]

theorem length_le_itemMarks (after : List Mark) (xs : List (List Mark)) :
    xs.length ≤ (itemMarks after xs).length := by
  cases xs with
  | nil => exact Nat.zero_le _
  | cons x xs =>
    have hle : xs.length ≤ (xs.flatMap (.symbol "," :: ·)).length := by
      induction xs with
      | nil => exact Nat.le_refl 0
      | cons y ys ih =>
        rw [List.flatMap_cons, List.length_append, List.length_cons, List.length_cons]
        omega
    simp only [itemMarks, List.length_append, List.length_cons]
    omega

end

/-! ## Lists that are related -/

theorem mapM_of_forall₂ {α β : Type} {f : α → Except Fault β} {as : List α} {bs : List β}
    (h : List.Forall₂ (fun b a => f a = .ok b) bs as) : as.mapM f = .ok bs := by
  rw [mapM_ok, ← List.forall₂_eq_eq_eq, List.forall₂_map_left_iff, List.forall₂_map_right_iff]
  exact h.flip

theorem forall₂_zip_right {α β γ : Type} {R : α → β → Prop} {S : α → γ → Prop} {as : List α}
    {bs : List β} {cs : List γ} (h : List.Forall₂ R as bs) (h' : List.Forall₂ S as cs) :
    List.Forall₂ (fun a x => R a x.1 ∧ S a x.2) as (bs.zip cs) := by
  induction h generalizing cs with
  | nil => exact .nil
  | cons hr _ ih =>
    cases h' with
    | cons hs h' => exact .cons ⟨hr, hs⟩ (ih h')

/-! ## One parameter after the other -/

variable [Setting]

section

variable {q : ParamsSoFar} {done ps : List Param} {fuel : Nat}

/-- Wherever the reader stands between parameters, it reads the items of those that come. -/
def TakesParams (depth : Nat) (after : List Mark) (done ps : List Param) : Prop :=
  ∀ q fuel, q.Between done ps → (Param.inksEach q.star ps).length < fuel →
    Takes (paramItems (deepReaders depth) true ")" fuel q)
      (itemMarks after ((Param.inksEach q.star ps).map marks)) fun q' ms' =>
        q'.Between (done ++ ps) [] ∧ ms' = .symbol ")" :: after

/-- Behind what is read for a parameter, the others are read. -/
theorem TakesParams.next (h : TakesParams depth after (done ++ [p]) ps)
    (hq : q.Between (done ++ [p]) ps) (hfuel : (Param.inksEach q.star ps).length < fuel) :
    Takes (paramItems (deepReaders depth) true ")" fuel q)
      (itemMarks after ((Param.inksEach q.star ps).map marks)) fun q' ms' =>
        q'.Between (done ++ p :: ps) [] ∧ ms' = .symbol ")" :: after := by
  rw [List.append_cons]
  exact h q fuel hq hfuel

theorem ParamsSoFar.Are.none_before (hq : q.Are done) (h : p.Placed mode depth done ps) :
    q.varKeyword = none :=
  hq.varKeyword_none fun x hx heq => ParamKind.not_varKeyword_before (heq ▸ (h.earlier x hx).1)

theorem TakesParams.positional (h : TakesParams depth after (done ++ [p]) ps)
    (hp : p.Placed mode depth done ps) (hkind : p.kind = .positional) :
    TakesParams depth after done (p :: ps) := by
  intro q fuel hq hfuel
  have hstar := hq.star_false hp.earlier (by rw [hkind]; decide)
  rw [inksEach_positional _ hkind, List.length_cons] at hfuel
  rw [inksEach_positional _ hkind]
  obtain ⟨fuel, rfl⟩ := Nat.exists_eq_add_of_le' (show 2 ≤ fuel by omega)
  refine paramItems_cons (head_param_ne _ _ _) (hq.takes_positional hp.earlier
    (hq.none_before hp) hp.regular (by rw [hkind]; rfl) hp.depth_le (parted_rest _).1
    (parted_rest _).2) fun q' ⟨hare, hstar', hslash, _⟩ => ?_
  rw [hstar, ← hstar'] at hfuel ⊢
  refine h.next ⟨hare, ?_, ?_⟩ (by omega)
  · rw [hstar', List.any_append, ← hq.star, hstar]
    simp [hkind, ParamKind.isStarred]
  · rw [hslash]
    exact hq.slash_next (by simp [hkind]) hp.later

/-- The slash is behind the last of the positional-only parameters. -/
theorem TakesParams.positionalOnly (h : TakesParams depth after (done ++ [p]) ps)
    (hp : p.Placed mode depth done ps) (hkind : p.kind = .positionalOnly) :
    TakesParams depth after done (p :: ps) := by
  intro q fuel hq hfuel
  have hstar := hq.star_false hp.earlier (by rw [hkind]; decide)
  have hearlier : ∀ x ∈ done ++ [p], x.kind = .positionalOnly :=
    List.forall_mem_append.2 ⟨fun x hx =>
      ParamKind.before_positionalOnly.1 (hkind ▸ (hp.earlier x hx).1),
      List.forall_mem_singleton.2 hkind⟩
  have hnone : (done ++ [p]).any (·.kind.isStarred) = false := List.any_eq_false.2 fun x hx => by
    rw [hearlier x hx]
    decide
  rw [inksEach_positionalOnly _ hkind, List.length_cons] at hfuel
  rw [inksEach_positionalOnly _ hkind]
  obtain ⟨fuel, rfl⟩ := Nat.exists_eq_add_of_le' (show 2 ≤ fuel by omega)
  refine paramItems_cons (head_param_ne _ _ _) (hq.takes_positional hp.earlier
    (hq.none_before hp) hp.regular (by rw [hkind]; rfl) hp.depth_le (parted_rest _).1
    (parted_rest _).2) fun q' ⟨hare, hstar', hslash, hkeyword, hpositional⟩ => ?_
  rw [hq.slash, List.head?_cons, Option.map_some, hkind, bne_self_eq_false, Bool.and_false] at hslash
  rw [hstar, ← hstar'] at hfuel ⊢
  split_ifs at hfuel ⊢ with hnext
  · refine h.next ⟨hare, ?_, ?_⟩ (by simpa using hfuel)
    · rw [hstar', hnone]
    · rw [hslash, hnext, bne_self_eq_false, Bool.and_false]
  · rw [List.length_append, List.length_singleton] at hfuel
    obtain ⟨fuel, rfl⟩ := Nat.exists_eq_add_one_of_ne_zero (show fuel ≠ 0 by omega)
    refine paramItems_cons (symbol_head_ne (by decide) _)
      (paramItem_slash hkeyword hslash hstar' hpositional) fun q'' hq'' => ?_
    have hstar'' : q''.star = q'.star := by rw [hq'']
    rw [← hstar'']
    refine h.next ⟨hq'' ▸ hare.addSlash hslash hearlier, ?_, ?_⟩ ?_
    · rw [hstar'', hstar', hnone]
    · rw [hq'', bne_iff_ne.2 hnext, Bool.and_true]
      simp [hkind]
    · rw [hstar'']
      omega

theorem TakesParams.varPositional (h : TakesParams depth after (done ++ [p]) ps)
    (hp : p.Placed mode depth done ps) (hkind : p.kind = .varPositional) :
    TakesParams depth after done (p :: ps) := by
  intro q fuel hq hfuel
  rw [inksEach_varPositional _ hkind, List.length_cons] at hfuel
  rw [inksEach_varPositional _ hkind]
  obtain ⟨fuel, rfl⟩ := Nat.exists_eq_add_of_le' (show 2 ≤ fuel by omega)
  refine paramItems_cons (symbol_head_ne (by decide) _) (hq.takes_varPositional hp.earlier hp.later
    (hq.none_before hp) hp.regular hkind hp.depth_le (parted_rest _).1)
    fun q' ⟨hq', hstar⟩ => ?_
  have hfuel' : (Param.inksEach q'.star ps).length < fuel + 1 := by
    rw [hstar]
    omega
  have htakes := h.next hq' hfuel'
  rwa [hstar] at htakes

/-- A star of its own is in front of keyword-only parameters, unless one has been read. -/
theorem TakesParams.keywordOnly (h : TakesParams depth after (done ++ [p]) ps)
    (hp : p.Placed mode depth done ps) (hkind : p.kind = .keywordOnly) :
    TakesParams depth after done (p :: ps) := by
  have hstarred : ∀ {q : ParamsSoFar} {fuel : Nat}, q.Are done → q.star = true →
      q.slash = ((done ++ [p]).any (·.kind == .positionalOnly) &&
        ps.head?.map Param.kind != some .positionalOnly) →
      (Param.inksEach true ps).length < fuel + 1 →
      Takes (paramItems (deepReaders depth) true ")" (fuel + 2) q)
        (itemMarks after ((p.inks :: Param.inksEach true ps).map marks)) fun q' ms' =>
          q'.Between (done ++ p :: ps) [] ∧ ms' = .symbol ")" :: after := by
    intro q fuel hare hstar hslash hfuel
    refine paramItems_cons (head_param_ne _ _ _) (hare.takes_keywordOnly hstar hslash
      (hare.none_before hp) hp.regular hkind hp.depth_le (parted_rest _).1 (parted_rest _).2)
      fun q' ⟨hq', hstar'⟩ => ?_
    have htakes := h.next hq' (hstar' ▸ hfuel)
    rwa [hstar'] at htakes
  intro q fuel hq hfuel
  have hslash := hq.slash_next (by simp [hkind]) hp.later
  rw [inksEach_keywordOnly _ hkind, List.length_append, List.length_cons] at hfuel
  rw [inksEach_keywordOnly _ hkind]
  cases hstar : q.star with
  | true =>
    obtain ⟨fuel, rfl⟩ := Nat.exists_eq_add_of_le' (show 2 ≤ fuel by omega)
    exact hstarred hq.toAre hstar hslash (by omega)
  | false =>
    rw [hstar, if_neg Bool.false_ne_true, List.length_singleton] at hfuel
    obtain ⟨fuel, rfl⟩ := Nat.exists_eq_add_of_le' (show 3 ≤ fuel by omega)
    refine paramItems_cons (x := [.symbol "*"]) (symbol_head_ne (by decide) _)
      (paramItem_star (hq.none_before hp) hstar) fun q' hq' => ?_
    have hare : q'.Are done := hq' ▸ ⟨hq.positionalOnly, hq.positional, hq.defaults,
      hq.varPositional, hq.keywordOnly, hq.keywordDefaults, hq.varKeyword⟩
    exact hstarred hare (by rw [hq']) (by rw [hq']; exact hslash) (by omega)

theorem TakesParams.varKeyword (h : TakesParams depth after (done ++ [p]) ps)
    (hp : p.Placed mode depth done ps) (hkind : p.kind = .varKeyword) :
    TakesParams depth after done (p :: ps) := by
  intro q fuel hq hfuel
  rw [inksEach_varKeyword _ hkind, List.length_cons] at hfuel
  rw [inksEach_varKeyword _ hkind]
  obtain ⟨fuel, rfl⟩ := Nat.exists_eq_add_of_le' (show 2 ≤ fuel by omega)
  refine paramItems_cons (symbol_head_ne (by decide) _) (hq.takes_varKeyword hp.earlier hp.later
    (hq.none_before hp) hp.regular hkind hp.depth_le (parted_rest _).1)
    fun q' ⟨hq', hstar⟩ => ?_
  rw [← hstar] at hfuel ⊢
  exact h.next hq' (by omega)

/-- The items of the parameters that come are read, whatever has been read before. -/
theorem paramItems_takes (hregular : ∀ p ∈ ps, p.isRegular mode = true)
    (hdepth : ∀ p ∈ ps, (marks p.inks).length ≤ depth)
    (hpairs : (done ++ ps).Pairwise Param.Precedes) : TakesParams depth after done ps := by
  induction ps generalizing done with
  | nil =>
    intro q fuel hq hfuel
    obtain ⟨fuel, rfl⟩ := Nat.exists_eq_add_one_of_ne_zero (Nat.ne_of_gt (Nat.zero_lt_of_lt hfuel))
    rw [List.append_nil]
    exact ifNext_hit (.pure ⟨hq, rfl⟩)
  | cons p ps ih =>
    rw [List.forall_mem_cons] at hregular hdepth
    have hsplit := List.pairwise_append.1 hpairs
    have hp : p.Placed mode depth done ps := ⟨fun x hx => hsplit.2.2 x hx p List.mem_cons_self,
      (List.pairwise_cons.1 hsplit.2.1).1, hregular.1, hdepth.1⟩
    have hrest : TakesParams depth after (done ++ [p]) ps :=
      ih hregular.2 hdepth.2 (by rwa [List.append_cons] at hpairs)
    cases hkind : p.kind with
    | positionalOnly => exact hrest.positionalOnly hp hkind
    | positional => exact hrest.positional hp hkind
    | varPositional => exact hrest.varPositional hp hkind
    | keywordOnly => exact hrest.keywordOnly hp hkind
    | varKeyword => exact hrest.varKeyword hp hkind

end

/-! ## The finished list -/

section

variable {ps : List Param} {q : ParamsSoFar}

theorem alignDefaults_rel {es : List Expr} {ts : List Term} (count : Nat)
    (h : List.Forall₂ (fun e t => Term.Is t e) es ts) :
    List.Forall₂ (Option.Rel fun e t => Term.Is t e) (alignDefaults count es)
      (alignDefaults count ts) := by
  have hsome : List.Forall₂ (Option.Rel fun e t => Term.Is t e) (es.map some) (ts.map some) := by
    rw [List.forall₂_map_left_iff, List.forall₂_map_right_iff]
    exact h.imp fun _ _ h => .some h
  rw [alignDefaults, alignDefaults, h.length_eq]
  exact List.rel_append (List.forall₂_iff_get.2 ⟨by simp, fun i _ _ => by simp⟩) hsome

theorem ParamName.toParam_each {kind : ParamKind} {ns : List ParamName}
    (h : List.Forall₂ (fun p n => ParamName.Is n p) (Param.ofKind kind ps) ns)
    (hnone : ∀ p ∈ Param.ofKind kind ps, p.default = none) :
    ns.mapM (·.toParam origin kind none) = .ok (Param.ofKind kind ps) := by
  have hboth := (List.forall₂_and_left _ _).2 ⟨hnone, Param.ofKind_forall₂ h⟩
  refine mapM_of_forall₂ (hboth.imp fun p n hp => ?_)
  obtain ⟨hdefault, rfl, hn⟩ := hp
  exact ParamName.IsWith.toParam ⟨hn, by rw [hdefault]; exact .none⟩

theorem ParamsSoFar.Between.finish_eq (h : q.Between ps []) :
    q.finish = some (.mk q.positionalOnly q.positional q.varPositional q.keywordOnly
      q.keywordDefaults q.varKeyword q.defaults) := by
  rw [ParamsSoFar.finish, if_neg]
  rw [h.star, Bool.and_assoc, Bool.and_eq_true, Bool.and_eq_true]
  rintro ⟨hstar, hvar, hkeyword⟩
  obtain ⟨p, hp, hkind⟩ := List.any_eq_true.1 hstar
  have hmem : ∀ k, p.kind = k → Param.ofKind k ps ≠ [] := fun k hk =>
    List.ne_nil_of_mem (List.mem_filter.2 ⟨hp, by simpa using hk⟩)
  rw [ParamKind.isStarred, Bool.or_eq_true, beq_iff_eq, beq_iff_eq] at hkind
  rcases hkind with hkind | hkind
  · have hrest := h.varPositional
    rw [Option.isNone_iff_eq_none.1 hvar] at hrest
    exact hmem _ hkind (List.forall₂_nil_right_iff.1 hrest)
  · have hrest := h.keywordOnly
    rw [List.isEmpty_iff.1 hkeyword] at hrest
    exact hmem _ hkind (List.forall₂_nil_right_iff.1 hrest)

/-- The names in front of the slash stand for the positional-only parameters, the others for those that
can be passed by name as well. -/
theorem ParamsSoFar.Between.kinds (h : q.Between ps []) (hpairs : ps.Pairwise Param.Precedes) :
    List.Forall₂ (fun p n => ParamName.Is n p) (Param.ofKind .positionalOnly ps)
        q.positionalOnly ∧
      List.Forall₂ (fun p n => ParamName.Is n p) (Param.ofKind .positional ps) q.positional := by
  have hslash := h.slash
  have hpositionalOnly := h.positionalOnly
  have hpositional := h.positional
  cases hs : q.slash with
  | true =>
    rw [hs] at hpositionalOnly hpositional
    exact ⟨hpositionalOnly, hpositional⟩
  | false =>
    rw [hs] at hslash hpositionalOnly hpositional
    have hnone : Param.ofKind .positionalOnly ps = [] :=
      Param.ofKind_eq_nil (by simpa using hslash.symm)
    rw [if_neg Bool.false_ne_true, Param.positionals_eq hpairs, hnone, List.nil_append] at hpositional
    rw [hnone]
    exact ⟨hpositionalOnly, hpositional⟩

theorem ParamName.are_kind {kind : ParamKind} {ns : List ParamName}
    (h : List.Forall₂ (fun p n => ParamName.Is n p) (Param.ofKind kind ps) ns) :
    List.Forall₂ (fun p x => ParamName.Is x.1 p ∧ x.2 = p.kind) (Param.ofKind kind ps)
      (ns.map (·, kind)) := by
  rw [List.forall₂_map_right_iff]
  exact (Param.ofKind_forall₂ h).imp fun _ _ h => ⟨h.2, h.1.symm⟩

/-- The positional parameters with the kinds that they are given, and with their defaults. -/
theorem ParamsSoFar.Between.positionals (h : q.Between ps [])
    (hpairs : ps.Pairwise Param.Precedes) :
    ((q.positionalOnly.map (·, ParamKind.positionalOnly) ++
      q.positional.map (·, ParamKind.positional)).zip
        (alignDefaults (q.positionalOnly.map (·, ParamKind.positionalOnly) ++
          q.positional.map (·, ParamKind.positional)).length q.defaults)).mapM
      (fun ((name, kind), default) => name.toParam origin kind default) =
        .ok (Param.positionals ps) := by
  have hnamed : List.Forall₂ (fun p x => ParamName.Is x.1 p ∧ x.2 = p.kind) (Param.positionals ps)
      (q.positionalOnly.map (·, ParamKind.positionalOnly) ++
        q.positional.map (·, ParamKind.positional)) := by
    obtain ⟨hpositionalOnly, hpositional⟩ := h.kinds hpairs
    rw [Param.positionals_eq hpairs]
    exact List.rel_append (ParamName.are_kind hpositionalOnly) (ParamName.are_kind hpositional)
  have hdefaults := alignDefaults_rel (Param.positionals ps).length h.defaults
  have hlast : (Param.positionals ps).Pairwise fun p q =>
      p.default.isSome = true → q.default.isSome = true :=
    (hpairs.sublist List.filter_sublist).imp_of_mem fun _ hq hprecedes hsome =>
      hprecedes.2 (List.mem_filter.1 hq).2 hsome
  rw [alignDefaults_eq hlast, List.forall₂_map_left_iff, hnamed.length_eq] at hdefaults
  refine mapM_of_forall₂ ((forall₂_zip_right hnamed hdefaults).imp fun p x hx => ?_)
  obtain ⟨⟨name, kind⟩, default⟩ := x
  obtain ⟨⟨hname, rfl⟩, hdefault⟩ := hx
  exact ParamName.IsWith.toParam ⟨hname, hdefault⟩

/-- The list that is finished stands for the parameters. -/
theorem ParamsSoFar.Between.finish (h : q.Between ps []) (hpairs : ps.Pairwise Param.Precedes)
    (hregular : ∀ p ∈ ps, p.isRegular mode = true) :
    ∃ params, q.finish = some params ∧ params.toParams origin = .ok ps := by
  have hnone : ∀ k : ParamKind, k.isRest = true → ∀ p ∈ Param.ofKind k ps, p.default = none :=
    fun k hk p hp => default_none_of_rest (hregular p (List.mem_of_mem_filter hp))
      (by rwa [Param.kind_of_mem hp])
  have hkeywords : (q.keywordOnly.zip q.keywordDefaults).mapM
      (fun x => x.1.toParam origin .keywordOnly x.2) = .ok (Param.ofKind .keywordOnly ps) := by
    refine mapM_of_forall₂ ((Param.ofKind_forall₂ h.keywordOnly).imp fun p x hp => ?_)
    rw [← hp.1]
    exact hp.2.toParam
  refine ⟨_, h.finish_eq, ?_⟩
  rw [Params.toParams]
  dsimp only
  rw [h.positionals hpairs, ParamName.toParam_each h.varPositional (hnone _ rfl), hkeywords,
    ParamName.toParam_each h.varKeyword (hnone _ rfl), Param.positionals_eq hpairs]
  exact congrArg Except.ok (Param.split_kinds hpairs).symm

/-- A parameter list is read up to the parenthesis that closes it. -/
theorem params_takes (hregular : ∀ p ∈ ps, p.isRegular mode = true) (hpairs : ps.Pairwise Param.Precedes)
    (hdepth : ∀ p ∈ ps, (marks p.inks).length ≤ depth) :
    Takes (params (deepReaders depth) true ")")
      (marks (commas (Param.inksEach false ps)) ++ .symbol ")" :: after) fun params ms' =>
        params.toParams origin = .ok ps ∧ ms' = .symbol ")" :: after := by
  intro c hc
  rw [marks_items] at hc
  have hbegin : ParamsSoFar.Between {} [] ps :=
    ⟨⟨.nil, .nil, .nil, .nil, .nil, rfl, .nil⟩, rfl, rfl⟩
  have hfuel : (Param.inksEach false ps).length < c.rest.length + 1 := by
    have hle := length_le_itemMarks after ((Param.inksEach false ps).map marks)
    have htokens := hc.length_le
    rw [List.length_map] at hle
    omega
  obtain ⟨q, c', ms', hread, hshows, hq, hms⟩ := paramItems_takes hregular hdepth
    (List.nil_append ps ▸ hpairs) {} _ hbegin hfuel c hc
  obtain ⟨params, hfinish, hparams⟩ := hq.finish hpairs hregular
  exact ⟨params, c', ms', by simp [Grammar.params, hread, hfinish], hshows, hparams, hms⟩

end

end Grammar

end Refactory
