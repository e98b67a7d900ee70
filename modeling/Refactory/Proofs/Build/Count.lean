import Refactory.Proofs.Build.Starts

/-! # How often something is captured

The count that comes with a module says how many captures its conversion made: it is the number of
constructs in `Grammar.Statement.capturedEach` (`Grammar.readProgram_captures`). For a parameter list
that takes as many places for defaults as the reader provides. -/

namespace Refactory.Grammar

/-! ## Expressions -/

mutual

theorem Term.captures_eq : ∀ t : Term, t.captures = t.captured.length
  | .name _ | .string .. | .number _ | .truth _ | .noneLiteral => rfl
  | .call func args keywords => by
    simp [Term.captures, Term.captured, Term.captures_eq func, Term.capturesAll_eq args,
      Argument.captures_eq keywords, Nat.add_assoc]
  | .binary left _ right => by
    simp [Term.captures, Term.captured, Term.captures_eq left, Term.captures_eq right]
  | .unary _ operand => Term.captures_eq operand
  | .logical _ values => Term.capturesAll_eq values
  | .compare left _ comparators => by
    simp [Term.captures, Term.captured, Term.captures_eq left, Term.capturesAll_eq comparators]
  | .attribute value _ => Term.captures_eq value
  | .subscript span value index => by
    by_cases hslice : ∃ inner lower upper step, index = .slice inner lower upper step
    · obtain ⟨inner, lower, upper, step, rfl⟩ := hslice
      rfl
    · have hindex := fun inner lower upper step h => hslice ⟨inner, lower, upper, step, h⟩
      rw [Term.captures, Term.captured]
      · rw [List.length_append, Term.captures_eq value, Term.captures_eq index]
      · exact hindex
      · exact hindex
  | .starred value => Term.captures_eq value
  | .tuple elements | .list elements => Term.capturesAll_eq elements
  | .dict keys values => by
    simp [Term.captures, Term.captured, Term.capturesKeys_eq keys, Term.capturesAll_eq values]
  | .formatted span parts => by
    rw [Term.captures, Term.captured, Part.captures_eq parts]
    cases Part.arePlain parts <;> simp
  | .bytes .. | .ellipsis _ | .slice .. | .set .. | .lambda .. | .conditional .. | .named ..
  | .listComp .. | .setComp .. | .dictComp .. | .generator .. | .await .. | .yield ..
  | .yieldFrom .. => rfl

theorem Term.capturesAll_eq : ∀ ts : List Term,
    Term.capturesAll ts = (Term.capturedEach ts).length
  | [] => rfl
  | t :: rest => by
    simp [Term.capturesAll, Term.capturedEach, Term.captures_eq t, Term.capturesAll_eq rest]

theorem Term.capturesKeys_eq : ∀ ts : List (Option Term),
    Term.capturesKeys ts = (Term.capturedKeys ts).length
  | [] => rfl
  | none :: rest => Term.capturesKeys_eq rest
  | some t :: rest => by
    simp [Term.capturesKeys, Term.capturedKeys, Term.captures_eq t, Term.capturesKeys_eq rest]

theorem Argument.captures_eq : ∀ ks : List Argument,
    Argument.captures ks = (Argument.capturedEach ks).length
  | [] => rfl
  | .mk _ value :: rest => by
    simp [Argument.captures, Argument.capturedEach, Term.captures_eq value, Argument.captures_eq rest]

/-- The parts of a formatted string that is given up count one more capture, that of the string. -/
theorem Part.captures_eq : ∀ ps : List Part,
    Part.captures ps = (Part.capturedEach ps).length + if Part.arePlain ps then 0 else 1
  | [] => rfl
  | .text _ :: rest => Part.captures_eq rest
  | .field value _ none :: rest => by
    rw [Part.captures, Part.capturedEach, Part.arePlain, List.length_append, Term.captures_eq value,
      Part.captures_eq rest, Nat.add_assoc]
  | .field value _ (some spec) :: rest => by
    rw [Part.captures, Part.capturedEach, Part.arePlain]
    cases plainSpec spec with
    | none => rfl
    | some text =>
      rw [Option.isSome_some, Bool.true_and, if_pos rfl, List.length_append, Term.captures_eq value,
        Part.captures_eq rest, Nat.add_assoc]

end

theorem Term.captures?_eq (t : Option Term) : Term.captures? t = (Term.captured? t).length := by
  cases t with
  | none => rfl
  | some t =>
    rw [Term.captured?, Option.toList_some, List.flatMap_singleton]
    exact Term.captures_eq t

theorem ParamName.captured_length (default : Option Term) (n : ParamName) :
    (n.captured default).length = n.captures + Term.captures? default := by
  cases n with
  | mk name hint =>
    rw [ParamName.captured, List.length_append, ParamName.captures, Term.captures?_eq,
      Term.captures?_eq]

/-- Parameters with a default or its absence for each. -/
theorem ParamName.captured_zip {names : List ParamName} {defaults : List (Option Term)}
    (h : names.length = defaults.length) :
    ((names.zip defaults).flatMap fun x => x.1.captured x.2).length =
      (names.flatMap (ParamName.captured none)).length + Term.capturesKeys defaults := by
  induction names generalizing defaults with
  | nil =>
    cases List.length_eq_zero_iff.1 h.symm
    rfl
  | cons name names ih =>
    obtain ⟨default, defaults, rfl⟩ := List.exists_cons_of_length_eq_add_one h.symm
    rw [List.zip_cons_cons, List.flatMap_cons, List.length_append, ih (Nat.succ.inj h),
      ParamName.captured_length, List.flatMap_cons, List.length_append, ParamName.captured_length]
    cases default <;> simp only [Term.capturesKeys, Term.captures?, Option.map_none, Option.map_some,
      Option.getD_none, Option.getD_some] <;> omega

/-- Parameters without their defaults. -/
theorem ParamName.captured_foldl (names : List ParamName) :
    (names.map ParamName.captures).foldl (· + ·) 0 =
      (names.flatMap (ParamName.captured none)).length := by
  have hcaptured : (fun n => (ParamName.captured none n).length) = ParamName.captures :=
    funext fun n => n.captured_length none
  rw [← List.sum_eq_foldl_nat, List.length_flatMap, hcaptured]

theorem capturesKeys_alignDefaults (count : Nat) (defaults : List Term) :
    Term.capturesKeys (alignDefaults count defaults) = Term.capturesAll defaults := by
  have hpresent : Term.capturesKeys (defaults.map some) = Term.capturesAll defaults := by
    induction defaults with
    | nil => rfl
    | cons d defaults ih => rw [List.map_cons, Term.capturesKeys, Term.capturesAll, ih]
  rw [alignDefaults]
  induction count - defaults.length with
  | zero => exact hpresent
  | succ n ih => rwa [List.replicate_succ, List.cons_append, Term.capturesKeys]

theorem Params.captures_eq {ps : Params} (h : ps.Aligned) : ps.captures = ps.captured.length := by
  obtain ⟨positionalOnly, positional, varPositional, keywordOnly, keywordDefaults, varKeyword,
    defaults⟩ := ps
  obtain ⟨hdefaults, hkeywords⟩ := h
  rw [← List.length_append] at hdefaults
  rw [Params.captures, Params.captured]
  generalize positionalOnly ++ positional = named at *
  have hplaces : named.length = (alignDefaults named.length defaults).length := by
    rw [alignDefaults, List.length_append, List.length_replicate, List.length_map]
    omega
  dsimp only
  rw [List.length_append, List.length_append, List.length_append, ParamName.captured_zip hplaces,
    ParamName.captured_zip hkeywords.symm, capturesKeys_alignDefaults, ParamName.captured_foldl]
  simp only [List.flatMap_append, List.length_append]
  omega

/-! ## Statements -/

theorem Statement.capturesAll_eq {ss : List Statement}
    (h : ∀ s ∈ ss, s.captures = s.captured.length) :
    Statement.capturesAll ss = (Statement.capturedEach ss).length := by
  induction ss with
  | nil => rfl
  | cons s ss ih =>
    rw [List.forall_mem_cons] at h
    rw [Statement.capturesAll, Statement.capturedEach, List.length_append, h.1, ih h.2]

theorem Catch.captures_eq {hs : List Catch}
    (h : ∀ x ∈ hs, x.Each fun s => s.captures = s.captured.length) :
    Catch.captures hs = (Catch.capturedEach hs).length := by
  induction hs with
  | nil => rfl
  | cons x hs ih =>
    obtain ⟨type, name, body⟩ := x
    rw [List.forall_mem_cons] at h
    rw [Catch.captures, Catch.capturedEach, List.length_append, List.length_append, List.length_map,
      Term.captures?_eq, Statement.capturesAll_eq h.1.2, ih h.2, Nat.add_assoc]

theorem assignTargets_captures (target : Term) :
    (Term.capturedEach (assignTargets target)).length = target.captured.length := by
  unfold assignTargets
  split
  · rfl
  · simp only [Term.capturedEach, List.append_nil]

/-- The count of a statement that is read is the number of its captures. -/
theorem Statement.captures_hereditary (n : Nat) :
    Hereditary n fun s => s.captures = s.captured.length where
  function hparams _ _ _ hbody := by
    simp only [Statement.captures, Statement.captured, List.length_append, List.length_map,
      Params.captures_eq hparams, capturesAll_eq hbody, Term.captures?_eq, Term.capturesAll_eq]
    omega
  classDef _ _ hbody := by
    simp only [Statement.captures, Statement.captured, List.length_append, List.length_map,
      capturesAll_eq hbody, Term.capturesAll_eq, Argument.captures_eq]
    omega
  tryExcept hbody hhandlers horelse hfinal := by
    simp only [Statement.captures, Statement.captured, List.length_append, capturesAll_eq hbody,
      Catch.captures_eq hhandlers, capturesAll_eq horelse, capturesAll_eq hfinal]
    omega
  assign {_ targets value} _ _ _ := match targets with
    | [target] => by
      rw [Statement.captures, Statement.captured, List.length_append, List.length_map,
        List.length_map, assignTargets_captures, Term.captures_eq, Term.captures_eq]
    | [] | _ :: _ :: _ => rfl
  other _ := rfl
  importNames _ := rfl
  importFrom _ := rfl
  ret _ := (Term.captures?_eq _).trans (List.length_map _).symm
  pass := rfl
  expr _ := (Term.captures_eq _).trans (List.length_map _).symm

/-- The count of a program that is read is the number of its captures. -/
theorem readProgram_captures {cs : List Char} {program : List Statement}
    (h : readProgram cs = some program) :
    Statement.capturesAll program = (Statement.capturedEach program).length :=
  Statement.capturesAll_eq (readProgram_hereditary Statement.captures_hereditary h)

end Refactory.Grammar
