import Mathlib.Data.List.Nodup
import Mathlib.Data.List.Perm.Subperm
import Refactory.Modernize.Version
import Refactory.Proofs.Grammar.Literal

/-! # Fresh names

A fresh name comes from a search that has no bound of its own: a candidate that is taken gives way to
the next one (`SearchEnds`, `FindsName`). The candidates differ from each other
(`candidateName_injective`), so a finite list of names cannot take them all (`exists_candidateName`),
and the search comes to an end at the first one that is free (`SearchEnds.run`). Main statement:
`freeName_search`. -/

namespace Refactory

/-! ## Candidates -/

theorem candidateName_injective (preferred : Text) : (candidateName preferred).Injective := by
  intro n k h
  have hdigits : ∀ n : Nat, Text.ofNat (n + 1) ≠ [] := by
    intro n hnil
    exact Nat.toDigits_ne_nil (List.map_eq_nil_iff.1 hnil)
  rw [candidateName, candidateName, List.append_cancel_left_eq] at h
  rcases Nat.eq_zero_or_pos n with rfl | hn <;> rcases Nat.eq_zero_or_pos k with rfl | hk
  · rfl
  · rw [if_pos rfl, if_neg (Nat.ne_of_gt hk)] at h
    exact (hdigits k h.symm).elim
  · rw [if_neg (Nat.ne_of_gt hn), if_pos rfl] at h
    exact (hdigits n h).elim
  · rw [if_neg (Nat.ne_of_gt hn), if_neg (Nat.ne_of_gt hk), Text.ofNat, Text.ofNat, Text.ofChars,
      Text.ofChars, List.map_inj_right fun _ _ => CodePoint.scalar.inj] at h
    have hvalue := congrArg (Grammar.Numeral.valueOf 10) h
    simp only [Grammar.Numeral.valueOf_toDigits (b := 10) (by decide) (by decide)] at hvalue
    omega

/-- There are more candidates to try than names that are taken. -/
theorem exists_candidateName (preferred : Text) (taken : List Text) :
    ∃ n ∈ List.range (taken.length + 1), candidateName preferred n ∉ taken := by
  by_contra hnone
  have hall : ∀ n ∈ List.range (taken.length + 1), candidateName preferred n ∈ taken := by
    intro n hn
    by_contra hfree
    exact hnone ⟨n, hn, hfree⟩
  have hnodup : ((List.range (taken.length + 1)).map (candidateName preferred)).Nodup :=
    List.nodup_range.map (candidateName_injective preferred)
  have hsub : (List.range (taken.length + 1)).map (candidateName preferred) ⊆ taken := by
    intro name hname
    obtain ⟨n, hn, rfl⟩ := List.mem_map.1 hname
    exact hall n hn
  have hlength := (hnodup.subperm hsub).length_le
  rw [List.length_map, List.length_range] at hlength
  omega

/-- A free name is the preferred one, or the first candidate that is not taken. -/
theorem freeName_cases (preferred : Text) (taken : List Text) :
    (preferred ∉ taken ∧ freeName preferred taken = preferred) ∨
      (preferred ∈ taken ∧ ∃ n ≤ taken.length, freeName preferred taken = candidateName preferred n ∧
        candidateName preferred n ∉ taken ∧ ∀ k < n, candidateName preferred k ∈ taken) := by
  by_cases hpreferred : preferred ∈ taken
  · refine .inr ⟨hpreferred, ?_⟩
    rw [freeName, if_pos (List.contains_iff_mem.2 hpreferred)]
    cases hfound : (List.range (taken.length + 1)).find? fun n =>
        !taken.contains (candidateName preferred n) with
    | none =>
      obtain ⟨n, hn, hfree⟩ := exists_candidateName preferred taken
      exact (List.find?_eq_none.1 hfound n hn (by simpa using hfree)).elim
    | some n =>
      obtain ⟨hfree, hn, hbefore⟩ := List.find?_range_eq_some.1 hfound
      refine ⟨n, Nat.le_of_lt_succ (List.mem_range.1 hn), rfl, by simpa using hfree, fun k hk => ?_⟩
      simpa using hbefore k hk
  · refine .inl ⟨hpreferred, ?_⟩
    rw [freeName, if_neg (mt List.contains_iff_mem.1 hpreferred)]

theorem freeName_not_mem (preferred : Text) (taken : List Text) :
    freeName preferred taken ∉ taken := by
  rcases freeName_cases preferred taken with ⟨hfree, heq⟩ | ⟨-, n, -, heq, hfree, -⟩
  · rwa [heq]
  · rwa [heq]

/-! ## The search -/

section

variable (preferred : Text) (taken : List Text)

/-- The loop of the search, with a name to try and the number that makes up the next one, comes to an
end and gives a name. -/
inductive SearchEnds : Text → Nat → Text → Prop
  | free {candidate number} (h : candidate ∉ taken) : SearchEnds candidate number candidate
  | next {candidate number name} (h : candidate ∈ taken)
    (rest : SearchEnds ("_pkg_" ++ preferred ++ Text.ofNat number) (number + 1) name) :
    SearchEnds candidate number name

/-- The search for a name that is not taken comes to an end and gives a name. -/
inductive FindsName : Text → Prop
  | preferred (h : preferred ∉ taken) : FindsName preferred
  | candidate {name} (h : preferred ∈ taken)
    (search : SearchEnds preferred taken ("_pkg_" ++ preferred) 2 name) : FindsName name

end

section

variable {preferred : Text} {taken : List Text}

theorem SearchEnds.unique {candidate name name' : Text} {number : Nat}
    (h : SearchEnds preferred taken candidate number name)
    (h' : SearchEnds preferred taken candidate number name') : name = name' := by
  induction h with
  | free hfree =>
    cases h' with
    | free => rfl
    | next htaken => exact (hfree htaken).elim
  | next htaken _ ih =>
    cases h' with
    | free hfree => exact (hfree htaken).elim
    | next _ rest => exact ih rest

theorem FindsName.unique {name name' : Text} (h : FindsName preferred taken name)
    (h' : FindsName preferred taken name') : name = name' := by
  cases h with
  | preferred hfree =>
    cases h' with
    | preferred => rfl
    | candidate htaken => exact (hfree htaken).elim
  | candidate htaken search =>
    cases h' with
    | preferred hfree => exact (hfree htaken).elim
    | candidate _ search' => exact search.unique search'

/-- A round of the search goes from a candidate that is taken to the next one. -/
theorem SearchEnds.step {n : Nat} {name : Text} (h : candidateName preferred n ∈ taken)
    (rest : SearchEnds preferred taken (candidateName preferred (n + 1)) (n + 1 + 2) name) :
    SearchEnds preferred taken (candidateName preferred n) (n + 2) name := by
  refine .next h ?_
  rwa [candidateName, if_neg (Nat.succ_ne_zero n)] at rest

/-- The search passes the candidates that are taken and ends at one that is free. -/
theorem SearchEnds.run {n d : Nat} (htaken : ∀ k < d, candidateName preferred (n + k) ∈ taken)
    (hfree : candidateName preferred (n + d) ∉ taken) :
    SearchEnds preferred taken (candidateName preferred n) (n + 2)
      (candidateName preferred (n + d)) := by
  induction d generalizing n with
  | zero => exact .free hfree
  | succ d ih =>
    have hshift : ∀ k, n + (k + 1) = n + 1 + k := fun k => by omega
    have hfirst : candidateName preferred n ∈ taken := htaken 0 (Nat.succ_pos d)
    rw [hshift d] at hfree ⊢
    exact .step hfirst (ih (fun k hk => hshift k ▸ htaken (k + 1) (Nat.succ_lt_succ hk)) hfree)

end

/-- The search comes to an end, and gives the fresh name. -/
theorem findsName_freeName (preferred : Text) (taken : List Text) :
    FindsName preferred taken (freeName preferred taken) := by
  rcases freeName_cases preferred taken with ⟨hfree, heq⟩ | ⟨htaken, n, -, heq, hfree, hbefore⟩
  · rw [heq]
    exact .preferred hfree
  · have hfirst : ("_pkg_" : Text) ++ preferred = candidateName preferred 0 :=
      (List.append_nil _).symm
    have hrun : SearchEnds preferred taken (candidateName preferred 0) (0 + 2)
        (candidateName preferred (0 + n)) := .run (by simpa using hbefore) (by simpa using hfree)
    rw [Nat.zero_add, Nat.zero_add, ← hfirst, ← heq] at hrun
    exact .candidate htaken hrun

/-- The search for a fresh name comes to an end, whatever names are taken. It gives the preferred name
if that is free, and the first candidate that is free otherwise. -/
theorem freeName_search (preferred : Text) (taken : List Text) :
    (∀ name, FindsName preferred taken name ↔ name = freeName preferred taken) ∧
    freeName preferred taken ∉ taken ∧
    ((preferred ∉ taken ∧ freeName preferred taken = preferred) ∨
      (preferred ∈ taken ∧ ∃ n ≤ taken.length, freeName preferred taken = candidateName preferred n ∧
        ∀ k < n, candidateName preferred k ∈ taken)) := by
  have hfinds := findsName_freeName preferred taken
  refine ⟨fun name => ⟨fun h => h.unique hfinds, fun h => h ▸ hfinds⟩,
    freeName_not_mem preferred taken, ?_⟩
  rcases freeName_cases preferred taken with hfree | ⟨htaken, n, hn, heq, -, hbefore⟩
  · exact .inl hfree
  · exact .inr ⟨htaken, n, hn, heq, hbefore⟩

/-- Two candidates are passed. -/
example : freeName "v" ["_pkg_v2", "v", "_pkg_v"] = "_pkg_v3" := by decide

end Refactory
