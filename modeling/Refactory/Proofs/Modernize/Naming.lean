import Refactory.Proofs.Modernize.Fresh
import Refactory.Proofs.Modernize.Lookups

/-! # The name of the new function

The modernization of version lookups calls the new function by a name that an import of it has already,
if nothing else in the tree binds that name, and by a fresh one otherwise. A fresh name is bound by
nothing and stands in no source text (`freeName_not_mem`, `Text.mem_asciiWords`); a name that is
reused is bound by its own import alone (`firstUnshared_some`), but the source text of a statement that
is captured whole is not asked about it, and can bind it again (`modernizeVersions_reuses_rebound`).
Main statement: `modernizeVersions_function`. -/

namespace Refactory

/-! ## Names bound -/

/-- A statement binds a name itself; an import does so by the alias at an index. -/
inductive Stmt.BindsBy (x : Text) : Stmt → Option Nat → Prop
  | importNames {names location i a} (ha : names[i]? = some a) (hx : a.moduleBinding = x) :
    BindsBy x (.importNames names location) (some i)
  | importFrom {module names level location i a} (ha : names[i]? = some a)
    (hx : a.memberBinding = x) : BindsBy x (.importFrom module names level location) (some i)
  | definition {s} (hx : s.name? = some x) : BindsBy x s none
  | param {head body location p} (hp : p ∈ head.params) (hx : p.name = x) :
    BindsBy x (.function head body location) none
  | target {targets value location e} (he : e ∈ targets) (hx : (Expr.name x).Within e) :
    BindsBy x (.assign targets value location) none
  | handler {body handlers orelse finalbody location h} (hh : h ∈ handlers) (hx : h.name = some x)
    (hne : x ≠ []) : BindsBy x (.tryExcept body handlers orelse finalbody location) none

theorem mem_withoutIndex {skip : Option Nat} {names : List Alias} {a : Alias} :
    a ∈ withoutIndex skip names ↔ ∃ i, some i ≠ skip ∧ names[i]? = some a := by
  cases skip with
  | none => simp [withoutIndex, List.mem_iff_getElem?]
  | some k => simp [withoutIndex, List.mem_eraseIdx_iff_getElem?]

/-- The names in the targets of an assignment. -/
theorem Stmt.mem_binds_assign {targets : List Expr} {value : Expr} {location : Option Location}
    {skip : Option Nat} {names : List Text} {x : Text}
    (h : (Stmt.assign targets value location).binds skip = .ok names) :
    x ∈ names ↔ ∃ e ∈ targets, (Expr.name x).Within e := by
  rw [Stmt.binds] at h
  obtain ⟨exprs, hexprs, h⟩ := bind_ok.1 h
  cases h
  obtain ⟨hfault, rfl⟩ := Walk.all_ok.1 hexprs
  have hcovers : (Walk.concat (targets.map Expr.walk)).Covers fun n => ∃ e ∈ targets, n.Within e :=
    Walk.Covers.concat fun e _ => e.walk_covers
  rw [List.mem_filterMap, ← hcovers.items hfault]
  constructor
  · rintro ⟨e, he, hx⟩
    split at hx
    · cases hx
      exact he
    · cases hx
  · intro he
    exact ⟨_, he, rfl⟩

/-- The names that a statement binds, apart from the alias that is skipped. -/
theorem Stmt.mem_binds {s : Stmt} {skip : Option Nat} {names : List Text} {x : Text}
    (h : s.binds skip = .ok names) :
    x ∈ names ↔ ∃ index, s.BindsBy x index ∧ ∀ i, index = some i → skip ≠ some i := by
  constructor
  · intro hx
    cases s with
    | importNames aliases location =>
      cases h
      obtain ⟨a, ha, hx⟩ := List.mem_map.1 hx
      obtain ⟨i, hi, ha⟩ := mem_withoutIndex.1 ha
      exact ⟨some i, .importNames ha hx, fun j hj => Option.some.inj hj ▸ hi.symm⟩
    | importFrom module aliases level location =>
      cases h
      obtain ⟨a, ha, hx⟩ := List.mem_map.1 hx
      obtain ⟨i, hi, ha⟩ := mem_withoutIndex.1 ha
      exact ⟨some i, .importFrom ha hx, fun j hj => Option.some.inj hj ▸ hi.symm⟩
    | function head body location =>
      cases h
      rcases List.mem_cons.1 hx with rfl | hx
      · exact ⟨none, .definition rfl, nofun⟩
      · obtain ⟨p, hp, hx⟩ := List.mem_map.1 hx
        exact ⟨none, .param hp hx, nofun⟩
    | classDef head body location =>
      cases h
      cases List.mem_singleton.1 hx
      exact ⟨none, .definition rfl, nofun⟩
    | assign targets value location =>
      obtain ⟨e, he, hx⟩ := (Stmt.mem_binds_assign h).1 hx
      exact ⟨none, .target he hx, nofun⟩
    | tryExcept body handlers orelse finalbody location =>
      cases h
      obtain ⟨hx, hne⟩ := List.mem_filter.1 hx
      obtain ⟨handler, hhandler, hx⟩ := List.mem_filterMap.1 hx
      exact ⟨none, .handler hhandler hx (by simpa using hne), nofun⟩
    | _ =>
      cases h
      cases hx
  · rintro ⟨index, hbinds, hskip⟩
    cases hbinds with
    | importNames ha hx =>
      cases h
      exact List.mem_map.2 ⟨_, mem_withoutIndex.2 ⟨_, (hskip _ rfl).symm, ha⟩, hx⟩
    | importFrom ha hx =>
      cases h
      exact List.mem_map.2 ⟨_, mem_withoutIndex.2 ⟨_, (hskip _ rfl).symm, ha⟩, hx⟩
    | definition hx =>
      cases s <;> cases hx <;> cases h <;> exact List.mem_cons_self
    | param hp hx =>
      cases h
      exact List.mem_cons_of_mem _ (List.mem_map.2 ⟨_, hp, hx⟩)
    | target he hx => exact (Stmt.mem_binds_assign h).2 ⟨_, he, hx⟩
    | handler hh hx hne =>
      cases h
      exact List.mem_filter.2 ⟨List.mem_filterMap.2 ⟨_, hh, hx⟩, by simpa using hne⟩

/-- The names that a module binds, apart from the alias that is skipped. -/
theorem mem_boundNames {m : Module} {skip : Option (Path × Nat)} {names : List Text} {x : Text}
    (h : boundNames m skip = .ok names) :
    x ∈ names ↔ ∃ item ∈ m.walk.items, ∃ index, item.2.BindsBy x index ∧
      ∀ i, index = some i → skip ≠ some (item.1, i) := by
  rw [boundNames] at h
  obtain ⟨lists, hcollect, h⟩ := bind_ok.1 h
  cases h
  obtain ⟨hlists, -⟩ := Walk.collect_ok.1 hcollect
  have hskip : ∀ (path : Path) (i : Nat),
      (skip.bind fun at_ => if at_.1 = path then some at_.2 else none) = some i ↔
        skip = some (path, i) := by
    intro path i
    cases skip with
    | none => simp
    | some at_ =>
      obtain ⟨p, k⟩ := at_
      by_cases hp : p = path <;> simp [hp]
  rw [List.mem_flatten]
  constructor
  · rintro ⟨names, hnames, hx⟩
    have hmem := List.mem_map_of_mem (f := (Except.ok : _ → Except Fault _)) hnames
    rw [← hlists, List.mem_map] at hmem
    obtain ⟨item, hitem, hbinds⟩ := hmem
    obtain ⟨index, hindex, hnot⟩ := (Stmt.mem_binds hbinds).1 hx
    exact ⟨item, hitem, index, hindex, fun i hi hat => hnot i hi ((hskip item.1 i).2 hat)⟩
  · rintro ⟨item, hitem, index, hindex, hnot⟩
    have hmem := List.mem_map_of_mem (f := fun i : Path × Stmt =>
      i.2.binds (skip.bind fun at_ => if at_.1 = i.1 then some at_.2 else none)) hitem
    rw [hlists, List.mem_map] at hmem
    obtain ⟨names, hnames, hbinds⟩ := hmem
    refine ⟨names, hnames, (Stmt.mem_binds hbinds.symm).2 ⟨index, hindex, fun i hi hat => ?_⟩⟩
    exact hnot i hi ((hskip item.1 i).1 hat)

/-! ## Words -/

namespace Text

/-- Whether a word of ASCII letters, digits and underscores can go on with this point. -/
def isWordPart (c : CodePoint) : Bool := c.isAsciiLetter || c.isAsciiDigit

/-- A text is an identifier of ASCII letters, digits and underscores. -/
def IsAsciiWord (word : Text) : Prop :=
  ∃ c rest, word = c :: rest ∧ c.isAsciiLetter = true ∧ ∀ d ∈ rest, isWordPart d = true

/-- A word stands in a text, not as a part of a longer one. -/
def HasWord (t word : Text) : Prop :=
  ∃ before after, t = before ++ word ++ after ∧
    (∀ c ∈ before.getLast?, isWordPart c = false) ∧ ∀ c ∈ after.head?, isWordPart c = false

/-- Characters that a word can go on with are read into the one that has begun. -/
theorem asciiWordsFrom_parts {word parts : Text} (hword : word ≠ [])
    (hparts : ∀ c ∈ parts, isWordPart c = true) (rest : Text) :
    asciiWordsFrom word (parts ++ rest) = asciiWordsFrom (parts.reverse ++ word) rest := by
  induction parts generalizing word with
  | nil => rfl
  | cons c parts ih =>
    rw [List.forall_mem_cons] at hparts
    have hgoes : (c.isAsciiLetter || (c.isAsciiDigit && !word.isEmpty)) = true := by
      simpa [isWordPart, hword] using hparts.1
    rw [List.cons_append, asciiWordsFrom, if_pos hgoes, ih (List.cons_ne_nil _ _) hparts.2]
    simp

/-- A word that has been read is found where it cannot go on. -/
theorem mem_asciiWordsFrom_ended {word rest : Text} (hword : word ≠ [])
    (hrest : ∀ c ∈ rest.head?, isWordPart c = false) :
    word.reverse ∈ asciiWordsFrom word rest := by
  cases rest with
  | nil => simp [asciiWordsFrom, hword]
  | cons c rest =>
    have hends : c.isAsciiLetter = false ∧ c.isAsciiDigit = false := by
      simpa [isWordPart] using hrest c rfl
    simp [asciiWordsFrom, hends, hword]

/-- What is found behind a text that no word reaches over is found in the whole. -/
theorem mem_asciiWordsFrom_append {word front rest x : Text} (hword : front = [] → word = [])
    (hfront : ∀ c ∈ front.getLast?, isWordPart c = false) (hx : x ∈ asciiWordsFrom [] rest) :
    x ∈ asciiWordsFrom word (front ++ rest) := by
  induction front generalizing word with
  | nil =>
    rw [hword rfl]
    exact hx
  | cons c front ih =>
    have hlast : ∀ d ∈ front.getLast?, isWordPart d = false := by
      intro d hd
      cases front with
      | nil => cases hd
      | cons e front => exact hfront d (by rwa [List.getLast?_cons_cons])
    rw [List.cons_append, asciiWordsFrom]
    split
    · rename_i hgoes
      refine ih (fun hnil => ?_) hlast
      -- The last character in front of `rest` would be part of a word.
      subst hnil
      have hpart : isWordPart c = false := hfront c rfl
      rw [isWordPart, Bool.or_eq_false_iff] at hpart
      simp [hpart] at hgoes
    split
    · exact ih (fun _ => rfl) hlast
    · exact List.mem_cons_of_mem _ (ih (fun _ => rfl) hlast)

/-- An identifier that stands in a text is among its words. -/
theorem mem_asciiWords {t word : Text} (hword : IsAsciiWord word) (h : t.HasWord word) :
    word ∈ t.asciiWords := by
  obtain ⟨front, rest, rfl, hfront, hrest⟩ := h
  obtain ⟨c, parts, rfl, hc, hparts⟩ := hword
  rw [asciiWords, List.append_assoc]
  refine mem_asciiWordsFrom_append (fun _ => rfl) hfront ?_
  rw [List.cons_append, asciiWordsFrom, if_pos (by simp [hc]),
    asciiWordsFrom_parts (List.cons_ne_nil _ _) hparts]
  have hword : parts.reverse ++ [c] ≠ [] := by simp
  simpa using mem_asciiWordsFrom_ended hword hrest

end Text

/-! ## Names to reuse -/

theorem mem_bindingSites {source name bound : Text} {items : List (Path × Stmt)} {path : Path}
    {i : Nat} : (path, i, bound) ∈ bindingSites source name items ↔
      ∃ s a, (path, s) ∈ items ∧ (s.takenFrom source)[i]? = some a ∧ a.name = name ∧
        a.memberBinding = bound := by
  simp only [bindingSites, List.mem_flatMap, List.mem_filterMap]
  constructor
  · rintro ⟨⟨p, s⟩, hs, ⟨a, k⟩, ha, hsite⟩
    rw [Option.ite_none_right_eq_some, Option.some.injEq, Prod.mk.injEq, Prod.mk.injEq] at hsite
    obtain ⟨hname, rfl, rfl, rfl⟩ := hsite
    exact ⟨s, a, hs, List.mem_zipIdx_iff_getElem?.1 ha, hname, rfl⟩
  · rintro ⟨s, a, hs, ha, rfl, rfl⟩
    exact ⟨(path, s), hs, (a, i), List.mem_zipIdx_iff_getElem?.2 ha, if_pos rfl⟩

/-- A name that is reused is bound by nothing but the alias for which it was chosen. -/
theorem firstUnshared_some {m : Module} {sites : List (Path × Nat × Text)} {bound : Text}
    (h : firstUnshared m sites = .ok (some bound)) :
    ∃ path i names, (path, i, bound) ∈ sites ∧ boundNames m (some (path, i)) = .ok names ∧
      bound ∉ names := by
  induction sites with
  | nil => cases h
  | cons site rest ih =>
    obtain ⟨path, i, name⟩ := site
    rw [firstUnshared] at h
    obtain ⟨names, hnames, h⟩ := bind_ok.1 h
    split at h
    · obtain ⟨path', i', names', hsite, hfound⟩ := ih h
      exact ⟨path', i', names', List.mem_cons_of_mem _ hsite, hfound⟩
    · rename_i hfree
      cases h
      exact ⟨path, i, names, List.mem_cons_self, hnames, by simpa using hfree⟩

/-! ## Runs -/

/-- The names that a module binds to what the old function raises. -/
def Module.notFoundNames (m : Module) : List Text :=
  bindingsOf legacyNotFound ((Stmt.nodesIn m.body).flatMap (·.takenFrom legacyVersionModule))

theorem VersionPlan.notFound_eq {p : VersionPlan} {m : Module} (hwalk : m.walk.all = .ok p.items) :
    p.bindings legacyNotFound = m.notFoundNames := by
  rw [bindings, Module.notFoundNames, ← Module.walk_all hwalk, List.flatMap_map]

/-- A name that no import has already is fresh. -/
theorem VersionPlan.Of.fresh {p : VersionPlan} {targetModule targetFunction : Text} {m : Module}
    (of : p.Of targetModule targetFunction m) (hnone : p.existing = none) :
    (∀ item ∈ m.walk.items, ∀ index, ¬item.2.BindsBy p.function index) ∧ ¬m.Uses p.function := by
  rcases of.function with hsome | ⟨-, bound, used, hbound, hused, hfresh⟩
  · cases hnone.symm.trans hsome
  have hfree := freeName_not_mem targetFunction (bound ++ used)
  rw [← hfresh, List.mem_append, not_or] at hfree
  refine ⟨fun item hitem index hbinds => ?_, fun huses => ?_⟩
  · exact hfree.1 ((mem_boundNames hbound).2 ⟨item, hitem, index, hbinds, nofun⟩)
  · exact hfree.2 (((usedNames_ok hused).2 _).2 huses)

/-- Imports apart, a module has become another by calls of a function in place of version lookups: by
so many guarded lookups that have collapsed, and so many others. -/
def CallsInstead (function : Text) (m m' : Module) (collapsed rewritten : Nat) : Prop :=
  ∃ mid after,
    (replaceStmts (collapse m.lookupNames m.notFoundNames function)).perform m = (.ok collapsed, mid) ∧
    (rewriteExprs fun e => .ok (lookupCall m.lookupNames function e)).perform mid =
      (.ok rewritten, after) ∧
    Stmt.content m'.body = Stmt.content after.body

namespace VersionRun

variable {p : VersionPlan} {targetModule targetFunction : Text} {m m' : Module}
  {report : Option VersionReport}

theorem report_some (r : VersionRun p targetModule targetFunction m report m')
    {done : VersionReport} (h : report = some done) :
    done.collapsed = r.collapsed ∧ done.rewritten = r.rewritten ∧ done.inserted = r.inserted := by
  have hreport := h.symm.trans r.report_eq
  split at hreport
  · cases hreport
  · cases hreport
    exact ⟨rfl, rfl, rfl⟩

theorem calls (r : VersionRun p targetModule targetFunction m report m') :
    CallsInstead p.function m m' r.collapsed r.rewritten := by
  have hcallers : p.callers = m.lookupNames := VersionPlan.callers_eq r.of.walk
  have hnotFound := VersionPlan.notFound_eq r.of.walk
  refine ⟨r.afterCollapse, r.afterRewrite, ?_, ?_, (r.content.1.trans r.content.2).symm⟩
  · rw [← hcallers, ← hnotFound]
    exact r.collapse
  · rw [← hcallers]
    exact r.rewrite

end VersionRun

/-- Words of the source text of a statement that is captured whole are in use. -/
theorem Module.uses_of_hasWord {m : Module} {kind source word : Text} {location : Option Location}
    (hs : .captured kind (some source) location ∈ Stmt.nodesIn m.body) (hword : word.IsAsciiWord)
    (h : source.HasWord word) : m.Uses word :=
  ⟨_, hs, .inr (.inr (Text.mem_asciiWords hword h))⟩

/-- The function that is called in place of version lookups has the name that one import of it binds
and nothing else, or a name that nothing binds or refers to, and that stands in the source text of no
statement. -/
theorem modernizeVersions_function {targetModule targetFunction : Text} {m m' : Module}
    {done : VersionReport}
    (h : (modernizeVersions targetModule targetFunction).perform m = (.ok (some done), m'))
    (hdone : 0 < done.collapsed ∨ 0 < done.rewritten) :
    ∃ function, CallsInstead function m m' done.collapsed done.rewritten ∧
      ((done.inserted = false ∧ ∃ path i s a, (path, s) ∈ m.walk.items ∧
          (s.takenFrom targetModule)[i]? = some a ∧ a.name = targetFunction ∧
          a.memberBinding = function ∧
          ∀ item ∈ m.walk.items, ∀ index, item.2.BindsBy function index →
            item.1 = path ∧ index = some i) ∨
        (done.inserted = true ∧
          (∀ item ∈ m.walk.items, ∀ index, ¬item.2.BindsBy function index) ∧ ¬m.Uses function ∧
          (function.IsAsciiWord → ∀ kind source location,
            .captured kind (some source) location ∈ Stmt.nodesIn m.body →
              ¬source.HasWord function))) := by
  obtain ⟨hnone, -⟩ | ⟨p, -, ⟨r⟩⟩ := modernizeVersions_ok h
  · cases hnone
  obtain ⟨hcollapsed, hrewritten, hinserted⟩ := r.report_some rfl
  refine ⟨p.function, ?_, ?_⟩
  · rw [hcollapsed, hrewritten]
    exact r.calls
  have hchanged : (0 < r.collapsed || 0 < r.rewritten) = true := by
    rw [hcollapsed, hrewritten] at hdone
    simpa using hdone
  have hexisting : done.inserted = p.existing.isNone := by
    rw [hinserted, r.inserted_eq, hchanged, Bool.and_true]
  obtain ⟨hwalk, hitems⟩ := Walk.all_ok.1 r.of.walk
  rcases r.of.function with hsome | ⟨hnone, -⟩
  · refine .inl ⟨by rw [hexisting, hsome]; rfl, ?_⟩
    obtain ⟨path, i, names, hsite, hnames, hfree⟩ :=
      firstUnshared_some (r.of.existing.trans (congrArg _ hsome))
    obtain ⟨s, a, hs, ha, hname, hbinding⟩ := mem_bindingSites.1 hsite
    refine ⟨path, i, s, a, hitems ▸ hs, ha, hname, hbinding, fun item hitem index hbinds => ?_⟩
    by_contra hother
    refine hfree ((mem_boundNames hnames).2 ⟨item, hitem, index, hbinds, fun k hk hskip => ?_⟩)
    cases hskip
    exact hother ⟨rfl, hk⟩
  · obtain ⟨hunbound, hunused⟩ := r.of.fresh hnone
    refine .inr ⟨by rw [hexisting, hnone]; rfl, hunbound, hunused, ?_⟩
    intro hword kind source location hs hhas
    exact hunused (Module.uses_of_hasWord hs hword hhas)

/-- A lookup in a module that has an import of the new function, and a loop over the name of that
import. -/
def reboundSample : Module :=
  ⟨[.importFrom (some "pkg_resources") [⟨"get_distribution", none⟩] 0 none,
    .importFrom (some "importlib.metadata") [⟨"version", none⟩] 0 none,
    .captured "For" (some "for version in []:\n    pass") none,
    .expr (.attribute (.call (.name "get_distribution") [.string "x"] []) "version") none]⟩

theorem modernizeVersions_function_sample :
    ∃ done m', (modernizeVersions "importlib.metadata" "version").perform reboundSample =
        (.ok (some done), m') ∧ 0 < done.rewritten ∧ done.inserted = false ∧
      ∃ function, CallsInstead function reboundSample m' done.collapsed done.rewritten ∧
        ∃ path i, ∀ item ∈ reboundSample.walk.items, ∀ index, item.2.BindsBy function index →
          item.1 = path ∧ index = some i := by
  have hrun : ∃ done m', (modernizeVersions "importlib.metadata" "version").perform reboundSample =
      (.ok (some done), m') ∧ 0 < done.rewritten ∧ done.inserted = false :=
    ⟨_, _, rfl, by decide, rfl⟩
  obtain ⟨done, m', hrun, hrewritten, hreused⟩ := hrun
  obtain ⟨function, hcalls, ⟨-, path, i, -, -, -, -, -, -, honly⟩ | ⟨hinserted, -⟩⟩ :=
    modernizeVersions_function hrun (.inr hrewritten)
  · exact ⟨done, m', hrun, hrewritten, hreused, function, hcalls, path, i, honly⟩
  · cases hreused.symm.trans hinserted

/-- A name is reused although the source text of a statement binds it again. -/
theorem modernizeVersions_reuses_rebound :
    ∃ done m' source location,
      (modernizeVersions "importlib.metadata" "version").perform reboundSample =
        (.ok (some done), m') ∧
      done.rewritten = 1 ∧ done.inserted = false ∧
      .expr (.call (.name "version") [.string "x"] []) none ∈ m'.body ∧
      .captured "For" (some source) location ∈ reboundSample.body ∧
      source.HasWord "version" := by
  refine ⟨⟨0, 1, ["get_distribution"], false⟩,
    ⟨[.importFrom (some "importlib.metadata") [⟨"version", none⟩] 0 none,
      .captured "For" (some "for version in []:\n    pass") none,
      .expr (.call (.name "version") [.string "x"] []) none]⟩,
    "for version in []:\n    pass", none, rfl, rfl, rfl, ?_, ?_, ?_⟩
  · exact List.mem_cons_of_mem _ (List.mem_cons_of_mem _ List.mem_cons_self)
  · exact List.mem_cons_of_mem _ (List.mem_cons_of_mem _ List.mem_cons_self)
  · exact ⟨"for ", " in []:\n    pass", rfl, by decide, by decide⟩

end Refactory
