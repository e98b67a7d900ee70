import Refactory.Modernize.Version
import Refactory.Proofs.Tree.Imports

/-! # Imports put in place of others

A splice acts on the imports of a block as on the plain list of them (`Stmt.spliceBlock_importList`),
and putting every import back where it stood changes nothing (`Stmt.spliceBlock_self`). -/

namespace Refactory

variable {isIt : Stmt → Bool}

theorem Stmt.spliceBlock_append (news : List (List Stmt)) (b c : List Stmt) :
    Stmt.spliceBlock isIt news (b ++ c) =
      ((Stmt.spliceBlock isIt news b).1 ++
        (Stmt.spliceBlock isIt (Stmt.spliceBlock isIt news b).2 c).1,
        (Stmt.spliceBlock isIt (Stmt.spliceBlock isIt news b).2 c).2) := by
  induction b generalizing news with
  | nil => simp [Stmt.spliceBlock]
  | cons s rest ih => simp [Stmt.spliceBlock, ih]

theorem Stmt.spliceBlock_singleton (news : List (List Stmt)) (s : Stmt) :
    Stmt.spliceBlock isIt news [s] = s.splice isIt news := by
  simp [Stmt.spliceBlock]

theorem Stmt.splice_other {s : Stmt} (hs : s.blocks = []) (h : isIt s = false) (news : List (List Stmt)) :
    s.splice isIt news = ([s], news) := by
  cases news <;> cases s <;> simp_all [Stmt.splice, Stmt.blocks]

theorem Stmt.splice_nil {s : Stmt} (hs : s.blocks = []) : s.splice isIt [] = ([s], []) := by
  cases s <;> simp_all [Stmt.splice, Stmt.blocks]

theorem Stmt.splice_plain {s : Stmt} (hisIt : ∀ s, isIt s = true → s.isImport = true)
    (hs : s.blocks = []) (h : s.isImport = false) (news : List (List Stmt)) :
    s.splice isIt news = ([s], news) := by
  refine Stmt.splice_other hs ?_ news
  rw [Bool.eq_false_iff]
  intro hit
  rw [hisIt s hit] at h
  cases h

theorem Stmt.splice_hit {s : Stmt} (hs : s.isImport = true) (h : isIt s = true)
    (new : List Stmt) (news : List (List Stmt)) : s.splice isIt (new :: news) = (new, news) := by
  cases s <;> simp_all [Stmt.splice, Stmt.isImport]

mutual

theorem Stmt.splice_importList (hisIt : ∀ s, isIt s = true → s.isImport = true) :
    ∀ (news : List (List Stmt)) (s : Stmt),
      Stmt.importListIn (s.splice isIt news).1 =
          Stmt.importListIn (Stmt.spliceBlock isIt news s.importList).1 ∧
        (s.splice isIt news).2 = (Stmt.spliceBlock isIt news s.importList).2
  | news, .function head body location => by
    simpa [Stmt.splice, Stmt.importListIn, Stmt.importList] using
      Stmt.spliceBlock_importList hisIt news body
  | news, .classDef head body location => by
    simpa [Stmt.splice, Stmt.importListIn, Stmt.importList] using
      Stmt.spliceBlock_importList hisIt news body
  | news, .tryExcept body handlers orelse finalbody location => by
    have hb := fun news => Stmt.spliceBlock_importList hisIt news body
    have hh := fun news => Handler.spliceEach_importList hisIt news handlers
    have ho := fun news => Stmt.spliceBlock_importList hisIt news orelse
    have hf := fun news => Stmt.spliceBlock_importList hisIt news finalbody
    simp [Stmt.splice, Stmt.importListIn, Stmt.importList, Stmt.spliceBlock_append, hb, hh, ho, hf]
  | news, .importNames .. | news, .importFrom .. => by
    simp [Stmt.importList, Stmt.spliceBlock_singleton]
  | news, .assign .. | news, .ret .. | news, .pass _ | news, .expr .. | news, .captured ..
  | news, .foreign _ => by
    rw [Stmt.splice_plain hisIt rfl rfl]
    simp [Stmt.importListIn, Stmt.importList, Stmt.spliceBlock]

/-- A splice of imports acts on the list of all imports. -/
theorem Stmt.spliceBlock_importList (hisIt : ∀ s, isIt s = true → s.isImport = true) :
    ∀ (news : List (List Stmt)) (b : List Stmt),
      Stmt.importListIn (Stmt.spliceBlock isIt news b).1 =
          Stmt.importListIn (Stmt.spliceBlock isIt news (Stmt.importListIn b)).1 ∧
        (Stmt.spliceBlock isIt news b).2 =
          (Stmt.spliceBlock isIt news (Stmt.importListIn b)).2
  | news, [] => by simp [Stmt.spliceBlock, Stmt.importListIn]
  | news, s :: rest => by
    have hs := fun news => Stmt.splice_importList hisIt news s
    have hrest := fun news => Stmt.spliceBlock_importList hisIt news rest
    simp [Stmt.spliceBlock, Stmt.importListIn, Stmt.spliceBlock_append, hs, hrest]

theorem Handler.spliceEach_importList (hisIt : ∀ s, isIt s = true → s.isImport = true) :
    ∀ (news : List (List Stmt)) (hs : List Handler),
      Handler.importListIn (Handler.spliceEach isIt news hs).1 =
          Stmt.importListIn (Stmt.spliceBlock isIt news (Handler.importListIn hs)).1 ∧
        (Handler.spliceEach isIt news hs).2 =
          (Stmt.spliceBlock isIt news (Handler.importListIn hs)).2
  | news, [] => by simp [Handler.spliceEach, Stmt.spliceBlock, Handler.importListIn, Stmt.importListIn]
  | news, .mk _ _ body :: rest => by
    have hb := fun news => Stmt.spliceBlock_importList hisIt news body
    have hrest := fun news => Handler.spliceEach_importList hisIt news rest
    simp [Handler.spliceEach, Handler.importListIn, Stmt.spliceBlock_append, hb, hrest]

end

/-- Of the imports that a splice is about, the first are replaced and the others stay. -/
theorem Stmt.spliceBlock_filter (hisIt : ∀ s, isIt s = true → s.isImport = true)
    {news : List (List Stmt)} {b : List Stmt} (hnews : ∀ new ∈ news, ∀ t ∈ new, t.isImport = true)
    (hlength : news.length ≤ ((Stmt.importListIn b).filter isIt).length) :
    (Stmt.importListIn (Stmt.spliceBlock isIt news b).1).filter isIt =
      news.flatten.filter isIt ++ ((Stmt.importListIn b).filter isIt).drop news.length := by
  rw [(Stmt.spliceBlock_importList hisIt news b).1]
  have himports := Stmt.importListIn_isImport b
  generalize Stmt.importListIn b = imports at hlength himports
  induction imports generalizing news with
  | nil =>
    have hnone : news = [] := by simpa using hlength
    simp [hnone, Stmt.spliceBlock, Stmt.importListIn]
  | cons s rest ih =>
    rw [List.forall_mem_cons] at himports
    have hself : s.importList = [s] := by simp [Stmt.importList_eq, himports.1]
    simp only [Stmt.spliceBlock, Stmt.importListIn_append, List.filter_append]
    cases hit : isIt s with
    | false =>
      rw [List.filter_cons_of_neg (by simp [hit])] at hlength ⊢
      rw [Stmt.splice_other (Stmt.isImport_blocks himports.1) hit, ih hnews hlength himports.2]
      simp [Stmt.importListIn, hself, hit]
    | true =>
      rw [List.filter_cons_of_pos hit] at hlength ⊢
      cases news with
      | nil =>
        rw [Stmt.splice_nil (Stmt.isImport_blocks himports.1), ih hnews (Nat.zero_le _) himports.2]
        simp [Stmt.importListIn, hself, hit]
      | cons new news =>
        rw [List.forall_mem_cons] at hnews
        rw [List.length_cons, List.length_cons, Nat.add_le_add_iff_right] at hlength
        rw [Stmt.splice_hit himports.1 hit, ih hnews.2 hlength himports.2,
          Stmt.importListIn_of_imports hnews.1]
        simp

/-! ## Putting imports back -/

mutual

theorem Stmt.splice_self (hisIt : ∀ s, isIt s = true → s.isImport = true) :
    ∀ (more : List (List Stmt)) (s : Stmt),
      s.splice isIt ((s.importList.filter isIt).map ([·]) ++ more) = ([s], more)
  | more, .function head body location => by
    simp [Stmt.splice, Stmt.importList, Stmt.spliceBlock_self hisIt more body]
  | more, .classDef head body location => by
    simp [Stmt.splice, Stmt.importList, Stmt.spliceBlock_self hisIt more body]
  | more, .tryExcept body handlers orelse finalbody location => by
    have hb := fun more => Stmt.spliceBlock_self hisIt more body
    have hh := fun more => Handler.spliceEach_self hisIt more handlers
    have ho := fun more => Stmt.spliceBlock_self hisIt more orelse
    have hf := fun more => Stmt.spliceBlock_self hisIt more finalbody
    simp [Stmt.splice, Stmt.importList, hb, hh, ho, hf]
  | more, .importNames names location => by
    cases h : isIt (.importNames names location) with
    | true => simp [Stmt.importList, h, Stmt.splice_hit rfl h]
    | false => simp [Stmt.importList, h, Stmt.splice_other rfl h]
  | more, .importFrom module names level location => by
    cases h : isIt (.importFrom module names level location) with
    | true => simp [Stmt.importList, h, Stmt.splice_hit rfl h]
    | false => simp [Stmt.importList, h, Stmt.splice_other rfl h]
  | more, .assign .. | more, .ret .. | more, .pass _ | more, .expr .. | more, .captured ..
  | more, .foreign _ => by
    rw [Stmt.splice_plain hisIt rfl rfl]
    simp [Stmt.importList]

/-- Putting every import in its own place changes nothing. -/
theorem Stmt.spliceBlock_self (hisIt : ∀ s, isIt s = true → s.isImport = true) :
    ∀ (more : List (List Stmt)) (b : List Stmt),
      Stmt.spliceBlock isIt (((Stmt.importListIn b).filter isIt).map ([·]) ++ more) b = (b, more)
  | more, [] => by simp [Stmt.spliceBlock, Stmt.importListIn]
  | more, s :: rest => by
    have hs := fun more => Stmt.splice_self hisIt more s
    have hrest := fun more => Stmt.spliceBlock_self hisIt more rest
    simp [Stmt.spliceBlock, Stmt.importListIn, hs, hrest]

theorem Handler.spliceEach_self (hisIt : ∀ s, isIt s = true → s.isImport = true) :
    ∀ (more : List (List Stmt)) (hs : List Handler),
      Handler.spliceEach isIt (((Handler.importListIn hs).filter isIt).map ([·]) ++ more) hs =
        (hs, more)
  | more, [] => by simp [Handler.spliceEach, Handler.importListIn]
  | more, .mk _ _ body :: rest => by
    have hb := fun more => Stmt.spliceBlock_self hisIt more body
    have hrest := fun more => Handler.spliceEach_self hisIt more rest
    simp [Handler.spliceEach, Handler.importListIn, hb, hrest]

end

end Refactory
