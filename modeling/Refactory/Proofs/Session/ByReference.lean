import Refactory.Proofs.Session.Effect
import Refactory.Proofs.Tree.Replacement

/-! # Edits by reference

A reference that a question about a module has just given leads to its statement, so the edits by
reference succeed on it, and they touch nothing but the place referred to
(`Session.edits_by_reference`). -/

namespace Refactory

/-! ## References -/

/-- A reference to the statement at its path is good. -/
theorem Ref.check_of_follow {m : Module} {r : Ref} {s : Stmt}
    (hs : Block.follow m.body r.path = some s) (hr : Ref.of r.path s = .ok r) :
    r.check m = .ok () := by
  obtain ⟨kind, hkind, hmk⟩ := bind_ok.1 hr
  cases r
  cases hmk
  rw [Ref.check, Module.resolve_iff.2 hs]
  simp [hkind, bind, Except.bind]

/-! ## Steps -/

theorem editRef_ok {r : Ref} {edit : Block → Nat → Block} {m m' : Module} (hcheck : r.check m = .ok ())
    (hedit : m.editAt r.path edit = .ok m') : (editRef r edit).perform m = (.ok (), m') := by
  rw [editRef, Edit.perform_bind_ok]
  refine ⟨m, m, rfl, ?_⟩
  simp only [hcheck, hedit, bind, Except.bind]
  rfl

namespace Session

/-- A step that puts statements in by a good reference succeeds and logs the change. -/
theorem perform_put {s : Session} {r : Ref} {t : Stmt} {above : Path} {k : Nat}
    (hpath : r.path = above ++ [(k : Int)]) (ht : Block.follow s.module.body r.path = some t)
    (hr : Ref.of r.path t = .ok r) {new : List Stmt} {lo hi : Nat} (hlo : lo ≤ hi) (hhi : hi ≤ 1)
    {edit : Block → Nat → Block} (hput : ∀ b i, edit b i = b.put new (i + lo) (i + hi))
    (change : Change) :
    ∃ s', (record (do editRef r edit; return change) some).perform s = (.ok change, s') ∧
      s.module.Spliced s'.module above (k + lo) (k + hi) new := by
  obtain ⟨m', hedit, hspliced⟩ := Module.editAt_spliced new hlo hhi (hpath ▸ ht)
  rw [← hpath, ← funext fun b => funext (hput b)] at hedit
  have h : (do editRef r edit; return change : Edit Change).perform s.module = (.ok change, m') :=
    Edit.perform_bind_ok.2 ⟨(), m', editRef_ok (Ref.check_of_follow ht hr) hedit, rfl⟩
  refine ⟨{ s with module := m', history := (change, s.module) :: s.history }, ?_, hspliced⟩
  rw [perform_record, h]

/-- A step that asks for the statements to put in, and gets them. -/
theorem perform_statements {s : Session} {i : Insertion} {new : List Stmt}
    (h : i.statements = .ok new) (next : List Stmt → Step Change) :
    Step.perform (do let new ← i.statements; next new) s = (next new).perform s := by
  rw [h, Step.perform_bind]
  rfl

theorem perform_insertion {s : Session} {new : List Stmt} (hnew : new ≠ [])
    (next : List Stmt → Step Change) :
    Step.perform (do let new ← (Insertion.many new).statements; next new) s =
      (next new).perform s := by
  refine perform_statements ?_ next
  cases new with
  | nil => exact (hnew rfl).elim
  | cons t rest => rfl

/-- Edits by reference succeed on every reference that was found, and touch nothing but the place
referred to. -/
theorem edits_by_reference {s : Session}
    (h : ∀ t ∈ Stmt.nodesIn s.module.body, t.isNode = true) (kind : Option NodeKind) :
    ∃ refs, findNodes s.module kind = .ok refs ∧ ∀ r ∈ refs, ∃ (above : Path) (k : Nat),
      r.path = above ++ [(k : Int)] ∧
      (∀ new, new ≠ [] →
        (∃ c s', (replaceNode r (.many new)).perform s = (.ok c, s') ∧
          s.module.Spliced s'.module above k (k + 1) new) ∧
        (∃ c s', (insertBefore r (.many new)).perform s = (.ok c, s') ∧
          s.module.Spliced s'.module above k k new) ∧
        ∃ c s', (insertAfter r (.many new)).perform s = (.ok c, s') ∧
          s.module.Spliced s'.module above (k + 1) (k + 1) new) ∧
      ∃ c s', (removeNode r).perform s = (.ok c, s') ∧
        s.module.Spliced s'.module above k (k + 1) [] := by
  obtain ⟨refs, hrefs⟩ := findNodes_exists h kind
  refine ⟨refs, hrefs, fun r hr => ?_⟩
  obtain ⟨t, hmem, href⟩ := mem_findNodes hrefs hr
  have hfollow := (Module.mem_walk h).1 hmem
  obtain ⟨above, k, hpath⟩ := Block.follow_path hfollow
  refine ⟨above, k, hpath, fun new hnew => ⟨?_, ?_, ?_⟩, ?_⟩
  · rw [replaceNode, perform_insertion hnew]
    exact ⟨_, perform_put hpath hfollow href (Nat.zero_le 1) (Nat.le_refl 1) (fun _ _ => rfl) _⟩
  · rw [insertBefore, perform_insertion hnew]
    exact ⟨_, perform_put hpath hfollow href (Nat.le_refl 0) (Nat.zero_le 1) (fun _ _ => rfl) _⟩
  · rw [insertAfter, perform_insertion hnew]
    exact ⟨_, perform_put hpath hfollow href (Nat.le_refl 1) (Nat.le_refl 1) (fun _ _ => rfl) _⟩
  · refine ⟨_, perform_put hpath hfollow href (Nat.zero_le 1) (Nat.le_refl 1) (fun b i => ?_) _⟩
    rw [Block.put, List.append_nil, Nat.add_zero, List.eraseIdx_eq_take_drop_succ]

/-- Two statements put behind the body of a `try`: what its handler holds moves on by two. -/
theorem edits_by_reference_sample :
    let s : Session := ⟨⟨[.pass none, .function ⟨"f", [], none, [], false⟩ [
      .tryExcept [.pass none] [⟨some (.name "E"), none, [.ret none none]⟩] [] [.pass none] none] none]⟩,
      [], none, .lenient, "importlib.metadata", "version"⟩
    let r : Ref := ⟨[1, 0, 0], .other, none, none⟩
    let new : List Stmt := [.expr (.name "a") none, .expr (.name "b") none]
    (∀ t ∈ Stmt.nodesIn s.module.body, t.isNode = true) ∧ new ≠ [] ∧
    ∃ c s', (insertAfter r (.many new)).perform s = (.ok c, s') ∧
      s'.module.resolve [1, 0, 2] = .ok (.expr (.name "b") none) ∧
      s'.module.resolve [1, 0, 3] = .ok (.ret none none) := by
  intro s r new
  have h : ∀ t ∈ Stmt.nodesIn s.module.body, t.isNode = true := by decide
  have hnew : new ≠ [] := by decide
  obtain ⟨refs, hrefs, hall⟩ := edits_by_reference h none
  have hr : r ∈ refs := by
    cases hrefs
    decide
  obtain ⟨above, k, hpath, hedits, -⟩ := hall r hr
  obtain ⟨rfl, rfl⟩ : above = [1, 0] ∧ k = 0 := by
    have hsame : [1, 0] ++ [((0 : Nat) : Int)] = above ++ [(k : Int)] := hpath
    obtain ⟨habove, hk⟩ := List.append_inj' hsame rfl
    exact ⟨habove.symm, (Int.ofNat.inj (List.cons.inj hk).1).symm⟩
  obtain ⟨-, -, c, s', hperform, hspliced⟩ := hedits new hnew
  refine ⟨h, hnew, c, s', hperform, hspliced.placed 1 (by decide), ?_⟩
  exact hspliced.kept [1, 0, 1] _ rfl (by decide) fun n hfirst hpast => by omega

end Session

end Refactory
