import Refactory.Batch

/-! # What a batch reports

The files that paths stand for come each once (`Batch.Discovers`), and every result of a report is counted
under one status (`Report.count_total`). A file is reported, or its fault ends the batch
(`Batch.processFile_perform`). Which faults these are is not said here. -/

namespace Refactory

/-! ## Files, each once -/

section

variable {α κ : Type} [BEq κ] [LawfulBEq κ] {key : α → κ}

theorem firstByKey_nodup (as : List α) (seen : List κ) :
    ((firstByKey key seen as).map key).Nodup ∧ ∀ a ∈ firstByKey key seen as, key a ∉ seen := by
  induction as generalizing seen with
  | nil => exact ⟨List.nodup_nil, List.forall_mem_nil _⟩
  | cons a as ih =>
    rw [firstByKey]
    split
    · exact ih seen
    · rename_i hseen
      obtain ⟨hnodup, hfresh⟩ := ih (key a :: seen)
      have ha : key a ∉ seen := fun hmem => hseen (List.contains_iff_mem.2 hmem)
      refine ⟨?_, List.forall_mem_cons.2 ⟨ha, fun c hc hmem => hfresh c hc ?_⟩⟩
      · rw [List.map_cons, List.nodup_cons]
        refine ⟨fun hmem => ?_, hnodup⟩
        obtain ⟨c, hc, heq⟩ := List.mem_map.1 hmem
        exact hfresh c hc (heq ▸ List.mem_cons_self)
      · exact List.mem_cons_of_mem _ hmem

theorem firstByKey_covers (as : List α) (seen : List κ) :
    ∀ a ∈ as, key a ∈ seen ∨ ∃ c ∈ firstByKey key seen as, key c = key a := by
  induction as generalizing seen with
  | nil => exact List.forall_mem_nil _
  | cons a as ih =>
    rw [firstByKey]
    split
    · rename_i hseen
      exact List.forall_mem_cons.2 ⟨.inl (List.contains_iff_mem.1 hseen), ih seen⟩
    · refine List.forall_mem_cons.2 ⟨.inr ⟨a, List.mem_cons_self, rfl⟩, fun c hc => ?_⟩
      rcases ih (key a :: seen) c hc with hmem | ⟨c', hc', heq⟩
      · rcases List.mem_cons.1 hmem with heq | hmem
        · exact .inr ⟨a, List.mem_cons_self, heq.symm⟩
        · exact .inl hmem
      · exact .inr ⟨c', List.mem_cons_of_mem _ hc', heq⟩

omit [LawfulBEq κ] in
theorem firstByKey_sublist (as : List α) (seen : List κ) : (firstByKey key seen as).Sublist as := by
  induction as generalizing seen with
  | nil => exact .slnil
  | cons a as ih =>
    rw [firstByKey]
    split
    · exact (ih seen).cons a
    · exact (ih (key a :: seen)).cons_cons a

end

/-- What is found at paths: the files that they stand for in the order in which they come, each once,
and the paths at which there is nothing. -/
structure Batch.Discovers (b : Batch) (d : Disk) (paths files missing : List FilePath) : Prop where
  missing_eq : missing = paths.filter fun p => !d.isFolder p && !d.isFile p
  sublist : files.Sublist (paths.flatMap fun p => (Batch.expand b.config.excluded d p).getD [])
  nodup : (files.map fun p => (d.locate p).toOption).Nodup
  covers : ∀ p ∈ paths, ∀ c ∈ (Batch.expand b.config.excluded d p).getD [],
    ∃ f ∈ files, (d.locate f).toOption = (d.locate c).toOption

theorem Batch.discover_discovers (b : Batch) (d : Disk) (paths : List FilePath) :
    b.Discovers d paths (b.discover d paths).1 (b.discover d paths).2 where
  missing_eq := by
    simp only [discover, List.filterMap_map, ← List.filterMap_eq_filter]
    congr 1
    funext p
    simp only [Function.comp_apply, expand, Option.guard]
    by_cases hfolder : d.isFolder p <;> by_cases hfile : d.isFile p <;> simp [hfolder, hfile]
  sublist := by
    simp only [discover, List.flatMap_map]
    exact firstByKey_sublist _ _
  nodup := (firstByKey_nodup _ _).1
  covers p hp c hc := by
    simp only [discover, List.flatMap_map]
    have hmem : c ∈ paths.flatMap fun p => (expand b.config.excluded d p).getD [] :=
      List.mem_flatMap.2 ⟨p, hp, hc⟩
    exact (firstByKey_covers _ _ c hmem).resolve_left List.not_mem_nil

/-! ## Counts -/

theorem Report.count_total (r : Report) :
    r.count .changed + r.count .unchanged + r.count .failed = r.results.length := by
  obtain ⟨results⟩ := r
  induction results with
  | nil => rfl
  | cons f results ih =>
    obtain ⟨path, status, changes, error, written⟩ := f
    simp only [Report.count, List.countP_cons, List.length_cons] at ih ⊢
    cases status <;> simp <;> omega

/-! ## Steps -/

namespace BatchStep

variable {α β : Type}

theorem perform_bind (p : BatchStep α) (next : α → BatchStep β) (s : BatchState) :
    (p >>= next).perform s =
      match p.perform s with
      | (.ok a, s') => (next a).perform s'
      | (.error f, s') => (.error f, s') := by
  change BatchStep.perform (ExceptT.bind p next) s = _
  simp only [BatchStep.perform, ExceptT.run, ExceptT.bind, ExceptT.mk, StateT.run_bind]
  rcases StateT.run p s with ⟨_ | _, _⟩ <;> rfl

@[simp] theorem perform_pure (a : α) (s : BatchState) :
    (pure a : BatchStep α).perform s = (.ok a, s) := rfl

@[simp] theorem perform_throw (f : Fault) (s : BatchState) :
    (throw f : BatchStep α).perform s = (.error f, s) := rfl

@[simp] theorem perform_get (s : BatchState) :
    (get : BatchStep BatchState).perform s = (.ok s, s) := rfl

@[simp] theorem perform_set (new s : BatchState) :
    (set new : BatchStep PUnit).perform s = (.ok ⟨⟩, new) := rfl

@[simp] theorem perform_map (f : α → β) (p : BatchStep α) (s : BatchState) :
    (f <$> p).perform s = ((p.perform s).1.map f, (p.perform s).2) := by
  rw [map_eq_pure_bind, perform_bind]
  rcases p.perform s with ⟨_ | _, _⟩ <;> rfl

theorem perform_note_journal (e : JournalEntry) (s : BatchState) :
    (Batch.note e).perform s = (.ok ⟨⟩, { s with journal := s.journal.map (·.log e) }) := rfl

/-- Nothing is noted without a journal. -/
@[simp] theorem perform_note (e : JournalEntry) (d : Disk) :
    (Batch.note e).perform ⟨d, none⟩ = (.ok ⟨⟩, ⟨d, none⟩) := rfl

end BatchStep

namespace Batch

variable [Codecs] {b : Batch}

/-- What the report says of a file that was processed, unless the batch ends there. -/
def reported? (p : FilePath) : Except Fault FileResult → Option FileResult
  | .ok result => some result
  | .error f =>
    if isReported f then some { path := p.render, status := .failed, error := some f.message }
    else none

theorem process_path {d : Disk} {p : FilePath} {r : FileResult} (h : (b.process d p).1 = .ok r) :
    r.path = p.render := by
  rw [process] at h
  split at h
  · cases h
  · dsimp only at h
    split at h
    · cases h
      rfl
    · split at h
      · rename_i session _ _ _
        cases hwrite : (b.writeBack d p session).1 with
        | error f =>
          rw [hwrite] at h
          cases h
        | ok written =>
          rw [hwrite] at h
          cases h
          rfl
      · cases h
        rfl

/-- A file is reported, or it ends the batch. -/
theorem processFile_perform (b : Batch) (d : Disk) (p : FilePath) :
    (∃ r, reported? p (b.process d p).1 = some r ∧
      (b.processFile p).perform ⟨d, none⟩ = (.ok r, ⟨(b.process d p).2, none⟩)) ∨
    ∃ f, (b.process d p).1 = .error f ∧ isReported f = false ∧
      (b.processFile p).perform ⟨d, none⟩ = (.error f, ⟨(b.process d p).2, none⟩) := by
  rcases hprocess : b.process d p with ⟨f | r, disk⟩
  · cases hreported : isReported f with
    | true =>
      refine .inl ⟨_, by rw [reported?, hreported]; rfl, ?_⟩
      simp [processFile, BatchStep.perform_bind, Except.map, hprocess, hreported]
    | false =>
      refine .inr ⟨f, rfl, hreported, ?_⟩
      simp [processFile, BatchStep.perform_bind, hprocess, hreported]
  · refine .inl ⟨r, rfl, ?_⟩
    simp [processFile, BatchStep.perform_bind, Except.map, hprocess]

end Batch

end Refactory
