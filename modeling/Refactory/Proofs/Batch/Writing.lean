import Refactory.Proofs.Batch.Report
import Refactory.Proofs.Rewrite.Perform

/-! # What writing leaves behind

Writing touches one place at most. A file that is written holds what the codec of the encoding has passed
on, and only then is success reported; what fails before the file is opened changes nothing
(`Disk.Attempt`, `Session.save_attempt`, `Batch.processFile_attempt`). So a file holds all of its text or
what it held before, unless the codec refuses the text or holds some of it back
(`Disk.Attempt.allOrNothing_iff`): that is found out too late, when the file has been emptied
(`Session.save_loses_file`), or not at all (`Session.save_holds_back`).

Nothing is supposed of the codecs (`Codecs`) but that their faults are those of encoding and decoding. -/

namespace Refactory

/-- What a file holds to which a text has been written, in an encoding that is given by its name. -/
def Codecs.written [Codecs] (encoding t : Text) : Except FileFault Bytes :=
  named encoding >>= (·.write t)

/-- The bytes of a text in an encoding that is given by its name. -/
def Codecs.stored [Codecs] (encoding t : Text) : Except FileFault Bytes :=
  named encoding >>= (·.encode t)

/-- What an attempt to write a text leaves in its file. -/
def Codecs.leaves [Codecs] (encoding t : Text) : Bytes := (written encoding t).toOption.getD []

namespace Disk

variable {d : Disk} {place : Place} {p : FilePath}

/-! ## One place -/

/-- One place holds what it is set to, and every other what it held before. -/
structure SetsOnly (before : Disk) (place : Place) (e : Entry) (after : Disk) : Prop where
  here : after.get? place = some e
  elsewhere : ∀ other, other ≠ place → after.get? other = before.get? other

theorem lookup_replace (entries : List (Place × Entry)) (e : Entry) (q : Place) :
    (entries.map fun (p, old) => if p == place then (p, e) else (p, old)).lookup q =
      (entries.lookup q).map fun old => if q = place then e else old := by
  induction entries with
  | nil => rfl
  | cons entry entries ih =>
    obtain ⟨p, old⟩ := entry
    have hkey : (if (p == place) = true then (p, e) else (p, old)) =
        (p, if p = place then e else old) := by
      by_cases hplace : p = place <;> simp [hplace]
    rw [List.map_cons]
    dsimp only
    rw [hkey, List.lookup_cons, List.lookup_cons]
    by_cases hq : q = p
    · rw [hq, beq_self_eq_true, Option.map_some]
    · rw [beq_eq_false_iff_ne.2 hq]
      exact ih

theorem get?_put (d : Disk) (hplace : place ≠ []) (e : Entry) (q : Place) :
    (d.put place e).get? q = if q = place then some e else d.get? q := by
  rw [put, get?, get?]
  by_cases hempty : q.isEmpty = true
  · have hq : q ≠ place := by
      rintro rfl
      exact hplace (List.isEmpty_iff.1 hempty)
    rw [if_pos hempty, if_pos hempty, if_neg hq]
  · rw [if_neg hempty, if_neg hempty]
    split
    · rename_i hthere
      obtain ⟨⟨p, old⟩, hmem, heq⟩ := List.any_eq_true.1 hthere
      rw [lookup_replace]
      split
      · rename_i hq
        have hsome : (d.entries.lookup q).isSome := List.lookup_isSome_iff.2
          ⟨(p, old), hmem, by rw [hq, beq_iff_eq]; exact (beq_iff_eq.1 heq).symm⟩
        obtain ⟨found, hfound⟩ := Option.isSome_iff_exists.1 hsome
        rw [hfound, Option.map_some]
      · rw [Option.map_id']
    · rename_i hthere
      rw [List.lookup_append]
      split
      · rename_i hq
        have hnone : d.entries.lookup q = none := List.lookup_eq_none_iff.2 fun entry hmem => by
          rw [Bool.not_eq_true, List.any_eq_false] at hthere
          have hne := hthere entry hmem
          rw [beq_iff_eq] at hne
          exact bne_iff_ne.2 fun heq => hne (heq.symm.trans hq)
        rw [hnone, hq, Option.none_or, List.lookup_cons, beq_self_eq_true]
      · rename_i hq
        rw [List.lookup_cons, beq_eq_false_iff_ne.2 hq, List.lookup_nil, Option.or_none]

theorem put_setsOnly (d : Disk) (hplace : place ≠ []) (e : Entry) :
    d.SetsOnly place e (d.put place e) where
  here := by rw [get?_put d hplace, if_pos rfl]
  elsewhere other hother := by rw [get?_put d hplace, if_neg hother]

theorem SetsOnly.unchanged_iff {e : Entry} {after : Disk} (h : d.SetsOnly place e after) :
    (∀ other, after.get? other = d.get? other) ↔ d.get? place = some e := by
  constructor
  · intro hsame
    rw [← hsame, h.here]
  · intro hplace other
    by_cases hother : other = place
    · rw [hother, h.here, hplace]
    · exact h.elsewhere other hother

/-- The working folder is no file that can be written. -/
theorem target_ne_nil (h : d.target p = .ok place) : place ≠ [] := by
  rintro rfl
  obtain ⟨found, -, hfound⟩ := bind_ok.1 h
  split at hfound
  · cases hfound
  · rename_i hnot
    cases hfound
    exact hnot rfl

/-! ## One attempt -/

variable [Codecs]

/-- How an attempt to write ends. It may come to a text that is to be written at a place; if it
does, all depends on whether the codec of the encoding takes the text. -/
inductive Attempt (before : Disk) (wants : Place → Text → Prop) (encoding : Text)
    (succeeds : Prop) (fails : FileFault → Prop) (after : Disk) : Prop
  | written (place : Place) (t : Text) (bytes : Bytes) (hwants : wants place t)
      (hbytes : Codecs.written encoding t = .ok bytes) (hsucceeds : succeeds)
      (hafter : before.SetsOnly place (.file bytes) after)
  | untouched (hwants : ∀ place t, ¬ wants place t) (hfails : ¬ succeeds) (hafter : after = before)
  | emptied (place : Place) (t : Text) (f : FileFault) (hwants : wants place t)
      (hbytes : Codecs.written encoding t = .error f) (hfails : ¬ succeeds) (hfault : fails f)
      (hafter : before.SetsOnly place (.file []) after)

theorem writeText_attempt (d : Disk) (p : FilePath) (encoding t : Text) :
    d.Attempt (fun place t' => d.target p = .ok place ∧ t' = t) encoding
      ((d.writeText p encoding t).1 = .ok ()) (fun f => (d.writeText p encoding t).1 = .error f)
      (d.writeText p encoding t).2 := by
  cases htarget : d.target p with
  | error f =>
    have hwrite : d.writeText p encoding t = (.error f, d) := by rw [writeText, htarget]
    rw [hwrite]
    exact .untouched (fun _ _ h => nomatch h.1) nofun rfl
  | ok place =>
    have hplace := target_ne_nil htarget
    cases hbytes : Codecs.written encoding t with
    | error f =>
      have hwrite : d.writeText p encoding t = (.error f, d.put place (.file [])) := by
        rw [Codecs.written] at hbytes
        simp only [writeText, htarget, hbytes]
      rw [hwrite]
      exact .emptied place t f ⟨rfl, rfl⟩ hbytes nofun rfl (put_setsOnly d hplace _)
    | ok bytes =>
      have hwrite : d.writeText p encoding t = (.ok (), d.put place (.file bytes)) := by
        rw [Codecs.written] at hbytes
        simp only [writeText, htarget, hbytes]
      rw [hwrite]
      exact .written place t bytes ⟨rfl, rfl⟩ hbytes rfl (put_setsOnly d hplace _)

/-- An attempt that comes to the same text and reports the same is the same attempt. -/
theorem Attempt.of_writeText {wants : Place → Text → Prop} {encoding t : Text} {succeeds : Prop}
    {fails : FileFault → Prop}
    (hwants : ∀ place t', wants place t' ↔ d.target p = .ok place ∧ t' = t)
    (hsucceeds : succeeds ↔ (d.writeText p encoding t).1 = .ok ())
    (hfails : ∀ f, (∃ place, d.target p = .ok place) → Codecs.written encoding t = .error f →
      (d.writeText p encoding t).1 = .error f → fails f) :
    d.Attempt wants encoding succeeds fails (d.writeText p encoding t).2 := by
  cases writeText_attempt d p encoding t with
  | written place t' bytes hplace hbytes hok hafter =>
    exact .written place t' bytes ((hwants _ _).2 hplace) hbytes (hsucceeds.2 hok) hafter
  | untouched hplace hno hafter =>
    exact .untouched (fun place t' h => hplace place t' ((hwants _ _).1 h)) (mt hsucceeds.1 hno)
      hafter
  | emptied place t' f hplace hbytes hno hfault hafter =>
    obtain ⟨hplace, rfl⟩ := hplace
    exact .emptied place t' f ((hwants _ _).2 ⟨hplace, rfl⟩) hbytes (mt hsucceeds.1 hno)
      (hfails f ⟨place, hplace⟩ hbytes hfault) hafter

/-! ## All or nothing -/

/-- All or nothing: the file holds the text in its encoding, and success is reported, or every file holds
what it held before. -/
def AllOrNothing (before : Disk) (wants : Place → Text → Prop) (encoding : Text) (succeeds : Prop)
    (after : Disk) : Prop :=
  (∃ place t bytes, wants place t ∧ Codecs.stored encoding t = .ok bytes ∧ succeeds ∧
    before.SetsOnly place (.file bytes) after) ∨
  ∀ place, after.get? place = before.get? place

/-- A place is safe for a text: all of its bytes are passed on, or the file holds already what is going
to be left there. -/
def SafeFor (d : Disk) (encoding : Text) (place : Place) (t : Text) : Prop :=
  (∃ bytes, Codecs.written encoding t = .ok bytes ∧ Codecs.stored encoding t = .ok bytes) ∨
    d.get? place = some (.file (Codecs.leaves encoding t))

/-- An attempt that comes to one text at one place is all or nothing exactly if the place is safe for the
text. -/
theorem Attempt.allOrNothing_iff {wants : Place → Text → Prop} {encoding : Text} {succeeds : Prop}
    {fails : FileFault → Prop} {after : Disk} (h : d.Attempt wants encoding succeeds fails after)
    (hone : ∀ place t place' t', wants place t → wants place' t' → place = place' ∧ t = t') :
    d.AllOrNothing wants encoding succeeds after ↔
      ∀ place t, wants place t → d.SafeFor encoding place t := by
  cases h with
  | untouched hwants _ hafter =>
    subst hafter
    exact iff_of_true (.inr fun _ => rfl) fun place t hplace => absurd hplace (hwants place t)
  | written place t bytes hwants hbytes hsucceeds hafter =>
    have hleaves : Codecs.leaves encoding t = bytes := by rw [Codecs.leaves, hbytes]; rfl
    constructor
    · rintro (⟨place', t', bytes', hwants', hstored, -, hset⟩ | hsame) q u hq
      · obtain ⟨rfl, rfl⟩ := hone _ _ _ _ hwants hwants'
        obtain ⟨rfl, rfl⟩ := hone _ _ _ _ hwants hq
        have heq := hafter.here.symm.trans hset.here
        rw [Option.some.injEq, Entry.file.injEq] at heq
        exact .inl ⟨bytes, hbytes, heq ▸ hstored⟩
      · obtain ⟨rfl, rfl⟩ := hone _ _ _ _ hwants hq
        exact .inr (by rw [hleaves]; exact hafter.unchanged_iff.1 hsame)
    · intro hsafe
      rcases hsafe place t hwants with ⟨bytes', hbytes', hstored⟩ | hsame
      · rw [hbytes, Except.ok.injEq] at hbytes'
        subst hbytes'
        exact .inl ⟨place, t, bytes, hwants, hstored, hsucceeds, hafter⟩
      · rw [hleaves] at hsame
        exact .inr (hafter.unchanged_iff.2 hsame)
  | emptied place t f hwants hbytes hfails hfault hafter =>
    have hleaves : Codecs.leaves encoding t = [] := by rw [Codecs.leaves, hbytes]; rfl
    constructor
    · rintro (⟨_, _, _, _, _, hsucceeds, _⟩ | hsame) q u hq
      · exact absurd hsucceeds hfails
      · obtain ⟨rfl, rfl⟩ := hone _ _ _ _ hwants hq
        exact .inr (by rw [hleaves]; exact hafter.unchanged_iff.1 hsame)
    · intro hsafe
      rcases hsafe place t hwants with ⟨bytes, hbytes', -⟩ | hsame
      · cases hbytes.symm.trans hbytes'
      · rw [hleaves] at hsame
        exact .inr (hafter.unchanged_iff.2 hsame)

end Disk

/-! ## Saving a session -/

namespace Session
/-- A session comes to write a text at a place. -/
def WritesAt (s : Session) (d : Disk) (path mode : Option Text) (place : Place) (t : Text) : Prop :=
  ∃ target, s.outputPath path = .ok target ∧ s.toText mode = .ok t ∧ d.target target = .ok place

theorem WritesAt.unique {s : Session} {d : Disk} {path mode : Option Text} {place place' : Place}
    {t t' : Text} (h : s.WritesAt d path mode place t) (h' : s.WritesAt d path mode place' t') :
    place = place' ∧ t = t' := by
  obtain ⟨target, hpath, htext, hplace⟩ := h
  obtain ⟨_, hpath', htext', hplace'⟩ := h'
  cases hpath.symm.trans hpath'
  cases htext.symm.trans htext'
  cases hplace.symm.trans hplace'
  exact ⟨rfl, rfl⟩

variable [Codecs]

/-- A session whose path and text are known writes the text there. -/
theorem save_eq {s : Session} {path mode : Option Text} {target : FilePath} {t : Text}
    (hpath : s.outputPath path = .ok target) (htext : s.toText mode = .ok t) (d : Disk)
    (encoding : Text) :
    s.save d path encoding mode =
      (match (d.writeText target encoding t).1 with
        | .ok () => .ok target
        | .error f => .error (.file f), (d.writeText target encoding t).2) := by
  rw [save, hpath, htext]
  rfl

theorem save_attempt (s : Session) (d : Disk) (path : Option Text) (encoding : Text)
    (mode : Option Text) :
    d.Attempt (s.WritesAt d path mode) encoding
      (∃ target, s.outputPath path = .ok target ∧ (s.save d path encoding mode).1 = .ok target)
      (fun f => (s.save d path encoding mode).1 = .error (.file f))
      (s.save d path encoding mode).2 := by
  cases hpath : s.outputPath path with
  | error f =>
    have hsave : s.save d path encoding mode = (.error f, d) := by
      rw [save, hpath]
      rfl
    rw [hsave]
    refine .untouched ?_ (by simp) rfl
    rintro place t ⟨target, htarget, -⟩
    cases hpath.symm.trans htarget
  | ok target =>
    cases htext : s.toText mode with
    | error f =>
      have hsave : s.save d path encoding mode = (.error f, d) := by
        rw [save, hpath, htext]
        rfl
      rw [hsave]
      refine .untouched ?_ (by simp) rfl
      rintro place t ⟨_, -, ht, -⟩
      cases htext.symm.trans ht
    | ok t =>
      rw [save_eq hpath htext]
      refine .of_writeText (fun place t' => ?_) ?_ fun f _ _ hfault => by rw [hfault]
      · simp only [WritesAt, hpath, htext, Except.ok.injEq, exists_eq_left', eq_comm, and_comm]
      · cases (d.writeText target encoding t).1 <;> simp

end Session

/-! ## Processing a file of a batch -/

theorem FileFault.isOfFile_of_encoding {f : FileFault} (h : f.isOfEncoding = true) :
    f.isOfFile = false := by
  cases f <;> first | rfl | cases h

/-- What keeps a text from being written to an open file is no fault of the file. -/
theorem Codecs.written_error [Codecs] {encoding t : Text} {f : FileFault}
    (h : written encoding t = .error f) : f.isOfFile = false := by
  rw [written] at h
  cases hcodec : named encoding with
  | error f' =>
    rw [hcodec] at h
    cases h
    unfold named at hcodec
    split at hcodec
    · cases hcodec
      rfl
    · split at hcodec <;> cases hcodec
      rfl
  | ok c =>
    rw [hcodec] at h
    exact FileFault.isOfFile_of_encoding (c.write_fault h)

namespace Batch

variable [Codecs] {b : Batch}

/-- A batch comes to write a text at a place: the plan changes the file and changed files are to be
written back. -/
def WritesAt (b : Batch) (d : Disk) (p : FilePath) (place : Place) (t : Text) : Prop :=
  b.write = true ∧ ∃ session, b.edit d p = .ok session ∧ session.changes ≠ [] ∧
    session.toText none = .ok t ∧ d.target p = .ok place

theorem WritesAt.unique {d : Disk} {p : FilePath} {place place' : Place} {t t' : Text}
    (h : b.WritesAt d p place t) (h' : b.WritesAt d p place' t') : place = place' ∧ t = t' := by
  obtain ⟨-, session, hedit, -, htext, hplace⟩ := h
  obtain ⟨-, _, hedit', -, htext', hplace'⟩ := h'
  cases hedit.symm.trans hedit'
  cases htext.symm.trans htext'
  cases hplace.symm.trans hplace'
  exact ⟨rfl, rfl⟩

/-- A file is reported as changed and written. -/
def Reports (outcome : Except Fault FileResult) : Prop :=
  ∃ r, outcome = .ok r ∧ r.status = .changed ∧ r.written = true

theorem process_attempt (b : Batch) (d : Disk) (p : FilePath) :
    d.Attempt (b.WritesAt d p) b.config.encoding (Reports (b.process d p).1)
      (fun f => (b.process d p).1 = .error (.file f)) (b.process d p).2 := by
  cases hedit : b.edit d p with
  | error f =>
    have hprocess : b.process d p = (.error f, d) := by rw [process, hedit]
    rw [hprocess]
    refine .untouched ?_ (by simp [Reports]) rfl
    rintro place t ⟨-, session, hsession, -⟩
    cases hedit.symm.trans hsession
  | ok session =>
    rw [process, hedit]
    dsimp only
    split
    · rename_i hchanges
      refine .untouched ?_ (by simp [Reports]) rfl
      rintro place t ⟨-, session', hsession, hne, -⟩
      cases hedit.symm.trans hsession
      exact hne (by simpa using hchanges)
    · rename_i hchanges
      have hne : session.changes ≠ [] := by simpa using hchanges
      split
      · rename_i hwrite
        cases htext : session.toText none with
        | error f =>
          have hback : b.writeBack d p session = (.error f, d) := by rw [writeBack, htext]
          rw [hback]
          refine .untouched ?_ (by simp [Reports, Except.map]) rfl
          rintro place t ⟨-, session', hsession, -, ht, -⟩
          cases hedit.symm.trans hsession
          cases htext.symm.trans ht
        | ok t =>
          have hback : b.writeBack d p session =
              ((d.writeText p b.config.encoding t).1.mapError Fault.file,
                (d.writeText p b.config.encoding t).2) := by
            rw [writeBack, htext]
          rw [hback]
          refine .of_writeText (t := t) (fun place t' => ?_) ?_ fun f _ _ hfault => by
            rw [hfault]
            rfl
          · simp only [WritesAt, hwrite, hedit, hne, htext, Except.ok.injEq, true_and,
              exists_eq_left', ne_eq, not_false_eq_true, and_comm, @eq_comm _ t t']
          · cases (d.writeText p b.config.encoding t).1 with
            | ok => exact iff_of_true ⟨_, rfl, rfl, rfl⟩ rfl
            | error f =>
              refine iff_of_false (fun hreports => ?_) fun hok => by cases hok
              obtain ⟨r, hr, -⟩ := hreports
              cases hr
      · rename_i hwrite
        exact .untouched (fun place t h => hwrite h.1) (by simp [Reports]) rfl

/-- Processing a file reports what became of it, or ends the batch, whatever the journal holds. -/
theorem processFile_outcome (b : Batch) (s : BatchState) (p : FilePath) :
    ((b.processFile p).perform s).2.disk = (b.process s.disk p).2 ∧
    ((b.processFile p).perform s).1 =
      match reported? p (b.process s.disk p).1 with
      | some r => .ok r
      | none => (b.process s.disk p).1 := by
  rcases hprocess : b.process s.disk p with ⟨f | r, disk⟩
  · cases hreported : isReported f <;>
      simp [processFile, BatchStep.perform_bind, hprocess, hreported, reported?,
        BatchStep.perform_note_journal, Except.map]
  · simp [processFile, BatchStep.perform_bind, hprocess, reported?, BatchStep.perform_note_journal,
      Except.map]

theorem processFile_attempt (b : Batch) (s : BatchState) (p : FilePath) :
    s.disk.Attempt (b.WritesAt s.disk p) b.config.encoding
      (Reports ((b.processFile p).perform s).1)
      (fun f => ((b.processFile p).perform s).1 = .error (.file f))
      ((b.processFile p).perform s).2.disk := by
  obtain ⟨hdisk, houtcome⟩ := processFile_outcome b s p
  rw [hdisk, houtcome]
  have hno : ¬ Reports (b.process s.disk p).1 →
      ¬ Reports (match reported? p (b.process s.disk p).1 with
        | some r => .ok r
        | none => (b.process s.disk p).1) := fun hno hreports => by
    cases hprocess : (b.process s.disk p).1 with
    | ok r =>
      rw [hprocess] at hno hreports
      exact hno hreports
    | error f =>
      rw [hprocess, reported?] at hreports
      cases hreported : isReported f <;> simp [hreported, Reports] at hreports
  cases process_attempt b s.disk p with
  | written place t bytes hwants hbytes hreports hafter =>
    refine .written place t bytes hwants hbytes ?_ hafter
    obtain ⟨r, hr, hstatus⟩ := hreports
    rw [hr]
    exact ⟨r, rfl, hstatus⟩
  | untouched hwants hfails hafter => exact .untouched hwants (hno hfails) hafter
  | emptied place t f hwants hbytes hfails hfault hafter =>
    refine .emptied place t f hwants hbytes (hno hfails) ?_ hafter
    have hreported : isReported (.file f) = false := Codecs.written_error hbytes
    rw [hfault, reported?, hreported]
    rfl

end Batch

/-- Saving a session and processing a file of a batch change one place at most, in every encoding. The
file holds what the codec has passed on of the text, and only then is success reported; where no text is
arrived at the disk is as it was; where the codec gives up the file is left empty and its fault is
raised. This is all or nothing exactly if the place was safe for the text. -/
theorem Disk.save_and_processFile_attempt [Codecs] (d : Disk) :
    (∀ (s : Session) (path : Option Text) (encoding : Text) (mode : Option Text),
      let wants := s.WritesAt d path mode
      let succeeds :=
        ∃ target, s.outputPath path = .ok target ∧ (s.save d path encoding mode).1 = .ok target
      let after := (s.save d path encoding mode).2
      d.Attempt wants encoding succeeds
        (fun f => (s.save d path encoding mode).1 = .error (.file f)) after ∧
      (d.AllOrNothing wants encoding succeeds after ↔
        ∀ place t, wants place t → d.SafeFor encoding place t)) ∧
    ∀ (b : Batch) (journal : Option Journal) (p : FilePath),
      let wants := b.WritesAt d p
      let run := (b.processFile p).perform ⟨d, journal⟩
      d.Attempt wants b.config.encoding (Batch.Reports run.1)
        (fun f => run.1 = .error (.file f)) run.2.disk ∧
      (d.AllOrNothing wants b.config.encoding (Batch.Reports run.1) run.2.disk ↔
        ∀ place t, wants place t → d.SafeFor b.config.encoding place t) :=
  ⟨fun s path encoding mode =>
    have h := s.save_attempt d path encoding mode
    ⟨h, h.allOrNothing_iff fun _ _ _ _ => Session.WritesAt.unique⟩,
   fun b journal p =>
    have h := b.processFile_attempt ⟨d, journal⟩ p
    ⟨h, h.allOrNothing_iff fun _ _ _ _ => Batch.WritesAt.unique⟩⟩

/-- A string that is written as an escape is read in an encoding in which the character that it
stands for cannot be written. Saving fails and the program is gone. -/
theorem Session.save_loses_file :
    let path : FilePath := ⟨[], ["a.py"]⟩
    let before : Bytes := "x = \"\\xe9\"\n".toUTF8.toList
    let d : Disk := ⟨[(["a.py"], .file before)]⟩
    ∃ s f after, Session.ofFile d "a.py" "ascii" {} = .ok s ∧
      s.save d none "ascii" none = (.error f, after) ∧ f.category = "UnicodeEncodeError" ∧
      d.read path = .ok before ∧ before ≠ [] ∧ after.read path = .ok [] := by
  intro path before d
  have hrun : ((Session.ofFile d "a.py" "ascii" {}).toOption.bind fun s =>
      (((s.save d none "ascii" none).1.map fun _ => []).tryCatch fun f => .ok f.category).toOption.map
        fun category => (category, ((s.save d none "ascii" none).2.read path).toOption)) =
      some (Text.ofString "UnicodeEncodeError", some []) := by
    decide +kernel
  obtain ⟨s, hsome, hsaved⟩ := Option.bind_eq_some_iff.1 hrun
  cases hopen : Session.ofFile d "a.py" "ascii" {} with
  | error f =>
    rw [hopen] at hsome
    cases hsome
  | ok s' =>
    rw [hopen] at hsome
    cases hsome
    rcases hsave : s.save d none "ascii" none with ⟨f | target, after⟩
    · rw [hsave] at hsaved
      obtain ⟨hcategory, hread⟩ := Prod.mk.inj (Option.some.inj hsaved)
      refine ⟨s, f, after, rfl, hsave, hcategory, rfl, by decide +kernel, ?_⟩
      cases hbytes : after.read path with
      | error f =>
        rw [hbytes] at hread
        cases hread
      | ok bytes =>
        rw [hbytes] at hread
        rw [Option.some.inj hread]
    · rw [hsave] at hsaved
      cases hsaved

/-- A codec that passes on what it has up to a dot, as those do that encode names label by label: what
follows the last dot waits for the end of the text. -/
def Codec.upToDots : Codec where
  decode := Encoding.ascii.decode
  encode := Encoding.ascii.encode
  write t := Encoding.ascii.encode (t.reverse.dropWhile fun c : CodePoint => c ≠ '.').reverse
  decode_fault := Encoding.decode_fault
  write_fault := Encoding.encode_fault

/-- A program without a dot is saved in an encoding whose codec waits for one. Success is reported and
the program is gone. -/
theorem Session.save_holds_back :
    let _codecs : Codecs := ⟨fun _ => some Codec.upToDots⟩
    let path : FilePath := ⟨[], ["a.py"]⟩
    let before : Bytes := "x = 1\n".toUTF8.toList
    let d : Disk := ⟨[(["a.py"], .file before)]⟩
    ∃ s after, Session.ofFile d "a.py" "idna" {} = .ok s ∧
      s.save d none "idna" none = (.ok path, after) ∧
      d.read path = .ok before ∧ before ≠ [] ∧ after.read path = .ok [] := by
  intro _codecs path before d
  have hrun : ((Session.ofFile d "a.py" "idna" {}).toOption.bind fun s =>
      (s.save d none "idna" none).1.toOption.map fun target =>
        (target, ((s.save d none "idna" none).2.read path).toOption)) = some (path, some []) := by
    decide +kernel
  obtain ⟨s, hsome, hsaved⟩ := Option.bind_eq_some_iff.1 hrun
  obtain ⟨target, htarget, hread⟩ := Option.map_eq_some_iff.1 hsaved
  obtain ⟨rfl, hempty⟩ := Prod.mk.inj hread
  refine ⟨s, _, toOption_eq_some.1 hsome,
    Prod.ext (toOption_eq_some.1 htarget) rfl, rfl, by decide +kernel,
    toOption_eq_some.1 hempty⟩

end Refactory
