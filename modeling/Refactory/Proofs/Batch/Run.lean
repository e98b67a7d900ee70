import Refactory.Proofs.Batch.Stops
import Refactory.Proofs.Batch.Writing
import Refactory.Proofs.Build.Escapes
import Refactory.Proofs.Render.Validated

/-! # What ends a batch

A file that cannot be processed is reported as failed if it cannot be read or decoded, if it holds no
program, or if strict mode does not render what it holds (`Batch.Fails`). Everything else that can go
wrong with a file ends the batch (`Batch.Breaks`): faults of the request, of decoding and encoding, of
building the program, of two modernizations and of long integers. Between them these are all there is
(`Batch.process_ends`). Main statement: `Batch.run_report`. -/

namespace Refactory

/-! ## Files that are read -/

theorem Disk.locate_error {d : Disk} {p : FilePath} {f : FileFault} (h : d.locate p = .error f) :
    f.isOfFile = true := by
  have hfollow : ∀ (here : Place) (steps : List Text), d.follow p here steps = .error f →
      f.isOfFile = true := by
    intro here steps
    induction steps generalizing here with
    | nil => exact fun h => by cases h
    | cons step rest ih =>
      intro h
      rw [follow] at h
      split at h
      · cases h
        rfl
      · cases h
        rfl
      · split at h
        · split at h
          · cases h
            rfl
          · exact ih _ h
        · exact ih _ h
  unfold locate at h
  split at h
  · exact hfollow _ _ h
  · cases h
    rfl

/-- What keeps the bytes of a file from being read lies with the file. -/
theorem Disk.read_error {d : Disk} {p : FilePath} {f : FileFault} (h : d.read p = .error f) :
    f.isOfFile = true := by
  unfold read at h
  rcases bind_error.1 h with h | ⟨place, -, h⟩
  · exact locate_error h
  · split at h <;> cases h <;> rfl

/-- A file that has been read can be opened for writing. -/
theorem Disk.target_of_read {d : Disk} {p : FilePath} {bytes : Bytes} (h : d.read p = .ok bytes) :
    ∃ place, d.target p = .ok place := by
  obtain ⟨place, hplace, h⟩ := bind_ok.1 h
  refine ⟨place, bind_ok.2 ⟨place, hplace, ?_⟩⟩
  cases hentry : d.get? place with
  | none => rfl
  | some e =>
    cases e with
    | file content => rfl
    | folder =>
      rw [hentry] at h
      cases h

theorem Codecs.named_error [Codecs] {name : Text} {f : FileFault} (h : named name = .error f) :
    f.isOfFile = false ∧ f.category = "LookupError" := by
  unfold named at h
  split at h
  · cases h
    exact ⟨rfl, rfl⟩
  · split at h <;> cases h
    exact ⟨rfl, rfl⟩

theorem mapError_ok {r : Except FileFault Text} {source : Text}
    (h : r.mapError Fault.file = .ok source) : r = .ok source := by
  cases r <;> cases h
  rfl

/-- A session over what has been read from a source is over a fit module. -/
theorem Session.start_fit {source path : Text} {parsed : Parsed} {o : Options} {s : Session}
    (hparsed : parseSource source path = .ok parsed)
    (h : start parsed.module (some path) o = .ok s) : s.module.Fit := by
  obtain ⟨mode, -, h⟩ := bind_ok.1 h
  cases h
  exact parseSource_fit hparsed

namespace Batch

section

variable [Codecs] {b : Batch} {d : Disk} {p : FilePath}

/-! ## What goes wrong with a file -/

/-- A file is to be written back: the plan has changed its module, and changed files are written. -/
structure Rewrites (b : Batch) (d : Disk) (p : FilePath) (s : Session) : Prop where
  write : b.write = true
  edit : b.edit d p = .ok s
  changes : s.changes ≠ []

/-- Why a file is reported as failed. -/
inductive Fails (b : Batch) (d : Disk) (p : FilePath) : Fault → Prop
  /-- There is no file, or it cannot be reached. -/
  | unread {f : FileFault} (h : d.read p = .error f) : Fails b d p (.file f)
  /-- The bytes are no text in the encoding. -/
  | undecodable {bytes : Bytes} {codec : Codec} {name : Text} {byte start stop : Nat}
      {reason : DecodeReason} (hbytes : d.read p = .ok bytes)
      (hcodec : Codecs.named b.config.encoding = .ok codec)
      (h : codec.decode bytes = .error (.undecodable name byte start stop reason)) :
      Fails b d p (.file (.undecodable name byte start stop reason))
  /-- The text is no program. -/
  | unparsed {source : Text} (hsource : d.readText p b.config.encoding = .ok source)
      (h : readSource source = none) : Fails b d p (.unparsed (some p.render))
  /-- The module holds what strict mode does not render. -/
  | unsupported {s : Session} {kind : Text} (hs : b.Rewrites d p s) (hmode : s.mode = .strict)
      (h : s.module.HasUnsupported kind) : Fails b d p (.unsupported kind)

/-- What ends a batch at a file. -/
inductive Breaks (b : Batch) (d : Disk) (p : FilePath) : Fault → Prop
  /-- The encoding has no codec of text. -/
  | unknownEncoding {bytes : Bytes} {f : FileFault} (hbytes : d.read p = .ok bytes)
      (h : Codecs.named b.config.encoding = .error f) : Breaks b d p (.file f)
  /-- The codec refuses the bytes as a whole. -/
  | undecoded {bytes : Bytes} {codec : Codec} {message : Text} (hbytes : d.read p = .ok bytes)
      (hcodec : Codecs.named b.config.encoding = .ok codec)
      (h : codec.decode bytes = .error (.refused message)) : Breaks b d p (.file (.refused message))
  /-- Something in the program cannot be captured. -/
  | unbuilt {source : Text} {program : List Grammar.Statement} {f : Fault}
      (hsource : d.readText p b.config.encoding = .ok source)
      (hprogram : readSource source = some program) (h : Escapes source program f) : Breaks b d p f
  /-- There is no such mode of rendering. -/
  | unknownMode {source : Text} {parsed : Parsed} {f : Fault}
      (hsource : d.readText p b.config.encoding = .ok source)
      (hparsed : parseSource source p.render = .ok parsed)
      (h : RenderMode.ofText b.config.mode = .error f) : Breaks b d p f
  /-- The plan stops on the way. -/
  | stopped {source : Text} {parsed : Parsed} {s : Session} {f : Fault}
      (hsource : d.readText p b.config.encoding = .ok source)
      (hparsed : parseSource source p.render = .ok parsed)
      (hs : Session.start parsed.module (some p.render) b.config.options = .ok s)
      (h : b.plan.Stops s f) : Breaks b d p f
  /-- An integer of the module is too long to be written. -/
  | tooLong {s : Session} (hs : b.Rewrites d p s) (h : s.module.HasLongInteger) :
      Breaks b d p .tooManyDigits
  /-- The codec does not take the text that is to be written. -/
  | unencoded {s : Session} {t : Text} {codec : Codec} {f : FileFault} (hs : b.Rewrites d p s)
      (htext : s.toText none = .ok t) (hcodec : Codecs.named b.config.encoding = .ok codec)
      (h : codec.write t = .error f) : Breaks b d p (.file f)

theorem Fails.reported {f : Fault} (h : b.Fails d p f) : isReported f = true := by
  cases h with
  | unread h => exact Disk.read_error h
  | undecodable | unparsed | unsupported => rfl

/-- The classes of the faults that end a batch. -/
theorem Breaks.category {f : Fault} (h : b.Breaks d p f) : isReported f = false ∧
    f.category ∈ (["LookupError", "UnicodeError", "UnicodeEncodeError", "IndexError", "ValueError",
      "TypeError"] : List Text) := by
  have hvalue : ∀ {f : Fault}, f = .tooManyDigits ∨ f = .backslashInField →
      isReported f = false ∧ f.category = "ValueError" := by
    rintro f (rfl | rfl) <;> exact ⟨rfl, rfl⟩
  cases h with
  | unknownEncoding _ h =>
    obtain ⟨hfile, hcategory⟩ := Codecs.named_error h
    exact ⟨hfile, by simp [Fault.category, hcategory]⟩
  | undecoded => exact ⟨rfl, by simp [Fault.category, FileFault.category]⟩
  | unbuilt _ _ h =>
    rcases h with ⟨rfl, -, -⟩ | ⟨x, -, -, n, -, hn⟩
    · exact ⟨rfl, by simp [Fault.category]⟩
    · obtain ⟨hreported, hcategory⟩ := hvalue hn.fault
      exact ⟨hreported, by simp [hcategory]⟩
  | unknownMode _ _ h =>
    unfold RenderMode.ofText at h
    split at h <;> cases h
    exact ⟨rfl, by simp [Fault.category]⟩
  | stopped _ _ _ h =>
    rcases h.fault with rfl | ⟨count, rfl⟩ | ⟨digits, rfl⟩ <;>
      exact ⟨rfl, by simp [Fault.category]⟩
  | tooLong => exact ⟨rfl, by simp [Fault.category]⟩
  | @unencoded s t codec f _ _ _ h =>
    have hencoding := codec.write_fault h
    refine ⟨FileFault.isOfFile_of_encoding hencoding, ?_⟩
    cases f with
    | unencodable | refused => simp [Fault.category, FileFault.category]
    | _ => cases hencoding

/-! ## Nothing else goes wrong -/

/-- What keeps the text of a file from being read. -/
theorem readText_error {f : FileFault} (h : d.readText p b.config.encoding = .error f) :
    b.Fails d p (.file f) ∨ b.Breaks d p (.file f) := by
  rcases bind_error.1 h with hbytes | ⟨bytes, hbytes, h⟩
  · exact .inl (.unread hbytes)
  rcases bind_error.1 h with hcodec | ⟨codec, hcodec, h⟩
  · exact .inr (.unknownEncoding hbytes hcodec)
  rcases bind_error.1 h with hdecode | ⟨text, -, h⟩
  · have hdecoding := codec.decode_fault hdecode
    cases f with
    | undecodable => exact .inl (.undecodable hbytes hcodec hdecode)
    | refused => exact .inr (.undecoded hbytes hcodec hdecode)
    | _ => cases hdecoding
  · cases h

/-- What keeps a source that has been read from being built. -/
theorem parseSource_error {source : Text} {f : Fault}
    (hsource : d.readText p b.config.encoding = .ok source)
    (h : parseSource source p.render = .error f) : b.Fails d p f ∨ b.Breaks d p f := by
  obtain ⟨hunread, hprogram⟩ := parseSource_settles source p.render
  cases hsome : readSource source with
  | none =>
    cases h.symm.trans (hunread.1 hsome)
    exact .inl (.unparsed hsource hsome)
  | some program =>
    have hblames := hprogram program hsome
    rw [h] at hblames
    exact .inr (.unbuilt hsource hsome hblames)

/-- Applying the plan to a file leaves a fit module. -/
theorem edit_fit {s : Session} (h : b.edit d p = .ok s) : s.module.Fit := by
  obtain ⟨source, -, h⟩ := bind_ok.1 h
  obtain ⟨parsed, hparsed, h⟩ := bind_ok.1 h
  obtain ⟨s₀, hstart, h⟩ := bind_ok.1 h
  rcases b.plan.apply_ends (Session.start_fit hparsed hstart) with ⟨_, after, hrun, hfit⟩ | ⟨f, after, hrun, -⟩ <;>
    rw [hrun] at h <;> cases h
  exact hfit

/-- What keeps the plan from being applied to a file. -/
theorem edit_error {f : Fault} (h : b.edit d p = .error f) : b.Fails d p f ∨ b.Breaks d p f := by
  rcases bind_error.1 h with hread | ⟨source, hsource, h⟩
  · cases hsource : d.readText p b.config.encoding with
    | ok source =>
      rw [hsource] at hread
      cases hread
    | error f' =>
      rw [hsource] at hread
      cases hread
      exact readText_error hsource
  have hsource := mapError_ok hsource
  rcases bind_error.1 h with hparsed | ⟨parsed, hparsed, h⟩
  · exact parseSource_error hsource hparsed
  rcases bind_error.1 h with hstart | ⟨s, hstart, h⟩
  · rcases bind_error.1 hstart with hmode | ⟨mode, -, h⟩
    · exact .inr (.unknownMode hsource hparsed hmode)
    · cases h
  rcases b.plan.apply_ends (Session.start_fit hparsed hstart) with ⟨_, after, hrun, -⟩ | ⟨f, after, hrun, hstops⟩ <;>
    rw [hrun] at h <;> cases h
  exact .inr (.stopped hsource hparsed hstart hstops)

/-- A changed module is rendered, or strict mode or a long integer is in the way. -/
theorem Rewrites.toText_error {s : Session} (hs : b.Rewrites d p s) {f : Fault}
    (h : s.toText none = .error f) : b.Fails d p f ∨ b.Breaks d p f := by
  have hfit := edit_fit hs.edit
  have hrender : s.module.toText s.mode = .error f := h
  have hvalid : s.module.validate true = .ok () :=
    Module.validate_ok.2 ⟨by simp, hfit.sound⟩
  rcases Module.toText_validated hvalid s.mode with ⟨t, ht⟩ | ⟨f', hf', hwhy⟩
  · cases hrender.symm.trans ht
  · cases hrender.symm.trans hf'
    rcases hwhy with ⟨hmode, -, kind, rfl, hkind⟩ | ⟨-, ⟨rfl, hlong⟩ | huneven⟩
    · exact .inl (.unsupported hs hmode hkind)
    · exact .inr (.tooLong hs hlong)
    · obtain ⟨u, hu, e, he, left, ops, comparators, hwithin, hlengths, -⟩ := huneven
      exact absurd (of_decide_eq_true (hfit.paired u hu e he _ hwithin)) hlengths

/-- A file that has been edited was read through a codec. -/
theorem edit_codec {s : Session} (h : b.edit d p = .ok s) :
    ∃ bytes codec, d.read p = .ok bytes ∧ Codecs.named b.config.encoding = .ok codec := by
  obtain ⟨source, hsource, -⟩ := bind_ok.1 h
  obtain ⟨bytes, hbytes, hread⟩ := bind_ok.1 (mapError_ok hsource)
  obtain ⟨codec, hcodec, -⟩ := bind_ok.1 hread
  exact ⟨bytes, codec, hbytes, hcodec⟩

/-- Nothing is written back of a file that is not changed, or if changed files are not written. -/
theorem process_unwritten {s : Session} (hedit : b.edit d p = .ok s)
    (h : s.changes = [] ∨ b.write = false) : ∃ r, (b.process d p).1 = .ok r := by
  rw [process, hedit]
  dsimp only
  split
  · exact ⟨_, rfl⟩
  · rename_i hchanges
    have hwrite : b.write = false := h.resolve_left fun hnone => hchanges (by rw [hnone]; rfl)
    rw [if_neg (by simp [hwrite])]
    exact ⟨_, rfl⟩

/-- A file gets a result, or what goes wrong with it fails the file or ends the batch. -/
theorem process_ends (b : Batch) (d : Disk) (p : FilePath) :
    (∃ r, (b.process d p).1 = .ok r) ∨
      ∃ f, (b.process d p).1 = .error f ∧ (b.Fails d p f ∨ b.Breaks d p f) := by
  cases hedit : b.edit d p with
  | error f => exact .inr ⟨f, by rw [process, hedit], edit_error hedit⟩
  | ok s =>
  by_cases hidle : s.changes = [] ∨ b.write = false
  · exact .inl (process_unwritten hedit hidle)
  have hs : b.Rewrites d p s :=
    ⟨by simpa using fun h => hidle (.inr h), hedit, fun h => hidle (.inl h)⟩
  obtain ⟨bytes, codec, hbytes, hcodec⟩ := edit_codec hedit
  cases process_attempt b d p with
  | written _ _ _ _ _ hreports =>
    obtain ⟨r, hr, -⟩ := hreports
    exact .inl ⟨r, hr⟩
  | emptied _ t f hwants hwritten _ hfault =>
    obtain ⟨-, s', hedit', -, htext, -⟩ := hwants
    cases hedit.symm.trans hedit'
    rw [Codecs.written, hcodec] at hwritten
    exact .inr ⟨_, hfault, .inr (.unencoded hs htext hcodec hwritten)⟩
  | untouched hwants =>
    cases htext : s.toText none with
    | ok t =>
      obtain ⟨place, hplace⟩ := Disk.target_of_read hbytes
      exact absurd ⟨hs.write, s, hedit, hs.changes, htext, hplace⟩ (hwants place t)
    | error f =>
      refine .inr ⟨f, ?_, hs.toText_error htext⟩
      have hback : b.writeBack d p s = (.error f, d) := by rw [writeBack, htext]
      have hchanges : (s.changes.map ChangeRecord.ofChange).isEmpty = false := by
        simpa using hs.changes
      rw [process, hedit]
      simp only [hchanges, hs.write, hback]
      rfl

/-! ## What the batch comes to -/

/-- What the report says of a file: what came of it, or why it failed. -/
inductive Gives (b : Batch) (d : Disk) (p : FilePath) : FileResult → Prop
  | done {r : FileResult} (h : (b.process d p).1 = .ok r) : Gives b d p r
  | failed {f : Fault} (h : (b.process d p).1 = .error f) (hf : b.Fails d p f) :
    Gives b d p { path := p.render, status := .failed, error := some f.message }

/-- Files are processed one after the other, each on the disk that the one before left. -/
inductive Processes (b : Batch) : Disk → List FilePath → List FileResult → Disk → Prop
  | nil {d : Disk} : Processes b d [] [] d
  | cons {d after : Disk} {p : FilePath} {ps : List FilePath} {r : FileResult} {rs : List FileResult}
      (hp : b.Gives d p r) (hps : Processes b (b.process d p).2 ps rs after) :
      Processes b d (p :: ps) (r :: rs) after

/-- There is one result for each file, in order. -/
theorem Processes.paths {after : Disk} {ps : List FilePath} {rs : List FileResult}
    (h : b.Processes d ps rs after) : rs.map (·.path) = ps.map FilePath.render := by
  induction h with
  | nil => rfl
  | @cons d after p ps r rs hp hps ih =>
    have hpath : r.path = p.render := by
      cases hp with
      | done h => exact process_path h
      | failed => rfl
    rw [List.map_cons, List.map_cons, ih, hpath]

/-- A file gets a result, or the batch ends there. -/
theorem processFile_ends (b : Batch) (d : Disk) (p : FilePath) :
    (∃ r, b.Gives d p r ∧
      (b.processFile p).perform ⟨d, none⟩ = (.ok r, ⟨(b.process d p).2, none⟩)) ∨
    ∃ f, (b.process d p).1 = .error f ∧ b.Breaks d p f ∧
      (b.processFile p).perform ⟨d, none⟩ = (.error f, ⟨(b.process d p).2, none⟩) := by
  rcases processFile_perform b d p with ⟨r, hr, hperform⟩ | ⟨f, hf, hreported, hperform⟩
  · refine .inl ⟨r, ?_, hperform⟩
    rcases b.process_ends d p with ⟨r', hprocess⟩ | ⟨f, hprocess, hfails | hbreaks⟩ <;>
      rw [hprocess, reported?] at hr
    · cases hr
      exact .done hprocess
    · rw [if_pos hfails.reported] at hr
      cases hr
      exact .failed hprocess hfails
    · simp [hbreaks.category.1] at hr
  · refine .inr ⟨f, hf, ?_, hperform⟩
    rcases b.process_ends d p with ⟨r', hprocess⟩ | ⟨f', hprocess, h⟩ <;>
      cases hf.symm.trans hprocess
    exact h.resolve_left fun hfails => by simp [hfails.reported] at hreported

/-- Files all get a result, or the batch ends at one of them. -/
theorem mapM_processFile (b : Batch) (files : List FilePath) (d : Disk) :
    (∃ results after, b.Processes d files results after ∧
      (files.mapM b.processFile).perform ⟨d, none⟩ = (.ok results, ⟨after, none⟩)) ∨
    ∃ front p back results mid f, files = front ++ p :: back ∧ b.Processes d front results mid ∧
      (b.process mid p).1 = .error f ∧ b.Breaks mid p f ∧
      (files.mapM b.processFile).perform ⟨d, none⟩ = (.error f, ⟨(b.process mid p).2, none⟩) := by
  induction files generalizing d with
  | nil => exact .inl ⟨[], d, .nil, rfl⟩
  | cons p files ih =>
    rw [List.mapM_cons]
    rcases processFile_ends b d p with ⟨r, hr, hperform⟩ | ⟨f, hf, hbreaks, hperform⟩
    · rcases ih (b.process d p).2 with ⟨results, after, hprocesses, hrest⟩ |
        ⟨front, q, back, results, mid, f, rfl, hprocesses, hf, hbreaks, hrest⟩
      · refine .inl ⟨r :: results, after, .cons hr hprocesses, ?_⟩
        rw [BatchStep.perform_bind, hperform]
        dsimp only
        rw [BatchStep.perform_bind, hrest]
        rfl
      · refine .inr ⟨p :: front, q, back, r :: results, mid, f, rfl, .cons hr hprocesses, hf,
          hbreaks, ?_⟩
        rw [BatchStep.perform_bind, hperform]
        dsimp only
        rw [BatchStep.perform_bind, hrest]
    · refine .inr ⟨[], p, files, [], d, f, rfl, .nil, hf, hbreaks, ?_⟩
      rw [BatchStep.perform_bind, hperform]

/-- A batch reports the paths at which there is nothing and then one result for each file that was
found, so that its counts add up. A file that cannot be read or decoded, that holds no program, or that
strict mode does not render is reported as failed, and the others are processed. Or else the batch ends
at the first file with which something else goes wrong, in a fault of one of six classes. -/
theorem run_report (b : Batch) (d : Disk) (paths : List FilePath) :
    ∃ files missing, b.Discovers d paths files missing ∧
      ((∃ results after, b.Processes d files results after ∧
          results.map (·.path) = files.map FilePath.render ∧
          ∃ report : Report, report.results = missing.map missingResult ++ results ∧
            report.count .changed + report.count .unchanged + report.count .failed =
              report.results.length ∧
            (b.run paths).perform ⟨d, none⟩ = (.ok report, ⟨after, none⟩)) ∨
        ∃ front p back results mid f, files = front ++ p :: back ∧
          b.Processes d front results mid ∧ (b.process mid p).1 = .error f ∧ b.Breaks mid p f ∧
          f.category ∈ (["LookupError", "UnicodeError", "UnicodeEncodeError", "IndexError",
            "ValueError", "TypeError"] : List Text) ∧
          (b.run paths).perform ⟨d, none⟩ = (.error f, ⟨(b.process mid p).2, none⟩)) := by
  refine ⟨_, _, b.discover_discovers d paths, ?_⟩
  rcases mapM_processFile b (b.discover d paths).1 d with ⟨results, after, hprocesses, hmap⟩ |
    ⟨front, p, back, results, mid, f, hfiles, hprocesses, hf, hbreaks, hmap⟩
  · refine .inl ⟨results, after, hprocesses, hprocesses.paths, _, rfl, Report.count_total _, ?_⟩
    simp [run, BatchStep.perform_bind, Except.map, hmap]
  · refine .inr ⟨front, p, back, results, mid, f, hfiles, hprocesses, hf, hbreaks,
      hbreaks.category.2, ?_⟩
    simp [run, BatchStep.perform_bind, hmap]

end

/-- A function is renamed in a file that is read in an encoding in which the string that the file
holds cannot be written back. The batch ends there. -/
theorem run_unencodable :
    let b : Batch :=
      ⟨{ baseDir := ⟨[], []⟩, encoding := "ascii" }, { renameFunctions := [("f", "g")] }, true⟩
    let d : Disk := ⟨[(["a.py"], .file ("def f():\n    return \"\\xe9\"\n".toUTF8.toList))]⟩
    b.plan.problems = [] ∧ ∃ f, ((b.run [⟨[], ["a.py"]⟩]).perform ⟨d, none⟩).1 = .error f ∧
      f.category = "UnicodeEncodeError" := by
  intro b d
  have hcategory : (((((b.run [⟨[], ["a.py"]⟩]).perform ⟨d, none⟩).1.map fun _ => []).tryCatch
      fun f => .ok f.category).toOption) = some (Text.ofString "UnicodeEncodeError") := by
    decide +kernel
  refine ⟨by decide +kernel, ?_⟩
  cases hrun : ((b.run [⟨[], ["a.py"]⟩]).perform ⟨d, none⟩).1 with
  | error f =>
    rw [hrun] at hcategory
    exact ⟨f, rfl, Option.some.inj hcategory⟩
  | ok report =>
    rw [hrun] at hcategory
    cases hcategory

end Batch

end Refactory
