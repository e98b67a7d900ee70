import Refactory.Proofs.Build.Starts
import Refactory.Proofs.Grammar.Unwritable

/-! # What escapes when a source is built

A source that cannot be read gives a failure with its path, and one that can be read gives a module,
unless a construct cannot be captured (`parseSource_settles`). That takes a carriage return that
stands alone, an integer that is too long to be written, or a formatted string with a field that would
need a backslash. The first of these occurs (`parseSource_lone_return`).

Nesting costs nothing here: an interpreter with a limit on recursion can give up on a source that is
nested deeper than the limit allows, when it is read or when it is built, and that is left out. -/

namespace Refactory

open Grammar

/-- The statements of a source that can be read. -/
def readSource (source : Text) : Option (List Statement) := do
  let chars ← source.chars?
  if chars.contains '\x00' then none else readProgram chars

theorem parseSource_none {source path : Text} (h : readSource source = none) :
    parseSource source path = .error (.unparsed (some path)) := by
  unfold parseSource
  unfold readSource at h
  cases hchars : source.chars? with
  | none => rfl
  | some chars =>
    rw [hchars] at h
    change (if _ then _ else _) = _ at h
    dsimp only
    split at h
    · rename_i hnull
      rw [if_pos hnull]
    · rename_i hnull
      rw [if_neg hnull, h]

theorem parseSource_some {source path : Text} {program : List Statement}
    (h : readSource source = some program) :
    parseSource source path = do
      return ⟨⟨← Statement.toBlock (.ofText source) program⟩, Statement.capturesAll program⟩ := by
  obtain ⟨chars, hchars, h⟩ := Option.bind_eq_some_iff.1 h
  split at h
  · cases h
  · rename_i hnull
    rw [parseSource, hchars]
    dsimp only
    rw [if_neg hnull, h]

/-- The statements that are captured in a source without lone carriage returns begin on its lines. -/
theorem readSource_until {source : Text} {program : List Statement}
    (h : readSource source = some program) (hreturn : ¬ source.LoneReturn) {span : Span}
    (hspan : .statement span ∈ Statement.capturedEach program) :
    span.start.line ≤ source.lines.length := by
  obtain ⟨chars, hchars, hprogram⟩ := Option.bind_eq_some_iff.1 h
  obtain rfl := Text.chars?_eq hchars
  split at hprogram
  · cases hprogram
  · exact Statement.capturedEach_until.2 (readProgram_until hprogram hreturn) _ hspan

/-- An expression that cannot be captured holds something that cannot be written. -/
theorem Excerpt.Fails.unwritable {source : Text} {x : Excerpt} {f : Fault} (h : x.Fails source f) :
    ∃ n : Term, n.Within x.term ∧ n.Unwritable f := by
  have hterm := x.term.canonical_fails false
  have htext : FailsBy (fun f => ∃ n : Term, n.Within x.term ∧ n.Unwritable f)
      (place .test (x.term.canonical false)) := inferInstance
  exact htext.fault h.2

/-- A fault that building a program leaves unhandled. A captured statement begins behind the last line,
where lines are cut at line feeds and a lone carriage return has ended a line; or a captured
expression on several lines holds something that cannot be written. -/
def Escapes (source : Text) (program : List Statement) (f : Fault) : Prop :=
  (f = .outOfRange ∧ source.LoneReturn ∧ ∃ span : Span,
    .statement span ∈ Statement.capturedEach program ∧ source.lines.length < span.start.line) ∨
  ∃ x : Excerpt, .expression x ∈ Statement.capturedEach program ∧ x.Fails source f ∧
    ∃ n : Term, n.Within x.term ∧ n.Unwritable f

/-- Building a source ends in a failure with its path exactly if the source cannot be read. Otherwise
it ends in a module exactly if no fault escapes. A limit on recursion is not among the faults. -/
theorem parseSource_settles (source path : Text) :
    (readSource source = none ↔ parseSource source path = .error (.unparsed (some path))) ∧
    ∀ program, readSource source = some program →
      Blames (Escapes source program) (parseSource source path) := by
  have hblames (program : List Statement) (hprogram : readSource source = some program) :
      BlamesAny (Capture.Fails source) (Statement.capturedEach program)
        (parseSource source path) := by
    rw [parseSource_some hprogram]
    exact (Statement.toBlock_blames program).last
  refine ⟨⟨parseSource_none, fun herror => ?_⟩, fun program hprogram =>
    (hblames program hprogram).congr fun f => ⟨?_, ?_⟩⟩
  · by_contra hsome
    obtain ⟨program, hprogram⟩ := Option.ne_none_iff_exists'.1 hsome
    have hblamed := hblames program hprogram
    rw [herror] at hblamed
    obtain ⟨span | x, -, hfails⟩ := hblamed
    · cases hfails.1
    · obtain ⟨n, -, hn⟩ := Excerpt.Fails.unwritable hfails
      obtain hf | hf := hn.fault <;> cases hf
  · rintro ⟨span | x, hcaptured, hfails⟩
    · refine .inl ⟨hfails.1, ?_, span, hcaptured, hfails.2⟩
      by_contra hreturn
      exact Nat.not_le_of_lt hfails.2 (readSource_until hprogram hreturn hcaptured)
    · exact .inr ⟨x, hcaptured, hfails, Excerpt.Fails.unwritable hfails⟩
  · rintro (⟨rfl, -, span, hcaptured, hline⟩ | ⟨x, hcaptured, hfails, -⟩)
    · exact ⟨_, hcaptured, rfl, hline⟩
    · exact ⟨_, hcaptured, hfails⟩

/-- A comprehension on two lines, and behind a line end of two characters a captured statement. -/
theorem parseSource_settles_sample :
    let source : Text := "x = [y\n for y in z]\r\ndel x"
    (parseSource source noFile).toOption.isSome = true ∧ ∃ program,
      readSource source = some program ∧
        Blames (Escapes source program) (parseSource source noFile) := by
  -- The source stays a variable here, so that it is not read while the statement is applied to it.
  have hreadable (source : Text) (hsome : (readSource source).isSome = true) :
      ∃ program, readSource source = some program ∧
        Blames (Escapes source program) (parseSource source noFile) := by
    obtain ⟨program, hprogram⟩ := Option.isSome_iff_exists.1 hsome
    exact ⟨program, hprogram, (parseSource_settles source noFile).2 program hprogram⟩
  exact ⟨by decide +kernel, hreadable _ (by decide +kernel)⟩

/-- A statement behind a lone carriage return is on the second line of a source that has only one
line when it is cut at line feeds. -/
theorem parseSource_lone_return :
    let source : Text := "x\rdel x"
    (readSource source).isSome = true ∧ ∃ f, parseSource source noFile = .error f ∧
      f.category = "IndexError" := by
  intro source
  have hcategory : (((parseSource source noFile).map fun _ => []).tryCatch fun f =>
      .ok f.category).toOption = some (Text.ofString "IndexError") := by
    decide +kernel
  refine ⟨by decide +kernel, ?_⟩
  cases hparse : parseSource source noFile with
  | error f =>
    rw [hparse] at hcategory
    exact ⟨f, rfl, Option.some.inj hcategory⟩
  | ok parsed =>
    rw [hparse] at hcategory
    cases hcategory

end Refactory
