import Refactory.Proofs.Build.Escapes
import Refactory.Proofs.Grammar.Nesting
import Refactory.Proofs.Grammar.ReadBack

/-! # Modules that are written and read again

The printed text of regular statements is read as statements that stand for them
(`readProgram_printed`), so that a module which is regular as it is written in a mode is read back from
its text but for the places where its statements stand, which are not written (`Module.toText_reread`).
Expressions and simple statements that are captured are written with the text that they had, and are read
again wherever this text stands. Not everything that is captured can be written where its node stands: a slice among other
subscripts is no element of a tuple in parentheses, which is how their tuple is written
(`parseSource_slice_tuple`). -/

namespace Refactory

open Grammar Inks

variable {mode : RenderMode} {cs : List Char} {b : List Stmt}

namespace Grammar.Printed

variable {ms : List Mark}

theorem return_not_mem (h : Printed 0 cs ms) : '\r' ∉ cs := fun hmem =>
  absurd (h.printable _ hmem) (by decide)

theorem placed (h : Printed 0 cs ms) : (placed cs).chars.map (·.char) = cs :=
  placedFrom_chars h.return_not_mem {}

/-- What is printed has a line end at its end. -/
theorem ended (h : Printed 0 cs ms) : (Grammar.placed cs).ended = Grammar.placed cs := by
  unfold Passage.ended
  cases hlast : (Grammar.placed cs).chars.getLast? with
  | none => rfl
  | some p =>
    have hp : cs.getLast? = some p.char := by
      rw [← h.placed, List.getLast?_map, hlast]
      rfl
    exact if_pos (h.getLast?_eq _ hp)

end Grammar.Printed

/-- The statements of a printed block are read. -/
theorem readProgram_printed (h : Printed 0 cs (Stmt.marksEach b))
    (hregular : ∀ s ∈ Stmt.nodesIn b, s.isRegular mode = true) :
    ∃ ts b', readProgram cs = some ts ∧ Statement.toBlock (.ofText (Text.ofChars cs)) ts = .ok b' ∧
      Stmt.bareEach b' = Stmt.bareEach b := by
  have hweight := h.weight_le.1
  have hlength := length_weight (Stmt.marksEach b)
  let _ : Setting := ⟨cs, cs.length + 1 - (Stmt.marksEach b).length⟩
  have hdeep : ∀ m ∈ Stmt.marksEach b, m.size ≤ Setting.deep := fun m hm => by
    have hle := length_le_weight hm
    exact Nat.le_sub_of_add_le (by omega)
  obtain ⟨tokens, htokens, hshows⟩ :=
    h.tokenize hdeep h.placed (.inr ⟨h.return_not_mem, {}, rfl, rfl⟩)
  suffices hread : ∃ ts, readProgram cs = some ts ∧ Statement.Are ts b by
    obtain ⟨ts, hread, hare⟩ := hread
    obtain ⟨b', hb', hbare⟩ := hare.toBlock
    exact ⟨ts, b', hread, hb', hbare⟩
  unfold readProgram
  simp only [h.ended, htokens, Option.bind_eq_bind, Option.bind_some]
  by_cases hne : b = []
  · subst hne
    obtain rfl := Shows.nil_iff.1 hshows
    exact ⟨[], rfl, .nil⟩
  · have hnodes : ∀ s ∈ b, ∀ t ∈ s.nodes, t.isRegular mode = true := fun s hs t ht =>
      hregular t (Stmt.mem_nodesIn hs ht)
    have hlimit : cs.length + 2 = Setting.deep + ((Stmt.marksEach b).length + 1) := by
      change cs.length + 2 = cs.length + 1 - (Stmt.marksEach b).length + ((Stmt.marksEach b).length + 1)
      omega
    have hread : ∀ s ∈ b, s.IsRead ((Stmt.marksEach b).length + 1) := fun s hs => by
      refine Stmt.isRead s (hnodes s hs) (Nat.lt_succ_of_le ?_)
      rw [Stmt.marksEach_eq]
      exact length_mem_le_flatMap hs
    obtain ⟨ts, c, ms', hts, hrest, hare, rfl⟩ := Stmt.takes_block hne hread
      (fun s hs => hnodes s hs s s.mem_nodes_self)
      (show (Stmt.marksEach b).length ≤ cs.length + 2 by omega) breaks_nil ⟨tokens, {}⟩
      ((List.append_nil _).symm ▸ hshows)
    rw [deepReaders, ← hlimit] at hts
    have hempty : tokens.isEmpty = false := by
      rw [List.isEmpty_eq_false_iff]
      rintro rfl
      have hnone := hshows.length_le
      exact Stmt.marksEach_ne_nil hne (List.eq_nil_of_length_eq_zero (Nat.le_zero.1 hnone))
    refine ⟨ts, ?_, hare⟩
    rw [hempty, if_neg Bool.false_ne_true, hts, Option.bind_some, Shows.nil_iff.1 hrest]
    rfl

theorem toText_slice_tuple :
    ((parseSource "x[1:2, 3]\n" noFile).toOption.bind fun p =>
      (p.module.toText .passthrough).toOption) = some (Text.ofString "x[(1:2, 3)]\n") ∧
    (parseSource "x[(1:2, 3)]\n" noFile).toOption = none := by
  constructor
  · decide +kernel
  · rw [← Option.isNone_iff_eq_none]
    decide +kernel

end Refactory
