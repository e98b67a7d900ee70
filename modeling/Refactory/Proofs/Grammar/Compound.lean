import Refactory.Proofs.Grammar.Definitions

/-! # Try statements are read back

A `try` statement is read with its handlers and the blocks behind them, as far as the words go that go
on with it (`tryStatement_takes`). -/

namespace Refactory

open Grammar Inks

namespace Grammar

variable {mode : RenderMode} {ms after : List Mark}

/-! ## What is written -/

theorem marks_handler (type : Expr) (name : Option Text) (body : List Stmt) :
    marks (Handler.mk (some type) name body).inks = .symbol "except" ::
      (type.marksAt .test ++ (marks (boundInks name) ++ [.symbol ":"])) := by
  simp [Handler.inks, Expr.marksAt]

theorem region_head_ne {word : String} {b : List Stmt} {m : Mark} (hm : .symbol word ≠ m)
    (hafter : next? after ≠ some m) :
    next? (regionMarks word (Stmt.marksEach b) ++ after) ≠ some m := by
  cases Stmt.marksEach b with
  | nil => exact hafter
  | cons m' rest => exact fun heq => hm (Option.some.inj heq)

theorem Handler.marksEach_eq (hs : List Handler) : Handler.marksEach hs =
    hs.flatMap fun h => marks h.inks ++ blockMarks (Stmt.marksEach h.body) := by
  induction hs with
  | nil => rfl
  | cons h hs ih =>
    obtain ⟨type, name, body⟩ := h
    rw [Handler.marksEach, ih]
    rfl

theorem regionMarks_of_ne_nil {b : List Stmt} (word : String) (h : b ≠ []) :
    regionMarks word (Stmt.marksEach b) =
      .symbol word :: .symbol ":" :: blockMarks (Stmt.marksEach b) := by
  obtain ⟨m, rest, hmarks⟩ := List.exists_cons_of_ne_nil (Stmt.marksEach_ne_nil h)
  rw [hmarks]
  rfl

/-- No star stands behind the word of a handler. -/
theorem Handler.head_marks {h : Handler} (hregular : h.isRegular mode = true) (ms : List Mark) :
    ∃ rest, marks h.inks ++ ms = .symbol "except" :: rest ∧ next? rest ≠ some (.symbol "*") := by
  obtain ⟨type, name, body⟩ := h
  cases type with
  | none => exact ⟨.symbol ":" :: ms, rfl, symbol_head_ne (by decide) _⟩
  | some type =>
    simp only [Handler.isRegular, Bool.and_eq_true] at hregular
    rw [marks_handler, List.cons_append, List.append_assoc]
    exact ⟨_, rfl, ((Expr.opens hregular.1.1 .test).append _).head_ne (by decide)⟩

variable [Setting] {depth : Nat} {r : Readers} {statements : Reader (List Statement)}

/-! ## Handlers -/

/-- A handler of the grammar stands for one of the tree, locations left out. -/
def Catch.Is (c : Catch) (h : Handler) : Prop := ∃ t ts, c = .mk t h.name ts ∧
  Option.Rel (fun e t => Term.Is t e) h.type t ∧ Statement.Are ts h.body

theorem Catch.toHandlers_of {hs : List Handler} {cs : List Catch}
    (h : List.Forall₂ (fun h c => Catch.Is c h) hs cs) :
    ∃ hs', Catch.toHandlers origin cs = .ok hs' ∧ Handler.bareEach hs' = Handler.bareEach hs := by
  induction h with
  | nil => exact ⟨[], rfl, rfl⟩
  | @cons h _ hs _ hc _ ih =>
    obtain ⟨type, name, body⟩ := h
    obtain ⟨t, ts, rfl, ht, hts⟩ := hc
    obtain ⟨b, hb, hbare⟩ := hts.toBlock
    obtain ⟨hs', hhs', hrest⟩ := ih
    refine ⟨.mk type name b :: hs', ?_, ?_⟩
    · rw [Catch.toHandlers, Term.toExpr?_of ht, hb, hhs']
      rfl
    · rw [Handler.bareEach, Handler.bareEach, hbare, hrest]
      rfl

theorem handler_takes {h : Handler} (hregular : h.isRegular mode = true)
    (hdepth : (marks h.inks).length ≤ depth) (hbody : TakesBlock statements h.body) :
    Takes (handler (deepReaders depth) statements false)
      (marks h.inks ++ (blockMarks (Stmt.marksEach h.body) ++ after)) fun c ms' =>
        c.Is h ∧ ms' = after := by
  obtain ⟨type, name, body⟩ := h
  cases type with
  | none =>
    rw [Handler.isRegular, Bool.and_eq_true, Option.isNone_iff_eq_none] at hregular
    have hmarks : marks (Handler.mk none name body).inks = [.symbol "except", .symbol ":"] := rfl
    rw [hmarks, List.cons_append, List.cons_append, List.nil_append]
    refine expect_hit ?_
    rw [if_neg Bool.false_ne_true]
    refine (nextIs_hit ":").next_eq ?_
    rw [if_pos (by rfl)]
    rw [hregular.1]
    exact (suite_takes hbody).next fun ts hts => .pure ⟨⟨none, ts, rfl, .none, hts⟩, rfl⟩
  | some type =>
    simp only [Handler.isRegular, Bool.and_eq_true] at hregular
    rw [marks_handler, List.length_cons, List.length_append] at hdepth
    rw [marks_handler, List.cons_append, List.append_assoc, List.append_assoc, List.singleton_append]
    have hopens := Expr.opens hregular.1.1 .test
    have hclear : Clear .test (marks (boundInks name) ++
        .symbol ":" :: (blockMarks (Stmt.marksEach body) ++ after)) := by
      cases name <;> exact clear_cons (by decide)
    refine expect_hit ?_
    rw [if_neg Bool.false_ne_true]
    refine (nextIs_miss ((hopens.append _).head_ne (by decide))).next_eq ?_
    rw [Bool.and_false, if_neg Bool.false_ne_true]
    refine (Expr.takes_expression hregular.1.1 (by omega) hclear).next fun t ht => ?_
    refine (asName_takes name (symbol_head_ne (by decide) _)).next_eq ?_
    exact (suite_takes hbody).next fun ts hts => .pure ⟨⟨some t, ts, rfl, .some ht, hts⟩, rfl⟩

theorem nextIsStarHandler_miss {text : String} (hms : next? ms ≠ some (.symbol "*")) :
    Takes nextIsStarHandler (.symbol text :: ms) fun b ms' =>
      b = false ∧ ms' = .symbol text :: ms := fun c hc => by
  obtain ⟨tokens, last⟩ := c
  refine ⟨false, _, _, ?_, hc, rfl, rfl⟩
  obtain ⟨⟨l, span⟩, rest, rfl, hl, hrest⟩ := hc.head rfl
  obtain rfl : l = .symbol text := Lexeme.mark_symbol.1 hl
  rw [← hrest.next_eq] at hms
  unfold nextIsStarHandler
  split
  · rename_i t span' rest' heq
    obtain ⟨-, rfl⟩ := List.cons.inj heq
    have hstar : (t == "*") = false := beq_eq_false_iff_ne.2 fun ht => hms (by rw [ht]; rfl)
    rw [hstar, Bool.and_false]
  · rfl

/-! ## Blocks behind words -/

/-- A block behind a word, or nothing if another word comes next. -/
theorem optionalSuite_takes {word : String} {b : List Stmt} (hb : b ≠ [] → TakesBlock statements b)
    (hafter : next? after ≠ some (.symbol word)) :
    Takes (optionalSuite r statements word) (regionMarks word (Stmt.marksEach b) ++ after)
      fun ts ms' => Statement.Are ts b ∧ ms' = after := by
  cases b with
  | nil => exact ifAccept_miss hafter (.pure ⟨.nil, rfl⟩)
  | cons s b =>
    obtain ⟨m, rest, hmarks⟩ :=
      List.exists_cons_of_ne_nil (Stmt.marksEach_ne_nil (List.cons_ne_nil s b))
    have hregion : regionMarks word (Stmt.marksEach (s :: b)) =
        .symbol word :: .symbol ":" :: blockMarks (Stmt.marksEach (s :: b)) := by
      rw [hmarks]
      rfl
    rw [hregion]
    exact ifAccept_hit (suite_takes (hb (List.cons_ne_nil s b)))

/-! ## Try statements -/

theorem handlers_take {h : Handler} {hs : List Handler} (hregular : ∀ x ∈ h :: hs, x.isRegular mode = true)
    (hdepth : (Handler.marksEach (h :: hs)).length ≤ depth)
    (hbodies : ∀ x ∈ h :: hs, TakesBlock statements x.body)
    (hafter : next? after ≠ some (.symbol "except")) :
    Takes (Reader.some (handler (deepReaders depth) statements false))
      (Handler.marksEach (h :: hs) ++ after) fun cs ms' =>
        List.Forall₂ (fun h c => Catch.Is c h) (h :: hs) cs ∧ ms' = after := by
  rw [Handler.marksEach_eq] at hdepth ⊢
  refine Takes.oneOrMore (expect_miss hafter).bind (by simp [blockMarks]) fun x ys hys => ?_
  have hx : x ∈ h :: hs := hys.subset List.mem_cons_self
  have hle := length_mem_le_flatMap
    (f := fun h => marks h.inks ++ blockMarks (Stmt.marksEach h.body)) hx
  rw [List.length_append] at hle
  rw [List.append_assoc]
  exact handler_takes (hregular x hx) (by omega) (hbodies x hx)

/-- The parts of a `try` statement stand for the statement. -/
theorem Statement.is_tryExcept {body orelse finalbody : List Stmt} {handlers : List Handler}
    {location : Option Location} {ts es fs : List Statement} {cs : List Catch}
    (hts : Statement.Are ts body) (hcs : List.Forall₂ (fun h c => Catch.Is c h) handlers cs)
    (hes : Statement.Are es orelse) (hfs : Statement.Are fs finalbody) (span : Span) :
    Statement.Is (.tryExcept span ts cs es fs)
      (.tryExcept body handlers orelse finalbody location) := by
  obtain ⟨b, hb, hbareBody⟩ := hts.toBlock
  obtain ⟨hs, hhs, hbareHandlers⟩ := Catch.toHandlers_of hcs
  obtain ⟨e, he, hbareElse⟩ := hes.toBlock
  obtain ⟨f, hf, hbareFinal⟩ := hfs.toBlock
  refine ⟨.tryExcept b hs e f (some span.location), ?_, ?_⟩
  · rw [Statement.toStmt, hb, hhs, he, hf]
    rfl
  · rw [Stmt.bare, Stmt.bare, hbareBody, hbareHandlers, hbareElse, hbareFinal]

/-- A `try` statement is read up to where no word goes on with it. -/
theorem tryStatement_takes {body orelse finalbody : List Stmt} {handlers : List Handler}
    {location : Option Location}
    (h : (Stmt.tryExcept body handlers orelse finalbody location).isRegular mode = true)
    (hdepth : (Handler.marksEach handlers).length ≤ depth)
    (hblocks : ∀ b ∈ (Stmt.tryExcept body handlers orelse finalbody location).blocks,
      b ≠ [] → TakesBlock statements b)
    (hafter : ∀ m ∈ tryWords, next? after ≠ some m) :
    Takes (tryStatement (deepReaders depth) statements)
      ((Stmt.tryExcept body handlers orelse finalbody location).marks ++ after) fun t ms' =>
        t.Is (.tryExcept body handlers orelse finalbody location) ∧ ms' = after := by
  simp only [Stmt.isRegular, Bool.and_eq_true, Bool.not_eq_true', List.isEmpty_eq_false_iff,
    List.all_eq_true, Bool.or_eq_true, List.isEmpty_iff] at h
  obtain ⟨⟨hbody, hregular⟩, hsome⟩ := h
  simp only [Stmt.blocks, List.mem_append, List.mem_cons, List.not_mem_nil, or_false] at hblocks
  have hfinally : next? after ≠ some (.symbol "finally") := hafter _ (by decide)
  rw [Stmt.marks]
  simp only [List.cons_append, List.append_assoc]
  refine takes_here fun start => expect_hit ?_
  refine (suite_takes (hblocks body (.inl (.inl rfl)) hbody)).next fun ts hts => ?_
  cases handlers with
  | nil =>
    obtain ⟨rfl, hfinalbody⟩ := hsome.resolve_left (by simp)
    rw [regionMarks_of_ne_nil "finally" hfinalbody]
    refine ifAccept_hit
      ((suite_takes (hblocks finalbody (by simp) hfinalbody)).next fun fs hfs => ?_)
    exact takes_spanFrom fun span => .pure ⟨Statement.is_tryExcept hts .nil .nil hfs span, rfl⟩
  | cons x xs =>
    have hexcept : next? (regionMarks "else" (Stmt.marksEach orelse) ++
        (regionMarks "finally" (Stmt.marksEach finalbody) ++ after)) ≠ some (.symbol "except") :=
      region_head_ne (by decide) (region_head_ne (by decide) (hafter _ (by decide)))
    have hhandlers := handlers_take hregular hdepth (fun y hy => hblocks y.body
      (.inl (.inr (List.mem_map_of_mem hy))) (Handler.body_ne_nil (hregular y hy))) hexcept
    obtain ⟨rest, hmarks, hrest⟩ : ∃ rest, Handler.marksEach (x :: xs) ++
        (regionMarks "else" (Stmt.marksEach orelse) ++
          (regionMarks "finally" (Stmt.marksEach finalbody) ++ after)) =
            .symbol "except" :: rest ∧ next? rest ≠ some (.symbol "*") := by
      rw [Handler.marksEach_eq, List.flatMap_cons, List.append_assoc, List.append_assoc]
      exact Handler.head_marks (hregular x List.mem_cons_self) _
    rw [hmarks] at hhandlers ⊢
    refine ifAccept_miss (symbol_head_ne (by decide) _) ?_
    refine (nextIsStarHandler_miss hrest).next_eq ?_
    refine hhandlers.next fun cs hcs => ?_
    refine (optionalSuite_takes (hblocks orelse (by simp))
      (region_head_ne (by decide) (hafter _ (by decide)))).next fun es hes => ?_
    refine (optionalSuite_takes (hblocks finalbody (by simp)) hfinally).next fun fs hfs => ?_
    refine takes_spanFrom fun span => ?_
    rw [if_neg Bool.false_ne_true]
    exact .pure ⟨Statement.is_tryExcept hts hcs hes hfs span, rfl⟩

end Grammar

end Refactory
