import Refactory.Proofs.Grammar.Blocks
import Refactory.Proofs.Render.Heads
import Refactory.Proofs.Render.Legible

/-! # The lines of regular statements are legible

What is written for the parts of a statement can be read back with what stands behind it (`Part`), so
that its lines are legible (`Stmt.legible`, `Handler.legible`, `legible_decorator`). They begin with
marks by which the sort of the statement is known (`Stmt.begins`, `Stmt.begins_line`). -/

namespace Refactory

open Grammar Inks

/-! ## Lines are legible -/

section

variable {stack : List Char} {rest xs : List Ink} {ok : Char → Prop} {mode : RenderMode}

theorem part_name {id : Text} (h : id.isNormalName = true) : Part True [.mark (.name id)] :=
  fun _ _ hrest hbehind => .name h (fun c hc => (hbehind c hc).1) hrest

theorem Expr.part {e : Expr} {star : Bool} (h : e.isReadable mode star = true) (least : Precedence) :
    Part False (e.inksAt least) :=
  ((e.legible star h).inksAt least).mono False.elim

theorem next_behind {dot : Prop} {text : String} {c : Char} (htext : text.toList = [c])
    (hc : c ∈ enders) (hdot : c ≠ '.') (inks : List Ink) : Next (Behind dot) (.symbol text :: inks) :=
  next_symbol htext ⟨hc, fun h => (hdot h).elim⟩ inks

/-- A colon at the end of a line. -/
theorem Part.colon (h : Part False xs) : Legible [] (xs ++ [.symbol ":"]) :=
  h [] _ (.operator (by decide) (fun _ hc => by cases hc) .nil)
    (next_behind (c := ':') (by decide) (by decide) (by decide) [])

/-- The end of a line. -/
theorem Part.line (h : Part False xs) : Legible [] xs := by
  have hline := h [] [] .nil fun _ hc => by cases hc
  rwa [List.append_nil] at hline

/-- An operator in front of a name. -/
theorem Before.operatorName {text : String} (htext : text ∈ operators) {id : Text}
    (hid : id.isNormalName = true) (h : Before ok (.mark (.name id) :: xs)) :
    Before ok (.symbol text :: .mark (.name id) :: xs) := fun stack rest hrest hnext => by
  refine .operator htext (fun c hc => ?_) (h stack rest hrest hnext)
  obtain ⟨hword, hdigit⟩ := next_name hid _ c hc
  refine .inr ⟨not_extender_of_word hword, fun _ => ⟨?_, hdigit⟩⟩
  rintro rfl
  cases hword

/-- Names with dots between them. -/
theorem part_names {ids : List Text} {id : Text} (h : ∀ i ∈ id :: ids, i.isNormalName = true) :
    Part True (.mark (.name id) :: ids.flatMap fun i => [.symbol ".", .mark (.name i)]) := by
  induction ids generalizing id with
  | nil => exact part_name (h id List.mem_cons_self)
  | cons i ids ih =>
    rw [List.forall_mem_cons] at h
    rw [List.flatMap_cons, List.cons_append, List.cons_append, List.nil_append]
    refine (part_name h.1).append (Before.operatorName (by decide) (h.2 i List.mem_cons_self)
      (ih h.2)) fun rest => ?_
    exact next_symbol (show ".".toList = ['.'] by decide) ⟨by decide, fun _ => trivial⟩ _

/-- A dotted name is its first part with the others behind dots. -/
theorem Text.inks_eq {t : Text} (h : t.isDotted = true) : ∃ id ids, t.splitOn '.' = id :: ids ∧
    (∀ i ∈ id :: ids, i.isNormalName = true) ∧
    t.inks = .mark (.name id) :: ids.flatMap fun i => [.symbol ".", .mark (.name i)] := by
  rw [Text.isDotted, List.all_eq_true] at h
  obtain ⟨id, ids, hsplit⟩ := List.exists_cons_of_ne_nil (Text.splitOn_ne_nil (CodePoint.scalar '.') t)
  refine ⟨id, ids, hsplit, hsplit ▸ h, ?_⟩
  rw [Text.inks, hsplit, List.map_cons, Inks.join, List.flatMap_map]
  rfl

theorem Text.part {t : Text} (h : t.isDotted = true) : Part True t.inks := by
  obtain ⟨id, ids, -, hids, hinks⟩ := Text.inks_eq h
  rw [hinks]
  exact part_names hids

theorem part_bound {name : Option Text} (h : name.all Text.isNormalName = true) (hx : Part False xs) :
    Part False (xs ++ boundInks name) := by
  cases name with
  | none => exact (List.append_nil xs).symm ▸ hx
  | some id =>
    have hid := (part_name h).mono fun hfalse : False => hfalse.elim
    exact Before.append hx (hid.symbolGap (.inl (by decide))).gap fun rest => behind_gap False _

theorem Alias.part {a : Alias} (h : a.isRegular = true) : Part False a.inks := by
  rw [Alias.isRegular, Bool.and_eq_true] at h
  exact part_bound h.2 ((Text.part h.1).mono False.elim)

theorem Alias.part_commas {names : List Alias} (h : names.all Alias.isRegular = true) :
    Part False (commas (names.map Alias.inks)) := by
  rw [List.all_eq_true] at h
  exact Part.commas (List.forall_mem_map.2 fun a ha => Alias.part (h a ha))

theorem Alias.legible_members {names : List Alias} (h : Alias.areMembers names = true) :
    Legible [] (Alias.memberInks names) := by
  unfold Alias.memberInks
  split_ifs with hall
  · exact .operator (by decide) (fun _ hc => by cases hc) .nil
  · rw [Alias.areMembers, Bool.or_eq_true, beq_iff_eq, List.all_eq_true] at h
    exact (Alias.part_commas (List.all_eq_true.2 fun a ha =>
      (Bool.and_eq_true _ _ ▸ h.resolve_left hall a ha).1)).line

/-- Dots in front of what is no dot and no digit. -/
theorem legible_level (level : Nat) (h : Legible stack rest)
    (hnext : Next (fun c => c.isDigit = false ∧ c ≠ '.') rest) :
    Legible stack (levelInks level ++ rest) := by
  have hdot : ∀ inks, Legible stack inks → Next (fun c => c.isDigit = false) inks →
      ¬ ['.', '.'] <+: spell inks → Legible stack (.symbol "." :: inks) :=
    fun inks hinks hdigit hmore => .dot hdigit hmore hinks
  have hdigit : Next (fun c => c.isDigit = false) rest := fun c hc => (hnext c hc).1
  have hsingle : ∀ tail, ¬ '.' :: tail <+: spell rest := by
    rintro tail ⟨more, hmore⟩
    exact (hnext '.' (by rw [← hmore]; rfl)).2 rfl
  have hfew : ∀ n < 3, Legible stack (List.replicate n (.symbol ".") ++ rest) := by
    intro n hn
    match n, hn with
    | 0, _ => exact h
    | 1, _ => exact hdot _ h hdigit (hsingle _)
    | 2, _ =>
      refine hdot (.symbol "." :: rest) (hdot _ h hdigit (hsingle _))
        (fun c hc => by cases hc; rfl) fun hprefix => ?_
      exact hsingle [] (List.cons_prefix_cons.1 hprefix).2
  have hmany : ∀ n, Legible stack (List.replicate n (.symbol "...") ++
      (List.replicate (level % 3) (.symbol ".") ++ rest)) := by
    intro n
    induction n with
    | zero => exact hfew _ (Nat.mod_lt _ (by decide))
    | succ n ih => exact .ellipsis ih
  rw [levelInks, List.append_assoc]
  exact hmany _

end

/-! ## Parameter lists -/

/-- What can stand behind an item of a list in parentheses. -/
def EndsItem (c : Char) : Prop := c = ',' ∨ c = ')'

theorem EndsItem.behind {c : Char} (h : EndsItem c) : Behind False c := by
  rcases h with rfl | rfl <;> exact ⟨by decide, fun h => absurd h (by decide)⟩

theorem before_mark {text : String} (htext : text ∈ operators) (hdot : text ≠ ".") :
    Before EndsItem [.symbol text] := fun _ _ hrest hnext =>
  .operator htext (fun c hc => .inr
    ⟨by rcases hnext c hc with rfl | rfl <;> decide, fun h => (hdot h).elim⟩) hrest

theorem Param.part {p : Param} (h : p.isRegular mode = true) : Part False p.inks := by
  obtain ⟨name, kind, hint, default⟩ := p
  simp only [Param.isRegular, Bool.and_eq_true] at h
  obtain ⟨⟨⟨hname, hhint⟩, hdefault⟩, -⟩ := h
  have hname : Part False [.mark (.name name)] := (part_name hname).mono False.elim
  have hhinted : Part False ([.mark (.name name)] ++ hintInks hint) := by
    cases hint with
    | none => exact hname
    | some a =>
      refine Before.append hname ((Expr.part hhint .test).symbolGap (.inr (by decide))) fun rest => ?_
      exact next_behind (c := ':') (by decide) (by decide) (by decide) _
  cases default with
  | none =>
    rw [Param.inks, defaultInks, List.append_nil]
    exact hhinted
  | some d =>
    have hplain : d.isReadable mode false = true := hdefault
    have hd := Expr.part hplain .test
    rw [Param.inks, defaultInks, ← List.cons_append, ← List.nil_append (hintInks hint),
      ← List.cons_append]
    refine Before.append hhinted (?_ : Part False _) fun rest => ?_
    · split_ifs
      · exact (hd.symbolGap (.inr (by decide))).gap
      · exact hd.prefixed (by decide) (by decide)
          (((d.leads hplain).enclose .test).mono (by decide))
    · split_ifs
      · exact behind_gap False _
      · exact next_behind (c := '=') (by decide) (by decide) (by decide) _

theorem Param.before_each {ps : List Param} (h : ps.all (Param.isRegular mode) = true) (sawStar : Bool) :
    ∀ x ∈ Param.inksEach sawStar ps, Before EndsItem x := by
  induction ps generalizing sawStar with
  | nil => exact List.forall_mem_nil _
  | cons p ps ih =>
    rw [List.all_cons, Bool.and_eq_true] at h
    have hp : Before EndsItem p.inks := Before.mono (Param.part h.1) fun _ => EndsItem.behind
    have hname : p.name.isNormalName = true := by
      simp only [Param.isRegular, Bool.and_eq_true] at h
      exact h.1.1.1.1
    have hmarked {text : String} (htext : text ∈ operators) :
        Before EndsItem (.symbol text :: p.inks) := Before.operatorName htext hname hp
    have hrest := ih h.2
    rw [Param.inksEach]
    split
    · exact List.forall_mem_cons.2 ⟨hmarked (by decide), hrest true⟩
    · exact List.forall_mem_cons.2 ⟨hmarked (by decide), hrest sawStar⟩
    · refine List.forall_mem_append.2 ⟨?_, List.forall_mem_cons.2 ⟨hp, hrest true⟩⟩
      split_ifs
      · exact List.forall_mem_nil _
      · exact List.forall_mem_singleton.2 (before_mark (by decide) (by decide))
    · refine List.forall_mem_append.2 ⟨List.forall_mem_cons.2 ⟨hp, ?_⟩, hrest sawStar⟩
      split_ifs
      · exact List.forall_mem_singleton.2 (before_mark (by decide) (by decide))
      · exact List.forall_mem_nil _

theorem part_params {ps : List Param} (h : ps.all (Param.isRegular mode) = true) : Part True (paramInks ps) :=
  (Before.commas (.inl rfl) (Param.before_each h false)).parenthesized (.inr rfl)

theorem part_returns {returns : Option Expr} (h : returns.all (Expr.isReadable mode false) = true)
    {xs : List Ink} (hx : Part False xs) : Part False (xs ++ returnInks returns) := by
  cases returns with
  | none => exact (List.append_nil xs).symm ▸ hx
  | some r =>
    exact Before.append hx ((Expr.part h .test).symbolGap (.inr (by decide))).gap fun rest =>
      behind_gap False _

/-! ## Heads -/

theorem legible_decorator {d : Expr} (h : d.isReadable mode false = true) : Legible [] (decoratorInks d) := by
  have hlead := ((d.leads h).enclose .named).mono (show 1 ≤ _ by decide)
  exact Part.line ((Expr.part h .named).prefixed (by decide) (by decide) hlead)

theorem FunctionHead.legible {f : FunctionHead} (h : f.isRegular mode = true) : Legible [] f.inks := by
  simp only [FunctionHead.isRegular, Bool.and_eq_true] at h
  obtain ⟨⟨⟨⟨hname, hparams⟩, -⟩, hreturns⟩, -⟩ := h
  have hrest := part_returns hreturns ((part_params hparams).mono False.elim)
  have hnamed : Part False ([.mark (.name f.name)] ++ (paramInks f.params ++ returnInks f.returns)) :=
    Before.append (part_name hname) hrest
      fun rest => behind_opening (c := '(') True (by decide) (by decide) _
  have hdef : Part False (.symbol "def" :: .gap :: _) := hnamed.symbolGap (.inl (by decide))
  rw [FunctionHead.inks]
  split_ifs
  · have hasync : Part False (.symbol "async" :: .gap :: _) := hdef.symbolGap (.inl (by decide))
    exact hasync.colon
  · exact hdef.colon

theorem ClassHead.legible {c : ClassHead} (h : c.isRegular mode = true) : Legible [] c.inks := by
  simp only [ClassHead.isRegular, Bool.and_eq_true, Expr.areReadable_iff, Keyword.areReadable_iff] at h
  obtain ⟨⟨⟨hname, hbases⟩, hkeywords⟩, -⟩ := h
  have hname : Part False [.mark (.name c.name)] := (part_name hname).mono False.elim
  have hitems : ∀ x ∈ c.bases.map (Expr.inksAt .test) ++ c.keywords.map Keyword.inks, Part False x :=
    List.forall_mem_append.2 ⟨List.forall_mem_map.2 fun b hb => Expr.part (hbases b hb) .test,
      List.forall_mem_map.2 fun k hk => Keyword.legible (hkeywords k hk).2 (hkeywords k hk).1
        fun least => Expr.part (hkeywords k hk).1 least⟩
  have hnamed : Part False ([.mark (.name c.name)] ++ baseInks c.bases c.keywords) := by
    rw [baseInks]
    split
    · exact hname
    · rename_i items _ hsome
      refine Before.append hname ((Part.commas ?_).parenthesized.mono False.elim) fun rest =>
        behind_opening (c := '(') False (by decide) (by decide) _
      exact hitems
  have hclass : Part False (.symbol "class" :: .gap :: _) := hnamed.symbolGap (.inl (by decide))
  exact hclass.colon

theorem Handler.legible {h : Handler} (hregular : h.isRegular mode = true) : Legible [] h.inks := by
  obtain ⟨type, name, body⟩ := h
  cases type with
  | none => exact ((part_word (by decide)).mono fun hfalse : False => hfalse.elim).colon
  | some type =>
    simp only [Handler.isRegular, Bool.and_eq_true] at hregular
    have hbound := part_bound hregular.1.2 (Expr.part hregular.1.1 .test)
    have hexcept : Part False (.symbol "except" :: .gap :: _) := hbound.symbolGap (.inl (by decide))
    exact hexcept.colon

theorem Stmt.legible {s : Stmt} (h : s.isRegular mode = true) : Legible [] s.inks := by
  have hkeyword {text : String} (htext : text ∈ keywords) : Part False [.symbol text] :=
    (part_word htext).mono False.elim
  cases s with
  | function head body location =>
    rw [Stmt.isRegular, Bool.and_eq_true] at h
    exact head.legible h.1
  | classDef head body location =>
    rw [Stmt.isRegular, Bool.and_eq_true] at h
    exact head.legible h.1
  | importNames names location =>
    rw [Stmt.isRegular, Bool.and_eq_true] at h
    exact Part.line ((Alias.part_commas h.2).symbolGap (.inl (by decide)))
  | importFrom module names level location =>
    simp only [Stmt.isRegular, Bool.and_eq_true] at h
    obtain ⟨⟨⟨⟨hmodule, -⟩, -⟩, -⟩, hnames⟩ := h
    have hmembers : Legible [] (Ink.gap :: Ink.symbol "import" :: .gap :: Alias.memberInks names) :=
      .gap (.keyword (by decide) (next_gap (by decide) _) (.gap (Alias.legible_members hnames)))
    have hmodule : Legible [] (module.elim [] Text.inks ++ .gap :: .symbol "import" :: .gap ::
          Alias.memberInks names) ∧
        Next (fun c => c.isDigit = false ∧ c ≠ '.') (module.elim [] Text.inks ++ .gap ::
          .symbol "import" :: .gap :: Alias.memberInks names) := by
      cases module with
      | none => exact ⟨hmembers, next_gap (by decide) _⟩
      | some m =>
        refine ⟨Text.part hmodule _ _ hmembers (behind_gap True _), ?_⟩
        obtain ⟨id, ids, -, hids, hinks⟩ := Text.inks_eq hmodule
        change Next _ (m.inks ++ _)
        rw [hinks]
        intro c hc
        have hword := next_name (hids id List.mem_cons_self) _ c hc
        refine ⟨hword.2, ?_⟩
        rintro rfl
        exact absurd hword.1 (by decide)
    exact .keyword (by decide) (next_gap (by decide) _)
      (.gap (legible_level _ hmodule.1 hmodule.2))
  | assign targets value location =>
    simp only [Stmt.isRegular, Bool.and_eq_true, Expr.areReadable_iff] at h
    have htargets : Part False (commas (targets.map (Expr.inksAt .test))) :=
      Part.commas (List.forall_mem_map.2 fun t ht => Expr.part (h.1.1 t ht) .test)
    exact Part.line (Before.append htargets
      ((Expr.part h.2 .yielding).symbolGap (.inr (by decide))).gap fun rest => behind_gap False _)
  | ret value location =>
    cases value with
    | none => exact (hkeyword (by decide)).line
    | some value => exact Part.line ((Expr.part h .test).symbolGap (.inl (by decide)))
  | pass location => exact (hkeyword (by decide)).line
  | expr value location => exact (Expr.part h .yielding).line
  | tryExcept body handlers orelse finalbody location => exact (hkeyword (by decide)).colon
  | captured kind source location =>
    obtain ⟨-, word, rfl, hword⟩ := Stmt.captured_cases h
    rw [Stmt.inks, filterMap_char_ofChars]
    exact .captured hword.toSnippet (fun _ hc => by cases hc) .nil
  | foreign kind => cases h

/-! ## How a statement begins -/

theorem not_tryWord {m : Mark} (h : 0 < m.opens) : m.first ∉ tryWords := by
  intro hm
  have hall : ∀ m ∈ tryWords, m.starts = 0 := by decide
  exact Nat.not_lt.2 (hall _ hm ▸ m.opens_le_first) h

/-- The first ink is a mark with which an expression begins, or a star. -/
theorem Expr.begins {e : Expr} {star : Bool} (h : e.isReadable mode star = true) (least : Precedence) :
    ∃ m rest, e.inksAt least = .mark m :: rest ∧ (0 < m.opens ∨ m = .symbol "*") := by
  by_cases hstar : e.isStarred = true
  · cases e with
    | starred value =>
      unfold Expr.inksAt enclose
      split
      · exact ⟨_, _, rfl, .inl (by decide)⟩
      · exact ⟨_, _, rfl, .inr rfl⟩
    | _ => cases hstar
  · have hplain : e.isReadable mode false = true := Expr.readable_of_not_starred h (Bool.eq_false_iff.2 hstar)
    obtain ⟨m, rest, hinks, hopens, -⟩ :=
      ((e.leads hplain).enclose least).mono (show 1 ≤ least.rank by cases least <;> decide)
    exact ⟨m, rest, hinks, .inl hopens⟩

theorem FunctionHead.begins (f : FunctionHead) :
    ∃ m rest, f.inks = .mark m :: rest ∧ m.first ∉ tryWords := by
  rw [FunctionHead.inks]
  split_ifs <;> exact ⟨_, _, rfl, by decide⟩

/-- The marks with which the line of a simple statement begins, if that is no expression. -/
def lineWords : List Mark := ["*", "return", "import", "from", "pass"].map .symbol

/-- The line of a simple statement begins with a word of its own or as an expression does. -/
theorem Stmt.begins_line {s : Stmt} (h : s.isRegular mode = true) (hsimple : s.isSimple = true) :
    ∃ m rest, s.inks = .mark m :: rest ∧ (0 < m.opens ∨ m ∈ lineWords) := by
  have hexpr : ∀ {e : Expr} {star : Bool} (least : Precedence), e.isReadable mode star = true →
      ∃ m rest, e.inksAt least = .mark m :: rest ∧ (0 < m.opens ∨ m ∈ lineWords) := by
    intro e star least he
    obtain ⟨m, rest, hinks, hm | rfl⟩ := Expr.begins he least
    · exact ⟨m, rest, hinks, .inl hm⟩
    · exact ⟨_, rest, hinks, .inr (by decide)⟩
  cases s with
  | assign targets value location =>
    simp only [Stmt.isRegular, Bool.and_eq_true, Expr.areReadable_iff] at h
    cases targets with
    | nil => cases h.1.2
    | cons t ts =>
      obtain ⟨m, rest, hinks, hm⟩ := hexpr .test (h.1.1 t List.mem_cons_self)
      rw [Stmt.inks, List.map_cons, commas, Inks.join, hinks]
      exact ⟨m, _, rfl, hm⟩
  | ret value location => cases value <;> exact ⟨_, _, rfl, .inr (by decide)⟩
  | expr value location => exact hexpr .yielding h
  | importNames names location | importFrom module names level location | pass location =>
    exact ⟨_, _, rfl, .inr (by decide)⟩
  | _ => cases hsimple

theorem Stmt.begins {s : Stmt} (h : s.isRegular mode = true) :
    ∃ m rest, s.inks = .mark m :: rest ∧ m.first ∉ tryWords := by
  have hline : s.isSimple = true → ∃ m rest, s.inks = .mark m :: rest ∧ m.first ∉ tryWords := by
    intro hsimple
    obtain ⟨m, rest, hinks, hm⟩ := Stmt.begins_line h hsimple
    refine ⟨m, rest, hinks, hm.elim not_tryWord fun hm => ?_⟩
    have hall : ∀ m ∈ lineWords, m.first ∉ tryWords := by decide
    exact hall m hm
  cases s with
  | function head body location => exact head.begins
  | classDef head body location => exact ⟨_, _, rfl, by decide⟩
  | tryExcept body handlers orelse finalbody location => exact ⟨_, _, rfl, by decide⟩
  | captured kind source location =>
    obtain ⟨-, word, rfl, hword⟩ := Stmt.captured_cases h
    rw [Stmt.inks, filterMap_char_ofChars]
    exact ⟨_, _, rfl, hword.first_not_mem.1⟩
  | foreign kind => cases h
  | _ => exact hline rfl

end Refactory
