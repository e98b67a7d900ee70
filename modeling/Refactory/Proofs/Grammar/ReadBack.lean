import Refactory.Proofs.Grammar.Items
import Refactory.Proofs.Render.Legible

/-! # Rendering is undone by reading

The text of a plain expression holds nothing but ink (`Expr.inked`), and nothing in it is captured
(`Expr.uncaptured`), so that reading it gives its marks (`Expr.tokenize`), and the reader of whole
expressions takes these (`Expr.readTerm`). Main statement: `Expr.toText_read`, reading the strict text of a
plain expression gives the expression, so no two plain expressions share a text. -/

namespace Refactory

open Grammar Inks

/-! ## Nothing is captured -/

namespace Inks

variable {xs ys : List Ink}

/-- Nothing is captured in marks and gaps. -/
def Uncaptured (inks : List Ink) : Prop := ∀ i ∈ inks, i.size = 0

theorem Uncaptured.append (hx : Uncaptured xs) (hy : Uncaptured ys) : Uncaptured (xs ++ ys) :=
  List.forall_mem_append.2 ⟨hx, hy⟩

theorem Uncaptured.gap (h : Uncaptured xs) : Uncaptured (.gap :: xs) :=
  List.forall_mem_cons.2 ⟨rfl, h⟩

theorem Uncaptured.symbol (h : Uncaptured xs) (text : String) : Uncaptured (.symbol text :: xs) :=
  List.forall_mem_cons.2 ⟨rfl, h⟩

theorem uncaptured_nil : Uncaptured [] := fun _ hi => by cases hi

theorem Uncaptured.enclose (h : Uncaptured xs) (least p : Precedence) :
    Uncaptured (enclose least (p, xs)) := by
  unfold Inks.enclose
  split
  · exact (h.append (uncaptured_nil.symbol ")")).symbol "("
  · exact h

theorem Uncaptured.join {sep : List Ink} {parts : List (List Ink)} (hsep : Uncaptured sep)
    (h : ∀ x ∈ parts, Uncaptured x) : Uncaptured (join sep parts) := by
  cases parts with
  | nil => exact uncaptured_nil
  | cons x parts =>
    rw [List.forall_mem_cons] at h
    refine h.1.append fun i hi => ?_
    obtain ⟨y, hy, hi⟩ := List.mem_flatMap.1 hi
    exact hsep.append (h.2 y hy) i hi

theorem uncaptured_commas {parts : List (List Ink)} (h : ∀ x ∈ parts, Uncaptured x) :
    Uncaptured (commas parts) := .join (uncaptured_nil.gap.symbol ",") h

theorem uncaptured_tuple {parts : List (List Ink)} (h : ∀ x ∈ parts, Uncaptured x) :
    Uncaptured (Inks.tuple parts) := by
  unfold Inks.tuple
  split
  · exact (h _ (List.mem_singleton_self _)).append (uncaptured_nil.symbol ",")
  · exact uncaptured_commas h

theorem uncaptured_comparison (ops : List CompareOp) {parts : List (List Ink)}
    (h : ∀ x ∈ parts, Uncaptured x) : Uncaptured (comparison ops parts) := by
  induction ops generalizing parts with
  | nil => exact uncaptured_nil
  | cons op ops ih =>
    cases parts with
    | nil => exact uncaptured_nil
    | cons x parts =>
      rw [List.forall_mem_cons] at h
      have hop : Uncaptured (ofCompare op) := by
        cases op <;> exact fun i hi => by simp [ofCompare] at hi; rcases hi with rfl | rfl | rfl <;> rfl
      exact (hop.append (h.1.append (ih h.2)).gap).gap

end Inks

variable {e : Expr}

theorem Expr.uncaptured_entry {k : Option Expr} {v : Expr} (hk : ∀ e ∈ k, Uncaptured e.inks)
    (hv : Uncaptured v.inks) : Uncaptured (Expr.entryInks (k, v)) := by
  cases k with
  | none => exact (hv.enclose _ _).symbol "**"
  | some k => exact ((hk k rfl).enclose _ _).append ((hv.enclose _ _).gap.symbol ":")

theorem Keyword.uncaptured {k : Keyword} (h : Uncaptured k.value.inks) : Uncaptured k.inks := by
  obtain ⟨arg, value⟩ := k
  cases arg with
  | none => exact (h.enclose _ _).symbol "**"
  | some arg => exact List.forall_mem_cons.2 ⟨rfl, (h.enclose _ _).symbol "="⟩

/-- Nothing in a plain expression is captured. -/
theorem Expr.uncaptured : ∀ (e : Expr) (star : Bool), e.isPlain star = true → Uncaptured e.inks := by
  refine Expr.induct_children fun e ih star h => ?_
  have hmark : ∀ {m : Mark}, m.size = 0 → Uncaptured [.mark m] := fun hm =>
    List.forall_mem_singleton.2 hm
  have hat : ∀ c ∈ e.children, ∀ star, c.isReadable .strict star = true → ∀ least,
      Uncaptured (c.inksAt least) := fun c hc star hplain least =>
    (ih c hc star hplain).enclose least _
  rw [Expr.isPlain] at h
  cases e with
  | name _ | string _ | number _ | noneLiteral => exact hmark rfl
  | truth value => cases value <;> exact hmark rfl
  | call func args keywords =>
    simp only [Expr.isReadable, Bool.and_eq_true, Expr.areReadable_iff, Keyword.areReadable_iff] at h
    have hitems : ∀ x ∈ args.map (Expr.inksAt .test) ++ keywords.map Keyword.inks, Uncaptured x := by
      refine List.forall_mem_append.2 ⟨fun x hx => ?_, fun x hx => ?_⟩
      · obtain ⟨a, ha, rfl⟩ := List.mem_map.1 hx
        exact hat a (by simp [Expr.children, ha]) true (h.1.2 a ha) .test
      · obtain ⟨k, hk, rfl⟩ := List.mem_map.1 hx
        exact Keyword.uncaptured (ih k.value (List.mem_append_right _ (List.mem_map_of_mem hk)) false
          (h.2 k hk).1)
    rw [Expr.inks_call]
    exact (hat func (by simp [Expr.children]) false h.1.1 .atom).append
      (((uncaptured_commas hitems).append (uncaptured_nil.symbol ")")).symbol "(")
  | binary left op right =>
    rw [Expr.isReadable, Bool.and_eq_true] at h
    exact (hat left (by simp [Expr.children]) false h.1 _).append
      ((hat right (by simp [Expr.children]) false h.2 _).gap.symbol op.token).gap
  | unary op operand =>
    have hoperand := hat operand (by simp [Expr.children]) false h
    cases op with
    | negation => exact (hoperand .negation).gap.symbol "not"
    | _ => exact (hoperand .factor).symbol _
  | logical op values =>
    simp only [Expr.isReadable, Bool.and_eq_true, Expr.areReadable_iff] at h
    rw [Expr.inks_logical]
    refine .join (uncaptured_nil.gap.symbol op.token).gap fun x hx => ?_
    obtain ⟨v, hv, rfl⟩ := List.mem_map.1 hx
    exact hat v hv false (h.2 v hv) _
  | compare left ops comparators =>
    simp only [Expr.isReadable, Bool.and_eq_true, Expr.areReadable_iff] at h
    rw [Expr.inks_compare]
    refine (hat left (by simp [Expr.children]) false h.1.2 _).append
      (uncaptured_comparison ops fun x hx => ?_)
    obtain ⟨v, hv, rfl⟩ := List.mem_map.1 hx
    exact hat v (by simp [Expr.children, hv]) false (h.2 v hv) _
  | «attribute» value attr =>
    simp only [Expr.isReadable, Bool.and_eq_true] at h
    exact ((ih value (by simp [Expr.children]) false h.2).enclose _ _).append
      (Uncaptured.symbol (hmark rfl) ".")
  | subscript value index =>
    rw [Expr.isReadable, Bool.and_eq_true] at h
    exact (hat value (by simp [Expr.children]) false h.1 _).append
      (((hat index (by simp [Expr.children]) false h.2 _).append
        (uncaptured_nil.symbol "]")).symbol "[")
  | starred value =>
    rw [Expr.isReadable, Bool.and_eq_true] at h
    exact (hat value (by simp [Expr.children]) false h.2 _).symbol "*"
  | tuple elements =>
    rw [Expr.isReadable, Expr.areReadable_iff] at h
    rw [Expr.inks_tuple]
    refine ((uncaptured_tuple fun x hx => ?_).append (uncaptured_nil.symbol ")")).symbol "("
    obtain ⟨v, hv, rfl⟩ := List.mem_map.1 hx
    exact hat v hv true (h v hv) _
  | list elements =>
    rw [Expr.isReadable, Expr.areReadable_iff] at h
    rw [Expr.inks_list]
    refine ((uncaptured_commas fun x hx => ?_).append (uncaptured_nil.symbol "]")).symbol "["
    obtain ⟨v, hv, rfl⟩ := List.mem_map.1 hx
    exact hat v hv true (h v hv) _
  | dict keys values =>
    simp only [Expr.isReadable, Bool.and_eq_true, Expr.areReadable_iff, Expr.areReadableKeys_iff] at h
    rw [Expr.inks_dict]
    refine ((uncaptured_commas fun x hx => ?_).append (uncaptured_nil.symbol "\x7d")).symbol "\x7b"
    obtain ⟨⟨k, v⟩, hkv, rfl⟩ := List.mem_map.1 hx
    have hv := (List.of_mem_zip hkv).2
    have hk := (List.of_mem_zip hkv).1
    refine Expr.uncaptured_entry (fun e he => ?_)
      (ih v (by simp [Expr.children, hv]) false (h.2 v hv))
    cases he
    exact ih e (by simp [Expr.children, hk]) false (h.1.2 e hk)
  | captured kind source => cases source <;> simp [Expr.isReadable] at h
  | formatted _ | foreign _ => cases h

/-- What nothing is captured in can be read back in every mode in which it is written. -/
theorem Expr.readable_of_plain (mode : RenderMode) : ∀ (e : Expr) (star : Bool),
    e.isPlain star = true → e.isReadable mode star = true := by
  refine Expr.induct_children fun e ih star h => ?_
  rw [Expr.isPlain] at h
  cases e with
  | name _ | string _ | truth _ | noneLiteral => exact h
  | number value => cases value <;> exact h
  | call func args keywords =>
    simp only [Expr.isReadable, Bool.and_eq_true, Expr.areReadable_iff, Keyword.areReadable_iff] at h ⊢
    refine ⟨⟨ih func (by simp [Expr.children]) false h.1.1, fun a ha =>
      ih a (by simp [Expr.children, ha]) true (h.1.2 a ha)⟩, fun k hk => ⟨?_, (h.2 k hk).2⟩⟩
    exact ih k.value (List.mem_append_right _ (List.mem_map_of_mem hk)) false (h.2 k hk).1
  | binary left op right =>
    rw [Expr.isReadable, Bool.and_eq_true] at h ⊢
    exact ⟨ih left (by simp [Expr.children]) false h.1, ih right (by simp [Expr.children]) false h.2⟩
  | unary op operand => exact ih operand (by simp [Expr.children]) false h
  | logical op values =>
    simp only [Expr.isReadable, Bool.and_eq_true, Expr.areReadable_iff] at h ⊢
    exact ⟨h.1, fun v hv => ih v hv false (h.2 v hv)⟩
  | compare left ops comparators =>
    simp only [Expr.isReadable, Bool.and_eq_true, Expr.areReadable_iff] at h ⊢
    exact ⟨⟨h.1.1, ih left (by simp [Expr.children]) false h.1.2⟩, fun v hv =>
      ih v (by simp [Expr.children, hv]) false (h.2 v hv)⟩
  | «attribute» value attr =>
    simp only [Expr.isReadable, Bool.and_eq_true] at h ⊢
    exact ⟨h.1, ih value (by simp [Expr.children]) false h.2⟩
  | subscript value index =>
    rw [Expr.isReadable, Bool.and_eq_true] at h ⊢
    exact ⟨ih value (by simp [Expr.children]) false h.1, ih index (by simp [Expr.children]) false h.2⟩
  | starred value =>
    rw [Expr.isReadable, Bool.and_eq_true] at h ⊢
    exact ⟨h.1, ih value (by simp [Expr.children]) false h.2⟩
  | tuple elements | list elements =>
    rw [Expr.isReadable, Expr.areReadable_iff] at h ⊢
    exact fun v hv => ih v hv true (h v hv)
  | dict keys values =>
    simp only [Expr.isReadable, Bool.and_eq_true, Expr.areReadable_iff, Expr.areReadableKeys_iff] at h ⊢
    exact ⟨⟨h.1.1, fun k hk => ih k (by simp [Expr.children, hk]) false (h.1.2 k hk)⟩, fun v hv =>
      ih v (by simp [Expr.children, hv]) false (h.2 v hv)⟩
  | captured kind source => cases source <;> simp [Expr.isReadable] at h
  | formatted _ | foreign _ => cases h

/-! ## Ink at both ends -/

theorem Expr.legible_whole (h : e.isPlain false = true) : Legible [] e.inks := by
  have hpart := e.legible false h [] [] .nil fun _ hc => by cases hc
  rwa [List.append_nil] at hpart

theorem Expr.inked (h : e.isPlain false = true) : ∀ i ∈ e.inks, Inked i :=
  (Expr.legible_whole h).inked

/-- A text that neither begins nor ends with a blank has nothing to be trimmed. -/
theorem Text.stripped_of_ends {t : Text} (hfirst : ∀ c ∈ t.head?, c.isBlank = false)
    (hlast : ∀ c ∈ t.getLast?, c.isBlank = false) : t.stripped = t := by
  have hdrop : ∀ s : Text, (∀ c ∈ s.head?, c.isBlank = false) →
      s.dropWhile CodePoint.isBlank = s := by
    intro s hs
    cases s with
    | nil => rfl
    | cons c s => exact List.dropWhile_cons_of_neg (by rw [hs c rfl]; exact Bool.false_ne_true)
  rw [Text.stripped, Text.trimWhile, hdrop t hfirst, Text.dropEndWhile, hdrop, List.reverse_reverse]
  rwa [List.head?_reverse]

theorem isBlank_of_isInkChar {c : Char} (h : isInkChar c = true) :
    (CodePoint.scalar c).isBlank = false := by
  simp only [isInkChar, Bool.and_eq_true, Bool.not_eq_true'] at h
  exact h.1.1

theorem Expr.stripped_text (h : e.isPlain false = true) : (text e.inks).stripped = text e.inks := by
  have hinked := Expr.inked h
  refine Text.stripped_of_ends (fun c hc => ?_) fun c hc => ?_
  · obtain ⟨m, rest, hinks, -⟩ := e.leads h
    rw [hinks] at hinked hc
    obtain ⟨hne, -, hfirst, -, -⟩ := hinked _ List.mem_cons_self
    obtain ⟨d, tail, hspell⟩ := List.exists_cons_of_ne_nil hne
    rw [text_cons, hspell] at hc
    cases hc
    exact isBlank_of_isInkChar (hfirst nofun d (by rw [hspell]; rfl))
  · obtain ⟨init, m, hinks, -⟩ := e.rests false h
    rw [hinks] at hinked hc
    obtain ⟨hne, -, -, hlast, -⟩ := hinked (.mark m) (by simp)
    obtain ⟨front, d, hspell⟩ := List.eq_nil_or_concat _ |>.resolve_left hne
    rw [text_append, text_cons, text_nil, hspell] at hc
    simp only [Text.ofChars, List.map_append, List.map_cons, List.map_nil, List.append_nil,
      List.concat_eq_append, ← List.append_assoc, List.getLast?_concat] at hc
    cases hc
    exact isBlank_of_isInkChar (hlast nofun d (by rw [hspell]; simp))

theorem printable_spell {inks : List Ink} (h : ∀ i ∈ inks, Inked i) :
    ∀ c ∈ spell inks, 0x20 ≤ c.toNat := by
  intro c hc
  obtain ⟨i, hi, hci⟩ := List.mem_flatMap.1 hc
  exact (h i hi).printable c hci

theorem return_not_mem {cs : List Char} (h : ∀ c ∈ cs, 0x20 ≤ c.toNat) : '\r' ∉ cs := fun hmem =>
  absurd (h _ hmem) (by decide)

theorem length_marks_le (inks : List Ink) : (marks inks).length ≤ inks.length :=
  List.length_filterMap_le _ _

theorem Expr.length_marks (h : e.isPlain false = true) :
    (marks e.inks).length ≤ (spell e.inks).length := by
  have hspell := length_le_spell fun i hi => (Expr.inked h i hi).nonempty
  have hle := length_marks_le e.inks
  omega

theorem Expr.inksAt_test (h : e.isPlain false = true) : e.inksAt .test = e.inks := by
  refine if_neg fun hloose => ?_
  obtain ⟨kind, word, rfl, -⟩ := Expr.captured_of_loose h hloose
  simp [Expr.isPlain, Expr.isReadable] at h

theorem Expr.size_marks (h : e.isPlain false = true) : ∀ m ∈ marks e.inks, m.size = 0 := by
  intro m hm
  obtain ⟨i, hi, hmark⟩ := List.mem_filterMap.1 hm
  cases i with
  | gap => cases hmark
  | mark m' =>
    obtain rfl : m' = m := Option.some.inj hmark
    exact Expr.uncaptured e false h _ hi

/-! ## Whole expressions -/

section

variable [Setting]

/-- The text of a plain expression is read as its marks. -/
theorem Expr.tokenize (h : e.isPlain false = true) {limit : Nat} (hlimit : depth 0 e.inks ≤ limit)
    (hnone : Setting.deep = 0) :
    ∃ tokens, tokenizeWithin limit (placed (spell e.inks)) = some tokens ∧
      Shows tokens (marks e.inks) := by
  have hchars := placedFrom_chars (return_not_mem (printable_spell (Expr.inked h))) {}
  have hlegible := Expr.legible_whole h
  have hdeep : ∀ m ∈ marks e.inks, m.size ≤ Setting.deep := fun m hm =>
    Nat.le_trans (Nat.le_of_eq (Expr.size_marks h m hm)) (Nat.zero_le _)
  obtain ⟨m, rest, hinks, -⟩ := e.leads h
  rw [hinks] at hlegible hlimit hchars hdeep ⊢
  exact hlegible.tokenize hlimit hdeep hnone hchars

/-- An expression alone, in front of what neither goes on with it nor is a comma. -/
theorem Expr.takesItem (h : e.isPlain false = true) {depth : Nat}
    (hdepth : (marks e.inks).length ≤ depth) {after : List Mark} (hafter : Clear .test after)
    (hcomma : next? after ≠ some (.symbol ",")) :
    Takes (commaSeparated (deepReaders (depth + 1) .expression)) (marks e.inks ++ after)
      fun x ms' => (∃ t, x = ([t], false) ∧ t.Is e) ∧ ms' = after := by
  rw [← Expr.inksAt_test h] at hdepth ⊢
  refine (Expr.takes_expression h (Nat.lt_succ_of_le hdepth) hafter).next fun t ht => ?_
  refine (Takes.many_none (expect_miss hcomma).bind).next_eq ?_
  exact (accept_miss hcomma).next fun b hb => .pure ⟨⟨t, by rw [hb], ht⟩, rfl⟩

end

/-- Nothing but the expression is there to be read. -/
theorem Expr.readTerm (h : e.isPlain false = true) {limit : Nat} (hlimit : depth 0 e.inks ≤ limit) :
    ∃ t, readTermWithin limit (spell e.inks) = some t ∧
      t.toExpr (.ofText (Text.ofChars (spell e.inks))) = .ok e := by
  let _ : Setting := ⟨spell e.inks, 0⟩
  have hdeep : ∀ n, deepReaders n = readers n := fun n => congrArg readers (Nat.zero_add n)
  obtain ⟨tokens, htokens, hshows⟩ := Expr.tokenize h hlimit rfl
  have hitem := Expr.takesItem h (Nat.le_succ_of_le (Expr.length_marks h)) (clear_nil .test) (by simp)
  rw [List.append_nil, hdeep] at hitem
  have hwhole : Takes (do
      let t := tupleOf (← commaSeparated (readers ((spell e.inks).length + 2) .expression))
      let _ ← Reader.many newline
      atEnd
      return t) (marks e.inks) fun t _ => t.Is e := by
    refine hitem.next ?_
    rintro _ ⟨t, rfl, ht⟩
    refine (Takes.many_none (newline_miss (by simp))).next fun _ _ => ?_
    refine Takes.bind (R := fun _ _ => True) (fun c hc => ⟨(), c, [], ?_, hc, trivial⟩)
      fun _ _ _ => .pure ht
    rw [atEnd, Shows.nil_iff.1 hc]
    rfl
  obtain ⟨t, c, ms', hread, -, ht⟩ := hwhole ⟨tokens, {}⟩ hshows
  refine ⟨t, ?_, ht.toExpr⟩
  rw [readTermWithin]
  simp only [htokens, Option.bind_eq_bind, Option.bind_some]
  simp only [hread]
  rfl

theorem firstRun_none {p : CodePoint → Bool} {t : Text} (h : ∀ c ∈ t, p c = false) :
    t.firstRun p = none := by
  have hall : t.takeWhile (fun c => !p c) = t := by
    induction t with
    | nil => rfl
    | cons c t ih =>
      rw [List.forall_mem_cons] at h
      rw [List.takeWhile_cons_of_pos (by rw [h.1]; rfl), ih h.2]
  simp [Text.firstRun, hall]

theorem Expr.parse_text (h : e.isPlain false = true) {limit : Nat} (hlimit : depth 0 e.inks ≤ limit) :
    parseExpressionWithin limit (text e.inks) = .ok e := by
  obtain ⟨t, hread, ht⟩ := Expr.readTerm h hlimit
  have hsurrogate : (text e.inks).firstRun CodePoint.isSurrogate = none := by
    refine firstRun_none fun c hc => ?_
    obtain ⟨d, -, rfl⟩ := List.mem_map.1 hc
    rfl
  have hnull : (spell e.inks).contains '\x00' = false := by
    rw [List.contains_eq_mem, decide_eq_false_iff_not]
    intro hmem
    exact absurd (printable_spell (Expr.inked h) _ hmem) (by decide)
  simp only [parseExpressionWithin, Expr.stripped_text h, hsurrogate]
  rw [text, filterMap_char_ofChars, hnull, if_neg Bool.false_ne_true, hread]
  exact ht

/-- Reading the strict text of a plain expression gives the expression, however many brackets may be
open at once as long as it is enough; so no other plain expression has this text. -/
theorem Expr.toText_read (h : e.isPlain false = true) :
    ∃ t limit, e.toText .strict = .ok t ∧
      (∀ more, limit ≤ more → parseExpressionWithin more t = .ok e) ∧
      ∀ e' : Expr, e'.isPlain false = true → e'.toText .strict = .ok t → e' = e := by
  have hread : ∀ e' : Expr, e'.isPlain false = true → ∀ more, depth 0 e'.inks ≤ more →
      parseExpressionWithin more (text e'.inks) = .ok e' := fun e' h' more hmore =>
    Expr.parse_text h' hmore
  refine ⟨text e.inks, depth 0 e.inks, Expr.toText_eq h, hread e h, fun e' h' htext => ?_⟩
  rw [Expr.toText_eq h'] at htext
  have hboth := hread e h (max (depth 0 e.inks) (depth 0 e'.inks)) (Nat.le_max_left _ _)
  rw [← Except.ok.inj htext, hread e' h' _ (Nat.le_max_right _ _)] at hboth
  exact Except.ok.inj hboth

/-- A sign in front of a power whose base is a call and whose exponent is a negated comparison, with a
lone surrogate in a string and a star in front of an argument. -/
theorem Expr.toText_read_sample :
    let e : Expr := .unary .minus (.binary
      (.call (.attribute (.number (.int 7)) "real") [.starred (.name "sizes")]
        [.mk (some "key") (.dict [none, some (.string [.surrogate 3, '"'])]
          [.name "d", .logical .disj [.truth true, .tuple [.noneLiteral]]])])
      .pow (.unary .negation (.compare (.list []) [.notMember, .lt] [.name "a", .name "b"])))
    e.isPlain false = true ∧ ∃ t limit, e.toText .strict = .ok t ∧
      (∀ more, limit ≤ more → parseExpressionWithin more t = .ok e) ∧
      ∀ e' : Expr, e'.isPlain false = true → e'.toText .strict = .ok t → e' = e := by
  intro e
  have h : e.isPlain false = true := by decide +kernel
  exact ⟨h, Expr.toText_read h⟩

end Refactory
