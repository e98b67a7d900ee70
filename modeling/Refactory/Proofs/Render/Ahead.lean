import Mathlib.Data.Nat.Find
import Refactory.Proofs.Grammar.ReadBack
import Refactory.Proofs.Render.Parameters

/-! # Annotations and defaults are read as expressions

`readAhead` reads the expression with which a text begins by the grammar of expressions. It takes the
longest part that is one and behind which the text ends or an equals sign stands between blanks. A plain
expression is taken whole, whatever comes behind the equals sign (`Expr.readsText`), since no expression
goes on there (`Expr.unread_equals`); so parameter lists of plain expressions are read by the grammar
itself (`paramItems_readAhead`). -/

namespace Refactory

open Grammar Inks

variable {e : Expr} {limit : Nat}

/-! ## Behind an expression -/

/-- What is taken off the end is taken off what stands behind the last character that stays. -/
theorem Text.dropEndWhile_behind {p : CodePoint → Bool} {c : CodePoint} (hc : p c = false)
    (front back : Text) :
    (front ++ c :: back).dropEndWhile p = front ++ c :: back.dropEndWhile p := by
  have hstay : (c :: front.reverse).dropWhile p = c :: front.reverse :=
    List.dropWhile_cons_of_neg (by rw [hc]; exact Bool.false_ne_true)
  have hreverse : (front ++ c :: back).reverse = back.reverse ++ c :: front.reverse := by simp
  rw [Text.dropEndWhile, Text.dropEndWhile, hreverse, List.dropWhile_append, hstay]
  split
  · rename_i hall
    rw [List.isEmpty_iff.1 hall]
    simp
  · simp

/-- What is left of a text after it is trimmed begins as the text does. -/
theorem Text.head_dropEndWhile {p : CodePoint → Bool} {c : CodePoint} {t : Text}
    (h : ∀ d ∈ t.head?, d = c) : ∀ d ∈ (t.dropEndWhile p).head?, d = c := by
  have hprefix : t.dropEndWhile p <+: t := by
    rw [Text.dropEndWhile, ← List.reverse_suffix, List.reverse_reverse]
    exact List.dropWhile_suffix p
  intro d hd
  obtain ⟨back, hback⟩ := hprefix
  refine h d ?_
  rw [← hback, List.head?_append, Option.mem_def.1 hd]
  rfl

/-- The text of a plain expression in front of an equals sign, less the blanks around. -/
theorem Expr.stripped_equals (h : e.isPlain false = true) {lead : Text}
    (hlead : lead = [] ∨ lead = " ") {back : Text} (hback : ∀ c ∈ back.head?, c = ' ') :
    ∃ back' : Text, (∀ c ∈ back'.head?, c = CodePoint.scalar ' ') ∧
      (lead ++ text e.inks ++ " =" ++ back).stripped = text e.inks ++ " =" ++ back' := by
  have hinked := Expr.inked h
  obtain ⟨m, rest, hinks, -⟩ := e.leads h
  rw [hinks] at hinked
  obtain ⟨hne, -, hfirst, -, -⟩ := hinked _ List.mem_cons_self
  obtain ⟨d, tail, hspell⟩ := List.exists_cons_of_ne_nil hne
  have hd : (CodePoint.scalar d).isBlank = false :=
    isBlank_of_isInkChar (hfirst nofun d (by rw [hspell]; rfl))
  have htext : text e.inks = CodePoint.scalar d :: (Text.ofChars tail ++ text rest) := by
    rw [hinks, text_cons, hspell]
    rfl
  have hdrop : (lead ++ text e.inks ++ " =" ++ back).dropWhile CodePoint.isBlank =
      text e.inks ++ " =" ++ back := by
    have hstay : (text e.inks ++ " =" ++ back).dropWhile CodePoint.isBlank =
        text e.inks ++ " =" ++ back := by
      rw [htext]
      exact List.dropWhile_cons_of_neg (by rw [hd]; exact Bool.false_ne_true)
    rcases hlead with rfl | rfl
    · exact hstay
    · rw [List.append_assoc, List.append_assoc, ← List.append_assoc (text e.inks)]
      exact (List.dropWhile_cons_of_pos (by decide +kernel)).trans hstay
  refine ⟨back.dropEndWhile CodePoint.isBlank, Text.head_dropEndWhile hback, ?_⟩
  have hequals := Text.dropEndWhile_behind (p := CodePoint.isBlank)
    (show (CodePoint.scalar '=').isBlank = false by decide +kernel)
    (text e.inks ++ [CodePoint.scalar ' ']) back
  have hsign : ∀ t : Text, " =" ++ t = CodePoint.scalar ' ' :: CodePoint.scalar '=' :: t := fun _ => rfl
  rw [Text.stripped, Text.trimWhile, hdrop, List.append_assoc, List.append_assoc, hsign, hsign]
  simpa using hequals

section

variable [Setting]

/-- The first token of a passage in front of which the scanner stands at a blank and an equals sign. -/
theorem Grammar.Scanner.At.tokens_equals {s : Scanner} {stack : List Char} {levels : List Column}
    {back : List Char} (h : s.At stack levels limit (' ' :: '=' :: back))
    (hback : ∀ c ∈ back.head?, c = ' ') {fuel : Nat} {tokens : List Token}
    (htokens : s.tokens fuel = some tokens) :
    ∃ t rest, tokens = t :: rest ∧ t.lexeme.mark = .symbol "=" := by
  have hnext : ∀ c ∈ back.head?, "=" = "," ∨
      c ∉ extenders ∧ ("=" = "." → c ≠ '.' ∧ c.isDigit = false) := by
    intro c hc
    rw [hback c hc]
    exact .inr ⟨by decide, fun _ => ⟨by decide, rfl⟩⟩
  obtain ⟨p, ps, hps, hp, hmap⟩ := List.map_eq_cons_iff.1 h.chars
  have hstep : s.step = .more [] { s with rest := s.rest.drop 1 } := by
    rw [h.step, Scanner.inLine]
    simp only [hps, hp]
    rfl
  have hat : Scanner.At { s with rest := s.rest.drop 1 } stack levels limit ("=".toList ++ back) := by
    refine ⟨?_, h.sited_tail, h.lineStart, h.brackets, h.levels, h.mostOpen⟩
    change (s.rest.chars.drop 1).map (·.char) = _
    rw [hps]
    exact hmap
  obtain ⟨t, s', hstep', hmark, -⟩ := hat.operator (by decide) hnext
  cases fuel with
  | zero => cases htokens
  | succ fuel =>
    rw [Scanner.tokens] at htokens
    simp only [hstep] at htokens
    obtain ⟨us, hus, rfl⟩ := Option.map_eq_some_iff.1 htokens
    cases fuel with
    | zero => cases hus
    | succ fuel =>
      rw [Scanner.tokens] at hus
      simp only [hstep'] at hus
      obtain ⟨vs, -, rfl⟩ := Option.map_eq_some_iff.1 hus
      exact ⟨t, vs, rfl, hmark⟩

end

/-- What is placed begins with a blank if the characters do. -/
theorem head_placedFrom {cs : List Char} (h : ∀ c ∈ cs.head?, c = ' ') (p : Position) :
    ∀ c ∈ ((placedFrom p cs).chars.map (·.char)).head?, c = ' ' := by
  cases cs with
  | nil => exact fun c hc => by cases hc
  | cons d cs =>
    obtain rfl := h d rfl
    rw [placedFrom, if_neg (by decide)]
    · rintro c ⟨⟩
      rfl
    · rintro cs' ⟨⟩

/-- No expression goes on behind an equals sign that stands behind one. -/
theorem Expr.unread_equals (h : e.isPlain false = true) (hlimit : depth 0 e.inks ≤ limit)
    (back : List Char) (hback : ∀ c ∈ back.head?, c = ' ') :
    readTermWithin limit (spell e.inks ++ ' ' :: '=' :: back) = none := by
  let _ : Setting := ⟨spell e.inks, 0⟩
  have hreaders : ∀ n, deepReaders n = readers n := fun n => congrArg readers (Nat.zero_add n)
  obtain ⟨m, inks, hinks, -⟩ := e.leads h
  have hlegible := Expr.legible_whole h
  have hlength := Expr.length_marks h
  have hdeep : ∀ m' ∈ marks e.inks, m'.size ≤ Setting.deep := fun m' hm' =>
    Nat.le_of_eq (Expr.size_marks h m' hm')
  have hreturn : '\r' ∉ spell e.inks ++ [' ', '='] := by
    rw [List.mem_append, not_or]
    exact ⟨return_not_mem (printable_spell (Expr.inked h)), by decide⟩
  obtain ⟨q, hplaced⟩ := placedFrom_front hreturn {} back
  have hplaced_back := head_placedFrom hback q
  rw [List.append_assoc, List.append_assoc] at hplaced
  have hdepth : (marks e.inks).length ≤ (spell e.inks ++ ' ' :: '=' :: back).length + 1 := by
    rw [List.length_append]
    omega
  rw [hinks] at hlegible hlimit hplaced hdeep
  obtain ⟨tokens, s', fuel, htokens, hstands, hat⟩ :=
    hlegible.front hlimit hdeep hplaced (.inl rfl) fun c hc => .inr (by cases hc; rfl)
  rw [← hinks] at hstands
  rw [readTermWithin]
  change (tokenizeWithin limit (placedFrom {} (spell e.inks ++ ([' ', '='] ++ back)))).bind _ = none
  rw [tokenizeWithin, hinks, htokens, ← hinks]
  cases hmore : s'.tokens (fuel + 1) with
  | none => rfl
  | some more =>
    obtain ⟨t, us, rfl, ht⟩ := hat.tokens_equals hplaced_back hmore
    have hclear : Clear .test (.symbol "=" :: us.map (·.lexeme.mark)) := clear_cons (by decide)
    have hitem := Expr.takesItem h hdepth hclear (by simp)
    rw [hreaders] at hitem
    have hwhole : Rejects (do
        let t := tupleOf (← commaSeparated
          (readers ((spell e.inks ++ ' ' :: '=' :: back).length + 2) .expression))
        let _ ← Reader.many newline
        atEnd
        return t) (marks e.inks ++ .symbol "=" :: us.map (·.lexeme.mark)) := by
      refine hitem.rejects ?_
      rintro _ _ ⟨⟨t, rfl, -⟩, rfl⟩
      refine (Takes.many_none (newline_miss (by simp))).rejects ?_
      rintro _ _ ⟨-, rfl⟩
      refine Rejects.bind fun c hc => ?_
      obtain ⟨u, rest, hrest, -⟩ := hc.head rfl
      rw [atEnd, hrest]
      rfl
    have hunread := hwhole ⟨tokens ++ t :: us, {}⟩
      (hstands _ _ (fun hnil => by cases hnil) (ht ▸ .token (.of_tokens us)))
    simp only [Option.map_some, Option.bind_some]
    rw [hunread]
    rfl

/-! ## Reading ahead -/

/-- Whether a text is an expression. -/
def isExpression (limit : Nat) (t : Text) : Bool :=
  (parseExpressionWithin limit t).toOption.isSome

/-- Whether an expression can end in front of a text: at the end, or at an equals sign between blanks. -/
def endsExpression (t : Text) : Bool := t.isEmpty || (" = " : Text).isPrefixOf t

/-- What stands behind the longest expression with which a text begins, if there is one. -/
def readAhead (limit : Nat) (t : Text) : Option Text :=
  let n := Nat.findGreatest (fun n => endsExpression (t.drop n) && isExpression limit (t.take n))
    t.length
  if n = 0 then none else some (t.drop n)

section

variable (h : e.isPlain false = true) (hlimit : depth 0 e.inks ≤ limit) {lead : Text}
  (hlead : lead = [] ∨ lead = " ")

include h hlimit hlead

theorem Expr.isExpression_text : isExpression limit (lead ++ text e.inks) = true := by
  have hstripped : (lead ++ text e.inks).stripped = (text e.inks).stripped := by
    rcases hlead with rfl | rfl
    · rfl
    · exact congrArg (Text.dropEndWhile CodePoint.isBlank)
        (List.dropWhile_cons_of_pos (by decide +kernel))
  have hparse := Expr.parse_text h hlimit
  rw [parseExpressionWithin, ← hstripped, ← parseExpressionWithin] at hparse
  rw [isExpression, hparse]
  rfl

/-- Behind an equals sign there is no more of an expression. -/
theorem Expr.not_isExpression_equals (back : Text) (hback : ∀ c ∈ back.head?, c = ' ') :
    isExpression limit (lead ++ text e.inks ++ " =" ++ back) = false := by
  obtain ⟨back', hback', hstripped⟩ := Expr.stripped_equals h hlead hback
  have hchars : (text e.inks ++ " =" ++ back').filterMap CodePoint.char? =
      spell e.inks ++ ' ' :: '=' :: back'.filterMap CodePoint.char? := by
    have hsign : (" =" : Text).filterMap CodePoint.char? = [' ', '='] := rfl
    rw [List.filterMap_append, List.filterMap_append, hsign, text, filterMap_char_ofChars,
      List.append_assoc]
    rfl
  have hunread := Expr.unread_equals h hlimit (back'.filterMap CodePoint.char?) <| by
    cases back' with
    | nil => exact fun c hc => by cases hc
    | cons d back' =>
      obtain rfl := hback' d rfl
      rintro c ⟨⟩
      rfl
  rw [isExpression, parseExpressionWithin]
  simp only [hstripped]
  split
  · rfl
  · rw [hchars, hunread]
    split <;> rfl

/-- A plain expression is read whole, whatever comes behind an equals sign. -/
theorem Expr.readAhead_text {rest : Text} (hrest : rest = [] ∨ ∃ d, rest = " = " ++ d) :
    readAhead limit (lead ++ text e.inks ++ rest) = some rest := by
  have hgreatest : Nat.findGreatest (fun n => (endsExpression
      ((lead ++ text e.inks ++ rest).drop n) && isExpression limit
        ((lead ++ text e.inks ++ rest).take n)) = true) (lead ++ text e.inks ++ rest).length =
      (lead ++ text e.inks).length := by
    refine Nat.findGreatest_eq_iff.2 ⟨?_, fun _ => ?_, fun n hlt hle hread => ?_⟩
    · rw [@List.length_append _ (lead ++ text e.inks) rest]
      exact Nat.le_add_right _ _
    · rw [List.drop_left, List.take_left, Expr.isExpression_text h hlimit hlead, Bool.and_true]
      obtain rfl | ⟨d, rfl⟩ := hrest
      · rfl
      · rfl
    · obtain ⟨k, rfl⟩ := Nat.exists_eq_add_of_lt hlt
      rw [Nat.add_assoc, List.drop_length_add_append, List.take_length_add_append,
        Bool.and_eq_true] at hread
      obtain rfl | ⟨d, rfl⟩ := hrest
      · rw [List.append_nil] at hle
        omega
      · cases k with
        | zero => cases hread.1
        | succ k =>
          have hunread := Expr.not_isExpression_equals h hlimit hlead ((" " ++ d).take k) <| by
            cases k with
            | zero => exact fun c hc => by cases hc
            | succ k =>
              rintro c ⟨⟩
              rfl
          rw [List.append_assoc] at hunread
          cases hunread.symm.trans hread.2
  have hne : (lead ++ text e.inks).length ≠ 0 := by
    obtain ⟨m, inks, hinks, -⟩ := e.leads h
    obtain ⟨c, tail, hspell⟩ := List.exists_cons_of_ne_nil
      (Expr.inked h (.mark m) (by rw [hinks]; exact List.mem_cons_self)).nonempty
    rw [List.length_append, hinks, text_cons, hspell]
    exact Nat.succ_ne_zero _ ∘ Nat.eq_zero_of_add_eq_zero_left
  rw [readAhead]
  simp only [hgreatest, hne, if_false, List.drop_left]

end

/-! ## Parameter lists -/

/-- The annotation and the default of a parameter are plain, and no more brackets are open at once in
them than can be. -/
def Param.Plain (limit : Nat) (p : Param) : Prop :=
  ∀ e ∈ p.exprs, e.isPlain false = true ∧ depth 0 e.inks ≤ limit

/-- What a plain parameter holds is read by the grammar. -/
theorem Param.Plain.reads {p : Param} (h : p.Plain limit) (mode : RenderMode) :
    p.Reads mode (readAhead limit) := by
  intro e he t ht lead hlead rest hrest
  obtain ⟨hplain, hlimit⟩ := h e he
  rw [(e.rendered mode false (Expr.readable_of_plain mode e false hplain)).place,
    Expr.inksAt_test hplain] at ht
  cases ht
  exact Expr.readAhead_text hplain hlimit hlead hrest

/-- The items of plain parameters in the order of their kinds are written, and read by the grammar as
they are. -/
theorem paramItems_readAhead {mode : RenderMode} {ps : List Param} (hordered : KindOrdered ps)
    (hnames : ∀ p ∈ ps, p.name.isNormalName = true) (hplain : ∀ p ∈ ps, p.Plain limit) :
    ∃ items, inOrder (paramItems mode false ps) = .ok items ∧
      readParams (readAhead limit) items = some (ps.map Param.shape) := by
  cases hitems : inOrder (paramItems mode false ps) with
  | error f =>
    have hfault := paramItems_blames mode false ps
    rw [hitems] at hfault
    obtain ⟨e, he, hfault⟩ := hfault
    obtain ⟨p, hp, he⟩ := List.mem_flatMap.1 he
    have hrender := e.render_blames mode .double
    rw [e.rendered mode false (Expr.readable_of_plain mode e false (hplain p hp e he).1)] at hrender
    cases hrender f hfault
  | ok items =>
    exact ⟨items, rfl, paramItems_read hordered hnames (fun p hp => (hplain p hp).reads mode) hitems⟩

end Refactory
