import Refactory.Grammar.Formatted
import Refactory.Render.Literal

/-! # Literals read back

The decimal digits of an integer are read as that integer (`Numeral.read_toDigits`), and the body of a
string literal stands for the text that was escaped (`escaped_text`). -/

namespace Refactory.Grammar

/-! ## Digits -/

namespace Numeral

theorem digitValue_digitChar {d : Nat} (h : d < 16) : digitValue d.digitChar = d := by
  have hall : ∀ d < 16, digitValue (Nat.digitChar d) = d := by decide
  exact hall d h

theorem valueOf_concat (b : Nat) (digits : List Char) (c : Char) :
    valueOf b (digits ++ [c]) = b * valueOf b digits + digitValue c := by
  simp [valueOf]

variable {b : Nat}

/-- The digits of a number write it. -/
theorem valueOf_toDigits (hb : 1 < b) (hsmall : b ≤ 16) (n : Nat) :
    valueOf b (Nat.toDigits b n) = n := by
  induction n using Nat.strongRecOn with
  | ind n ih =>
    rcases Nat.lt_or_ge n b with hn | hn
    · rw [Nat.toDigits_of_lt_base hn]
      simp [valueOf, digitValue_digitChar (Nat.lt_of_lt_of_le hn hsmall)]
    · have hmod : n % b < 16 := Nat.lt_of_lt_of_le (Nat.mod_lt n (by omega)) hsmall
      rw [Nat.toDigits_of_base_le hb hn, valueOf_concat,
        ih (n / b) (Nat.div_lt_self (by omega) hb), digitValue_digitChar hmod]
      exact Nat.div_add_mod n b

theorem isDigitOf_toDigits (hb : 1 < b) (hsmall : b ≤ 16) (n : Nat) :
    ∀ c ∈ Nat.toDigits b n, isDigitOf b c = true := by
  have hdigit : ∀ d < b, isDigitOf b d.digitChar = true := fun d hd => by
    simp [isDigitOf, digitValue_digitChar (Nat.lt_of_lt_of_le hd hsmall), hd]
  induction n using Nat.strongRecOn with
  | ind n ih =>
    rcases Nat.lt_or_ge n b with hn | hn
    · rw [Nat.toDigits_of_lt_base hn]
      exact List.forall_mem_singleton.2 (hdigit n hn)
    · rw [Nat.toDigits_of_base_le hb hn]
      exact List.forall_mem_append.2 ⟨ih (n / b) (Nat.div_lt_self (by omega) hb),
        List.forall_mem_singleton.2 (hdigit _ (Nat.mod_lt n (by omega)))⟩

/-- No zeros stand in front of a number. -/
theorem head_toDigits_ne (hb : 1 < b) {n : Nat} (hn : 0 < n) (hsmall : b ≤ 16) :
    (Nat.toDigits b n).head? ≠ some '0' := by
  induction n using Nat.strongRecOn with
  | ind n ih =>
    rcases Nat.lt_or_ge n b with hlt | hge
    · rw [Nat.toDigits_of_lt_base hlt]
      intro h
      have hvalue := digitValue_digitChar (Nat.lt_of_lt_of_le hlt hsmall)
      rw [Option.some.inj h] at hvalue
      exact Nat.ne_of_lt hn hvalue
    · have hpos : 0 < n / b := Nat.div_pos hge (by omega)
      have hhead := ih (n / b) (Nat.div_lt_self hn hb) hpos
      obtain ⟨c, digits, hdigits⟩ :=
        List.exists_cons_of_ne_nil (Nat.toDigits_ne_nil (n := n / b) (b := b))
      rw [hdigits] at hhead
      rw [Nat.toDigits_of_base_le hb hge, hdigits]
      exact hhead

theorem moreDigits_all (hsmall : b ≤ 16) {digits : List Char}
    (h : ∀ c ∈ digits, isDigitOf b c = true) : moreDigits b digits = some (digits, []) := by
  induction digits with
  | nil => rfl
  | cons c digits ih =>
    rw [List.forall_mem_cons] at h
    have hc : c ≠ '_' := by
      rintro rfl
      have hlt : digitValue '_' < b := by simpa [isDigitOf] using h.1
      exact Nat.not_lt.2 hsmall hlt
    unfold moreDigits
    rw [if_neg hc, if_pos h.1, ih h.2]
    rfl

theorem decimal_toDigits {n : Nat} (h : (Nat.toDigits 10 n).length ≤ mostDigits) :
    decimal (Nat.toDigits 10 n) = some (.int n, []) := by
  have hdigits := moreDigits_all (by decide) (isDigitOf_toDigits (b := 10) (by decide) (by decide) n)
  have hzeros : ¬ ((Nat.toDigits 10 n).head? = some '0' ∧ (Nat.toDigits 10 n).any (· ≠ '0')) := by
    rintro ⟨hhead, hany⟩
    cases n with
    | zero => cases hany
    | succ n => exact head_toDigits_ne (by decide) (Nat.succ_pos n) (by decide) hhead
  rw [decimal, hdigits]
  simp only [Option.bind_eq_bind, Option.bind_some]
  rw [if_neg]
  · rw [afterDigits, valueOf_toDigits (by decide) (by decide)]
    rfl
  · rintro ⟨-, hlong | hzero⟩
    · exact Nat.not_lt.2 h hlong
    · exact hzeros hzero

/-- The decimal digits of a number are read as that number. -/
theorem read_toDigits {n : Nat} (h : (Nat.toDigits 10 n).length ≤ mostDigits) :
    read (Nat.toDigits 10 n) = some (.int n, []) := by
  rw [← decimal_toDigits h]
  unfold read
  split
  · rename_i hdigits
    have hdot := isDigitOf_toDigits (b := 10) (by decide) (by decide) n '.' (by simp [hdigits])
    cases hdot
  · rename_i hdigits
    cases n with
    | zero => cases hdigits
    | succ n =>
      exact (head_toDigits_ne (b := 10) (by decide) (Nat.succ_pos n) (by decide)
        (by rw [hdigits]; rfl)).elim
  · rfl

end Numeral

/-! ## Escapes -/

/-- The body of a string literal on one line: a backslash takes the character behind it along, and the
quote stands only there. -/
inductive StringBody : List Char → Prop
  | nil : StringBody []
  | bare {c cs} (hc : c ≠ '"') (hslash : c ≠ '\\') (hprint : 0x20 ≤ c.toNat) (h : StringBody cs) :
    StringBody (c :: cs)
  | escape {c cs} (hprint : 0x20 ≤ c.toNat) (h : StringBody cs) : StringBody ('\\' :: c :: cs)

theorem StringBody.append {cs ds : List Char} (h : StringBody cs) (h' : StringBody ds) :
    StringBody (cs ++ ds) := by
  induction h with
  | nil => exact h'
  | bare hc hslash hprint _ ih => exact .bare hc hslash hprint ih
  | escape hprint _ ih => exact .escape hprint ih

theorem StringBody.printable {cs : List Char} (h : StringBody cs) : ∀ c ∈ cs, 0x20 ≤ c.toNat := by
  induction h with
  | nil => exact fun _ hc => by cases hc
  | bare _ _ hprint _ ih => exact List.forall_mem_cons.2 ⟨hprint, ih⟩
  | escape hprint _ ih =>
    exact List.forall_mem_cons.2 ⟨by decide, List.forall_mem_cons.2 ⟨hprint, ih⟩⟩

/-- The quote behind the body closes the literal. -/
theorem StringBody.stringLength {cs : List Char} (h : StringBody cs) {ps : List Placed}
    {rest : List Char} (hps : ps.map (·.char) = cs ++ '"' :: rest) (n : Nat) :
    stringLength '"' false n ps = some (n + cs.length) := by
  induction h generalizing ps n with
  | nil =>
    obtain ⟨p, ps, rfl, hp, -⟩ := List.map_eq_cons_iff.1 hps
    unfold Grammar.stringLength
    rw [if_pos ⟨hp, by simp⟩]
    rfl
  | bare hc hslash hprint _ ih =>
    obtain ⟨p, ps, rfl, rfl, hrest⟩ := List.map_eq_cons_iff.1 hps
    have hline : p.char ≠ '\n' := fun h => by rw [h] at hprint; exact absurd hprint (by decide)
    unfold Grammar.stringLength
    rw [if_neg (by simp [hc]), if_neg (by simp [hline]), if_neg hslash, ih hrest,
      List.length_cons, Nat.add_assoc, Nat.add_comm 1]
  | escape hprint _ ih =>
    obtain ⟨p, ps, rfl, hp, hrest⟩ := List.map_eq_cons_iff.1 hps
    obtain ⟨q, ps, rfl, hq, hrest'⟩ := List.map_eq_cons_iff.1 hrest
    unfold Grammar.stringLength
    rw [hp, if_neg (by simp), if_neg (by simp), if_pos rfl]
    simp only [ih hrest', List.length_cons]
    congr 1
    omega

/-- The digits of a numeric escape. -/
def hexChars (width n : Nat) : List Char :=
  List.replicate (width - (Nat.toDigits 16 n).length) '0' ++ Nat.toDigits 16 n

theorem hex_eq (width n : Nat) : Text.hex width n = Text.ofChars (hexChars width n) := rfl

theorem length_hexChars {width n : Nat} (hwidth : 0 < width) (h : n < Nat.pow 16 width) :
    (hexChars width n).length = width := by
  have hlength := (Nat.length_toDigits_le_iff (b := 16) (by decide) hwidth).2 h
  rw [hexChars, List.length_append, List.length_replicate]
  omega

theorem isDigitOf_hexChars (width n : Nat) :
    ∀ c ∈ hexChars width n, Numeral.isDigitOf 16 c = true := by
  refine List.forall_mem_append.2 ⟨fun c hc => ?_, Numeral.isDigitOf_toDigits (by decide) (by decide) n⟩
  rw [List.eq_of_mem_replicate hc]
  rfl

theorem valueOf_hexChars (width n : Nat) : Numeral.valueOf 16 (hexChars width n) = n := by
  have hzeros (k : Nat) (digits : List Char) :
      Numeral.valueOf 16 (List.replicate k '0' ++ digits) = Numeral.valueOf 16 digits := by
    induction k with
    | zero => rfl
    | succ k ih => exact ih
  rw [hexChars, hzeros, Numeral.valueOf_toDigits (by decide) (by decide)]

theorem hexDigits_hexChars {width n : Nat} (hwidth : 0 < width) (h : n < Nat.pow 16 width)
    (rest : List Char) : hexDigits width (hexChars width n ++ rest) = some (n, rest) := by
  have hlength := length_hexChars hwidth h
  have htake : (hexChars width n ++ rest).take width = hexChars width n := List.take_left' hlength
  have hdrop : (hexChars width n ++ rest).drop width = rest := List.drop_left' hlength
  have hall : (hexChars width n).all (Numeral.isDigitOf 16) = true :=
    List.all_eq_true.2 (isDigitOf_hexChars width n)
  simp only [hexDigits, htake, hdrop, hlength, hall, valueOf_hexChars, and_self, if_true]

theorem StringBody.hexChars (width n : Nat) : StringBody (hexChars width n) := by
  have hlow : ∀ n < 0x20, Numeral.isDigitOf 16 (Char.ofNat n) = false := by decide
  have hdigits := isDigitOf_hexChars width n
  generalize Grammar.hexChars width n = cs at hdigits
  induction cs with
  | nil => exact .nil
  | cons c cs ih =>
    rw [List.forall_mem_cons] at hdigits
    refine .bare ?_ ?_ (Nat.le_of_not_lt fun hlt => ?_) (ih hdigits.2)
    · rintro rfl
      cases hdigits.1
    · rintro rfl
      cases hdigits.1
    · have hfalse := hlow c.toNat hlt
      rw [Char.ofNat_toNat, hdigits.1] at hfalse
      cases hfalse

theorem ofNat_val (c : CodePoint) : CodePoint.ofNat? c.val = some c := by
  cases c with
  | scalar c =>
    have hvalid : c.toNat < 0xd800 ∨ 0xdfff < c.toNat ∧ c.toNat < 0x110000 := c.valid
    rw [CodePoint.ofNat?, CodePoint.val, dif_neg (by omega), if_pos (by omega), Char.ofNat_toNat]
  | surrogate offset =>
    have hlt := offset.isLt
    rw [CodePoint.ofNat?, CodePoint.val, dif_pos (by omega)]
    simp

/-! ## Escaped texts -/

/-- A piece of a string literal stands for a point, and the body goes on behind it. -/
structure Escapes (word : List Char) (c : CodePoint) : Prop where
  nonempty : word ≠ []
  body : StringBody word
  read : ∀ fuel rest, unescapeFrom (fuel + 1) (word ++ rest) = (unescapeFrom fuel rest).map (c :: ·)

theorem unescapeFrom_bare {c : Char} (hslash : c ≠ '\\') (fuel : Nat) (rest : List Char) :
    unescapeFrom (fuel + 1) (c :: rest) = (unescapeFrom fuel rest).map (.scalar c :: ·) := by
  conv => lhs; unfold unescapeFrom
  rw [if_neg hslash]
  cases unescapeFrom fuel rest <;> rfl

theorem escapes_bare {c : Char} (hquote : c ≠ '"') (hslash : c ≠ '\\') (hprint : 0x20 ≤ c.toNat) :
    Escapes [c] (.scalar c) where
  nonempty := by simp
  body := .bare hquote hslash hprint .nil
  read := unescapeFrom_bare hslash

theorem unescapeFrom_escape {c : Char} {d : CodePoint} {cs rest : List Char}
    (h : escapeStep c cs = some ([d], rest)) (fuel : Nat) :
    unescapeFrom (fuel + 1) ('\\' :: c :: cs) = (unescapeFrom fuel rest).map (d :: ·) := by
  conv => lhs; unfold unescapeFrom
  rw [if_pos rfl]
  simp only [h]
  change (unescapeFrom fuel rest).bind (fun points => some (d :: points)) = _
  cases unescapeFrom fuel rest <;> rfl

theorem escapes_letter {c d : Char} (h : letterEscape? c = some d)
    (hother : c ≠ '\n' ∧ Numeral.isDigitOf 8 c = false ∧ c ≠ 'x' ∧ c ≠ 'u' ∧ c ≠ 'U' ∧ c ≠ 'N')
    (hprint : 0x20 ≤ c.toNat) : Escapes ['\\', c] (.scalar d) where
  nonempty := by simp
  body := .escape hprint .nil
  read := fun fuel rest => by
    obtain ⟨hline, hdigit, hx, hu, hU, hN⟩ := hother
    refine unescapeFrom_escape ?_ fuel
    simp [escapeStep, hline, hdigit, hx, hu, hU, hN, h]

theorem escapes_hex {mark : Char} {width : Nat}
    (hmark : mark = 'x' ∧ width = 2 ∨ mark = 'u' ∧ width = 4) {c : CodePoint}
    (h : c.val < Nat.pow 16 width) : Escapes ('\\' :: mark :: hexChars width c.val) c where
  nonempty := by simp
  body := by
    refine .escape ?_ (.hexChars width c.val)
    rcases hmark with ⟨rfl, -⟩ | ⟨rfl, -⟩ <;> decide
  read := fun fuel rest => by
    rw [List.cons_append, List.cons_append]
    refine unescapeFrom_escape ?_ fuel
    rcases hmark with ⟨rfl, rfl⟩ | ⟨rfl, rfl⟩
    · rw [escapeStep, if_neg (by decide), if_neg (by decide), if_pos (by decide), if_pos rfl,
        hexDigits_hexChars (by decide) h]
      simp [ofNat_val]
    · rw [escapeStep, if_neg (by decide), if_neg (by decide), if_pos (by decide),
        if_neg (by decide), if_pos rfl, hexDigits_hexChars (by decide) h]
      simp [ofNat_val]

/-- The escaped form of a point stands for it. -/
theorem escaped_point (c : CodePoint) :
    ∃ word, c.escaped .double = Text.ofChars word ∧ Escapes word c := by
  unfold CodePoint.escaped
  split
  · rename_i hc
    exact ⟨_, rfl, hc ▸ escapes_letter rfl (by decide) (by decide)⟩
  split
  · rename_i hc
    exact ⟨_, rfl, hc.1 ▸ escapes_letter rfl (by decide) (by decide)⟩
  split
  · rename_i hc
    cases hc.2
  split
  · rename_i hc
    exact ⟨_, rfl, hc ▸ escapes_letter (c := 'n') rfl (by decide) (by decide)⟩
  split
  · rename_i hc
    exact ⟨_, rfl, hc ▸ escapes_letter (c := 'r') rfl (by decide) (by decide)⟩
  split
  · rename_i hc
    exact ⟨_, rfl, hc ▸ escapes_letter (c := 't') rfl (by decide) (by decide)⟩
  split
  · rename_i hc
    have hlt : c.val < 256 := by
      simp [CodePoint.isControl] at hc
      omega
    exact ⟨_, rfl, escapes_hex (.inl ⟨rfl, rfl⟩) hlt⟩
  · rename_i hslash hquote _ _ _ _ hcontrol
    cases c with
    | surrogate offset =>
      have hlt : (CodePoint.surrogate offset).val < 65536 := by
        have := offset.isLt
        simp [CodePoint.val]
        omega
      exact ⟨_, rfl, escapes_hex (.inr ⟨rfl, rfl⟩) hlt⟩
    | scalar c =>
      refine ⟨[c], rfl, escapes_bare ?_ ?_ ?_⟩
      · rintro rfl
        exact hquote ⟨rfl, rfl⟩
      · rintro rfl
        exact hslash rfl
      · refine Nat.le_of_not_lt fun hlt => hcontrol ?_
        simp [CodePoint.isControl, CodePoint.val, hlt]

/-- The escaped form of a text is the body of a string literal that stands for it. -/
theorem escaped_text (t : Text) : ∃ body, t.escaped .double = Text.ofChars body ∧ StringBody body ∧
    unescape body = some t := by
  have hread : ∃ body, t.escaped .double = Text.ofChars body ∧ StringBody body ∧
      t.length ≤ body.length ∧ ∀ fuel, t.length ≤ fuel → unescapeFrom fuel body = some t := by
    induction t with
    | nil => exact ⟨[], rfl, .nil, Nat.le_refl 0, fun fuel _ => by cases fuel <;> rfl⟩
    | cons c t ih =>
      obtain ⟨word, hword, hescapes⟩ := escaped_point c
      obtain ⟨body, hbody, hvalid, hlength, hread⟩ := ih
      refine ⟨word ++ body, ?_, hescapes.body.append hvalid, ?_, fun fuel hfuel => ?_⟩
      · rw [Text.escaped] at hbody
        rw [Text.escaped, List.flatMap_cons, hword, hbody]
        exact List.map_append.symm
      · have hpos := List.length_pos_iff.2 hescapes.nonempty
        rw [List.length_cons, List.length_append]
        omega
      · cases fuel with
        | zero => cases hfuel
        | succ fuel => rw [hescapes.read, hread fuel (Nat.le_of_succ_le_succ hfuel)]; rfl
  obtain ⟨body, hbody, hvalid, hlength, hread⟩ := hread
  exact ⟨body, hbody, hvalid, hread _ hlength⟩

end Refactory.Grammar
