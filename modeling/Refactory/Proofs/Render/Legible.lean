import Refactory.Proofs.Grammar.Lexing

/-! # Written expressions are legible

What is written for an expression is legible in front of anything legible that begins with a character
at which an expression can end (`Expr.legible`). -/

namespace Refactory

open Grammar Inks

variable {stack : List Char} {rest : List Ink}

/-! ## What comes next -/

theorem next_gap {p : Char → Prop} (h : p ' ') (inks : List Ink) : Next p (.gap :: inks) :=
  fun _ hc => by cases hc; exact h

theorem next_symbol {p : Char → Prop} {text : String} {c : Char} {tail : List Char}
    (htext : text.toList = c :: tail) (h : p c) (inks : List Ink) : Next p (.symbol text :: inks) := by
  intro d hd
  rw [spell_cons, Ink.spell, Mark.spell, htext] at hd
  cases hd
  exact h

theorem next_name {id : Text} (h : id.isNormalName = true) (inks : List Ink) :
    Next (fun c => isWordChar c = true ∧ c.isDigit = false) (.mark (.name id) :: inks) := by
  obtain ⟨word, rfl, hbindable, -⟩ := Text.isNormalName_eq h
  rw [Text.isBindable, Bool.and_eq_true] at hbindable
  cases word with
  | nil => cases hbindable.1
  | cons c tail =>
    have hparts := hbindable.1
    rw [Text.ofChars, List.map_cons, Text.isIdentifier, Bool.and_eq_true] at hparts
    intro d hd
    rw [spell_cons, Ink.spell, Mark.spell, filterMap_char_ofChars] at hd
    cases hd
    exact isWordChar_of_begins hparts.1

theorem not_extender_of_word {c : Char} (h : isWordChar c = true) : c ∉ extenders := by
  intro hc
  have hall : ∀ c ∈ extenders, isWordChar c = false := by decide
  cases (hall c hc).symm.trans h

theorem next_starter {text : String} (h : 0 < (Mark.symbol text).opens) (inks : List Ink) :
    Next (· ∉ extenders) (.symbol text :: inks) := by
  cases hlookup : starters.lookup text with
  | none =>
    change 0 < (Mark.symbol text).starts at h
    rw [Mark.starts, hlookup] at h
    cases h
  | some p =>
    obtain ⟨front, back, hstarters, -⟩ := List.lookup_eq_some_iff.1 hlookup
    have hmem : (text, p) ∈ starters := by rw [hstarters]; simp
    have hall : ∀ x ∈ starters, x.1.toList ≠ [] ∧ ∀ c ∈ x.1.toList.head?, c ∉ extenders := by
      decide
    obtain ⟨hne, hfirst⟩ := hall _ hmem
    obtain ⟨c, tail, htext⟩ := List.exists_cons_of_ne_nil hne
    exact next_symbol htext (hfirst c (by rw [htext]; rfl)) inks

/-- Where an expression begins, no operator goes on. -/
theorem Grammar.Legible.next_of_opens {m : Mark} {inks : List Ink} (h : Legible stack (.mark m :: inks))
    (hm : 0 < m.opens) : Next (· ∉ extenders) (.mark m :: inks) := by
  cases h with
  | name hid _ _ => exact fun c hc => not_extender_of_word (next_name hid inks c hc).1
  | number hvalue _ _ =>
    intro c hc
    obtain ⟨d, tail, hspell, hd⟩ := hvalue.digit
    rw [spell_cons, Ink.spell, hspell] at hc
    cases hc
    exact not_extender_of_word (by simp [isWordChar, Char.isAlphanum, hd])
  | string _ _ _ =>
    intro c hc
    cases hc
    decide
  | keyword _ _ _ | operator _ _ _ | ellipsis _ | dot _ _ _ | opening _ _ _ | closing _ _ _ =>
    exact next_starter hm inks
  | captured htext _ _ =>
    rename_i kind text
    intro c hc hextender
    obtain ⟨t, ts, hts⟩ := List.exists_cons_of_ne_nil htext.nonempty
    obtain ⟨d, tail, rfl⟩ := List.exists_cons_of_ne_nil (List.length_pos_iff.1 htext.length_pos)
    cases hc
    have hstarts := (htext.first c rfl).2 hextender t (by rw [hts]; rfl)
    refine Nat.not_lt.2 (Nat.le_trans (Mark.opens_le_first _) ?_) hm
    rw [Mark.first, hts]
    exact Nat.le_of_eq hstarts

/-! ## Parts -/

/-- Where the expression can stand in front of a dot, any expression can end. -/
def Behind (dot : Prop) (c : Char) : Prop := c ∈ enders ∧ (c = '.' → dot)

/-- What is legible in front of such characters. -/
def Before (ok : Char → Prop) (inks : List Ink) : Prop :=
  ∀ stack rest, Legible stack rest → Next ok rest → Legible stack (inks ++ rest)

/-- What is legible in front of a character behind which an expression can end. -/
def Part (dot : Prop) (inks : List Ink) : Prop := Before (Behind dot) inks

section

variable {ok ok' : Char → Prop} {xs ys : List Ink}

theorem Before.mono (h : Before ok xs) (hok : ∀ c, ok' c → ok c) : Before ok' xs :=
  fun stack rest hrest hnext => h stack rest hrest fun c hc => hok c (hnext c hc)

theorem Part.mono {p q : Prop} (h : Part p xs) (hqp : q → p) : Part q xs :=
  Before.mono h fun _ hc => ⟨hc.1, fun hdot => hqp (hc.2 hdot)⟩

theorem Before.append (hx : Before ok xs) (hy : Before ok' ys)
    (hnext : ∀ rest, Next ok (ys ++ rest)) : Before ok' (xs ++ ys) := by
  intro stack rest hrest hbehind
  rw [List.append_assoc]
  exact hx stack _ (hy stack rest hrest hbehind) (hnext rest)

/-- What can be left out. -/
theorem Before.optional (hx : Before ok xs) (hy : Before ok ys)
    (hnext : ys = [] ∨ ∀ rest, Next ok (ys ++ rest)) : Before ok (xs ++ ys) := by
  obtain rfl | hnext := hnext
  · rw [List.append_nil]
    exact hx
  · exact hx.append hy hnext

theorem Before.gap (h : Before ok xs) : Before ok (.gap :: xs) :=
  fun stack rest hrest hbehind => .gap (h stack rest hrest hbehind)

theorem behind_gap (dot : Prop) (inks : List Ink) : Next (Behind dot) (.gap :: inks) :=
  next_gap ⟨by decide, fun h => absurd h (by decide)⟩ inks

/-- A keyword or an operator with a blank behind it. -/
theorem Before.symbolGap {text : String} (htext : text ∈ keywords ∨ text ∈ operators)
    (h : Before ok xs) : Before ok (.symbol text :: .gap :: xs) := by
  intro stack rest hrest hbehind
  have hgap := h.gap stack rest hrest hbehind
  rcases htext with htext | htext
  · exact .keyword htext (next_gap (by decide) _) hgap
  · exact .operator htext (next_gap (.inr ⟨by decide, fun _ => by decide⟩) _) hgap

/-- An operator in front of an expression. -/
theorem Before.prefixed {text : String} (htext : text ∈ operators) (hdot : text ≠ ".")
    (hlead : Leads 1 xs) (h : Before ok xs) : Before ok (.symbol text :: xs) := by
  intro stack rest hrest hbehind
  have hlegible := h stack rest hrest hbehind
  obtain ⟨m, tail, rfl, hopens, -⟩ := hlead
  exact .operator htext (fun c hc => .inr ⟨hlegible.next_of_opens hopens c hc,
    fun h => (hdot h).elim⟩) hlegible

/-- Brackets around what can end in front of the closing one. -/
theorem Before.bracketed {left right : String} {c d : Char} (h : Before ok xs)
    (hleft : left.toList = [c]) (hc : c ∈ openers) (hright : right.toList = [d])
    (hd : opening? d = some c) (hend : ok d) :
    Part True (Ink.symbol left :: (xs ++ [Ink.symbol right])) := by
  intro stack rest hrest _
  rw [List.cons_append, List.append_assoc]
  exact .opening hleft hc (h _ _ (.closing hright hd hrest) (next_symbol hright hend rest))

theorem Before.parenthesized (h : Before ok xs) (hend : ok ')') :
    Part True (.symbol "(" :: (xs ++ [.symbol ")"])) :=
  h.bracketed (c := '(') (d := ')') (by decide) (by decide) (by decide) (by decide) hend

theorem Part.parenthesized (h : Part False xs) :
    Part True (.symbol "(" :: (xs ++ [.symbol ")"])) :=
  Before.parenthesized h ⟨by decide, fun h => absurd h (by decide)⟩

/-- Parts with a separator between each two. -/
theorem Before.join {sep : List Ink} {parts : List (List Ink)}
    (hsep : ∀ xs, Before ok xs → Before ok (sep ++ xs)) (hnext : ∀ inks, Next ok (sep ++ inks))
    (h : ∀ x ∈ parts, Before ok x) : Before ok (join sep parts) := by
  cases parts with
  | nil => exact fun _ _ hrest _ => hrest
  | cons x xs =>
    rw [List.forall_mem_cons] at h
    obtain ⟨hx, hxs⟩ := h
    induction xs generalizing x with
    | nil =>
      rw [Inks.join, List.flatMap_nil, List.append_nil]
      exact hx
    | cons y ys ih =>
      rw [List.forall_mem_cons] at hxs
      have hrest := hsep _ (ih y hxs.1 hxs.2)
      rw [Inks.join, List.flatMap_cons, List.append_assoc]
      refine hx.append hrest fun rest => ?_
      rw [List.append_assoc]
      exact hnext _

theorem Before.commas {parts : List (List Ink)} (hok : ok ',') (h : ∀ x ∈ parts, Before ok x) :
    Before ok (commas parts) :=
  Before.join (fun _ hxs stack rest hrest hbehind =>
      .operator (by decide) (fun _ _ => .inl rfl) (.gap (hxs stack rest hrest hbehind)))
    (fun _ => next_symbol (show ",".toList = [','] by decide) hok _) h

theorem Part.commas {parts : List (List Ink)} (h : ∀ x ∈ parts, Part False x) :
    Part False (commas parts) :=
  Before.commas ⟨by decide, fun h => absurd h (by decide)⟩ h

end

/-- A comparison behind its left operand. -/
theorem Part.comparison {ops : List CompareOp} {parts : List (List Ink)}
    (h : ∀ x ∈ parts, Part False x) : Part False (Inks.comparison ops parts) := by
  induction ops generalizing parts with
  | nil => cases parts <;> exact fun _ _ hrest _ => hrest
  | cons op ops ih =>
    cases parts with
    | nil => exact fun _ _ hrest _ => hrest
    | cons x xs =>
      rw [List.forall_mem_cons] at h
      have hrest : Part False (x ++ Inks.comparison ops xs) := by
        intro stack rest hrest hbehind
        rw [List.append_assoc]
        refine h.1 stack _ (ih h.2 stack rest hrest hbehind) ?_
        cases ops with
        | nil => cases xs <;> exact hbehind
        | cons op' ops =>
          cases xs with
          | nil => exact hbehind
          | cons y ys => exact behind_gap False _
      rw [Inks.comparison]
      refine Before.gap ?_
      cases op with
      | notSame => exact (hrest.symbolGap (.inl (by decide))).symbolGap (.inl (by decide))
      | notMember => exact (hrest.symbolGap (.inl (by decide))).symbolGap (.inl (by decide))
      | same => exact hrest.symbolGap (.inl (by decide))
      | member => exact hrest.symbolGap (.inl (by decide))
      | _ => exact hrest.symbolGap (.inr (by decide))

/-! ## Expressions -/

/-- An expression that is written as an atom and can end in front of a dot. -/
structure Expr.Dotted (e : Expr) : Prop where
  atom : e.strength = .atom
  number : e.isNumber = false
  ellipsis : e.isEllipsis = false

/-- In a place that requires the strength of an atom, an expression can end in front of a dot. -/
theorem Part.inksAt {e : Expr} (h : Part e.Dotted e.inks) (least : Precedence) :
    Part (least = .atom ∧ e.isNumber = false ∧ e.isEllipsis = false) (e.inksAt least) := by
  unfold Expr.inksAt enclose
  split
  · exact (h.mono False.elim).parenthesized.mono fun _ => trivial
  · rename_i hrank
    refine h.mono fun ⟨hatom, hnumber, hellipsis⟩ => ⟨rank_injective ?_, hnumber, hellipsis⟩
    have hle := rank_le_atom e.strength
    rw [hatom] at hrank
    change ¬ e.strength.rank < Precedence.atom.rank at hrank
    omega

theorem part_word {text : String} (h : text ∈ keywords) : Part True [.symbol text] :=
  fun _ _ hrest hbehind => .keyword h (fun c hc => (hbehind c hc).1) hrest

/-- A bracket that opens behind an expression. -/
theorem behind_opening (dot : Prop) {text : String} {c : Char} (htext : text.toList = [c])
    (hc : c ∈ ['(', '[']) (inks : List Ink) : Next (Behind dot) (.symbol text :: inks) := by
  have hall : ∀ c ∈ ['(', '['], c ∈ enders ∧ c ≠ '.' := by decide
  exact next_symbol htext ⟨(hall c hc).1, fun h => absurd h (hall c hc).2⟩ inks

theorem Part.tuple {parts : List (List Ink)} (h : ∀ x ∈ parts, Part False x) :
    Part False (Inks.tuple parts) := by
  unfold Inks.tuple
  split
  · rename_i x
    refine (h x List.mem_cons_self).append (fun _ _ hrest _ => ?_) fun rest => ?_
    · exact .operator (by decide) (fun _ _ => .inl rfl) hrest
    · exact next_symbol (show ",".toList = [','] by decide)
        ⟨by decide, fun h => absurd h (by decide)⟩ _
  · exact .commas h

theorem Part.dotted {value : Expr}
    (h : Part value.Dotted value.inks) (hellipsis : value.isEllipsis = false)
    {attr : Text} (hattr : attr.isNormalName = true) :
    Part True (enclose .atom (if value.isNumber then .factor else value.strength, value.inks) ++
      [Ink.symbol ".", Ink.mark (.name attr)]) := by
  have hvalue : Part True
      (enclose .atom (if value.isNumber then .factor else value.strength, value.inks)) := by
    cases hnumber : value.isNumber with
    | true => exact (h.mono False.elim).parenthesized
    | false => exact (h.inksAt .atom).mono fun _ => ⟨rfl, hnumber, hellipsis⟩
  refine hvalue.append (fun stack rest hrest hbehind => ?_) fun rest => ?_
  · refine .operator (by decide) (fun c hc => ?_) (.name hattr (fun c hc => (hbehind c hc).1) hrest)
    have hc := next_name hattr rest c hc
    refine .inr ⟨not_extender_of_word hc.1, fun _ => ⟨?_, hc.2⟩⟩
    rintro rfl
    cases hc.1
  · exact next_symbol (show ".".toList = ['.'] by decide) ⟨by decide, fun _ => trivial⟩ _

variable {mode : RenderMode}

theorem Keyword.legible {k : Keyword} (harg : ∀ arg ∈ k.arg, arg.isNormalName = true)
    (hplain : k.value.isReadable mode false = true)
    (h : ∀ least, Part False (k.value.inksAt least)) : Part False k.inks := by
  obtain ⟨arg, value⟩ := k
  have hleads : ∀ least, Leads 1 (value.inksAt least) := fun least =>
    ((value.leads hplain).enclose least).mono (by cases least <;> decide)
  cases arg with
  | none => exact (h .bitOr).prefixed (by decide) (by decide) (hleads .bitOr)
  | some arg =>
    intro stack rest hrest hbehind
    have hvalue := (h .test).prefixed (show "=" ∈ operators by decide) (by decide) (hleads .test)
    exact .name (harg arg rfl) (next_symbol (show "=".toList = ['='] by decide) (by decide) _)
      (hvalue stack rest hrest hbehind)

theorem Expr.legible_entry {k : Option Expr} {v : Expr} (hplain : v.isReadable mode false = true)
    (hk : ∀ e ∈ k, Part False (e.inksAt .test)) (hv : ∀ least, Part False (v.inksAt least)) :
    Part False (Expr.entryInks (k, v)) := by
  cases k with
  | none =>
    have hlead := ((v.leads hplain).enclose .bitOr).mono (show 1 ≤ _ by decide)
    exact (hv .bitOr).prefixed (by decide) (by decide) hlead
  | some k =>
    refine (hk k rfl).append ((hv .test).symbolGap (.inr (by decide))) fun rest => ?_
    exact next_symbol (show ":".toList = [':'] by decide)
      ⟨by decide, fun h => absurd h (by decide)⟩ _

/-- Every readable expression is legible. -/
theorem Expr.legible : ∀ (e : Expr) (star : Bool), e.isReadable mode star = true →
    Part e.Dotted e.inks := by
  refine Expr.induct_children fun e ih star h => ?_
  have hat : ∀ c ∈ e.children, ∀ star, c.isReadable mode star = true → ∀ least,
      Part False (c.inksAt least) := fun c hc star hplain least =>
    ((ih c hc star hplain).inksAt least).mono False.elim
  have hleads : ∀ c ∈ e.children, c.isReadable mode false = true → ∀ least, Leads 1 (c.inksAt least) :=
    fun c _ hplain least => ((c.leads hplain).enclose least).mono (by cases least <;> decide)
  cases e with
  | name id =>
    exact fun stack rest hrest hbehind => .name h (fun c hc => (hbehind c hc).1) hrest
  | string value =>
    obtain ⟨body, hbody, hvalid, -⟩ := escaped_text value
    rw [Expr.inks, hbody, filterMap_char_ofChars]
    exact fun stack rest hrest hbehind => .string hvalid (fun c hc => (hbehind c hc).1) hrest
  | number value =>
    have hvalue : value.Numeral (Mark.number value).spell := by
      rcases Expr.number_cases h with ⟨n, rfl, hn⟩ | ⟨word, -, hword, hspell⟩
      · exact Number.numeral_int hn
      · rwa [hspell]
    refine fun stack rest hrest hbehind => .number hvalue (fun c hc => ?_) hrest
    exact ⟨(hbehind c hc).1, fun hdot => by cases ((hbehind c hc).2 hdot).number⟩
  | truth value => cases value <;> exact (part_word (by decide)).mono fun _ => trivial
  | noneLiteral => exact (part_word (by decide)).mono fun _ => trivial
  | call func args keywords =>
    simp only [Expr.isReadable, Bool.and_eq_true, Expr.areReadable_iff, Keyword.areReadable_iff] at h
    have hitems : ∀ x ∈ args.map (Expr.inksAt .test) ++ keywords.map Keyword.inks, Part False x := by
      refine List.forall_mem_append.2 ⟨fun x hx => ?_, fun x hx => ?_⟩
      · obtain ⟨e, he, rfl⟩ := List.mem_map.1 hx
        exact hat e (by simp [Expr.children, he]) true (h.1.2 e he) .test
      · obtain ⟨k, hk, rfl⟩ := List.mem_map.1 hx
        have hchild : k.value ∈ (Expr.call func args keywords).children :=
          List.mem_append_right _ (List.mem_map_of_mem hk)
        exact Keyword.legible (h.2 k hk).2 (h.2 k hk).1 (hat _ hchild false (h.2 k hk).1)
    have hfunc := hat func (by simp [Expr.children]) false h.1.1 .atom
    rw [Expr.inks_call]
    exact Part.mono (hfunc.append (Part.commas hitems).parenthesized fun rest =>
      behind_opening (c := '(') False (by decide) (by decide) _) fun _ => trivial
  | binary left op right =>
    rw [Expr.isReadable, Bool.and_eq_true] at h
    have hleft := hat left (by simp [Expr.children]) false h.1 op.operands.1
    have hright := hat right (by simp [Expr.children]) false h.2 op.operands.2
    have hop : op.token ∈ operators := by cases op <;> decide
    refine Part.mono (hleft.append (hright.symbolGap (.inr hop)).gap (behind_gap False))
      fun hatom => ?_
    cases op <;> cases hatom.atom
  | unary op operand =>
    have hoperand := hat operand (by simp [Expr.children]) false h
    have hlead := hleads operand (by simp [Expr.children]) h .factor
    cases op with
    | negation =>
      exact Part.mono ((hoperand .negation).symbolGap (.inl (by decide))) fun hatom => by
        cases hatom.atom
    | _ =>
      exact Part.mono ((hoperand .factor).prefixed (by decide) (by decide) hlead) fun hatom => by
        cases hatom.atom
  | logical op values =>
    simp only [Expr.isReadable, Bool.and_eq_true, Expr.areReadable_iff] at h
    have hop : op.token ∈ keywords := by cases op <;> decide
    rw [Expr.inks_logical]
    refine Part.mono (Before.join (fun xs hxs => (hxs.symbolGap (.inl hop)).gap)
      (fun inks => behind_gap False _) fun x hx => ?_) fun hatom => ?_
    · obtain ⟨v, hv, rfl⟩ := List.mem_map.1 hx
      exact hat v hv false (h.2 v hv) _
    · cases op <;> cases hatom.atom
  | compare left ops comparators =>
    simp only [Expr.isReadable, Bool.and_eq_true, Expr.areReadable_iff, beq_iff_eq] at h
    have hleft := hat left (by simp [Expr.children]) false h.1.2 .bitOr
    have hops : ops ≠ [] := by
      rintro rfl
      cases h.1.1.1
    rw [Expr.inks_compare]
    refine Part.mono (hleft.append (Part.comparison fun x hx => ?_) fun rest => ?_) fun hatom => by
      cases hatom.atom
    · obtain ⟨v, hv, rfl⟩ := List.mem_map.1 hx
      exact hat v (by simp [Expr.children, hv]) false (h.2 v hv) _
    · have hlength := h.1.1.2
      rcases ops with _ | ⟨op, ops⟩
      · exact (hops rfl).elim
      · rcases comparators with _ | ⟨x, xs⟩
        · cases hlength
        · exact behind_gap False _
  | «attribute» value attr =>
    simp only [Expr.isReadable, Bool.and_eq_true, Bool.not_eq_true'] at h
    exact ((ih value (by simp [Expr.children]) false h.2).dotted h.1.2 h.1.1).mono fun _ => trivial
  | subscript value index =>
    rw [Expr.isReadable, Bool.and_eq_true] at h
    have hvalue := hat value (by simp [Expr.children]) false h.1 .atom
    have hindex := hat index (by simp [Expr.children]) false h.2 .test
    exact Part.mono (hvalue.append (hindex.bracketed (c := '[') (d := ']') (by decide) (by decide)
      (by decide) (by decide) ⟨by decide, fun h => absurd h (by decide)⟩) fun rest =>
      behind_opening (c := '[') False (by decide) (by decide) _) fun _ => trivial
  | starred value =>
    rw [Expr.isReadable, Bool.and_eq_true] at h
    have hvalue := hat value (by simp [Expr.children]) false h.2 .bitOr
    have hlead := hleads value (by simp [Expr.children]) h.2 .bitOr
    exact Part.mono (hvalue.prefixed (by decide) (by decide) hlead) fun hatom => by cases hatom.atom
  | tuple elements =>
    rw [Expr.isReadable, Expr.areReadable_iff] at h
    rw [Expr.inks_tuple]
    refine (Part.tuple fun x hx => ?_).parenthesized.mono fun _ => trivial
    obtain ⟨v, hv, rfl⟩ := List.mem_map.1 hx
    exact hat v hv true (h v hv) _
  | list elements =>
    rw [Expr.isReadable, Expr.areReadable_iff] at h
    rw [Expr.inks_list]
    refine ((Part.commas fun x hx => ?_).bracketed (c := '[') (d := ']') (by decide) (by decide)
      (by decide) (by decide) ⟨by decide, fun h => absurd h (by decide)⟩).mono fun _ => trivial
    obtain ⟨v, hv, rfl⟩ := List.mem_map.1 hx
    exact hat v hv true (h v hv) _
  | dict keys values =>
    simp only [Expr.isReadable, Bool.and_eq_true, Expr.areReadable_iff, Expr.areReadableKeys_iff] at h
    rw [Expr.inks_dict]
    refine ((Part.commas fun x hx => ?_).bracketed (c := '{') (d := '}') (by decide) (by decide)
      (by decide) (by decide) ⟨by decide, fun h => absurd h (by decide)⟩).mono fun _ => trivial
    obtain ⟨⟨k, v⟩, hkv, rfl⟩ := List.mem_map.1 hx
    have hv := (List.of_mem_zip hkv).2
    have hk := (List.of_mem_zip hkv).1
    refine Expr.legible_entry (h.2 v hv) (fun e he => ?_)
      (hat v (by simp [Expr.children, hv]) false (h.2 v hv))
    cases he
    exact hat e (by simp [Expr.children, hk]) false (h.1.2 e hk) .test
  | captured kind source =>
    obtain ⟨-, word, rfl, hword⟩ := Expr.captured_cases h
    rw [Expr.inks, filterMap_char_ofChars]
    refine fun stack rest hrest hbehind => .captured hword.toSnippet (fun c hc => ?_) hrest
    refine ⟨(hbehind c hc).1, fun hdot => ?_⟩
    have hdotted := (hbehind c hc).2 hdot
    exact hword.dot hdotted.atom (by simpa [Expr.isEllipsis] using hdotted.ellipsis)
  | formatted _ | foreign _ => cases h

end Refactory
