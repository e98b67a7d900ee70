import Refactory.Proofs.Grammar.Enclosed

/-! # Expressions are read alike wherever they stand

The readers of every strength agree on stretches of tokens that are alike, in front of marks that neither
go on with an expression nor begin one (`readers_agree`). -/

namespace Refactory.Grammar

variable {P : Places} {B : Mark → Prop} {colon : Bool} {k : Nat} {r r' : Readers}

/-! ## String literals -/

/-- No string stands behind a stretch, with which one at its end would be joined. -/
def Unjoined (B : Mark → Prop) : Prop := ∀ l : Lexeme, l.isString = true → ¬ B l.mark

theorem Stops.unjoined (h : Stops B) : Unjoined B := fun _ hl => h.string hl

/-- Literals without fields and with the same characters. -/
structure LiteralAlike (x y : StringMarks × Passage) : Prop where
  marks : x.1 = y.1
  formatted : x.1.formatted = false
  body : x.2.chars.map (·.char) = y.2.chars.map (·.char)

theorem stringToken_agrees (hB : Unjoined B) :
    Agrees P B colon k 1 LiteralAlike stringToken stringToken := by
  refine Agrees.advance (fun l l' hl _ => ?_) (fun l hl _ => ?_) fun l hl _ => ?_
  · cases hl with
    | refl hstring =>
      cases l with
      | string marks body => cases hstring
      | _ => exact .fail
    | string hmarks hbody => exact .pure ⟨rfl, hmarks, hbody⟩
  · cases l with
    | string marks body => cases hl
    | _ => exact ⟨rfl, rfl⟩
  · cases l with
    | string marks body => exact (hB _ rfl hl).elim
    | _ => exact ⟨rfl, rfl⟩

/-- The same results one by one give the same results together. -/
theorem mapM_congr₂ {α β γ : Type} {f : α → Option γ} {g : β → Option γ} {xs : List α} {ys : List β}
    (h : List.Forall₂ (fun x y => f x = g y) xs ys) : xs.mapM f = ys.mapM g := by
  induction h with
  | nil => rfl
  | cons hxy _ ih => rw [List.mapM_cons, List.mapM_cons, hxy, ih]

/-- The bytes of a literal. -/
def literalBytes (x : StringMarks × Passage) : Option (List Nat) :=
  unescapeBytes x.1.raw (x.2.chars.map (·.char))

/-- The string that parts are if they hold no field. -/
def plainString (unicode : Bool) : List Part → Option Term
  | [] => some (.string [] unicode)
  | [.text value] => some (.string value unicode)
  | _ => none

theorem literalParts_plain (r : Readers) {marks : StringMarks} (h : marks.formatted = false)
    (body : Passage) : literalParts r marks body =
      (literalValue marks.raw (body.chars.map (·.char))).map (Part.consText · []) :=
  if_neg (by rw [h]; exact Bool.false_ne_true)

theorem joinLiterals_eq (r : Readers) (span : Span) (xs : List (StringMarks × Passage)) :
    joinLiterals r span xs = (
      if xs.all (·.1.bytes) then do return .bytes span (← xs.mapM literalBytes).flatten
      else if xs.any (·.1.bytes) then none
      else do
        let parts ← xs.mapM fun x => literalParts r x.1 x.2
        if xs.any (·.1.formatted) then return .formatted span (parts.foldr Part.append [])
        else plainString ((xs.head?.map (·.1.unicode)).getD false) (parts.foldr Part.append [])) :=
  rfl

section

variable {xs ys : List (StringMarks × Passage)} (h : List.Forall₂ LiteralAlike xs ys)

include h

theorem all_alike (p : StringMarks → Bool) : xs.all (p ·.1) = ys.all (p ·.1) := by
  induction h with
  | nil => rfl
  | cons hxy _ ih => rw [List.all_cons, List.all_cons, hxy.marks, ih]

theorem any_alike (p : StringMarks → Bool) : xs.any (p ·.1) = ys.any (p ·.1) := by
  induction h with
  | nil => rfl
  | cons hxy _ ih => rw [List.any_cons, List.any_cons, hxy.marks, ih]

theorem not_formatted : ys.any (·.1.formatted) = false := by
  induction h with
  | nil => rfl
  | cons hxy _ ih => rw [List.any_cons, ← hxy.marks, hxy.formatted, ih, Bool.or_false]

/-- Without fields, it does not matter how expressions in fields are read. -/
theorem joinLiterals_alike {s s' : Span} (hs : s.Alike P s') :
    Option.Rel (Term.Alike P) (joinLiterals r s xs) (joinLiterals r' s' ys) := by
  have hbytes : xs.mapM literalBytes = ys.mapM literalBytes :=
    mapM_congr₂ (h.imp fun x y hxy => by rw [literalBytes, literalBytes, hxy.marks, hxy.body])
  have hparts : (xs.mapM fun x => literalParts r x.1 x.2) =
      ys.mapM fun x => literalParts r' x.1 x.2 :=
    mapM_congr₂ (h.imp fun x y hxy => by
      rw [literalParts_plain r hxy.formatted, literalParts_plain r' (hxy.marks ▸ hxy.formatted),
        hxy.marks, hxy.body])
  have hhead : xs.head?.map (·.1.unicode) = ys.head?.map (·.1.unicode) := by
    cases h with
    | nil => rfl
    | cons hxy _ => rw [List.head?_cons, List.head?_cons, Option.map_some, Option.map_some, hxy.marks]
  have hwhole : ∀ {x y : Option Term}, x = y → (∀ t ∈ x, ∃ value unicode, t = .string value unicode) →
      Option.Rel (Term.Alike P) x y := by
    rintro x _ rfl hx
    cases x with
    | none => exact .none
    | some t =>
      obtain ⟨value, unicode, rfl⟩ := hx t rfl
      exact .some (.whole ⟨rfl, rfl⟩ rfl rfl rfl rfl rfl)
  rw [joinLiterals_eq, joinLiterals_eq, all_alike h (·.bytes), any_alike h (·.bytes),
    any_alike h (·.formatted), not_formatted h, hbytes, hparts, hhead]
  split
  · cases ys.mapM literalBytes with
    | none => exact .none
    | some values => exact .some (.captured rfl rfl ⟨rfl, hs⟩ rfl rfl rfl rfl rfl)
  split
  · exact .none
  · refine hwhole rfl fun t ht => ?_
    obtain ⟨parts, -, hparts⟩ := Option.bind_eq_some_iff.1 ht
    simp only [Bool.false_eq_true, if_false] at hparts
    unfold plainString at hparts
    split at hparts <;> cases hparts <;> exact ⟨_, _, rfl⟩

end

theorem strings_agree (hB : Unjoined B) :
    Agrees P B colon k 1 (Term.Alike P) (strings r) (strings r') := by
  refine Agrees.here.past fun start start' hstart => ?_
  refine (stringToken_agrees hB).some.also fun xs ys hxys => ?_
  refine (Agrees.spanFrom hstart).next fun s s' hs => ?_
  have hjoined : Option.Rel (Term.Alike P) (joinLiterals r s xs) (joinLiterals r' s' ys) :=
    joinLiterals_alike hxys hs
  generalize joinLiterals r s xs = x at hjoined ⊢
  generalize joinLiterals r' s' ys = y at hjoined ⊢
  cases hjoined with
  | none => exact .fail
  | some htu => exact .pure htu

/-! ## Atoms -/

/-- What follows a symbol with which an atom begins. -/
def symbolAtom (r : Readers) (start : Position) (s : String) : Reader Term := do
  if s == "True" then return .truth true
  else if s == "False" then return .truth false
  else if s == "None" then return .noneLiteral
  else if s == "..." then return .ellipsis (← spanFrom start)
  else if s == "(" then parenthesis r start
  else if s == "[" then bracket r start
  else if s == "\x7b" then brace r start
  else Reader.fail

theorem symbolAtom_fails {s : String} (h : ∀ text ∈ ["True", "False", "None", "...", "(", "[", "\x7b"],
    s ≠ text) (start : Position) : symbolAtom r start s = Reader.fail := by
  have hne : ∀ text ∈ ["True", "False", "None", "...", "(", "[", "\x7b"], (s == text) = false :=
    fun text htext => beq_eq_false_iff_ne.2 (h text htext)
  simp only [symbolAtom, hne "True" (by decide), hne "False" (by decide), hne "None" (by decide),
    hne "..." (by decide), hne "(" (by decide), hne "[" (by decide), hne "\x7b" (by decide),
    Bool.false_eq_true, if_false]

/-- An atom does not begin with a mark that ends an expression. -/
theorem atom_end {y : Token} (hy : y.lexeme.mark.attach = 0) (ys : List Token) (last : Position) :
    atom r ⟨y :: ys, last⟩ = none := by
  obtain ⟨l, span⟩ := y
  have hatom : ¬ Precedence.atom.rank = 0 := by decide
  cases l with
  | symbol s =>
    have hall : ∀ text ∈ ["True", "False", "None", "...", "(", "[", "\x7b"],
        (Mark.symbol text).attach ≠ 0 := by decide
    change symbolAtom r span.start s ⟨ys, span.stop⟩ = none
    rw [symbolAtom_fails fun text htext heq => hall text htext (heq ▸ hy)]
    rfl
  | name id => exact (hatom hy).elim
  | number value => exact (hatom hy).elim
  | string marks body =>
    dsimp only [Lexeme.mark] at hy
    split at hy <;> exact (hatom hy).elim
  | newline | indent | dedent => rfl

/-- Behind a symbol that opens no bracket, nothing more is taken. -/
theorem symbolAtom_agrees {start start' : Position} (hstart : P.starts start start') {s : String}
    (hs : (Lexeme.symbol s).isPlain = true) :
    Agrees P B colon k 0 (Term.Alike P) (symbolAtom r start s) (symbolAtom r' start' s) := by
  have hbracket : ∀ text, (Lexeme.symbol text).isPlain = false → ¬ (s == text) = true := by
    rintro text htext heq
    rw [eq_of_beq heq, htext] at hs
    cases hs
  refine .ite (fun _ => .pure (.whole ⟨rfl, rfl⟩ rfl rfl rfl rfl rfl)) fun _ => ?_
  refine .ite (fun _ => .pure (.whole ⟨rfl, rfl⟩ rfl rfl rfl rfl rfl)) fun _ => ?_
  refine .ite (fun _ => .pure (.whole ⟨rfl, rfl⟩ rfl rfl rfl rfl rfl)) fun _ => ?_
  refine .ite (fun _ => ?_) fun _ => ?_
  · exact (Agrees.spanFrom hstart).next fun _ _ hspan =>
      .pure (.captured rfl rfl ⟨rfl, hspan⟩ rfl rfl rfl rfl rfl)
  · exact .ite (fun heq => (hbracket _ rfl heq).elim) fun _ =>
      .ite (fun heq => (hbracket _ rfl heq).elim) fun _ =>
        .ite (fun heq => (hbracket _ rfl heq).elim) fun _ => .fail

section

variable (h : ReadersAgree P k r r')

include h

/-- An atom at the start of a stretch. -/
theorem atom_cons (hB : Unjoined B) {t u : Token} {T U Y Z : List Token} {last last' : Position}
    (htu : t.Alike P u) (htail : List.Forall₂ (Token.Alike P) T U) (hbalanced : Balanced colon (t :: T))
    (hlength : (t :: T).length ≤ k + 1) (hfollowed : Followed P B Y Z) (hstop : P.stops last last') :
    Outcome P colon (t :: T).length 1 (Term.Alike P) Y Z (atom r ⟨t :: T ++ Y, last⟩)
      (atom r' ⟨u :: U ++ Z, last'⟩) := by
  obtain ⟨l, span⟩ := t
  obtain ⟨l', span'⟩ := u
  have hbrackets : ∀ {close : String} {p q : Reader Term}, closer? l = some close →
      Encloses P close k (Term.Alike P) p q → Outcome P colon (T.length + 1) 1 (Term.Alike P) Y Z
        (p ⟨T ++ Y, span.stop⟩) (q ⟨U ++ Z, span'.stop⟩) := by
    intro close p q hopen hpq
    have hinside := hpq.behind (f := Pure.pure) (g := Pure.pure) (B := B)
      (fun _ _ hab => .pure hab) hopen hbalanced htail (Nat.le_of_succ_le_succ hlength) hfollowed
      htu.span.stop
    rw [bind_pure, bind_pure] at hinside
    exact hinside.mono (by decide) fun _ _ => id
  have hleaf : ∀ {v w : Term}, v.Alike P w → l.isPlain = true →
      Outcome P colon (T.length + 1) 1 (Term.Alike P) Y Z (some (v, ⟨T ++ Y, span.stop⟩))
        (some (w, ⟨U ++ Z, span'.stop⟩)) := fun hvw hplain =>
    .gives hvw htail (hbalanced.tail hplain) (Nat.le_refl _) htu.span.stop
  have hl : l.Alike l' := htu.lexeme
  cases hl with
  | string _ _ => exact strings_agree hB _ _ _ _ _ _ (.cons htu htail) hbalanced hlength hfollowed hstop
  | refl hstring =>
    cases l with
    | string marks body => cases hstring
    | name id => exact hleaf (.whole ⟨rfl, rfl⟩ rfl rfl rfl rfl rfl) rfl
    | number value => exact hleaf (.whole ⟨rfl, rfl⟩ rfl rfl rfl rfl rfl) rfl
    | newline | indent | dedent => exact .fails
    | symbol s =>
      change Outcome P colon (T.length + 1) 1 (Term.Alike P) Y Z
        (symbolAtom r span.start s ⟨T ++ Y, span.stop⟩)
        (symbolAtom r' span'.start s ⟨U ++ Z, span'.stop⟩)
      by_cases hparen : s = "("
      · subst hparen
        exact hbrackets rfl (parenthesis_agrees h htu.span.start)
      by_cases hbracket : s = "["
      · subst hbracket
        exact hbrackets rfl (bracket_agrees h htu.span.start)
      by_cases hbrace : s = "\x7b"
      · subst hbrace
        exact hbrackets rfl (brace_agrees h htu.span.start)
      cases hplain : (Lexeme.symbol s).isPlain with
      | true =>
        exact (symbolAtom_agrees (k := k) htu.span.start hplain _ _ _ _ _ _ htail (hbalanced.tail hplain)
          (Nat.le_of_succ_le_succ hlength) hfollowed htu.span.stop).longer
      | false =>
        have hne : ∀ text ∈ ["True", "False", "None", "...", "(", "[", "\x7b"], s ≠ text := by
          rintro text htext rfl
          simp only [List.mem_cons, List.not_mem_nil, or_false, hparen, hbracket, hbrace] at htext
          obtain rfl | rfl | rfl | rfl := htext <;> cases hplain
        rw [symbolAtom_fails hne, symbolAtom_fails hne]
        exact .fails

theorem atom_agrees (hB : Stops B) :
    Agrees P B colon (k + 1) 1 (Term.Alike P) (atom r) (atom r') := by
  intro T U Y Z last last' halike hbalanced hlength hfollowed hstop
  cases halike with
  | nil =>
    cases hfollowed with
    | mk left right _ =>
      rw [List.nil_append, List.nil_append, atom_end (hB _ left), atom_end (hB _ right)]
      exact .fails
  | cons htu htail =>
    exact atom_cons h hB.unjoined htu htail hbalanced hlength hfollowed hstop

/-! ## Levels of binding strength -/

theorem primary_agrees (hB : Stops B) :
    Agrees P B colon (k + 1) 1 (Term.Alike P) (primary r) (primary r') := by
  refine Agrees.here.past fun start start' hstart => (atom_agrees h hB).also fun t u htu => ?_
  intro T U Y Z last last' halike hbalanced hlength hfollowed hstop
  have hfuel : T.length ≤ (T ++ Y).length := by
    rw [List.length_append]
    exact Nat.le_add_right _ _
  have hfuel' : T.length ≤ (U ++ Z).length := by
    rw [List.length_append, halike.length_eq]
    exact Nat.le_add_right _ _
  exact trailers_agrees h hB hlength hfuel hfuel' hstart htu _ _ _ _ _ _ halike hbalanced
    (Nat.le_refl _) hfollowed hstop

/-- A primary that is read to the end of a stretch in the one place is read in the other up to there,
whatever binds as tightly behind it. -/
theorem primary_rounds (hB : Unjoined B) {t u : Token} {T U ys zs : List Token} {y z : Token}
    {last last' stop' : Position} {v : Term} (htu : t.Alike P u)
    (htail : List.Forall₂ (Token.Alike P) T U) (hbalanced : Balanced colon (t :: T))
    (hlength : (t :: T).length ≤ k + 1) (hfollowed : Followed P B (y :: ys) (z :: zs))
    (hstop : P.stops last last') (hz : z.lexeme.mark.attach < Precedence.atom.rank)
    (hU : primary r' ⟨u :: U ++ z :: zs, last'⟩ = some (v, ⟨z :: zs, stop'⟩)) :
    ∃ t₀ T' l, atom r ⟨t :: T ++ y :: ys, last⟩ = some (t₀, ⟨T' ++ y :: ys, l⟩) ∧
      T'.length < (t :: T).length ∧ Rounds P r t.span.start T' (y :: ys) l t₀ v stop' := by
  have hatom := atom_cons h hB htu htail hbalanced hlength hfollowed hstop
  rw [primary, run_bind] at hU
  obtain ⟨u₀, c, hu₀, hrest⟩ := bind_eq_some.1 hU
  rw [hu₀] at hatom
  generalize hp : atom r ⟨t :: T ++ y :: ys, last⟩ = x at hatom
  cases hatom with
  | gives value alike balanced length stop =>
    exact ⟨_, _, _, rfl, by omega, trailers_rounds h hz htu.span.start value alike balanced
      (by omega) stop hrest⟩

/-- A primary that is read to the end of a stretch is read so in front of whatever binds less tightly. -/
theorem primary_success (hB : Unjoined B) {t u : Token} {T U ys zs : List Token} {y z : Token}
    {last last' stop' : Position} {v : Term} (htu : t.Alike P u)
    (htail : List.Forall₂ (Token.Alike P) T U) (hbalanced : Balanced colon (t :: T))
    (hlength : (t :: T).length ≤ k + 1) (hfollowed : Followed P B (y :: ys) (z :: zs))
    (hstop : P.stops last last') (hy : y.lexeme.mark.attach < Precedence.atom.rank)
    (hz : z.lexeme.mark.attach < Precedence.atom.rank)
    (hU : primary r' ⟨u :: U ++ z :: zs, last'⟩ = some (v, ⟨z :: zs, stop'⟩)) :
    ∃ w stop, primary r ⟨t :: T ++ y :: ys, last⟩ = some (w, ⟨y :: ys, stop⟩) ∧ w.Alike P v ∧
      P.stops stop stop' := by
  obtain ⟨t₀, T', l, ht₀, -, n, w, stop, hn, hw, hstop', hrounds⟩ :=
    primary_rounds h hB htu htail hbalanced hlength hfollowed hstop hz hU
  refine ⟨w, stop, ?_, hw, hstop'⟩
  rw [primary, run_bind]
  simp only [here, List.cons_append, List.head?_cons, Option.map_some, Option.getD_some,
    Option.bind_some]
  rw [run_bind, ← List.cons_append, ht₀]
  obtain ⟨fuel, hfuel⟩ : ∃ fuel, (T' ++ y :: ys).length = fuel + n :=
    ⟨(T' ++ y :: ys).length - n, by rw [List.length_append]; omega⟩
  simp only [Option.bind_some]
  rw [hfuel, hrounds, trailers_end hy]

/-- The same of a primary that can be awaited. -/
theorem awaited_success (hB : Unjoined B) {t u : Token} {T U ys zs : List Token} {y z : Token}
    {last last' stop' : Position} {v : Term} (htu : t.Alike P u)
    (htail : List.Forall₂ (Token.Alike P) T U) (hbalanced : Balanced colon (t :: T))
    (hlength : (t :: T).length ≤ k + 1) (hfollowed : Followed P B (y :: ys) (z :: zs))
    (hstop : P.stops last last') (hy : y.lexeme.mark.attach < Precedence.atom.rank)
    (hz : z.lexeme.mark.attach = 0)
    (hU : awaited r' ⟨u :: U ++ z :: zs, last'⟩ = some (v, ⟨z :: zs, stop'⟩)) :
    ∃ w stop, awaited r ⟨t :: T ++ y :: ys, last⟩ = some (w, ⟨y :: ys, stop⟩) ∧ w.Alike P v ∧
      P.stops stop stop' := by
  have hz' : z.lexeme.mark.attach < Precedence.atom.rank := by
    rw [hz]
    decide
  rw [List.cons_append, awaited, run_bind] at hU
  rw [List.cons_append, awaited, run_bind]
  simp only [here, List.head?_cons, Option.map_some, Option.getD_some, Option.bind_some] at hU ⊢
  by_cases hawait : u.lexeme = .symbol "await"
  · have ht : t.lexeme = .symbol "await" := (htu.lexeme.symbol_iff _).2 hawait
    rw [run_bind, accept_of_head hawait] at hU
    rw [run_bind, accept_of_head ht]
    simp only [Option.bind_some, if_true] at hU ⊢
    obtain ⟨v', c, hv', hspan⟩ := bind_eq_some.1 hU
    obtain ⟨rfl, rfl⟩ := Prod.mk.inj (Option.some.inj hspan)
    have htail' := hbalanced.tail (by rw [ht]; rfl)
    cases htail with
    | nil =>
      rw [List.nil_append, primary, run_bind] at hv'
      simp only [here, List.head?_cons, Option.map_some, Option.getD_some, Option.bind_some] at hv'
      rw [run_bind, atom_end hz] at hv'
      cases hv'
    | cons htu' htail =>
      obtain ⟨w, stop, hw, hwv, hstop'⟩ := primary_success h hB htu' htail htail'
        (Nat.le_of_succ_le hlength) hfollowed htu.span.stop hy hz' hv'
      refine ⟨.await ⟨t.span.start, stop⟩ w, stop, ?_, ?_, hstop'⟩
      · rw [run_bind, hw]
        rfl
      · exact .captured rfl rfl ⟨rfl, htu.span.start, hstop'⟩ rfl rfl rfl rfl rfl
  · have ht : t.lexeme ≠ .symbol "await" := mt (htu.lexeme.symbol_iff _).1 hawait
    rw [run_bind, accept_of_other (by rintro _ ⟨⟩; exact hawait)] at hU
    rw [run_bind, accept_of_other (by rintro _ ⟨⟩; exact ht)]
    simp only [Option.bind_some, Bool.false_eq_true, if_false] at hU ⊢
    exact primary_success h hB htu htail hbalanced hlength hfollowed hstop hy hz' hU

theorem awaited_agrees (hB : Stops B) :
    Agrees P B colon (k + 1) 1 (Term.Alike P) (awaited r) (awaited r') := by
  refine Agrees.here.past fun start start' hstart => ?_
  refine .ifAccept (Nat.le_succ _) rfl (hB.not (by decide)) ?_ (primary_agrees h hB)
  exact (primary_agrees h hB).next fun _ _ _ => (Agrees.spanFrom hstart).next fun _ _ hspan =>
    .pure (.captured rfl rfl ⟨rfl, hspan⟩ rfl rfl rfl rfl rfl)

theorem power_agrees (hB : Stops B) :
    Agrees P B colon (k + 1) 1 (Term.Alike P) (power r) (power r') := by
  refine (awaited_agrees h hB).first (Nat.le_refl _) fun t u htu => ?_
  refine .ifAccept (Nat.le_succ k) rfl (hB.not (by decide)) ?_ (.pure htu)
  exact (h .factor hB).next fun _ _ _ => .pure (.whole ⟨rfl, rfl⟩ rfl rfl rfl rfl rfl)

/-- A power behind the sign that comes next, if there is one. -/
def signedPower (r : Readers) : Option UnaryOp → Reader Term
  | some op => do
    let _ ← advance
    return .unary op (← r .factor)
  | none => power r

omit h in
theorem factor_symbol (s : String) (span : Span) (ts : List Token) (last : Position) :
    factor r ⟨⟨.symbol s, span⟩ :: ts, last⟩ =
      signedPower r (sign? s) ⟨⟨.symbol s, span⟩ :: ts, last⟩ := rfl

omit h in
theorem factor_other {l : Lexeme} (hl : ∀ s, l = .symbol s → sign? s = none) (span : Span)
    (ts : List Token) (last : Position) :
    factor r ⟨⟨l, span⟩ :: ts, last⟩ = power r ⟨⟨l, span⟩ :: ts, last⟩ := by
  cases l with
  | symbol s => rw [factor_symbol, hl s rfl, signedPower]
  | _ => rfl

omit h in
theorem sign_eq_some {s : String} {op : UnaryOp} (hs : sign? s = some op) : s ∈ ["+", "-", "~"] := by
  rw [sign?] at hs
  have htoken : op.token = s := by simpa using List.find?_some hs
  have hmem := List.mem_of_find?_eq_some hs
  rw [← htoken]
  revert hmem
  cases op <;> decide

theorem factor_agrees (hB : Stops B) :
    Agrees P B colon (k + 1) 1 (Term.Alike P) (factor r) (factor r') := by
  intro T U Y Z last last' halike hbalanced hlength hfollowed hstop
  have hpower := power_agrees h hB _ _ _ _ _ _ halike hbalanced hlength hfollowed hstop
  cases halike with
  | nil =>
    cases hfollowed with
    | @mk y z ys zs left right _ =>
      have hend : ∀ {l : Lexeme}, B l.mark → ∀ s, l = .symbol s → sign? s = none := by
        rintro l hl s rfl
        refine Option.eq_none_iff_forall_ne_some.2 fun op hs => ?_
        have hall : ∀ text ∈ ["+", "-", "~"], (Mark.symbol text).attach ≠ 0 := by decide
        exact hall s (sign_eq_some hs) (hB _ hl)
      rw [List.nil_append, List.nil_append] at hpower ⊢
      obtain ⟨l, span⟩ := y
      obtain ⟨l', span'⟩ := z
      rw [factor_other (hend left), factor_other (hend right)]
      exact hpower
  | @cons t u T U htu htail =>
    obtain ⟨l, span⟩ := t
    obtain ⟨l', span'⟩ := u
    have hl : l.Alike l' := htu.lexeme
    rw [List.cons_append, List.cons_append] at hpower ⊢
    cases hl with
    | string _ _ => exact hpower
    | refl hstring =>
      cases l with
      | symbol s =>
        rw [factor_symbol, factor_symbol]
        cases hs : sign? s with
        | none => exact hpower
        | some op =>
          have hplain : (Lexeme.symbol s).isPlain = true := by
            have hall : ∀ text ∈ ["+", "-", "~"], (Lexeme.symbol text).isPlain = true := by decide
            exact hall s (sign_eq_some hs)
          have hoperand : Agrees P B colon k 0 (Term.Alike P) (do return .unary op (← r .factor))
              (do return .unary op (← r' .factor)) :=
            (h .factor hB).next fun _ _ _ => .pure (.whole ⟨rfl, rfl⟩ rfl rfl rfl rfl rfl)
          exact (hoperand _ _ _ _ _ _ htail (hbalanced.tail hplain)
            (Nat.le_of_succ_le_succ hlength) hfollowed htu.span.stop).longer
      | _ => exact hpower

/-- The operator that a symbol stands for, if it is one of those. -/
def operatorOf (ops : List BinaryOp) : Lexeme → Option BinaryOp
  | .symbol s => ops.find? (·.token == s)
  | _ => none

/-- Takes the operator, or fails. -/
def Reader.ofOption {α : Type} : Option α → Reader α
  | Option.some a => Pure.pure a
  | none => Reader.fail

omit h in
theorem operator_eq (ops : List BinaryOp) :
    operator ops = advance >>= fun l => Reader.ofOption (operatorOf ops l) := by
  refine congrArg (advance >>= ·) (funext fun l => ?_)
  cases l with
  | symbol s =>
    simp only [operatorOf]
    cases ops.find? (·.token == s) <;> rfl
  | _ => rfl

omit h in
theorem operatorOf_eq_some {ops : List BinaryOp} {l : Lexeme} {op : BinaryOp}
    (hl : operatorOf ops l = some op) : l = .symbol op.token := by
  cases l with
  | symbol s =>
    have htoken : op.token = s := by simpa using List.find?_some hl
    rw [htoken]
  | _ => cases hl

omit h in
theorem operator_agrees (hB : Stops B) (ops : List BinaryOp) :
    Agrees P B colon k 1 (· = ·) (operator ops) (operator ops) := by
  rw [operator_eq]
  have hnone : ∀ l, (∀ op : BinaryOp, l ≠ .symbol op.token) → ∀ c : Cursor,
      Reader.ofOption (operatorOf ops l) c = none ∧ Reader.ofOption (operatorOf ops l) c = none := by
    intro l hl c
    have hop : operatorOf ops l = none :=
      Option.eq_none_iff_forall_ne_some.2 fun op hop => hl op (operatorOf_eq_some hop)
    rw [hop]
    exact ⟨rfl, rfl⟩
  refine Agrees.advance (fun l l' hl _ => ?_) (fun l hl => hnone l ?_) fun l hl => hnone l ?_
  · cases hl with
    | string _ _ => exact .fail
    | refl _ =>
      cases hop : operatorOf ops l with
      | none => exact .fail
      | some op => exact .pure rfl
  · rintro op rfl
    cases op <;> cases hl
  · rintro op rfl
    have hattach : ∀ op : BinaryOp, (Mark.symbol op.token).attach ≠ 0 := fun op => by
      cases op <;> decide
    exact hattach op (hB _ hl)

omit h in
theorem foldl_alike {xs ys : List (BinaryOp × Term)}
    (hxys : List.Forall₂ (fun x y => x.1 = y.1 ∧ x.2.Alike P y.2) xs ys) {t u : Term}
    (htu : t.Alike P u) : (xs.foldl (fun t (op, v) => Term.binary t op v) t).Alike P
      (ys.foldl (fun t (op, v) => Term.binary t op v) u) := by
  induction hxys generalizing t u with
  | nil => exact htu
  | cons _ _ ih => exact ih (.whole ⟨rfl, rfl⟩ rfl rfl rfl rfl rfl)

omit h in
theorem leftGrouped_agrees (hB : Stops B) {operand operand' : Reader Term} {n : Nat}
    (hoperand : Agrees P B colon n 1 (Term.Alike P) operand operand') (ops : List BinaryOp) :
    Agrees P B colon n 1 (Term.Alike P) (leftGrouped operand ops) (leftGrouped operand' ops) := by
  refine hoperand.also fun t u htu => ?_
  have hpair : Agrees P B colon n 1 (fun x y : BinaryOp × Term => x.1 = y.1 ∧ x.2.Alike P y.2)
      (do
        let op ← operator ops
        return (op, ← operand))
      (do
        let op ← operator ops
        return (op, ← operand')) := by
    refine (operator_agrees hB ops).also fun op op' hop => ?_
    exact hoperand.next fun v w hvw => .pure ⟨hop, hvw⟩
  exact hpair.many.next fun xs ys hxys => .pure (foldl_alike hxys htu)

theorem bitOr_agrees (hB : Stops B) :
    Agrees P B colon (k + 1) 1 (Term.Alike P) (bitOr r) (bitOr r') := by
  have hfactor : Agrees P B colon (k + 1) 1 (Term.Alike P) (factor r) (factor r') :=
    factor_agrees h hB
  have hterm := leftGrouped_agrees hB hfactor [.mult, .div, .mod, .floorDiv, .matMult]
  have hshift := leftGrouped_agrees hB (leftGrouped_agrees hB hterm [.add, .sub]) [.lshift, .rshift]
  exact leftGrouped_agrees hB (leftGrouped_agrees hB (leftGrouped_agrees hB hshift [.bitAnd])
    [.bitXor]) [.bitOr]

/-- What follows the symbol with which an operator of a comparison begins. -/
def compareRest (s : String) : Reader CompareOp := do
  if s == "is" then
    if ← accept "not" then return .notSame else return .same
  else if s == "not" then
    expect "in"
    return .notMember
  else Reader.ofOption (CompareOp.all.find? (·.token == s))

/-- What follows the lexeme with which an operator of a comparison begins. -/
def compareLexeme : Lexeme → Reader CompareOp
  | .symbol s => compareRest s
  | _ => Reader.fail

omit h in
theorem compareOperator_eq : compareOperator = advance >>= compareLexeme := by
  refine congrArg (advance >>= ·) (funext fun l => ?_)
  cases l with
  | symbol s =>
    simp only [compareLexeme, compareRest]
    cases CompareOp.all.find? (·.token == s) <;> rfl
  | _ => rfl

omit h in
theorem compareRest_fails {s : String} (hs : ∀ text ∈ ["is", "not", "==", "!=", "<", "<=", ">", ">=",
    "is not", "in", "not in"], s ≠ text) : compareRest s = Reader.fail := by
  have hfind : CompareOp.all.find? (·.token == s) = none := by
    rw [List.find?_eq_none]
    intro op _ heq
    refine hs op.token ?_ (eq_of_beq heq).symm
    cases op <;> decide
  have hne : ∀ text ∈ ["is", "not"], (s == text) = false := fun text htext =>
    beq_eq_false_iff_ne.2 (hs text (List.mem_append_left ["==", "!=", "<", "<=", ">", ">=",
      "is not", "in", "not in"] htext))
  simp only [compareRest, hne "is" (by decide), hne "not" (by decide), hfind, Bool.false_eq_true,
    if_false]
  rfl

omit h in
theorem compareOperator_agrees (hB : Stops B) :
    Agrees P B colon k 1 (· = ·) compareOperator compareOperator := by
  rw [compareOperator_eq]
  have hnone : ∀ l, (∀ text ∈ ["is", "not", "==", "!=", "<", "<=", ">", ">=", "is not", "in",
      "not in"], l ≠ .symbol text) → ∀ c : Cursor, compareLexeme l c = none ∧ compareLexeme l c = none := by
    intro l hl c
    cases l with
    | symbol s =>
      rw [compareLexeme, compareRest_fails fun text htext heq => hl text htext (congrArg _ heq)]
      exact ⟨rfl, rfl⟩
    | _ => exact ⟨rfl, rfl⟩
  refine Agrees.advance (fun l l' hl _ => ?_) (fun l hl => hnone l ?_) fun l hl => hnone l ?_
  · cases hl with
    | string _ _ => exact .fail
    | refl _ =>
      cases l with
      | symbol s =>
        refine .ite (fun _ => ?_) fun _ => .ite (fun _ => ?_) fun _ => ?_
        · refine .ifAccept (Nat.le_succ _) rfl (hB.not (by decide)) (.pure rfl) (.pure rfl)
        · exact (Agrees.expect rfl (hB.not (by decide))).next fun _ _ _ => .pure rfl
        · cases CompareOp.all.find? (·.token == s) with
          | none => exact .fail
          | some op => exact .pure rfl
      | _ => exact .fail
  · rintro text htext rfl
    revert hl
    revert text
    decide
  · rintro text htext rfl
    have hall : ∀ text ∈ ["is", "not", "==", "!=", "<", "<=", ">", ">=", "is not", "in", "not in"],
        (Mark.symbol text).attach ≠ 0 := by decide
    exact hall text htext (hB _ hl)

theorem comparison_agrees (hB : Stops B) :
    Agrees P B colon (k + 1) 1 (Term.Alike P) (comparison r) (comparison r') := by
  have hoperand : Agrees P B colon (k + 1) 1 (Term.Alike P) (bitOr r) (bitOr r') :=
    bitOr_agrees h hB
  refine hoperand.also fun t u htu => ?_
  have hpair : Agrees P B colon (k + 1) 1 (fun x y : CompareOp × Term => True)
      (do
        let op ← compareOperator
        return (op, ← bitOr r))
      (do
        let op ← compareOperator
        return (op, ← bitOr r')) := by
    refine (compareOperator_agrees hB).also fun op op' hop => ?_
    exact hoperand.next fun v w hvw => .pure trivial
  refine hpair.many.next fun xs ys hxys => ?_
  cases hxys with
  | nil => exact .pure htu
  | cons _ _ => exact .pure (.whole ⟨rfl, rfl⟩ rfl rfl rfl rfl rfl)

theorem inversion_agrees (hB : Stops B) :
    Agrees P B colon (k + 1) 1 (Term.Alike P) (inversion r) (inversion r') := by
  refine .ifAccept (Nat.le_refl _) rfl (hB.not (by decide)) ?_ (comparison_agrees h hB)
  exact (h .inversion hB).next fun _ _ _ => .pure (.whole ⟨rfl, rfl⟩ rfl rfl rfl rfl rfl)

omit h in
theorem joined_agrees (hB : Stops B) {operand operand' : Reader Term} {n : Nat}
    (hoperand : Agrees P B colon n 1 (Term.Alike P) operand operand') (op : BoolOp) :
    Agrees P B colon n 1 (Term.Alike P) (joined operand op) (joined operand' op) := by
  have hitem : Agrees P B colon n 1 (Term.Alike P) (do expect op.token; operand)
      (do expect op.token; operand') := by
    refine (Agrees.expect ?_ (hB.not ?_)).also fun _ _ _ => hoperand.free
    · cases op <;> rfl
    · cases op <;> decide
  refine hoperand.also fun t u htu => hitem.many.next fun xs ys hxys => ?_
  cases hxys with
  | nil => exact .pure htu
  | cons _ _ => exact .pure (.whole ⟨rfl, rfl⟩ rfl rfl rfl rfl rfl)

theorem disjunction_agrees (hB : Stops B) :
    Agrees P B colon (k + 1) 1 (Term.Alike P) (disjunction r) (disjunction r') :=
  joined_agrees hB (joined_agrees hB (inversion_agrees h hB) .conj) .disj

theorem expression_agrees (hB : Stops B) :
    Agrees P B colon (k + 1) 1 (Term.Alike P) (expression r) (expression r') := by
  refine Agrees.here.past fun start start' hstart => ?_
  refine .ifNext (hB.not (by decide)) (lambda_agrees h hB) ?_
  refine (disjunction_agrees h hB).first (Nat.le_refl _) fun t u htu => ?_
  refine .ifAccept (Nat.le_succ k) rfl (hB.not (by decide)) ?_ (.pure htu)
  refine ((disjunction_agrees h hB).mono (Nat.le_succ k) (Nat.le_refl 1) fun _ _ => id).next
    fun _ _ _ => ?_
  refine (Agrees.expect rfl (hB.not (by decide))).next fun _ _ _ => ?_
  exact (h .expression hB).next fun _ _ _ => (Agrees.spanFrom hstart).next fun _ _ hspan =>
    .pure (.captured rfl rfl ⟨rfl, hspan⟩ rfl rfl rfl rfl rfl)

/-- With readers that agree on shorter stretches, the readers of every level agree. -/
theorem atLevel_agrees : ReadersAgree P (k + 1) (atLevel r) (atLevel r') := by
  intro level B colon hB
  cases level with
  | expression => exact expression_agrees h hB
  | disjunction => exact disjunction_agrees h hB
  | inversion => exact inversion_agrees h hB
  | bitOr => exact bitOr_agrees h hB
  | factor => exact factor_agrees h hB
  | primary => exact primary_agrees h hB

end

/-- Readers that fail at the end of a stretch agree on stretches of no tokens. -/
theorem readersAgree_zero (h : ∀ level {B : Mark → Prop} {Y Z : List Token} {last last' : Position},
    Stops B → Followed P B Y Z → P.stops last last' →
    r level ⟨Y, last⟩ = none ∧ r' level ⟨Z, last'⟩ = none) : ReadersAgree P 0 r r' := by
  intro level B colon hB T U Y Z last last' halike _ hlength hfollowed hstop
  obtain rfl := List.length_eq_zero_iff.1 (Nat.le_zero.1 hlength)
  cases halike
  rw [List.nil_append, List.nil_append, (h level hB hfollowed hstop).1, (h level hB hfollowed hstop).2]
  exact .fails

/-- At the end of a stretch there is no expression. -/
theorem readers_end (n : Nat) (level : Level) (hB : Stops B) {Y Z : List Token}
    {last last' : Position} (hfollowed : Followed P B Y Z) (hstop : P.stops last last') :
    readers n level ⟨Y, last⟩ = none ∧ readers n level ⟨Z, last'⟩ = none := by
  induction n generalizing level B Y Z last last' with
  | zero => exact ⟨rfl, rfl⟩
  | succ n ih =>
    have hzero : ReadersAgree P 0 (readers n) (readers n) :=
      readersAgree_zero fun level _ _ _ _ _ hB hfollowed hstop => ih level hB hfollowed hstop
    have hlevel : Agrees P B true 1 1 (Term.Alike P) (readers (n + 1) level) (readers (n + 1) level) :=
      atLevel_agrees hzero level hB
    exact hlevel.fails_at_end hfollowed hstop

/-- Readers that take expressions of some depth agree on what has no more tokens. -/
theorem readers_agree {n n' : Nat} (hn : k ≤ n) (hn' : k ≤ n') :
    ReadersAgree P k (readers n) (readers n') := by
  induction k generalizing n n' with
  | zero =>
    exact readersAgree_zero fun level _ _ _ _ _ hB hfollowed hstop =>
      ⟨(readers_end n level hB hfollowed hstop).1, (readers_end n' level hB hfollowed hstop).2⟩
  | succ k ih =>
    obtain ⟨n, rfl⟩ := Nat.exists_eq_add_one_of_ne_zero (Nat.ne_zero_of_lt hn)
    obtain ⟨n', rfl⟩ := Nat.exists_eq_add_one_of_ne_zero (Nat.ne_zero_of_lt hn')
    exact atLevel_agrees (ih (Nat.le_of_succ_le_succ hn) (Nat.le_of_succ_le_succ hn'))

end Refactory.Grammar
