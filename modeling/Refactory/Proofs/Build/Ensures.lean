import Refactory.Proofs.Grammar.Forward

/-! # What readers give

`Ensures` says what the result of a reader satisfies if the tokens that come next keep to the lines up
to `n`; it is handed on along sequences, choices and repetitions. A parameter list has no more defaults
than parameters for them (`params_aligned`). -/

namespace Refactory.Grammar

/-! ## What a reader gives -/

/-- Of the tokens that come next, those that are no layout begin on one of the first lines. -/
def Cursor.Until (n : Nat) (c : Cursor) : Prop :=
  ∀ t ∈ c.rest, t.lexeme.isLayout = false → t.span.start.line ≤ n

/-- What a reader gives from a place satisfies `Q`. -/
def EnsuresAt {α : Type} (c : Cursor) (p : Reader α) (Q : α → Prop) : Prop :=
  ∀ a c', p c = some (a, c') → Q a

/-- What a reader gives satisfies `Q` if the tokens that come next begin on the first lines. -/
def Ensures {α : Type} (n : Nat) (p : Reader α) (Q : α → Prop) : Prop :=
  ∀ c : Cursor, c.Until n → EnsuresAt c p Q

namespace EnsuresAt

variable {α β : Type} {c : Cursor} {Q : β → Prop}

theorem ite {b : Prop} [Decidable b] {p q : Reader β} (hp : EnsuresAt c p Q)
    (hq : EnsuresAt c q Q) : EnsuresAt c (if b then p else q) Q := by
  split
  · exact hp
  · exact hq

theorem here {f : Position → Reader β}
    (h : EnsuresAt c (f ((c.rest.head?.map (·.span.start)).getD c.last)) Q) :
    EnsuresAt c (Grammar.here >>= f) Q := fun b c' hb => by
  obtain ⟨_, _, hhere, hb⟩ := bind_eq_some.1 hb
  cases hhere
  exact h b c' hb

theorem peek {f : Option Lexeme → Reader β}
    (h : EnsuresAt c (f (c.rest.head?.map (·.lexeme))) Q) :
    EnsuresAt c (Grammar.peek >>= f) Q := fun b c' hb => by
  obtain ⟨_, _, hpeek, hb⟩ := bind_eq_some.1 hb
  cases hpeek
  exact h b c' hb

end EnsuresAt

namespace Ensures

variable {α β : Type} {n : Nat} {p q : Reader α} {f : α → Reader β} {R : α → Prop} {Q : β → Prop}

theorem pure {b : β} (h : Q b) : Ensures n (Pure.pure b) Q := fun _ _ _ _ hp => by
  cases hp
  exact h

theorem fail : Ensures n Reader.fail Q := fun _ _ _ _ hp => by cases hp

theorem bind [Moves p] (hp : Ensures n p R) (hf : ∀ a, R a → Ensures n (f a) Q) :
    Ensures n (p >>= f) Q := fun c hc b c'' h => by
  obtain ⟨a, c', ha, hb⟩ := bind_eq_some.1 h
  exact hf a (hp c hc a c' ha) c' (fun t ht => hc t ((Moves.suffix ha).mem ht)) b c'' hb

/-- Nothing has to be known about what is read on the way. -/
theorem skip [Moves p] (hf : ∀ a, Ensures n (f a) Q) : Ensures n (p >>= f) Q :=
  bind (R := fun _ => True) (fun _ _ _ _ _ => trivial) fun a _ => hf a

theorem ite {b : Prop} [Decidable b] {p q : Reader β} (hp : Ensures n p Q) (hq : Ensures n q Q) :
    Ensures n (if b then p else q) Q := fun c hc => (hp c hc).ite (hq c hc)

theorem or {p q : Reader β} (hp : Ensures n p Q) (hq : Ensures n q Q) :
    Ensures n (p.or q) Q := fun c hc b c' h => by
  unfold Reader.or at h
  split at h
  · rename_i hfirst
    cases h
    exact hp c hc b c' hfirst
  · exact hq c hc b c' h

/-- What begins with a token that is no layout begins on one of the first lines. -/
theorem start {f : Position → Reader β} [∀ at_, Begins (f at_)]
    (hf : ∀ at_ : Position, at_.line ≤ n → Ensures n (f at_) Q) : Ensures n (here >>= f) Q :=
  fun c hc b c' h => by
    obtain ⟨at_, c'', hhere, hb⟩ := bind_eq_some.1 h
    cases hhere
    obtain ⟨t, ht, hlayout⟩ := Begins.begins hb
    refine hf _ ?_ c hc b c' hb
    rw [ht]
    exact hc t (List.mem_of_mem_head? ht) hlayout

theorem spanFrom {start : Position} {f : Span → Reader β}
    (hf : ∀ stop, Ensures n (f ⟨start, stop⟩) Q) : Ensures n (Grammar.spanFrom start >>= f) Q :=
  fun c hc b c' h => by
    obtain ⟨span, c'', hspan, hb⟩ := bind_eq_some.1 h
    cases hspan
    exact hf _ c hc b c' hb

theorem manyFuel [Moves p] (hp : Ensures n p R) (fuel : Nat) :
    Ensures n (Reader.manyFuel p fuel) (∀ a ∈ ·, R a) := by
  induction fuel with
  | zero => exact pure (List.forall_mem_nil _)
  | succ fuel ih =>
    intro c hc as after h
    unfold Reader.manyFuel at h
    split at h
    · cases h
      exact List.forall_mem_nil _
    · rename_i a c' ha
      obtain ⟨⟨as, after⟩, has, hx⟩ := Option.map_eq_some_iff.1 h
      cases hx
      exact List.forall_mem_cons.2 ⟨hp c hc a c' ha,
        ih c' (fun t ht => hc t ((Moves.suffix ha).mem ht)) as after has⟩

theorem many [Moves p] (hp : Ensures n p R) : Ensures n (Reader.many p) (∀ a ∈ ·, R a) :=
  fun c hc => hp.manyFuel _ c hc

theorem some [Moves p] (hp : Ensures n p R) : Ensures n (Reader.some p) (∀ a ∈ ·, R a) :=
  hp.bind fun _ ha => hp.many.bind fun _ has => pure (List.forall_mem_cons.2 ⟨ha, has⟩)

end Ensures

/-! ## Parameter lists -/

/-- No more defaults than positional parameters, and one default or its absence for each keyword-only
parameter. -/
def Params.Aligned : Params → Prop
  | .mk positionalOnly positional _ keywordOnly keywordDefaults _ defaults =>
    defaults.length ≤ positionalOnly.length + positional.length ∧
      keywordDefaults.length = keywordOnly.length

/-- The same of a parameter list that is not yet read to its end; the positional-only parameters are
known when the slash has been read. -/
structure ParamsSoFar.Aligned (p : ParamsSoFar) : Prop where
  defaults : p.defaults.length ≤ p.positionalOnly.length + p.positional.length
  keywordDefaults : p.keywordDefaults.length = p.keywordOnly.length
  slash : p.slash = false → p.positionalOnly = []

theorem ParamsSoFar.Aligned.finish {p : ParamsSoFar} {ps : Params} (h : p.Aligned)
    (hps : p.finish = some ps) : ps.Aligned := by
  unfold ParamsSoFar.finish at hps
  split at hps
  · cases hps
  · cases hps
    exact ⟨h.defaults, h.keywordDefaults⟩

section

variable {n : Nat} {r : Readers} [∀ level, InLine (r level)]

/-- A parameter is added together with its default. -/
theorem namedParam_aligned {p : ParamsSoFar} (h : p.Aligned) (name : ParamName)
    (default : Option Term) : Ensures n (if p.star then
        return { p with
          keywordOnly := p.keywordOnly ++ [name]
          keywordDefaults := p.keywordDefaults ++ [default] }
      else
        match default with
        | some d =>
          return { p with positional := p.positional ++ [name], defaults := p.defaults ++ [d] }
        | none =>
          if p.defaults.isEmpty then return { p with positional := p.positional ++ [name] }
          else Reader.fail) ParamsSoFar.Aligned := by
  obtain ⟨hdefaults, hkeywords, hslash⟩ := h
  refine .ite (.pure ⟨hdefaults, ?_, hslash⟩) ?_
  · simp only [List.length_append, List.length_singleton, hkeywords]
  · cases default with
    | some d =>
      refine .pure ⟨?_, hkeywords, hslash⟩
      simp only [List.length_append, List.length_singleton]
      omega
    | none =>
      refine .ite (.pure ⟨?_, hkeywords, hslash⟩) .fail
      simp only [List.length_append, List.length_singleton]
      omega

/-- What is read next fits as well; the slash only moves parameters. -/
theorem paramItem_aligned {p : ParamsSoFar} (h : p.Aligned) (annotated : Bool) :
    Ensures n (paramItem r annotated p) ParamsSoFar.Aligned := by
  have hsame {q : ParamsSoFar} (hq : q = { p with
      star := q.star, varPositional := q.varPositional, varKeyword := q.varKeyword }) :
      q.Aligned := by
    rw [hq]
    exact ⟨h.defaults, h.keywordDefaults, h.slash⟩
  have hmoved : Ensures n (if p.slash || p.star || p.positional.isEmpty then Reader.fail
      else return { p with positionalOnly := p.positional, positional := [], slash := true })
      ParamsSoFar.Aligned := by
    obtain ⟨hdefaults, hkeywords, hslash⟩ := h
    split
    · exact .fail
    · rename_i hfirst
      simp only [Bool.or_eq_true, not_or, Bool.not_eq_true] at hfirst
      rw [hslash hfirst.1.1, List.length_nil, Nat.zero_add] at hdefaults
      exact .pure ⟨hdefaults, hkeywords, fun hopen => Bool.noConfusion hopen⟩
  unfold paramItem
  exact .ite .fail (.skip fun _ => .ite hmoved (.skip fun _ =>
    .ite (.skip fun _ => .pure (hsame rfl)) (.skip fun _ => .ite
      (.ite .fail (.skip fun _ => .ite (.pure (hsame rfl)) (.skip fun _ => .pure (hsame rfl))))
      (.skip fun name => .skip fun _ => .ite (.skip fun _ => namedParam_aligned h name _)
        (.skip fun _ => namedParam_aligned h name _)))))

theorem paramItems_aligned (annotated : Bool) (close : String) (fuel : Nat) {p : ParamsSoFar}
    (h : p.Aligned) : Ensures n (paramItems r annotated close fuel p) ParamsSoFar.Aligned := by
  induction fuel generalizing p with
  | zero => exact .fail
  | succ fuel ih =>
    unfold paramItems
    exact .skip fun _ => .ite (.pure h) ((paramItem_aligned h annotated).bind fun _ hnext =>
      .skip fun _ => .ite (ih hnext) (.skip fun _ => .ite (.pure hnext) .fail))

/-- The defaults of a parameter list that is read fit its parameters. -/
theorem params_aligned (annotated : Bool) (close : String) :
    Ensures n (params r annotated close) Params.Aligned := fun c hc ps c' h => by
  obtain ⟨⟨p, c''⟩, hp, h⟩ := Option.bind_eq_some_iff.1 h
  obtain ⟨ps', hfinish, hx⟩ := Option.bind_eq_some_iff.1 h
  cases hx
  have hempty : ParamsSoFar.Aligned {} := ⟨Nat.le_refl 0, rfl, fun _ => rfl⟩
  exact (paramItems_aligned annotated close _ hempty c hc p _ hp).finish hfinish

end

end Refactory.Grammar
