import Refactory.Proofs.Render.First
import Refactory.Proofs.Render.Suites
import Refactory.Proofs.Tree.Content

/-! # Placeholders

Lenient rendering writes a placeholder for a statement in which something is unsupported, and for
nothing else: its text is the one that strict mode gives to the tree with placeholders in place of
these statements (`Stmt.markedIn`). What stands inside a replaced statement is not looked at, so
the statements that count are those of `Stmt.reachedIn`. An integer that cannot be written gets no
placeholder, even if something unsupported follows it in its statement
(`Module.toText_jammed`); with this exception, `Module.toText_lenient` is the whole account. -/

namespace Refactory

/-! ## Unsupported statements -/

/-- The kinds of what is unsupported in a statement and the expressions that it holds, in the order
of rendering. -/
def Stmt.kinds (s : Stmt) : List Text :=
  s.unsupported?.toList ++ (s.exprs.flatMap Expr.visited).filterMap Expr.unsupported?

/-- Something is unsupported in a statement or in an expression that it holds. -/
def Stmt.isBad (s : Stmt) : Bool := !s.kinds.isEmpty

/-- The placeholder for a statement in which something is unsupported: a comment as a name. -/
def Stmt.standIn? (s : Stmt) : Option Stmt :=
  s.kinds.head?.map fun kind => .expr (.name (placeholder kind)) none

/-- An integer that cannot be written is met before anything unsupported. -/
def Stmt.Jammed (s : Stmt) : Prop :=
  s.isBad = true ∧ (s.faults .lenient).head? = some .tooManyDigits

theorem Stmt.isBad_eq (s : Stmt) : s.isBad = s.standIn?.isSome := by
  rw [Stmt.isBad, Stmt.standIn?]
  cases s.kinds <;> rfl

theorem Stmt.isBad_of_some {s t : Stmt} (h : s.standIn? = some t) : s.isBad = true := by
  rw [Stmt.isBad_eq, h]
  rfl

theorem Stmt.isBad_of_none {s : Stmt} (h : s.standIn? = none) : s.isBad = false := by
  rw [Stmt.isBad_eq, h]
  rfl

theorem Stmt.not_isBad {s : Stmt} : s.isBad = false ↔ s.Supported := by
  rw [Stmt.isBad, Bool.not_eq_false', List.isEmpty_iff, Stmt.kinds, List.append_eq_nil_iff,
    Option.toList_eq_nil_iff, List.filterMap_eq_nil_iff]
  refine and_congr_right fun _ => ⟨fun h e he n hn => ?_, fun h n hn => ?_⟩
  · exact h n (List.mem_flatMap.2 ⟨e, he, (Expr.mem_visited e).2 hn⟩)
  · obtain ⟨e, he, hn⟩ := List.mem_flatMap.1 hn
    exact h e he n ((Expr.mem_visited e).1 hn)

mutual

/-- A statement with placeholders in its blocks. -/
def Stmt.inside : Stmt → Stmt
  | .function head body location => .function head (Stmt.markedIn body) location
  | .classDef head body location => .classDef head (Stmt.markedIn body) location
  | .tryExcept body handlers orelse finalbody location =>
    .tryExcept (Stmt.markedIn body) (Handler.markedIn handlers) (Stmt.markedIn orelse)
      (Stmt.markedIn finalbody) location
  | .importNames names location => .importNames names location
  | .importFrom module names dots location => .importFrom module names dots location
  | .assign targets value location => .assign targets value location
  | .ret value location => .ret value location
  | .pass location => .pass location
  | .expr value location => .expr value location
  | .captured kind source location => .captured kind source location
  | .foreign kind => .foreign kind

/-- A block with placeholders for the outermost statements in which something is unsupported. -/
def Stmt.markedIn : List Stmt → List Stmt
  | [] => []
  | s :: rest => s.standIn?.getD s.inside :: Stmt.markedIn rest

/-- Handlers with placeholders in their bodies. -/
def Handler.markedIn : List Handler → List Handler
  | [] => []
  | .mk type name body :: rest => .mk type name (Stmt.markedIn body) :: Handler.markedIn rest

end

mutual

/-- The statements inside a statement that are not inside an unsupported one, in pre-order. -/
def Stmt.reached : Stmt → List Stmt
  | .function _ body _ => Stmt.reachedIn body
  | .classDef _ body _ => Stmt.reachedIn body
  | .tryExcept body handlers orelse finalbody _ =>
    Stmt.reachedIn body ++ Handler.reachedIn handlers ++ Stmt.reachedIn orelse ++
      Stmt.reachedIn finalbody
  | .importNames .. | .importFrom .. | .assign .. | .ret .. | .pass _ | .expr .. | .captured ..
  | .foreign _ => []

/-- The statements of a block that are not inside an unsupported one, in pre-order. -/
def Stmt.reachedIn : List Stmt → List Stmt
  | [] => []
  | s :: rest => s :: ((if s.isBad then [] else s.reached) ++ Stmt.reachedIn rest)

/-- The statements in the bodies of handlers that are not inside an unsupported one. -/
def Handler.reachedIn : List Handler → List Stmt
  | [] => []
  | .mk _ _ body :: rest => Stmt.reachedIn body ++ Handler.reachedIn rest

end

/-! ## Faults -/

theorem Expr.ownFault?_lenient {e : Expr} (h : e.isPaired = true) :
    e.ownFault? .lenient = some .tooManyDigits ∨
      e.ownFault? .lenient = e.unsupported?.map .unsupported := by
  cases hkind : e.unsupported? with
  | some kind =>
    refine .inr ?_
    cases e <;> cases hkind <;> rfl
  | none =>
    cases hfault : e.ownFault? .lenient with
    | none => exact .inr rfl
    | some f =>
      rcases Expr.ownFault?_cases hfault with ⟨kind, hkind', -⟩ | ⟨-, rfl⟩ | ⟨hunpaired, -⟩
      · cases hkind.symm.trans hkind'
      · exact .inl rfl
      · cases hunpaired.symm.trans h

/-- The first fault of expressions whose lists pair up is an integer that cannot be written, or the
first lack of support among them. -/
theorem Expr.head_faults {es : List Expr} (h : ∀ e ∈ es, e.isPaired = true) :
    (es.filterMap (Expr.ownFault? .lenient)).head? = some .tooManyDigits ∨
      (es.filterMap (Expr.ownFault? .lenient)).head? =
        (es.filterMap Expr.unsupported?).head?.map .unsupported := by
  induction es with
  | nil => exact .inr rfl
  | cons e es ih =>
    rw [List.forall_mem_cons] at h
    rw [List.filterMap_cons, List.filterMap_cons]
    rcases Expr.ownFault?_lenient h.1 with hfault | hfault
    · rw [hfault]
      exact .inl rfl
    · rw [hfault]
      cases e.unsupported? with
      | none => exact ih h.2
      | some kind => exact .inr rfl

theorem Stmt.head_faults {s : Stmt} (h : ∀ e ∈ s.exprs, e.All (·.isPaired = true)) :
    (s.faults .lenient).head? = some .tooManyDigits ∨
      (s.faults .lenient).head? = s.kinds.head?.map .unsupported := by
  have hown : s.ownFault? .lenient = s.unsupported?.map .unsupported := by
    cases s <;> rfl
  have hexprs : s.exprs.flatMap (Expr.faults .lenient) =
      (s.exprs.flatMap Expr.visited).filterMap (Expr.ownFault? .lenient) :=
    (List.filterMap_flatMap ..).symm
  rw [Stmt.faults, Stmt.kinds, hown, hexprs]
  cases s.unsupported? with
  | some kind => exact .inr rfl
  | none =>
    refine Expr.head_faults fun n hn => ?_
    obtain ⟨e, he, hn⟩ := List.mem_flatMap.1 hn
    exact h e he n ((Expr.mem_visited e).1 hn)

/-! ## Two renderings -/

/-- The first result fails only for an integer that cannot be written, and it is the second result
if `clear`; if not, it does fail. -/
def Mirrors {α : Type} (clear : Prop) (r r' : Except Fault α) : Prop :=
  match r with
  | .ok a => clear ∧ r' = .ok a
  | .error f => f = .tooManyDigits ∧ (clear → r' = .error f)

namespace Mirrors

variable {α β : Type} {A B : Prop} {r r' : Except Fault α}

theorem congr (h : Mirrors A r r') (hAB : A ↔ B) : Mirrors B r r' := propext hAB ▸ h

theorem ok (a : α) : Mirrors True (.ok a) (.ok a) := ⟨trivial, rfl⟩

theorem bind {next next' : α → Except Fault β} (h : Mirrors A r r')
    (hnext : ∀ a, Mirrors B (next a) (next' a)) : Mirrors (A ∧ B) (r >>= next) (r' >>= next') := by
  cases r with
  | error f =>
    refine ⟨h.1, fun hclear => ?_⟩
    rw [h.2 hclear.1]
    rfl
  | ok a =>
    obtain ⟨hA, rfl⟩ := h
    exact (hnext a).congr (and_iff_right hA).symm

theorem last {next next' : α → Except Fault β} (h : Mirrors A r r')
    (hnext : ∀ a, ∃ b, next a = .ok b ∧ next' a = .ok b) :
    Mirrors A (r >>= next) (r' >>= next') := by
  have hbind : Mirrors (A ∧ True) (r >>= next) (r' >>= next') := h.bind fun a => by
    obtain ⟨b, hb, hb'⟩ := hnext a
    rw [hb, hb']
    exact ok b
  exact hbind.congr (and_iff_left trivial)

theorem map (h : Mirrors A r r') (g : α → β) : Mirrors A (r.map g) (r'.map g) := by
  cases r with
  | error f =>
    refine ⟨h.1, fun hclear => ?_⟩
    rw [h.2 hclear]
    rfl
  | ok a =>
    obtain ⟨hA, rfl⟩ := h
    exact ⟨hA, rfl⟩

theorem eq_of_clear (h : Mirrors A r r') (hA : A) : r = r' := by
  cases r with
  | error f => exact (h.2 hA).symm
  | ok a => exact h.2.symm

theorem eq_of_not_clear (h : Mirrors A r r') (hA : ¬ A) : r = .error .tooManyDigits := by
  cases r with
  | error f => exact congrArg _ h.1
  | ok a => exact (hA h.1).elim

end Mirrors

/-- What a supported statement blames on itself is an integer that cannot be written. -/
theorem Stmt.Supported.mirrors {s : Stmt} (h : s.Supported)
    (hpaired : ∀ e ∈ s.exprs, e.All (·.isPaired = true)) {α : Type} {r r' : Except Fault α}
    (hblames : Blames (s.Faulty .lenient) r) (heq : r = r') : Mirrors True r r' := by
  subst heq
  cases r with
  | ok a => exact .ok a
  | error f =>
    rcases Stmt.Faulty.cases hpaired hblames with ⟨kind, rfl, -⟩ | ⟨rfl, -⟩
    · exact (h.not_faulty kind hblames).elim
    · exact ⟨rfl, fun _ => rfl⟩

theorem Handler.markedIn_eq (hs : List Handler) :
    Handler.markedIn hs = hs.map fun h => .mk h.type h.name (Stmt.markedIn h.body) := by
  induction hs with
  | nil => rfl
  | cons h hs ih =>
    obtain ⟨type, name, body⟩ := h
    rw [Handler.markedIn, List.map_cons, ih]
    rfl

/-- The lists of the expressions of a statement pair up. -/
def Stmt.Paired (s : Stmt) : Prop := ∀ e ∈ s.exprs, e.All (·.isPaired = true)

/-- What mirrors needs no recovery. -/
theorem Mirrors.recoverLines {A : Prop} {r r' : Except Fault (List Text)} (h : Mirrors A r r')
    (level : Int) :
    Mirrors A (RenderMode.lenient.recoverLines level r)
      (RenderMode.strict.recoverLines level r') := by
  rw [RenderMode.recoverLines, RenderMode.recoverLines, RenderMode.recover_strict]
  cases r with
  | ok lines => exact h
  | error f =>
    obtain ⟨rfl, hr'⟩ := h
    exact ⟨rfl, hr'⟩

/-- A statement in which something is unsupported becomes a placeholder. -/
theorem Stmt.standIn_mirrors {s t : Stmt} (hpaired : s.Paired) (ht : s.standIn? = some t)
    (level : Int) :
    Mirrors (¬ s.Jammed) (RenderMode.lenient.recoverLines level (s.ownLines .lenient level))
      (RenderMode.strict.recoverLines level (t.ownLines .strict level)) := by
  obtain ⟨kind, hkind, rfl⟩ := Option.map_eq_some_iff.1 ht
  have hbad := Stmt.isBad_of_some ht
  have hlines : ∀ f, (s.faults .lenient).head? = some f → s.ownLines .lenient level = .error f := by
    intro f hf
    obtain ⟨rest, hfaults⟩ := List.head?_eq_some_iff.1 hf
    exact Stmt.ownLines_raises (fun e he => e.render_raises .lenient (hpaired e he)) hfaults level
  -- The first fault decides: an integer is not recovered from, a lack of support is.
  rcases Stmt.head_faults hpaired with hjam | hfirst
  · rw [hlines _ hjam]
    exact ⟨rfl, fun hclear => (hclear ⟨hbad, hjam⟩).elim⟩
  · rw [hkind] at hfirst
    rw [hlines _ hfirst]
    refine ⟨?_, rfl⟩
    rintro ⟨-, hjam⟩
    cases hfirst.symm.trans hjam

/-- A statement of a block becomes a placeholder or keeps its place, with placeholders inside. -/
theorem Stmt.placed_mirrors {s : Stmt} (hpaired : s.Paired) (level : Int)
    (hinside : s.Supported → Mirrors (∀ t ∈ s.reached, ¬ t.Jammed) (s.ownLines .lenient level)
      (s.inside.ownLines .strict level)) :
    Mirrors (¬ s.Jammed ∧ ∀ t ∈ if s.isBad then [] else s.reached, ¬ t.Jammed)
      (RenderMode.lenient.recoverLines level (s.ownLines .lenient level))
      (RenderMode.strict.recoverLines level
        ((s.standIn?.getD s.inside).ownLines .strict level)) := by
  cases hstand : s.standIn? with
  | some t =>
    rw [if_pos (Stmt.isBad_of_some hstand)]
    exact (Stmt.standIn_mirrors hpaired hstand level).congr
      (and_iff_left (List.forall_mem_nil _)).symm
  | none =>
    have hgood := Stmt.isBad_of_none hstand
    have hclear : ¬ s.Jammed := fun hjam => Bool.false_ne_true (hgood.symm.trans hjam.1)
    rw [if_neg (Bool.eq_false_iff.1 hgood)]
    exact ((hinside (Stmt.not_isBad.1 hgood)).recoverLines level).congr (and_iff_right hclear).symm

mutual

theorem Stmt.inside_mirrors (level : Int) : ∀ s : Stmt, s.Supported → (∀ t ∈ s.nodes, t.Paired) →
    Mirrors (∀ t ∈ s.reached, ¬ t.Jammed) (s.ownLines .lenient level)
      (s.inside.ownLines .strict level)
  | .function head body location, hs, h => by
    obtain ⟨hself, hbody⟩ := List.forall_mem_cons.1 h
    have hhead : Blames ((Stmt.function head body location).Faulty .lenient) _ :=
      (head.render_blames .lenient (levelPad level)).congr
        (by simp [Stmt.Faulty, Stmt.ownFault?, Stmt.exprs])
    have hmirrors := (hs.mirrors hself hhead
      (FunctionHead.render_agrees (hs.agrees .lenient .strict) _)).bind fun header =>
        (Stmt.markedIn_mirrors (level + 1) body hbody).last fun lines =>
          ⟨header ++ blockLines (level + 1) lines, rfl, rfl⟩
    exact hmirrors.congr (and_iff_right trivial)
  | .classDef head body location, hs, h => by
    obtain ⟨hself, hbody⟩ := List.forall_mem_cons.1 h
    have hhead : Blames ((Stmt.classDef head body location).Faulty .lenient) _ :=
      (head.render_blames .lenient (levelPad level)).congr
        (by simp [Stmt.Faulty, Stmt.ownFault?, Stmt.exprs])
    have hmirrors := (hs.mirrors hself hhead
      (ClassHead.render_agrees (hs.agrees .lenient .strict) _)).bind fun header =>
        (Stmt.markedIn_mirrors (level + 1) body hbody).last fun lines =>
          ⟨header ++ blockLines (level + 1) lines, rfl, rfl⟩
    exact hmirrors.congr (and_iff_right trivial)
  | .tryExcept body handlers orelse finalbody location, hs, h => by
    obtain ⟨hself, hblocks⟩ := List.forall_mem_cons.1 h
    rw [List.forall_mem_append, List.forall_mem_append, List.forall_mem_append] at hblocks
    obtain ⟨⟨⟨hbody, hhandlers⟩, horelse⟩, hfinal⟩ := hblocks
    have hheads : Blames ((Stmt.tryExcept body handlers orelse finalbody location).Faulty .lenient)
        _ := (handlerHeads_blames .lenient (levelPad level) handlers).congr
          (by simp [Stmt.Faulty, Stmt.ownFault?, Stmt.exprs])
    have heq : inOrder (handlers.map (handlerHead .lenient (levelPad level))) =
        inOrder ((Handler.markedIn handlers).map (handlerHead .strict (levelPad level))) := by
      rw [Handler.markedIn_eq, List.map_map, handlerHeads_agrees (hs.agrees .lenient .strict)]
      rfl
    have hmirrors := (hs.mirrors hself hheads heq).bind fun heads =>
      (Stmt.markedIn_mirrors (level + 1) body hbody).bind fun body =>
        (Handler.markedIn_mirrors (level + 1) handlers hhandlers).bind fun bodies =>
          (Stmt.markedIn_mirrors (level + 1) orelse horelse).bind fun orelse =>
            (Stmt.markedIn_mirrors (level + 1) finalbody hfinal).last fun finalbody =>
              ⟨(levelPad level ++ "try:") :: blockLines (level + 1) body ++
                (heads.zipWith (fun head lines => head :: blockLines (level + 1) lines)
                  bodies).flatten ++
                optionalRegion (levelPad level ++ "else:") (level + 1) orelse ++
                optionalRegion (levelPad level ++ "finally:") (level + 1) finalbody, rfl, rfl⟩
    refine hmirrors.congr ?_
    simp only [Stmt.reached, List.forall_mem_append, true_and, and_assoc]
  | .importNames .., hs, h | .importFrom .., hs, h | .assign .., hs, h | .ret .., hs, h
  | .pass _, hs, h | .expr .., hs, h | .captured .., hs, h | .foreign _, hs, h =>
    (hs.mirrors (List.forall_mem_singleton.1 h) (Stmt.plain_blames .lenient level rfl)
      (Stmt.plain_agrees rfl hs level)).congr (iff_of_true trivial (List.forall_mem_nil _))

/-- Lenient rendering of a block is strict rendering of the block with placeholders. -/
theorem Stmt.markedIn_mirrors (level : Int) : ∀ b : List Stmt, (∀ t ∈ Stmt.nodesIn b, t.Paired) →
    Mirrors (∀ t ∈ Stmt.reachedIn b, ¬ t.Jammed) (Stmt.eachLines .lenient level b)
      (Stmt.eachLines .strict level (Stmt.markedIn b))
  | [], _ => (Mirrors.ok []).congr (iff_of_true trivial (List.forall_mem_nil _))
  | s :: rest, h => by
    obtain ⟨hs, hrest⟩ := List.forall_mem_append.1 h
    have hself := Stmt.placed_mirrors (hs s s.mem_nodes_self) level fun hsupported =>
      Stmt.inside_mirrors level s hsupported hs
    have hmirrors := hself.bind fun lines =>
      (Stmt.markedIn_mirrors level rest hrest).last fun more => ⟨lines :: more, rfl, rfl⟩
    refine hmirrors.congr ?_
    rw [Stmt.reachedIn, List.forall_mem_cons, List.forall_mem_append, and_assoc]

theorem Handler.markedIn_mirrors (level : Int) : ∀ hs : List Handler,
    (∀ t ∈ Handler.nodesIn hs, t.Paired) →
    Mirrors (∀ t ∈ Handler.reachedIn hs, ¬ t.Jammed) (Stmt.handlerLines .lenient level hs)
      (Stmt.handlerLines .strict level (Handler.markedIn hs))
  | [], _ => (Mirrors.ok []).congr (iff_of_true trivial (List.forall_mem_nil _))
  | .mk _ _ body :: rest, h => by
    obtain ⟨hbody, hrest⟩ := List.forall_mem_append.1 h
    have hmirrors := (Stmt.markedIn_mirrors level body hbody).bind fun lines =>
      (Handler.markedIn_mirrors level rest hrest).last fun more => ⟨lines :: more, rfl, rfl⟩
    exact hmirrors.congr List.forall_mem_append.symm

end

/-! ## Headers -/

/-- What rendering shows of a statement apart from its blocks. -/
def Stmt.shown (s : Stmt) : Stmt := s.standIn?.getD s.surface

mutual

theorem Stmt.inside_surfaces :
    ∀ s : Stmt, s.inside.nodes.map Stmt.surface = s.surface :: s.reached.map Stmt.shown
  | .function head body location | .classDef head body location => by
    rw [Stmt.inside, Stmt.nodes, List.map_cons, Stmt.markedIn_surfaces body]
    rfl
  | .tryExcept body handlers orelse finalbody location => by
    have hhandlers : (Handler.markedIn handlers).map (fun h => Handler.mk h.type h.name []) =
        handlers.map fun h => .mk h.type h.name [] := by
      rw [Handler.markedIn_eq, List.map_map]
      rfl
    rw [Stmt.inside, Stmt.nodes, List.map_cons, List.map_append, List.map_append, List.map_append,
      Stmt.markedIn_surfaces body, Handler.markedIn_surfaces handlers,
      Stmt.markedIn_surfaces orelse, Stmt.markedIn_surfaces finalbody, Stmt.surface, hhandlers,
      Stmt.reached, List.map_append, List.map_append, List.map_append]
    rfl
  | .importNames .. | .importFrom .. | .assign .. | .ret .. | .pass _ | .expr .. | .captured ..
  | .foreign _ => rfl

/-- The statements of a block with placeholders are those that rendering reaches, in order. -/
theorem Stmt.markedIn_surfaces : ∀ b : List Stmt,
    (Stmt.nodesIn (Stmt.markedIn b)).map Stmt.surface = (Stmt.reachedIn b).map Stmt.shown
  | [] => rfl
  | s :: rest => by
    rw [Stmt.markedIn, Stmt.nodesIn, List.map_append, Stmt.markedIn_surfaces rest, Stmt.reachedIn,
      List.map_cons, List.map_append, Stmt.shown]
    cases hstand : s.standIn? with
    | some t =>
      obtain ⟨kind, -, rfl⟩ := Option.map_eq_some_iff.1 hstand
      rw [if_pos (Stmt.isBad_of_some hstand)]
      rfl
    | none =>
      rw [if_neg (Bool.eq_false_iff.1 (Stmt.isBad_of_none hstand)), Option.getD_none,
        Stmt.inside_surfaces s]
      rfl

theorem Handler.markedIn_surfaces : ∀ hs : List Handler,
    (Handler.nodesIn (Handler.markedIn hs)).map Stmt.surface =
      (Handler.reachedIn hs).map Stmt.shown
  | [] => rfl
  | .mk _ _ body :: rest => by
    rw [Handler.markedIn, Handler.nodesIn, List.map_append, Stmt.markedIn_surfaces body,
      Handler.markedIn_surfaces rest, Handler.reachedIn, List.map_append]

end

/-! ## Blocks -/

theorem isCode_placeholder (level : Int) (kind : Text) :
    isCode (levelPad level ++ placeholder kind) = false := by
  rw [Text.isCode_eq, isCodeLine_placeholder, isBlank_placeholder]
  rfl

/-- A placeholder is no code, and the lines of every other statement have some. -/
theorem Stmt.lines_isCode {s : Stmt} {level : Int} {lines : List Text}
    (hpaired : ∀ t ∈ s.nodes, t.Paired)
    (hworded : s.isBad = false → ∀ e ∈ s.exprs, e.All (·.isWorded = true))
    (h : s.lines .lenient level = .ok lines) : lines.any isCode = !s.isBad := by
  cases hstand : s.standIn? with
  | some t =>
    obtain ⟨kind, -, rfl⟩ := Option.map_eq_some_iff.1 hstand
    have hmirrors := Stmt.standIn_mirrors (hpaired s s.mem_nodes_self) hstand level
    rw [Stmt.lines] at h
    rw [h] at hmirrors
    cases hmirrors.2
    rw [Stmt.isBad_of_some hstand]
    exact (Bool.or_false _).trans (isCode_placeholder level kind)
  | none =>
    have hgood := Stmt.isBad_of_none hstand
    have hsupported := Stmt.not_isBad.1 hgood
    rw [hgood, any_isCode]
    rcases Stmt.lines_cases h with ⟨hcaptured, hown⟩ | ⟨hmode, -⟩ | ⟨-, kind, hown, -⟩
    · rw [(Stmt.ownLines_headed (hworded hgood) hcaptured level lines hown).any
        (levelPad_isBlank level)]
      rfl
    · cases hmode
    · have hmirrors := Stmt.inside_mirrors level s hsupported hpaired
      rw [hown] at hmirrors
      cases hmirrors.1

/-- A block gets a `pass` exactly if it consists of placeholders. -/
theorem Block.blockLines_lenient {b : Block} {level : Int} {ss : List (List Text)}
    (hpaired : ∀ s ∈ b, ∀ t ∈ s.nodes, t.Paired)
    (hworded : ∀ s ∈ b, s.isBad = false → ∀ e ∈ s.exprs, e.All (·.isWorded = true))
    (h : Stmt.eachLines .lenient level b = .ok ss) :
    blockLines level ss =
      ss.flatten ++ if b.all Stmt.isBad then [levelPad level ++ "pass"] else [] := by
  have hcode : ss.flatten.any isCode = !b.all Stmt.isBad := by
    have hlines := Stmt.lines_of_eachLines h
    clear h
    induction hlines with
    | nil => rfl
    | cons hs hrest ih =>
      rw [List.forall_mem_cons] at hpaired hworded
      rw [List.flatten_cons, List.any_append, Stmt.lines_isCode hpaired.1 hworded.1 hs,
        ih hpaired.2 hworded.2, List.all_cons, Bool.not_and]
  rw [blockLines, hcode]
  cases b.all Stmt.isBad <;> simp

/-! ## Modules -/

/-- Lenient rendering of a module whose lists pair up is strict rendering of the module with
placeholders, unless a statement that is reached has an integer that cannot be written in front of
what is unsupported. The placeholders and the other statements that are reached stay in order, and a
nested block gets a `pass` exactly if it consists of placeholders, provided that names begin as code
does. -/
theorem Module.toText_lenient {m : Module} (h : m.Paired) :
    ((∀ s ∈ Stmt.reachedIn m.body, ¬ s.Jammed) →
      m.toText .lenient = Module.toText .strict ⟨Stmt.markedIn m.body⟩) ∧
    ((∃ s ∈ Stmt.reachedIn m.body, s.Jammed) → m.toText .lenient = .error .tooManyDigits) ∧
    (Stmt.nodesIn (Stmt.markedIn m.body)).map Stmt.surface =
      (Stmt.reachedIn m.body).map Stmt.shown ∧
    ((∀ s ∈ Stmt.nodesIn m.body, s.isBad = false → ∀ e ∈ s.exprs, e.All (·.isWorded = true)) →
      ∀ level b ss, Suite .lenient m level b → Stmt.eachLines .lenient level b = .ok ss →
        blockLines level ss =
          ss.flatten ++ if b.all Stmt.isBad then [levelPad level ++ "pass"] else []) := by
  have hmirrors : Mirrors (∀ s ∈ Stmt.reachedIn m.body, ¬ s.Jammed) (m.toText .lenient)
      (Module.toText .strict ⟨Stmt.markedIn m.body⟩) :=
    (Stmt.markedIn_mirrors 0 m.body h).map _
  refine ⟨hmirrors.eq_of_clear, ?_, Stmt.markedIn_surfaces m.body, ?_⟩
  · rintro ⟨s, hs, hjam⟩
    exact hmirrors.eq_of_not_clear fun hclear => hclear s hs hjam
  · intro hworded level b ss hb hss
    refine Block.blockLines_lenient (fun s hs t ht => ?_)
      (fun s hs => hworded s (hb.nodes s hs)) hss
    exact h t (Stmt.nodesIn_trans m.body (hb.nodes s hs) ht)

/-- A method with an unsupported default, alone in its class, and a statement behind the class. -/
theorem Module.toText_lenient_sample :
    let f : FunctionHead :=
      ⟨"f", [⟨"x", .positional, none, some (.captured "Lambda" none)⟩], none, [], false⟩
    let m : Module := ⟨[.classDef ⟨"C", [], [], []⟩ [.function f [.foreign "Ghost"] none] none,
      .pass none]⟩
    m.Paired ∧ m.toText .lenient = Module.toText .strict ⟨Stmt.markedIn m.body⟩ ∧
      m.toText .lenient = .ok "class C:\n    # Unsupported Lambda\n    pass\npass\n" := by
  intro f m
  have hpaired : m.Paired := List.forall_mem_cons.2 ⟨List.forall_mem_nil _,
    List.forall_mem_cons.2 ⟨List.forall_mem_singleton.2 (Expr.all_leaf rfl rfl),
      List.forall_mem_cons.2 ⟨List.forall_mem_nil _,
        List.forall_mem_singleton.2 (List.forall_mem_nil _)⟩⟩⟩
  have hclear : ∀ s ∈ Stmt.reachedIn m.body, ¬ s.Jammed := by
    refine List.forall_mem_cons.2 ⟨?_, List.forall_mem_cons.2 ⟨?_, List.forall_mem_singleton.2 ?_⟩⟩
    all_goals
      rintro ⟨-, hjam⟩
      cases hjam
  exact ⟨hpaired, (Module.toText_lenient hpaired).1 hclear, rfl⟩

/-- A call with an integer of one digit more than are written and something unsupported behind it:
the placeholder that could stand for it does not. -/
theorem Module.toText_jammed :
    let m : Module := ⟨[.expr (.call (.name "f")
      [.number (.int (Nat.pow 10 digitLimit)), .captured "Lambda" none] []) none]⟩
    m.Paired ∧ Module.toText .strict ⟨Stmt.markedIn m.body⟩ = .ok "# Unsupported Lambda\n" ∧
      m.toText .lenient = .error .tooManyDigits := by
  have hdigits : ∀ limit, 0 < limit → ¬ (Nat.toDigits 10 (Nat.pow 10 limit)).length ≤ limit :=
    fun limit hlimit => by
      rw [Nat.length_toDigits_le_iff (by decide) hlimit]
      exact Nat.lt_irrefl _
  have hlong := hdigits digitLimit (by decide)
  generalize Nat.pow 10 digitLimit = n at hlong
  intro m
  have hpaired : m.Paired := List.forall_mem_singleton.2 (List.forall_mem_singleton.2
    (Expr.all_iff.2 ⟨rfl, List.forall_mem_cons.2 ⟨Expr.all_leaf rfl rfl, List.forall_mem_cons.2
      ⟨Expr.all_leaf rfl rfl, List.forall_mem_singleton.2 (Expr.all_leaf rfl rfl)⟩⟩⟩))
  have hrender : (Expr.number (.int n)).render .lenient .double = .error .tooManyDigits := by
    rw [Expr.render, Number.render, Int.natAbs_natCast, if_neg hlong]
    rfl
  refine ⟨hpaired, rfl, ?_⟩
  rw [Module.toText, Stmt.eachLines, Stmt.ownLines, Expr.render, Expr.renderEach, hrender]
  rfl

end Refactory
