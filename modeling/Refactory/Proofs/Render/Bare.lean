import Refactory.Render.Stmt

/-! # Statements without locations

Where statements stood in a source is not written: statements that differ in nothing else
(`Stmt.bare`) have the same text (`Module.toText_bare`). -/

namespace Refactory

mutual

/-- A statement with the locations in it left out. -/
def Stmt.bare : Stmt → Stmt
  | .function head body _ => .function head (Stmt.bareEach body) none
  | .classDef head body _ => .classDef head (Stmt.bareEach body) none
  | .importNames names _ => .importNames names none
  | .importFrom module names level _ => .importFrom module names level none
  | .assign targets value _ => .assign targets value none
  | .ret value _ => .ret value none
  | .pass _ => .pass none
  | .expr value _ => .expr value none
  | .tryExcept body handlers orelse finalbody _ =>
    .tryExcept (Stmt.bareEach body) (Handler.bareEach handlers) (Stmt.bareEach orelse)
      (Stmt.bareEach finalbody) none
  | .captured kind source _ => .captured kind source none
  | .foreign kind => .foreign kind

/-- The statements of a block with the locations left out. -/
def Stmt.bareEach : List Stmt → List Stmt
  | [] => []
  | s :: ss => s.bare :: Stmt.bareEach ss

/-- Handlers with the locations in their bodies left out. -/
def Handler.bareEach : List Handler → List Handler
  | [] => []
  | .mk type name body :: hs => .mk type name (Stmt.bareEach body) :: Handler.bareEach hs

end

variable {mode : RenderMode}

theorem Handler.heads_bare (pad : Text) (hs : List Handler) :
    (Handler.bareEach hs).map (handlerHead mode pad) = hs.map (handlerHead mode pad) := by
  induction hs with
  | nil => rfl
  | cons h hs ih =>
    obtain ⟨type, name, body⟩ := h
    rw [Handler.bareEach, List.map_cons, List.map_cons, ih]
    rfl

mutual

theorem Stmt.ownLines_bare : ∀ (s : Stmt) (level : Int),
    s.bare.ownLines mode level = s.ownLines mode level
  | .function _ body _, level | .classDef _ body _, level => by
    simp only [Stmt.bare, Stmt.ownLines, Stmt.eachLines_bare body]
  | .tryExcept body handlers orelse finalbody _, level => by
    simp only [Stmt.bare, Stmt.ownLines, Handler.heads_bare, Stmt.eachLines_bare body,
      Handler.lines_bare handlers, Stmt.eachLines_bare orelse, Stmt.eachLines_bare finalbody]
  | .ret none _, _ | .ret (some _) _, _ => rfl
  | .importNames .., _ | .importFrom .., _ | .assign .., _ | .pass _, _ | .expr .., _
  | .captured .., _ | .foreign _, _ => rfl

theorem Stmt.eachLines_bare : ∀ (b : List Stmt) (level : Int),
    Stmt.eachLines mode level (Stmt.bareEach b) = Stmt.eachLines mode level b
  | [], _ => rfl
  | s :: ss, level => by
    rw [Stmt.bareEach, Stmt.eachLines, Stmt.eachLines, Stmt.ownLines_bare s, Stmt.eachLines_bare ss]

theorem Handler.lines_bare : ∀ (hs : List Handler) (level : Int),
    Stmt.handlerLines mode level (Handler.bareEach hs) = Stmt.handlerLines mode level hs
  | [], _ => rfl
  | .mk _ _ body :: hs, level => by
    rw [Handler.bareEach, Stmt.handlerLines, Stmt.handlerLines, Stmt.eachLines_bare body,
      Handler.lines_bare hs]

end

/-- Modules that differ in locations only have the same text. -/
theorem Module.toText_bare {m m' : Module} (h : Stmt.bareEach m.body = Stmt.bareEach m'.body) :
    m.toText mode = m'.toText mode := by
  rw [Module.toText, Module.toText, ← Stmt.eachLines_bare m.body, h, Stmt.eachLines_bare]

end Refactory
