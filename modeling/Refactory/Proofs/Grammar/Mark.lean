import Refactory.Grammar.Cursor
import Refactory.Grammar.Lexer
import Refactory.Render.Precedence

/-! # Tokens without their places

A `Mark` is what a reader of expressions sees of a token, or a captured expression, which stands as it
was written and can have many tokens (`excerpt`). `Mark.attach` tells how tightly a mark binds
what stands in front of it to what comes behind, and `Mark.opens` how tightly an expression binds that
begins with it; a reader of some strength stops in front of a mark that attaches less tightly
(`Clear`). -/

namespace Refactory.Grammar

theorem rank_injective {p q : Precedence} (h : p.rank = q.rank) : p = q := by
  revert h
  cases p <;> cases q <;> decide

theorem rank_le_atom (p : Precedence) : p.rank ≤ Precedence.atom.rank := by
  cases p <;> decide

theorem next_rank {p : Precedence} (h : p.rank < Precedence.atom.rank) :
    p.next.rank = p.rank + 1 := by
  cases p <;> first | rfl | exact absurd h (by decide)

/-- A token without its place, or a captured expression with its text. A string is plain, without marks
in front; strings with marks are not told apart. -/
inductive Mark
  | name (id : Text)
  | symbol (text : String)
  | number (value : Number)
  | string (body : List Char)
  | other
  | newline
  | indent
  | dedent
  | captured (kind : Text) (text : List Char)
deriving DecidableEq

/-- What is seen of a lexeme. -/
def Lexeme.mark : Lexeme → Mark
  | .name id => .name id
  | .symbol text => .symbol text
  | .number value => .number value
  | .string marks body => if marks = {} then .string (body.chars.map (·.char)) else .other
  | .newline => .newline
  | .indent => .indent
  | .dedent => .dedent

theorem Lexeme.mark_symbol {l : Lexeme} {text : String} : l.mark = .symbol text ↔ l = .symbol text := by
  cases l with
  | string marks body => simp only [Lexeme.mark]; split <;> simp
  | _ => simp [Lexeme.mark]

theorem Lexeme.mark_name {l : Lexeme} {id : Text} : l.mark = .name id ↔ l = .name id := by
  cases l with
  | string marks body => simp only [Lexeme.mark]; split <;> simp
  | _ => simp [Lexeme.mark]

theorem Lexeme.mark_newline {l : Lexeme} : l.mark = .newline ↔ l = .newline := by
  cases l with
  | string marks body => simp only [Lexeme.mark]; split <;> simp
  | _ => simp [Lexeme.mark]

/-- A token is no captured expression. -/
theorem Lexeme.mark_ne_captured (l : Lexeme) (kind : Text) (text : List Char) :
    l.mark ≠ .captured kind text := by
  cases l with
  | string marks body => simp only [Lexeme.mark]; split <;> simp
  | _ => simp [Lexeme.mark]

/-- Whether a mark can be that of a string. -/
def Mark.isString : Mark → Bool
  | .string _ | .other | .captured .. => true
  | _ => false

/-! ## Captured expressions -/

/-- The tokens of a piece of source within a line, in which no more than `limit` brackets are open at
once. -/
def excerptWithin (limit : Nat) (text : List Char) : Option (List Token) :=
  Scanner.tokens (text.length + 1) { rest := placed text, lineStart := false, mostOpen := limit }

/-- How many brackets are open at once in a piece of source. -/
def bracketsIn (text : List Char) : Nat :=
  ((List.range (mostBrackets + 1)).find? fun limit => (excerptWithin limit text).isSome).getD 0

/-- The tokens of a piece of source within a line. -/
def excerpt (text : List Char) : List Token := (excerptWithin (bracketsIn text) text).getD []

/-- How many tokens are captured in a mark. -/
def Mark.size : Mark → Nat
  | .captured _ text => (excerpt text).length
  | _ => 0

/-- How many brackets are open at once in a mark. -/
def Mark.brackets : Mark → Nat
  | .captured _ text => bracketsIn text
  | _ => 0

/-- The first token of what a mark stands for. -/
def Mark.first : Mark → Mark
  | .captured _ text => ((excerpt text).head?.map (·.lexeme.mark)).getD .newline
  | m => m

@[simp]
theorem Mark.first_symbol (text : String) : (Mark.symbol text).first = .symbol text := rfl

@[simp]
theorem Mark.first_name (id : Text) : (Mark.name id).first = .name id := rfl

@[simp]
theorem Mark.first_newline : Mark.newline.first = .newline := rfl

/-- The first token of what comes next. -/
def next? (ms : List Mark) : Option Mark := ms.head?.map Mark.first

@[simp]
theorem next?_nil : next? [] = none := rfl

@[simp]
theorem next?_cons (m : Mark) (ms : List Mark) : next? (m :: ms) = some m.first := rfl

/-! ## Binding strength -/

/-- The symbols that go on with an expression, with the strength at which they do, and those with which
one begins or its other branch. -/
def followers : List (String × Precedence) := [
  (".", .atom), ("(", .atom), ("[", .atom), ("\x7b", .atom), ("~", .atom), ("...", .atom),
  ("True", .atom), ("False", .atom), ("None", .atom), ("await", .atom), ("yield", .atom),
  ("lambda", .atom), ("else", .atom), ("**", .power), ("*", .term), ("/", .term), ("%", .term),
  ("//", .term), ("@", .term), ("+", .arith), ("-", .arith), ("<<", .shift), (">>", .shift),
  ("&", .bitAnd), ("^", .bitXor), ("|", .bitOr), ("==", .comparison), ("!=", .comparison),
  ("<", .comparison), ("<=", .comparison), (">", .comparison), (">=", .comparison),
  ("is", .comparison), ("is not", .comparison), ("in", .comparison), ("not in", .comparison),
  ("not", .comparison), ("and", .conj), ("or", .disj), ("if", .test)]

/-- The symbols that an expression can begin with, with its strength at most. -/
def starters : List (String × Precedence) := [
  ("True", .atom), ("False", .atom), ("None", .atom), ("...", .atom), ("(", .atom), ("[", .atom),
  ("\x7b", .atom), ("await", .await), ("+", .factor), ("-", .factor), ("~", .factor),
  ("not", .negation), ("lambda", .test), ("yield", .yielding)]

/-- How tightly a mark binds what stands in front of it. -/
def Mark.attach : Mark → Nat
  | .symbol text => ((followers.lookup text).map Precedence.rank).getD 0
  | .name _ | .number _ | .string _ | .other | .captured .. => Precedence.atom.rank
  | .newline | .indent | .dedent => 0

/-- How tightly an expression binds that begins with a token. -/
def Mark.starts : Mark → Nat
  | .symbol text => ((starters.lookup text).map Precedence.rank).getD 0
  | .name _ | .number _ | .string _ | .other => Precedence.atom.rank
  | .newline | .indent | .dedent | .captured .. => 0

/-- How tightly an expression binds that begins with a mark. -/
def Mark.opens : Mark → Nat
  | .captured kind text =>
    min (Precedence.ofCaptured kind).rank (Mark.captured kind text).first.starts
  | m => m.starts

theorem Mark.opens_le_first (m : Mark) : m.opens ≤ m.first.starts := by
  cases m with
  | captured kind text => exact Nat.min_le_right _ _
  | _ => exact Nat.le_refl _

/-- What comes next does not go on with an expression of the given strength. -/
def Clear (least : Precedence) (after : List Mark) : Prop :=
  ∀ m ∈ after.head?, m.attach < least.rank

theorem Clear.mono {p q : Precedence} {after : List Mark} (h : Clear p after)
    (hpq : p.rank ≤ q.rank) : Clear q after := fun m hm => Nat.lt_of_lt_of_le (h m hm) hpq

theorem Clear.head_ne {p : Precedence} {after : List Mark} (h : Clear p after) {m : Mark}
    (hm : p.rank ≤ m.attach) : next? after ≠ some m := by
  intro hnext
  obtain ⟨first, hfirst, rfl⟩ := Option.map_eq_some_iff.1 hnext
  have hlt := h first hfirst
  cases first with
  | captured kind text => exact Nat.not_lt.2 (rank_le_atom p) hlt
  | _ => exact Nat.not_lt.2 hm hlt

theorem clear_nil (p : Precedence) : Clear p [] := fun _ hm => by cases hm

theorem clear_cons {p : Precedence} {m : Mark} {ms : List Mark} (h : m.attach < p.rank) :
    Clear p (m :: ms) := fun _ hm => by cases hm; exact h

theorem attach_binary (op : BinaryOp) : (Mark.symbol op.token).attach = op.precedence.rank := by
  cases op <;> decide

theorem attach_logical (op : BoolOp) : (Mark.symbol op.token).attach = op.precedence.rank := by
  cases op <;> decide

theorem attach_compare (op : CompareOp) :
    (Mark.symbol op.token).attach = Precedence.comparison.rank := by
  cases op <;> decide

end Refactory.Grammar
