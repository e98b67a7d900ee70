import Refactory.Grammar.Token

/-! # Reading tokens

A reader takes tokens from the front of a list and gives a value, or fails. Besides the tokens left
it knows where the last one that is no layout ended, which is where a construct ends.

* `Reader`: a function from a cursor to a value and a later cursor, if it succeeds.
* `Reader.or`: a second reader where the first fails.
* `Reader.many`, `commaSeparated`: repetition, bounded by the number of tokens left. -/

namespace Refactory.Grammar

/-- A place between two tokens. -/
structure Cursor where
  rest : List Token
  /-- Where the last token before this place ended, layout left out. -/
  last : Position
deriving Inhabited

/-- A reader of tokens. -/
abbrev Reader (α : Type) := StateT Cursor Option α

namespace Reader

/-- Fails. -/
def fail {α : Type} : Reader α := fun _ => none

/-- The first reader, or the second from the same place if the first fails. -/
def or {α : Type} (p q : Reader α) : Reader α := fun c =>
  match p c with
  | some r => some r
  | none => q c

/-- The value of a reader if it succeeds; otherwise nothing is read. -/
def optional {α : Type} (p : Reader α) : Reader (Option α) := fun c =>
  match p c with
  | some (a, c') => some (some a, c')
  | none => some (none, c)

/-- As many values as the reader gives, at most as many as the fuel allows. -/
def manyFuel {α : Type} (p : Reader α) : Nat → Reader (List α)
  | 0 => pure []
  | fuel + 1 => fun c =>
    match p c with
    | none => some ([], c)
    | some (a, c') => (manyFuel p fuel c').map fun (as, c'') => (a :: as, c'')

/-- As many values as the reader gives. -/
def many {α : Type} (p : Reader α) : Reader (List α) := fun c => manyFuel p c.rest.length c

/-- One value or more. -/
def some {α : Type} (p : Reader α) : Reader (List α) := do return (← p) :: (← many p)

end Reader

/-- The lexeme that comes next. -/
def peek : Reader (Option Lexeme) := fun c => some (c.rest.head?.map (·.lexeme), c)

/-- The position of the token that comes next. -/
def here : Reader Position := fun c => some ((c.rest.head?.map (·.span.start)).getD c.last, c)

/-- The stretch from `start` to the last token read. -/
def spanFrom (start : Position) : Reader Span := fun c => some (⟨start, c.last⟩, c)

/-- Takes the next token. -/
def advance : Reader Lexeme := fun c =>
  match c.rest with
  | [] => none
  | t :: rest => some (t.lexeme, ⟨rest, if t.lexeme.isLayout then c.last else t.span.stop⟩)

/-- Whether the symbol comes next. -/
def nextIs (text : String) : Reader Bool := do
  match ← peek with
  | some (.symbol s) => return s == text
  | _ => return false

/-- Takes the symbol if it comes next. -/
def accept (text : String) : Reader Bool := do
  if ← nextIs text then
    let _ ← advance
    return true
  else return false

/-- Takes the symbol, or fails. -/
def expect (text : String) : Reader Unit := do
  if ← accept text then return () else Reader.fail

/-- Fails if the symbol comes next. -/
def refuse (text : String) : Reader Unit := do
  if ← nextIs text then Reader.fail else return ()

/-- Takes a name. -/
def identifier : Reader Text := do
  match ← advance with
  | .name id => return id
  | _ => Reader.fail

/-- Whether a name comes next and after it the symbol. -/
def nameThen (text : String) : Reader Bool := fun c =>
  match c.rest with
  | ⟨.name _, _⟩ :: ⟨.symbol s, _⟩ :: _ => some (s == text, c)
  | _ => some (false, c)

/-- Whether this very name comes next. -/
def nextIsName (id : String) : Reader Bool := do
  match ← peek with
  | some (.name n) => return n == Text.ofString id
  | _ => return false

/-- Takes a piece of layout, or fails. -/
def takeLayout (isIt : Lexeme → Bool) : Reader Unit := do
  if isIt (← advance) then return () else Reader.fail

/-- Takes a line end. -/
def newline : Reader Unit := takeLayout fun | .newline => true | _ => false

/-- Takes the start of an indented block. -/
def indent : Reader Unit := takeLayout fun | .indent => true | _ => false

/-- Takes the end of an indented block. -/
def dedent : Reader Unit := takeLayout fun | .dedent => true | _ => false

/-- Succeeds if no token is left. -/
def atEnd : Reader Unit := fun c => if c.rest.isEmpty then some ((), c) else none

/-- Items with a comma between each two, and whether a comma stands at the end. -/
def commaSeparated {α : Type} (item : Reader α) : Reader (List α × Bool) := do
  let first ← item
  let others ← Reader.many (do expect ","; item)
  let trailing ← accept ","
  return (first :: others, trailing)

end Refactory.Grammar
