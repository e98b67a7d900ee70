import Refactory.Fault
import Refactory.Text.Digit

/-! # Templates

The two template languages of strings: percent specifiers, and fields in braces. Both are read into
literal texts and holes.

* `percentTemplate`: the literals and specifiers of a percent template.
* `braceTemplate`: the literals and fields of a brace template; none if it is malformed. -/

namespace Refactory

/-- A piece of a percent template. -/
inductive PercentPiece
  | text (value : Text)
  | specifier (c : CodePoint)
deriving DecidableEq

/-- The pieces of a percent template; a percent sign at the very end is text. -/
def percentTemplate : Text → List PercentPiece
  | [] => []
  | c :: rest =>
    if c = '%' then
      match rest with
      | [] => [.text [c]]
      | s :: rest' => .specifier s :: percentTemplate rest'
    else
      match percentTemplate rest with
      | .text t :: pieces => .text (c :: t) :: pieces
      | pieces => .text [c] :: pieces

/-- A field of a brace template: its name, its conversion and its format. -/
structure BraceField where
  name : Text
  conversion : Option CodePoint
  spec : Text
deriving DecidableEq

/-- A piece of a brace template: literal text, and the field behind it if there is one. -/
structure BracePiece where
  literal : Text
  field : Option BraceField
deriving DecidableEq

/-- The name of a field and what follows it, from the character on that ends it. Brackets take
everything up to the closing one along. -/
def fieldName (inBrackets : Bool) : Text → Option (Text × Text)
  | [] => none
  | c :: rest =>
    let keep (inBrackets : Bool) := (fieldName inBrackets rest).map fun (n, r) => (c :: n, r)
    if inBrackets then keep (c ≠ ']')
    else if c = '{' then none
    else if c = '}' ∨ c = ':' ∨ c = '!' then some ([], c :: rest)
    else keep (c = '[')

/-- The format of a field and what follows its closing brace. `depth` counts the braces left open. -/
def fieldSpec (depth : Nat) : Text → Option (Text × Text)
  | [] => none
  | c :: rest =>
    let keep (depth : Nat) := (fieldSpec depth rest).map fun (s, r) => (c :: s, r)
    if c = '{' then keep (depth + 1)
    else if c = '}' then
      match depth with
      | 0 => some ([], rest)
      | d + 1 => keep d
    else keep depth

/-- A field behind its opening brace, and what follows it. A null character is no conversion. -/
def braceField (t : Text) : Option (BraceField × Text) := do
  let (name, rest) ← fieldName false t
  match rest with
  | [] => none
  | c :: rest =>
    if c = '}' then return (⟨name, none, []⟩, rest)
    else if c = ':' then
      let (spec, rest) ← fieldSpec 0 rest
      return (⟨name, none, spec⟩, rest)
    else
      match rest with
      | conversion :: d :: rest =>
        let conversion := if conversion = '\x00' then none else some conversion
        if d = '}' then return (⟨name, conversion, []⟩, rest)
        else if d = ':' then
          let (spec, rest) ← fieldSpec 0 rest
          return (⟨name, conversion, spec⟩, rest)
        else none
      | _ => none

/-- The literal text at the start of a template, whether a field follows, and the rest. A doubled
brace stands for one and ends the text. -/
def braceLiteral : Text → Option (Text × Bool × Text)
  | [] => some ([], false, [])
  | c :: rest =>
    if c = '{' ∨ c = '}' then
      match rest with
      | d :: rest' =>
        if d = c then some ([c], false, rest')
        else if c = '}' then none
        else some ([], true, rest)
      | [] => none
    else (braceLiteral rest).map fun (t, hasField, r) => (c :: t, hasField, r)

/-- The pieces of a brace template; the fuel bounds their number. -/
def bracePieces : Nat → Text → Option (List BracePiece)
  | 0, _ => none
  | _ + 1, [] => some []
  | fuel + 1, t => do
    let (literal, hasField, rest) ← braceLiteral t
    if hasField then
      let (field, rest) ← braceField rest
      return ⟨literal, some field⟩ :: (← bracePieces fuel rest)
    else return ⟨literal, none⟩ :: (← bracePieces fuel rest)

/-- The pieces of a brace template. -/
def braceTemplate (t : Text) : Option (List BracePiece) := bracePieces (t.length + 1) t

end Refactory
