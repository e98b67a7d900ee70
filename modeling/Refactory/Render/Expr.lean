import Refactory.Render.Literal
import Refactory.Render.Precedence

/-! # Rendering expressions

The canonical text of an expression, with parentheses only where binding strength requires them.
Captured and foreign constructs are unsupported, except that passthrough rendering repeats the
source of a captured one. Of several faults in an expression, the one met first counts: a call
renders its arguments before its function. -/

namespace Refactory

/-- What to do about constructs that the tree does not model: write a placeholder, fail, or repeat
the captured source. -/
inductive RenderMode
  | lenient | strict | passthrough
deriving DecidableEq, Inhabited

namespace RenderMode

/-- The name of a mode. -/
def label : RenderMode → Text
  | lenient => "lenient"
  | strict => "strict"
  | passthrough => "passthrough"

/-- The mode of a name. -/
def ofText (t : Text) : Except Fault RenderMode :=
  match [lenient, strict, passthrough].find? (·.label == t) with
  | some mode => .ok mode
  | none => .error (.unknownChoice t "RenderMode")

end RenderMode

/-- An expression rendered together with its binding strength, or the fault met first. -/
abbrev Rendered := Except Fault (Text × Precedence)

/-- A rendering as the text for a place that requires at least the given strength. -/
def place (least : Precedence) (r : Rendered) : Except Fault Text := r.map least.wrap

/-- A text that binds as tightly as an atom. -/
def atomText (t : Text) : Rendered := .ok (t, .atom)

/-- The texts of several parts, or the first fault among them. -/
def inOrder (parts : List (Except Fault Text)) : Except Fault (List Text) := parts.mapM id

/-- The parts of a comparison after its left operand, in order. -/
def comparisonParts : List CompareOp → List Rendered → List (Except Fault Text)
  | [], [] => []
  | op :: ops, r :: rs => .ok op.token :: place .bitOr r :: comparisonParts ops rs
  | [], _ :: _ => [.error (.unequalLengths true)]
  | _ :: _, [] => [.error (.unequalLengths false)]

/-- One item of a dictionary. -/
def dictItem (key : Option Rendered) (value : Rendered) : Except Fault Text :=
  match key with
  | none => do return "**" ++ (← place .bitOr value)
  | some k => do return (← place .test k) ++ ": " ++ (← place .test value)

/-- The items of a dictionary, in order. -/
def dictItems : List (Option Rendered) → List Rendered → List (Except Fault Text)
  | [], [] => []
  | k :: ks, v :: vs => dictItem k v :: dictItems ks vs
  | [], _ :: _ => [.error (.unequalLengths true)]
  | _ :: _, [] => [.error (.unequalLengths false)]

/-- A replacement field around the text of its value: a leading brace is kept apart from the one of
the field, and empty conversions and formats are left out. -/
def fieldText (value : Text) (conversion spec : Option Text) : Text :=
  let value := if value.head? = some (CodePoint.scalar '{') then " " ++ value else value
  let conversion : Text := match conversion.getD [] with
    | [] => []
    | c => "!" ++ c
  let spec : Text := match spec.getD [] with
    | [] => []
    | s => ":" ++ s.formattedLiteral
  "\x7b" ++ value ++ conversion ++ spec ++ "\x7d"

/-- Whether an expression is a number literal. -/
def Expr.isNumber : Expr → Bool
  | .number _ => true
  | _ => false

/-- A number in front of a dot is put in parentheses, so that the dot is no decimal point. -/
def dotted (isNumber : Bool) (value : Text) : Text :=
  if isNumber && value.head? ≠ some (CodePoint.scalar '(') then "(" ++ value ++ ")" else value

/-- The elements of a tuple: a single one is followed by a comma. -/
def tupleText : List Text → Text
  | [e] => "(" ++ e ++ ",)"
  | es => "(" ++ Text.join ", " es ++ ")"

mutual

/-- The text and strength of an expression, strings delimited by `quote`. -/
def Expr.render (mode : RenderMode) (quote : Quote) : Expr → Rendered
  | .name id => atomText id
  | .string value => atomText (quote.mark ++ value.escaped quote ++ quote.mark)
  | .number value => do
    let t ← value.render
    return (t, if t.head? = some (CodePoint.scalar '-') then .factor else .atom)
  | .truth value => atomText (if value then "True" else "False")
  | .noneLiteral => atomText "None"
  | .call func args keywords => do
    let args ← inOrder ((Expr.renderEach mode quote args).map (place .test))
    let keywords ← inOrder (Expr.renderKeywords mode quote keywords)
    let func ← place .atom (func.render mode quote)
    return (func ++ "(" ++ Text.join ", " (args ++ keywords) ++ ")", .atom)
  | .binary left op right => do
    let left ← place op.operands.1 (left.render mode quote)
    let right ← place op.operands.2 (right.render mode quote)
    return (left ++ " " ++ op.token ++ " " ++ right, op.precedence)
  | .unary .negation operand => do
    return ("not " ++ (← place .negation (operand.render mode quote)), .negation)
  | .unary op operand => do
    return (op.token ++ (← place .factor (operand.render mode quote)), .factor)
  | .logical op values => do
    let values ← inOrder ((Expr.renderEach mode quote values).map (place op.precedence.next))
    return (Text.join (" " ++ op.token ++ " ") values, op.precedence)
  | .compare left ops comparators => do
    let left ← place .bitOr (left.render mode quote)
    let parts ← inOrder (comparisonParts ops (Expr.renderEach mode quote comparators))
    return (Text.join " " (left :: parts), .comparison)
  | .attribute value attr => do
    let v ← place .atom (value.render mode quote)
    return (dotted value.isNumber v ++ "." ++ attr, .atom)
  | .subscript value index => do
    let v ← place .atom (value.render mode quote)
    let i ← place .test (index.render mode quote)
    return (v ++ "[" ++ i ++ "]", .atom)
  | .starred value => do
    return ("*" ++ (← place .bitOr (value.render mode quote)), .test)
  | .tuple elements => do
    let elements ← inOrder ((Expr.renderEach mode quote elements).map (place .test))
    return (tupleText elements, .atom)
  | .list elements => do
    let elements ← inOrder ((Expr.renderEach mode quote elements).map (place .test))
    return ("[" ++ Text.join ", " elements ++ "]", .atom)
  | .dict keys values => do
    let items ← inOrder
      (dictItems (Expr.renderKeys mode quote keys) (Expr.renderEach mode quote values))
    return ("\x7b" ++ Text.join ", " items ++ "\x7d", .atom)
  | .formatted parts => do
    let parts ← inOrder (Expr.renderPieces mode parts)
    return ("f\"" ++ parts.flatten ++ "\"", .atom)
  | .captured kind source =>
    match mode, source with
    | .passthrough, some (c :: rest) => .ok (c :: rest, .ofCaptured kind)
    | _, _ => .error (.unsupported kind)
  | .foreign kind => .error (.unsupported kind)

/-- The renderings of a list of expressions. -/
def Expr.renderEach (mode : RenderMode) (quote : Quote) : List Expr → List Rendered
  | [] => []
  | e :: es => e.render mode quote :: Expr.renderEach mode quote es

/-- The texts of keyword arguments; one without a name is unpacked. -/
def Expr.renderKeywords (mode : RenderMode) (quote : Quote) :
    List Keyword → List (Except Fault Text)
  | [] => []
  | .mk none value :: ks =>
    (place .bitOr (value.render mode quote)).map (fun v => "**" ++ v) ::
      Expr.renderKeywords mode quote ks
  | .mk (some arg) value :: ks =>
    (place .test (value.render mode quote)).map (fun v => arg ++ "=" ++ v) ::
      Expr.renderKeywords mode quote ks

/-- The renderings of the keys of a dictionary. -/
def Expr.renderKeys (mode : RenderMode) (quote : Quote) :
    List (Option Expr) → List (Option Rendered)
  | [] => []
  | none :: ks => none :: Expr.renderKeys mode quote ks
  | some k :: ks => some (k.render mode quote) :: Expr.renderKeys mode quote ks

/-- The parts of a formatted string, which is delimited by double quotes; strings inside its fields
are delimited by single ones. -/
def Expr.renderPieces (mode : RenderMode) : List Piece → List (Except Fault Text)
  | [] => []
  | .text t :: ps => .ok t.formattedLiteral :: Expr.renderPieces mode ps
  | .field value conversion spec :: ps =>
    (place .disj (value.render mode .single)).map (fieldText · conversion spec) ::
      Expr.renderPieces mode ps

end

/-- The line that stands for an unsupported construct. -/
def placeholder (kind : Text) : Text := "# Unsupported " ++ kind

/-- An unsupported construct becomes the value that `f` gives, except in strict mode. -/
def RenderMode.recover {α : Type} (mode : RenderMode) (f : Text → α) :
    Except Fault α → Except Fault α
  | .error (.unsupported kind) =>
    if mode = .strict then .error (.unsupported kind) else .ok (f kind)
  | r => r

/-- The text of an expression on its own. -/
def Expr.toText (mode : RenderMode) (e : Expr) : Except Fault Text :=
  mode.recover placeholder (place .named (e.render mode .double))

end Refactory
