import Refactory.Grammar.Numeral
import Refactory.Modernize.Template
import Refactory.Query
import Refactory.Rewrite

/-! # Formatted strings from templates

`"%s" % (a,)` and `"\x7b\x7d".format(a)` become formatted strings, if the template uses nothing beyond
plain conversions and positional fields, and the arguments are simple enough to stand in a field.

* `percentToPieces`, `formatToPieces`: the parts of the formatted string.
* `modernizeStrings`: the change throughout a module. -/

namespace Refactory

/-- Whether an argument can stand in a field: a number, a chain of attributes, or a subscript of one
by a name or a number. -/
def Expr.isSimple : Expr → Bool
  | .number _ => true
  | .subscript value (.name _) => value.isSimple
  | .subscript value (.number _) => value.isSimple
  | .subscript .. => false
  | e => e.chain?.isSome

/-- Parts without empty texts and with adjacent texts joined. -/
def mergeText : List Piece → List Piece
  | [] => []
  | .text t :: rest =>
    if t.isEmpty then mergeText rest
    else
      match mergeText rest with
      | .text u :: others => .text (t ++ u) :: others
      | others => .text t :: others
  | p :: rest => p :: mergeText rest

/-! ## Percent templates -/

/-- The conversion that a percent specifier asks for, if it is one of the plain ones. -/
def percentConversion (c : CodePoint) : Option (Option Text) :=
  if c = 's' then some none
  else if c = 'r' then some (some "r")
  else if c = 'a' then some (some "a")
  else none

/-- The parts of a percent template with its arguments put in, all of which must be used. -/
def percentParts : List PercentPiece → List Expr → Option (List Piece)
  | [], [] => some []
  | [], _ :: _ => none
  | .text t :: rest, args =>
    if t.contains (CodePoint.scalar '%') then none
    else (percentParts rest args).map (.text t :: ·)
  | .specifier c :: rest, args =>
    if c = '%' then (percentParts rest args).map (.text [c] :: ·)
    else
      match percentConversion c, args with
      | some conversion, a :: args =>
        (percentParts rest args).map (.field a conversion none :: ·)
      | _, _ => none

/-- The parts of a formatted string from a percent template. -/
def percentToPieces (template : Text) (args : List Expr) : Option (List Piece) :=
  (percentParts (percentTemplate template) args).map mergeText

/-! ## Brace templates -/

/-- How the fields of a template are numbered, as far as it has been read. -/
structure Numbering where
  next : Nat := 0
  auto : Bool := false
  manual : Bool := false
  referenced : List Nat := []

/-- The number that a run of digits writes. The decimal digits in front are counted first, and too
many of them are a fault whatever follows; so is a digit that is not decimal. -/
def readDigits (digits : Text) : Except Fault Nat :=
  let count := (digits.takeWhile (·.decimal?.isSome)).length
  if Grammar.Numeral.mostDigits < count then .error (.longNumeral count)
  else
    match digits.decimal? with
    | some n => .ok n
    | none => .error (.notDecimal digits)

/-- The argument that a field name means; a template cannot number both ways. Digits that cannot be
read as a number are a fault. -/
def Numbering.resolve (n : Numbering) (name : Text) (count : Nat) :
    Except Fault (Option (Nat × Numbering)) :=
  let check (index : Nat) (n : Numbering) : Option (Nat × Numbering) :=
    if (n.auto && n.manual) || count ≤ index then none
    else some (index, { n with referenced := index :: n.referenced })
  if name.isEmpty then .ok (check n.next { n with auto := true, next := n.next + 1 })
  else if name.isDigits then
    match readDigits name with
    | .ok index => .ok (check index { n with manual := true })
    | .error f => .error f
  else .ok none

/-- The conversion that a field asks for, if it is one of the plain ones. -/
def fieldConversion (c : Option CodePoint) : Option (Option Text) :=
  match c with
  | none => some none
  | some c => if c = 's' ∨ c = 'r' ∨ c = 'a' then some (some [c]) else none

/-- Whether a format holds no braces. -/
def isPlainSpec (spec : Text) : Bool :=
  !spec.contains (CodePoint.scalar '{') && !spec.contains (CodePoint.scalar '}')

/-- The parts of a brace template with its arguments put in. -/
def formatParts (args : List Expr) (n : Numbering) :
    List BracePiece → Except Fault (Option (List Piece))
  | [] =>
    .ok (if (List.range args.length).all n.referenced.contains then some [] else none)
  | piece :: rest =>
    match piece.field with
    | none => do return (← formatParts args n rest).map (.text piece.literal :: ·)
    | some field => do
      match ← n.resolve field.name args.length, fieldConversion field.conversion with
      | some (index, n), some conversion =>
        match isPlainSpec field.spec, args[index]? with
        | true, some a =>
          let spec := if field.spec.isEmpty then none else some field.spec
          return (← formatParts args n rest).map fun parts =>
            .text piece.literal :: .field a conversion spec :: parts
        | _, _ => return none
      | _, _ => return none

/-- The parts of a formatted string from a brace template. -/
def formatToPieces (template : Text) (args : List Expr) : Except Fault (Option (List Piece)) :=
  match braceTemplate template with
  | none => .ok none
  | some pieces => do return (← formatParts args {} pieces).map mergeText

/-! ## Expressions -/

/-- The formatted string that an expression becomes. -/
def modernizeFormat : Rewriter
  | .binary (.string template) .mod (.tuple args) =>
    .ok (if args.all Expr.isSimple then (percentToPieces template args).map .formatted else none)
  | .call (.attribute (.string template) attr) args [] =>
    if attr = "format" ∧ args.all Expr.isSimple then do
      return (← formatToPieces template args).map .formatted
    else .ok none
  | _ => .ok none

/-- Turns templates into formatted strings throughout a module; reports how many. -/
def modernizeStrings : Edit Nat := rewriteExprs modernizeFormat

end Refactory
