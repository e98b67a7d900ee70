import Refactory.Grammar.Term
import Refactory.Render.Expr

/-! # The canonical text of an expression

An expression that spans several lines is kept by its canonical text, which stands on one: single
spaces around operators, parentheses only where binding strength requires them, strings in their
quoted form. Inside a field of a formatted string no backslash can stand, so strings there take
whatever quotes make them do without one.

* `Term.canonical`: the text with its binding strength. -/

namespace Refactory.Grammar

/-! ## Quotes -/

/-- The quotes that a string can stand between, in order of preference. -/
def allQuotes : List Text := ["'", "\"", "\"\"\"", "'''"]

/-- A point as it stands in a literal that avoids escapes: a backslash and what cannot be printed are
escaped, line feeds and tabs only where asked for. -/
def sparingly (escapeSpace : Bool) (c : CodePoint) : Text :=
  if !escapeSpace && (c = '\n' || c = '\t') then [c]
  else if c = '\\' then "\\\\"
  else if c = '\n' then "\\n"
  else if c = '\t' then "\\t"
  else if c = '\r' then "\\r"
  else if c.isPrintable then [c]
  else c.numericEscape

/-- The body of a literal with as few escapes as possible, and the quotes that it can stand between.
If there are none, the quoted form of the text decides. -/
def literalBody (quotes : List Text) (escapeSpace : Bool) (t : Text) : Text × List Text :=
  let body := t.flatMap (sparingly escapeSpace)
  let spanning := if body.contains (CodePoint.scalar '\n') then quotes.filter (·.length = 3) else quotes
  match spanning.filter fun q => !q.hasInfix body with
  | [] =>
    let mark := t.quoteMark
    ((t.quoted.drop 1).dropLast, [(quotes.find? (·.contains mark)).getD [mark]])
  | possible =>
    match body.getLast? with
    | none => (body, possible)
    | some last =>
      let ends (q : Text) : Bool := q.head? = some last
      let sorted := possible.filter (!ends ·) ++ possible.filter ends
      match sorted with
      | q :: _ => (if ends q then body.dropLast ++ [.scalar '\\', last] else body, sorted)
      | [] => (body, sorted)

/-- A string literal that avoids backslashes. -/
def sparingLiteral (t : Text) : Text :=
  let (body, quotes) := literalBody allQuotes false t
  let quote := quotes.headD []
  quote ++ body ++ quote

/-- The bodies of the parts of a formatted string and the quotes left for it; none if there is no
quote that suits all parts. Escapes are free in literal text. -/
def partBodies (quotes : List Text) : List (Text × Bool) → Option (List Text × List Text)
  | [] => some ([], quotes)
  | (t, isText) :: rest =>
    let (body, left) := literalBody quotes isText t
    if left.any quotes.contains then
      (partBodies left rest).map fun (bodies, left) => (body :: bodies, left)
    else none

/-- The body of a part in the quoted form that has single quotes. -/
def fallbackBody (t : Text) : Text := ((("\"" ++ t).quoted).drop 2).dropLast

/-- A formatted string from its parts; `true` marks literal text. -/
def formattedLiteral (parts : List (Text × Bool)) : Text :=
  match partBodies allQuotes parts with
  | some (bodies, quotes) =>
    let quote := quotes.headD []
    quote ++ bodies.flatten ++ quote
  | none => "'''" ++ parts.flatMap (fallbackBody ·.1) ++ "'''"

/-- The quoted form of a byte. -/
def quotedByte (quote : Nat) (b : Nat) : Text :=
  if b = quote ∨ b = 0x5c then ['\\', .scalar (Char.ofNat b)]
  else if b = 0x09 then "\\t"
  else if b = 0x0a then "\\n"
  else if b = 0x0d then "\\r"
  else if b < 0x20 ∨ 0x7f ≤ b then "\\x" ++ Text.hex 2 b
  else [.scalar (Char.ofNat b)]

/-- The quoted form of a byte string. -/
def quotedBytes (bytes : List Nat) : Text :=
  let quote := if bytes.contains 0x27 && !bytes.contains 0x22 then 0x22 else 0x27
  let mark : Text := [.scalar (Char.ofNat quote)]
  "b" ++ mark ++ bytes.flatMap (quotedByte quote) ++ mark

/-! ## Expressions -/

/-- The imaginary part of a number, without a fraction that is zero. -/
def imaginaryText (x : Double) : Text :=
  let t := x.literal
  match t.reverse with
  | a :: b :: rest => if a = '0' ∧ b = '.' then rest.reverse else t
  | _ => t

/-- The canonical text of a number. -/
def numberText : Number → Except Fault Text
  | .complex _ im => .ok (imaginaryText im ++ "j")
  | n => n.render

/-- Items with commas between them, a single one with a comma behind it. -/
def itemsText (items : List Text) : Text :=
  match items with
  | [t] => t ++ ","
  | _ => Text.join ", " items

/-- The strength that the operands of a binary operator have. Powers group to the right. -/
def operandStrengths : BinaryOp → Precedence × Precedence
  | .pow => (Precedence.power.next, .power)
  | op => (op.precedence, op.precedence.next)

/-- Operands of a boolean operator, each required to bind more tightly than the one before. -/
def risingOperands (least : Precedence) : List Rendered → List (Except Fault Text)
  | [] => []
  | r :: rest => place least.next r :: risingOperands least.next rest

/-- The comparison operators with the operands behind them. -/
def comparisonTexts : List CompareOp → List Rendered → List (Except Fault Text)
  | op :: ops, r :: rs =>
    (do return " " ++ Text.ofString op.token ++ " " ++ (← place .bitOr r)) :: comparisonTexts ops rs
  | _, _ => []

/-- The entries of a dictionary. -/
def entryTexts : List (Option Rendered) → List Rendered → List (Except Fault Text)
  | none :: ks, v :: vs => (do return "**" ++ (← place .bitOr v)) :: entryTexts ks vs
  | some k :: ks, v :: vs =>
    (do return (← place .test k) ++ ": " ++ (← place .test v)) :: entryTexts ks vs
  | _, _ => []

/-- The positional parameters with their defaults, a slash behind those that are positional only. -/
def positionalTexts (slashAfter : Nat) :
    List (Except Fault Text) → List (Option Rendered) → List (Except Fault Text)
  | [], _ => []
  | name :: names, defaults =>
    let default := match defaults with
      | some d :: _ => (place .test d).map (Text.ofString "=" ++ ·)
      | _ => .ok []
    let item := do
      let n ← name
      let d ← default
      return n ++ d ++ (if slashAfter = 1 then Text.ofString ", /" else [])
    item :: positionalTexts (slashAfter - 1) names defaults.tail

/-- The keyword-only parameters with their defaults. -/
def keywordTexts : List (Except Fault Text) → List (Option Rendered) → List (Except Fault Text)
  | name :: names, d :: ds =>
    (do
      let n ← name
      match d with
      | some r => return n ++ Text.ofString "=" ++ (← place .test r)
      | none => return n) :: keywordTexts names ds
  | _, _ => []

/-- An integer in front of a point is kept apart from it. -/
def Term.isInteger : Term → Bool
  | .number (.int _) | .truth _ => true
  | _ => false

/-- The text of a field of a formatted string around its parts. -/
def fieldWhole (value : Text) (conversion : Option Char) (spec : Option Text) :
    Except Fault Text :=
  if value.contains (CodePoint.scalar '\\') then .error .backslashInField
  else
    let value := if value.head? = some (CodePoint.scalar '{') then " " ++ value else value
    let conversion : Text := match conversion with
      | some c => ['!', .scalar c]
      | none => []
    let spec : Text := match spec with
      | some s => ":" ++ s
      | none => []
    .ok ("\x7b" ++ value ++ conversion ++ spec ++ "\x7d")

/-- The text of an optional part, empty if there is none. -/
def placeOptional (r : Option Rendered) : Except Fault Text :=
  match r with
  | some r => place .test r
  | none => .ok []

/-- A text of the given strength from parts written one after the other. -/
def written (strength : Precedence) (parts : List (Except Fault Text)) : Rendered := do
  return ((← inOrder parts).flatten, strength)

/-- A comprehension between brackets. -/
def comprehensionText (left right : Text) (element : Except Fault Text)
    (clauses : List (Except Fault Text)) : Rendered :=
  written .atom ([.ok left, element] ++ clauses ++ [.ok right])

mutual

/-- The canonical text of a term with its binding strength; `sparing` says whether backslashes are
avoided. -/
def Term.canonical (sparing : Bool) : Term → Rendered
  | .name id => atomText id
  | .string value unicode =>
    let mark : Text := if unicode then "u" else []
    atomText (mark ++ if sparing then sparingLiteral value else value.quoted)
  | .bytes _ value => atomText (quotedBytes value)
  | .number value => (numberText value).map (·, .atom)
  | .truth value => atomText (if value then "True" else "False")
  | .noneLiteral => atomText "None"
  | .ellipsis _ => atomText "..."
  | .call func args keywords => do
    let f ← place .atom (func.canonical sparing)
    let items ← inOrder ((Term.canonicalEach sparing args).map (place .test) ++
      Argument.canonicalEach sparing keywords)
    return (f ++ "(" ++ Text.join ", " items ++ ")", .atom)
  | .binary left op right => do
    let l ← place (operandStrengths op).1 (left.canonical sparing)
    let r ← place (operandStrengths op).2 (right.canonical sparing)
    return (l ++ " " ++ Text.ofString op.token ++ " " ++ r, op.precedence)
  | .unary .negation operand => do
    return ("not " ++ (← place .negation (operand.canonical sparing)), .negation)
  | .unary op operand => do
    return (Text.ofString op.token ++ (← place .factor (operand.canonical sparing)), .factor)
  | .logical op values => do
    let items ← inOrder (risingOperands op.precedence (Term.canonicalEach sparing values))
    return (Text.join (" " ++ Text.ofString op.token ++ " ") items, op.precedence)
  | .compare left ops comparators =>
    written .comparison (place .bitOr (left.canonical sparing) ::
      comparisonTexts ops (Term.canonicalEach sparing comparators))
  | .attribute value attr => do
    let v ← place .atom (value.canonical sparing)
    return (v ++ (if value.isInteger then " ." else ".") ++ attr, .atom)
  | .subscript _ value (.tuple (e :: es)) => do
    let v ← place .atom (value.canonical sparing)
    let items ← inOrder ((e.canonical sparing :: Term.canonicalEach sparing es).map (place .test))
    return (v ++ "[" ++ itemsText items ++ "]", .atom)
  | .subscript _ value index => do
    let v ← place .atom (value.canonical sparing)
    let i ← place .test (index.canonical sparing)
    return (v ++ "[" ++ i ++ "]", .atom)
  | .slice _ lower upper step => do
    let l ← placeOptional (Term.canonicalOption sparing lower)
    let u ← placeOptional (Term.canonicalOption sparing upper)
    match Term.canonicalOption sparing step with
    | some s => return (l ++ ":" ++ u ++ ":" ++ (← place .test s), .atom)
    | none => return (l ++ ":" ++ u, .atom)
  | .starred value => do
    return ("*" ++ (← place .bitOr (value.canonical sparing)), .atom)
  | .tuple elements =>
    match elements with
    | [] => atomText "()"
    | e :: es => do
      let items ← inOrder ((e.canonical sparing :: Term.canonicalEach sparing es).map (place .test))
      return (itemsText items, .tuple)
  | .list elements => do
    let items ← inOrder ((Term.canonicalEach sparing elements).map (place .test))
    return ("[" ++ Text.join ", " items ++ "]", .atom)
  | .set _ elements => do
    let items ← inOrder ((Term.canonicalEach sparing elements).map (place .test))
    return ("\x7b" ++ Text.join ", " items ++ "\x7d", .atom)
  | .dict keys values => do
    let items ← inOrder
      (entryTexts (Term.canonicalKeys sparing keys) (Term.canonicalEach sparing values))
    return ("\x7b" ++ Text.join ", " items ++ "\x7d", .atom)
  | .formatted _ parts => do
    let texts ← Part.canonicalEach parts
    return ("f" ++ (if sparing then sparingLiteral (texts.flatMap (·.1)) else formattedLiteral texts),
      .atom)
  | .lambda _ params body => do
    let ps ← Params.canonical sparing params
    let b ← place .test (body.canonical sparing)
    return ("lambda" ++ (if ps.isEmpty then [] else Text.ofString " " ++ ps) ++ ": " ++ b, .test)
  | .conditional _ test body orelse => do
    let b ← place .disj (body.canonical sparing)
    let t ← place .disj (test.canonical sparing)
    let e ← place .test (orelse.canonical sparing)
    return (b ++ " if " ++ t ++ " else " ++ e, .test)
  | .named _ id value => do
    return (id ++ " := " ++ (← place .atom (value.canonical sparing)), .named)
  | .listComp _ element clauses =>
    comprehensionText "[" "]" (place .test (element.canonical sparing))
      (Clause.canonicalEach sparing clauses)
  | .setComp _ element clauses =>
    comprehensionText "\x7b" "\x7d" (place .test (element.canonical sparing))
      (Clause.canonicalEach sparing clauses)
  | .dictComp _ key value clauses =>
    let item := do
      let k ← place .test (key.canonical sparing)
      let v ← place .test (value.canonical sparing)
      return k ++ ": " ++ v
    comprehensionText "\x7b" "\x7d" item (Clause.canonicalEach sparing clauses)
  | .generator _ element clauses =>
    comprehensionText "(" ")" (place .test (element.canonical sparing))
      (Clause.canonicalEach sparing clauses)
  | .await _ value => do
    return ("await " ++ (← place .atom (value.canonical sparing)), .await)
  | .yield _ none => .ok ("yield", .yielding)
  | .yield _ (some value) => do
    return ("yield " ++ (← place .atom (value.canonical sparing)), .yielding)
  | .yieldFrom _ value => do
    return ("yield from " ++ (← place .atom (value.canonical sparing)), .yielding)

/-- The canonical texts of several terms. -/
def Term.canonicalEach (sparing : Bool) : List Term → List Rendered
  | [] => []
  | t :: rest => t.canonical sparing :: Term.canonicalEach sparing rest

/-- The canonical text of a term that can be absent. -/
def Term.canonicalOption (sparing : Bool) : Option Term → Option Rendered
  | none => none
  | some t => some (t.canonical sparing)

/-- The canonical texts of terms that can be absent. -/
def Term.canonicalKeys (sparing : Bool) : List (Option Term) → List (Option Rendered)
  | [] => []
  | none :: rest => none :: Term.canonicalKeys sparing rest
  | some t :: rest => some (t.canonical sparing) :: Term.canonicalKeys sparing rest

/-- The canonical texts of keyword arguments. -/
def Argument.canonicalEach (sparing : Bool) : List Argument → List (Except Fault Text)
  | [] => []
  | .mk arg value :: rest =>
    (do
      let v ← place .test (value.canonical sparing)
      match arg with
      | some name => return name ++ "=" ++ v
      | none => return "**" ++ v) :: Argument.canonicalEach sparing rest

/-- The canonical texts of the clauses of a comprehension. -/
def Clause.canonicalEach (sparing : Bool) : List Clause → List (Except Fault Text)
  | [] => []
  | .mk isAsync target iter conditions :: rest =>
    (do
      let t ← place .tuple (target.canonical sparing)
      let i ← place .disj (iter.canonical sparing)
      let cs ← inOrder ((Term.canonicalEach sparing conditions).map fun c =>
        (place .disj c).map (Text.ofString " if " ++ ·))
      return (if isAsync then Text.ofString " async for " else Text.ofString " for ") ++ t ++
        " in " ++ i ++ cs.flatten) :: Clause.canonicalEach sparing rest

/-- The texts of the parts of a formatted string, `true` marking literal text; in fields backslashes
are avoided. -/
def Part.canonicalEach : List Part → Except Fault (List (Text × Bool))
  | [] => .ok []
  | .text value :: rest => do
    return (value.braced, true) :: (← Part.canonicalEach rest)
  | .field value conversion none :: rest => do
    let v ← place .disj (value.canonical true)
    return (← fieldWhole v conversion none, false) :: (← Part.canonicalEach rest)
  | .field value conversion (some spec) :: rest => do
    let v ← place .disj (value.canonical true)
    let _ ← fieldWhole v conversion none
    let s ← Part.canonicalEach spec
    return (← fieldWhole v conversion (some (s.flatMap (·.1))), false) ::
      (← Part.canonicalEach rest)

/-- The canonical texts of the names of a parameter list. -/
def ParamName.canonicalEach (sparing : Bool) : List ParamName → List (Except Fault Text)
  | [] => []
  | .mk name none :: rest => .ok name :: ParamName.canonicalEach sparing rest
  | .mk name (some hint) :: rest =>
    (do return name ++ ": " ++ (← place .test (hint.canonical sparing))) ::
      ParamName.canonicalEach sparing rest

/-- The canonical text of an optional name of a parameter list, behind a mark. -/
def ParamName.canonicalOption (sparing : Bool) (mark : Text) :
    Option ParamName → List (Except Fault Text)
  | none => []
  | some (.mk name none) => [.ok (mark ++ name)]
  | some (.mk name (some hint)) =>
    [do return mark ++ name ++ ": " ++ (← place .test (hint.canonical sparing))]

/-- The canonical text of a parameter list. -/
def Params.canonical (sparing : Bool) : Params → Except Fault Text
  | .mk positionalOnly positional varPositional keywordOnly keywordDefaults varKeyword defaults => do
    let missing := positionalOnly.length + positional.length - defaults.length
    let names := ParamName.canonicalEach sparing positionalOnly ++
      ParamName.canonicalEach sparing positional
    let given := List.replicate missing none ++ (Term.canonicalEach sparing defaults).map some
    let star := match ParamName.canonicalOption sparing "*" varPositional with
      | [] => if keywordOnly.isEmpty then [] else [.ok (Text.ofString "*")]
      | items => items
    let keywords := keywordTexts (ParamName.canonicalEach sparing keywordOnly)
      (Term.canonicalKeys sparing keywordDefaults)
    let items ← inOrder (positionalTexts positionalOnly.length names given ++ star ++ keywords ++
      ParamName.canonicalOption sparing "**" varKeyword)
    return Text.join ", " items

end

/-- The canonical text of a term that stands alone. -/
def Term.canonicalText (t : Term) : Except Fault Text := place .test (t.canonical false)

end Refactory.Grammar
