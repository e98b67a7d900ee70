import Refactory.Grammar.Canonical
import Refactory.Grammar.StatementReader
import Refactory.Source.Indent

/-! # From the grammar to the tree

The tree models a closed set of forms; every other form is captured. A captured statement keeps its
text as written, with the indentation of its first line taken off the others. A captured expression
keeps its text if that stands on one line, and its canonical text otherwise.

* `Term.toExpr`, `Statement.toStmt`: the tree of a term and of a statement.
* `Term.captures`, `Statement.captures`: how often a construct was captured on the way.
* `parseSource`, `parseExpression`, `parseStatements`: from text to tree. -/

namespace Refactory

open Grammar

/-- A source with what capturing needs to know about it. -/
structure Origin where
  text : Text
  lines : List Text
  /-- The rows that begin inside a string. -/
  rows : List Int

/-- A source prepared for capturing. -/
def Origin.ofText (t : Text) : Origin := ⟨t, t.lines, (Source.continuationRows t).map Int.ofNat⟩

/-! ## Expressions -/

/-- An expression kept by its text. -/
def capture (o : Origin) (kind : Text) (span : Span) (t : Term) : Except Fault Expr :=
  let segment := span.slice o.text
  if segment.contains (CodePoint.scalar '\n') then
    t.canonicalText.map fun text => .captured kind (some text)
  else .ok (.captured kind (some segment))

/-- The text of a format that holds no fields. -/
def plainSpec : List Part → Option Text
  | [] => some []
  | .text value :: rest => (plainSpec rest).map (value ++ ·)
  | .field .. :: _ => none

mutual

/-- The tree of a term. -/
def Grammar.Term.toExpr (o : Origin) : Term → Except Fault Expr
  | .name id => .ok (.name id)
  | .string value _ => .ok (.string value)
  | .bytes span value => capture o "bytes" span (.bytes span value)
  | .number value => .ok (.number value)
  | .truth value => .ok (.truth value)
  | .noneLiteral => .ok .noneLiteral
  | .ellipsis span => capture o "ellipsis" span (.ellipsis span)
  | .call func args keywords => do
    return .call (← func.toExpr o) (← Term.toExprs o args) (← Argument.toKeywords o keywords)
  | .binary left op right => do return .binary (← left.toExpr o) op (← right.toExpr o)
  | .unary op operand => do return .unary op (← operand.toExpr o)
  | .logical op values => do return .logical op (← Term.toExprs o values)
  | .compare left ops comparators => do
    return .compare (← left.toExpr o) ops (← Term.toExprs o comparators)
  | .attribute value attr => do return .attribute (← value.toExpr o) attr
  | .subscript span value (.slice inner lower upper step) =>
    capture o "Slice" span (.subscript span value (.slice inner lower upper step))
  | .subscript _ value index => do return .subscript (← value.toExpr o) (← index.toExpr o)
  | .slice span lower upper step => capture o "Slice" span (.slice span lower upper step)
  | .starred value => do return .starred (← value.toExpr o)
  | .tuple elements => do return .tuple (← Term.toExprs o elements)
  | .list elements => do return .list (← Term.toExprs o elements)
  | .set span elements => capture o "Set" span (.set span elements)
  | .dict keys values => do return .dict (← Term.toKeys o keys) (← Term.toExprs o values)
  | .formatted span parts => do
    match ← Part.toPieces o parts with
    | some pieces => return .formatted pieces
    | none => capture o "JoinedStr" span (.formatted span parts)
  | .lambda span params body => capture o "Lambda" span (.lambda span params body)
  | .conditional span test body orelse =>
    capture o "IfExp" span (.conditional span test body orelse)
  | .named span id value => capture o "NamedExpr" span (.named span id value)
  | .listComp span element clauses => capture o "ListComp" span (.listComp span element clauses)
  | .setComp span element clauses => capture o "SetComp" span (.setComp span element clauses)
  | .dictComp span key value clauses =>
    capture o "DictComp" span (.dictComp span key value clauses)
  | .generator span element clauses =>
    capture o "GeneratorExp" span (.generator span element clauses)
  | .await span value => capture o "Await" span (.await span value)
  | .yield span value => capture o "Yield" span (.yield span value)
  | .yieldFrom span value => capture o "YieldFrom" span (.yieldFrom span value)

/-- The trees of several terms. -/
def Grammar.Term.toExprs (o : Origin) : List Term → Except Fault (List Expr)
  | [] => .ok []
  | t :: rest => do return (← t.toExpr o) :: (← Term.toExprs o rest)

/-- The trees of terms that can be absent. -/
def Grammar.Term.toKeys (o : Origin) : List (Option Term) → Except Fault (List (Option Expr))
  | [] => .ok []
  | none :: rest => do return none :: (← Term.toKeys o rest)
  | some t :: rest => do return some (← t.toExpr o) :: (← Term.toKeys o rest)

/-- The trees of keyword arguments. -/
def Grammar.Argument.toKeywords (o : Origin) : List Argument → Except Fault (List Keyword)
  | [] => .ok []
  | .mk arg value :: rest => do return .mk arg (← value.toExpr o) :: (← Argument.toKeywords o rest)

/-- The trees of the parts of a formatted string; nothing if a format holds a field. -/
def Grammar.Part.toPieces (o : Origin) : List Part → Except Fault (Option (List Piece))
  | [] => .ok (some [])
  | .text value :: rest => do return (← Part.toPieces o rest).map (.text value :: ·)
  | .field value conversion none :: rest => do
    let v ← value.toExpr o
    return (← Part.toPieces o rest).map
      (.field v (conversion.map fun c => [.scalar c]) none :: ·)
  | .field value conversion (some spec) :: rest =>
    match plainSpec spec with
    | none => .ok none
    | some s => do
      let v ← value.toExpr o
      return (← Part.toPieces o rest).map
        (.field v (conversion.map fun c => [.scalar c]) (some s) :: ·)

end

mutual

/-- How many captures the conversion of a term makes. A formatted string that is given up after some
of its fields counts those as well. -/
def Grammar.Term.captures : Term → Nat
  | .name _ | .string .. | .number _ | .truth _ | .noneLiteral => 0
  | .call func args keywords => func.captures + Term.capturesAll args + Argument.captures keywords
  | .binary left _ right => left.captures + right.captures
  | .unary _ operand => operand.captures
  | .logical _ values => Term.capturesAll values
  | .compare left _ comparators => left.captures + Term.capturesAll comparators
  | .attribute value _ => value.captures
  | .subscript _ _ (.slice ..) => 1
  | .subscript _ value index => value.captures + index.captures
  | .starred value => value.captures
  | .tuple elements | .list elements => Term.capturesAll elements
  | .dict keys values => Term.capturesKeys keys + Term.capturesAll values
  | .formatted _ parts => Part.captures parts
  | .bytes .. | .ellipsis _ | .slice .. | .set .. | .lambda .. | .conditional .. | .named ..
  | .listComp .. | .setComp .. | .dictComp .. | .generator .. | .await .. | .yield ..
  | .yieldFrom .. => 1

/-- How many captures the conversion of several terms makes. -/
def Grammar.Term.capturesAll : List Term → Nat
  | [] => 0
  | t :: rest => t.captures + Term.capturesAll rest

/-- How many captures the conversion of terms that can be absent makes. -/
def Grammar.Term.capturesKeys : List (Option Term) → Nat
  | [] => 0
  | none :: rest => Term.capturesKeys rest
  | some t :: rest => t.captures + Term.capturesKeys rest

/-- How many captures the conversion of keyword arguments makes. -/
def Grammar.Argument.captures : List Argument → Nat
  | [] => 0
  | .mk _ value :: rest => value.captures + Argument.captures rest

/-- How many captures the conversion of the parts of a formatted string makes. -/
def Grammar.Part.captures : List Part → Nat
  | [] => 0
  | .text _ :: rest => Part.captures rest
  | .field value _ none :: rest => value.captures + Part.captures rest
  | .field value _ (some spec) :: rest =>
    match plainSpec spec with
    | none => 1
    | some _ => value.captures + Part.captures rest

end

/-! ## Statements -/

/-- The parameters of a list with their defaults, which belong to the last ones. -/
def alignDefaults {α : Type} (count : Nat) (defaults : List α) : List (Option α) :=
  List.replicate (count - defaults.length) none ++ defaults.map some

/-- The tree of a term that can be absent. -/
def Grammar.Term.toExpr? (o : Origin) : Option Term → Except Fault (Option Expr)
  | none => .ok none
  | some t => do return some (← t.toExpr o)

/-- A parameter of the given kind. -/
def Grammar.ParamName.toParam (o : Origin) (kind : ParamKind) (default : Option Term) :
    ParamName → Except Fault Param
  | .mk name hint => do
    return ⟨name, kind, ← Term.toExpr? o hint, ← Term.toExpr? o default⟩

/-- The parameters of a list: positional-only, positional, the rest of them, keyword-only, and the
rest of those. -/
def Grammar.Params.toParams (o : Origin) : Params → Except Fault (List Param)
  | .mk positionalOnly positional varPositional keywordOnly keywordDefaults varKeyword defaults => do
    let named := positionalOnly.map (·, ParamKind.positionalOnly) ++
      positional.map (·, ParamKind.positional)
    let first ← (named.zip (alignDefaults named.length defaults)).mapM
      fun ((name, kind), default) => name.toParam o kind default
    let rest ← varPositional.toList.mapM (·.toParam o .varPositional none)
    let keywords ← (keywordOnly.zip keywordDefaults).mapM
      fun (name, default) => name.toParam o .keywordOnly default
    let last ← varKeyword.toList.mapM (·.toParam o .varKeyword none)
    return first ++ rest ++ keywords ++ last

/-- How many captures the conversion of an optional term makes. -/
def Grammar.Term.captures? (t : Option Term) : Nat := (t.map Term.captures).getD 0

/-- How many captures the conversion of a parameter's annotation makes. -/
def Grammar.ParamName.captures : ParamName → Nat
  | .mk _ hint => Term.captures? hint

/-- How many captures the conversion of a parameter list makes. -/
def Grammar.Params.captures : Params → Nat
  | .mk positionalOnly positional varPositional keywordOnly keywordDefaults varKeyword defaults =>
    ((positionalOnly ++ positional ++ varPositional.toList ++ keywordOnly ++
      varKeyword.toList).map ParamName.captures).foldl (· + ·) 0 + Term.capturesAll defaults +
      Term.capturesKeys keywordDefaults

/-- Where a span begins. -/
def Grammar.Span.location (s : Span) : Location := ⟨s.start.line, s.start.column⟩

/-- A statement kept by its text. -/
def captureStmt (o : Origin) (kind : Text) (span : Span) : Except Fault Stmt :=
  match o.lines[span.start.line - 1]? with
  | none => .error .outOfRange
  | some first =>
    let margin := first.takeWhile CodePoint.isBlank
    let lines := (span.slice o.text).lines.map (Text.dropEndWhile (· = '\r'))
    .ok (.captured kind (some (Source.dedentLines lines margin o.rows span.start.line))
      (some span.location))

/-- An imported name in the tree. -/
def Grammar.ImportedName.toAlias (n : ImportedName) : Alias := ⟨n.name, n.asName⟩

/-- The targets of an assignment in the tree: those of a tuple one by one. -/
def assignTargets : Term → List Term
  | .tuple (a :: b :: rest) => a :: b :: rest
  | t => [t]

mutual

/-- The tree of a statement. -/
def Grammar.Statement.toStmt (o : Origin) : Statement → Except Fault Stmt
  | .function span isAsync name params returns decorators body => do
    let ps ← params.toParams o
    let block ← Statement.toBlock o body
    let rs ← Term.toExpr? o returns
    let ds ← Term.toExprs o decorators
    return .function ⟨name, ps, rs, ds, isAsync⟩ block (some span.location)
  | .classDef span name bases keywords decorators body => do
    let bs ← Term.toExprs o bases
    let block ← Statement.toBlock o body
    let ks ← Argument.toKeywords o keywords
    let ds ← Term.toExprs o decorators
    return .classDef ⟨name, bs, ks, ds⟩ block (some span.location)
  | .importNames span names =>
    .ok (.importNames (names.map ImportedName.toAlias) (some span.location))
  | .importFrom span module names level =>
    .ok (.importFrom module (names.map ImportedName.toAlias) level (some span.location))
  | .assign span [target] value => do
    let ts ← Term.toExprs o (assignTargets target)
    return .assign ts (← value.toExpr o) (some span.location)
  | .assign span _ _ => captureStmt o "ChainedAssign" span
  | .ret span value => do return .ret (← Term.toExpr? o value) (some span.location)
  | .pass span => .ok (.pass (some span.location))
  | .expr span value => do return .expr (← value.toExpr o) (some span.location)
  | .tryExcept span body handlers orelse finalbody => do
    let b ← Statement.toBlock o body
    let hs ← Catch.toHandlers o handlers
    let e ← Statement.toBlock o orelse
    let f ← Statement.toBlock o finalbody
    return .tryExcept b hs e f (some span.location)
  | .other span kind => captureStmt o kind span

/-- The trees of the statements of a block. -/
def Grammar.Statement.toBlock (o : Origin) : List Statement → Except Fault Block
  | [] => .ok []
  | s :: rest => do return (← s.toStmt o) :: (← Statement.toBlock o rest)

/-- The trees of handlers. -/
def Grammar.Catch.toHandlers (o : Origin) : List Catch → Except Fault (List Handler)
  | [] => .ok []
  | .mk type name body :: rest => do
    let t ← Term.toExpr? o type
    let b ← Statement.toBlock o body
    return .mk t name b :: (← Catch.toHandlers o rest)

end

mutual

/-- How many captures the conversion of a statement makes. -/
def Grammar.Statement.captures : Statement → Nat
  | .function _ _ _ params returns decorators body =>
    params.captures + Statement.capturesAll body + Term.captures? returns +
      Term.capturesAll decorators
  | .classDef _ _ bases keywords decorators body =>
    Term.capturesAll bases + Statement.capturesAll body + Argument.captures keywords +
      Term.capturesAll decorators
  | .importNames .. | .importFrom .. | .pass _ => 0
  | .assign _ [target] value => target.captures + value.captures
  | .assign .. | .other .. => 1
  | .ret _ value => Term.captures? value
  | .expr _ value => value.captures
  | .tryExcept _ body handlers orelse finalbody =>
    Statement.capturesAll body + Catch.captures handlers + Statement.capturesAll orelse +
      Statement.capturesAll finalbody

/-- How many captures the conversion of a block makes. -/
def Grammar.Statement.capturesAll : List Statement → Nat
  | [] => 0
  | s :: rest => s.captures + Statement.capturesAll rest

/-- How many captures the conversion of handlers makes. -/
def Grammar.Catch.captures : List Catch → Nat
  | [] => 0
  | .mk type _ body :: rest =>
    Term.captures? type + Statement.capturesAll body + Catch.captures rest

end

/-! ## Whole sources -/

/-- What reading a source gives: the module and the number of captures. -/
structure Parsed where
  module : Module
  captures : Nat
deriving Inhabited

/-- Reads a source. A null character or a lone surrogate makes it unreadable. -/
def parseSource (source : Text) (path : Text) : Except Fault Parsed :=
  match source.chars? with
  | none => .error (.unparsed (some path))
  | some chars =>
    if chars.contains '\x00' then .error (.unparsed (some path))
    else
      match readProgram chars with
      | none => .error (.unparsed (some path))
      | some statements => do
        return ⟨⟨← Statement.toBlock (.ofText source) statements⟩, Statement.capturesAll statements⟩

/-- The path that stands for a source without a file. -/
def noFile : Text := "<string>"

/-- Reads a fragment of code, less the indentation that its lines share. -/
def parseStatements (source : Text) : Except Fault Block := do
  return (← parseSource (Source.dedent source) noFile).module.body

/-- Reads an expression, less the blanks around it, in which no more than `limit` brackets are open at
once. -/
def parseExpressionWithin (limit : Nat) (source : Text) : Except Fault Expr :=
  let text := source.stripped
  match text.firstRun CodePoint.isSurrogate with
  | some (first, start, stop) =>
    .error (.file (.unencodable "utf-8" first start stop "surrogates not allowed"))
  | none =>
    let chars := text.filterMap CodePoint.char?
    if chars.contains '\x00' then .error .nullByte
    else
      match readTermWithin limit chars with
      | none => .error (.unparsed none)
      | some t => t.toExpr (.ofText text)

/-- Reads an expression, less the blanks around it. -/
def parseExpression (source : Text) : Except Fault Expr := parseExpressionWithin mostBrackets source

end Refactory
