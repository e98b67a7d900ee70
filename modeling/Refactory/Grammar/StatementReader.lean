import Refactory.Grammar.PatternReader
import Refactory.Grammar.Statement

/-! # Reading statements

A block is an indented run of statements, or simple statements on the line of its header. The
readers of nested blocks are a parameter, and `statementReader` ties the knot with a bound on the
depth.

* `readProgram`: the statements of a whole source.
* `readTermWithin`: the expression that a whole source is. -/

namespace Refactory.Grammar

/-! ## Simple statements -/

/-- The operators that combine an assignment with an operation. -/
def augmentedOperators : List String :=
  ["+=", "-=", "*=", "@=", "/=", "%=", "&=", "|=", "^=", "<<=", ">>=", "**=", "//="]

/-- What can stand behind an assignment sign: expressions or a `yield`. -/
def assigned (r : Readers) : Reader Term := do
  if ← nextIs "yield" then yieldExpression r else starExpressions r

/-- The targets and the value of an assignment from a sign on; the fuel bounds their number. -/
def assignment (r : Readers) : Nat → List Term → Reader (List Term × Term)
  | 0, _ => Reader.fail
  | fuel + 1, seen => do
    expect "="
    if ← nextIs "yield" then return (seen.reverse, ← yieldExpression r)
    else
      let t ← starExpressions r
      if ← nextIs "=" then
        if t.isTarget then assignment r fuel (t :: seen) else Reader.fail
      else return (seen.reverse, t)

/-- Takes an operator of a combined assignment, if one comes next. -/
def acceptAugmented : Reader Bool := do
  match ← peek with
  | some (.symbol s) =>
    if augmentedOperators.contains s then
      let _ ← advance
      return true
    else return false
  | _ => return false

/-- A statement that begins with an expression. -/
def expressionStatement (r : Readers) : Reader Statement := do
  let start ← here
  let first ← starExpressions r
  if ← nextIs "=" then
    if first.isTarget then
      let (targets, value) ← fun c => assignment r c.rest.length [first] c
      return .assign (← spanFrom start) targets value
    else Reader.fail
  else if ← accept ":" then
    if first.isSingleTarget then
      let _ ← r .expression
      if ← accept "=" then
        let _ ← assigned r
      return .other (← spanFrom start) "AnnAssign"
    else Reader.fail
  else if ← acceptAugmented then
    if first.isSingleTarget then
      let _ ← assigned r
      return .other (← spanFrom start) "AugAssign"
    else Reader.fail
  else return .expr (← spanFrom start) first

/-- Names with dots between them, as one text. -/
def dottedName : Reader Text := do
  let first ← identifier
  let others ← Reader.many (do expect "."; identifier)
  return Text.join "." (first :: others)

/-- The name behind an `as`, if there is one. -/
def asName : Reader (Option Text) := do
  if ← accept "as" then return some (← identifier) else return none

/-- An import of whole modules. -/
def importStatement : Reader Statement := do
  let start ← here
  expect "import"
  let item : Reader ImportedName := do
    let name ← dottedName
    return ⟨name, ← asName⟩
  let first ← item
  let others ← Reader.many (do expect ","; item)
  return .importNames (← spanFrom start) (first :: others)

/-- The dots in front of a relative import, counted. -/
def relativeLevel : Reader Nat := do
  let dots ← Reader.many (do
    match ← advance with
    | .symbol s => if s == "." then return 1 else if s == "..." then return 3 else Reader.fail
    | _ => Reader.fail)
  return dots.foldl (· + ·) 0

/-- The names that an import takes from a module. -/
def importedNames : Reader (List ImportedName) := do
  let item : Reader ImportedName := do
    let name ← identifier
    return ⟨name, ← asName⟩
  if ← accept "*" then return [⟨"*", none⟩]
  else if ← accept "(" then
    let (names, _) ← commaSeparated item
    expect ")"
    return names
  else
    let first ← item
    let others ← Reader.many (do expect ","; item)
    refuse ","
    return first :: others

/-- An import from a module. -/
def fromStatement : Reader Statement := do
  let start ← here
  expect "from"
  let level ← relativeLevel
  let module ← if ← nextIs "import" then pure none else some <$> dottedName
  if level = 0 && module.isNone then Reader.fail
  else
    expect "import"
    let names ← importedNames
    return .importFrom (← spanFrom start) module names level

/-- What `raise` takes: an exception and a cause, or nothing. -/
def raiseOperands (r : Readers) : Reader Unit := do
  if (← Reader.optional (r .expression)).isSome then
    if ← accept "from" then
      let _ ← r .expression

/-- What can be deleted, with commas between. -/
def deleteOperands (r : Readers) : Reader Unit := do
  let (items, _) ← commaSeparated (r .primary)
  if Term.areDeletable items then return () else Reader.fail

/-- A condition with an optional message. -/
def assertOperands (r : Readers) : Reader Unit := do
  let _ ← r .expression
  if ← accept "," then
    let _ ← r .expression

/-- Names with commas between. -/
def nameOperands : Reader Unit := do
  let _ ← identifier
  let _ ← Reader.many (do expect ","; identifier)

/-- A statement behind a keyword of which only the extent is kept. -/
def keptWhole (kind : Text) (operands : Reader Unit) : Reader Statement := do
  let start ← here
  let _ ← advance
  operands
  return .other (← spanFrom start) kind

/-- A simple statement. -/
def simpleStatement (r : Readers) : Reader Statement := do
  let start ← here
  match ← peek with
  | some (.symbol s) =>
    if s == "return" then
      let _ ← advance
      let value ← Reader.optional (starExpressions r)
      return .ret (← spanFrom start) value
    else if s == "import" then importStatement
    else if s == "from" then fromStatement
    else if s == "pass" then
      let _ ← advance
      return .pass (← spanFrom start)
    else if s == "yield" then
      let e ← yieldExpression r
      return .expr (← spanFrom start) e
    else if s == "raise" then keptWhole "Raise" (raiseOperands r)
    else if s == "del" then keptWhole "Delete" (deleteOperands r)
    else if s == "assert" then keptWhole "Assert" (assertOperands r)
    else if s == "break" then keptWhole "Break" (pure ())
    else if s == "continue" then keptWhole "Continue" (pure ())
    else if s == "global" then keptWhole "Global" nameOperands
    else if s == "nonlocal" then keptWhole "Nonlocal" nameOperands
    else expressionStatement r
  | _ => expressionStatement r

/-- Simple statements with semicolons between them, up to the line end. -/
def simpleStatements (r : Readers) : Reader (List Statement) := do
  let first ← simpleStatement r
  let others ← Reader.many (do expect ";"; simpleStatement r)
  let _ ← accept ";"
  newline
  return first :: others

/-! ## Compound statements -/

/-- A colon and a block. -/
def suite (r : Readers) (statements : Reader (List Statement)) : Reader (List Statement) := do
  expect ":"
  match ← peek with
  | some .newline =>
    newline
    indent
    let body ← statements
    dedent
    return body
  | _ => simpleStatements r

/-- An optional block behind a keyword. -/
def optionalSuite (r : Readers) (statements : Reader (List Statement)) (word : String) :
    Reader (List Statement) := do
  if ← accept word then suite r statements else return []

/-- A function definition from its keyword on; `start` is where it began. -/
def functionDefinition (r : Readers) (statements : Reader (List Statement)) (start : Position)
    (isAsync : Bool) (decorators : List Term) : Reader Statement := do
  expect "def"
  let name ← identifier
  expect "("
  let ps ← params r true ")"
  expect ")"
  let returns ← if ← accept "->" then some <$> r .expression else pure none
  let body ← suite r statements
  return .function (← spanFrom start) isAsync name ps returns decorators body

/-- A class definition. -/
def classDefinition (r : Readers) (statements : Reader (List Statement)) (decorators : List Term) :
    Reader Statement := do
  let start ← here
  expect "class"
  let name ← identifier
  let (bases, keywords) ← if ← accept "(" then arguments r none else pure ([], [])
  let body ← suite r statements
  return .classDef (← spanFrom start) name bases keywords decorators body

/-- An item of a `with` statement. -/
def withItem (r : Readers) : Reader Unit := do
  let _ ← r .expression
  if ← accept "as" then
    let _ ← target r

/-- The items of a `with` statement, in parentheses or not, up to the colon. -/
def withItems (r : Readers) : Reader Unit :=
  let grouped : Reader Unit := do
    expect "("
    let _ ← commaSeparated (withItem r)
    expect ")"
    if ← nextIs ":" then return () else Reader.fail
  let bare : Reader Unit := do
    withItem r
    let _ ← Reader.many (do expect ","; withItem r)
  grouped.or bare

/-- A `with` statement from its keyword on. -/
def withStatement (r : Readers) (statements : Reader (List Statement)) (start : Position)
    (kind : Text) : Reader Statement := do
  expect "with"
  withItems r
  let _ ← suite r statements
  return .other (← spanFrom start) kind

/-- A `for` statement from its keyword on. -/
def forStatement (r : Readers) (statements : Reader (List Statement)) (start : Position)
    (kind : Text) : Reader Statement := do
  expect "for"
  let _ ← targets r
  expect "in"
  let _ ← starExpressions r
  let _ ← suite r statements
  let _ ← optionalSuite r statements "else"
  return .other (← spanFrom start) kind

/-- A conditional statement. -/
def ifStatement (r : Readers) (statements : Reader (List Statement)) : Reader Statement := do
  let start ← here
  let branch (word : String) : Reader Unit := do
    expect word
    let _ ← namedExpression r
    let _ ← suite r statements
  branch "if"
  let _ ← Reader.many (branch "elif")
  let _ ← optionalSuite r statements "else"
  return .other (← spanFrom start) "If"

/-- A `while` statement. -/
def whileStatement (r : Readers) (statements : Reader (List Statement)) : Reader Statement := do
  let start ← here
  expect "while"
  let _ ← namedExpression r
  let _ ← suite r statements
  let _ ← optionalSuite r statements "else"
  return .other (← spanFrom start) "While"

/-- A handler of a `try` statement, with a star behind its keyword or not. -/
def handler (r : Readers) (statements : Reader (List Statement)) (star : Bool) : Reader Catch := do
  expect "except"
  if star then expect "*"
  if !star && (← nextIs ":") then
    return .mk none none (← suite r statements)
  else
    let type ← r .expression
    let name ← asName
    return .mk (some type) name (← suite r statements)

/-- Whether a handler with a star comes next. -/
def nextIsStarHandler : Reader Bool := fun c =>
  match c.rest with
  | ⟨.symbol s, _⟩ :: ⟨.symbol t, _⟩ :: _ => some (s == "except" && t == "*", c)
  | _ => some (false, c)

/-- A `try` statement: handlers of one sort with optional `else` and `finally` blocks, or a
`finally` block alone. -/
def tryStatement (r : Readers) (statements : Reader (List Statement)) : Reader Statement := do
  let start ← here
  expect "try"
  let body ← suite r statements
  if ← accept "finally" then
    let finalbody ← suite r statements
    return .tryExcept (← spanFrom start) body [] [] finalbody
  else
    let star ← nextIsStarHandler
    let handlers ← Reader.some (handler r statements star)
    let orelse ← optionalSuite r statements "else"
    let finalbody ← optionalSuite r statements "finally"
    let span ← spanFrom start
    if star then return .other span "TryStar"
    else return .tryExcept span body handlers orelse finalbody

/-- A case of a `match` statement. -/
def caseBlock (r : Readers) (statements : Reader (List Statement)) (depth : Nat) :
    Reader Unit := do
  if ← nextIsName "case" then
    let _ ← advance
    patterns r depth
    if ← accept "if" then
      let _ ← namedExpression r
    let _ ← suite r statements
  else Reader.fail

/-- The subject of a `match` statement: an expression, or elements with a comma. -/
def matchSubject (r : Readers) : Reader Unit := do
  match ← commaSeparated (element r) with
  | ([t], false) => if t.isStarred then Reader.fail else return ()
  | _ => return ()

/-- A `match` statement. Its keywords are names elsewhere. -/
def matchStatement (r : Readers) (statements : Reader (List Statement)) (depth : Nat) :
    Reader Statement := do
  let start ← here
  let _ ← identifier
  matchSubject r
  expect ":"
  newline
  indent
  let _ ← Reader.some (caseBlock r statements depth)
  dedent
  return .other (← spanFrom start) "Match"

/-- A definition or another statement that can be asynchronous. -/
def asyncStatement (r : Readers) (statements : Reader (List Statement)) (decorators : List Term) :
    Reader Statement := do
  let start ← here
  expect "async"
  if ← nextIs "def" then functionDefinition r statements start true decorators
  else if !decorators.isEmpty then Reader.fail
  else if ← nextIs "with" then withStatement r statements start "AsyncWith"
  else forStatement r statements start "AsyncFor"

/-- A definition behind its decorators, located at its keyword. -/
def decorated (r : Readers) (statements : Reader (List Statement)) : Reader Statement := do
  let decorators ← Reader.some (do
    expect "@"
    let e ← namedExpression r
    newline
    return e)
  let start ← here
  if ← nextIs "class" then classDefinition r statements decorators
  else if ← nextIs "async" then asyncStatement r statements decorators
  else functionDefinition r statements start false decorators

/-- A statement of either sort; simple statements on one line come together. -/
def statement (r : Readers) (statements : Reader (List Statement)) (depth : Nat) :
    Reader (List Statement) := do
  let start ← here
  let single (p : Reader Statement) : Reader (List Statement) := do return [← p]
  match ← peek with
  | some (.symbol s) =>
    if s == "def" then single (functionDefinition r statements start false [])
    else if s == "@" then single (decorated r statements)
    else if s == "async" then single (asyncStatement r statements [])
    else if s == "class" then single (classDefinition r statements [])
    else if s == "if" then single (ifStatement r statements)
    else if s == "with" then single (withStatement r statements start "With")
    else if s == "for" then single (forStatement r statements start "For")
    else if s == "while" then single (whileStatement r statements)
    else if s == "try" then single (tryStatement r statements)
    else simpleStatements r
  | some (.name id) =>
    if id == Text.ofString "match" then
      (single (matchStatement r statements depth)).or (simpleStatements r)
    else simpleStatements r
  | _ => simpleStatements r

/-- The statements of a block that are nested no deeper than the given depth. -/
def statementReader (r : Readers) : Nat → Reader (List Statement)
  | 0 => Reader.fail
  | depth + 1 => do
    let groups ← Reader.some
      (fun c => statement r (statementReader r depth) (depth + 1) c)
    return groups.flatten

/-! ## Whole sources -/

/-- The statements of a source. -/
def readProgram (source : List Char) : Option (List Statement) := do
  let passage := (placed source).ended
  let tokens ← tokenize passage
  if tokens.isEmpty then return []
  let depth := source.length + 2
  let (statements, c) ← statementReader (readers depth) depth ⟨tokens, {}⟩
  if c.rest.isEmpty then return statements else none

/-- The expression that a source is, commas making a tuple; no more than `limit` brackets are open at
once. -/
def readTermWithin (limit : Nat) (source : List Char) : Option Term := do
  let passage := placed source
  let tokens ← tokenizeWithin limit passage
  let r := readers (source.length + 2)
  let whole : Reader Term := do
    let t := tupleOf (← commaSeparated (r .expression))
    let _ ← Reader.many newline
    atEnd
    return t
  let (t, _) ← whole ⟨tokens, {}⟩
  return t

end Refactory.Grammar
