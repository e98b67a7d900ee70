import Refactory.Grammar.Cursor
import Refactory.Grammar.Formatted

/-! # Reading expressions

One reader per level of binding strength, each built on the next tighter one. Where an expression
contains another behind a token of its own, as in brackets, the reader of the inner one is a
parameter: `Readers` gives one for each level that is entered that way, and `readers` ties the knot
with a bound on the depth.

* `readers`: the readers up to a depth.
* `starExpressions`: expressions with commas between them, which are a tuple.
* `Term.isTarget`, `Term.isSingleTarget`, `Term.isDeletable`: what can be assigned to. -/

namespace Refactory.Grammar

/-- The levels at which an inner expression can be entered. -/
inductive Level
  | expression | disjunction | inversion | bitOr | factor | primary
deriving DecidableEq, Inhabited

/-- A reader for each level. -/
abbrev Readers := Level → Reader Term

/-! ## What can be assigned to -/

/-- A name, an attribute or a subscript. -/
def Term.isSingleTarget : Term → Bool
  | .name _ | .attribute .. | .subscript .. => true
  | _ => false

/-- Whether a term is a star in front of something. -/
def Term.isStarred : Term → Bool
  | .starred _ => true
  | _ => false

mutual

/-- What an assignment can unpack into: a single target, or a tuple or list of targets. A star can
stand in front of a target, but not of a star. -/
def Term.isTarget : Term → Bool
  | .name _ | .attribute .. | .subscript .. => true
  | .tuple elements | .list elements => Term.areTargets elements
  | .starred value => !value.isStarred && value.isTarget
  | _ => false

/-- Whether all terms are targets. -/
def Term.areTargets : List Term → Bool
  | [] => true
  | t :: rest => t.isTarget && Term.areTargets rest

end

mutual

/-- What can be deleted: a single target, or a tuple or list of what can be deleted. -/
def Term.isDeletable : Term → Bool
  | .name _ | .attribute .. | .subscript .. => true
  | .tuple elements | .list elements => Term.areDeletable elements
  | _ => false

/-- Whether all terms can be deleted. -/
def Term.areDeletable : List Term → Bool
  | [] => true
  | t :: rest => t.isDeletable && Term.areDeletable rest

end

/-! ## Forms that contain expressions -/

/-- Several items are a tuple, and so is one with a comma behind it. -/
def tupleOf (items : List Term × Bool) : Term :=
  match items with
  | ([t], false) => t
  | (ts, _) => .tuple ts

/-- An expression that can give its value a name. -/
def namedExpression (r : Readers) : Reader Term := do
  if ← nameThen ":=" then
    let start ← here
    let id ← identifier
    expect ":="
    let value ← r .expression
    return .named (← spanFrom start) id value
  else
    let e ← r .expression
    refuse ":="
    return e

/-- An element of a display or a sequence: an expression, or a star with what it unpacks. -/
def element (r : Readers) : Reader Term := do
  if ← accept "*" then return .starred (← r .bitOr) else namedExpression r

/-- An expression, or a star with what it unpacks. -/
def starExpression (r : Readers) : Reader Term := do
  if ← accept "*" then return .starred (← r .bitOr) else r .expression

/-- Expressions with commas between them. -/
def starExpressions (r : Readers) : Reader Term := do
  return tupleOf (← commaSeparated (starExpression r))

/-- A `yield` with what it yields. -/
def yieldExpression (r : Readers) : Reader Term := do
  let start ← here
  expect "yield"
  if ← accept "from" then
    let value ← r .expression
    return .yieldFrom (← spanFrom start) value
  else
    let value ← Reader.optional (starExpressions r)
    return .yield (← spanFrom start) value

/-- A target, or a star in front of one. -/
def target (r : Readers) : Reader Term := do
  let t ← if ← accept "*" then Term.starred <$> r .primary else r .primary
  if t.isTarget then return t else Reader.fail

/-- Targets with commas between them. -/
def targets (r : Readers) : Reader Term := do
  return tupleOf (← commaSeparated (target r))

/-- Whether a clause of a comprehension comes next. -/
def nextIsClause : Reader Bool := do
  return (← nextIs "for") || (← nextIs "async")

/-- One clause of a comprehension. -/
def clause (r : Readers) : Reader Clause := do
  let isAsync ← accept "async"
  expect "for"
  let target ← targets r
  expect "in"
  let iter ← r .disjunction
  let conditions ← Reader.many (do expect "if"; r .disjunction)
  return .mk isAsync target iter conditions

/-- The clauses of a comprehension. -/
def clauses (r : Readers) : Reader (List Clause) := Reader.some (clause r)

/-! ## Parameter lists -/

/-- A parameter list as far as it has been read. -/
structure ParamsSoFar where
  positionalOnly : List ParamName := []
  positional : List ParamName := []
  defaults : List Term := []
  slash : Bool := false
  star : Bool := false
  varPositional : Option ParamName := none
  keywordOnly : List ParamName := []
  keywordDefaults : List (Option Term) := []
  varKeyword : Option ParamName := none

/-- The finished parameter list. A star without a name needs a parameter behind it. -/
def ParamsSoFar.finish (p : ParamsSoFar) : Option Params :=
  if p.star && p.varPositional.isNone && p.keywordOnly.isEmpty then none
  else some (.mk p.positionalOnly p.positional p.varPositional p.keywordOnly p.keywordDefaults
    p.varKeyword p.defaults)

/-- A parameter's name with its annotation, if those are allowed. -/
def paramName (r : Readers) (annotated starAnnotated : Bool) : Reader ParamName := do
  let id ← identifier
  if annotated then
    if ← accept ":" then
      let hint ← if starAnnotated then starExpression r else r .expression
      return .mk id (some hint)
  return .mk id none

/-- One item of a parameter list. After a default, every positional parameter has one. -/
def paramItem (r : Readers) (annotated : Bool) (p : ParamsSoFar) : Reader ParamsSoFar := do
  if p.varKeyword.isSome then Reader.fail
  else if ← accept "/" then
    if p.slash || p.star || p.positional.isEmpty then Reader.fail
    else return { p with positionalOnly := p.positional, positional := [], slash := true }
  else if ← accept "**" then
    return { p with varKeyword := some (← paramName r annotated false) }
  else if ← accept "*" then
    if p.star then Reader.fail
    else if ← nextIs "," then return { p with star := true }
    else return { p with star := true, varPositional := some (← paramName r annotated true) }
  else
    let name ← paramName r annotated false
    let default ← if ← accept "=" then some <$> r .expression else pure none
    if p.star then
      return { p with
        keywordOnly := p.keywordOnly ++ [name]
        keywordDefaults := p.keywordDefaults ++ [default] }
    else
      match default with
      | some d => return { p with positional := p.positional ++ [name], defaults := p.defaults ++ [d] }
      | none =>
        if p.defaults.isEmpty then return { p with positional := p.positional ++ [name] }
        else Reader.fail

/-- The items of a parameter list up to `close`; the fuel bounds their number. -/
def paramItems (r : Readers) (annotated : Bool) (close : String) :
    Nat → ParamsSoFar → Reader ParamsSoFar
  | 0, _ => Reader.fail
  | fuel + 1, p => do
    if ← nextIs close then return p
    else
      let p ← paramItem r annotated p
      if ← accept "," then paramItems r annotated close fuel p
      else if ← nextIs close then return p
      else Reader.fail

/-- A parameter list up to the symbol behind it. -/
def params (r : Readers) (annotated : Bool) (close : String) : Reader Params := fun c => do
  let (p, c) ← paramItems r annotated close (c.rest.length + 1) {} c
  return (← p.finish, c)

/-- A function without a name. -/
def lambda (r : Readers) : Reader Term := do
  let start ← here
  expect "lambda"
  let ps ← params r false ":"
  expect ":"
  let body ← r .expression
  return .lambda (← spanFrom start) ps body

/-! ## Calls and subscripts -/

/-- The arguments of a call as far as they have been read, in reverse. -/
structure ArgumentsSoFar where
  positional : List Term := []
  keywords : List Argument := []
  /-- Whether an unpacked mapping has been read, after which no positional argument can stand. -/
  unpacked : Bool := false

/-- One argument. Behind a keyword argument a positional one needs a star. -/
def argument (r : Readers) (a : ArgumentsSoFar) : Reader ArgumentsSoFar := do
  if ← accept "**" then
    let value ← r .expression
    return { a with keywords := .mk none value :: a.keywords, unpacked := true }
  else if ← accept "*" then
    if a.unpacked then Reader.fail
    else return { a with positional := .starred (← r .expression) :: a.positional }
  else if ← nameThen "=" then
    let id ← identifier
    expect "="
    let value ← r .expression
    return { a with keywords := .mk (some id) value :: a.keywords }
  else if a.keywords.isEmpty then
    let e ← namedExpression r
    refuse "="
    return { a with positional := e :: a.positional }
  else Reader.fail

/-- The arguments that follow others; the fuel bounds their number. -/
def moreArguments (r : Readers) : Nat → ArgumentsSoFar → Reader ArgumentsSoFar
  | 0, _ => Reader.fail
  | fuel + 1, a => do
    if ← accept "," then
      if ← nextIs ")" then return a
      else moreArguments r fuel (← argument r a)
    else return a

/-- The arguments behind the first, and the parenthesis that closes them. -/
def closeArguments (r : Readers) (first : ArgumentsSoFar) : Reader (List Term × List Argument) := do
  let a ← fun c => moreArguments r (c.rest.length + 1) first c
  expect ")"
  return (a.positional.reverse, a.keywords.reverse)

/-- Arguments and the parenthesis that closes them. A comprehension can be the only argument of a
call, whose parenthesis stands at `start`. -/
def arguments (r : Readers) (start : Option Position) : Reader (List Term × List Argument) := do
  if ← accept ")" then return ([], [])
  else
    let first ← argument r {}
    match start, first.positional with
    | some start, [e] =>
      if !e.isStarred && (← nextIsClause) then
        let cs ← clauses r
        expect ")"
        return ([.generator (← spanFrom start) e cs], [])
      else closeArguments r first
    | _, _ => closeArguments r first

/-- One item of a subscript: an expression, a star with what it unpacks, or a slice. -/
def sliceItem (r : Readers) : Reader Term := do
  let start ← here
  if ← accept "*" then return .starred (← r .expression)
  else if ← nameThen ":=" then namedExpression r
  else
    let lower ← if ← nextIs ":" then pure none else some <$> r .expression
    refuse ":="
    if ← accept ":" then
      let upper ← Reader.optional (r .expression)
      let step ← if ← accept ":" then Reader.optional (r .expression) else pure none
      return .slice (← spanFrom start) lower upper step
    else
      match lower with
      | some e => return e
      | none => Reader.fail

/-- The items of a subscript. A star makes a tuple even alone. -/
def subscriptIndex (r : Readers) : Reader Term := do
  match ← commaSeparated (sliceItem r) with
  | ([.starred e], _) => return .tuple [.starred e]
  | items => return tupleOf items

/-- Calls, subscripts and attributes of a term; the fuel bounds their number. -/
def trailers (r : Readers) (start : Position) : Nat → Term → Reader Term
  | 0, t => pure t
  | fuel + 1, t => do
    if ← accept "." then
      let attr ← identifier
      trailers r start fuel (.attribute t attr)
    else if ← nextIs "(" then
      let open_ ← here
      expect "("
      let (args, keywords) ← arguments r (some open_)
      trailers r start fuel (.call t args keywords)
    else if ← accept "[" then
      let index ← subscriptIndex r
      expect "]"
      trailers r start fuel (.subscript (← spanFrom start) t index)
    else return t

/-! ## Atoms -/

/-- What follows an opening parenthesis: a tuple, a comprehension or a single expression. -/
def parenthesis (r : Readers) (start : Position) : Reader Term := do
  if ← accept ")" then return .tuple []
  else if ← nextIs "yield" then
    let e ← yieldExpression r
    expect ")"
    return e
  else
    let first ← element r
    if ← accept "," then
      if ← accept ")" then return .tuple [first]
      else
        let (others, _) ← commaSeparated (element r)
        expect ")"
        return .tuple (first :: others)
    else if first.isStarred then Reader.fail
    else if ← nextIsClause then
      let cs ← clauses r
      expect ")"
      return .generator (← spanFrom start) first cs
    else
      expect ")"
      return first

/-- What follows an opening bracket. -/
def bracket (r : Readers) (start : Position) : Reader Term := do
  if ← accept "]" then return .list []
  else
    let first ← element r
    if !first.isStarred && (← nextIsClause) then
      let cs ← clauses r
      expect "]"
      return .listComp (← spanFrom start) first cs
    else
      let others ← Reader.many (do expect ","; element r)
      let _ ← accept ","
      expect "]"
      return .list (first :: others)

/-- An item of a dictionary: a key with its value, or two stars with what they unpack. -/
def dictEntry (r : Readers) : Reader (Option Term × Term) := do
  if ← accept "**" then return (none, ← r .bitOr)
  else
    let key ← r .expression
    expect ":"
    return (some key, ← r .expression)

/-- The rest of a dictionary behind its first item. -/
def dictRest (r : Readers) (first : Option Term × Term) : Reader Term := do
  let others ← Reader.many (do expect ","; dictEntry r)
  let _ ← accept ","
  expect "\x7d"
  return .dict (first.1 :: others.map (·.1)) (first.2 :: others.map (·.2))

/-- The rest of a set behind its first element. -/
def setRest (r : Readers) (start : Position) (first : Term) : Reader Term := do
  if !first.isStarred && (← nextIsClause) then
    let cs ← clauses r
    expect "\x7d"
    return .setComp (← spanFrom start) first cs
  else
    let others ← Reader.many (do expect ","; element r)
    let _ ← accept ","
    expect "\x7d"
    return .set (← spanFrom start) (first :: others)

/-- What follows an opening brace: a dictionary or a set. -/
def brace (r : Readers) (start : Position) : Reader Term := do
  if ← accept "\x7d" then return .dict [] []
  else if ← nextIs "**" then dictRest r (← dictEntry r)
  else if (← nextIs "*") || (← nameThen ":=") then setRest r start (← element r)
  else
    let first ← namedExpression r
    if ← accept ":" then
      let value ← r .expression
      if ← nextIsClause then
        let cs ← clauses r
        expect "\x7d"
        return .dictComp (← spanFrom start) first value cs
      else dictRest r (some first, value)
    else setRest r start first

/-- Takes a string literal. -/
def stringToken : Reader (StringMarks × Passage) := do
  match ← advance with
  | .string marks body => return (marks, body)
  | _ => Reader.fail

/-- The expression in a field of a formatted string. -/
def fieldExpression (r : Readers) (p : Passage) : Option Term := do
  let tokens ← tokenize p
  let (t, c) ← r .primary ⟨tokens, p.stop⟩
  if c.rest.isEmpty then return t else none

/-- The parts of one literal of text. -/
def literalParts (r : Readers) (marks : StringMarks) (body : Passage) : Option (List Part) :=
  if marks.formatted then formattedParts (fieldExpression r) marks.raw body.chars
  else (literalValue marks.raw (body.chars.map (·.char))).map (Part.consText · [])

/-- Adjacent literals are one. Bytes do not mix with text, and one formatted literal makes the whole
formatted. -/
def joinLiterals (r : Readers) (span : Span) (literals : List (StringMarks × Passage)) :
    Option Term :=
  if literals.all (·.1.bytes) then do
    let values ← literals.mapM fun (marks, body) =>
      unescapeBytes marks.raw (body.chars.map (·.char))
    return .bytes span values.flatten
  else if literals.any (·.1.bytes) then none
  else do
    let parts ← literals.mapM fun (marks, body) => literalParts r marks body
    let joined := parts.foldr Part.append []
    if literals.any (·.1.formatted) then return .formatted span joined
    else
      let unicode := (literals.head?.map (·.1.unicode)).getD false
      match joined with
      | [] => return .string [] unicode
      | [.text value] => return .string value unicode
      | _ => none

/-- One or more string literals. -/
def strings (r : Readers) : Reader Term := do
  let start ← here
  let literals ← Reader.some stringToken
  let span ← spanFrom start
  match joinLiterals r span literals with
  | some t => return t
  | none => Reader.fail

/-- Names, literals and bracketed forms. -/
def atom (r : Readers) : Reader Term := do
  let start ← here
  match ← peek with
  | some (.string ..) => strings r
  | some (.name id) =>
    let _ ← advance
    return .name id
  | some (.number value) =>
    let _ ← advance
    return .number value
  | some (.symbol s) =>
    let _ ← advance
    if s == "True" then return .truth true
    else if s == "False" then return .truth false
    else if s == "None" then return .noneLiteral
    else if s == "..." then return .ellipsis (← spanFrom start)
    else if s == "(" then parenthesis r start
    else if s == "[" then bracket r start
    else if s == "\x7b" then brace r start
    else Reader.fail
  | _ => Reader.fail

/-! ## Levels of binding strength -/

/-- An atom with its calls, subscripts and attributes. -/
def primary (r : Readers) : Reader Term := do
  let start ← here
  let t ← atom r
  fun c => trailers r start c.rest.length t c

/-- A primary, perhaps awaited. -/
def awaited (r : Readers) : Reader Term := do
  let start ← here
  if ← accept "await" then
    let t ← primary r
    return .await (← spanFrom start) t
  else primary r

/-- A power, whose exponent can have a sign. -/
def power (r : Readers) : Reader Term := do
  let base ← awaited r
  if ← accept "**" then return .binary base .pow (← r .factor) else return base

/-- The operator that a sign stands for. -/
def sign? (s : String) : Option UnaryOp :=
  [UnaryOp.plus, .minus, .invert].find? (·.token == s)

/-- A power with signs in front. -/
def factor (r : Readers) : Reader Term := do
  match ← peek with
  | some (.symbol s) =>
    match sign? s with
    | some op =>
      let _ ← advance
      return .unary op (← r .factor)
    | none => power r
  | _ => power r

/-- Takes one of the operators if it comes next. -/
def operator (ops : List BinaryOp) : Reader BinaryOp := do
  match ← advance with
  | .symbol s =>
    match ops.find? (·.token == s) with
    | some op => return op
    | none => Reader.fail
  | _ => Reader.fail

/-- Operands of one strength with operators between them, grouped to the left. -/
def leftGrouped (operand : Reader Term) (ops : List BinaryOp) : Reader Term := do
  let first ← operand
  let others ← Reader.many (do
    let op ← operator ops
    return (op, ← operand))
  return others.foldl (fun t (op, u) => .binary t op u) first

/-- Products and quotients. -/
def term (r : Readers) : Reader Term :=
  leftGrouped (factor r) [.mult, .div, .mod, .floorDiv, .matMult]

/-- Sums and differences. -/
def sum (r : Readers) : Reader Term := leftGrouped (term r) [.add, .sub]

/-- Shifts. -/
def shift (r : Readers) : Reader Term := leftGrouped (sum r) [.lshift, .rshift]

/-- Bitwise conjunctions. -/
def bitAnd (r : Readers) : Reader Term := leftGrouped (shift r) [.bitAnd]

/-- Bitwise exclusive disjunctions. -/
def bitXor (r : Readers) : Reader Term := leftGrouped (bitAnd r) [.bitXor]

/-- Bitwise disjunctions. -/
def bitOr (r : Readers) : Reader Term := leftGrouped (bitXor r) [.bitOr]

/-- An operator of a comparison. -/
def compareOperator : Reader CompareOp := do
  match ← advance with
  | .symbol s =>
    if s == "is" then
      if ← accept "not" then return .notSame else return .same
    else if s == "not" then
      expect "in"
      return .notMember
    else
      match CompareOp.all.find? (·.token == s) with
      | some op => return op
      | none => Reader.fail
  | _ => Reader.fail

/-- A chain of comparisons. -/
def comparison (r : Readers) : Reader Term := do
  let first ← bitOr r
  let others ← Reader.many (do
    let op ← compareOperator
    return (op, ← bitOr r))
  if others.isEmpty then return first
  else return .compare first (others.map (·.1)) (others.map (·.2))

/-- A comparison, perhaps negated. -/
def inversion (r : Readers) : Reader Term := do
  if ← accept "not" then return .unary .negation (← r .inversion) else comparison r

/-- Operands of a boolean operator, which form one list. -/
def joined (operand : Reader Term) (op : BoolOp) : Reader Term := do
  let first ← operand
  let others ← Reader.many (do expect op.token; operand)
  if others.isEmpty then return first else return .logical op (first :: others)

/-- Conjunctions. -/
def conjunction (r : Readers) : Reader Term := joined (inversion r) .conj

/-- Disjunctions. -/
def disjunction (r : Readers) : Reader Term := joined (conjunction r) .disj

/-- A conditional expression, a disjunction or a function without a name. -/
def expression (r : Readers) : Reader Term := do
  let start ← here
  if ← nextIs "lambda" then lambda r
  else
    let body ← disjunction r
    if ← accept "if" then
      let test ← disjunction r
      expect "else"
      let orelse ← r .expression
      return .conditional (← spanFrom start) test body orelse
    else return body

/-- The reader of a level over those of the inner expressions. -/
def atLevel (r : Readers) : Level → Reader Term
  | .expression => expression r
  | .disjunction => disjunction r
  | .inversion => inversion r
  | .bitOr => bitOr r
  | .factor => factor r
  | .primary => primary r

/-- The readers of expressions that are nested no deeper than the given depth. -/
def readers : Nat → Readers
  | 0 => fun _ => Reader.fail
  | depth + 1 => fun level c => atLevel (readers depth) level c

end Refactory.Grammar
