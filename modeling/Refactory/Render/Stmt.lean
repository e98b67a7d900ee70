import Refactory.Render.Expr
import Refactory.Source.Indent

/-! # Rendering statements and modules

A statement becomes a list of lines, indented by four spaces per level. An unsupported construct in
the header of a statement replaces the statement by a placeholder comment; nested statements stand
for themselves. A nested block in which every line is a comment gets a `pass`. -/

namespace Refactory

/-- The indentation of a level; levels below zero have none. -/
def levelPad (level : Int) : Text := Text.times (4 * level.toNat) " "

/-- The text of an alias. -/
def Alias.render (a : Alias) : Text :=
  match a.asName.getD [] with
  | [] => a.name
  | n => a.name ++ " as " ++ n

/-- The dotted source of an import from a module, with its leading dots. -/
def importSource (module : Option Text) (level : Int) : Text :=
  Text.times level.toNat "." ++ module.getD []

/-- The text of a parameter without its stars. -/
def Param.render (mode : RenderMode) (p : Param) : Except Fault Text := do
  let hint : Text ← match p.hint with
    | none => pure []
    | some a => do pure (": " ++ (← place .test (a.render mode .double)))
  let default : Text ← match p.default with
    | none => pure []
    | some d => do
      let glue : Text := if p.hint.isSome then " = " else "="
      pure (glue ++ (← place .test (d.render mode .double)))
  return p.name ++ hint ++ default

/-- The comma-separated items of a parameter list. A slash follows each run of positional-only
parameters, and a bare star precedes a keyword-only one unless a star was seen. -/
def paramItems (mode : RenderMode) (sawStar : Bool) : List Param → List (Except Fault Text)
  | [] => []
  | p :: ps =>
    let slash : List (Except Fault Text) :=
      if p.kind = .positionalOnly && (ps.head?.map (·.kind)) ≠ some .positionalOnly then [.ok "/"]
      else []
    match p.kind with
    | .varPositional => (p.render mode).map (fun t => "*" ++ t) :: paramItems mode true ps
    | .varKeyword => (p.render mode).map (fun t => "**" ++ t) :: paramItems mode sawStar ps
    | .keywordOnly =>
      (if sawStar then [] else [.ok "*"]) ++ p.render mode :: paramItems mode true ps
    | _ => p.render mode :: slash ++ paramItems mode sawStar ps

/-- The decorator lines of a definition. -/
def decoratorLines (mode : RenderMode) (pad : Text) (decorators : List Expr) :
    Except Fault (List Text) :=
  inOrder (decorators.map fun d =>
    (place .named (d.render mode .double)).map fun t => pad ++ "@" ++ t)

/-- The lines of a function definition above its body. -/
def FunctionHead.render (mode : RenderMode) (pad : Text) (f : FunctionHead) :
    Except Fault (List Text) := do
  let decorators ← decoratorLines mode pad f.decorators
  let params ← inOrder (paramItems mode false f.params)
  let returns : Text ← match f.returns with
    | none => pure []
    | some r => do pure (" -> " ++ (← place .test (r.render mode .double)))
  let keyword : Text := if f.isAsync then "async def " else "def "
  return decorators ++
    [pad ++ keyword ++ f.name ++ "(" ++ Text.join ", " params ++ ")" ++ returns ++ ":"]

/-- The lines of a class definition above its body. -/
def ClassHead.render (mode : RenderMode) (pad : Text) (c : ClassHead) :
    Except Fault (List Text) := do
  let decorators ← decoratorLines mode pad c.decorators
  let bases ← inOrder (c.bases.map fun b => place .test (b.render mode .double))
  let keywords ← inOrder (Expr.renderKeywords mode .double c.keywords)
  let arguments : Text := match bases ++ keywords with
    | [] => []
    | as => "(" ++ Text.join ", " as ++ ")"
  return decorators ++ [pad ++ "class " ++ c.name ++ arguments ++ ":"]

/-- The line above the body of a handler. A name without a type is left out. -/
def handlerHead (mode : RenderMode) (pad : Text) (h : Handler) : Except Fault Text := do
  match h.type with
  | none => return pad ++ "except:"
  | some type =>
    let t ← place .test (type.render mode .double)
    let name : Text := match h.name.getD [] with
      | [] => []
      | n => " as " ++ n
    return pad ++ "except " ++ t ++ name ++ ":"

/-- Whether a line counts as code: its first character that is no blank is not a hash sign. -/
def isCode (line : Text) : Bool :=
  (line.dropWhile CodePoint.isBlank).head? ≠ some (CodePoint.scalar '#')

/-- The lines of a nested block: those of its statements, and a `pass` if there is no code. -/
def blockLines (level : Int) (statements : List (List Text)) : List Text :=
  let lines := statements.flatten
  if lines.any isCode then lines else lines ++ [levelPad level ++ "pass"]

/-- A region of a `try` statement that is left out when its block is empty. -/
def optionalRegion (header : Text) (level : Int) : List (List Text) → List Text
  | [] => []
  | statements => header :: blockLines level statements

/-- An unsupported construct becomes a placeholder line at the level, except in strict mode. -/
def RenderMode.recoverLines (mode : RenderMode) (level : Int) :
    Except Fault (List Text) → Except Fault (List Text) :=
  mode.recover fun kind => [levelPad level ++ placeholder kind]

mutual

/-- The lines of a statement, an unsupported construct in its header being a fault. -/
def Stmt.ownLines (mode : RenderMode) (level : Int) : Stmt → Except Fault (List Text)
  | .function head body _ => do
    let header ← head.render mode (levelPad level)
    return header ++ blockLines (level + 1) (← Stmt.eachLines mode (level + 1) body)
  | .classDef head body _ => do
    let header ← head.render mode (levelPad level)
    return header ++ blockLines (level + 1) (← Stmt.eachLines mode (level + 1) body)
  | .importNames names _ =>
    .ok [levelPad level ++ "import " ++ Text.join ", " (names.map Alias.render)]
  | .importFrom module names dots _ =>
    let source : Text := match importSource module dots with
      | [] => "."
      | s => s
    .ok [levelPad level ++ "from " ++ source ++ " import " ++
      Text.join ", " (names.map Alias.render)]
  | .assign targets value _ => do
    let targets ← inOrder (targets.map fun t => place .test (t.render mode .double))
    let value ← place .yielding (value.render mode .double)
    return [levelPad level ++ Text.join ", " targets ++ " = " ++ value]
  | .ret none _ => .ok [levelPad level ++ "return"]
  | .ret (some value) _ => do
    return [levelPad level ++ "return " ++ (← place .test (value.render mode .double))]
  | .pass _ => .ok [levelPad level ++ "pass"]
  | .expr value _ => do
    return [levelPad level ++ (← place .yielding (value.render mode .double))]
  | .tryExcept body handlers orelse finalbody _ => do
    let pad := levelPad level
    let heads ← inOrder (handlers.map (handlerHead mode pad))
    let body ← Stmt.eachLines mode (level + 1) body
    let handlerBodies ← Stmt.handlerLines mode (level + 1) handlers
    let orelse ← Stmt.eachLines mode (level + 1) orelse
    let finalbody ← Stmt.eachLines mode (level + 1) finalbody
    return (pad ++ "try:") :: blockLines (level + 1) body ++
      (heads.zipWith (fun head lines => head :: blockLines (level + 1) lines)
        handlerBodies).flatten ++
      optionalRegion (pad ++ "else:") (level + 1) orelse ++
      optionalRegion (pad ++ "finally:") (level + 1) finalbody
  | .captured kind source _ =>
    match mode, source with
    | .passthrough, some (c :: rest) => .ok (Source.indentSource (c :: rest) (levelPad level))
    | _, _ => .error (.unsupported kind)
  | .foreign kind => .error (.unsupported kind)

/-- The lines of each statement of a block. -/
def Stmt.eachLines (mode : RenderMode) (level : Int) :
    List Stmt → Except Fault (List (List Text))
  | [] => .ok []
  | s :: ss => do
    let lines ← mode.recoverLines level (s.ownLines mode level)
    return lines :: (← Stmt.eachLines mode level ss)

/-- The lines of each statement of each handler's body. -/
def Stmt.handlerLines (mode : RenderMode) (level : Int) :
    List Handler → Except Fault (List (List (List Text)))
  | [] => .ok []
  | .mk _ _ body :: hs => do
    let lines ← Stmt.eachLines mode level body
    return lines :: (← Stmt.handlerLines mode level hs)

end

/-- The lines of a statement at a level. -/
def Stmt.lines (mode : RenderMode) (level : Int) (s : Stmt) : Except Fault (List Text) :=
  mode.recoverLines level (s.ownLines mode level)

/-- The text of a statement at a level, without a final line end. -/
def Stmt.toText (mode : RenderMode) (level : Int) (s : Stmt) : Except Fault Text :=
  (s.lines mode level).map (Text.join "\n")

/-- The first line of a statement as written by passthrough rendering. -/
def Stmt.headline (s : Stmt) : Except Fault Text :=
  (s.toText .passthrough 0).map (Text.before '\n')

/-- The text of a module: every line ends with a line feed. -/
def Module.toText (mode : RenderMode) (m : Module) : Except Fault Text :=
  (Stmt.eachLines mode 0 m.body).map fun statements =>
    statements.flatten.flatMap fun line => line ++ "\n"

end Refactory
