import Refactory.Render.Stmt
import Refactory.Source.Indent

/-! # Snippets

Small pieces of source built from fragments of text. A fragment is carried as a captured node and
rendered as it is, so it is never read as code.

* `importStmt`: an import statement.
* `Snippet.assignment`, `Snippet.call`, `Snippet.tryExcept`: texts built from fragments. -/

namespace Refactory

/-- An import of a module, or of names from it; an alias goes with a single name only. -/
def importStmt (module : Text) (names : List Text) (asName : Option Text) : Except Fault Stmt :=
  if names.isEmpty then .ok (.importNames [⟨module, asName⟩] none)
  else if asName.isSome && names.length != 1 then .error .aliasForSeveral
  else
    let source := module.dropWhile fun c : CodePoint => c = '.'
    .ok (.importFrom (if source.isEmpty then none else some source)
      (names.map fun name => ⟨name, asName⟩) ((module.length : Int) - source.length) none)

namespace Snippet

/-- The kind of captured fragments. -/
def fragmentKind : Text := "Fragment"

/-- A fragment in the place of an expression. -/
def fragment (t : Text) : Expr := .captured fragmentKind (some t.stripped)

/-- A fragment in the place of a block; a blank one is a `pass`. -/
def fragmentBlock (t : Text) : Block :=
  let source := (Source.dedent t).trimWhile fun c : CodePoint => c = '\n'
  if source.isBlank then [.pass none] else [.captured fragmentKind (some source) none]

/-- The text of an import statement. -/
def importText (module : Text) (names : List Text) (asName : Option Text) : Except Fault Text := do
  (← importStmt module names asName).toText .passthrough 0

/-- The text of an assignment. -/
def assignment (target value : Text) : Except Fault Text :=
  (Stmt.assign [fragment target] (fragment value) none).toText .passthrough 0

/-- The text of a call. -/
def call (name : Text) (args : List Text) : Except Fault Text :=
  (Expr.call (fragment name) (args.map fragment) []).toText .passthrough

/-- The text of a `try` statement with one handler, which catches everything if the type is blank. -/
def tryExcept (body type handler : Text) : Except Fault Text :=
  let type := if type.isBlank then none else some (fragment type)
  (Stmt.tryExcept (fragmentBlock body) [.mk type none (fragmentBlock handler)] [] [] none).toText
    .passthrough 0

/-- How the builder of snippets and a renderer in a mode name themselves. -/
def describe (mode : RenderMode) : Text :=
  "SnippetGenerator() Unparser(mode=" ++ mode.label.quoted ++ ")"

end Snippet

end Refactory
