import Refactory.Batch
import Refactory.Cli.Arguments

/-! # Commands

What a command line asks for.

* `Command`: to show a file, to search one, or to rewrite several.
* `Command.read`: the command of a command line, or nothing if it is malformed. -/

namespace Refactory

/-- A search in one file. -/
inductive Search
  | nodes (kind : Option NodeKind)
  | imports (part : Option Text)
  | calls (name : Text)
  | tries (type : Option Text)
  | assignments (part : Option Text)

/-- What a command line asks for. -/
inductive Command
  | help
  | showFile (file : FilePath) (mode : RenderMode)
  | search (file : FilePath) (what : Search) (asJson : Bool)
  | rewrite (paths : List FilePath) (plan : Plan) (write : Bool) (mode : Option RenderMode)
      (asJson : Bool)

namespace Command

/-- The option that asks for help. -/
def helpOption : OptionSpec := { name := "help", takesValue := false }

/-- The option that asks for JSON. -/
def jsonOption : OptionSpec := { name := "json", takesValue := false }

/-- Reads a choice; a text that names none is malformed. -/
def choice {α : Type} (read : Text → Except Fault α) : Option Text → Option (Option α)
  | none => some none
  | some t => (read t).toOption.map some

/-- The arguments of a command, unless they ask for help. -/
def arguments (specs : List OptionSpec) (words : List Text) (make : Arguments → Option Command) :
    Option Command := do
  let a ← Arguments.read (helpOption :: specs) words
  if a.has "help" then return help
  make a

/-- Reads the command that shows a file. -/
def readShow (words : List Text) : Option Command :=
  arguments [{ name := "mode", letter := some 'm' }] words fun a => do
    let mode ← choice RenderMode.ofText (a.value? "mode")
    match a.operands with
    | [file] => some (showFile (.ofText file) (mode.getD .lenient))
    | _ => none

/-- A search in a file, whose operands follow the file. -/
def searchIn (a : Arguments) (make : List Text → Option Search) : Option Command :=
  match a.operands with
  | [] => none
  | file :: rest => (make rest).map fun what => search (.ofText file) what (a.has "json")

/-- A search that has no operands but the file. -/
def plainSearch (what : Search) : List Text → Option Search
  | [] => some what
  | _ => none

/-- Reads the command that searches a file. -/
def readSearch (name : Text) (words : List Text) : Option Command :=
  let named (spec : OptionSpec) (make : Option Text → Search) : Option Command :=
    arguments [jsonOption, spec] words fun a =>
      searchIn a (plainSearch (make (a.value? spec.name)))
  if name = "nodes" then
    arguments [jsonOption, { name := "kind", letter := some 'k' }] words fun a => do
      let kind ← choice NodeKind.ofText (a.value? "kind")
      searchIn a (plainSearch (.nodes kind))
  else if name = "imports" then named { name := "filter", letter := some 'f' } .imports
  else if name = "calls" then
    arguments [jsonOption] words fun a => searchIn a fun
      | [called] => some (.calls called)
      | _ => none
  else if name = "try" then named { name := "type", letter := some 't' } .tries
  else if name = "assign" then named { name := "filter", letter := some 'f' } .assignments
  else none

/-- The options of the command that rewrites files. -/
def rewriteOptions : List OptionSpec := [
  { name := "rename-function" }, { name := "rename-class" }, { name := "replace-import" },
  { name := "modernize-imports", takesValue := false },
  { name := "pkg-resources", takesValue := false },
  { name := "remove-unused-imports", takesValue := false },
  { name := "modernize-strings", takesValue := false },
  { name := "sort-imports", takesValue := false },
  { name := "write", takesValue := false },
  { name := "mode" }, jsonOption]

/-- The plan that options describe; every new name has to be an identifier. -/
def readPlan (a : Arguments) : Option Plan := do
  let pairs (name : Text) : Option (List (Text × Text)) :=
    (Plan.readPairs (a.values name)).toOption
  let plan : Plan := {
    renameFunctions := ← pairs "rename-function"
    renameClasses := ← pairs "rename-class"
    replaceImports := ← pairs "replace-import"
    modernizeImports := a.has "modernize-imports"
    versions := a.has "pkg-resources"
    strings := a.has "modernize-strings"
    unusedImports := a.has "remove-unused-imports"
    sortImports := a.has "sort-imports" }
  if plan.problems.isEmpty then return plan else none

/-- Reads the command that rewrites files. -/
def readRewrite (words : List Text) : Option Command :=
  arguments rewriteOptions words fun a => do
    let mode ← choice RenderMode.ofText (a.value? "mode")
    let plan ← readPlan a
    if a.operands.isEmpty then none
    else some (rewrite (a.operands.map .ofText) plan (a.has "write") mode (a.has "json"))

/-- The command word and what follows it; two hyphens can stand before it. -/
def commandWord (words : List Text) : Option (Text × List Text) :=
  match words with
  | [] => none
  | word :: rest =>
    if word = "--" then
      match rest with
      | [] => none
      | word :: rest => some (word, rest)
    else some (word, rest)

/-- Reads a command line. -/
def read (words : List Text) : Option Command := do
  let (word, rest) ← commandWord words
  if word = "--help" then return help
  else if word = "show" then readShow rest
  else if word = "rewrite" then readRewrite rest
  else if word = "query" then
    let (what, rest) ← commandWord rest
    if what = "--help" then return help else readSearch what rest
  else none

end Command

end Refactory
