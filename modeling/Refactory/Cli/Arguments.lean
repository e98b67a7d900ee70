import Refactory.Text

/-! # Arguments

The words of a command line are options and operands in any order. A long option has its value after
an equals sign or in the next word, a short one right after its letter or in the next word. Two
hyphens end the options.

* `OptionSpec`: an option that a command knows.
* `Arguments.read`: the options and operands of a command line, or nothing if it is malformed. -/

namespace Refactory

/-- An option that a command knows. -/
structure OptionSpec where
  /-- The name after two hyphens. -/
  name : Text
  /-- The letter after one hyphen. -/
  letter : Option CodePoint := none
  takesValue : Bool := true

/-- The options that were given, in order, and the operands. -/
structure Arguments where
  /-- The names of the options with their values, empty for those that take none. -/
  options : List (Text × Text) := []
  operands : List Text := []

namespace Arguments

/-- What a word says by itself. -/
inductive Word
  | operand (t : Text)
  | option (name value : Text)
  /-- An option whose value is the next word. -/
  | pending (name : Text)
  | malformed

/-- Reads a long option, without its hyphens. -/
def readLong (specs : List OptionSpec) (t : Text) : Word :=
  match specs.find? (·.name == t.before '=') with
  | none => .malformed
  | some spec =>
    match t.dropWhile fun c : CodePoint => c ≠ '=' with
    | [] => if spec.takesValue then .pending spec.name else .option spec.name []
    | _ :: value => if spec.takesValue then .option spec.name value else .malformed

/-- Reads a short option that begins with a letter; letters without values do not occur. -/
def readShort (specs : List OptionSpec) (letter : CodePoint) (rest : Text) : Word :=
  match specs.find? (·.letter == some letter) with
  | none => .malformed
  | some spec => if rest.isEmpty then .pending spec.name else .option spec.name rest

/-- Reads a word. -/
def readWord (specs : List OptionSpec) (word : Text) : Word :=
  match word with
  | .scalar '-' :: .scalar '-' :: name => readLong specs name
  | .scalar '-' :: letter :: rest => readShort specs letter rest
  | t => .operand t

/-- The options and operands of a command line. -/
def read (specs : List OptionSpec) : List Text → Option Arguments
  | [] => some {}
  | word :: rest =>
    if word = "--" then some { operands := rest }
    else
      match readWord specs word with
      | .malformed => none
      | .operand t => (read specs rest).map fun a => { a with operands := t :: a.operands }
      | .option name value =>
        (read specs rest).map fun a => { a with options := (name, value) :: a.options }
      | .pending name =>
        match rest with
        | [] => none
        | value :: rest =>
          (read specs rest).map fun a => { a with options := (name, value) :: a.options }

/-- The values of an option that can be repeated. -/
def values (a : Arguments) (name : Text) : List Text :=
  a.options.filterMap fun (n, value) => if n = name then some value else none

/-- The value of an option, of which the last counts. -/
def value? (a : Arguments) (name : Text) : Option Text := (a.values name).getLast?

/-- Whether an option was given. -/
def has (a : Arguments) (name : Text) : Bool := a.options.any (·.1 == name)

end Arguments

end Refactory
