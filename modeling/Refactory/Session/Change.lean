import Refactory.Fault

/-! # Changes

The log of a session: what was done, where, and to which value. -/

namespace Refactory

/-- The kinds of changes. -/
inductive ChangeKind
  | functionRenamed | classRenamed | variableRenamed | importModified | syntaxModernized | custom
deriving DecidableEq, Inhabited

namespace ChangeKind

/-- The name of a kind. -/
def label : ChangeKind → Text
  | functionRenamed => "function_renamed"
  | classRenamed => "class_renamed"
  | variableRenamed => "variable_renamed"
  | importModified => "import_modified"
  | syntaxModernized => "syntax_modernized"
  | custom => "custom"

/-- All kinds. -/
def all : List ChangeKind :=
  [functionRenamed, classRenamed, variableRenamed, importModified, syntaxModernized, custom]

/-- The kind of a name. -/
def ofText (t : Text) : Except Fault ChangeKind :=
  match all.find? (·.label == t) with
  | some kind => .ok kind
  | none => .error (.unknownChoice t "ChangeKind")

end ChangeKind

/-- One applied change. -/
structure Change where
  kind : ChangeKind
  description : Text
  location : Option Location := none
  oldValue : Option Text := none
  newValue : Option Text := none
deriving DecidableEq, Inhabited

/-- The descriptions of changes as a numbered list, from a number on. -/
def numberedFrom (n : Nat) : List Text → List Text
  | [] => []
  | t :: rest => (Text.ofNat n ++ ". " ++ t) :: numberedFrom (n + 1) rest

/-- The descriptions of changes as a numbered list, or that there are none. -/
def summarize (descriptions : List Text) : Text :=
  if descriptions.isEmpty then "No changes made" else Text.join "\n" (numberedFrom 1 descriptions)

end Refactory
