import Refactory.Grammar.Term

/-! # Statements of the full grammar

The statements that the tree models keep their parts; of the others only the kind and the stretch of
source are kept. -/

namespace Refactory.Grammar

/-- An imported name and the name it is bound to. -/
structure ImportedName where
  name : Text
  asName : Option Text

mutual

/-- A statement of the full grammar. Those that the tree does not model are known by their kind. -/
inductive Statement
  | function (span : Span) (isAsync : Bool) (name : Text) (params : Params) (returns : Option Term)
      (decorators : List Term) (body : List Statement)
  | classDef (span : Span) (name : Text) (bases : List Term) (keywords : List Argument)
      (decorators : List Term) (body : List Statement)
  | importNames (span : Span) (names : List ImportedName)
  | importFrom (span : Span) (module : Option Text) (names : List ImportedName) (level : Nat)
  | assign (span : Span) (targets : List Term) (value : Term)
  | ret (span : Span) (value : Option Term)
  | pass (span : Span)
  | expr (span : Span) (value : Term)
  | tryExcept (span : Span) (body : List Statement) (handlers : List Catch)
      (orelse finalbody : List Statement)
  | other (span : Span) (kind : Text)

/-- A handler of a `try` statement. -/
inductive Catch
  | mk (type : Option Term) (name : Option Text) (body : List Statement)

end

instance : Inhabited Statement := ⟨.pass default⟩

end Refactory.Grammar
