import Refactory.Fault

/-! # Walks

A walk lists the nodes of a tree in pre-order. It ends early at an object that is no node, or at a
dictionary whose keys and values do not pair up; what was met before that is still listed.

* `Walk`: the nodes met and the fault that ended the walk, if any.
* `Expr.walk`: an expression and its sub-expressions.
* `Module.walk`: the statements of a module with their paths.
* `Module.validate`: succeeds iff no walk over the module meets a fault. -/

namespace Refactory

/-- Nodes in the order in which they are met, and the fault that ended the walk. -/
structure Walk (α : Type) where
  items : List α
  fault : Option Fault := none

namespace Walk

variable {α β : Type}

/-- A walk that meets nothing. -/
def empty : Walk α := ⟨[], none⟩

/-- One walk after the other; after a fault there is no other. -/
def append (v w : Walk α) : Walk α :=
  match v.fault with
  | some _ => v
  | none => ⟨v.items ++ w.items, w.fault⟩

/-- A node in front of a walk. -/
def cons (a : α) (w : Walk α) : Walk α := ⟨a :: w.items, w.fault⟩

/-- A walk that ends in a fault at once. -/
def stop (f : Fault) : Walk α := ⟨[], some f⟩

/-- Several walks one after the other. -/
def concat : List (Walk α) → Walk α
  | [] => empty
  | w :: ws => w.append (concat ws)

/-- The fault that ended the walk, as an effect. -/
def finish (w : Walk α) : Except Fault Unit :=
  match w.fault with
  | some f => .error f
  | none => .ok ()

/-- All nodes of a walk that meets no fault. -/
def all (w : Walk α) : Except Fault (List α) :=
  match w.fault with
  | some f => .error f
  | none => .ok w.items

/-- What `f` gives for each node in turn, up to the first fault of `f` or of the walk itself. -/
def collect (w : Walk α) (f : α → Except Fault β) : Except Fault (List β) := do
  let bs ← w.items.mapM f
  w.finish
  return bs

end Walk

/-! ## Expressions -/

/-- Keys and values of a dictionary in turn. -/
def interleave : List (Option (Walk Expr)) → List (Walk Expr) → List (Walk Expr)
  | none :: ks, v :: vs => v :: interleave ks vs
  | some k :: ks, v :: vs => k :: v :: interleave ks vs
  | _, _ => []

/-- The entries of a dictionary in turn; unequal numbers of keys and values are a fault. -/
def entryWalk (keys : List (Option (Walk Expr))) (values : List (Walk Expr)) : Walk Expr :=
  if keys.length = values.length then Walk.concat (interleave keys values)
  else Walk.stop (.unequalLengths (keys.length < values.length))

mutual

/-- An expression and its sub-expressions in pre-order. -/
def Expr.walk : Expr → Walk Expr
  | .call func args keywords =>
    Walk.cons (.call func args keywords)
      (Walk.concat (func.walk :: Expr.walkEach args ++ Keyword.walkEach keywords))
  | .binary left op right => Walk.cons (.binary left op right) (left.walk.append right.walk)
  | .unary op operand => Walk.cons (.unary op operand) operand.walk
  | .logical op values => Walk.cons (.logical op values) (Walk.concat (Expr.walkEach values))
  | .compare left ops comparators =>
    Walk.cons (.compare left ops comparators)
      (Walk.concat (left.walk :: Expr.walkEach comparators))
  | .attribute value attr => Walk.cons (.attribute value attr) value.walk
  | .subscript value index => Walk.cons (.subscript value index) (value.walk.append index.walk)
  | .starred value => Walk.cons (.starred value) value.walk
  | .tuple elements => Walk.cons (.tuple elements) (Walk.concat (Expr.walkEach elements))
  | .list elements => Walk.cons (.list elements) (Walk.concat (Expr.walkEach elements))
  | .dict keys values =>
    Walk.cons (.dict keys values) (entryWalk (Expr.walkKeys keys) (Expr.walkEach values))
  | .formatted parts => Walk.cons (.formatted parts) (Walk.concat (Piece.walkEach parts))
  | .foreign kind => Walk.cons (.foreign kind) (Walk.stop (.notVariant kind))
  | .name id => Walk.cons (.name id) Walk.empty
  | .string value => Walk.cons (.string value) Walk.empty
  | .number value => Walk.cons (.number value) Walk.empty
  | .truth value => Walk.cons (.truth value) Walk.empty
  | .noneLiteral => Walk.cons .noneLiteral Walk.empty
  | .captured kind source => Walk.cons (.captured kind source) Walk.empty

/-- The walks of several expressions. -/
def Expr.walkEach : List Expr → List (Walk Expr)
  | [] => []
  | e :: rest => e.walk :: Expr.walkEach rest

/-- The walks of expressions that can be absent. -/
def Expr.walkKeys : List (Option Expr) → List (Option (Walk Expr))
  | [] => []
  | none :: rest => none :: Expr.walkKeys rest
  | some e :: rest => some e.walk :: Expr.walkKeys rest

/-- The walks of the values of keyword arguments. -/
def Keyword.walkEach : List Keyword → List (Walk Expr)
  | [] => []
  | .mk _ value :: rest => value.walk :: Keyword.walkEach rest

/-- The walks of the fields of a formatted string. -/
def Piece.walkEach : List Piece → List (Walk Expr)
  | [] => []
  | .text _ :: rest => Piece.walkEach rest
  | .field value _ _ :: rest => value.walk :: Piece.walkEach rest

end

/-! ## Statements -/

mutual

/-- A statement at `path` and the statements inside it, in pre-order. The blocks that it owns share
one numbering. -/
def Stmt.walkAt (path : Path) : Stmt → Walk (Path × Stmt)
  | .function head body location =>
    Walk.cons (path, .function head body location) (Stmt.walkBlock path 0 body)
  | .classDef head body location =>
    Walk.cons (path, .classDef head body location) (Stmt.walkBlock path 0 body)
  | .tryExcept body handlers orelse finalbody location =>
    let before : Nat := (handlers.map Handler.body).flatten.length + body.length
    Walk.cons (path, .tryExcept body handlers orelse finalbody location)
      ((Stmt.walkBlock path 0 body).append
        ((Handler.walkEach path body.length handlers).append
          ((Stmt.walkBlock path before orelse).append
            (Stmt.walkBlock path (before + orelse.length) finalbody))))
  | .foreign kind => Walk.cons (path, .foreign kind) (Walk.stop (.notVariant kind))
  | .importNames names location => Walk.cons (path, .importNames names location) Walk.empty
  | .importFrom module names level location =>
    Walk.cons (path, .importFrom module names level location) Walk.empty
  | .assign targets value location => Walk.cons (path, .assign targets value location) Walk.empty
  | .ret value location => Walk.cons (path, .ret value location) Walk.empty
  | .pass location => Walk.cons (path, .pass location) Walk.empty
  | .expr value location => Walk.cons (path, .expr value location) Walk.empty
  | .captured kind source location => Walk.cons (path, .captured kind source location) Walk.empty

/-- The statements of a block below `path`, whose first has the number `first`. -/
def Stmt.walkBlock (path : Path) (first : Nat) : List Stmt → Walk (Path × Stmt)
  | [] => Walk.empty
  | s :: rest =>
    (s.walkAt (path ++ [(first : Int)])).append (Stmt.walkBlock path (first + 1) rest)

/-- The statements of handlers' bodies, numbered through. -/
def Handler.walkEach (path : Path) (first : Nat) : List Handler → Walk (Path × Stmt)
  | [] => Walk.empty
  | .mk _ _ body :: rest =>
    (Stmt.walkBlock path first body).append (Handler.walkEach path (first + body.length) rest)

end

/-- The statements of a module with their paths, in pre-order. -/
def Module.walk (m : Module) : Walk (Path × Stmt) := Stmt.walkBlock [] 0 m.body

/-- The expressions that a statement holds itself, each with its sub-expressions. -/
def Stmt.walkExprs (s : Stmt) : Walk Expr := Walk.concat (s.exprs.map Expr.walk)

/-- Succeeds iff the tree holds nothing but nodes, and is not empty unless that is allowed. -/
def Module.validate (m : Module) (allowEmpty : Bool) : Except Fault Unit :=
  if m.body.isEmpty && !allowEmpty then .error .emptyModule
  else do
    let _ ← m.walk.collect fun (_, s) => s.walkExprs.finish
    return ()

/-! ## Names -/

mutual

/-- The names of the definitions that satisfy `wanted`, class bodies included if `nested`. -/
def Stmt.definedNames (wanted : Stmt → Bool) (nested : Bool) : Stmt → List Text
  | .classDef head body location =>
    (if wanted (.classDef head body location) then [head.name] else []) ++
      if nested then Stmt.blockNames wanted nested body else []
  | s => if wanted s then s.name?.toList else []

/-- The names of the definitions of a block. -/
def Stmt.blockNames (wanted : Stmt → Bool) (nested : Bool) : List Stmt → List Text
  | [] => []
  | s :: rest => s.definedNames wanted nested ++ Stmt.blockNames wanted nested rest

end

/-- Whether a statement defines a function. -/
def Stmt.isFunction : Stmt → Bool
  | .function .. => true
  | _ => false

/-- Whether a statement defines a class. -/
def Stmt.isClass : Stmt → Bool
  | .classDef .. => true
  | _ => false

/-- The names of functions, those of methods included if `nested`. -/
def Module.functionNames (m : Module) (nested : Bool) : List Text :=
  Stmt.blockNames Stmt.isFunction nested m.body

/-- The names of classes, those inside classes included if `nested`. -/
def Module.classNames (m : Module) (nested : Bool) : List Text :=
  Stmt.blockNames Stmt.isClass nested m.body

end Refactory
