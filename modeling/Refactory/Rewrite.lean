import Refactory.Tree.Walk

/-! # Rewriting

Expressions are rewritten from the inside out: a rewriter sees a node whose sub-expressions have been
rewritten, and what it puts in place of the node is not visited again. Statements are rewritten from
the outside in: a statement is replaced by a list, or its blocks are rewritten in turn.

A pass can fail half-way, at an object that is no node or because the rewriter gives up. The tree
then keeps what the pass had put in place: every field is set as soon as its own visit is over, and a
list of expressions only when all its members have been visited.

* `Visit`, `Replaced`: the outcome of visiting a part of a tree.
* `Edit`: an operation that changes a module in place.
* `rewriteExprs`: a pass over all expressions.
* `replaceStmts`: a pass over all statements. -/

namespace Refactory

/-! ## Expressions -/

/-- The outcome of visiting a part of a tree. -/
structure Visit (α : Type) where
  /-- The part as it stands before it is replaced by the result. -/
  left : α
  /-- What takes the place of the part, if the visit succeeds. -/
  result : Except Fault α
  /-- The nodes that the rewriter was shown, in order. -/
  seen : List Expr := []
  /-- How many nodes were replaced. -/
  count : Nat := 0

/-- A rewriter: a replacement for a node, or nothing to keep it. -/
abbrev Rewriter := Expr → Except Fault (Option Expr)

namespace Visit

variable {α β γ : Type}

/-- A part that holds nothing to visit. -/
def keep (a : α) : Visit α := { left := a, result := .ok a }

/-- A part that cannot be visited. -/
def fail (a : α) (f : Fault) : Visit α := { left := a, result := .error f }

/-- The part as it stands after the visit. -/
def now (v : Visit α) : α :=
  match v.result with
  | .ok a => a
  | .error _ => v.left

/-- A part made of a visited one. -/
def map (make : α → β) (v : Visit α) : Visit β :=
  { left := make v.now, result := v.result.map make, seen := v.seen, count := v.count }

/-- Two parts visited one after the other; the second is `b` as long as it has not been visited. -/
def pair (v : Visit α) (b : β) (w : Visit β) : Visit (α × β) :=
  match v.result with
  | .error f => { left := (v.left, b), result := .error f, seen := v.seen, count := v.count }
  | .ok a =>
    { left := (a, w.now), result := w.result.map (a, ·), seen := v.seen ++ w.seen,
      count := v.count + w.count }

/-- A member in front of others, all set one by one. -/
def consEach (v : Visit α) (rest : List α) (w : Visit (List α)) : Visit (List α) :=
  (v.pair rest w).map fun (a, as) => a :: as

/-- A member in front of others in a list that is set when all its members have been visited. -/
def consAll (v : Visit α) (rest : List α) (w : Visit (List α)) : Visit (List α) :=
  match v.result with
  | .error f => { left := v.left :: rest, result := .error f, seen := v.seen, count := v.count }
  | .ok a =>
    { left := v.left :: w.left, result := w.result.map (a :: ·), seen := v.seen ++ w.seen,
      count := v.count + w.count }

/-- Shows a visited node to the rewriter. -/
def show_ (f : Rewriter) (v : Visit Expr) : Visit Expr :=
  match v.result with
  | .error _ => v
  | .ok node =>
    let seen := v.seen ++ [node]
    match f node with
    | .error fault => { left := node, result := .error fault, seen, count := v.count }
    | .ok none => { left := node, result := .ok node, seen, count := v.count }
    | .ok (some new) => { left := node, result := .ok new, seen, count := v.count + 1 }

end Visit

mutual

/-- Visits an expression, its sub-expressions first. -/
def Expr.rewrite (f : Rewriter) : Expr → Visit Expr
  | .call func args keywords =>
    let inner := ((func.rewrite f).pair args (Expr.rewriteAll f args)).pair keywords
      (Keyword.rewriteEach f keywords)
    (inner.map fun ((func, args), keywords) => .call func args keywords).show_ f
  | .binary left op right =>
    (((left.rewrite f).pair right (right.rewrite f)).map fun (l, r) => .binary l op r).show_ f
  | .unary op operand => ((operand.rewrite f).map (.unary op)).show_ f
  | .logical op values => ((Expr.rewriteAll f values).map (.logical op)).show_ f
  | .compare left ops comparators =>
    (((left.rewrite f).pair comparators (Expr.rewriteAll f comparators)).map
      fun (l, cs) => .compare l ops cs).show_ f
  | .attribute value attr => ((value.rewrite f).map (.attribute · attr)).show_ f
  | .subscript value index =>
    (((value.rewrite f).pair index (index.rewrite f)).map fun (v, i) => .subscript v i).show_ f
  | .starred value => ((value.rewrite f).map .starred).show_ f
  | .tuple elements => ((Expr.rewriteAll f elements).map .tuple).show_ f
  | .list elements => ((Expr.rewriteAll f elements).map .list).show_ f
  | .dict keys values =>
    (((Expr.rewriteKeys f keys).pair values (Expr.rewriteAll f values)).map
      fun (ks, vs) => .dict ks vs).show_ f
  | .formatted parts => ((Piece.rewriteEach f parts).map .formatted).show_ f
  | .foreign kind => Visit.fail (.foreign kind) (.notVariant kind)
  | .name id => (Visit.keep (.name id)).show_ f
  | .string value => (Visit.keep (.string value)).show_ f
  | .number value => (Visit.keep (.number value)).show_ f
  | .truth value => (Visit.keep (.truth value)).show_ f
  | .noneLiteral => (Visit.keep .noneLiteral).show_ f
  | .captured kind source => (Visit.keep (.captured kind source)).show_ f

/-- Visits the members of a list, which is set when all have been visited. -/
def Expr.rewriteAll (f : Rewriter) : List Expr → Visit (List Expr)
  | [] => Visit.keep []
  | e :: rest => (e.rewrite f).consAll rest (Expr.rewriteAll f rest)

/-- Visits the keys of a dictionary, which are set when all have been visited. -/
def Expr.rewriteKeys (f : Rewriter) : List (Option Expr) → Visit (List (Option Expr))
  | [] => Visit.keep []
  | none :: rest => (Visit.keep none).consAll rest (Expr.rewriteKeys f rest)
  | some e :: rest =>
    let v := e.rewrite f
    { left := some v.left, result := v.result.map some, seen := v.seen, count := v.count
      : Visit (Option Expr) }.consAll rest (Expr.rewriteKeys f rest)

/-- Visits the values of keyword arguments one by one. -/
def Keyword.rewriteEach (f : Rewriter) : List Keyword → Visit (List Keyword)
  | [] => Visit.keep []
  | .mk arg value :: rest =>
    ((value.rewrite f).map (.mk arg)).consEach rest (Keyword.rewriteEach f rest)

/-- Visits the fields of a formatted string one by one. -/
def Piece.rewriteEach (f : Rewriter) : List Piece → Visit (List Piece)
  | [] => Visit.keep []
  | .text value :: rest => (Visit.keep (.text value)).consEach rest (Piece.rewriteEach f rest)
  | .field value conversion spec :: rest =>
    ((value.rewrite f).map (.field · conversion spec)).consEach rest (Piece.rewriteEach f rest)

end

/-- Visits an expression that can be absent. -/
def Expr.rewriteOption (f : Rewriter) : Option Expr → Visit (Option Expr)
  | none => Visit.keep none
  | some e => (e.rewrite f).map some

/-- Visits the annotation and the default of a parameter. -/
def Param.rewrite (f : Rewriter) (p : Param) : Visit Param :=
  ((Expr.rewriteOption f p.hint).pair p.default (Expr.rewriteOption f p.default)).map
    fun (hint, default) => { p with hint, default }

/-- Visits parameters one by one. -/
def Param.rewriteEach (f : Rewriter) : List Param → Visit (List Param)
  | [] => Visit.keep []
  | p :: rest => (p.rewrite f).consEach rest (Param.rewriteEach f rest)

/-- Visits the expressions of a function's head. -/
def FunctionHead.rewrite (f : Rewriter) (h : FunctionHead) : Visit FunctionHead :=
  (((Expr.rewriteAll f h.decorators).pair h.params (Param.rewriteEach f h.params)).pair h.returns
    (Expr.rewriteOption f h.returns)).map
    fun ((decorators, params), returns) => { h with decorators, params, returns }

/-- Visits the expressions of a class's head. -/
def ClassHead.rewrite (f : Rewriter) (h : ClassHead) : Visit ClassHead :=
  (((Expr.rewriteAll f h.decorators).pair h.bases (Expr.rewriteAll f h.bases)).pair h.keywords
    (Keyword.rewriteEach f h.keywords)).map
    fun ((decorators, bases), keywords) => { h with decorators, bases, keywords }

/-- Visits the types that handlers catch one by one. -/
def Handler.rewriteTypes (f : Rewriter) : List Handler → Visit (List (Option Expr))
  | [] => Visit.keep []
  | .mk type _ _ :: rest =>
    (Expr.rewriteOption f type).consEach (rest.map Handler.type) (Handler.rewriteTypes f rest)

/-- Handlers with new types and bodies. -/
def Handler.rebuild : List Handler → List (Option Expr) → List Block → List Handler
  | .mk _ name _ :: hs, t :: ts, b :: bs => .mk t name b :: rebuild hs ts bs
  | _, _, _ => []

mutual

/-- Visits the expressions of a statement, then those of the statements inside it. -/
def Stmt.rewriteExprs (f : Rewriter) : Stmt → Visit Stmt
  | .function head body location =>
    ((head.rewrite f).pair body (Stmt.rewriteBlock f body)).map
      fun (head, body) => .function head body location
  | .classDef head body location =>
    ((head.rewrite f).pair body (Stmt.rewriteBlock f body)).map
      fun (head, body) => .classDef head body location
  | .assign targets value location =>
    ((Expr.rewriteAll f targets).pair value (value.rewrite f)).map
      fun (targets, value) => .assign targets value location
  | .ret value location => (Expr.rewriteOption f value).map (.ret · location)
  | .expr value location => (value.rewrite f).map (.expr · location)
  | .tryExcept body handlers orelse finalbody location =>
    let inner := ((((Handler.rewriteTypes f handlers).pair body (Stmt.rewriteBlock f body)).pair
      (handlers.map Handler.body) (Handler.rewriteBodies f handlers)).pair orelse
        (Stmt.rewriteBlock f orelse)).pair finalbody (Stmt.rewriteBlock f finalbody)
    inner.map fun ((((types, body), bodies), orelse), finalbody) =>
      .tryExcept body (Handler.rebuild handlers types bodies) orelse finalbody location
  | .foreign kind => Visit.fail (.foreign kind) (.notVariant kind)
  | .importNames names location => Visit.keep (.importNames names location)
  | .importFrom module names level location => Visit.keep (.importFrom module names level location)
  | .pass location => Visit.keep (.pass location)
  | .captured kind source location => Visit.keep (.captured kind source location)

/-- Visits the statements of a block one by one. -/
def Stmt.rewriteBlock (f : Rewriter) : List Stmt → Visit (List Stmt)
  | [] => Visit.keep []
  | s :: rest => (s.rewriteExprs f).consEach rest (Stmt.rewriteBlock f rest)

/-- Visits the bodies of handlers one by one. -/
def Handler.rewriteBodies (f : Rewriter) : List Handler → Visit (List Block)
  | [] => Visit.keep []
  | .mk _ _ body :: rest =>
    (Stmt.rewriteBlock f body).consEach (rest.map Handler.body) (Handler.rewriteBodies f rest)

end

/-- An operation that changes a module in place: what it has changed stays changed if it fails. -/
abbrev Edit := ExceptT Fault (StateM Module)

/-- What an operation reports and the module that it leaves. -/
def Edit.perform {α : Type} (e : Edit α) (m : Module) : Except Fault α × Module :=
  StateT.run (ExceptT.run e) m

/-- A question that leaves the module alone. -/
def Edit.ask {α : Type} (question : Module → Except Fault α) : Edit α := fun m => (question m, m)

/-- Visits every expression of a module. -/
def Module.rewriteExprs (m : Module) (f : Rewriter) : Visit Block := Stmt.rewriteBlock f m.body

/-- Rewrites every expression; reports the number of replacements. -/
def rewriteExprs (f : Rewriter) : Edit Nat := fun m =>
  let v := m.rewriteExprs f
  (v.result.map fun _ => v.count, ⟨v.now⟩)

/-! ## Statements -/

/-- The outcome of replacing statements in a part of a tree. -/
structure Replaced (α : Type) where
  now : α
  fault : Option Fault := none
  /-- The statements that the rewriter was shown, in order. -/
  seen : List Stmt := []
  /-- How many statements were replaced. -/
  count : Nat := 0

namespace Replaced

variable {α β γ : Type}

/-- A part made of another. -/
def map (make : α → β) (r : Replaced α) : Replaced β := { r with now := make r.now }

/-- Two parts one after the other; the second is `b` as long as it has not been reached. -/
def pair (r : Replaced α) (b : β) (s : Replaced β) : Replaced (α × β) :=
  match r.fault with
  | some f => { now := (r.now, b), fault := some f, seen := r.seen, count := r.count }
  | none =>
    { now := (r.now, s.now), fault := s.fault, seen := r.seen ++ s.seen,
      count := r.count + s.count }

/-- The replacement of a statement, if there is one, or else what becomes of its blocks. -/
def choose (replacement : Option (List Stmt)) (s : Stmt) (inside : Replaced Stmt) :
    Replaced (List Stmt) :=
  match replacement with
  | some new => { now := new, seen := [s], count := 1 }
  | none =>
    { now := [inside.now], fault := inside.fault, seen := s :: inside.seen, count := inside.count }

end Replaced

mutual

/-- Replaces a statement or else statements inside it. -/
def Stmt.replace (g : Stmt → Option (List Stmt)) : Stmt → Replaced (List Stmt)
  | .function head body location =>
    Replaced.choose (g (.function head body location)) (.function head body location)
      ((Stmt.replaceBlock g body).map (.function head · location))
  | .classDef head body location =>
    Replaced.choose (g (.classDef head body location)) (.classDef head body location)
      ((Stmt.replaceBlock g body).map (.classDef head · location))
  | .tryExcept body handlers orelse finalbody location =>
    let inner := (((Stmt.replaceBlock g body).pair (handlers.map Handler.body)
      (Handler.replaceBodies g handlers)).pair orelse (Stmt.replaceBlock g orelse)).pair finalbody
        (Stmt.replaceBlock g finalbody)
    Replaced.choose (g (.tryExcept body handlers orelse finalbody location))
      (.tryExcept body handlers orelse finalbody location)
      (inner.map fun (((body, bodies), orelse), finalbody) =>
        .tryExcept body (Handler.rebuild handlers (handlers.map Handler.type) bodies) orelse
          finalbody location)
  | .foreign kind =>
    Replaced.choose (g (.foreign kind)) (.foreign kind)
      { now := .foreign kind, fault := some (.notVariant kind) }
  | .importNames names location =>
    Replaced.choose (g (.importNames names location)) (.importNames names location)
      { now := .importNames names location }
  | .importFrom module names level location =>
    Replaced.choose (g (.importFrom module names level location))
      (.importFrom module names level location) { now := .importFrom module names level location }
  | .assign targets value location =>
    Replaced.choose (g (.assign targets value location)) (.assign targets value location)
      { now := .assign targets value location }
  | .ret value location =>
    Replaced.choose (g (.ret value location)) (.ret value location) { now := .ret value location }
  | .pass location => Replaced.choose (g (.pass location)) (.pass location) { now := .pass location }
  | .expr value location =>
    Replaced.choose (g (.expr value location)) (.expr value location) { now := .expr value location }
  | .captured kind source location =>
    Replaced.choose (g (.captured kind source location)) (.captured kind source location)
      { now := .captured kind source location }

/-- Replaces the statements of a block one by one. -/
def Stmt.replaceBlock (g : Stmt → Option (List Stmt)) : List Stmt → Replaced Block
  | [] => { now := [] }
  | s :: rest =>
    ((s.replace g).pair rest (Stmt.replaceBlock g rest)).map fun (new, rest) => new ++ rest

/-- Replaces statements in the bodies of handlers one by one. -/
def Handler.replaceBodies (g : Stmt → Option (List Stmt)) : List Handler → Replaced (List Block)
  | [] => { now := [] }
  | .mk _ _ body :: rest =>
    ((Stmt.replaceBlock g body).pair (rest.map Handler.body) (Handler.replaceBodies g rest)).map
      fun (body, bodies) => body :: bodies

end

/-- Replaces statements of a module. -/
def Module.replaceStmts (m : Module) (g : Stmt → Option (List Stmt)) : Replaced Block :=
  Stmt.replaceBlock g m.body

/-- Replaces statements; reports the number of replacements. -/
def replaceStmts (g : Stmt → Option (List Stmt)) : Edit Nat := fun m =>
  let r := m.replaceStmts g
  (match r.fault with
    | some f => .error f
    | none => .ok r.count, ⟨r.now⟩)

end Refactory
