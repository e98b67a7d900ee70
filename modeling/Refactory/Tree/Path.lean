import Refactory.Fault

/-! # Paths

A path leads to a statement: its first step is an index in the module, each further one an index
into the blocks of the statement reached so far, counted through all of them.

* `Module.locate`: the block that a path leads to and the index in it.
* `Module.editAt`: the module with that block changed. -/

namespace Refactory

/-- The index that a step means in a block, if there is a statement at it. -/
def Block.index? (b : Block) (step : Int) : Option Nat :=
  if 0 ≤ step ∧ step.toNat < b.length then some step.toNat else none

/-- The block that an index into the flattened blocks falls into, by its number, and the index in
it. -/
def flatIndex : List Block → Nat → Option (Nat × Nat)
  | [], _ => none
  | b :: rest, i =>
    if i < b.length then some (0, i)
    else (flatIndex rest (i - b.length)).map fun (k, j) => (k + 1, j)

namespace Stmt

/-- The block of a statement that a step leads into, by its number, and the index in it. -/
def child (s : Stmt) (step : Int) : Except Fault (Nat × Nat) :=
  match s, decide (0 ≤ step) with
  | .foreign kind, true => .error (.notVariant kind)
  | s, true =>
    match flatIndex s.blocks step.toNat with
    | some found => .ok found
    | none => .error (.noChild s.variant step)
  | s, false => .error (.noChild s.variant step)

/-- The handlers with the body of the `k`th replaced. -/
def setHandlerBody (body : Block) : Nat → List Handler → List Handler
  | _, [] => []
  | 0, .mk type name _ :: rest => .mk type name body :: rest
  | k + 1, h :: rest => h :: setHandlerBody body k rest

/-- The statement with its `k`th block replaced. -/
def setBlock (s : Stmt) (k : Nat) (block : Block) : Stmt :=
  match s with
  | .function head _ location => .function head block location
  | .classDef head _ location => .classDef head block location
  | .tryExcept body handlers orelse finalbody location =>
    if k = 0 then .tryExcept block handlers orelse finalbody location
    else if k ≤ handlers.length then
      .tryExcept body (setHandlerBody block (k - 1) handlers) orelse finalbody location
    else if k = handlers.length + 1 then .tryExcept body handlers block finalbody location
    else .tryExcept body handlers orelse block location
  | s => s

end Stmt

/-- Follows the steps of `path` from `step` on, which stands at `depth`, in a block. -/
def Block.locate (path : Path) (depth : Nat) (b : Block) (step : Int) :
    Path → Except Fault (Block × Nat)
  | [] =>
    match b.index? step with
    | none => .error (.stalePath path depth)
    | some i => .ok (b, i)
  | next :: rest =>
    match b.index? step with
    | none => .error (.stalePath path depth)
    | some i => do
      let s := b[i]?.getD default
      let (k, j) ← s.child next
      Block.locate path (depth + 1) (s.blocks[k]?.getD []) j rest

/-- Changes the block that the steps of `path` lead to. -/
def Block.editAt (edit : Block → Nat → Block) (path : Path) (depth : Nat) (b : Block) (step : Int) :
    Path → Except Fault Block
  | [] =>
    match b.index? step with
    | none => .error (.stalePath path depth)
    | some i => .ok (edit b i)
  | next :: rest =>
    match b.index? step with
    | none => .error (.stalePath path depth)
    | some i => do
      let s := b[i]?.getD default
      let (k, j) ← s.child next
      let inner ← Block.editAt edit path (depth + 1) (s.blocks[k]?.getD []) j rest
      return b.set i (s.setBlock k inner)

namespace Module

/-- The block that a path leads to and the index in it. -/
def locate (m : Module) (path : Path) : Except Fault (Block × Nat) :=
  match path with
  | [] => .error .emptyPath
  | step :: rest => Block.locate path 0 m.body step rest

/-- The statement that a path leads to. -/
def resolve (m : Module) (path : Path) : Except Fault Stmt := do
  let (b, i) ← m.locate path
  return b[i]?.getD default

/-- The module with the block changed that a path leads to. -/
def editAt (m : Module) (path : Path) (edit : Block → Nat → Block) : Except Fault Module :=
  match path with
  | [] => .error .emptyPath
  | step :: rest => (Block.editAt edit path 0 m.body step rest).map Module.mk

end Module

end Refactory
