import Refactory.Files.Encoding
import Refactory.Files.FilePath

/-! # Files

A disk holds files and folders below a working folder. Each is known by its place: the names from
the working folder down to it. Nothing is known to exist outside.

* `Disk.locate`: where a path leads.
* `Disk.readText`, `Disk.writeText`: the text of a file in an encoding.
* `Disk.makeFolders`: a folder and those above it.
* `Disk.listBelow`: what stands below a folder. -/

namespace Refactory

/-- The names that lead from the working folder to a file or a folder. -/
abbrev Place := List Text

/-- What stands at a place. -/
inductive Entry
  | file (content : Bytes)
  | folder
deriving Inhabited

/-- The files and folders below the working folder, each place once. -/
structure Disk where
  entries : List (Place × Entry) := []
deriving Inhabited

namespace Disk

/-- What stands at a place; the working folder always does. -/
def get? (d : Disk) (place : Place) : Option Entry :=
  if place.isEmpty then some .folder else d.entries.lookup place

/-- Sets what stands at a place. -/
def put (d : Disk) (place : Place) (e : Entry) : Disk :=
  if d.entries.any (·.1 == place) then
    ⟨d.entries.map fun (p, old) => if p == place then (p, e) else (p, old)⟩
  else ⟨d.entries ++ [(place, e)]⟩

/-- The place that steps lead to from a folder; each step but the last has to reach a folder. -/
def follow (d : Disk) (whole : FilePath) (here : Place) : List Text → Except FileFault Place
  | [] => .ok here
  | step :: rest =>
    match d.get? here with
    | none => .error (.missing whole.render)
    | some (.file _) => .error (.notDirectory whole.render)
    | some .folder =>
      if step = ".." then
        if here.isEmpty then .error (.missing whole.render) else d.follow whole here.dropLast rest
      else d.follow whole (here ++ [step]) rest

/-- The place that a path leads to, whether or not something stands there. -/
def locate (d : Disk) (p : FilePath) : Except FileFault Place :=
  if p.anchor.isEmpty then d.follow p [] p.parts else .error (.missing p.render)

/-- What a path leads to. -/
def find? (d : Disk) (p : FilePath) : Option Entry :=
  match d.locate p with
  | .ok place => d.get? place
  | .error _ => none

/-- Whether a path leads to a folder. -/
def isFolder (d : Disk) (p : FilePath) : Bool :=
  match d.find? p with
  | some .folder => true
  | _ => false

/-- Whether a path leads to a file. -/
def isFile (d : Disk) (p : FilePath) : Bool :=
  match d.find? p with
  | some (.file _) => true
  | _ => false

/-! ## Reading and writing -/

/-- The bytes of a file. -/
def read (d : Disk) (p : FilePath) : Except FileFault Bytes := do
  match d.get? (← d.locate p) with
  | some (.file content) => .ok content
  | some .folder => .error (.isDirectory p.render)
  | none => .error (.missing p.render)

/-- The place of a file that is to be written. -/
def target (d : Disk) (p : FilePath) : Except FileFault Place := do
  let place ← d.locate p
  match d.get? place with
  | some .folder => .error (.isDirectory p.render)
  | _ => .ok place

/-- The text of a file, line ends unified. -/
def readText [Codecs] (d : Disk) (p : FilePath) (encoding : Text) : Except FileFault Text := do
  let bytes ← d.read p
  let codec ← Codecs.named encoding
  return (← codec.decode bytes).unifyNewlines

/-- Writes a text to a file. The file is emptied before the text is encoded, so it stays empty if
that fails. -/
def writeText [Codecs] (d : Disk) (p : FilePath) (encoding : Text) (t : Text) :
    Except FileFault Unit × Disk :=
  match d.target p with
  | .error f => (.error f, d)
  | .ok place =>
    match Codecs.named encoding >>= (·.write t) with
    | .error f => (.error f, d.put place (.file []))
    | .ok bytes => (.ok (), d.put place (.file bytes))

/-! ## Folders -/

/-- Makes one folder; one that is there already is left as it is. -/
def makeFolder (d : Disk) (p : FilePath) : Except FileFault Disk := do
  let place ← d.locate p
  match d.get? place with
  | some .folder => .ok d
  | some (.file _) => .error (.alreadyThere p.render)
  | none =>
    match d.get? place.dropLast with
    | some .folder => .ok (d.put place .folder)
    | some (.file _) => .error (.notDirectory p.render)
    | none => .error (.missing p.render)

/-- Makes the folder whose components are given from the last to the first, and those above it that
are missing. -/
def makeFoldersUp (d : Disk) (anchor : Text) : List Text → Except FileFault Disk
  | [] => d.makeFolder ⟨anchor, []⟩
  | part :: above =>
    let p : FilePath := ⟨anchor, (part :: above).reverse⟩
    match d.makeFolder p with
    | .error (.missing _) => do (← d.makeFoldersUp anchor above).makeFolder p
    | done => done

/-- Makes a folder and those above it. -/
def makeFolders (d : Disk) (p : FilePath) : Except FileFault Disk :=
  d.makeFoldersUp p.anchor p.parts.reverse

/-- Sets the contents of a file and makes the folders above it. -/
def addFile (d : Disk) (p : FilePath) (content : Bytes) : Except FileFault Disk := do
  let d ← d.makeFolders { p with parts := p.parts.dropLast }
  return d.put (← d.target p) (.file content)

/-! ## Listings -/

/-- The places below a place, as the names that lead there from it. -/
def placesBelow (d : Disk) (place : Place) : List Place :=
  d.entries.filterMap fun (p, _) =>
    if place.isPrefixOf p && place.length < p.length then some (p.drop place.length) else none

/-- What stands below a folder, as components from it, in the order of their components. -/
def listBelow (d : Disk) (p : FilePath) : List Place :=
  match d.locate p with
  | .ok place => (d.placesBelow place).mergeSort FilePath.partsLe
  | .error _ => []

/-- All files with their places. -/
def files (d : Disk) : List (Place × Bytes) :=
  d.entries.filterMap fun (p, e) =>
    match e with
    | .file content => some (p, content)
    | .folder => none

/-- The places of all folders. -/
def folders (d : Disk) : List Place :=
  d.entries.filterMap fun (p, e) =>
    match e with
    | .file _ => none
    | .folder => some p

end Disk

end Refactory
