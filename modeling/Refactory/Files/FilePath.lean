import Refactory.Text

/-! # File paths

A path is kept as it was written, less what does not matter: empty components and single dots. Double
dots stay, since where they lead depends on the files.

* `FilePath.ofText`, `FilePath.render`: reading and writing. -/

namespace Refactory

/-- A path: what stands before the first component, and the components. -/
structure FilePath where
  /-- Nothing, or the slashes of a path from the root. -/
  anchor : Text := []
  parts : List Text
deriving DecidableEq, Inhabited

namespace FilePath

/-- The slashes that a path begins with: exactly two are kept, more count as one. -/
def anchorOf (t : Text) : Text :=
  match (t.takeWhile fun c : CodePoint => c = '/').length with
  | 0 => ""
  | 2 => "//"
  | _ => "/"

/-- The path that a text writes. -/
def ofText (t : Text) : FilePath :=
  ⟨anchorOf t, (t.splitOn '/').filter fun part => !part.isEmpty && part != "."⟩

/-- The text of a path; the empty path is a dot. -/
def render (p : FilePath) : Text :=
  if p.anchor.isEmpty && p.parts.isEmpty then "." else p.anchor ++ Text.join "/" p.parts

/-- A path below another. -/
def below (p : FilePath) (parts : List Text) : FilePath := { p with parts := p.parts ++ parts }

/-- The order of paths by their components. -/
def partsLe : List Text → List Text → Bool
  | [], _ => true
  | _ :: _, [] => false
  | a :: as, b :: bs => a.lt b || (a == b && partsLe as bs)

end FilePath

end Refactory
