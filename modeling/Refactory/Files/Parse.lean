import Refactory.Build
import Refactory.Files.Disk

/-! # Programs in files -/

namespace Refactory

/-- Reads the program in a file. A file that cannot be read is a failure to parse. -/
def parseFile [Codecs] (d : Disk) (p : FilePath) (encoding : Text) : Except Fault Module :=
  match d.readText p encoding with
  | .ok source => (parseSource source p.render).map (·.module)
  | .error f => .error (if f.isOfFile then .unreadable p.render f else .file f)

end Refactory
