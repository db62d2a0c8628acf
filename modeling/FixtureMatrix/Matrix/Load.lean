import FixtureMatrix.Disk.Operations
import FixtureMatrix.Document.Config
import FixtureMatrix.Document.YamlText

/-!
# Configurations on a disk

A configuration file is a YAML document; it is checked as soon as it is read.
-/

namespace FixtureMatrix.MatrixConfig

/-- Reads the text of a configuration file. -/
def parse (s : String) : Except String MatrixConfig :=
  Document.YamlText.decode (decode Document.YamlText.dialect) s.toList

/-- Loads a configuration file and checks it. -/
def load (d : Disk) (path : String) : Except FixtureError MatrixConfig :=
  match d.readText path with
  | .error e => .error (.io path e)
  | .ok text =>
    match parse text with
    | .error message => .error (.config path none (.document message))
    | .ok c => c.validate.map fun () => c

end FixtureMatrix.MatrixConfig
