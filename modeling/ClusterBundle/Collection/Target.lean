import ClusterBundle.File.Path
import ClusterBundle.Json.Value

/-!
What is collected and where it is put.
-/

namespace ClusterBundle

structure Target where
  /-- The operator whose installation is looked at. -/
  operator : String
  /-- The namespace that it is installed in. -/
  ns : String
  /-- The root of the bundle, an absolute path. -/
  destination : String
  deriving Repr, DecidableEq

namespace Target

/-- A target with its destination taken from a working directory; an empty path is none. -/
def make? (workingDirectory operator ns destination : String) : Option Target :=
  (Path.absolute? workingDirectory destination).map fun destination =>
    { operator, ns, destination }

/-- The label that the objects of the operator's installation bear. -/
def selector (target : Target) : String := s!"operators.coreos.com/{target.operator}.{target.ns}"

/-- The directory in the bundle for the operator's installation. -/
def installDirectory (target : Target) : String := s!"{target.operator}-info"

def json (target : Target) : Json.Value :=
  .object
    [("operator_name", .text target.operator), ("operator_namespace", .text target.ns),
      ("destination_dir", .text target.destination)]

end Target

end ClusterBundle
