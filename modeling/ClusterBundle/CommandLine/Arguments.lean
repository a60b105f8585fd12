import ClusterBundle.Text.Blank

/-!
The arguments of the command line.

Arguments are read from left to right. A parameter that still waits for its value gets the next
argument unless that begins with a dash; whether it then has a value, and only one, is looked at
when the next known argument comes or the arguments end. An argument that is not known ends the
reading at once, before anything is said about a waiting parameter.
-/

namespace ClusterBundle.CommandLine

/-- What a collection is asked to do. -/
structure Options where
  ns : String := "openshift-operators"
  operator : String := "kepler-operator"
  destination : String := "/must-gather"
  kubeconfig : Option String := none
  deriving Repr, DecidableEq

/-- What takes a value. -/
inductive Parameter where
  | ns
  | operator
  | destination
  | kubeconfig
  deriving Repr, DecidableEq

/-- What takes none. -/
inductive Switch where
  | help
  | version
  deriving Repr, DecidableEq

/-- What the command line asks for. -/
inductive Request where
  | collect (options : Options)
  | help
  | version
  deriving Repr, DecidableEq

def Switch.request : Switch → Request
  | .help => .help
  | .version => .version

inductive Fault where
  | unexpected (argument : String)
  | missingValue (parameter : Parameter)
  | repeated (parameter : Parameter)
  /-- A value for what takes none. -/
  | unneededValue (value : String) (switch : Switch)
  deriving Repr, DecidableEq

/-- How messages name a parameter. -/
def Parameter.text : Parameter → String
  | .ns => "--ns <NS>"
  | .operator => "--operator <OPERATOR>"
  | .destination => "--dest-dir <DEST_DIR>"
  | .kubeconfig => "--kubeconfig <KUBECONFIG>"

/-- Parameters that are paths do without the empty value. -/
def Parameter.isPath : Parameter → Bool
  | .destination | .kubeconfig => true
  | .ns | .operator => false

def Switch.text : Switch → String
  | .help => "--help"
  | .version => "--version"

/-- The line that tells a fault. -/
def Fault.message : Fault → String
  | .unexpected argument => s!"unexpected argument '{argument}' found"
  | .missingValue parameter => s!"a value is required for '{parameter.text}' but none was supplied"
  | .repeated parameter => s!"the argument '{parameter.text}' cannot be used multiple times"
  | .unneededValue value switch =>
      s!"unexpected value '{value}' for '{switch.text}' found; no more were expected"

/-- What a name stands for. -/
inductive Named where
  | parameter (parameter : Parameter)
  | switch (switch : Switch)
  deriving Repr, DecidableEq

def longName? : String → Option Named
  | "ns" => some (.parameter .ns)
  | "operator" => some (.parameter .operator)
  | "dest-dir" => some (.parameter .destination)
  | "kubeconfig" => some (.parameter .kubeconfig)
  | "help" => some (.switch .help)
  | "version" => some (.switch .version)
  | _ => none

def shortName? : Char → Option Named
  | 'n' => some (.parameter .ns)
  | 'o' => some (.parameter .operator)
  | 'd' => some (.parameter .destination)
  | 'h' => some (.switch .help)
  | 'V' => some (.switch .version)
  | _ => none

/-- What has been read so far. -/
structure Reading where
  values : List (Parameter × String) := []
  /-- The last parameter, with its value if there was one. -/
  pending : Option (Parameter × Option String) := none
  deriving Repr, DecidableEq

namespace Reading

/-- Gives a parameter its value. -/
def assign (reading : Reading) (parameter : Parameter) (value : String) : Except Fault Reading :=
  if (reading.values.lookup parameter).isSome then .error (.repeated parameter)
  else if parameter.isPath && value = "" then .error (.missingValue parameter)
  else .ok { reading with values := (parameter, value) :: reading.values }

/-- Gives the pending parameter its value. -/
def settle (reading : Reading) : Except Fault Reading :=
  match reading.pending with
  | none => .ok reading
  | some (parameter, none) => .error (.missingValue parameter)
  | some (parameter, some value) => ({ reading with pending := none }).assign parameter value

def options (reading : Reading) : Options :=
  let value (parameter : Parameter) (default : String) : String :=
    (reading.values.lookup parameter).getD default
  { ns := value .ns "openshift-operators"
    operator := value .operator "kepler-operator"
    destination := value .destination "/must-gather"
    kubeconfig := reading.values.lookup .kubeconfig }

/-- What the end of the arguments comes to. -/
def finish (reading : Reading) : Except Fault Request :=
  reading.settle.map fun reading => .collect reading.options

/-- A parameter with the value that is attached to it, or that is still to come. -/
def parameter (reading : Reading) (parameter : Parameter) (attached : Option String) :
    Except Fault Reading := do
  let reading ← reading.settle
  match attached with
  | some value => reading.assign parameter value
  | none => return { reading with pending := some (parameter, none) }

/-- An argument, or the request that ends the reading. -/
abbrev Next := Except Fault (Reading ⊕ Request)

/-- A long name, behind its dashes, with the value behind an equals sign. -/
def long (reading : Reading) (argument : List Char) : Next :=
  let (name, attached) := match Text.cutAt '=' argument with
    | some (name, value) => (String.ofList name, some (String.ofList value))
    | none => (String.ofList argument, none)
  match longName? name, attached with
  | none, _ => .error (.unexpected ("--" ++ name))
  | some (.parameter p), attached => (reading.parameter p attached).map .inl
  | some (.switch s), some value => .error (.unneededValue value s)
  | some (.switch s), none => reading.settle.map fun _ => .inr s.request

/-- Short names, behind their dash. What follows the name of a parameter is its value. -/
def short (reading : Reading) (argument : List Char) : Next :=
  match argument with
  | [] => .ok (.inl reading)
  | c :: rest =>
      match shortName? c with
      | none => .error (.unexpected (String.ofList ['-', c]))
      | some (.switch s) => reading.settle.map fun _ => .inr s.request
      | some (.parameter p) =>
          let attached := match rest with
            | [] => none
            | '=' :: value => some (String.ofList value)
            | value => some (String.ofList value)
          (reading.parameter p attached).map .inl

/-- An argument that begins with no dash. -/
def plain (reading : Reading) (argument : String) : Next :=
  match reading.pending with
  | some (p, none) => .ok (.inl { reading with pending := some (p, some argument) })
  | _ => .error (.unexpected argument)

def next (reading : Reading) (argument : String) : Next :=
  match argument.toList with
  | '-' :: '-' :: name => reading.long name
  | '-' :: c :: rest => reading.short (c :: rest)
  | _ => reading.plain argument

/-- Reads the arguments that are left. -/
def readAll (reading : Reading) : List String → Except Fault Request
  | [] => reading.finish
  | "--" :: [] => reading.finish
  | "--" :: argument :: _ => .error (.unexpected argument)
  | argument :: rest =>
      match reading.next argument with
      | .error fault => .error fault
      | .ok (.inr request) => .ok request
      | .ok (.inl reading) => readAll reading rest

end Reading

/-- What the arguments ask for. -/
def parse (arguments : List String) : Except Fault Request := ({} : Reading).readAll arguments

end ClusterBundle.CommandLine
