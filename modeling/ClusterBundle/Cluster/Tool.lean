import ClusterBundle.Cluster.Basic
import ClusterBundle.Http.Network

/-!
A cluster that is reached by running a command-line tool once for each request.

A request fails if the tool cannot be started or does not succeed. Only a read of objects can find
that an object is absent: the tool then either says so on its error output, or, for a single
object, succeeds with blank output.
-/

namespace ClusterBundle.Cluster

/-- How a program ended. -/
inductive ExitStatus where
  | code (value : Nat)
  /-- A signal ended it, and perhaps left a core. -/
  | signal (number : Nat) (core : Bool := false)
  deriving Repr, DecidableEq

def signalName? : Nat → Option String
  | 1 => some "SIGHUP"
  | 2 => some "SIGINT"
  | 3 => some "SIGQUIT"
  | 4 => some "SIGILL"
  | 5 => some "SIGTRAP"
  | 6 => some "SIGABRT"
  | 7 => some "SIGBUS"
  | 8 => some "SIGFPE"
  | 9 => some "SIGKILL"
  | 10 => some "SIGUSR1"
  | 11 => some "SIGSEGV"
  | 12 => some "SIGUSR2"
  | 13 => some "SIGPIPE"
  | 14 => some "SIGALRM"
  | 15 => some "SIGTERM"
  | 16 => some "SIGSTKFLT"
  | 17 => some "SIGCHLD"
  | 18 => some "SIGCONT"
  | 19 => some "SIGSTOP"
  | 20 => some "SIGTSTP"
  | 21 => some "SIGTTIN"
  | 22 => some "SIGTTOU"
  | 23 => some "SIGURG"
  | 24 => some "SIGXCPU"
  | 25 => some "SIGXFSZ"
  | 26 => some "SIGVTALRM"
  | 27 => some "SIGPROF"
  | 28 => some "SIGWINCH"
  | 29 => some "SIGIO"
  | 30 => some "SIGPWR"
  | 31 => some "SIGSYS"
  | _ => none

def ExitStatus.message : ExitStatus → String
  | .code value => s!"exit status: {value}"
  | .signal number core =>
      let name := match signalName? number with
        | some name => s!" ({name})"
        | none => ""
      let dumped := if core then " (core dumped)" else ""
      s!"signal: {number}" ++ name ++ dumped

/-- What comes of starting a program. -/
inductive Launch where
  | notStarted (fault : IoFault)
  | exited (status : ExitStatus) (stdout stderr : Bytes)
  deriving Repr, DecidableEq

/-- A command-line tool and the surroundings in which it is run. -/
structure Tool where
  program : String
  /-- The file with the access data of the cluster, if one is named. -/
  kubeconfig : Option String := none
  /-- Runs a program with arguments. -/
  launch : String → List String → Launch
  network : Http.Network

namespace Tool

/-- What the tool says about an object or a kind of object that does not exist. -/
def absenceMarks : List String :=
  ["Error from server (NotFound)", "doesn't have a resource type", "no matches for kind"]

def reportsAbsence (stderr : String) : Bool := absenceMarks.any fun mark => Text.holds stderr mark

/-- All arguments of an invocation. Options for the tool itself come first, so that none of them
ends up behind a `--`. -/
def fullArguments (tool : Tool) (arguments : List String) : List String :=
  match tool.kubeconfig with
  | some path => s!"--kubeconfig={path}" :: arguments
  | none => arguments

def commandLine (tool : Tool) (arguments : List String) : String :=
  tool.program ++ " " ++ Text.joinWith " " (tool.fullArguments arguments)

/-- What comes of an invocation. A NUL character cannot be passed to a program. -/
def start (tool : Tool) (arguments : List String) : Launch :=
  if (tool.program :: tool.fullArguments arguments).any fun s => s.toList.contains '\x00' then
    .notStarted .nulInArgument
  else tool.launch tool.program (tool.fullArguments arguments)

def errorText (stderr : Bytes) : String := Text.trim (Utf8.lossy stderr)

/-- The output of an invocation, or its failure. Where `absent` is given, that is the failure if
the tool reports absence. -/
def run (tool : Tool) (arguments : List String) (absent : Option Failure) :
    Except Failure Bytes :=
  match tool.start arguments with
  | .notStarted fault => .error (.notStarted (tool.commandLine arguments) fault)
  | .exited (.code 0) stdout _ => .ok stdout
  | .exited status _ stderr =>
      let stderr := errorText stderr
      let failed := Failure.commandFailed (tool.commandLine arguments) status.message stderr
      match absent with
      | some failure => if reportsAbsence stderr then .error failure else .error failed
      | none => .error failed

/-- The failure to find the objects of a query. -/
def absence (query : Query) : Failure := .notFound query.kind query.targetName query.ns

def isAsciiBlank (b : UInt8) : Bool := b = 32 || b = 9 || b = 10 || b = 12 || b = 13

/-- A single object that is asked for by name is absent if the output is blank. -/
def get (tool : Tool) (query : Query) : Except Failure Bytes :=
  match tool.run query.arguments (some (absence query)), query.selection with
  | .ok output, .named _ =>
      if output.all isAsciiBlank then .error (absence query) else .ok output
  | result, _ => result

/-- A token is the trimmed output, which must not be empty. -/
def token (tool : Tool) (ns account duration : String) : Except Failure Bytes :=
  match tool.run (tokenArguments ns account duration) none with
  | .error failure => .error failure
  | .ok output =>
      match Utf8.decode output with
      | .error fault => .error (.undecodable "token" fault.message)
      | .ok text =>
          let token := Text.trim text
          if token = "" then .error (.undecodable "token" "empty token issued")
          else .ok (Utf8.encode token)

def answer (tool : Tool) : Call → Except Failure Bytes
  | .get query => tool.get query
  | .exec container command => tool.run (container.execArguments command) none
  | .logs source => tool.run source.arguments none
  | .token ns account duration => tool.token ns account duration
  | .fetch url token bundle =>
      match Http.fetch tool.network url token bundle with
      | .ok body => .ok body
      | .error fault => .error (.fetchFailed url fault.message)

/-- An observer is told about every command that fails for another reason than absence. -/
def notices (tool : Tool) (call : Call) : List Event :=
  match call.arguments? with
  | none => []
  | some arguments =>
      match tool.start arguments with
      | .notStarted _ | .exited (.code 0) _ _ => []
      | .exited status _ stderr =>
          let isRead := match call with
            | .get _ => true
            | _ => false
          if isRead && reportsAbsence (errorText stderr) then []
          else
            [Event.warning "Cluster command failed"
              [("command", tool.commandLine arguments), ("status", status.message)]]

def cluster (tool : Tool) : Cluster := { answer := tool.answer, notices := tool.notices }

end Tool

end ClusterBundle.Cluster
