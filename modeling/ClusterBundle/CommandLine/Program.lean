import ClusterBundle.Cluster.Tool
import ClusterBundle.CommandLine.Arguments
import ClusterBundle.CommandLine.Libraries
import ClusterBundle.Console.Summary
import ClusterBundle.Log.Filter
import ClusterBundle.Run.Basic

/-!
The program: what it prints, how it ends and what it leaves behind, as a function of its
surroundings.

A run that has begun always ends well, whatever the cluster says. The program fails only if its
arguments are wrong, if the root of the bundle cannot be made or if its log cannot be opened, and
where a library that it rests on stops it.
-/

namespace ClusterBundle.CommandLine

/-- Everything that the program is given. -/
structure Surroundings where
  arguments : List String
  environment : Settings.Environment
  workingDirectory : String
  tree : File.Tree
  /-- Runs a program with additional variables of its environment and arguments. -/
  launch : List (String × String) → String → List String → Cluster.Launch
  network : Http.Network
  /-- A directory that the tool may use while the program runs. -/
  cacheDirectory : String
  colours : Bool
  started : Calendar.Instant
  finished : Calendar.Instant
  libraries : Libraries := {}

/-- The settings of a run and whether the variables for them were void. -/
def Surroundings.settings (surroundings : Surroundings) : Except Stop (Settings × Bool) :=
  Settings.load (surroundings.libraries.readSettings surroundings.environment)

/-- A collection that was begun: with which tool, for which target, and what was done. -/
structure Work where
  tool : Cluster.Tool
  target : Target
  progress : Progress

/-- What the program comes to. -/
structure Ended where
  exit : Nat
  printed : Console.Printed
  tree : File.Tree
  /-- The collection, if it was begun. -/
  work : Option Work := none

def helpText : String :=
  "Collects a diagnostic bundle for the Kepler operator\n\n" ++
  "Usage: must-gather [OPTIONS]\n\n" ++
  "Options:\n" ++
  "  -n, --ns <NS>                  Namespace the operator is installed in " ++
    "[default: openshift-operators]\n" ++
  "  -o, --operator <OPERATOR>      Operator name, as used in its OLM labels " ++
    "[default: kepler-operator]\n" ++
  "  -d, --dest-dir <DEST_DIR>      Directory the bundle is written to " ++
    "[default: /must-gather]\n" ++
  "      --kubeconfig <KUBECONFIG>  Path to kubeconfig file " ++
    "(the CLI tool otherwise honors KUBECONFIG itself)\n" ++
  "  -h, --help                     Print help\n" ++
  "  -V, --version                  Print version\n"

def versionText : String := "must-gather 0.1.0\n"

def usageText : String := "Usage: must-gather [OPTIONS]\n\nFor more information, try '--help'.\n"

/-- What is printed for wrong arguments. -/
def argumentText (fault : Fault) : String := s!"error: {fault.message}\n\n" ++ usageText

/-- A text below a heading: its first line behind a mark, the others as far to the right. -/
def indented (mark margin text : String) : String :=
  mark ++ Text.joinWith ("\n" ++ margin) (Text.split '\n' text)

/-- A failure with the faults that it comes from, numbered if there are several. -/
def chainText (failure : String) (causes : List String) : String :=
  let lines := match causes with
    | [] => []
    | [cause] => [indented "    " "    " cause]
    | causes => causes.mapIdx fun i cause => indented s!"    {i}: " "       " cause
  let below := match lines with
    | [] => ""
    | lines => "\n\nCaused by:\n" ++ Text.joinWith "\n" lines
  s!"Error: {failure}" ++ below ++ "\n"

/-- What is printed where a library stops the program. -/
def stopText : Stop → String
  | .refused message => chainText message []
  | .panicked message => s!"thread 'main' panicked:\n{message}\n"
  | .aborted message => s!"{message}\n"

/-- An end that a library brings about. -/
def Ended.stopped (stop : Stop) (tree : File.Tree) : Ended :=
  { exit := stop.exit, printed := { stderr := stopText stop }, tree }

def logName : String := "gather-debug.log"

/-- The file that the events of a run are written to. -/
def logPath (target : Target) : String := Path.join target.destination logName

/-- The variables that the tool is given. -/
def toolVariables (surroundings : Surroundings) (target : Target) : List (String × String) :=
  [("KUBECACHEDIR", surroundings.cacheDirectory), ("GATHER_LOGFILE_PATH", logPath target)]

def tool (surroundings : Surroundings) (options : Options) (target : Target)
    (settings : Settings) : Cluster.Tool :=
  { program := settings.tool
    kubeconfig := options.kubeconfig
    launch := surroundings.launch (toolVariables surroundings target)
    network := surroundings.network }

/-- The origins of events: the library, and the program around it. -/
def libraryOrigin : String := "gather_lib"
def programOrigin : String := "must_gather"

/-- What is written to the log about a run. -/
def logText (surroundings : Surroundings) (settings : Settings) (settingsVoid : Bool)
    (events : List Event) (saved : Except Bundle.Fault String) : String :=
  let filter := Log.filter (surroundings.environment.lookup "RUST_LOG")
  let void :=
    if settingsVoid then [Event.warning "Ignoring invalid MUST_GATHER_* settings" []] else []
  let last := match saved with
    | .ok _ => []
    | .error fault => [Event.warning "Could not save run summary" [("error", fault.message)]]
  Log.lines filter libraryOrigin void ++
    Log.lines filter programOrigin
      [.info "Configuration loaded" [("cli_binary", settings.tool)]] ++
    Log.lines filter libraryOrigin events ++ Log.lines filter programOrigin last

/-- What is printed about a run that began. -/
def runText (colours : Bool) (report : Report) (saved : Except Bundle.Fault String) :
    Console.Printed :=
  let target := report.target
  let unsaved := match saved with
    | .ok _ => {}
    | .error fault =>
        Console.message colours .warning s!"Could not save run summary: {fault.message}"
  Console.message colours .info
      s!"Gathering {target.operator} in {target.ns} into {target.destination}" ++
    unsaved ++ Console.banner colours report ++ Console.tallyTables colours report.tally

/-- Collects into a bundle whose root and log exist. -/
def gather (surroundings : Surroundings) (options : Options) (target : Target)
    (tree : File.Tree) : Ended :=
  match surroundings.settings with
  | .error stop => .stopped stop tree
  | .ok (settings, settingsVoid) =>
      let tool := tool surroundings options target settings
      let (findings, progress) := Run.run tool.cluster target settings tree
      let report :=
        Run.report target findings progress.tally surroundings.started surroundings.finished
      let (saved, tree) := report.save progress.tree
      let log := logText surroundings settings settingsVoid progress.log saved
      { exit := 0
        printed := runText surroundings.colours report saved
        tree := (File.append tree (logPath target) (Utf8.encode log)).toOption.getD tree
        work := some { tool, target, progress } }

/-- Makes the root of the bundle and opens the log, and then collects. -/
def collect (surroundings : Surroundings) (options : Options) : Ended :=
  let fail (printed : Console.Printed) (tree : File.Tree) : Ended := { exit := 1, printed, tree }
  let colours := surroundings.colours
  match Target.make? surroundings.workingDirectory options.operator options.ns
      options.destination with
  | none =>
      fail
        { stderr := chainText s!"resolving destination {options.destination}"
            ["cannot make an empty path absolute"] }
        surroundings.tree
  | some target =>
      match target.prepare surroundings.tree with
      | (.error fault, tree) =>
          fail
            (Console.message colours .error fault.message ++
              { stderr := chainText "preparing destination directory"
                  (fault.message :: fault.sources) })
            tree
      | (.ok (), tree) =>
          match File.append tree (logPath target) [] with
          | .error fault =>
              fail
                { stderr := chainText s!"opening debug log {logPath target}" [fault.message] } tree
          | .ok tree => gather surroundings options target tree

/-- Does what the arguments ask for. -/
def perform (surroundings : Surroundings) : Ended :=
  match parse surroundings.arguments with
  | .error fault =>
      { exit := 1, printed := { stderr := argumentText fault }, tree := surroundings.tree }
  | .ok .help => { exit := 0, printed := { stdout := helpText }, tree := surroundings.tree }
  | .ok .version => { exit := 0, printed := { stdout := versionText }, tree := surroundings.tree }
  | .ok (.collect options) => collect surroundings options

/-- Runs the program, once it has been started. -/
def run (surroundings : Surroundings) : Ended :=
  match surroundings.libraries.start surroundings.environment with
  | some stop => .stopped stop surroundings.tree
  | none => perform surroundings

end ClusterBundle.CommandLine
