import ClusterBundle.Settings

/-!
The libraries that look at the environment on behalf of the program: one starts it on several
threads, and one reads its settings. The program takes what they say as it comes, an end of the
program included.
-/

namespace ClusterBundle.CommandLine

/-- The variable that says on how many threads the program runs. -/
def threadsName : String := "TOKIO_WORKER_THREADS"

/-- Reads digits from the left behind a number of 64 bits. -/
def readNumber : (value : Nat) → List Char → Except String Nat
  | value, [] => .ok value
  | value, c :: rest =>
      let next := 10 * value + (c.toNat - '0'.toNat)
      if !c.isDigit then .error "invalid digit found in string"
      else if 18446744073709551615 < next then .error "number too large to fit in target type"
      else readNumber next rest

def threads (text : String) : Except String Nat :=
  match text.toList with
  | [] => .error "cannot parse integer from empty string"
  | '+' :: c :: rest => readNumber 0 (c :: rest)
  | digits => readNumber 0 digits

/-- Starts the program, unless no threads or no number of threads are asked for. -/
def start (environment : Settings.Environment) : Option Stop :=
  match environment.lookup threadsName with
  | none => none
  | some text =>
      match threads text with
      | .error fault =>
          some (.panicked s!"\"{threadsName}\" must be usize, error: {fault}, value: {text}")
      | .ok 0 => some (.panicked s!"\"{threadsName}\" cannot be set to 0")
      | .ok _ => none

structure Libraries where
  /-- What keeps the program from being started, if anything does. -/
  start : Settings.Environment → Option Stop := CommandLine.start
  readSettings : Settings.Environment → Settings.Reading := Settings.read

end ClusterBundle.CommandLine
