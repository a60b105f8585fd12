import ClusterBundle.Stop
import ClusterBundle.Text.Blank

/-!
The settings of a run and how the environment overrides them.

A setting is overridden by a variable whose name is the prefix `MUST_GATHER_` and the name of the
setting, in upper or lower case. What stands behind the prefix is read as a path: a name, and behind
it names behind points and indices in brackets. A variable that treats a setting as if it had parts
makes all overrides void. A list is made as long as an index in a path asks for, even if no setting
has that path, and the program does not outlive an index that no list can have.
-/

namespace ClusterBundle

structure Settings where
  /-- The program that is run for every request. -/
  tool : String := "oc"
  /-- The namespace of the exporter where the cluster does not name one. -/
  workloadNamespace : String := "openshift-power-monitoring"
  monitoringNamespace : String := "openshift-monitoring"
  /-- The namespace of the monitoring of user workloads. -/
  userMonitoringNamespace : String := "openshift-user-workload-monitoring"
  /-- How long the token for monitoring lasts. -/
  tokenDuration : String := "10m"
  deriving Repr, DecidableEq

namespace Settings

/-- The environment, as names and values. -/
abbrev Environment := List (String × String)

/-- What a reader of the environment comes to: settings, nothing where the values do not make any,
or an end of the program. -/
abbrev Reading := Except Stop (Option Settings)

def names : List String :=
  ["cli_binary", "workload_namespace_default", "monitoring_namespace",
    "user_workload_namespace", "token_duration"]

def set (settings : Settings) (name value : String) : Settings :=
  match name with
  | "cli_binary" => { settings with tool := value }
  | "workload_namespace_default" => { settings with workloadNamespace := value }
  | "monitoring_namespace" => { settings with monitoringNamespace := value }
  | "user_workload_namespace" => { settings with userMonitoringNamespace := value }
  | "token_duration" => { settings with tokenDuration := value }
  | _ => settings

/-- A step of a path behind its first name. -/
inductive Part where
  | name (text : String)
  /-- A place in a list, counted from behind if it is negative. -/
  | index (position : Int)
  deriving Repr, DecidableEq

/-- The path that the name of a variable spells behind the prefix. -/
structure Key where
  name : String
  parts : List Part := []
  deriving Repr, DecidableEq

/-- The prefix of the variables that count, in lower case. -/
def variablePrefix : String := "must_gather_"

def isNameChar (c : Char) : Bool := c.isAlphanum || c = '_' || c = '-' || c = ' '

/-- The index that a text between brackets spells, with spaces and tabs around it. -/
def index? (text : List Char) : Option Int :=
  let isSpace (c : Char) : Bool := c = ' ' || c = '\t'
  let text := text.dropWhile isSpace
  let (isNegative, body) := match text with
    | '-' :: body => (true, body)
    | body => (false, body)
  let digits := body.takeWhile Char.isDigit
  let value : Int := Nat.ofDigitChars 10 digits 0
  let position := if isNegative then -value else value
  if digits.isEmpty || !(body.drop digits.length).all isSpace then none
  else if -9223372036854775808 ≤ position && position ≤ 9223372036854775807 then some position
  else none

/-- Reads names behind points and indices in brackets. -/
def parts? : (fuel : Nat) → List Char → Option (List Part)
  | _, [] => some []
  | 0, _ => none
  | fuel + 1, '.' :: rest => do
      let name := rest.takeWhile isNameChar
      if name.isEmpty then none
      else
        let parts ← parts? fuel (rest.drop name.length)
        some (.name (String.ofList name) :: parts)
  | fuel + 1, '[' :: rest => do
      let (inside, behind) ← Text.cutAt ']' rest
      let position ← index? inside
      let parts ← parts? fuel behind
      some (.index position :: parts)
  | _, _ => none

/-- Reads a path. A text that spells none is taken for a name. -/
def Key.ofPath (path : List Char) : Key :=
  let head := path.takeWhile isNameChar
  match parts? path.length (path.drop head.length) with
  | some parts =>
      if head.isEmpty then { name := String.ofList path }
      else { name := String.ofList head, parts }
  | none => { name := String.ofList path }

/-- The name of a variable in lower case. Of the letters that are not ASCII only the Kelvin sign
becomes one that is. -/
def lowerName (name : String) : String :=
  String.ofList (name.toList.map fun c => if c = '\u212A' then 'k' else c.toLower)

/-- Reads the name of a variable. -/
def key? (entry : String) : Option Key :=
  let name := lowerName entry
  if Text.isPrefixOf variablePrefix name then
    some (Key.ofPath (name.toList.drop variablePrefix.length))
  else none

/-- The bytes that an element of a list takes up. -/
def elementBytes : Nat := 96

/-- The most bytes that a list can take up. -/
def maxListBytes : Nat := 9223372036854775807

/-- Whether a list can be made so long that it has a part. A place before its start makes it longer
at its front, except in the oldest readers, which give up there as well. -/
def Part.fits : Part → Bool
  | .name _ => true
  | .index (.ofNat n) | .index (.negSucc n) => (n + 1) * elementBytes ≤ maxListBytes

def Key.fits (key : Key) : Bool := key.parts.all Part.fits

/-- Whether a path leads to a part of a setting, which no setting has. -/
def Key.isPart (key : Key) : Bool := names.contains key.name && !key.parts.isEmpty

/-- The variables that count, with their values. -/
def keys (environment : Environment) : List (Key × String) :=
  environment.filterMap fun (entry, value) => (key? entry).map fun key => (key, value)

/-- Reads the environment, with as much memory as there can be. -/
def read (environment : Environment) : Reading :=
  let keys := keys environment
  if keys.any fun (key, _) => !key.fits then .error (.panicked "capacity overflow")
  else if keys.any fun (key, _) => key.isPart then .ok none
  else .ok (some (keys.foldl (fun settings (key, value) => settings.set key.name value) {}))

/-- The settings that a reading gives a run, and whether the variables were void. -/
def load : Reading → Except Stop (Settings × Bool)
  | .ok (some settings) => .ok (settings, false)
  | .ok none => .ok ({}, true)
  | .error stop => .error stop

/-- A reading gives settings unless it ends the program. -/
theorem load_eq_error_iff {reading : Reading} {stop : Stop} :
    load reading = .error stop ↔ reading = .error stop := by
  rcases reading with failed | _ | settings <;> simp [load]

theorem mem_keys_iff {environment : Environment} {key : Key} {value : String} :
    (key, value) ∈ keys environment ↔
      ∃ entry, (entry, value) ∈ environment ∧ key? entry = some key := by
  constructor
  · intro hmem
    obtain ⟨⟨entry, value'⟩, hentry, hread⟩ := List.mem_filterMap.1 hmem
    obtain ⟨key', hkey, hpair⟩ := Option.map_eq_some_iff.1 hread
    cases hpair
    exact ⟨entry, hentry, hkey⟩
  · rintro ⟨entry, hentry, hkey⟩
    exact List.mem_filterMap.2 ⟨(entry, value), hentry, by simp only [hkey, Option.map_some]⟩

/-- Reading ends the program just if a name asks for an index that no list can have, whatever the
other variables are. -/
theorem read_eq_error_iff {environment : Environment} {stop : Stop} :
    read environment = .error stop ↔
      stop = .panicked "capacity overflow" ∧
        ∃ entry value key, (entry, value) ∈ environment ∧ key? entry = some key ∧
          key.fits = false := by
  have hkeys : (keys environment).any (fun (key, _) => !key.fits) = true ↔
      ∃ entry value key, (entry, value) ∈ environment ∧ key? entry = some key ∧
        key.fits = false := by
    rw [List.any_eq_true]
    constructor
    · rintro ⟨⟨key, value⟩, hmem, hfits⟩
      obtain ⟨entry, hentry, hkey⟩ := mem_keys_iff.1 hmem
      exact ⟨entry, value, key, hentry, hkey, by simpa using hfits⟩
    · rintro ⟨entry, value, key, hentry, hkey, hfits⟩
      have hmem := mem_keys_iff.2 ⟨entry, hentry, hkey⟩
      exact ⟨(key, value), hmem, by simp only [hfits, Bool.not_false]⟩
  rw [← hkeys, read]
  dsimp only
  cases hany : (keys environment).any fun (key, _) => !key.fits with
  | true =>
      simp only [if_true, and_true]
      exact ⟨fun h => (Except.error.inj h).symm, fun h => congrArg _ h.symm⟩
  | false =>
      -- without such a name there are settings, or none
      simp only [Bool.false_eq_true, if_false, and_false, iff_false]
      split <;> (intro h; cases h)

end Settings

end ClusterBundle
