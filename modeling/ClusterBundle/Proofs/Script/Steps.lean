import ClusterBundle.Proofs.Script.Run

/-!
Which step a request is tallied as.

What is collected by a request is tallied under a step that is made of the request alone, so a
record of it says what was asked for. Each script is looked through once for that.
-/

namespace ClusterBundle

/-- The step that a request is tallied as. Issuing a token is not a step. -/
def Cluster.Call.step? : Cluster.Call → Option Step
  | .get query => some (.ofQuery query)
  | .exec container command => some (.ofCommand container command)
  | .logs source => some (.ofLog source)
  | .fetch url .. => some (.ofFetch url)
  | .token .. => none

namespace Operation

/-- The request by which an operation collects something, with the step that it tallies. -/
def collected? : Operation → Option (Cluster.Call × Step)
  | .collect _ step _ call => some (call, step)
  | .save .. | .skip .. | .fail .. | .ask _ | .makeDirectory .. | .reset _ | .reread _ => none

/-- Whatever is collected by a request is tallied as the step of the request. -/
abbrev Tallies (ops : List Operation) : Prop :=
  Only collected? (fun collected => collected.1.step? = some collected.2) ops

end Operation

open Operation (Tallies)

variable {cluster : Cluster} {target : Target} {settings : Settings}

theorem Lifecycle.script_tallies (target : Target) : Tallies (script target) :=
  .having _ rfl rfl (.having _ rfl rfl (.flatMap fun _ _ => .having _ rfl rfl .nil))

namespace Install

theorem known_tallies (query : Option Cluster.Query) (output : String) :
    Tallies (known query output) := by
  cases query with
  | none => exact .nil
  | some query => exact .having _ rfl rfl .nil

theorem referencesNote_tallies : Tallies (referencesNote cluster target) :=
  only_referencesNote (fun _ => .without rfl .nil) fun _ => .without rfl .nil

theorem objectsScript_tallies : Tallies (objectsScript cluster target) := by
  refine .append (known_tallies _ _) (.append (known_tallies _ _) ?_)
  exact .having _ rfl rfl (.having _ rfl rfl (.having _ rfl rfl .nil))

theorem logsScript_tallies : Tallies (logsScript cluster target) := by
  unfold logsScript
  split
  · exact .without rfl .nil
  · split
    · exact .without rfl .nil
    · exact .flatMap fun _ _ => .having _ rfl rfl .nil

theorem script_tallies (cluster : Cluster) (target : Target) :
    Tallies (script cluster target) := by
  refine .having _ rfl rfl (.without rfl ?_)
  refine .append referencesNote_tallies (.append objectsScript_tallies (.without rfl ?_))
  refine .append logsScript_tallies (.without rfl ?_)
  exact .flatMap fun _ _ => .having _ rfl rfl .nil

end Install

namespace Instances

theorem namespaceReads_tallies : Tallies (namespaceReads cluster) := by
  refine .without rfl ?_
  split
  · exact .without rfl .nil
  · exact .nil

theorem namespaceNote_tallies : Tallies (namespaceNote cluster settings) := by
  unfold namespaceNote
  split
  · exact .nil
  · exact .without rfl .nil

theorem script_tallies (cluster : Cluster) (settings : Settings) (collected : Bool) :
    Tallies (script cluster settings collected) := by
  refine .having _ rfl rfl ?_
  cases collected with
  | false => exact .without rfl .nil
  | true => exact .having _ rfl rfl (.append namespaceReads_tallies namespaceNote_tallies)

end Instances

namespace Exporter

theorem objectsScript_tallies (ns : String) : Tallies (objectsScript ns) := by
  refine .having _ rfl rfl (.append ?_ (.having _ rfl rfl .nil))
  exact .flatMap fun _ _ => .having _ rfl rfl .nil

theorem podScript_tallies (ns : String) (set : PodDiagnostics) : Tallies (podScript ns set) := by
  refine .without rfl (.having _ rfl rfl (.append ?_ (.having _ rfl rfl .nil)))
  exact .map fun _ _ => ⟨_, rfl, rfl⟩

theorem script_tallies (cluster : Cluster) (ns : Option String) :
    Tallies (script cluster ns) := by
  cases ns with
  | none => exact .nil
  | some ns =>
      refine .append (objectsScript_tallies ns) (.without rfl ?_)
      unfold podsScript
      split
      · exact .without rfl .nil
      · exact .flatMap fun _ _ => podScript_tallies _ _

end Exporter

namespace Monitoring

theorem upTo_tallies (reads : List (Cluster.Call × Bool)) : Tallies (upTo reads) := by
  induction reads with
  | nil => exact .nil
  | cons read rest ih =>
      refine .without rfl ?_
      split
      · exact ih
      · exact .nil

theorem accessScript_tallies (cluster : Cluster) (settings : Settings) :
    Tallies (accessScript cluster settings) := by
  refine .append (upTo_tallies _) ?_
  split
  · exact .nil
  · exact .without rfl .nil

theorem rulesScript_tallies (bundle : Bundle) (tree : File.Tree) (access : Access) :
    Tallies (rulesScript bundle tree access) := by
  unfold rulesScript
  split
  · exact .without rfl .nil
  · split
    · exact .without rfl .nil
    · refine .without rfl ?_
      split
      · exact .without rfl .nil
      · exact .having _ rfl rfl .nil

theorem script_tallies (bundle : Bundle) (tree : File.Tree) (access : Access)
    (settings : Settings) : Tallies (script bundle tree access settings) := by
  refine .append (rulesScript_tallies bundle tree access) ?_
  exact .flatMap fun _ _ => .flatMap fun _ _ => .having _ rfl rfl .nil

end Monitoring

theorem Run.script_tallies (cluster : Cluster) (target : Target) (settings : Settings)
    (tree : File.Tree) : Tallies (script cluster target settings tree) := by
  refine .append (.append ?_ (.append ?_ ?_)) (.append ?_ ?_)
  · exact .append (Lifecycle.script_tallies target) (Install.script_tallies cluster target)
  · exact Instances.script_tallies cluster settings _
  · exact Exporter.script_tallies cluster _
  · exact Monitoring.accessScript_tallies cluster settings
  · unfold closing
    split
    · exact Monitoring.script_tallies _ _ _ _
    · exact .without rfl .nil

end ClusterBundle
