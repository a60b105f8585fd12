import ClusterBundle.Proofs.Run.Clearance

/-!
What the scripts put into the bundle, step by step.

A step puts something into the bundle in one of two ways, under a path that the script gives it.
From the root of the bundle the path is a list of names, and so each stage has a list of such
writings, in order. Where names are told by the cluster, they stand in the list as they are.
-/

namespace ClusterBundle

open Collect (Mode)
open ClusterBundle.Path (components IsName)

/-- Something that is put into a bundle: in which way, and by which names its file is reached. -/
structure Writing where
  mode : Mode
  place : List String
  deriving Repr, DecidableEq

/-- A file that gets what it holds all at once. -/
def Writing.whole (place : List String) : Writing := ⟨.replace, place⟩

namespace Operation

/-- What a step puts into the bundle if it is written. Making a directory and emptying a file that
is going to be added to are not steps. -/
def writing? : Operation → Option Writing
  | .collect mode _ output _ => some ⟨mode, components output⟩
  | .save _ output _ => some (.whole (components output))
  | _ => none

section

variable (query : Cluster.Query) (output : String) (container : Cluster.Container)

@[simp] theorem writing?_get :
    (Operation.get query output).writing? = some (.whole (components output)) := rfl

@[simp] theorem writing?_appendGet :
    (Operation.appendGet query output).writing? = some ⟨.append, components output⟩ := rfl

@[simp] theorem writing?_exec (command : List String) :
    (Operation.exec container command output).writing? = some (.whole (components output)) := rfl

@[simp] theorem writing?_logs (source : Cluster.LogSource) :
    (Operation.logs source output).writing? = some (.whole (components output)) := rfl

@[simp] theorem writing?_fetch (url token : String) (certificates : Bytes) :
    (Operation.fetch url token certificates output).writing? =
      some (.whole (components output)) := rfl

@[simp] theorem writing?_save (step : Step) (content : Bytes) :
    (Operation.save step output content).writing? = some (.whole (components output)) := rfl

@[simp] theorem writing?_ask (call : Cluster.Call) : (Operation.ask call).writing? = none := rfl

@[simp] theorem writing?_skip (step : Step) (reason : String) :
    (Operation.skip step reason).writing? = none := rfl

@[simp] theorem writing?_fail (step : Step) (reason : String) :
    (Operation.fail step reason).writing? = none := rfl

@[simp] theorem writing?_makeDirectory (pod path : String) :
    (Operation.makeDirectory pod path).writing? = none := rfl

@[simp] theorem writing?_reset (path : String) : (Operation.reset path).writing? = none := rfl

@[simp] theorem writing?_reread (path : String) : (Operation.reread path).writing? = none := rfl

end

/-- What several steps put into the bundle. -/
def writings (ops : List Operation) : List Writing := ops.filterMap writing?

@[simp] theorem writings_nil : writings [] = [] := rfl

@[simp] theorem writings_cons (op : Operation) (ops : List Operation) :
    writings (op :: ops) = op.writing?.toList ++ writings ops := by
  cases h : op.writing? <;> simp [writings, h]

@[simp] theorem writings_append (ops more : List Operation) :
    writings (ops ++ more) = writings ops ++ writings more := List.filterMap_append

theorem writings_flatMap {α : Type} {xs : List α} {f : α → List Operation} {g : α → List Writing}
    (h : ∀ x ∈ xs, writings (f x) = g x) : writings (xs.flatMap f) = xs.flatMap g := by
  induction xs with
  | nil => rfl
  | cons x xs ih =>
      obtain ⟨hx, hxs⟩ := List.forall_mem_cons.1 h
      rw [List.flatMap_cons, List.flatMap_cons, writings_append, hx, ih hxs]

/-- Rounds of one writing each. -/
theorem writings_rounds {α : Type} {xs : List α} {f : α → List Operation} {g : α → Writing}
    (h : ∀ x ∈ xs, writings (f x) = [g x]) : writings (xs.flatMap f) = xs.map g := by
  rw [writings_flatMap h, List.map_eq_flatMap]

end Operation

open Operation (writings)

/-! ### The writings of each stage -/

theorem Lifecycle.writings_script (target : Target) :
    writings (script target) = files.map fun name => .whole [directory, name] := rfl

namespace Install

variable {cluster : Cluster} {target : Target}

/-- The files of the objects, given whether the catalog and the plan are known. -/
def objectFiles (catalog plan : Bool) : List String :=
  "subscription.yaml" ::
    ((if catalog then ["catalogsource.yaml"] else []) ++
      ((if plan then ["installplan.yaml"] else []) ++ ["csv.yaml", "deployment.yaml", "pod.yaml"]))

/-- All of them have names of their own. -/
theorem objectFiles_sublist (catalog plan : Bool) :
    (objectFiles catalog plan).Sublist files := by
  cases catalog <;> cases plan <;> decide

variable (hoperator : Path.IsPiece target.operator)

include hoperator

theorem writings_known (query : Option Cluster.Query) {name : String} (hname : IsName name) :
    writings (known query (file target name)) =
      (if query.isSome then [name] else []).map
        fun name => .whole [target.installDirectory, name] := by
  cases query with
  | none => rfl
  | some query => simp [known, components_file hoperator hname]

theorem writings_logs
    (hdeployments : ∀ name ∈ listed cluster target, Path.IsPiece name) :
    writings (logsScript cluster target) =
      ((listed cluster target).map (logFile (listed cluster target))).map
        fun name => .whole [target.installDirectory, name] := by
  unfold logsScript
  unfold listed at hdeployments ⊢
  cases hnames : cluster.deploymentNames target.ns target.selector with
  | error failure => rfl
  | ok deployments =>
      rw [hnames] at hdeployments
      dsimp only [Except.toOption, Option.getD_some] at hdeployments ⊢
      cases hempty : deployments.isEmpty with
      | true =>
          rw [List.isEmpty_iff.1 hempty]
          rfl
      | false =>
          rw [if_neg (by simp), List.map_map]
          refine Operation.writings_rounds fun name hname => ?_
          have hplain := (@isName_logFile deployments name (hdeployments name hname)).1
          simp [components_file hoperator hplain]

/-- The summary is written to piece by piece. -/
theorem writings_summary :
    ∃ count, writings (summaryScript cluster target) =
      List.replicate count ⟨.append, [target.installDirectory, "summary.txt"]⟩ := by
  refine ⟨(summaryQueries target (foundReferences cluster target)).length, ?_⟩
  rw [summaryScript, Operation.writings_cons, ← List.map_const']
  refine Operation.writings_rounds fun query _ => ?_
  simp [components_file hoperator (by decide : IsName "summary.txt")]

/-- The second stage puts whole files into its directory and adds to the summary there. -/
theorem writings_script (hdeployments : ∀ name ∈ listed cluster target, Path.IsPiece name) :
    ∃ catalog plan count,
      writings (script cluster target) =
        (objectFiles catalog plan ++
            (listed cluster target).map (logFile (listed cluster target))).map
          (fun name => .whole [target.installDirectory, name]) ++
        List.replicate count ⟨.append, [target.installDirectory, "summary.txt"]⟩ := by
  obtain ⟨count, hsummary⟩ := @writings_summary cluster target hoperator
  refine ⟨(catalogQuery? target (foundReferences cluster target)).isSome,
    (planQuery? target (foundReferences cluster target)).isSome, count, ?_⟩
  have hnote : writings (referencesNote cluster target) = [] := by
    unfold referencesNote
    split
    · rfl
    · split <;> rfl
  have hfile := fun name (hname : IsName name) => @components_file target hoperator name hname
  simp only [script, objectsScript, Operation.writings_cons, Operation.writings_append, hnote,
    writings_known hoperator _ (by decide : IsName "catalogsource.yaml"),
    writings_known hoperator _ (by decide : IsName "installplan.yaml"),
    writings_logs hoperator hdeployments, hsummary]
  simp [objectFiles, hfile _ (by decide : IsName "subscription.yaml"),
    hfile _ (by decide : IsName "csv.yaml"), hfile _ (by decide : IsName "deployment.yaml"),
    hfile _ (by decide : IsName "pod.yaml")]

end Install

theorem Instances.writings_script (cluster : Cluster) (settings : Settings) (collected : Bool) :
    writings (script cluster settings collected) =
      (if collected then files else ["kepler-internals.yaml"]).map fun name => .whole [name] := by
  have hreads : writings (namespaceReads cluster) = [] := by
    unfold namespaceReads
    split <;> rfl
  have hnote : writings (namespaceNote cluster settings) = [] := by
    unfold namespaceNote
    split <;> rfl
  cases collected with
  | false => rfl
  | true =>
      simp only [script, internals, resources, if_true, Operation.writings_cons,
        Operation.writings_append, hreads, hnote]
      rfl

namespace Exporter

theorem writings_objects (ns : String) :
    writings (objectsScript ns) =
      .whole (components (eventsFile ns)) :: files.map fun name => .whole [name] := rfl

theorem writings_pod (ns : String) {pod : String} (hpod : IsName pod) :
    writings (podScript ns (diagnostics pod)) =
      podFiles.map fun name => .whole [directory, pod, name] := by
  have hfile : ∀ name, IsName name →
      components (Path.join (Path.join directory pod) name) = [directory, pod, name] := by
    intro name hname
    rw [Path.components_join _ _ (Path.not_isAbsolute_of_isPiece hname.1),
      Path.components_join_names (by decide) hpod, hname.components_eq]
    rfl
  simp [podScript, diagnostics, commands, podFiles, hfile _ (by decide : IsName "kepler-pod.yaml"),
    hfile _ (by decide : IsName "node-cpuid-info"), hfile _ (by decide : IsName "env-variables"),
    hfile _ (by decide : IsName "kernel-info"), hfile _ (by decide : IsName "ebpf-info"),
    hfile _ (by decide : IsName "kepler.log")]

theorem writings_script (cluster : Cluster) (ns : String)
    (hpods : ∀ pod ∈ listed cluster ns, IsName pod) :
    writings (script cluster (some ns)) =
      .whole (components (eventsFile ns)) :: (files.map fun name => .whole [name]) ++
        (listed cluster ns).flatMap fun pod =>
          podFiles.map fun name => .whole [directory, pod, name] := by
  have hscript : writings (podsScript cluster ns) =
      (listed cluster ns).flatMap fun pod =>
        podFiles.map fun name => .whole [directory, pod, name] := by
    unfold podsScript
    unfold listed at hpods ⊢
    cases hnames : cluster.podNames ns selector with
    | error failure => rfl
    | ok pods =>
        rw [hnames] at hpods
        exact Operation.writings_flatMap fun pod hpod => writings_pod ns (hpods pod hpod)
  simp only [script, Operation.writings_append, Operation.writings_cons, writings_objects, hscript]
  rfl

end Exporter

namespace Monitoring

theorem writings_upTo (calls : List (Cluster.Call × Bool)) : writings (upTo calls) = [] := by
  induction calls with
  | nil => rfl
  | cons entry rest ih =>
      rw [upTo, Operation.writings_cons]
      split
      · exact ih
      · rfl

/-- The certificates are put into the bundle once, if at all. -/
theorem writings_accessScript (cluster : Cluster) (settings : Settings) :
    (writings (accessScript cluster settings)).Sublist
      [.whole [directory, certificatesName]] := by
  unfold accessScript reads
  rw [Operation.writings_append, writings_upTo]
  split
  · exact List.nil_sublist _
  · exact List.Sublist.refl _

theorem writings_rulesScript (bundle : Bundle) (tree : File.Tree) (access : Access) :
    (writings (rulesScript bundle tree access)).Sublist [.whole [directory, "rules.json"]] := by
  unfold rulesScript
  split
  · exact List.nil_sublist _
  · split
    · exact List.nil_sublist _
    · rw [Operation.writings_cons]
      split
      · exact List.nil_sublist _
      · exact List.Sublist.refl _

theorem writings_pod (settings : Settings) {pod : String} (hpod : IsName pod) :
    writings (podScript settings pod) =
      snapshots.map fun (_, file) => .whole (directory :: pod :: components file) := by
  have hfile : ∀ file, Path.isAbsolute file = false →
      components (Path.join (Path.join directory pod) file) =
        directory :: pod :: components file := by
    intro file hfile
    rw [Path.components_join _ _ hfile, Path.components_join_names (by decide) hpod]
    rfl
  refine Operation.writings_rounds fun entry hentry => ?_
  have hrelative : ∀ entry ∈ snapshots, Path.isAbsolute entry.2 = false := by decide
  simp [hfile _ (hrelative entry hentry)]

end Monitoring

end ClusterBundle
