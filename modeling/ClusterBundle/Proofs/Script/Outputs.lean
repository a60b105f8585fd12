import ClusterBundle.Proofs.Bundle.Room
import ClusterBundle.Proofs.Script.Footprint
import ClusterBundle.Proofs.Script.Run

/-!
The outputs of the scripts.

Every operation that changes the bundle does so at the path of its output. The outputs of each
script are listed here as far as they are known, and as functions of the names that they are made
of where they are not. From a list it can be seen which files a script leaves alone. A file that is
left alone in a bundle that was empty gets into it just if there is something to put into it and
its paths can be used.
-/

namespace ClusterBundle

open File (walk)
open ClusterBundle.Path (components)

namespace Operation

/-- The path at which an operation puts something into the bundle. -/
def output? : Operation → Option String
  | .collect _ _ output _ | .save _ output _ | .reset output => some output
  | .makeDirectory _ path => some path
  | .skip .. | .fail .. | .ask _ | .reread _ => none

/-- Every output of some operations is as it may be. -/
abbrev Puts (may : String → Prop) (ops : List Operation) : Prop := Only output? may ops

/-- The way in which an operation puts something into the bundle, and the path at which it does. -/
def put? : Operation → Option (Collect.Mode × String)
  | .collect mode _ output _ => some (mode, output)
  | .save _ output _ | .reset output | .makeDirectory _ output => some (.replace, output)
  | .skip .. | .fail .. | .ask _ | .reread _ => none

/-- Every operation that puts something into the bundle replaces what is there, and every output is
as it may be. -/
abbrev Fills (may : String → Prop) (ops : List Operation) : Prop :=
  Only put? (fun put => put.1 = .replace ∧ may put.2) ops

/-- Every output is that of something that is put into the bundle. -/
theorem output?_of_put? {op : Operation} {may : String → Prop}
    (h : ∀ put, op.put? = some put → put.1 = .replace ∧ may put.2) (path : String)
    (hpath : op.output? = some path) : may path := by
  cases op with
  | collect | save | reset | makeDirectory =>
      cases hpath
      exact (h _ rfl).2
  | skip | fail | ask | reread => cases hpath

theorem Fills.puts {may : String → Prop} {ops : List Operation} (h : Fills may ops) :
    Puts may ops :=
  fun op hop => output?_of_put? (h op hop)

/-! ### Leaving a file alone -/

variable {op : Operation} {ops : List Operation} {names around : List String}
  {name last : String} {site : Site} {p : Progress} {root : File.Place}

theorem files_output (h : op.files names) :
    ∃ path, op.output? = some path ∧ Bundle.filesOf path names := by
  cases op with
  | collect | save | reset => exact ⟨_, rfl, h⟩
  | makeDirectory | skip | fail | ask | reread => exact h.elim

theorem directories_output (h : op.directories names) :
    ∃ path, op.output? = some path ∧ Bundle.accepts path = true ∧ names <+: components path := by
  cases op with
  | collect | save | reset =>
      exact ⟨_, rfl, h.1, h.2.trans (List.dropLast_prefix _)⟩
  | makeDirectory => exact ⟨_, rfl, h⟩
  | skip | fail | ask | reread => exact h.elim

section

variable (hroot : walk p.tree [] (components site.bundle.root) = .ok root)
  (hempty : ∀ names, names ≠ [] → p.tree.find? (root ++ names) = none)
  (hspares : Puts (Bundle.Spares around name) ops)

include hroot hempty hspares

/-- Neither the file nor its staging file is there. -/
theorem find?_of_spares (hlast : last = name ∨ last = Bundle.stagingName name) :
    (performAll site p ops).tree.find? (root ++ around ++ [last]) = none := by
  have hplace : ∀ {names}, root ++ around ++ [last] = root ++ names → names = around ++ [last] :=
    fun h => (List.append_cancel_left ((List.append_assoc ..).symm.trans h)).symm
  -- the place is in none of the footprints, so it looks as in the beginning
  rw [(change_performAll hroot ops).same, List.append_assoc]
  · exact hempty _ (by simp)
  · rintro ⟨names, ⟨op, hop, hfile⟩, heq⟩
    obtain ⟨path, hpath, hfile⟩ := files_output hfile
    obtain rfl := hplace heq
    exact (hspares op hop path hpath).clear hfile hlast (List.prefix_refl _)
  · rintro ⟨names, ⟨op, hop, hdirectory⟩, heq⟩
    obtain ⟨path, hpath, haccepts, hprefix⟩ := directories_output hdirectory
    obtain rfl := hplace heq
    exact (hspares op hop path hpath).clear (Bundle.filesOf_components haccepts) hlast hprefix

/-- The directory around the file is there or can be made. -/
theorem ready_of_spares (haround : around = [] ∨ ∃ directory, around = [directory] ∧
      File.LeadsDown directory ∧ File.isTooLong directory = false) :
    Bundle.Ready (performAll site p ops).tree (components site.bundle.root) root around := by
  have hchange := change_performAll hroot ops
  rcases haround with rfl | ⟨directory, rfl, hname, hshort⟩
  · exact .inl (by simpa using hchange.walk hroot)
  have hfree : ¬ File.Access.placesBy root (fun names => ∃ op ∈ ops, op.files names)
      (root ++ [directory]) := by
    rintro ⟨names, ⟨op, hop, hfile⟩, heq⟩
    obtain ⟨path, hpath, hfile⟩ := files_output hfile
    exact (hspares op hop path hpath names hfile).1 (List.append_cancel_left heq).symm
  -- no file was put there, so either nothing is there or a directory was made
  rcases hchange.off _ hfree with hsame | ⟨-, -, hmade⟩
  · refine .inr ⟨[], directory, rfl, by simpa using hchange.walk hroot, hshort, ?_⟩
    rw [hsame]
    exact hempty _ (by simp)
  · exact .inl (File.walk_child (hchange.walk hroot) hname hshort hmade)

/-- A file that was left alone in a bundle that was empty can be written if its paths can be
used. -/
theorem write_of_spares {path : String} (haccepts : Bundle.accepts path = true)
    (hpath : components path = around ++ [name]) (hplain : Path.EndsPlain path)
    (haround : around = [] ∨ ∃ directory, around = [directory] ∧ File.LeadsDown directory ∧
      File.isTooLong directory = false) (content : Bytes) :
    (site.bundle.write (performAll site p ops).tree path content).1.toBool = true ↔
      site.bundle.HasRoom path :=
  Bundle.write_toBool haccepts hpath hplain
    (ready_of_spares hroot hempty hspares haround)
    (find?_of_spares hroot hempty hspares (.inl rfl))
    (find?_of_spares hroot hempty hspares (.inr rfl)) content

end

/-! ### Steps that come out as written -/

/-- A step comes out as written if there is something to write and it can be written. -/
theorem finish_written {mode : Collect.Mode} {step : Step} {output : String}
    {answer : Except Cluster.Failure Bytes} :
    ((Collect.finish mode step output answer).on site p).1 = .written ↔
      ∃ content, answer = .ok content ∧
        (mode.put output content site.bundle p.tree).1.toBool = true := by
  cases answer with
  | error failure =>
      cases habsent : failure.isNotFound with
      | true => simp [Collect.on_finish_absent _ _ _ habsent]
      | false => simp [Collect.on_finish_failed _ _ _ habsent]
  | ok content =>
      rcases hput : mode.put output content site.bundle p.tree with ⟨_ | path, tree⟩
      · rw [Collect.on_finish_refused step hput]
        simp [hput, Except.toBool]
      · rw [Collect.on_finish_written step hput]
        simp [hput, Except.toBool]

theorem collect_written {step : Step} {output : String} {call : Cluster.Call} :
    (Operation.collect .replace step output call).outcome? site p = some .written ↔
      ∃ content, site.cluster.answer call = .ok content ∧
        (site.bundle.write p.tree output content).1.toBool = true :=
  Option.some_inj.trans finish_written

theorem save_written {step : Step} {output : String} {content : Bytes} :
    (Operation.save step output content).outcome? site p = some .written ↔
      (site.bundle.write p.tree output content).1.toBool = true := by
  show some ((Collect.finish .replace step output (.ok content)).on site p).1 = _ ↔ _
  rw [Option.some_inj, finish_written]
  refine ⟨?_, fun hput => ⟨content, rfl, hput⟩⟩
  rintro ⟨same, hsame, hput⟩
  cases hsame
  exact hput

/-- What was saved can be read again. -/
theorem read_of_saved {step : Step} {output path : String} {content : Bytes}
    (h : (Operation.save step output content).outcome? site p = some .written)
    (hpath : site.bundle.resolve output = .ok path) :
    File.read ((Operation.save step output content).perform site p).tree path = .ok content := by
  have htree : ((Operation.save step output content).perform site p).tree =
      (site.bundle.write p.tree output content).2 :=
    Collect.finish_tree site p .replace step output content
  have hput := save_written.1 h
  rcases hwrite : site.bundle.write p.tree output content with ⟨_ | full, grown⟩
  · simp [hwrite, Except.toBool] at hput
  · obtain ⟨hfull, hread⟩ := Bundle.read_of_write hwrite
    obtain rfl := Except.ok.inj (hfull.symm.trans hpath)
    rw [htree, hwrite]
    exact hread

end Operation

open Operation (Puts Fills)

/-! ### The scripts

All of them replace the files that they put something into. The summary is the one that is added
to. -/

/-- The files of the first stage, all in its directory. -/
def Lifecycle.files : List String :=
  ["packagemanifest.yaml", "olm-pods.yaml", "olm-operator.log", "catalog-operator.log"]

theorem Lifecycle.script_fills (target : Target) :
    Fills (fun path => ∃ name ∈ files, path = Path.join directory name) (script target) := by
  refine .having _ rfl ⟨rfl, "packagemanifest.yaml", by decide, rfl⟩ ?_
  refine .having _ rfl ⟨rfl, "olm-pods.yaml", by decide, rfl⟩ (.flatMap fun pair hpair => ?_)
  exact .having _ rfl
    ⟨rfl, pair.2, (by decide : ∀ pair ∈ controllers, pair.2 ∈ files) pair hpair, rfl⟩ .nil

namespace Install

/-- The deployments that a cluster lists. -/
def listed (cluster : Cluster) (target : Target) : List String :=
  (cluster.deploymentNames target.ns target.selector).toOption.getD []

/-- The files of the second stage with a name of their own. -/
def files : List String :=
  ["subscription.yaml", "catalogsource.yaml", "installplan.yaml", "csv.yaml", "deployment.yaml",
    "pod.yaml", "summary.txt"]

/-- What the second stage puts into the bundle, given the names of the deployments. -/
def Output (target : Target) (deployments : List String) (path : String) : Prop :=
  ∃ name, path = file target name ∧
    (name ∈ files ∨ ∃ deployment ∈ deployments, name = logFile deployments deployment)

/-- What the second stage does before it turns to the summary. -/
def collectionScript (cluster : Cluster) (target : Target) : List Operation :=
  .get (labeled target "subscription") (file target "subscription.yaml") ::
    .ask (subscriptionCall target) ::
      (referencesNote cluster target ++
        (objectsScript cluster target ++
          (.ask (Cluster.listing "deployment" target.ns target.selector) ::
            logsScript cluster target)))

theorem script_eq (cluster : Cluster) (target : Target) :
    script cluster target = collectionScript cluster target ++ summaryScript cluster target := by
  simp [script, collectionScript]

variable {cluster : Cluster} {target : Target} {deployments : List String}

theorem known_fills (query : Option Cluster.Query) {name : String} (hname : name ∈ files) :
    Fills (Output target deployments) (known query (file target name)) := by
  cases query with
  | none => exact .nil
  | some query => exact .having _ rfl ⟨rfl, name, rfl, .inl hname⟩ .nil

theorem referencesNote_fills :
    Fills (Output target deployments) (referencesNote cluster target) :=
  only_referencesNote (fun _ => .without rfl .nil) fun _ => .without rfl .nil

theorem objectsScript_fills :
    Fills (Output target deployments) (objectsScript cluster target) := by
  refine .append (known_fills _ (by decide)) (.append (known_fills _ (by decide)) ?_)
  refine .having _ rfl ⟨rfl, "csv.yaml", rfl, .inl (by decide)⟩ ?_
  refine .having _ rfl ⟨rfl, "deployment.yaml", rfl, .inl (by decide)⟩ ?_
  exact .having _ rfl ⟨rfl, "pod.yaml", rfl, .inl (by decide)⟩ .nil

theorem logsScript_fills :
    Fills (Output target (listed cluster target)) (logsScript cluster target) := by
  unfold logsScript listed
  cases cluster.deploymentNames target.ns target.selector with
  | error failure => exact .without rfl .nil
  | ok deployments =>
      dsimp only
      split
      · exact .without rfl .nil
      · exact .flatMap fun name hname =>
          .having _ rfl ⟨rfl, _, rfl, .inr ⟨name, hname, rfl⟩⟩ .nil

theorem collectionScript_fills :
    Fills (Output target (listed cluster target)) (collectionScript cluster target) := by
  refine .having _ rfl ⟨rfl, "subscription.yaml", rfl, .inl (by decide)⟩ (.without rfl ?_)
  refine .append referencesNote_fills (.append objectsScript_fills (.without rfl ?_))
  exact logsScript_fills

theorem summaryScript_puts :
    Puts (Output target deployments) (summaryScript cluster target) := by
  have hsummary : Output target deployments (file target "summary.txt") :=
    ⟨_, rfl, .inl (by decide)⟩
  exact .having _ rfl hsummary (.flatMap fun _ _ => .having _ rfl hsummary .nil)

theorem script_puts : Puts (Output target (listed cluster target)) (script cluster target) := by
  rw [script_eq]
  exact collectionScript_fills.puts.append summaryScript_puts

end Install

/-- The files of the third stage. -/
def Instances.files : List String := ["kepler-internals.yaml", "keplers.yaml"]

theorem Instances.script_fills (cluster : Cluster) (settings : Settings) (collected : Bool) :
    Fills (· ∈ files) (script cluster settings collected) := by
  refine .having (_, "kepler-internals.yaml") rfl ⟨rfl, by decide⟩ ?_
  cases collected with
  | false => exact .without rfl .nil
  | true =>
      refine .having (_, "keplers.yaml") rfl ⟨rfl, by decide⟩ (.append (.without rfl ?_) ?_)
      · split
        · exact .without rfl .nil
        · exact .nil
      · unfold namespaceNote
        split
        · exact .nil
        · exact .without rfl .nil

namespace Exporter

/-- The pods of the exporter that a cluster lists. -/
def listed (cluster : Cluster) (ns : String) : List String :=
  (cluster.podNames ns selector).toOption.getD []

/-- The files of the fourth stage with a name of their own. -/
def files : List String := ["kepler-ds.yaml", "kepler-cm.yaml", "kepler-sa.yaml", "kepler-scc.yaml"]

/-- The files of each pod, in the directory of the pod. -/
def podFiles : List String :=
  ["kepler-pod.yaml", "node-cpuid-info", "env-variables", "kernel-info", "ebpf-info", "kepler.log"]

/-- What the fourth stage puts into the bundle, given the names of the pods. -/
def Output (ns : String) (pods : List String) (path : String) : Prop :=
  path = eventsFile ns ∨ path ∈ files ∨
    ∃ pod ∈ pods, path = Path.join directory pod ∨
      ∃ name ∈ podFiles, path = Path.join (Path.join directory pod) name

theorem podScript_fills (ns : String) {pods : List String} {pod : String} (hpod : pod ∈ pods) :
    Fills (Output ns pods) (podScript ns (diagnostics pod)) := by
  have hfile : ∀ name ∈ podFiles, Output ns pods (Path.join (Path.join directory pod) name) :=
    fun name hname => .inr (.inr ⟨pod, hpod, .inr ⟨name, hname, rfl⟩⟩)
  refine .having _ rfl ⟨rfl, .inr (.inr ⟨pod, hpod, .inl rfl⟩)⟩ ?_
  refine .having _ rfl ⟨rfl, hfile "kepler-pod.yaml" (by decide)⟩ (.append ?_ ?_)
  · have hcommands : ∀ pair ∈ commands, pair.2 ∈ podFiles := by decide
    exact .map fun pair hpair => ⟨_, rfl, rfl, hfile _ (hcommands pair hpair)⟩
  · exact .having _ rfl ⟨rfl, hfile "kepler.log" (by decide)⟩ .nil

theorem script_fills (cluster : Cluster) (ns : String) :
    Fills (Output ns (listed cluster ns)) (script cluster (some ns)) := by
  refine .append (.having _ rfl ⟨rfl, .inl rfl⟩ (.append (.flatMap fun entry hentry => ?_) ?_))
    (.without rfl ?_)
  · refine .having _ rfl ⟨rfl, .inr (.inl ?_)⟩ .nil
    exact (by decide : ∀ entry ∈ objects, entry.2.2 ∈ files) entry hentry
  · exact .having _ rfl ⟨rfl, .inr (.inl (by decide))⟩ .nil
  · unfold podsScript listed
    cases cluster.podNames ns selector with
    | error failure => exact .without rfl .nil
    | ok pods => exact .flatMap fun pod hpod => podScript_fills ns hpod

end Exporter

namespace Monitoring

/-- The monitoring pods that a cluster lists. -/
def listed (cluster : Cluster) (settings : Settings) : List String :=
  (foundPods cluster settings).toOption.getD []

/-- What the last stage puts into the bundle, given the names of the pods. -/
def Output (pods : List String) (path : String) : Prop :=
  path = certificatesFile ∨ path = rulesFile ∨
    ∃ pod ∈ pods, ∃ snapshot ∈ snapshots, path = Path.join (Path.join directory pod) snapshot.2

variable {pods : List String}

theorem upTo_fills (may : String → Prop) (calls : List (Cluster.Call × Bool)) :
    Fills may (upTo calls) := by
  induction calls with
  | nil => exact .nil
  | cons entry rest ih =>
      refine .without rfl ?_
      split
      · exact ih
      · exact .nil

theorem accessScript_fills (cluster : Cluster) (settings : Settings) :
    Fills (Output pods) (accessScript cluster settings) := by
  refine .append (upTo_fills _ _) ?_
  split
  · exact .nil
  · exact .having _ rfl ⟨rfl, .inl rfl⟩ .nil

theorem rulesScript_fills (bundle : Bundle) (tree : File.Tree) (access : Access) :
    Fills (Output pods) (rulesScript bundle tree access) := by
  unfold rulesScript
  split
  · exact .without rfl .nil
  · split
    · exact .without rfl .nil
    · refine .without rfl ?_
      split
      · exact .without rfl .nil
      · exact .having _ rfl ⟨rfl, .inr (.inl rfl)⟩ .nil

theorem script_fills (bundle : Bundle) (tree : File.Tree) (access : Access)
    (settings : Settings) :
    Fills (Output access.pods) (script bundle tree access settings) := by
  refine .append (rulesScript_fills bundle tree access) (.flatMap fun pod hpod => ?_)
  exact .flatMap fun snapshot hsnapshot =>
    .having _ rfl ⟨rfl, .inr (.inr ⟨pod, hpod, snapshot, hsnapshot, rfl⟩)⟩ .nil

end Monitoring

end ClusterBundle
