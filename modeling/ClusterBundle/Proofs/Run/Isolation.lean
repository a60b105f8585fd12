import ClusterBundle.Proofs.Cluster.Listing
import ClusterBundle.Proofs.Run.Clearance

/-!
What a run goes by.

Most of what a cluster answers is only put into the bundle. A run acts on the answers to a few
requests, by which it discovers what there is. What all other requests come to, whether they fail
and how, decides neither what it asks next nor which stages it goes through: two clusters that
answer those few in the same way let it do the same operations. The bundle does not make a
difference either, since the two files in it that decide something can be written into both bundles
or into neither.
-/

namespace ClusterBundle

open ClusterBundle.Path (components)

namespace Run

/-- The requests by which a run discovers what there is, but for the list of the exporter's pods,
which is asked for in a namespace that has to be discovered first. -/
def discoveryCalls (target : Target) (settings : Settings) : List Cluster.Call :=
  [Install.subscriptionCall target, Cluster.listing "deployment" target.ns target.selector,
    Instances.existenceCall, Instances.documentCall, Monitoring.routeCall settings,
    Monitoring.tokenCall settings, Monitoring.podsCall settings,
    Monitoring.certificatesCall settings]

end Run

namespace Cluster

/-- Two clusters give the same answers to all that a run discovers something by, and either both
have internal resources to be collected or neither has. They may answer everything else in
different ways. -/
structure AgreesWith (cluster other : Cluster) (target : Target) (settings : Settings) : Prop where
  discovery : ∀ call ∈ Run.discoveryCalls target settings,
    cluster.answer call = other.answer call
  pods : ∀ ns, Instances.foundNamespace cluster settings = .ok (some ns) →
    cluster.answer (listing "pod" ns Exporter.selector) =
      other.answer (listing "pod" ns Exporter.selector)
  internals : (cluster.answer (.get (Query.all Instances.internalKind))).toBool =
    (other.answer (.get (Query.all Instances.internalKind))).toBool

variable {cluster other : Cluster} {target : Target} {settings : Settings}

namespace AgreesWith

variable (h : cluster.AgreesWith other target settings)

include h

/-! ### The scripts -/

theorem deploymentNames_eq :
    cluster.deploymentNames target.ns target.selector =
      other.deploymentNames target.ns target.selector :=
  names_eq _ (h.discovery _ (by simp [Run.discoveryCalls]))

theorem installScript_eq : Install.script cluster target = Install.script other target := by
  have hsubscription : cluster.document (Install.labeled target "subscription") =
      other.document (Install.labeled target "subscription") :=
    document_eq (h.discovery (Install.subscriptionCall target) (by simp [Run.discoveryCalls]))
  have hreferences : Install.foundReferences cluster target =
      Install.foundReferences other target := by
    unfold Install.foundReferences
    rw [hsubscription]
  unfold Install.script Install.referencesNote Install.objectsScript Install.logsScript
    Install.summaryScript
  rw [hsubscription, hreferences, h.deploymentNames_eq]

theorem opening_eq : Run.opening cluster target = Run.opening other target := by
  unfold Run.opening
  rw [h.installScript_eq]

theorem exists?_eq : Instances.exists? cluster = Instances.exists? other := by
  unfold Instances.exists?
  rw [h.discovery Instances.existenceCall (by simp [Run.discoveryCalls])]

theorem foundNamespace_eq :
    Instances.foundNamespace cluster settings = Instances.foundNamespace other settings := by
  have hresource :
      cluster.document (Query.named Instances.internalKind Instances.internalName) =
        other.document (Query.named Instances.internalKind Instances.internalName) :=
    document_eq (h.discovery Instances.documentCall (by simp [Run.discoveryCalls]))
  unfold Instances.foundNamespace
  rw [h.exists?_eq, hresource]

theorem instancesScript_eq (collected : Bool) :
    Instances.script cluster settings collected = Instances.script other settings collected := by
  unfold Instances.script Instances.namespaceReads Instances.namespaceNote
  rw [h.exists?_eq, h.foundNamespace_eq]

theorem exporterScript_eq {ns : String}
    (hns : Instances.foundNamespace cluster settings = .ok (some ns)) :
    Exporter.script cluster (some ns) = Exporter.script other (some ns) := by
  have hpods : cluster.podNames ns Exporter.selector = other.podNames ns Exporter.selector :=
    names_eq _ (h.pods ns hns)
  unfold Exporter.script Exporter.podsScript
  dsimp only
  rw [hpods]

theorem found_eq :
    Monitoring.found cluster settings = Monitoring.found other settings ∧
      Monitoring.reads cluster settings = Monitoring.reads other settings := by
  have hhost : Monitoring.foundHost cluster settings = Monitoring.foundHost other settings := by
    unfold Monitoring.foundHost
    rw [document_eq (h.discovery (Monitoring.routeCall settings) (by simp [Run.discoveryCalls]))]
  have htoken : Monitoring.foundToken cluster settings = Monitoring.foundToken other settings := by
    unfold Monitoring.foundToken
    rw [h.discovery (Monitoring.tokenCall settings) (by simp [Run.discoveryCalls])]
  have hpods : Monitoring.foundPods cluster settings = Monitoring.foundPods other settings :=
    names_eq _ (h.discovery (Monitoring.podsCall settings) (by simp [Run.discoveryCalls]))
  have hcertificates : Monitoring.foundCertificates cluster settings =
      Monitoring.foundCertificates other settings := by
    unfold Monitoring.foundCertificates
    rw [document_eq (h.discovery (Monitoring.certificatesCall settings)
      (by simp [Run.discoveryCalls]))]
  unfold Monitoring.found Monitoring.reads
  rw [hhost, htoken, hpods, hcertificates]
  exact ⟨rfl, rfl⟩

theorem accessScript_eq :
    Monitoring.accessScript cluster settings = Monitoring.accessScript other settings := by
  unfold Monitoring.accessScript
  rw [h.found_eq.1, h.found_eq.2]

/-- The names that are found are the same, so they have no slash in them either. -/
theorem hasPlainNames (hnames : Run.HasPlainNames cluster target settings) :
    Run.HasPlainNames other target settings where
  operator := hnames.operator
  deployments := h.deploymentNames_eq ▸ hnames.deployments
  workload := h.foundNamespace_eq ▸ hnames.workload

end AgreesWith

end Cluster

/-! ### The run -/

/-- Fetching the rules depends on the bundle only by what the certificates in it are read as. -/
theorem Monitoring.script_congr {bundle : Bundle} {tree grown : File.Tree} {reached : Access}
    (h : ∀ path, bundle.resolve reached.certificatesPath = .ok path →
      File.read tree path = File.read grown path) (settings : Settings) :
    script bundle tree reached settings = script bundle grown reached settings := by
  unfold script rulesScript
  cases hresolve : bundle.resolve reached.certificatesPath with
  | error fault => rfl
  | ok path =>
      dsimp only
      rw [h path hresolve]

namespace Run

variable {cluster other : Cluster} {target : Target} {settings : Settings} {tree : File.Tree}
  {root : File.Place}

section

variable (hagree : cluster.AgreesWith other target settings)
  (hnames : HasPlainNames cluster target settings)
  (hroot : File.walk tree [] (components target.destination) = .ok root)
  (hempty : ∀ names, names ≠ [] → tree.find? (root ++ names) = none)

include hagree hnames hroot hempty

theorem internalsCollected_eq :
    internalsCollected cluster target tree = internalsCollected other target tree := by
  rw [Bool.eq_iff_iff, internalsCollected_iff hnames hroot hempty,
    internalsCollected_iff (hagree.hasPlainNames hnames) hroot hempty, hagree.internals]

theorem workloadNamespace_eq :
    workloadNamespace cluster target settings tree =
      workloadNamespace other target settings tree := by
  unfold workloadNamespace Instances.namespace?
  rw [internalsCollected_eq hagree hnames hroot hempty, hagree.foundNamespace_eq]

theorem preparation_eq :
    preparation cluster target settings tree = preparation other target settings tree := by
  have hexporter : Exporter.script cluster (workloadNamespace cluster target settings tree) =
      Exporter.script other (workloadNamespace cluster target settings tree) := by
    cases hworkload : workloadNamespace cluster target settings tree with
    | none => rfl
    | some ns => exact hagree.exporterScript_eq (foundNamespace_of_workload hworkload)
  unfold preparation
  rw [hexporter, hagree.opening_eq, hagree.instancesScript_eq,
    internalsCollected_eq hagree hnames hroot hempty,
    workloadNamespace_eq hagree hnames hroot hempty]

theorem access_eq :
    access cluster target settings tree = access other target settings tree := by
  unfold access Monitoring.access
  rw [hagree.found_eq.1]
  cases Monitoring.found other settings with
  | error fault => rfl
  | ok found =>
      have hsaved := (certificatesSaved_iff hnames hroot hempty found.2).trans
        (certificatesSaved_iff (hagree.hasPlainNames hnames) hroot hempty found.2).symm
      simp only [hsaved]

theorem closing_eq :
    closing cluster target settings tree = closing other target settings tree := by
  have haccess := access_eq hagree hnames hroot hempty
  unfold closing
  cases hreached : access cluster target settings tree with
  | error fault => rw [← haccess, hreached]
  | ok reached =>
      rw [← haccess, hreached]
      obtain ⟨certificates, hfound, hread⟩ := read_certificates hreached
      -- both bundles hold the certificates that were found, and these are the same
      obtain ⟨same, hother, hagain⟩ := read_certificates (haccess ▸ hreached)
      rw [hagree.found_eq.1, hother] at hfound
      cases hfound
      exact Monitoring.script_congr (fun path hpath => by rw [hread path hpath, hagain path hpath])
        settings

/-- Two clusters that agree on what a run discovers let it do the same operations. -/
theorem script_eq : script cluster target settings tree = script other target settings tree := by
  unfold script
  rw [preparation_eq hagree hnames hroot hempty, hagree.accessScript_eq,
    closing_eq hagree hnames hroot hempty]

theorem findings_eq :
    findings cluster target settings tree = findings other target settings tree := by
  unfold findings
  rw [access_eq hagree hnames hroot hempty, workloadNamespace_eq hagree hnames hroot hempty]

end

/-- Whatever goes wrong with one request is of no consequence to another. If two clusters agree on
what a run discovers, then they are asked the same things in the same order, the run goes through
the same phases, finds the same namespace of the workload, reaches monitoring for both or for
neither, and tallies the same number of steps. The bundle has to be empty in the beginning. -/
theorem run_isolates_failures (cluster other : Cluster) (target : Target) (settings : Settings)
    (tree : File.Tree) (root : File.Place) (hagree : cluster.AgreesWith other target settings)
    (hnames : HasPlainNames cluster target settings)
    (hroot : File.stat tree target.destination = .ok (root, .directory))
    (hempty : ∀ place, File.Below root place → tree.find? place = none) :
    (run cluster target settings tree).1 = (run other target settings tree).1 ∧
      (run cluster target settings tree).2.calls = (run other target settings tree).2.calls ∧
      (run cluster target settings tree).2.tally.total =
        (run other target settings tree).2.tally.total := by
  have hwalk := File.walk_of_stat hroot
  have hbare : ∀ names, names ≠ [] → tree.find? (root ++ names) = none :=
    fun names hnames => hempty _ ⟨names, hnames, rfl⟩
  -- requests and steps can be counted in the scripts, which are the same
  have hscript := script_eq hagree hnames hwalk hbare
  obtain ⟨hfindings, hsilent⟩ := run_eq cluster target settings tree
  obtain ⟨hotherFindings, hotherSilent⟩ := run_eq other target settings tree
  obtain ⟨-, htally, hcalls⟩ := Progress.silent_eq_iff.1 hsilent
  obtain ⟨-, hotherTally, hotherCalls⟩ := Progress.silent_eq_iff.1 hotherSilent
  refine ⟨?_, ?_, ?_⟩
  · rw [hfindings, hotherFindings, findings_eq hagree hnames hwalk hbare]
  · rw [hcalls, hotherCalls, Operation.performAll_calls, Operation.performAll_calls, hscript]
  · rw [htally, hotherTally, Operation.performAll_total, Operation.performAll_total, hscript]

/-- A cluster in which everything is discovered: every query is answered with one object that will
do for all of them. Every look into a container and every request for a log has the same answer. -/
def clusterShowing (inside : Except Cluster.Failure Bytes) : Cluster where
  answer
    | .get _ =>
        .ok (Utf8.encode ("\x7b\"items\":[\x7b\"metadata\":\x7b\"name\":\"p\"\x7d\x7d]," ++
          "\"spec\":\x7b\"host\":\"h\"\x7d,\"data\":\x7b\"service-ca.crt\":\"x\"\x7d\x7d"))
    | .token .. => .ok [116]
    | .fetch .. => .ok []
    | .exec .. | .logs _ => inside

/-- The cluster in which everything is found lists one name. -/
theorem lists_clusterShowing {may : List String → Prop} (h : may ["p"]) :
    Lists may (clusterShowing (.ok [108])) ⟨"o", "n", "/b"⟩ {} := by
  have hdeployments : ((clusterShowing (.ok [108])).deploymentNames "n"
      (Target.selector ⟨"o", "n", "/b"⟩)).toOption = some ["p"] := by decide +kernel
  have hworkload : (Instances.foundNamespace (clusterShowing (.ok [108])) {}).toOption =
      some (some "openshift-power-monitoring") := by decide +kernel
  have hpods : ((clusterShowing (.ok [108])).podNames "openshift-power-monitoring"
      Exporter.selector).toOption = some ["p"] := by decide +kernel
  have hsnapshots : (Monitoring.foundPods (clusterShowing (.ok [108])) {}).toOption =
      some ["p"] := by decide +kernel
  refine ⟨fun names hfound => ?_, fun ns hns names hfound => ?_, fun names hfound => ?_⟩
  · rw [hfound] at hdeployments
    exact Option.some.inj hdeployments ▸ h
  · rw [hns] at hworkload
    obtain rfl : ns = "openshift-power-monitoring" :=
      Option.some.inj (Option.some.inj hworkload)
    rw [hfound] at hpods
    exact Option.some.inj hpods ▸ h
  · rw [hfound] at hsnapshots
    exact Option.some.inj hsnapshots ▸ h

/-- The theorem at a cluster that shows the inside of its containers and one that does not. -/
theorem run_isolates_failures_inside :
    (clusterShowing (.ok [108])).AgreesWith
        (clusterShowing (.error (.commandFailed "oc" "1" ""))) ⟨"o", "n", "/b"⟩ {} ∧
      HasPlainNames (clusterShowing (.ok [108])) ⟨"o", "n", "/b"⟩ {} ∧
      (run (clusterShowing (.ok [108])) ⟨"o", "n", "/b"⟩ {} ⟨[(["b"], .directory)]⟩).2.calls =
        (run (clusterShowing (.error (.commandFailed "oc" "1" ""))) ⟨"o", "n", "/b"⟩ {}
          ⟨[(["b"], .directory)]⟩).2.calls := by
  have hagree : (clusterShowing (.ok [108])).AgreesWith
      (clusterShowing (.error (.commandFailed "oc" "1" ""))) ⟨"o", "n", "/b"⟩ {} := by
    refine ⟨fun call hcall => ?_, fun ns _ => rfl, rfl⟩
    simp only [discoveryCalls, List.mem_cons, List.not_mem_nil, or_false] at hcall
    rcases hcall with rfl | rfl | rfl | rfl | rfl | rfl | rfl | rfl <;> rfl
  have hdeployments : ((clusterShowing (.ok [108])).deploymentNames "n"
      (Target.selector ⟨"o", "n", "/b"⟩)).toOption = some ["p"] := by decide +kernel
  have hworkload : (Instances.foundNamespace (clusterShowing (.ok [108])) {}).toOption =
      some (some "openshift-power-monitoring") := by decide +kernel
  have hnames : HasPlainNames (clusterShowing (.ok [108])) ⟨"o", "n", "/b"⟩ {} := by
    refine ⟨by decide, fun names h => ?_, fun ns h => ?_⟩
    · rw [h] at hdeployments
      obtain rfl : names = ["p"] := Option.some.inj hdeployments
      decide
    · rw [h] at hworkload
      obtain rfl : ns = "openshift-power-monitoring" :=
        Option.some.inj (Option.some.inj hworkload)
      decide
  have hempty : ∀ place, File.Below ["b"] place →
      (⟨[(["b"], .directory)]⟩ : File.Tree).find? place = none := by
    rintro place ⟨names, hbelow, rfl⟩
    obtain ⟨name, rest, rfl⟩ := List.exists_cons_of_ne_nil hbelow
    simp [File.Tree.find?, List.lookup_cons]
  exact ⟨hagree, hnames, (run_isolates_failures _ _ ⟨"o", "n", "/b"⟩ {}
    ⟨[(["b"], .directory)]⟩ ["b"] hagree hnames rfl hempty).2.1⟩

end Run

end ClusterBundle
