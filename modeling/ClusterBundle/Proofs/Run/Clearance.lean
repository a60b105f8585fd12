import ClusterBundle.Proofs.Run.Confinement
import ClusterBundle.Proofs.Script.Outputs

/-!
The two files that a run depends on.

What a run does next hangs on the bundle at two points: the internal resources have to be written
before the others are looked at, and the certificates have to be written before they are used. Both
files are in places that nothing before them touches. In a bundle that was empty they can be
written or not whatever else was collected, and the certificates that are used are those that were
found.
-/

namespace ClusterBundle

open File (walk)
open ClusterBundle.Path (components IsName IsPiece)
open Operation (Puts performAll)
open ClusterBundle.Bundle (Spares)

/-! ### The internal resources -/

def Instances.internalsFile : String := "kepler-internals.yaml"

theorem Lifecycle.script_spares_internals (target : Target) :
    Puts (Spares [] Instances.internalsFile) (script target) := by
  refine (script_fills target).puts.mono ?_
  rintro path ⟨name, hname, rfl⟩
  have hplain : IsName name := (by decide : ∀ name ∈ files, IsName name) name hname
  exact Bundle.spares_of_beside (Path.components_join_names (by decide) hplain) (by decide)
    (by decide)

namespace Install

variable {cluster : Cluster} {target : Target} {deployments : List String} {path : String}

theorem isName_installDirectory (h : IsPiece target.operator) :
    IsName target.installDirectory :=
  @Path.isName_append _ "-info" h (by decide) (by decide) (by decide)

theorem isName_logFile {name : String} (h : IsPiece name) :
    IsName (logFile deployments name) ∧
      ".log".toList <:+ (logFile deployments name).toList := by
  unfold logFile
  split
  · decide
  · exact ⟨@Path.isName_append _ ".log" h (by decide) (by decide) (by decide),
      ⟨name.toList, String.toList_append.symm⟩⟩

theorem components_file (hoperator : IsPiece target.operator) {name : String}
    (hname : IsName name) : components (file target name) = [target.installDirectory, name] :=
  Path.components_join_names (isName_installDirectory hoperator) hname

/-- Where the outputs of the second stage are, if none of the names has a slash in it. -/
theorem components_output (hoperator : IsPiece target.operator)
    (hdeployments : ∀ name ∈ deployments, IsPiece name) (h : Output target deployments path) :
    ∃ name, components path = [target.installDirectory, name] ∧
      (name ∈ files ∨ ".log".toList <:+ name.toList) := by
  obtain ⟨name, rfl, hname⟩ := h
  rcases hname with hname | ⟨deployment, hdeployment, rfl⟩
  · have hplain : IsName name := (by decide : ∀ name ∈ files, IsName name) name hname
    exact ⟨name, components_file hoperator hplain, .inl hname⟩
  · obtain ⟨hplain, hlog⟩ := @isName_logFile deployments _ (hdeployments _ hdeployment)
    exact ⟨_, components_file hoperator hplain, .inr hlog⟩

variable (hoperator : IsPiece target.operator)
  (hdeployments : ∀ name ∈ listed cluster target, IsPiece name)

include hoperator hdeployments

theorem script_spares_internals :
    Puts (Spares [] Instances.internalsFile) (script cluster target) := by
  refine script_puts.mono fun path hpath => ?_
  obtain ⟨name, hcomponents, -⟩ := components_output hoperator hdeployments hpath
  exact Bundle.spares_of_beside hcomponents (@Path.append_ne "-info" _ (by decide) _)
    (@Path.append_ne "-info" _ (by decide) _)

end Install

/-! ### The certificates -/

namespace Monitoring

def certificatesName : String := "ca-bundle.crt"

/-- An output stays clear of the certificates. -/
abbrev SparesCertificates : String → Prop := Spares [directory] certificatesName

theorem components_certificatesFile :
    components certificatesFile = [directory] ++ [certificatesName] :=
  Path.components_join_names (by decide) (by decide)

/-- A file that is not in the directory of the certificates, but beside it. -/
theorem spares_of_name {name : String} (hname : IsName name) (h : name ≠ directory) :
    SparesCertificates name :=
  Bundle.spares_of_head (fun _ => hname.components_eq) h fun _ =>
    Bundle.stagingName_ne (by decide)

end Monitoring

open Monitoring (SparesCertificates)

theorem Lifecycle.script_spares_certificates (target : Target) :
    Puts SparesCertificates (script target) := by
  refine (script_fills target).puts.mono ?_
  rintro path ⟨name, hname, rfl⟩
  have hplain : IsName name := (by decide : ∀ name ∈ files, IsName name) name hname
  exact Bundle.spares_of_head (fun _ => Path.components_join_names (by decide) hplain) (by decide)
    (by simp)

theorem Install.script_spares_certificates {cluster : Cluster} {target : Target}
    (hoperator : IsPiece target.operator)
    (hdeployments : ∀ name ∈ listed cluster target, IsPiece name) :
    Puts SparesCertificates (script cluster target) := by
  refine script_puts.mono fun path hpath => ?_
  obtain ⟨name, hcomponents, hname⟩ := components_output hoperator hdeployments hpath
  -- the operator's directory may be that of the certificates, but the names in it are others
  have hother : name ≠ Monitoring.certificatesName ∧
      name ≠ Bundle.stagingName Monitoring.certificatesName := by
    rcases hname with hname | hlog
    · exact (by decide : ∀ name ∈ files, name ≠ Monitoring.certificatesName ∧
        name ≠ Bundle.stagingName Monitoring.certificatesName) name hname
    · constructor <;> exact fun h => absurd (h ▸ hlog) (by decide)
  exact Bundle.spares_of_last hcomponents hother.1 hother.2 (Bundle.stagingName_ne (by decide))
    fun h => hother.1 (Bundle.stagingName_inj h)

theorem Instances.script_spares_certificates (cluster : Cluster) (settings : Settings)
    (collected : Bool) : Puts SparesCertificates (script cluster settings collected) :=
  (script_fills cluster settings collected).puts.mono fun name hname =>
    (by decide : ∀ name ∈ files, IsName name ∧ name ≠ Monitoring.directory) name hname |>.elim
      Monitoring.spares_of_name

namespace Exporter

theorem isName_eventsFile {ns : String} (h : IsPiece ns) : IsName (eventsFile ns) :=
  @Path.isName_append _ "_events" h (by decide) (by decide) (by decide)

/-- A relative path below the directory of all pods stays there. -/
theorem components_pod {pod : String} (h : Path.isAbsolute (Path.join directory pod) = false) :
    components (Path.join directory pod) = directory :: components pod := by
  have hrelative : Path.isAbsolute pod = false := by
    rw [Bool.eq_false_iff]
    intro habsolute
    rw [Path.join, if_pos habsolute, habsolute] at h
    cases h
  have hdirectory : IsName directory := by decide
  rw [Path.components_join _ _ hrelative, hdirectory.components_eq, List.singleton_append]

theorem components_podFile {pod name : String} (hname : IsName name)
    (h : Path.isAbsolute (Path.join (Path.join directory pod) name) = false) :
    components (Path.join (Path.join directory pod) name) =
      directory :: (components pod ++ [name]) := by
  have hpod : Path.isAbsolute (Path.join directory pod) = false := by
    rw [Bool.eq_false_iff]
    intro habsolute
    rw [Path.isAbsolute_join habsolute] at h
    cases h
  rw [Path.components_join _ _ (Path.not_isAbsolute_of_isPiece hname.1), components_pod hpod,
    hname.components_eq, List.cons_append]

theorem script_spares_certificates (cluster : Cluster) {ns : String} (hns : IsPiece ns) :
    Puts SparesCertificates (script cluster (some ns)) := by
  have hstaging : Bundle.stagingName directory ≠ Monitoring.directory :=
    Bundle.stagingName_ne (by decide)
  refine (script_fills cluster ns).puts.mono ?_
  rintro path (rfl | hpath | ⟨pod, -, rfl | ⟨name, hname, rfl⟩⟩)
  · exact Monitoring.spares_of_name (isName_eventsFile hns)
      (@Path.append_ne "_events" _ (by decide) _)
  · exact (by decide : ∀ name ∈ files, IsName name ∧ name ≠ Monitoring.directory) _ hpath |>.elim
      Monitoring.spares_of_name
  · exact Bundle.spares_of_head
      (fun haccepts => components_pod (Bundle.accepts_iff.1 haccepts).1) (by decide)
      fun _ => hstaging
  · have hplain : IsName name := (by decide : ∀ name ∈ podFiles, IsName name) name hname
    exact Bundle.spares_of_head
      (fun haccepts => components_podFile hplain (Bundle.accepts_iff.1 haccepts).1) (by decide)
      fun _ => hstaging

end Exporter

/-! ### The two files in a run -/

namespace Run

/-- The names that a run makes paths of have no slash in them. -/
structure HasPlainNames (cluster : Cluster) (target : Target) (settings : Settings) : Prop where
  operator : IsPiece target.operator
  deployments : ∀ names, cluster.deploymentNames target.ns target.selector = .ok names →
    ∀ name ∈ names, IsPiece name
  workload : ∀ ns, Instances.foundNamespace cluster settings = .ok (some ns) → IsPiece ns

/-- Whatever the lists of names that a run may ask for, they are as they may be. -/
structure Lists (may : List String → Prop) (cluster : Cluster) (target : Target)
    (settings : Settings) : Prop where
  deployments : ∀ names, cluster.deploymentNames target.ns target.selector = .ok names → may names
  pods : ∀ ns, Instances.foundNamespace cluster settings = .ok (some ns) →
    ∀ names, cluster.podNames ns Exporter.selector = .ok names → may names
  snapshots : ∀ names, Monitoring.foundPods cluster settings = .ok names → may names

variable {cluster : Cluster} {target : Target} {settings : Settings} {tree : File.Tree}
  {root : File.Place}

/-- The namespace of the workload is one that the cluster tells. -/
theorem foundNamespace_of_workload {ns : String}
    (h : workloadNamespace cluster target settings tree = some ns) :
    Instances.foundNamespace cluster settings = .ok (some ns) := by
  unfold workloadNamespace Instances.namespace? at h
  split at h
  · split at h
    · rename_i hfound
      rw [hfound, h]
    · cases h
  · cases h

/-- What holds of every list that is told, and of the empty one, holds of what is listed. -/
theorem getD_of_ok {may : List String → Prop} {told : Except Cluster.Failure (List String)}
    (hempty : may []) (h : ∀ names, told = .ok names → may names) :
    may (told.toOption.getD []) := by
  cases told with
  | error failure => exact hempty
  | ok names => exact h names rfl

/-- The pods of the exporter that a run looks into. -/
def exporterPods (cluster : Cluster) (target : Target) (settings : Settings) (tree : File.Tree) :
    List String :=
  match workloadNamespace cluster target settings tree with
  | some ns => Exporter.listed cluster ns
  | none => []

/-- The lists that a run works with are among those that it may ask for, or empty. -/
theorem Lists.listed {may : List String → Prop} (h : Lists may cluster target settings)
    (hempty : may []) :
    may (Install.listed cluster target) ∧ may (exporterPods cluster target settings tree) ∧
      may (Monitoring.listed cluster settings) := by
  refine ⟨getD_of_ok hempty h.deployments, ?_, getD_of_ok hempty h.snapshots⟩
  unfold exporterPods
  cases hworkload : workloadNamespace cluster target settings tree with
  | none => exact hempty
  | some ns => exact getD_of_ok hempty (h.pods ns (foundNamespace_of_workload hworkload))

section

variable (hnames : HasPlainNames cluster target settings)

include hnames

theorem HasPlainNames.listed : ∀ name ∈ Install.listed cluster target, IsPiece name :=
  @getD_of_ok (fun names => ∀ name ∈ names, IsPiece name) _ (by simp) hnames.deployments

theorem opening_spares_internals :
    Puts (Spares [] Instances.internalsFile) (opening cluster target) :=
  (Lifecycle.script_spares_internals target).append
    (Install.script_spares_internals hnames.operator hnames.listed)

theorem preparation_spares_certificates :
    Puts SparesCertificates (preparation cluster target settings tree) := by
  have hopening : Puts SparesCertificates (opening cluster target) :=
    (Lifecycle.script_spares_certificates target).append
      (Install.script_spares_certificates hnames.operator hnames.listed)
  refine hopening.append (.append (Instances.script_spares_certificates _ _ _) ?_)
  cases hworkload : workloadNamespace cluster target settings tree with
  | none => exact .nil
  | some ns =>
      exact Exporter.script_spares_certificates cluster
        (hnames.workload ns (foundNamespace_of_workload hworkload))

variable (hroot : walk tree [] (components target.destination) = .ok root)
  (hempty : ∀ names, names ≠ [] → tree.find? (root ++ names) = none)

include hroot hempty

/-- The internal resources are collected if the cluster gives them and their paths can be used. -/
theorem internalsCollected_iff :
    internalsCollected cluster target tree = true ↔
      (cluster.answer (.get (Cluster.Query.all Instances.internalKind))).toBool = true ∧
        target.bundle.HasRoom Instances.internalsFile := by
  have hwrite (content : Bytes) :
      (target.bundle.write (performAll (site cluster target) { tree } (opening cluster target)).tree
        Instances.internalsFile content).1.toBool = true ↔
          target.bundle.HasRoom Instances.internalsFile :=
    @Operation.write_of_spares _ _ _ (site cluster target) { tree } _ hroot hempty
      (opening_spares_internals hnames) _ (by decide) (by decide) (by decide) (.inl rfl) content
  unfold internalsCollected Instances.areCollected
  rw [decide_eq_true_iff, Instances.internals, Operation.get, Operation.collect_written]
  constructor
  · rintro ⟨content, hanswer, hput⟩
    exact ⟨congrArg Except.toBool hanswer, (hwrite content).1 hput⟩
  · rintro ⟨hanswer, hroom⟩
    rcases hcontent : cluster.answer (.get (Cluster.Query.all Instances.internalKind)) with
      failure | content
    · simp [hcontent, Except.toBool] at hanswer
    · exact ⟨content, hcontent, (hwrite content).2 hroom⟩

/-- The certificates can be saved if their paths can be used. -/
theorem certificatesSaved_iff (certificates : String) :
    certificatesSaved cluster target settings tree certificates = some .written ↔
      target.bundle.HasRoom Monitoring.certificatesFile := by
  have hspares : Puts SparesCertificates
      (preparation cluster target settings tree ++ Monitoring.reads cluster settings) :=
    (preparation_spares_certificates hnames).append (Monitoring.upTo_fills _ _).puts
  have hwrite := @Operation.write_of_spares _ _ _ (site cluster target) { tree } _ hroot hempty
    hspares Monitoring.certificatesFile (by decide) Monitoring.components_certificatesFile
    (by decide) (.inr ⟨Monitoring.directory, rfl, by decide, by decide⟩)
    (Utf8.encode certificates)
  unfold certificatesSaved prepared
  rw [← Operation.performAll_append, Monitoring.saving, Operation.save_written]
  exact hwrite

end

/-- If monitoring can be reached, then the certificates in the bundle are those that were found. -/
theorem read_certificates {reached : Monitoring.Access}
    (h : access cluster target settings tree = .ok reached) :
    ∃ certificates, Monitoring.found cluster settings = .ok (reached, certificates) ∧
      ∀ path, target.bundle.resolve reached.certificatesPath = .ok path →
        File.read (accessTree cluster target settings tree) path =
          .ok (Utf8.encode certificates) := by
  obtain ⟨certificates, hfound, hsaved⟩ := Monitoring.access_eq_ok h
  obtain ⟨host, token, pods, -, -, -, -, rfl⟩ := Monitoring.found_eq_ok hfound
  refine ⟨certificates, hfound, fun path hpath => ?_⟩
  unfold accessTree Monitoring.accessScript
  rw [hfound, Operation.performAll_append]
  dsimp only
  rw [Operation.performAll_cons, Operation.performAll_nil]
  exact Operation.read_of_saved hsaved hpath

end Run

end ClusterBundle
