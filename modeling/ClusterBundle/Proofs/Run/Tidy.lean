import ClusterBundle.Proofs.Cluster.Names
import ClusterBundle.Proofs.Run.Clearance
import ClusterBundle.Proofs.Script.Again

/-!
The outputs of the scripts have nothing to do with staging files.

The name of a staging file starts with a dot and has an end of its own. None of the fixed names is
like that, nor is the name of an object. The name of an operator may start with a dot, but it never
stands alone: something is added to its end.
-/

namespace ClusterBundle

open ClusterBundle.Path (IsName IsPiece)
open ClusterBundle.Bundle (Tidy stagingName)
open Operation (Fills)

/-! ### Names -/

variable {name base path : String}

theorem isLasting_of_head (h : name.toList.head? ≠ some '.') : IsLasting name :=
  fun _ heq => Bundle.stagingName_ne h heq.symm

/-- A name with another end. -/
theorem isLasting_of_suffix {rest : List Char} (h : rest <:+ name.toList)
    (hrest : ¬ rest <:+ ".partial".toList ∧ ¬ ".partial".toList <:+ rest) : IsLasting name := by
  rintro other rfl
  have hpartial : ".partial".toList <:+ (stagingName other).toList := by
    rw [Bundle.toList_stagingName]
    exact ⟨'.' :: other.toList, by simp⟩
  rcases List.suffix_or_suffix_of_suffix h hpartial with hsuffix | hsuffix
  · exact hrest.1 hsuffix
  · exact hrest.2 hsuffix

/-- A name that a file can have for good: one that leads down and not to a staging file. -/
structure IsFinal (name : String) : Prop where
  isName : IsName name
  down : name ≠ ".."
  lasting : IsLasting name

theorem IsFinal.of_head (hname : IsName name) (h : name.toList.head? ≠ some '.') :
    IsFinal name where
  isName := hname
  down := by
    rintro rfl
    exact h rfl
  lasting := isLasting_of_head h

theorem IsFinal.of_suffix {rest : List Char} (hname : IsName name) (h : rest <:+ name.toList)
    (hdots : ¬ rest <:+ "..".toList)
    (hrest : ¬ rest <:+ ".partial".toList ∧ ¬ ".partial".toList <:+ rest) : IsFinal name where
  isName := hname
  down := by
    rintro rfl
    exact hdots h
  lasting := isLasting_of_suffix h hrest

theorem Cluster.IsObjectName.isFinal (h : IsObjectName name) : IsFinal name :=
  .of_head h.isName h.head?_ne

/-! ### Paths -/

namespace Bundle.Tidy

theorem of_isFinal (h : IsFinal name) : Tidy name where
  accepts := by
    rw [accepts_iff, h.isName.components_eq]
    exact ⟨Path.not_isAbsolute_of_isPiece h.isName.1, by simp, by simpa using h.down.symm⟩
  plain := Path.endsPlain_of_isPiece h.isName.1 h.isName.2
  slash := Path.not_endsWithSlash_of_isPiece h.isName.1
  lasting := by
    rw [h.isName.components_eq]
    simpa using h.lasting

theorem join (hbase : Tidy base) (h : Tidy path) : Tidy (Path.join base path) := by
  obtain ⟨hbaseRelative, -, hbaseUp⟩ := accepts_iff.1 hbase.accepts
  obtain ⟨hrelative, hnames, hup⟩ := accepts_iff.1 h.accepts
  have hcomponents := Path.components_join base path hrelative
  obtain ⟨hplain, hslash⟩ := h.join_plain base
  refine ⟨accepts_iff.2 ⟨?_, ?_, ?_⟩, hplain, hslash, fun name hname => ?_⟩
  · exact Path.not_isAbsolute_join hbaseRelative hrelative
  · rw [hcomponents]
    simp [hnames]
  · rw [hcomponents, List.mem_append]
    exact not_or.2 ⟨hbaseUp, hup⟩
  · rw [hcomponents, List.mem_append] at hname
    exact hname.elim (hbase.lasting name) (h.lasting name)

end Bundle.Tidy

theorem isFinal_of_mem {names : List String}
    (h : ∀ name ∈ names, IsName name ∧ name.toList.head? ≠ some '.') (hname : name ∈ names) :
    IsFinal name :=
  .of_head (h name hname).1 (h name hname).2

/-! ### The scripts -/

theorem Lifecycle.script_tidy (target : Target) : Fills Tidy (script target) := by
  refine (script_fills target).mono ?_
  rintro ⟨mode, path⟩ ⟨hmode, name, hname, rfl⟩
  have hdirectory : IsFinal directory := .of_head (by decide) (by decide)
  exact ⟨hmode, (Tidy.of_isFinal hdirectory).join
    (.of_isFinal (isFinal_of_mem (by decide) hname))⟩

namespace Install

variable {cluster : Cluster} {target : Target}

theorem isFinal_installDirectory (h : IsPiece target.operator) :
    IsFinal target.installDirectory := by
  have hend : "-info".toList <:+ target.installDirectory.toList :=
    ⟨target.operator.toList, String.toList_append.symm⟩
  exact .of_suffix (isName_installDirectory h) hend (by decide) (by decide)

variable (hoperator : IsPiece target.operator)

include hoperator

theorem file_tidy (h : IsFinal name) : Tidy (file target name) :=
  (Tidy.of_isFinal (isFinal_installDirectory hoperator)).join (.of_isFinal h)

theorem summary_tidy : Tidy (file target "summary.txt") :=
  file_tidy hoperator (.of_head (by decide) (by decide))

theorem collectionScript_tidy
    (hdeployments : ∀ name ∈ listed cluster target, IsPiece name) :
    Fills Tidy (collectionScript cluster target) := by
  refine collectionScript_fills.mono ?_
  rintro ⟨mode, path⟩ ⟨hmode, name, rfl, hname | ⟨deployment, hdeployment, rfl⟩⟩
  · exact ⟨hmode, file_tidy hoperator (isFinal_of_mem (by decide) hname)⟩
  · obtain ⟨hplain, hlog⟩ := isName_logFile (hdeployments deployment hdeployment)
    exact ⟨hmode, file_tidy hoperator (.of_suffix hplain hlog (by decide) (by decide))⟩

end Install

theorem Instances.script_tidy (cluster : Cluster) (settings : Settings) (collected : Bool) :
    Fills Tidy (script cluster settings collected) := by
  refine (script_fills cluster settings collected).mono ?_
  rintro ⟨mode, name⟩ ⟨hmode, hname⟩
  exact ⟨hmode, .of_isFinal (isFinal_of_mem (by decide) hname)⟩

theorem Exporter.script_tidy (cluster : Cluster) {ns : String} (hns : IsPiece ns)
    (hpods : ∀ pod ∈ listed cluster ns, IsFinal pod) :
    Fills Tidy (script cluster (some ns)) := by
  have hdirectory : Tidy directory := .of_isFinal (.of_head (by decide) (by decide))
  refine (script_fills cluster ns).mono ?_
  rintro ⟨mode, path⟩ ⟨hmode, rfl | hname | ⟨pod, hpod, rfl | ⟨name, hname, rfl⟩⟩⟩
  · have hend : "_events".toList <:+ (eventsFile ns).toList :=
      ⟨ns.toList, String.toList_append.symm⟩
    exact ⟨hmode, .of_isFinal (.of_suffix (isName_eventsFile hns) hend (by decide) (by decide))⟩
  · exact ⟨hmode, .of_isFinal (isFinal_of_mem (by decide) hname)⟩
  · exact ⟨hmode, hdirectory.join (.of_isFinal (hpods pod hpod))⟩
  · exact ⟨hmode, (hdirectory.join (.of_isFinal (hpods pod hpod))).join
      (.of_isFinal (isFinal_of_mem (by decide) hname))⟩

namespace Monitoring

/-- The files of the last stage are below its directory. -/
theorem output_tidy {pods : List String} (hpods : ∀ pod ∈ pods, IsFinal pod)
    (h : Output pods path) : Tidy path := by
  have hdirectory : Tidy directory := .of_isFinal (.of_head (by decide) (by decide))
  have hstatus : Tidy "status" := .of_isFinal (.of_head (by decide) (by decide))
  rcases h with rfl | rfl | ⟨pod, hpod, snapshot, hsnapshot, rfl⟩
  · exact hdirectory.join (.of_isFinal (.of_head (by decide) (by decide)))
  · exact hdirectory.join (.of_isFinal (.of_head (by decide) (by decide)))
  · refine (hdirectory.join (.of_isFinal (hpods pod hpod))).join ?_
    -- a snapshot has a name of its own or is in the directory of the states
    have hfiles : ∀ snapshot ∈ snapshots,
        (IsName snapshot.2 ∧ snapshot.2.toList.head? ≠ some '.') ∨
          ∃ name ∈ ["runtimeinfo.json", "config.json", "tsdb.json"],
            snapshot.2 = Path.join "status" name := by decide
    rcases hfiles snapshot hsnapshot with ⟨hname, hhead⟩ | ⟨name, hname, hjoin⟩
    · exact .of_isFinal (.of_head hname hhead)
    · rw [hjoin]
      exact hstatus.join (.of_isFinal (isFinal_of_mem (by decide) hname))

theorem accessScript_tidy (cluster : Cluster) (settings : Settings) :
    Fills Tidy (accessScript cluster settings) := by
  refine (@accessScript_fills [] cluster settings).mono ?_
  rintro ⟨mode, path⟩ ⟨hmode, h⟩
  exact ⟨hmode, output_tidy (by simp) h⟩

theorem script_tidy (bundle : Bundle) (tree : File.Tree) {access : Access} (settings : Settings)
    (hpods : ∀ pod ∈ access.pods, IsFinal pod) :
    Fills Tidy (script bundle tree access settings) := by
  refine (script_fills bundle tree access settings).mono ?_
  rintro ⟨mode, path⟩ ⟨hmode, h⟩
  exact ⟨hmode, output_tidy hpods h⟩

end Monitoring

end ClusterBundle
