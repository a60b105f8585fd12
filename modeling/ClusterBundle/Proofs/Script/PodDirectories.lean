import ClusterBundle.Proofs.Cluster.Names
import ClusterBundle.Proofs.Run.Places
import ClusterBundle.Proofs.Script.Filling

/-!
The directories of the pods.

Every pod of the exporter gets a directory of its own, whatever comes of its requests. What is found
in it are the files of its steps that came out as written. No turn of another pod changes that,
since it stays in another directory; and a directory for something else can only come from the file
for the events, whose path has the name of the namespace in it.
-/

namespace ClusterBundle

open Cluster (Failure IsObjectName)
open File (Place Tree walk)
open File.Access (placesBy placesBy_append)
open Operation (performAll trace)
open ClusterBundle.Path (components)

namespace Cluster.IsObjectName

variable {name : String}

theorem isPlainName (h : IsObjectName name) : Bundle.IsPlainName name := ⟨h.isName, h.head?_ne⟩

end Cluster.IsObjectName

namespace Exporter

/-! ### Where the operations put something -/

section

variable {ns pod other name : String} {op : Operation} {names : List String}

theorem components_podDirectory (hpod : IsObjectName pod) :
    components (Path.join directory pod) = [directory, pod] :=
  Path.components_join_names (by decide) hpod.isName

theorem accepts_podDirectory (hpod : IsObjectName pod) :
    Bundle.accepts (Path.join directory pod) = true :=
  Bundle.accepts_join (by decide) hpod.isPlainName

theorem isPlainName_podSteps (set : PodDiagnostics) :
    ∀ s ∈ podSteps ns set, Bundle.IsPlainName s.name := by
  have hnames : ∀ name ∈ (podSteps ns set).map FileStep.name, Bundle.IsPlainName name :=
    (by decide : ∀ name ∈ podFiles, Bundle.IsPlainName name)
  exact fun s hs => hnames _ (List.mem_map_of_mem hs)

theorem nodup_podSteps (set : PodDiagnostics) : ((podSteps ns set).map FileStep.name).Nodup :=
  (by decide : podFiles.Nodup)

/-- The turn of a pod stays in the directory of the pod. -/
theorem podScript_footprint (hpod : IsObjectName pod) (hop : op ∈ podScript ns (diagnostics pod))
    (h : op.files names ∨ op.directories names) :
    names <+: [directory, pod] ∨ ∃ last, names = [directory, pod, last] := by
  rw [podScript_eq] at hop
  rcases List.mem_cons.1 hop with rfl | hop
  · rcases h with h | ⟨-, hway⟩
    · exact h.elim
    · exact .inl (components_podDirectory hpod ▸ hway)
  obtain ⟨s, hs, rfl⟩ := List.mem_map.1 hop
  have hpath := Bundle.components_join_plain (Path.join directory pod)
    (isPlainName_podSteps _ s hs)
  rw [components_podDirectory hpod] at hpath
  rcases h with ⟨-, around, name, hname, hnames⟩ | ⟨-, hway⟩
  · obtain ⟨rfl, -⟩ := List.append_inj' (hname.symm.trans hpath) rfl
    rcases hnames with rfl | rfl
    · exact .inr ⟨_, rfl⟩
    · exact .inr ⟨_, rfl⟩
  · have hway : names <+: (components (Path.join (Path.join directory pod) s.name)).dropLast :=
      hway
    rw [hpath, List.dropLast_concat] at hway
    exact .inl hway

/-- What is put below the directory of some pod comes from the turn of that pod. -/
theorem eq_of_podScript (hpod : IsObjectName pod) (hop : op ∈ podScript ns (diagnostics pod))
    (h : op.files (directory :: other :: names) ∨ op.directories (directory :: other :: names)) :
    other = pod := by
  rcases podScript_footprint hpod hop h with hway | ⟨last, heq⟩
  · exact (List.cons_prefix_cons.1 (List.cons_prefix_cons.1 hway).2).1
  · exact (List.cons.inj (List.cons.inj heq).2).1

/-- The files of a pod are written in its own turn only. -/
theorem operation_not_mem_podScript {s : FileStep} (hpod : IsObjectName pod)
    (hother : IsObjectName other) (hne : other ≠ pod)
    (hs : s ∈ podSteps ns (diagnostics other)) :
    s.operation (Path.join directory other) ∉ podScript ns (diagnostics pod) := by
  intro hop
  have hname := isPlainName_podSteps _ s hs
  have hpath := Bundle.components_join_plain (Path.join directory other) hname
  rw [components_podDirectory hother] at hpath
  refine hne (@eq_of_podScript ns pod other _ [s.name] hpod hop (.inl ?_))
  exact ⟨Bundle.accepts_join (accepts_podDirectory hother) hname, _, _, hpath, .inl rfl⟩

end

/-! ### One turn -/

/-- What the directory of a pod has in it: the files of its steps that came out as written, and
nothing else. -/
structure PodDirectory (site : Site) (ns : String) (root : Place)
    (moments : List (Operation × Option Outcome)) (pod : String) (tree : Tree) : Prop where
  made : tree.find? (root ++ [directory, pod]) = some .directory
  inside : ∀ names, names ≠ [] → ∀ entry,
    tree.find? (root ++ directory :: pod :: names) = some entry ↔
      ∃ s ∈ podSteps ns (diagnostics pod), names = [s.name] ∧
        s.Wrote site (Path.join directory pod) moments entry

/-- A tree in which there is room for the directories of some pods. -/
structure Awaits (site : Site) (root : Place) (pods : List String) (tree : Tree) : Prop where
  walked : walk tree [] (components site.bundle.root) = .ok root
  sound : tree.Sound
  /-- The directory of all pods is there or can be made. -/
  free : ∀ content, tree.find? (root ++ [directory]) ≠ some (.file content)
  missing : ∀ pod ∈ pods, tree.find? (root ++ [directory, pod]) = none

/-- The path to the directory of a pod is not too long. -/
def IsReached (site : Site) (pod : String) : Prop :=
  (Utf8.encode (Path.join site.bundle.root (Path.join directory pod))).length < File.pathLimit

instance (site : Site) (pod : String) : Decidable (IsReached site pod) :=
  inferInstanceAs (Decidable (_ < _))

section

variable {site : Site} {p : Progress} {root : Place} {ns pod : String} {pods : List String}
  {tree after : Tree} {moments more : List (Operation × Option Outcome)}

/-- The directory stays as it is where neither its places nor the moments of its steps are
touched. -/
theorem PodDirectory.mono (h : PodDirectory site ns root moments pod tree)
    (hplaces : ∀ names, after.find? (root ++ directory :: pod :: names) =
      tree.find? (root ++ directory :: pod :: names))
    (hmoments : ∀ s ∈ podSteps ns (diagnostics pod), ∀ outcome,
      (s.operation (Path.join directory pod), outcome) ∈ more ↔
        (s.operation (Path.join directory pod), outcome) ∈ moments) :
    PodDirectory site ns root more pod after where
  made := (hplaces []).trans h.made
  inside := by
    intro names hnames entry
    rw [hplaces, h.inside names hnames]
    refine exists_congr fun s => and_congr_right fun hs => and_congr_right fun _ => ?_
    exact and_congr_left fun _ => (hmoments s hs _).symm

theorem Awaits.textFault?_eq_none (h : Awaits site root pods tree) (hpod : IsObjectName pod)
    (hreached : IsReached site pod) :
    File.textFault? (Path.join site.bundle.root (Path.join directory pod)) = none := by
  have hcomponents := (@Bundle.leads_join site.bundle.root _ (accepts_podDirectory hpod)).1
  rw [components_podDirectory hpod] at hcomponents
  cases hfault : File.textFault? (Path.join site.bundle.root (Path.join directory pod)) with
  | none => rfl
  | some fault =>
      refine absurd (File.tooLong_of_clean (fun name hname => ?_) ?_ hfault)
        (Nat.not_le.2 hreached)
      · rw [hcomponents] at hname
        rcases List.mem_append.1 hname with hname | hname
        · exact h.sound.clean_of_walk h.walked name hname
        · simp only [List.mem_cons, List.not_mem_nil, or_false] at hname
          rcases hname with rfl | rfl
          · decide
          · exact hpod.not_mem (by decide) (by decide)
      · rw [List.append_cons] at hcomponents
        exact Path.ne_empty_of_components hcomponents

/-- The directory of a pod is made, and nothing is in it at first. -/
theorem Awaits.directory_made (h : Awaits site root (pod :: pods) p.tree)
    (hpod : IsObjectName pod) (hreached : IsReached site pod) :
    let made := (Operation.makeDirectory pod (Path.join directory pod)).perform site p
    made.tree.Open (root ++ [directory, pod]) ∧
      ∀ names, names ≠ [] → made.tree.find? (root ++ directory :: pod :: names) = none := by
  intro made
  have htree : made.tree = (site.bundle.createDirectory p.tree (Path.join directory pod)).2 := by
    rw [Operation.perform_tree, Operation.accesses]
    exact Bundle.performAll_createDirectoryAccesses _ _ _
  have hmissing := h.missing pod List.mem_cons_self
  have hpath := components_podDirectory hpod
  obtain ⟨hgrown, hopen⟩ := Bundle.createDirectory_of_free h.walked (accepts_podDirectory hpod)
    h.sound.closed (Path.endsPlain_join hpod.isName.1 hpod.isName.2 _)
    (h.textFault?_eq_none hpod hreached)
    (by
      rw [hpath]
      exact List.forall_mem_cons.2 ⟨by decide, List.forall_mem_singleton.2 hpod.not_isTooLong⟩)
    (by
      rw [hpath]
      intro front hfront content hfile
      -- the root is a directory, the directory of all pods is no file, and that of the pod is free
      rcases List.prefix_cons_iff.1 hfront with rfl | ⟨rest, rfl, hrest⟩
      · rw [List.append_nil, (Tree.Open.root.walk h.walked).directory] at hfile
        cases hfile
      rcases List.prefix_cons_iff.1 hrest with rfl | ⟨last, rfl, hlast⟩
      · exact h.free content hfile
      · rw [List.prefix_nil.1 hlast, hmissing] at hfile
        cases hfile)
  rw [hpath] at hgrown hopen
  rw [htree]
  refine ⟨hopen, fun names hnames => ?_⟩
  have hplace : root ++ directory :: pod :: names = root ++ [directory, pod] ++ names := by simp
  rw [hplace]
  rcases hgrown (root ++ [directory, pod] ++ names) with hsame | ⟨hway, -⟩
  · rw [hsame, h.sound.closed.below hmissing]
  · have hlength := hway.length_le
    rw [List.length_append] at hlength
    exact absurd (List.length_eq_zero_iff.1 (by omega)) hnames

/-- One turn makes the directory of its pod and fills it. -/
theorem Awaits.podDirectory (h : Awaits site root (pod :: pods) p.tree)
    (hpod : IsObjectName pod) (hreached : IsReached site pod) :
    PodDirectory site ns root (trace site p (podScript ns (diagnostics pod))) pod
      (performAll site p (podScript ns (diagnostics pod))).tree := by
  obtain ⟨hopen, hempty⟩ := h.directory_made hpod hreached
  have hchange := Operation.change_perform h.walked
    (.makeDirectory pod (Path.join directory pod))
  have hsound := @Operation.sound_perform site p h.sound
    (.makeDirectory pod (Path.join directory pod))
  have hscript : podScript ns (diagnostics pod) =
      .makeDirectory pod (Path.join directory pod) ::
        (podSteps ns (diagnostics pod)).map (FileStep.operation (Path.join directory pod)) := rfl
  rw [hscript, trace, Operation.performAll_cons]
  generalize (Operation.makeDirectory pod (Path.join directory pod)).perform site p = made
    at hopen hempty hchange hsound
  have hpath := components_podDirectory hpod
  have hplace : ∀ name, root ++ [directory, pod] ++ [name] = root ++ directory :: pod :: [name] :=
    fun name => by simp
  have hfilled := FileStep.filled_performAll (accepts_podDirectory hpod) (hchange.walk h.walked)
    hsound (hpath ▸ hopen) (@isPlainName_podSteps ns (diagnostics pod))
    (nodup_podSteps (diagnostics pod)) (fun s _ => by
      rw [hpath, hplace, hplace]
      exact ⟨hempty _ (List.cons_ne_nil _ _), hempty _ (List.cons_ne_nil _ _)⟩)
  rw [hpath] at hfilled
  -- the directory is not among the steps, so its moment says nothing about them
  have hwrote : ∀ (s : FileStep) outcome moments entry,
      s.Wrote site (Path.join directory pod)
          ((.makeDirectory pod (Path.join directory pod), outcome) :: moments) entry ↔
        s.Wrote site (Path.join directory pod) moments entry := by
    intro s outcome moments entry
    simp [FileStep.Wrote, FileStep.operation]
  refine ⟨?_, fun names hnames entry => ?_⟩
  · rw [hfilled.others (root ++ [directory, pod]) fun s _ => by simp, hopen.directory]
  constructor
  · intro hfound
    by_cases hstep : ∃ s ∈ podSteps ns (diagnostics pod), names = [s.name]
    · obtain ⟨s, hs, rfl⟩ := hstep
      rw [← hplace, hfilled.file s hs] at hfound
      exact ⟨s, hs, rfl, (hwrote s _ _ _).2 hfound⟩
    · rw [hfilled.others _ fun s hs hsame => hstep ⟨s, hs, by simpa using hsame⟩,
        hempty names hnames] at hfound
      cases hfound
  · rintro ⟨s, hs, rfl, h⟩
    rw [← hplace, hfilled.file s hs]
    exact (hwrote s _ _ _).1 h

/-! ### All turns -/

/-- The turns of some pods leave everything in the directories of others as it is. -/
theorem find?_rounds (hwalk : walk p.tree [] (components site.bundle.root) = .ok root)
    (hpods : ∀ pod ∈ pods, IsObjectName pod) {other : String} (hother : other ∉ pods)
    (names : List String) :
    (performAll site p (rounds ns pods)).tree.find? (root ++ directory :: other :: names) =
      p.tree.find? (root ++ directory :: other :: names) := by
  have hoff : ∀ op ∈ rounds ns pods, ¬ (op.files (directory :: other :: names) ∨
      op.directories (directory :: other :: names)) := by
    intro op hop h
    obtain ⟨pod, hpod, hop⟩ := List.mem_flatMap.1 hop
    exact hother (eq_of_podScript (hpods pod hpod) hop h ▸ hpod)
  refine (Operation.change_performAll hwalk _).same ?_ ?_
  · rw [placesBy_append]
    exact fun ⟨op, hop, h⟩ => hoff op hop (.inl h)
  · rw [placesBy_append]
    exact fun ⟨op, hop, h⟩ => hoff op hop (.inr h)

/-- After the turn of a pod there is still room for the others. -/
theorem Awaits.next (h : Awaits site root (pod :: pods) p.tree) (hpod : IsObjectName pod)
    (hreached : IsReached site pod) (hnot : pod ∉ pods) :
    Awaits site root pods (performAll site p (podScript ns (diagnostics pod))).tree where
  walked := (Operation.change_performAll h.walked _).walk h.walked
  sound := Operation.sound_performAll h.sound _
  free := by
    intro content hfile
    have hmade := (@Awaits.podDirectory site p root ns pod pods h hpod hreached).made
    have hsound := @Operation.sound_performAll site p h.sound (podScript ns (diagnostics pod))
    have hparent := hsound.closed (root ++ [directory]) pod (by simp [hmade])
    rw [hfile] at hparent
    cases hparent
  missing := by
    intro other hother
    have hsame := @find?_rounds site p root ns [pod] h.walked
      (List.forall_mem_singleton.2 hpod) other
      (fun hmem => hnot (List.mem_singleton.1 hmem ▸ hother)) []
    rw [rounds, List.flatMap_singleton] at hsame
    rw [hsame]
    exact h.missing other (List.mem_cons_of_mem _ hother)

/-- Every pod has its directory in the end. The induction is on the pods; the directory of the first
one stays as it is in the turns of the others, and they find their places free after its turn. -/
theorem podDirectory_rounds (hnodup : pods.Nodup) (hpods : ∀ pod ∈ pods, IsObjectName pod)
    (hreached : ∀ pod ∈ pods, IsReached site pod) (h : Awaits site root pods p.tree) :
    ∀ pod ∈ pods, PodDirectory site ns root (trace site p (rounds ns pods)) pod
      (performAll site p (rounds ns pods)).tree := by
  induction pods generalizing p with
  | nil => exact fun _ h => absurd h (List.not_mem_nil)
  | cons first rest ih =>
      obtain ⟨hfirst, hnodup⟩ := List.nodup_cons.1 hnodup
      obtain ⟨hname, hnames⟩ := List.forall_mem_cons.1 hpods
      obtain ⟨hshort, hlater⟩ := List.forall_mem_cons.1 hreached
      have hnext := @Awaits.next site p root ns first rest h hname hshort hfirst
      have hrounds : rounds ns (first :: rest) =
          podScript ns (diagnostics first) ++ rounds ns rest := List.flatMap_cons
      rw [hrounds, Operation.performAll_append]
      refine List.forall_mem_cons.2 ⟨?_, fun other hother => ?_⟩
      · refine (h.podDirectory hname hshort).mono (find?_rounds hnext.walked hnames hfirst) ?_
        intro s hs outcome
        rw [Operation.trace_append, List.mem_append, or_iff_left fun hmem => ?_]
        obtain ⟨other, hother, hop⟩ := List.mem_flatMap.1 (Operation.fst_mem_of_mem_trace hmem)
        exact operation_not_mem_podScript (hnames other hother) hname
          (fun hsame => hfirst (hsame ▸ hother)) hs hop
      · refine (ih hnodup hnames hlater hnext other hother).mono (fun _ => rfl) fun s hs _ => ?_
        exact Operation.mem_trace_append (operation_not_mem_podScript hname (hnames other hother)
          (fun hsame => hfirst (hsame ▸ hother)) hs)

end

/-! ### Before the turns -/

/-- The file for the events is not in a directory where one of a pod could be. -/
def EventsAside (ns : String) : Prop :=
  ∀ name, ¬ [directory, name] <+: (components (eventsFile ns)).dropLast

section

variable {site : Site} {p : Progress} {root : Place} {ns pod name : String} {pods : List String}
  {op : Operation}

/-- A namespace without a slash in its name does not make a path of it. -/
theorem eventsAside_of_isPiece (h : Path.IsPiece ns) : EventsAside ns := by
  intro name hway
  rw [(isName_eventsFile h).components_eq] at hway
  cases List.prefix_nil.1 hway

/-- The objects of the namespace are put at the top of the bundle, but for the events. -/
theorem mem_objectsScript (h : op ∈ objectsScript ns) :
    ∃ step path call, op = .collect .replace step path call ∧
      (path = eventsFile ns ∨ path ∈ files) := by
  simp only [objectsScript, objects, List.flatMap_cons, List.flatMap_nil, List.cons_append,
    List.nil_append, List.mem_cons, List.not_mem_nil, or_false] at h
  rcases h with rfl | rfl | rfl | rfl | rfl
  · exact ⟨_, _, _, rfl, .inl rfl⟩
  all_goals exact ⟨_, _, _, rfl, .inr (by decide)⟩

theorem components_files (h : name ∈ files) : components name = [name] :=
  ((by decide : ∀ name ∈ files, Path.IsName name) name h).components_eq

/-- None of them is put in the place of the directory of all pods, or of that of a pod. -/
theorem objectsScript_files (hop : op ∈ objectsScript ns) :
    ¬ op.files [directory] ∧ (IsObjectName pod → ¬ op.files [directory, pod]) := by
  obtain ⟨step, path, call, rfl, hpath⟩ := mem_objectsScript hop
  refine ⟨?_, fun hpod => ?_⟩
  · rintro ⟨-, around, last, hlast, hplace | hplace⟩
    · rw [← hplace] at hlast
      rcases hpath with rfl | hpath
      · exact @Run.AreEvents.ne _ (Run.areEvents_eventsFile ns) [] directory (by decide) hlast
      · rw [components_files hpath] at hlast
        exact absurd ((List.cons.inj hlast).1 ▸ hpath) (by decide)
    · have hplace : [] ++ [directory] = around ++ [Bundle.stagingName last] := hplace
      obtain ⟨-, hsame⟩ := List.append_inj' hplace rfl
      exact Bundle.stagingName_ne (by decide) (List.cons.inj hsame).1.symm
  · rintro ⟨-, around, last, hlast, hplace | hplace⟩
    · rw [← hplace] at hlast
      rcases hpath with rfl | hpath
      · refine @Run.AreEvents.ne _ (Run.areEvents_eventsFile ns) [directory] pod ?_ hlast
        rintro ⟨front, hfront⟩
        exact hpod.not_mem (c := '_') (by decide) (by decide) (hfront ▸ by simp)
      · rw [components_files hpath] at hlast
        cases hlast
    · have hplace : [directory] ++ [pod] = around ++ [Bundle.stagingName last] := hplace
      obtain ⟨-, hsame⟩ := List.append_inj' hplace rfl
      exact Bundle.stagingName_ne hpod.head?_ne (List.cons.inj hsame).1.symm

theorem objectsScript_directories (haside : EventsAside ns) (hop : op ∈ objectsScript ns) :
    ¬ op.directories [directory, name] := by
  obtain ⟨step, path, call, rfl, hpath⟩ := mem_objectsScript hop
  rintro ⟨-, hway⟩
  rcases hpath with rfl | hpath
  · exact haside name hway
  · rw [components_files hpath] at hway
    cases List.prefix_nil.1 hway

/-- The files of the pods are written in their turns only. -/
theorem operation_not_mem_objectsScript {s : FileStep} (hpod : IsObjectName pod)
    (hs : s ∈ podSteps ns (diagnostics pod)) :
    s.operation (Path.join directory pod) ∉ objectsScript ns := by
  intro hop
  obtain ⟨step, path, call, heq, hpath⟩ := mem_objectsScript hop
  have hcomponents := Bundle.components_join_plain (Path.join directory pod)
    (isPlainName_podSteps _ s hs)
  have hsame : Path.join (Path.join directory pod) s.name = path := by injection heq
  rw [hsame, components_podDirectory hpod] at hcomponents
  rcases hpath with rfl | hpath
  · have hnames : ∀ name ∈ (podSteps ns (diagnostics pod)).map FileStep.name,
        ¬ "_events".toList <:+ name.toList :=
      (by decide : ∀ name ∈ podFiles, ¬ "_events".toList <:+ name.toList)
    exact (Run.areEvents_eventsFile ns).ne (hnames _ (List.mem_map_of_mem hs)) hcomponents
  · rw [components_files hpath] at hcomponents
    cases hcomponents

/-- After the objects of the namespace there is room for the directories of all pods, if there was
nothing in the place of the directory of all pods before. -/
theorem awaits_objects (hwalk : walk p.tree [] (components site.bundle.root) = .ok root)
    (hsound : p.tree.Sound) (hmissing : p.tree.find? (root ++ [directory]) = none)
    (hpods : ∀ pod ∈ pods, IsObjectName pod) (haside : EventsAside ns) :
    Awaits site root pods (performAll site p (objectsScript ns)).tree := by
  have hchange := Operation.change_performAll hwalk (objectsScript ns)
  refine ⟨hchange.walk hwalk, Operation.sound_performAll hsound _, fun content hfile => ?_,
    fun pod hpod => ?_⟩
  · have hoff : ¬ placesBy root (fun names => ∃ op ∈ objectsScript ns, op.files names)
        (root ++ [directory]) := by
      rw [placesBy_append]
      exact fun ⟨op, hop, h⟩ => (@objectsScript_files ns "" op hop).1 h
    rcases hchange.off _ hoff with hsame | ⟨-, -, hmade⟩
    · rw [hsame, hmissing] at hfile
      cases hfile
    · rw [hmade] at hfile
      cases hfile
  · rw [hchange.same, List.append_cons, hsound.closed.below hmissing]
    · rw [placesBy_append]
      exact fun ⟨op, hop, h⟩ => (objectsScript_files hop).2 (hpods pod hpod) h
    · rw [placesBy_append]
      exact fun ⟨op, hop, h⟩ => objectsScript_directories haside hop h

/-- Only the turns of pods make directories below that of all pods. -/
theorem mem_of_directories (hpods : ∀ pod ∈ pods, IsObjectName pod) (haside : EventsAside ns)
    (hop : op ∈ objectsScript ns ++ .ask (Cluster.listing "pod" ns selector) :: rounds ns pods)
    (h : op.directories [directory, name]) : name ∈ pods := by
  rcases List.mem_append.1 hop with hop | hop
  · exact absurd h (objectsScript_directories haside hop)
  rcases List.mem_cons.1 hop with rfl | hop
  · exact h.elim
  · obtain ⟨pod, hpod, hop⟩ := List.mem_flatMap.1 hop
    exact eq_of_podScript (hpods pod hpod) hop (.inr h) ▸ hpod

end

/-! ### The whole stage -/

/-- Every pod has a directory of its own, and there is no other below that of all pods. -/
def OnePerPod (root : Place) (pods : List String) (tree : Tree) : Prop :=
  ∀ name, tree.find? (root ++ [directory, name]) = some .directory ↔ name ∈ pods

/-- A bundle that has nothing of any pod yet, and the names of different pods. -/
structure IsFresh (site : Site) (tree : Tree) (root : Place) (pods : List String) : Prop where
  sound : tree.Sound
  found : File.stat tree site.bundle.root = .ok (root, .directory)
  missing : tree.find? (root ++ [directory]) = none
  nodup : pods.Nodup
  named : ∀ pod ∈ pods, IsObjectName pod

/-- What the directory of all pods looks like after the stage. -/
theorem IsFresh.podDirectories {site : Site} {p : Progress} {root : Place} {ns : String}
    {pods : List String} (h : IsFresh site p.tree root pods)
    (hreached : ∀ pod ∈ pods, IsReached site pod) (haside : EventsAside ns)
    (hnames : site.cluster.podNames ns selector = .ok pods) :
    let moments := trace site p (script site.cluster (some ns))
    let tree := (performAll site p (script site.cluster (some ns))).tree
    OnePerPod root pods tree ∧ ∀ pod ∈ pods, PodDirectory site ns root moments pod tree := by
  have hwalk := File.walk_of_stat h.found
  have hdirectories : ∀ pod ∈ pods, PodDirectory site ns root
      (trace site p (script site.cluster (some ns))) pod
      (performAll site p (script site.cluster (some ns))).tree := by
    intro pod hpod
    have hawaits := awaits_objects hwalk h.sound h.missing h.named haside
    rw [script_listed hnames, Operation.performAll_append, Operation.performAll_cons]
    refine (podDirectory_rounds (p := (Operation.ask _).perform site _) h.nodup h.named hreached
      hawaits pod hpod).mono (fun _ => rfl) fun s hs outcome => ?_
    rw [Operation.mem_trace_append (operation_not_mem_objectsScript (h.named pod hpod) hs),
      Operation.trace, List.mem_cons, or_iff_right]
    intro hmoment
    cases congrArg Prod.fst hmoment
  refine ⟨fun name => ⟨fun hfound => ?_, fun hname => (hdirectories name hname).made⟩,
    hdirectories⟩
  rw [script_listed hnames] at hfound
  rcases Operation.directory_of_performAll hwalk _ hfound with hbefore | hmade
  · rw [List.append_cons, h.sound.closed.below h.missing] at hbefore
    cases hbefore
  · obtain ⟨op, hop, hmay⟩ := placesBy_append.1 hmade
    exact mem_of_directories h.named haside hop hmay

/-- Without a namespace the exporter is not looked into at all. With one, the objects of the
namespace and the list of its pods are requested, and where there is a list, then each pod on it has
its turn with its six requests and its six steps in the tally. The result of a turn is the number of
the steps that wrote something.

In a bundle that has nothing of any pod yet, every pod gets a directory of its own, and the files in
it are those of the steps that wrote something. Two things can keep it from being so: a path to the
directory of a pod that is too long, and a file for the events that is itself in a directory below
the one of all pods. -/
theorem exporter_fans_out (site : Site) (p : Progress) :
    let idle := ((Collect.exporter none).on site p).2
    (idle.calls = p.calls ∧ idle.tally = p.tally ∧ idle.tree = p.tree) ∧ ∀ ns,
      let names := site.cluster.podNames ns selector
      let q := ((Collect.exporter (some ns)).on site p).2
      Cluster.NamesRead "pod" Cluster.Objects.pod selector
          (site.cluster.answer (Cluster.listing "pod" ns selector)) names ∧
        Looked p ns names q ∧
        (∀ set r, LooksInto site r ns set ((Collect.pod ns set).on site r).1
          ((Collect.pod ns set).on site r).2) ∧
        ∀ pods root, names = .ok pods → IsFresh site p.tree root pods →
          (∀ pod ∈ pods, IsReached site pod) → EventsAside ns →
          OnePerPod root pods q.tree ∧
            ∀ pod ∈ pods, PodDirectory site ns root
              (trace site p (script site.cluster (some ns))) pod q.tree := by
  refine ⟨⟨rfl, rfl, rfl⟩, fun ns => ⟨Cluster.read_names _ _ _ _ _, looked_exporter site p ns,
    fun set r => looksInto_pod site r ns set, fun pods root hnames hfresh hreached haside => ?_⟩⟩
  obtain ⟨-, hsilent⟩ := @Performs.exporter site p (some ns)
  obtain ⟨htree, -⟩ := Progress.silent_eq_iff.1 hsilent
  rw [htree]
  exact hfresh.podDirectories hreached haside hnames

/-! ### Clusters that list pods -/

/-- A cluster that answers every request for a document alike, and every other request alike. -/
def clusterListing (listing : String) (answer : Except Failure Bytes) : Cluster where
  answer
    | .get query => if query.format = .json then .ok (Utf8.encode listing) else answer
    | _ => answer

/-- A bundle with nothing in it. -/
def bare : Tree := Tree.empty.insert ["b"] .directory

theorem bare_sound : bare.Sound :=
  @File.Tree.Sound.insert _ [] "b" .empty rfl (by decide) (by decide) (by decide) _

/-- Two pods of which nothing is to be had. -/
def siteOfTwo : Site where
  cluster := clusterListing ("\x7b\"items\":[\x7b\"metadata\":\x7b\"name\":\"p\"\x7d\x7d," ++
    "\x7b\"metadata\":\x7b\"name\":\"p.q\"\x7d\x7d]\x7d") (.error (.commandFailed "oc" "1" ""))
  bundle := ⟨"/b"⟩

/-- The theorem at two pods all of whose requests fail: their directories are there and empty. -/
theorem exporter_fans_out_failing :
    let q := ((Collect.exporter (some "n")).on siteOfTwo { tree := bare }).2
    OnePerPod ["b"] ["p", "p.q"] q.tree ∧
      ∀ pod ∈ ["p", "p.q"], ∀ names, names ≠ [] →
        q.tree.find? (["b"] ++ directory :: pod :: names) = none := by
  have hnames : siteOfTwo.cluster.podNames "n" selector = .ok ["p", "p.q"] := by
    refine Cluster.names_of_sorted ?_ (by decide)
    decide +kernel
  have hfresh : IsFresh siteOfTwo bare ["b"] ["p", "p.q"] :=
    ⟨bare_sound, by rfl, by rfl, by decide, by decide⟩
  have hreached : ∀ pod ∈ ["p", "p.q"], IsReached siteOfTwo pod := by decide
  obtain ⟨-, -, -, hdirectories⟩ := (exporter_fans_out siteOfTwo { tree := bare }).2 "n"
  obtain ⟨hone, hinside⟩ := hdirectories _ ["b"] hnames hfresh hreached
    (eventsAside_of_isPiece (by decide))
  refine ⟨hone, fun pod hpod names hne => ?_⟩
  refine Option.eq_none_iff_forall_ne_some.2 fun entry hfound => ?_
  -- what is found there was the answer to a request, but none of a step is answered
  obtain ⟨s, hs, -, -, content, hanswer, -⟩ := ((hinside pod hpod).inside names hne entry).1 hfound
  simp only [podSteps, List.mem_cons, List.not_mem_nil, or_false] at hs
  rcases hs with rfl | rfl | rfl | rfl | rfl | rfl <;> cases hanswer

/-! ### Where a directory is missing or comes from elsewhere -/

/-- A path to a directory that is too long makes none. -/
theorem perform_of_not_isReached {site : Site} {pod : String} (hpod : IsObjectName pod)
    (h : ¬ IsReached site pod) (p : Progress) :
    ((Operation.makeDirectory pod (Path.join directory pod)).perform site p).tree = p.tree := by
  have hlong := Nat.not_lt.1 h
  have hempty : Path.join site.bundle.root (Path.join directory pod) ≠ "" := by
    intro hpath
    rw [hpath] at hlong
    exact absurd hlong (by decide)
  rw [Operation.perform_tree, Operation.accesses, Bundle.performAll_createDirectoryAccesses]
  unfold Bundle.createDirectory
  rw [Bundle.resolve_of_accepts _ (accepts_podDirectory hpod)]
  cases hfault : File.textFault? (Path.join site.bundle.root (Path.join directory pod)) with
  | none => exact absurd (File.length_lt_of_textFault? hfault) (Nat.not_lt.2 hlong)
  | some fault => simp only [File.createAll_of_fault hempty hfault]

theorem perform_of_unanswered {site : Site} {mode : Collect.Mode} {step : Step} {output : String}
    {call : Cluster.Call} {failure : Failure} (h : site.cluster.answer call = .error failure)
    (p : Progress) : ((Operation.collect mode step output call).perform site p).tree = p.tree := by
  rw [Operation.perform_tree, Operation.accesses, h]
  rfl

/-- No pods, in a cluster that answers everything. -/
def siteOfEvents : Site := ⟨clusterListing "\x7b\"items\":[]\x7d" (.ok []), ⟨"/b"⟩⟩

/-- One pod of which nothing is to be had, and a long path to the bundle. -/
def siteAfar : Site where
  cluster := clusterListing "\x7b\"items\":[\x7b\"metadata\":\x7b\"name\":\"p\"\x7d\x7d]\x7d"
    (.error (.commandFailed "oc" "1" ""))
  bundle := ⟨Bundle.slashes 4090 ++ "b"⟩

/-- Slashes in front of a path to a bundle do no harm, up to a number of them. -/
theorem stat_slashes (count : Nat) (h : count + 1 < File.pathLimit) :
    File.stat bare (Bundle.slashes count ++ "b") = .ok (["b"], .directory) := by
  have hsteps : Path.steps (Bundle.slashes count ++ "b") = ["b"] := Bundle.steps_slashes count "b"
  have hpath : components (Bundle.slashes count ++ "b") = ["b"] := by
    rw [← Path.filter_steps, hsteps]
    rfl
  have hlength : (Utf8.encode (Bundle.slashes count ++ "b")).length = count + 1 := by
    rw [Utf8.encode_append, List.length_append, Bundle.length_encode_slashes]
    rfl
  have htext : File.textFault? (Bundle.slashes count ++ "b") = none := by
    refine Option.eq_none_iff_forall_ne_some.2 fun fault hfault => ?_
    have hlong := File.tooLong_of_clean (by rw [hpath]; decide)
      (@Path.ne_empty_of_components _ "b" [] hpath) hfault
    omega
  unfold File.stat
  rw [File.locate_of_no_fault htext, File.spotOf, hsteps]
  rfl

theorem not_isReached_siteAfar : ¬ IsReached siteAfar "p" := by
  have hroot : (Utf8.encode siteAfar.bundle.root).length = 4091 := by
    rw [siteAfar, Utf8.encode_append, List.length_append, Bundle.length_encode_slashes]
    rfl
  have hpod : (Utf8.encode (Path.join directory "p")).length = 13 := by decide
  have hlength := @Bundle.length_le_join siteAfar.bundle.root (Path.join directory "p") (by decide)
  rw [hroot, hpod] at hlength
  exact Nat.not_lt.2 (Nat.le_trans (by decide) hlength)

/-- Where nothing is answered and the directory cannot be made, the bundle stays bare. -/
theorem performAll_siteAfar :
    (performAll siteAfar { tree := bare } (objectsScript "n" ++
      .ask (Cluster.listing "pod" "n" selector) :: rounds "n" ["p"])).tree = bare := by
  refine Operation.performAll_tree_of_idle fun op hop p => ?_
  rcases List.mem_append.1 hop with hop | hop
  · simp only [objectsScript, objects, List.flatMap_cons, List.flatMap_nil, List.cons_append,
      List.nil_append, List.mem_cons, List.not_mem_nil, or_false] at hop
    rcases hop with rfl | rfl | rfl | rfl | rfl <;> exact perform_of_unanswered rfl p
  rcases List.mem_cons.1 hop with rfl | hop
  · rfl
  rw [rounds, List.flatMap_singleton, podScript_eq] at hop
  rcases List.mem_cons.1 hop with rfl | hop
  · exact perform_of_not_isReached (by decide) not_isReached_siteAfar p
  · simp only [podSteps, List.map_cons, List.map_nil, List.mem_cons, List.not_mem_nil,
      or_false] at hop
    rcases hop with rfl | rfl | rfl | rfl | rfl | rfl <;> exact perform_of_unanswered rfl p

/-- A file for the events that is in a directory below that of all pods, and a directory of a pod
with a path that is too long. -/
theorem one_per_pod_fails :
    (IsFresh siteOfEvents bare ["b"] [] ∧
      siteOfEvents.cluster.podNames "kepler-info/x/y" selector = .ok [] ∧
      ¬ OnePerPod ["b"] []
        ((Collect.exporter (some "kepler-info/x/y")).on siteOfEvents { tree := bare }).2.tree) ∧
    (IsFresh siteAfar bare ["b"] ["p"] ∧
      siteAfar.cluster.podNames "n" selector = .ok ["p"] ∧
      ¬ OnePerPod ["b"] ["p"]
        ((Collect.exporter (some "n")).on siteAfar { tree := bare }).2.tree) := by
  have htree : ∀ site ns, ((Collect.exporter (some ns)).on site { tree := bare }).2.tree =
      (performAll site { tree := bare } (script site.cluster (some ns))).tree := fun site ns =>
    (Progress.silent_eq_iff.1 (@Performs.exporter site { tree := bare } (some ns)).2).1
  have hnone : siteOfEvents.cluster.podNames "kepler-info/x/y" selector = .ok [] :=
    ok_of_toOption (by decide +kernel)
  have hone : siteAfar.cluster.podNames "n" selector = .ok ["p"] :=
    ok_of_toOption (by decide +kernel)
  refine ⟨⟨⟨bare_sound, by rfl, by rfl, by decide, by decide⟩, hnone, fun hper => ?_⟩,
    ⟨bare_sound, stat_slashes 4090 (by decide), by rfl, by decide, by decide⟩, hone, fun hper => ?_⟩
  · have hfound : (performAll siteOfEvents { tree := bare }
        (objectsScript "kepler-info/x/y" ++
          [.ask (Cluster.listing "pod" "kepler-info/x/y" selector)])).tree.find?
            ["b", "kepler-info", "x"] = some .directory := by decide +kernel
    rw [htree, script_listed hnone] at hper
    exact absurd ((hper "x").1 hfound) (by decide)
  · rw [htree, script_listed hone] at hper
    have hmade := (hper "p").2 (List.mem_singleton_self _)
    rw [performAll_siteAfar] at hmade
    cases hmade

end Exporter

end ClusterBundle
