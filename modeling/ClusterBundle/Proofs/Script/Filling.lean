import ClusterBundle.Proofs.Bundle.Directory
import ClusterBundle.Proofs.Run.Gates
import ClusterBundle.Proofs.Script.FanOut
import ClusterBundle.Proofs.Script.Outputs

/-!
Steps that fill a directory.

In a directory that is there, a step either writes its file or leaves everything as it is. So steps
with names of their own can be looked at one by one: in the end the directory has got the files of
those that came out as written, each with the answer to the request of its step.
-/

namespace ClusterBundle

open File (Place Tree walk)
open Operation (performAll trace)
open ClusterBundle.Path (components)

namespace Operation

variable {site : Site} {p : Progress}

theorem sound_perform (h : p.tree.Sound) (op : Operation) : (op.perform site p).tree.Sound := by
  rw [perform_tree]
  exact File.Access.sound_performAll h _

theorem sound_performAll (h : p.tree.Sound) (ops : List Operation) :
    (performAll site p ops).tree.Sound := by
  rw [performAll_tree]
  exact File.Access.sound_performAll h _

/-- Operations that do nothing to any tree leave it as it is. -/
theorem performAll_tree_of_idle {ops : List Operation}
    (h : ∀ op ∈ ops, ∀ q : Progress, (op.perform site q).tree = q.tree) :
    (performAll site p ops).tree = p.tree := by
  induction ops generalizing p with
  | nil => rfl
  | cons op ops ih =>
      obtain ⟨hop, hops⟩ := List.forall_mem_cons.1 h
      rw [performAll_cons, ih hops, hop]

/-- What is not among some operations does not matter for their trace. -/
theorem mem_trace_append {front rest : List Operation} {moment : Operation × Option Outcome}
    (h : moment.1 ∉ front) :
    moment ∈ trace site p (front ++ rest) ↔
      moment ∈ trace site (performAll site p front) rest := by
  rw [trace_append, List.mem_append, or_iff_right fun hmem => h (fst_mem_of_mem_trace hmem)]

end Operation

namespace FileStep

/-- At one of some moments a step put the answer to its request into its file. -/
def Wrote (site : Site) (directory : String) (moments : List (Operation × Option Outcome))
    (s : FileStep) (entry : File.Entry) : Prop :=
  (s.operation directory, some Outcome.written) ∈ moments ∧
    ∃ content, site.cluster.answer s.call = .ok content ∧ entry = .file content

/-- What steps make of a directory that has nothing in the places of their files: each file that was
written is there, no other is, and everything else is as it was. -/
structure Filled (site : Site) (directory : String) (place : Place) (steps : List FileStep)
    (moments : List (Operation × Option Outcome)) (before after : Tree) : Prop where
  file : ∀ s ∈ steps, ∀ entry,
    after.find? (place ++ [s.name]) = some entry ↔ s.Wrote site directory moments entry
  others : ∀ here, (∀ s ∈ steps, here ≠ place ++ [s.name]) → after.find? here = before.find? here

variable {site : Site} {p : Progress} {root : Place} {directory : String} {s : FileStep}
  {steps : List FileStep}

/-- Steps for different files are different operations. -/
theorem operation_ne {other : FileStep} (hname : Bundle.IsPlainName s.name)
    (hother : Bundle.IsPlainName other.name) (hne : s.name ≠ other.name) :
    s.operation directory ≠ other.operation directory := by
  intro heq
  have hpath : Path.join directory s.name = Path.join directory other.name := by
    injection heq
  have hcomponents := congrArg components hpath
  rw [Bundle.components_join_plain directory hname,
    Bundle.components_join_plain directory hother] at hcomponents
  exact hne (List.cons.inj (List.append_cancel_left hcomponents)).1

/-- Filling with one step and then with others, which have other files. -/
theorem Filled.cons {place : Place} {before middle after : Tree} {outcome : Option Outcome}
    {moments : List (Operation × Option Outcome)}
    (hfirst : Filled site directory place [s] [(s.operation directory, outcome)] before middle)
    (hrest : Filled site directory place steps moments middle after)
    (hne : ∀ other ∈ steps, other.name ≠ s.name)
    (hother : ∀ other ∈ steps, other.operation directory ≠ s.operation directory)
    (hmoments : ∀ moment ∈ moments, moment.1 ≠ s.operation directory) :
    Filled site directory place (s :: steps) ((s.operation directory, outcome) :: moments)
      before after := by
  refine ⟨List.forall_mem_cons.2 ⟨fun entry => ?_, fun other hmem entry => ?_⟩,
    fun here hhere => ?_⟩
  · rw [hrest.others _ fun other hmem hsame => hne other hmem (by simpa using hsame.symm),
      hfirst.file s (List.mem_singleton_self s)]
    unfold Wrote
    rw [List.mem_singleton, List.mem_cons, or_iff_left fun hmem => hmoments _ hmem rfl]
  · rw [hrest.file other hmem]
    unfold Wrote
    rw [List.mem_cons, or_iff_right fun hsame => hother other hmem (congrArg Prod.fst hsame)]
  · obtain ⟨hs, hothers⟩ := List.forall_mem_cons.1 hhere
    rw [hrest.others here hothers, hfirst.others here fun other hmem => ?_]
    rwa [List.mem_singleton.1 hmem]

section

variable (haccepts : Bundle.accepts directory = true)
  (hroot : walk p.tree [] (components site.bundle.root) = .ok root)
  (hsound : p.tree.Sound) (hopen : p.tree.Open (root ++ components directory))

include haccepts hroot hsound hopen

/-- One step either writes its file or leaves everything as it is. -/
theorem filled_perform (hname : Bundle.IsPlainName s.name)
    (hfree : p.tree.find? (root ++ components directory ++ [s.name]) = none)
    (hstaging : p.tree.find? (root ++ components directory ++ [Bundle.stagingName s.name]) =
      none) :
    Filled site directory (root ++ components directory) [s]
      [(s.operation directory, (s.operation directory).outcome? site p)] p.tree
      ((s.operation directory).perform site p).tree := by
  have houtcome := @Operation.collect_written site p s.step (Path.join directory s.name) s.call
  have hwrote : ∀ entry,
      s.Wrote site directory [(s.operation directory, (s.operation directory).outcome? site p)]
          entry ↔
        (s.operation directory).outcome? site p = some .written ∧
          ∃ content, site.cluster.answer s.call = .ok content ∧ entry = .file content := by
    intro entry
    simp [Wrote, eq_comm]
  -- what is left to show in the case that nothing was written
  have hspared : (s.operation directory).outcome? site p ≠ some .written →
      (∀ here, ((s.operation directory).perform site p).tree.find? here = p.tree.find? here) →
      Filled site directory (root ++ components directory) [s]
        [(s.operation directory, (s.operation directory).outcome? site p)] p.tree
        ((s.operation directory).perform site p).tree := by
    intro hunwritten hsame
    refine ⟨fun other hother entry => ?_, fun here _ => hsame here⟩
    obtain rfl := List.mem_singleton.1 hother
    rw [hwrote, hsame, hfree]
    exact ⟨fun h => absurd h (by simp), fun h => absurd h.1 hunwritten⟩
  cases hanswer : site.cluster.answer s.call with
  | error failure =>
      refine hspared (fun hwritten => ?_) fun here => ?_
      · obtain ⟨content, hcontent, -⟩ := houtcome.1 hwritten
        rw [hanswer] at hcontent
        cases hcontent
      · rw [operation, Operation.perform_tree, Operation.accesses, hanswer]
        rfl
  | ok content =>
      have htree : ((s.operation directory).perform site p).tree =
          (site.bundle.write p.tree (Path.join directory s.name) content).2 := by
        rw [operation, Operation.perform_tree, Operation.accesses, hanswer]
        exact Bundle.performAll_writeAccesses _ _ _ _
      have hwritten : (s.operation directory).outcome? site p = some .written ↔
          (site.bundle.write p.tree (Path.join directory s.name) content).1.toBool = true := by
        refine houtcome.trans ⟨?_, fun htaken => ⟨content, hanswer, htaken⟩⟩
        rintro ⟨same, hsame, htaken⟩
        rw [hanswer] at hsame
        cases hsame
        exact htaken
      have hwrite := Bundle.write_of_open hroot (Bundle.accepts_join haccepts hname) hsound
        (Bundle.components_join_plain directory hname) hopen hstaging content
      rcases hresult : site.bundle.write p.tree (Path.join directory s.name) content with
        ⟨fault | full, after⟩
      · rw [hresult] at hwrite htree hwritten
        refine hspared (fun h => absurd (hwritten.1 h) (by simp [Except.toBool])) fun here => ?_
        rw [htree]
        exact hwrite here
      · rw [hresult] at hwrite htree hwritten
        refine ⟨fun other hother entry => ?_, fun here hhere => ?_⟩
        · obtain rfl := List.mem_singleton.1 hother
          rw [hwrote, hwritten, htree, hwrite, if_pos rfl, hanswer]
          simp [Except.toBool, eq_comm]
        · rw [htree, hwrite, if_neg (hhere s (List.mem_singleton_self s))]

/-- Several steps fill the directory one after the other. The induction is on the steps; those that
are still to come find the places of their files and of their staging files free. -/
theorem filled_performAll (hnames : ∀ s ∈ steps, Bundle.IsPlainName s.name)
    (hnodup : (steps.map FileStep.name).Nodup)
    (hfree : ∀ s ∈ steps, p.tree.find? (root ++ components directory ++ [s.name]) = none ∧
      p.tree.find? (root ++ components directory ++ [Bundle.stagingName s.name]) = none) :
    Filled site directory (root ++ components directory) steps
      (trace site p (steps.map (operation directory))) p.tree
      (performAll site p (steps.map (operation directory))).tree := by
  induction steps generalizing p with
  | nil => exact ⟨fun _ h => absurd h (List.not_mem_nil), fun _ _ => rfl⟩
  | cons s rest ih =>
      obtain ⟨hname, hplain⟩ := List.forall_mem_cons.1 hnames
      obtain ⟨⟨hfile, hstaging⟩, hlater⟩ := List.forall_mem_cons.1 hfree
      obtain ⟨hdistinct, hnodup⟩ := List.nodup_cons.1 hnodup
      have hne : ∀ other ∈ rest, other.name ≠ s.name := fun other hother hsame =>
        hdistinct (hsame ▸ List.mem_map_of_mem hother)
      have hother : ∀ other ∈ rest, other.operation directory ≠ s.operation directory :=
        fun other hmem => operation_ne (hplain other hmem) hname (hne other hmem)
      have hfirst := filled_perform haccepts hroot hsound hopen hname hfile hstaging
      -- everything but the file of the first step looks as before
      have hkept : ∀ here, here ≠ root ++ components directory ++ [s.name] →
          ((s.operation directory).perform site p).tree.find? here = p.tree.find? here := by
        refine fun here hhere => hfirst.others here fun other hmem => ?_
        rwa [List.mem_singleton.1 hmem]
      have hchange := Operation.change_perform hroot (s.operation directory)
      refine hfirst.cons (ih (hchange.walk hroot)
        (Operation.sound_perform hsound _)
        (fun front hfront => hchange.kept front (hopen front hfront)) hplain hnodup
        fun other hmem => ?_) hne hother fun moment hmem => ?_
      · obtain ⟨hfree, hstaged⟩ := hlater other hmem
        refine ⟨?_, ?_⟩
        · rw [hkept _ (by simpa using hne other hmem), hfree]
        · rw [hkept _ (by simpa using Bundle.stagingName_ne hname.2), hstaged]
      · obtain ⟨other, hmem, hsame⟩ := List.mem_map.1 (Operation.fst_mem_of_mem_trace hmem)
        exact hsame ▸ hother other hmem

end

end FileStep

end ClusterBundle
