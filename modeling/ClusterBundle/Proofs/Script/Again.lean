import ClusterBundle.Proofs.Bundle.Again
import ClusterBundle.Proofs.Script.Outputs

/-!
Performing operations again.

A second run goes through the same operations as the first, in the tree that the first one left. The
two are compared operation by operation. `Retraced` is what holds between them at each point: they
have tallied the same and made the same requests, and every place looks in the second run as it did
in the end of the first, or as it did at the same point of the first. A file that is replaced is
then replaced by the same content. A file that is added to needs more: it has to be emptied in both
runs before, or not be there to be added to in either.
-/

namespace ClusterBundle

open File (Place Tree walk)
open ClusterBundle.Path (components)
open Collect (Mode)
open ClusterBundle.Bundle (Tidy Stageable)

/-- Every place looks as in the last tree or as in an earlier one. -/
def File.Tree.Between (last earlier later : Tree) : Prop :=
  ∀ place, later.find? place = last.find? place ∨ later.find? place = earlier.find? place

/-- What the tree of a bundle is like as long as the bundle is worked with. -/
structure Bundle.Stands (bundle : Bundle) (root : Place) (tree : Tree) : Prop where
  closed : tree.Closed
  walk : walk tree [] (components bundle.root) = .ok root

namespace Bundle

variable {bundle : Bundle} {tree grown last later : Tree} {root : Place} {output : String}
  {mode : Mode} {content : Bytes} {result : Except Fault String}

/-- Places where nothing is put stay between the trees. -/
theorem between_aside (haside : ∀ place, Aside place (tree.find? place) (grown.find? place))
    (hlast : grown.Grown last) (hlater : last.Grown later) (h : last.Between tree later) :
    last.Between grown later := by
  intro place
  rcases h place with hsame | hsame
  · exact .inl hsame
  · exact (haside place).again (hlast place) (hlater place) hsame

section

variable (htidy : Tidy output) (hstands : bundle.Stands root tree)
  (h : mode.put output content bundle tree = (result, grown)) (hlast : grown.Grown last)
  (hlater : last.Grown later) (hbetween : last.Between tree later)
  (hlevel : mode = .append → result.toBool = true →
    later.content? (root ++ components output) = tree.content? (root ++ components output))

include htidy hstands h hlast hlater

/-- The tree of the second run goes on growing. -/
theorem grown_put_again : last.Grown (mode.put output content bundle later).2 := by
  obtain ⟨-, hplaces⟩ := put_again htidy hstands.walk hstands.closed h (hlast.trans hlater) content
  refine hlater.trans fun place => ?_
  rw [hplaces]
  split
  · -- the file is there since the first run
    rename_i hfile
    obtain ⟨hok, rfl⟩ := hfile
    have hfilled := (put_grown htidy hstands.walk h).2.2 hok
    have hplace := @Tidy.not_isStaged root _ htidy
    obtain ⟨other, hthere⟩ := (hlast.trans hlater).file hfilled hplace
    exact .inr ⟨hplace, by simp [hthere], _, rfl⟩
  · exact .refl place _

include hbetween hlevel

theorem between_put : last.Between grown (mode.put output content bundle later).2 := by
  obtain ⟨-, hplaces⟩ := put_again htidy hstands.walk hstands.closed h (hlast.trans hlater) content
  obtain ⟨-, haside, hfilled⟩ := put_grown htidy hstands.walk h
  intro place
  rw [hplaces]
  split
  · rename_i hfile
    obtain ⟨hok, rfl⟩ := hfile
    rw [hfilled hok]
    refine .inr ?_
    cases mode with
    | replace => rfl
    | append => rw [Mode.merge, Mode.merge, hlevel rfl hok]
  · rename_i hother
    rcases hbetween place with hsame | hsame
    · exact .inl hsame
    · exact (haside place fun hok hplace => hother ⟨hok, hplace⟩).again (hlast place)
        (hlater place) hsame

end

/-- What is put into a file in both runs leaves it with the same content in both. -/
theorem content?_put (htidy : Tidy output) (hstands : bundle.Stands root tree)
    (h : mode.put output content bundle tree = (result, grown)) (hlater : grown.Grown later)
    (hlevel : (mode = .replace ∧ result.toBool = true) ∨
      later.content? (root ++ components output) = tree.content? (root ++ components output)) :
    (mode.put output content bundle later).2.content? (root ++ components output) =
      grown.content? (root ++ components output) := by
  have hagain := (put_again htidy hstands.walk hstands.closed h hlater content).2
    (root ++ components output)
  obtain ⟨-, haside, hfilled⟩ := put_grown htidy hstands.walk h
  cases hresult : result.toBool with
  | true =>
      refine File.Tree.content?_congr ?_
      rw [hagain, if_pos ⟨hresult, rfl⟩, hfilled hresult]
      rcases hlevel with ⟨rfl, -⟩ | hsame
      · rfl
      · rw [hsame]
  | false =>
      -- nothing was put there in either run
      rcases hlevel with ⟨-, hok⟩ | hsame
      · rw [hresult] at hok
        cases hok
      · rw [if_neg fun hok => by simp [hresult] at hok] at hagain
        rw [File.Tree.content?_congr hagain, hsame]
        exact ((haside _ fun hok => by simp [hresult] at hok).content? htidy.not_isStaged).symm

/-- Where a file was put last, something else can be put in its place, as though it had been put
there at once. -/
theorem replace_again (htidy : Tidy output) (hstands : bundle.Stands root tree)
    (h : bundle.write tree output content = (result, last)) (hlater : last.Grown later)
    (hbetween : last.Between tree later) (again : Bytes) :
    (bundle.write later output again).1 = result ∧
      ∀ place, (bundle.write later output again).2.find? place =
        (bundle.write tree output again).2.find? place := by
  obtain ⟨hresult, hplaces⟩ :=
    @put_again _ _ _ _ _ _ .replace _ _ htidy hstands.walk hstands.closed h hlater again
  obtain ⟨hother, hothers⟩ := @put_other _ _ _ _ _ .replace _ _ htidy hstands.walk h again
  obtain ⟨-, haside, -⟩ := @put_grown _ _ _ _ _ .replace _ _ htidy hstands.walk h
  obtain ⟨-, -, hfilled⟩ := @put_grown _ _ _ _ _ .replace again _ htidy hstands.walk
    (Prod.ext hother rfl)
  refine ⟨hresult, fun place => (hplaces place).trans ?_⟩
  split
  · rename_i hfile
    obtain ⟨hok, rfl⟩ := hfile
    exact (hfilled hok).symm
  · rename_i hfile
    have hplace : result.toBool = true → place ≠ root ++ components output :=
      fun hok heq => hfile ⟨hok, heq⟩
    refine Eq.trans ?_ (hothers place hplace).symm
    rcases hbetween place with hsame | hsame
    · exact hsame
    · exact ((haside place hplace).again (.refl place _) (hlater place) hsame).elim id id

end Bundle

namespace Operation

variable {site : Site} {p q : Progress} {root : Place} {last : Tree} {op : Operation}
  {ops more : List Operation}

/-- What an operation puts into the bundle, in which way, and where. -/
def given? (site : Site) : Operation → Option (Mode × String × Bytes)
  | .collect mode _ output call =>
      match site.cluster.answer call with
      | .ok content => some (mode, output, content)
      | .error _ => none
  | .save _ output content => some (.replace, output, content)
  | .reset output => some (.replace, output, [])
  | _ => none

/-- What an operation does to a tree. -/
def alter (site : Site) (tree : Tree) (op : Operation) : Tree :=
  match op, op.given? site with
  | .makeDirectory _ path, _ => (site.bundle.createDirectory tree path).2
  | _, some (mode, output, content) => (mode.put output content site.bundle tree).2
  | _, none => tree

theorem alter_of_given? {tree : Tree} {mode : Mode} {output : String} {content : Bytes}
    (h : op.given? site = some (mode, output, content)) :
    op.alter site tree = (mode.put output content site.bundle tree).2 := by
  cases op with
  | makeDirectory => cases h
  | collect | save | reset | skip | fail | ask | reread => simp only [alter, h]

theorem perform_alter (op : Operation) : (op.perform site p).tree = op.alter site p.tree := by
  cases op with
  | collect mode step output call =>
      simp only [perform, act, alter, given?, Collect.on_bind, Collect.on_ask, Collect.on_pure]
      cases site.cluster.answer call with
      | error failure => rw [Collect.finish_tree_error]
      | ok content => rw [Collect.finish_tree]
  | save step output content =>
      simp only [perform, act, alter, given?, Collect.write, Collect.on_map]
      rw [Collect.finish_tree]
  | skip step reason | fail step reason | ask call | reread path => rfl
  | makeDirectory pod path =>
      simp only [perform, act, alter, Collect.podDirectory, Collect.on_bind, Collect.on_inTree]
      cases (site.bundle.createDirectory p.tree path).1 <;> rfl
  | reset path =>
      simp only [perform, act, alter, given?, Collect.resetSummary, Collect.on_bind,
        Collect.on_inTree]
      cases (site.bundle.write p.tree path []).1 <;> rfl

theorem finish_alike {mode : Mode} {step : Step} {output : String}
    {answer : Except Cluster.Failure Bytes} (htally : q.tally = p.tally)
    (hput : ∀ content, answer = .ok content →
      (mode.put output content site.bundle q.tree).1 =
        (mode.put output content site.bundle p.tree).1) :
    ((Collect.finish mode step output answer).on site q).1 =
        ((Collect.finish mode step output answer).on site p).1 ∧
      ((Collect.finish mode step output answer).on site q).2.tally =
        ((Collect.finish mode step output answer).on site p).2.tally := by
  cases answer with
  | error failure =>
      cases habsent : failure.isNotFound with
      | true => simp [Collect.on_finish_absent _ _ _ habsent, htally]
      | false => simp [Collect.on_finish_failed _ _ _ habsent, htally]
  | ok content =>
      have hresult := hput content rfl
      rcases hq : mode.put output content site.bundle q.tree with ⟨fault | path, tree⟩
      · rcases hp : mode.put output content site.bundle p.tree with ⟨other | path, before⟩
        · rw [hq, hp] at hresult
          cases hresult
          simp [Collect.on_finish_refused step hq, Collect.on_finish_refused step hp, htally]
        · rw [hq, hp] at hresult
          cases hresult
      · rcases hp : mode.put output content site.bundle p.tree with ⟨other | path, before⟩
        · rw [hq, hp] at hresult
          cases hresult
        · rw [hq, hp] at hresult
          cases hresult
          simp [Collect.on_finish_written step hq, Collect.on_finish_written step hp, htally]

/-- An operation comes out alike if what it puts into the bundle does. -/
theorem outcome?_alike (htally : q.tally = p.tally)
    (hput : ∀ mode output content, op.given? site = some (mode, output, content) →
      (mode.put output content site.bundle q.tree).1 =
        (mode.put output content site.bundle p.tree).1) :
    op.outcome? site q = op.outcome? site p ∧
      (op.perform site q).tally = (op.perform site p).tally := by
  cases op with
  | collect mode step output call =>
      have hasked : ((Collect.ask call).on site q).2.tally =
          ((Collect.ask call).on site p).2.tally := by simp [htally]
      have hanswer : ∀ content, site.cluster.answer call = .ok content →
          (mode.put output content site.bundle q.tree).1 =
            (mode.put output content site.bundle p.tree).1 := fun content hcontent =>
        hput mode output content (by simp only [given?, hcontent])
      obtain ⟨hout, hrest⟩ := @finish_alike site _ _ mode step output _ hasked hanswer
      exact ⟨by simpa [outcome?, act] using hout, by simpa [perform, act] using hrest⟩
  | save step output content =>
      have hsaved : ∀ given, (.ok content : Except Cluster.Failure Bytes) = .ok given →
          (Mode.replace.put output given site.bundle q.tree).1 =
            (Mode.replace.put output given site.bundle p.tree).1 := by
        rintro given hgiven
        cases hgiven
        exact hput _ _ _ rfl
      obtain ⟨hout, hrest⟩ := @finish_alike site p q .replace step output _ htally hsaved
      exact ⟨by simpa [outcome?, act, Collect.write] using hout,
        by simpa [perform, act, Collect.write] using hrest⟩
  | skip step reason | fail step reason | ask call => simp [outcome?, perform, act, htally]
  | makeDirectory pod path =>
      refine ⟨rfl, ?_⟩
      simp only [perform, act, Collect.podDirectory, Collect.on_bind, Collect.on_inTree]
      cases (site.bundle.createDirectory q.tree path).1 <;>
        cases (site.bundle.createDirectory p.tree path).1 <;> simp [htally]
  | reset path =>
      refine ⟨rfl, ?_⟩
      simp only [perform, act, Collect.resetSummary, Collect.on_bind, Collect.on_inTree]
      cases (site.bundle.write q.tree path []).1 <;>
        cases (site.bundle.write p.tree path []).1 <;> simp [htally]
  | reread path => exact ⟨rfl, htally⟩

theorem output?_of_given? {mode : Mode} {output : String} {content : Bytes}
    (h : op.given? site = some (mode, output, content)) : op.output? = some output := by
  cases op with
  | collect other step path call =>
      simp only [given?] at h
      split at h <;> cases h
      rfl
  | save step path given =>
      cases h
      rfl
  | reset path =>
      cases h
      rfl
  | skip | fail | ask | makeDirectory | reread => cases h

/-! ### A run in itself -/

section

variable (hstands : site.bundle.Stands root p.tree)

include hstands

theorem perform_grown (hop : ∀ path, op.output? = some path → Tidy path) :
    site.bundle.Stands root (op.perform site p).tree ∧
      p.tree.Grown (op.perform site p).tree := by
  refine ⟨⟨?_, (change_perform hstands.walk op).walk hstands.walk⟩, ?_⟩
  · rw [perform_tree]
    exact File.Access.closed_performAll hstands.closed _
  rw [perform_alter]
  unfold alter
  split
  · exact .of_aside (Bundle.createDirectory_aside (hop _ rfl) hstands.walk)
  · rename_i mode output content _ hgiven
    exact (Bundle.put_grown (hop _ (output?_of_given? hgiven)) hstands.walk rfl).1
  · exact .refl _

theorem performAll_grown (hops : Puts Tidy ops) :
    site.bundle.Stands root (performAll site p ops).tree ∧
      p.tree.Grown (performAll site p ops).tree := by
  induction ops generalizing p with
  | nil => exact ⟨hstands, .refl _⟩
  | cons op ops ih =>
      obtain ⟨hop, hrest⟩ := List.forall_mem_cons.1 hops
      obtain ⟨hnext, hgrown⟩ := perform_grown hstands hop
      obtain ⟨hend, hgrownEnd⟩ := ih hnext hrest
      exact ⟨hend, hgrown.trans hgrownEnd⟩

/-- What holds of the tree in the end holds of it after the first operations. -/
theorem performAll_front (hops : Puts Tidy (ops ++ more))
    (hlast : (performAll site p (ops ++ more)).tree.Grown last) :
    site.bundle.Stands root (performAll site p ops).tree ∧
      (performAll site p ops).tree.Grown last := by
  obtain ⟨hfront, hback⟩ := List.forall_mem_append.1 hops
  obtain ⟨hbetween, -⟩ := performAll_grown hstands hfront
  rw [performAll_append] at hlast
  exact ⟨hbetween, (performAll_grown hbetween hback).2.trans hlast⟩

end

end Operation

/-! ### A second run beside the first -/

/-- A second run, started in the tree `last` that the first one leaves, has come as far as the first
one had at some point. -/
structure Retraced (last : Tree) (p q : Progress) : Prop where
  tally : q.tally = p.tally
  calls : q.calls = p.calls
  grown : last.Grown q.tree
  between : last.Between p.tree q.tree

namespace Operation

variable {site : Site} {p q : Progress} {root : Place} {last : Tree} {op : Operation}
  {ops more : List Operation} {path name : String} {around : List String}

/-- The file that an operation adds to. -/
def appended? : Operation → Option String
  | .collect .append _ output _ => some output
  | _ => none

theorem output?_of_appended? (h : op.appended? = some path) : op.output? = some path := by
  cases op with
  | collect mode step output call =>
      cases mode with
      | replace => cases h
      | append => exact h
  | save | reset | skip | fail | ask | makeDirectory | reread => cases h

theorem appended?_of_given? {content : Bytes}
    (h : op.given? site = some (.append, path, content)) : op.appended? = some path := by
  cases op with
  | collect mode step output call =>
      simp only [given?] at h
      split at h <;> cases h
      rfl
  | save | reset | skip | fail | ask | makeDirectory | reread => cases h

/-- What is added to a file is the answer to a request, if there is one. -/
theorem alter_of_appended? (h : op.appended? = some path) :
    (op.given? site = none ∧ ∀ tree, op.alter site tree = tree) ∨
      ∃ content, op.given? site = some (.append, path, content) ∧
        ∀ tree, op.alter site tree = (site.bundle.append tree path content).2 := by
  cases op with
  | collect mode step output call =>
      cases mode with
      | replace => cases h
      | append =>
          obtain rfl : output = path := Option.some.inj h
          cases hanswer : site.cluster.answer call with
          | error failure =>
              exact .inl (by simp only [alter, given?, hanswer, implies_true, and_self])
          | ok content =>
              have hgiven : (Operation.collect .append step output call).given? site =
                  some (.append, output, content) := by simp only [given?, hanswer]
              exact .inr ⟨content, hgiven, fun tree => alter_of_given? hgiven⟩
  | save | reset | skip | fail | ask | makeDirectory | reread => cases h

section

variable (h : Retraced last p q) (hstands : site.bundle.Stands root p.tree)

include h hstands

/-- One operation, in both runs. -/
theorem retraced_perform (hop : ∀ path, op.output? = some path → Tidy path)
    (hlast : (op.perform site p).tree.Grown last)
    (hlevel : ∀ output content, op.given? site = some (.append, output, content) →
      (site.bundle.append p.tree output content).1.toBool = true →
      q.tree.content? (root ++ components output) = p.tree.content? (root ++ components output)) :
    op.outcome? site q = op.outcome? site p ∧
      Retraced last (op.perform site p) (op.perform site q) := by
  rw [perform_alter] at hlast
  have halike : op.outcome? site q = op.outcome? site p ∧
      (op.perform site q).tally = (op.perform site p).tally := by
    refine outcome?_alike h.tally fun mode output content hgiven => ?_
    rw [alter_of_given? hgiven] at hlast
    exact (Bundle.put_again (hop _ (output?_of_given? hgiven)) hstands.walk hstands.closed rfl
      (hlast.trans h.grown) content).1
  refine ⟨halike.1, halike.2, by rw [perform_calls, perform_calls, h.calls], ?_, ?_⟩
  all_goals rw [perform_alter]
  · unfold alter at hlast ⊢
    split at hlast
    · rw [Bundle.createDirectory_again (hop _ rfl) hstands.walk hstands.closed rfl
        (hlast.trans h.grown)]
      exact h.grown
    · rename_i mode output content _ hgiven
      exact Bundle.grown_put_again (hop _ (output?_of_given? hgiven)) hstands rfl hlast h.grown
    · exact h.grown
  · rw [perform_alter]
    unfold alter at hlast ⊢
    split at hlast
    · have haside := Bundle.createDirectory_aside (hop _ rfl) hstands.walk
      rw [Bundle.createDirectory_again (hop _ rfl) hstands.walk hstands.closed rfl
        (hlast.trans h.grown)]
      exact Bundle.between_aside haside hlast h.grown h.between
    · rename_i mode output content _ hgiven
      refine Bundle.between_put (hop _ (output?_of_given? hgiven)) hstands rfl hlast h.grown
        h.between ?_
      rintro rfl hok
      exact hlevel _ _ hgiven hok
    · exact h.between

end

/-! ### A file that is emptied and then added to -/

section

variable (h : Retraced last p q) (hstands : site.bundle.Stands root p.tree) (htidy : Tidy path)
  (hops : ∀ op ∈ ops, op.appended? = some path)

include hstands htidy hops h

/-- Operations that add to one file. Either the file holds the same in both runs before each of
them, or nothing can be added to it in either. -/
theorem retraced_appended (hlast : (performAll site p ops).tree.Grown last)
    (hlevel : q.tree.content? (root ++ components path) =
        p.tree.content? (root ++ components path) ∨
      ∀ after, p.tree.Grown after → ∀ content,
        ∃ fault, site.bundle.append after path content = (.error fault, after)) :
    Retraced last (performAll site p ops) (performAll site q ops) := by
  induction ops generalizing p q with
  | nil => exact h
  | cons op ops ih =>
      obtain ⟨hop, hrest⟩ := List.forall_mem_cons.1 hops
      have hputs : Puts Tidy (op :: ops) := fun op hmem other hother => by
        rw [output?_of_appended? (hops op hmem)] at hother
        cases hother
        exact htidy
      obtain ⟨htidyOp, htidyRest⟩ := List.forall_mem_cons.1 hputs
      obtain ⟨hnext, hgrown⟩ := perform_grown hstands htidyOp
      have hlastOp := (performAll_grown hnext htidyRest).2.trans hlast
      have hlevelOp : ∀ output content, op.given? site = some (.append, output, content) →
          (site.bundle.append p.tree output content).1.toBool = true →
          q.tree.content? (root ++ components output) =
            p.tree.content? (root ++ components output) := by
        intro output content hgiven hok
        obtain rfl : path = output := Option.some.inj (hop.symm.trans (appended?_of_given? hgiven))
        rcases hlevel with hsame | hbarred
        · exact hsame
        · obtain ⟨fault, hfault⟩ := hbarred _ (.refl _) content
          rw [hfault] at hok
          cases hok
      refine ih (retraced_perform h hstands htidyOp hlastOp hlevelOp).2 hnext hrest hlast ?_
      rw [perform_alter] at hlastOp
      simp only [perform_alter]
      rcases @alter_of_appended? site _ _ hop with ⟨-, halter⟩ | ⟨content, -, halter⟩
      · rw [halter, halter]
        exact hlevel
      rw [halter] at hlastOp
      rw [halter, halter]
      rcases hlevel with hsame | hbarred
      · exact .inl (@Bundle.content?_put _ _ _ _ _ _ .append _ _ htidy hstands rfl
          (hlastOp.trans h.grown) (.inr hsame))
      · obtain ⟨fault, hfault⟩ := hbarred _ (.refl _) content
        rw [hfault]
        exact .inr hbarred

/-- A file is emptied first. If it cannot be, then it cannot be added to either, unless its staging
file is what stands in the way. -/
theorem retraced_remade (hpath : components path = around ++ [name])
    (hstageable : Stageable site.bundle p.tree root path around name)
    (hlast : (performAll site p (.reset path :: ops)).tree.Grown last) :
    Retraced last (performAll site p (.reset path :: ops))
      (performAll site q (.reset path :: ops)) := by
  have htidyReset : ∀ other, (Operation.reset path).output? = some other → Tidy other := by
    rintro other hother
    cases hother
    exact htidy
  have htidyRest : Puts Tidy ops := fun op hmem other hother => by
    rw [output?_of_appended? (hops op hmem)] at hother
    cases hother
    exact htidy
  obtain ⟨hnext, -⟩ := perform_grown hstands htidyReset
  rw [performAll_cons] at hlast ⊢
  rw [performAll_cons]
  have hlastReset := (performAll_grown hnext htidyRest).2.trans hlast
  have hreset := (retraced_perform h hstands htidyReset hlastReset
    fun output content hgiven => by cases hgiven).2
  refine retraced_appended hreset hnext htidy hops hlast ?_
  rw [perform_alter] at hlastReset
  simp only [perform_alter]
  rcases hwrite : site.bundle.write p.tree path [] with ⟨fault | full, grown⟩
  · have htree : (Operation.reset path).alter site p.tree = grown :=
      congrArg Prod.snd hwrite
    rw [htree]
    exact .inr fun after hafter content => Bundle.append_of_write_error htidy hstands.walk
      hstands.closed hpath hstageable hwrite hafter content
  · exact .inl (@Bundle.content?_put _ _ _ _ _ _ .replace _ _ htidy hstands rfl
      (hlastReset.trans h.grown) (.inl ⟨rfl, by
        show (site.bundle.write p.tree path []).1.toBool = true
        rw [hwrite]
        rfl⟩))

end

/-! ### Files that are replaced -/

section

variable (h : Retraced last p q) (hstands : site.bundle.Stands root p.tree)

include h hstands

/-- An operation that replaces a file. -/
theorem retraced_fill (hop : ∀ put, op.put? = some put → put.1 = .replace ∧ Tidy put.2)
    (hlast : (op.perform site p).tree.Grown last) :
    op.outcome? site q = op.outcome? site p ∧
      Retraced last (op.perform site p) (op.perform site q) := by
  refine retraced_perform h hstands (output?_of_put? hop) hlast fun output content hgiven => ?_
  -- nothing is added to a file here
  have happended := appended?_of_given? hgiven
  cases op with
  | collect mode step path call =>
      obtain rfl := (hop _ rfl).1
      cases happended
  | save | reset | makeDirectory | skip | fail | ask | reread => cases happended

theorem retraced_fills (hops : Fills Tidy ops) (hlast : (performAll site p ops).tree.Grown last) :
    Retraced last (performAll site p ops) (performAll site q ops) := by
  induction ops generalizing p q with
  | nil => exact h
  | cons op ops ih =>
      obtain ⟨hop, hrest⟩ := List.forall_mem_cons.1 hops
      obtain ⟨hnext, -⟩ := perform_grown hstands (output?_of_put? hop)
      have hlastOp := (performAll_grown hnext (Fills.puts hrest)).2.trans hlast
      exact ih (retraced_fill h hstands hop hlastOp).2 hnext hrest hlast

end

/-- Behind operations that both runs have done, they go on together. -/
theorem retraced_fills_behind
    (h : Retraced last (performAll site p ops) (performAll site q ops))
    (hstands : site.bundle.Stands root (performAll site p ops).tree) (hmore : Fills Tidy more)
    (hlast : (performAll site p (ops ++ more)).tree.Grown last) :
    Retraced last (performAll site p (ops ++ more)) (performAll site q (ops ++ more)) := by
  rw [performAll_append] at hlast
  simp only [performAll_append]
  exact retraced_fills h hstands hmore hlast

end Operation

end ClusterBundle
