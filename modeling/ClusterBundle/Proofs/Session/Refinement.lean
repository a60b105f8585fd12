import ClusterBundle.Proofs.Bundle.Content
import ClusterBundle.Proofs.Session.Basic

/-!
A bundle as a map from paths to contents.

Whoever uses a bundle thinks of it as a map: a step that was written has given its path a content,
and nothing else has happened. There is more to it in the file system, where directories are made on
the way, contents pass through staging files, and one file can be spelled in several ways. For a
session that has its bundle to itself the map is enough, as long as nobody uses the names of staging
files: one turn does to the map what `Moment.apply` says, and a session does so turn by turn.
-/

namespace ClusterBundle

open File (walk Place)
open ClusterBundle.Path (components)
open Collect (Mode)

/-- The contents of files by the names that lead to them from the root of a bundle. -/
abbrev Contents := List String → Option Bytes

/-- The files below a place. -/
def File.Tree.contentsAt (tree : File.Tree) (root : Place) : Contents :=
  fun names => tree.content? (root ++ names)

/-- No file has the name of a staging file. -/
def Contents.IsSettled (files : Contents) : Prop :=
  ∀ names, IsStaged names → files names = none

/-- A map after a file was given a content, in one way or the other. -/
def Contents.put (mode : Mode) (output : String) (content : Bytes) (files : Contents) : Contents :=
  fun names =>
    if names = components output then some (mode.merge (files names) content) else files names

/-- What a moment does to the map: a step that was written puts what it was given into the file at
its path, and nothing else does anything. -/
def Moment.apply (files : Contents) (moment : Moment) : Contents :=
  match moment.outcome, moment.turn.entry.output?,
      moment.turn.entry.given? moment.turn.cluster with
  | .written, some output, some (.ok content) =>
      files.put moment.turn.entry.mode output content
  | _, _, _ => files

theorem Moment.apply_of_not_written {moment : Moment} (h : moment.outcome ≠ .written)
    (files : Contents) : moment.apply files = files := by
  unfold apply
  split
  · exact absurd (by assumption) h
  · rfl

namespace Bundle

variable {bundle : Bundle} {tree : File.Tree} {root : Place} {mode : Mode} {output : String}
  {content : Bytes}

/-- Putting something into a bundle does to its map what it should, if it succeeds, and nothing if
it does not. -/
theorem contentsAt_put (hroot : walk tree [] (components bundle.root) = .ok root)
    (hsettled : (tree.contentsAt root).IsSettled) :
    (mode.put output content bundle tree).2.contentsAt root =
      if (mode.put output content bundle tree).1.toBool = true then
        (tree.contentsAt root).put mode output content
      else tree.contentsAt root := by
  cases haccepts : accepts output with
  | false =>
      rw [put_of_not_accepts mode haccepts, if_neg (by simp [Except.toBool])]
  | true =>
      obtain ⟨front, name, hpath⟩ := components_of_accepts haccepts
      have hclear : tree.content? (root ++ (front ++ [stagingName name])) = none :=
        hsettled _ ⟨front, name, rfl⟩
      rcases hput : mode.put output content bundle tree with ⟨result, after⟩
      funext names
      rw [File.Tree.contentsAt, put_content? hroot haccepts hpath hclear hput]
      cases result.toBool with
      | false => simp [File.Tree.contentsAt]
      | true => simp [Contents.put, File.Tree.contentsAt]

end Bundle

/-- Names that nobody uses stay without a content. -/
theorem Contents.IsSettled.put {files : Contents} {output : String} (h : files.IsSettled)
    (houtput : ¬ IsStaged (components output)) (mode : Mode) (content : Bytes) :
    (files.put mode output content).IsSettled := by
  intro names hnames
  have hother : names ≠ components output := by
    rintro rfl
    exact houtput hnames
  rw [Contents.put, if_neg hother]
  exact h names hnames

/-! ### One moment -/

namespace Moment

variable {bundle : Bundle} {root : Place} {moment : Moment}

/-- Either nothing is given to the bundle, and then nothing is written and the tree is left as it
was, or a content is put into it, and that is written if the bundle takes it. -/
theorem Fits.given_or_not (h : moment.Fits bundle) :
    ((∀ content, moment.turn.entry.given? moment.turn.cluster ≠ some (.ok content)) ∧
        moment.outcome ≠ .written ∧ moment.after = moment.before) ∨
      ∃ output content, moment.turn.entry.output? = some output ∧
        moment.turn.entry.given? moment.turn.cluster = some (.ok content) ∧
        (moment.outcome = .written ↔
          (moment.turn.entry.mode.put output content bundle moment.before).1.toBool = true) ∧
        moment.after = (moment.turn.entry.mode.put output content bundle moment.before).2 := by
  have hsome := moment.turn.entry.given?_isSome_iff moment.turn.cluster
  rw [h.outcome_eq, h.after_eq, Moment.ending]
  cases hgiven : moment.turn.entry.given? moment.turn.cluster with
  | none =>
      refine .inl ⟨by simp, ?_⟩
      rw [hgiven] at hsome
      cases hentry : moment.turn.entry with
      | noteSkipped | noteFailed => exact ⟨by simp [Entry.effect, Ending.outcome], rfl⟩
      | get | appendGet | exec | logs | fetch | write => simp [hentry, Entry.output?] at hsome
  | some answer =>
      rw [hgiven] at hsome
      obtain ⟨output, houtput⟩ := Option.isSome_iff_exists.1 hsome.symm
      rw [Entry.effect_of_given houtput hgiven, Ending.settle_outcome_written_iff]
      cases answer with
      | error failure => exact .inl ⟨by simp, by simp [Ending.settle_outcome_written_iff], rfl⟩
      | ok content =>
          refine .inr ⟨output, content, houtput, rfl, by simp, ?_⟩
          rw [Ending.settle_ok_snd]

/-- A moment does to the map what its outcome says. -/
theorem Fits.contentsAt_after (h : moment.Fits bundle)
    (hroot : walk moment.before [] (components bundle.root) = .ok root)
    (hsettled : (moment.before.contentsAt root).IsSettled) :
    moment.after.contentsAt root = moment.apply (moment.before.contentsAt root) := by
  rcases h.given_or_not with
    ⟨-, hwritten, hafter⟩ | ⟨output, content, houtput, hgiven, hwritten, hafter⟩
  · rw [apply_of_not_written hwritten, hafter]
  · rw [hafter, Bundle.contentsAt_put hroot hsettled]
    by_cases hput :
        (moment.turn.entry.mode.put output content bundle moment.before).1.toBool = true
    · rw [if_pos hput, apply, hwritten.2 hput, houtput, hgiven]
    · rw [if_neg hput, apply_of_not_written (mt hwritten.1 hput)]

/-- The root of the bundle stays where it is, and no file gets the name of a staging file unless it
is asked for by that name. -/
theorem Fits.invariant (h : moment.Fits bundle)
    (hroot : walk moment.before [] (components bundle.root) = .ok root)
    (hsettled : (moment.before.contentsAt root).IsSettled)
    (houtputs : ∀ output, moment.turn.entry.output? = some output →
      ¬ IsStaged (components output)) :
    walk moment.after [] (components bundle.root) = .ok root ∧
      (moment.after.contentsAt root).IsSettled := by
  rcases h.given_or_not with ⟨-, -, hafter⟩ | ⟨output, content, houtput, -, -, hafter⟩
  · rw [hafter]
    exact ⟨hroot, hsettled⟩
  · rw [hafter]
    refine ⟨Bundle.walk_put hroot, ?_⟩
    rw [Bundle.contentsAt_put hroot hsettled]
    split
    · exact hsettled.put (houtputs output houtput) _ _
    · exact hsettled

end Moment

/-! ### The session -/

namespace Turn

variable {bundle : Bundle} {root : Place}

/-- A session does to the map of a bundle what its moments do to it, one after the other, and a
moment in which there was nothing to put into the bundle does nothing to the tree at all. The
induction carries along that the root can be walked to and that no file has the name of a staging
file. -/
theorem contentsAt_takeAll {p : Progress} {turns : List Turn}
    (hroot : walk p.tree [] (components bundle.root) = .ok root)
    (hsettled : (p.tree.contentsAt root).IsSettled)
    (houtputs : ∀ turn ∈ turns, ∀ output, turn.entry.output? = some output →
      ¬ IsStaged (components output))
    (halone : ∀ turn ∈ turns, turn.meanwhile = id) :
    (takeAll bundle p turns).tree.contentsAt root =
      (trace bundle p turns).foldl Moment.apply (p.tree.contentsAt root) := by
  induction turns generalizing p with
  | nil => rfl
  | cons turn turns ih =>
      obtain ⟨houtput, houtputs⟩ := List.forall_mem_cons.1 houtputs
      obtain ⟨hturn, halone⟩ := List.forall_mem_cons.1 halone
      have hbefore : (turn.moment bundle p).before = p.tree := by
        simp only [moment, found, hturn, id]
      have hfits := @fits_moment bundle p turn
      rw [← hbefore] at hroot hsettled
      obtain ⟨hwalk, hkept⟩ := hfits.invariant hroot hsettled houtput
      rw [takeAll_cons, trace, List.foldl_cons, ih hwalk hkept houtputs halone, ← hbefore,
        ← hfits.contentsAt_after hroot hsettled]
      rfl

/-- The bundle is a map from paths to contents, as long as it is left to one session and nobody uses
the names of staging files: in the end its files are what the moments of the session make of them,
one after the other. What is skipped or fails changes no content, and where there is nothing to put
into the bundle the tree stays as it was, with its directories. -/
theorem session_refines_map {bundle : Bundle} {p : Progress} {root : Place} {turns : List Turn}
    (hroot : File.stat p.tree bundle.root = .ok (root, .directory))
    (hfiles : ∀ names content, p.tree.find? (root ++ names) = some (.file content) →
      ¬ IsStaged names)
    (houtputs : ∀ turn ∈ turns, ∀ output, turn.entry.output? = some output →
      ¬ IsStaged (components output))
    (halone : ∀ turn ∈ turns, turn.meanwhile = id) :
    (takeAll bundle p turns).tree.contentsAt root =
        (trace bundle p turns).foldl Moment.apply (p.tree.contentsAt root) ∧
      ∀ moment ∈ trace bundle p turns,
        (moment.outcome ≠ .written → ∀ files, moment.apply files = files) ∧
        ((∀ content, moment.turn.entry.given? moment.turn.cluster ≠ some (.ok content)) →
          moment.outcome ≠ .written ∧ moment.after = moment.before) := by
  have hsettled : (p.tree.contentsAt root).IsSettled := by
    intro names hnames
    rw [File.Tree.contentsAt, File.Tree.content?_eq_none_iff]
    exact fun content hcontent => hfiles names content hcontent hnames
  refine ⟨contentsAt_takeAll (File.walk_of_stat hroot) hsettled houtputs halone, ?_⟩
  intro moment hmoment
  refine ⟨Moment.apply_of_not_written, fun hgiven => ?_⟩
  rcases (fits_of_mem_trace moment hmoment).given_or_not with
    ⟨-, hwritten, hafter⟩ | ⟨_, content, -, hok, -⟩
  · exact ⟨hwritten, hafter⟩
  · exact absurd hok (hgiven content)

/-- The theorem at a session that writes one file under two spellings, and adds to it. -/
theorem session_refines_map_respelled :
    let cluster : Cluster := { answer := fun _ => .ok [66] }
    let step : Step := { action := "get", kind := "pods", name := "x" }
    let query : Cluster.Query := { kind := "pods", selection := .all }
    let turns : List Turn :=
      [{ cluster, entry := .write step "./a//x" [65] },
        { cluster, entry := .appendGet query "a/x" },
        { cluster, entry := .noteSkipped step "absent" }]
    let tree : File.Tree := ⟨[(["b"], .directory)]⟩
    (∀ turn ∈ turns, ∀ output, turn.entry.output? = some output →
        ¬ IsStaged (components output)) ∧
      (takeAll ⟨"/b"⟩ { tree } turns).tree.contentsAt ["b"] =
        (trace ⟨"/b"⟩ { tree } turns).foldl Moment.apply (tree.contentsAt ["b"]) := by
  intro cluster step query turns tree
  have hplain : ¬ IsStaged ["a", "x"] := by
    rintro ⟨front, name, hnames⟩
    obtain ⟨-, hlast⟩ := List.append_inj' (show ["a"] ++ ["x"] = front ++ [_] from hnames) rfl
    exact Bundle.stagingName_ne (by decide) (List.cons.inj hlast).1.symm
  have houtputs : ∀ turn ∈ turns, ∀ output, turn.entry.output? = some output →
      ¬ IsStaged (components output) := by
    intro turn hturn output houtput
    simp only [turns, List.mem_cons, List.not_mem_nil, or_false] at hturn
    rcases hturn with rfl | rfl | rfl
    · obtain rfl := Option.some.inj houtput
      exact hplain
    · obtain rfl := Option.some.inj houtput
      exact hplain
    · cases houtput
  have hfiles : ∀ names content, tree.find? (["b"] ++ names) = some (.file content) →
      ¬ IsStaged names := by
    intro names content hcontent
    cases names with
    | nil => simp [tree, File.Tree.find?] at hcontent
    | cons name rest => simp [tree, File.Tree.find?, List.lookup_cons] at hcontent
  refine ⟨houtputs, (session_refines_map rfl hfiles houtputs ?_).1⟩
  intro turn hturn
  simp only [turns, List.mem_cons, List.not_mem_nil, or_false] at hturn
  rcases hturn with rfl | rfl | rfl <;> rfl

end Turn

end ClusterBundle
