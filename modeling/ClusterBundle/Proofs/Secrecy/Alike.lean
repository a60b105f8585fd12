import ClusterBundle.Proofs.Script.Monitoring

/-!
Runs that cannot be told apart without the tokens.

Two clusters may issue different tokens and be alike in everything else. `Alike` is the judgment
that two computations, one at each of two such clusters, stay alike: from progresses that cannot be
told apart they come to results that are related, and to progresses that cannot be told apart
either. Its rules follow the way in which computations are put together, so a computation that does
not use a token is alike to itself for no other reason than its form.
-/

namespace ClusterBundle

open Cluster (Call Failure Query Container LogSource)

namespace Cluster

/-- A request without the token that it carries. -/
def Call.withoutToken : Call → Call
  | .fetch url _ bundle => .fetch url "" bundle
  | call => call

/-- A request for a token. -/
def Call.isIssue : Call → Bool
  | .token .. => true
  | _ => false

/-- Two clusters that differ at most in the tokens that they issue: no other answer, and nothing
that an observer is told, depends on a token. -/
structure AlikeButTokens (cluster other : Cluster) : Prop where
  issued : ∀ ns account duration,
    cluster.answer (.token ns account duration) = other.answer (.token ns account duration) ∨
      ∃ token secret, cluster.answer (.token ns account duration) = .ok token ∧
        other.answer (.token ns account duration) = .ok secret
  answers : ∀ call same : Call, call.withoutToken = same.withoutToken → call.isIssue = false →
    cluster.answer call = other.answer same
  notices : ∀ call same : Call, call.withoutToken = same.withoutToken →
    cluster.notices call = other.notices same

end Cluster

/-- Two sites with one bundle, at clusters that differ at most in the tokens. -/
structure Site.AlikeButTokens (site other : Site) : Prop where
  cluster : site.cluster.AlikeButTokens other.cluster
  bundle : site.bundle = other.bundle

/-- Two progresses that cannot be told apart without the tokens of requests. -/
structure Progress.Alike (p q : Progress) : Prop where
  tree : p.tree = q.tree
  tally : p.tally = q.tally
  calls : p.calls.map Call.withoutToken = q.calls.map Call.withoutToken
  log : p.log = q.log

theorem Progress.Alike.refl (p : Progress) : p.Alike p := ⟨rfl, rfl, rfl, rfl⟩

namespace Collect

/-- `Alike site other R act same`: at the two sites, `act` and `same` come to results that `R`
relates, and do the same as far as can be told without the tokens. -/
def Alike {α β : Type} (site other : Site) (R : α → β → Prop) (act : Collect α)
    (same : Collect β) : Prop :=
  ∀ p q : Progress, p.Alike q →
    R (act.on site p).1 (same.on other q).1 ∧ (act.on site p).2.Alike (same.on other q).2

/-- A computation that comes to the same at both sites. -/
def Blind {α : Type} (site other : Site) (act : Collect α) : Prop :=
  Alike site other Eq act act

variable {α β γ δ : Type} {site other : Site} {R : α → β → Prop} {S : γ → δ → Prop}
  {act : Collect α} {same : Collect β}

namespace Alike

theorem pure {a : α} {b : β} (h : R a b) : Alike site other R (Pure.pure a) (Pure.pure b) :=
  fun _ _ hp => ⟨h, hp⟩

theorem bind {next : α → Collect γ} {nextSame : β → Collect δ} (h : Alike site other R act same)
    (hnext : ∀ a b, R a b → Alike site other S (next a) (nextSame b)) :
    Alike site other S (act >>= next) (same >>= nextSame) := by
  intro p q hp
  obtain ⟨hr, hrest⟩ := h p q hp
  exact hnext _ _ hr _ _ hrest

theorem mono {T : α → β → Prop} (h : Alike site other R act same) (hmore : ∀ a b, R a b → T a b) :
    Alike site other T act same :=
  fun p q hp => ⟨hmore _ _ (h p q hp).1, (h p q hp).2⟩

/-- The two sites know where they are. -/
theorem read : Alike site other (fun a b => a = site ∧ b = other) read read :=
  fun _ _ hp => ⟨⟨rfl, rfl⟩, hp⟩

/-- What has been done so far can be looked at. -/
theorem getThe : Alike site other Progress.Alike (getThe Progress) (MonadStateOf.get) :=
  fun _ _ hp => ⟨hp, hp⟩

/-- Two requests that differ at most in a token are answered alike. -/
theorem ask (h : site.AlikeButTokens other) {call another : Call}
    (hcalls : call.withoutToken = another.withoutToken) (hissue : call.isIssue = false) :
    Alike site other Eq (Collect.ask call) (Collect.ask another) := by
  intro p q hp
  refine ⟨h.cluster.answers call another hcalls hissue, hp.tree, hp.tally, ?_, ?_⟩
  · simp [hp.calls, hcalls]
  · simp [hp.log, h.cluster.notices call another hcalls]

/-- Tokens are issued or refused alike. -/
theorem issue (h : site.AlikeButTokens other) (ns account duration : String) :
    Alike site other (fun answer another => answer = another ∨
        ∃ token secret, answer = .ok token ∧ another = .ok secret)
      (Collect.ask (.token ns account duration)) (Collect.ask (.token ns account duration)) := by
  intro p q hp
  refine ⟨h.cluster.issued ns account duration, hp.tree, hp.tally, ?_, ?_⟩
  · simp [hp.calls]
  · simp [hp.log, h.cluster.notices _ _ rfl]

/-- A loop whose rounds stay alike does so itself. -/
theorem forM {xs : List γ} {body bodySame : γ → Collect Unit}
    (h : ∀ x ∈ xs, Alike site other Eq (body x) (bodySame x)) :
    Alike site other Eq (xs.forM body) (xs.forM bodySame) := by
  induction xs with
  | nil => exact pure rfl
  | cons x xs ih =>
      refine bind (h x (List.mem_cons_self)) fun _ _ _ => ?_
      exact ih fun y hy => h y (List.mem_cons_of_mem _ hy)

theorem discard (h : Alike site other R act same) :
    Alike site other Eq (discard act) (discard same) :=
  fun p q hp => ⟨rfl, (h p q hp).2⟩

end Alike

namespace Blind

theorem pure (a : α) : Blind site other (Pure.pure a) := Alike.pure rfl

theorem bind {next : α → Collect γ} (h : Blind site other act)
    (hnext : ∀ a, Blind site other (next a)) : Blind site other (act >>= next) := by
  refine Alike.bind h fun a b hab => ?_
  subst hab
  exact hnext a

theorem discard (h : Blind site other act) : Blind site other (discard act) := Alike.discard h

theorem forM {xs : List γ} {body : γ → Collect Unit} (h : ∀ x ∈ xs, Blind site other (body x)) :
    Blind site other (xs.forM body) := Alike.forM h

theorem mapM {xs : List γ} {body : γ → Collect α} (h : ∀ x ∈ xs, Blind site other (body x)) :
    Blind site other (xs.mapM body) := by
  induction xs with
  | nil => exact pure []
  | cons x xs ih =>
      rw [List.mapM_cons]
      refine bind (h x (List.mem_cons_self)) fun a => ?_
      exact bind (ih fun y hy => h y (List.mem_cons_of_mem _ hy)) fun as => pure _

theorem emit (events : List Event) : Blind site other (emit events) :=
  fun p q hp => ⟨rfl, hp.tree, hp.tally, hp.calls, by simp [hp.log]⟩

theorem recordWritten (step : Step) (path : String) :
    Blind site other (recordWritten step path) :=
  fun p q hp => ⟨rfl, hp.tree, by simp [hp.tally], hp.calls, by simp [hp.log]⟩

theorem recordSkipped (step : Step) (reason : String) (output : Option String) :
    Blind site other (recordSkipped step reason output) :=
  fun p q hp => ⟨rfl, hp.tree, by simp [hp.tally], hp.calls, by simp [hp.log]⟩

theorem recordFailed (step : Step) (reason : String) (output : Option String) :
    Blind site other (recordFailed step reason output) :=
  fun p q hp => ⟨rfl, hp.tree, by simp [hp.tally], hp.calls, by simp [hp.log]⟩

theorem noteFailed (step : Step) (reason : String) :
    Blind site other (noteFailed step reason) := discard (recordFailed step reason none)

theorem noteSkipped (step : Step) (reason : String) :
    Blind site other (noteSkipped step reason) := discard (recordSkipped step reason none)

section

variable (h : site.AlikeButTokens other)

include h

theorem inTree (act : Bundle → File.Tree → α × File.Tree) : Blind site other (inTree act) := by
  intro p q hp
  simp only [on_inTree, h.bundle, hp.tree]
  exact ⟨trivial, rfl, hp.tally, hp.calls, hp.log⟩

theorem finish (mode : Mode) (step : Step) (output : String) (answer : Except Failure Bytes) :
    Blind site other (finish mode step output answer) := by
  unfold Collect.finish
  cases answer with
  | error failure =>
      dsimp only
      split
      · exact recordSkipped _ _ _
      · exact recordFailed _ _ _
  | ok content =>
      refine bind (inTree h _) fun written => ?_
      cases written with
      | ok path => exact recordWritten _ _
      | error fault => exact recordFailed _ _ _

theorem ask {call : Call} (hissue : call.isIssue = false) : Blind site other (ask call) :=
  Alike.ask h rfl hissue

theorem get (query : Query) (output : String) : Blind site other (get query output) :=
  bind (ask h rfl) fun answer => finish h _ _ _ answer

theorem appendGet (query : Query) (output : String) : Blind site other (appendGet query output) :=
  bind (ask h rfl) fun answer => finish h _ _ _ answer

theorem exec (container : Container) (command : List String) (output : String) :
    Blind site other (exec container command output) :=
  bind (ask h rfl) fun answer => finish h _ _ _ answer

theorem logs (source : LogSource) (output : String) : Blind site other (logs source output) :=
  bind (ask h rfl) fun answer => finish h _ _ _ answer

theorem write (step : Step) (output : String) (content : Bytes) :
    Blind site other (write step output content) := finish h _ _ _ _

theorem exists? (kind name : String) (ns : Option String) :
    Blind site other (exists? kind name ns) :=
  bind (ask h rfl) fun _ => pure _

theorem document (query : Query) : Blind site other (document query) :=
  bind (ask h rfl) fun _ => pure _

theorem names (kind : String) (shape : Json.Shape) (ns selector : String) :
    Blind site other (names kind shape ns selector) :=
  bind (ask h rfl) fun _ => pure _

end

end Blind

end Collect

end ClusterBundle
