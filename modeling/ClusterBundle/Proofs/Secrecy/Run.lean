import ClusterBundle.Proofs.Script.Run
import ClusterBundle.Proofs.Secrecy.Alike

/-!
The token of a run.

The token that is issued for monitoring goes into one request, the one behind the route. The stages
before it never see it. From there on two runs with different tokens go on side by side: they hold
two accesses that are the same but for the token, and nothing is made of these but that request.
-/

namespace ClusterBundle

open Cluster (Call Failure Query)
open Monitoring (Access Fault)

/-- An access without its token. -/
def Monitoring.Access.withoutToken (access : Access) : Access := { access with token := "" }

namespace Collect

variable {α β γ δ : Type} {site other : Site}

/-- Both fail in the same way, or both come to something and that is related. -/
def Ends (R : α → β → Prop) : Except Fault α → Except Fault β → Prop
  | .ok a, .ok b => R a b
  | .error fault, .error same => fault = same
  | _, _ => False

namespace Alike

/-- Computations that may fail and go on with what they come to. -/
theorem run_bind {R : α → β → Prop} {S : γ → δ → Prop} {act : ExceptT Fault Collect α}
    {same : ExceptT Fault Collect β} {next : α → ExceptT Fault Collect γ}
    {nextSame : β → ExceptT Fault Collect δ} (h : Alike site other (Ends R) act.run same.run)
    (hnext : ∀ a b, R a b → Alike site other (Ends S) (next a).run (nextSame b).run) :
    Alike site other (Ends S) (act >>= next).run (same >>= nextSame).run := by
  intro p q hp
  obtain ⟨hends, hrest⟩ := h p q hp
  rw [Performs.on_run_bind, Performs.on_run_bind]
  cases hact : (act.run.on site p).1 with
  | ok a =>
      cases hsame : (same.run.on other q).1 with
      | ok b =>
          rw [hact, hsame] at hends
          exact hnext a b hends _ _ hrest
      | error fault =>
          rw [hact, hsame] at hends
          exact hends.elim
  | error fault =>
      cases hsame : (same.run.on other q).1 with
      | ok b =>
          rw [hact, hsame] at hends
          exact hends.elim
      | error same =>
          rw [hact, hsame] at hends
          exact ⟨hends, hrest⟩

theorem run_lift {R : α → β → Prop} {act : Collect α} {same : Collect β}
    (h : Alike site other R act same) :
    Alike site other (Ends R) (liftM act : ExceptT Fault Collect α).run
      (liftM same : ExceptT Fault Collect β).run := h

theorem run_pure {R : α → β → Prop} {a : α} {b : β} (h : R a b) :
    Alike site other (Ends R) (Pure.pure a : ExceptT Fault Collect α).run
      (Pure.pure b : ExceptT Fault Collect β).run := pure h

theorem lookUp {R : α → β → Prop} (what : String) {find : Collect (Except Failure α)}
    {same : Collect (Except Failure β)}
    (h : Alike site other (fun found another =>
      Ends R (found.mapError (.unknown what)) (another.mapError (.unknown what))) find same) :
    Alike site other (Ends R) (lookUp what find).run (lookUp what same).run := by
  intro p q hp
  rw [Performs.on_lookUp, Performs.on_lookUp]
  exact h p q hp

end Alike

/-- What is read off related ends in one way is the same. -/
theorem Ends.map_eq {R : α → β → Prop} {f : α → γ} {g : β → γ} {found : Except Fault α}
    {another : Except Fault β} (h : Ends R found another) (hR : ∀ a b, R a b → f a = g b) :
    found.map f = another.map g := by
  cases found with
  | ok a =>
      cases another with
      | ok b => exact congrArg Except.ok (hR a b h)
      | error fault => exact h.elim
  | error fault =>
      cases another with
      | ok b => exact h.elim
      | error same => exact congrArg Except.error h

/-- What comes to the same ends in the same way. -/
theorem ends_of_eq {R : α → α → Prop} (hrefl : ∀ a, R a a) {found another : Except Fault α}
    (h : found = another) : Ends R found another := by
  subst h
  cases found with
  | ok a => exact hrefl a
  | error fault => exact rfl

namespace Blind

variable (h : site.AlikeButTokens other)

include h

/-! ### The stages before monitoring -/

theorem lifecycle (target : Target) : Blind site other (lifecycle target) := by
  refine bind (emit _) fun _ => ?_
  refine bind (discard (get h _ _)) fun _ => bind (discard (get h _ _)) fun _ => ?_
  exact forM fun _ _ => discard (logs h _ _)

theorem installReferences (target : Target) : Blind site other (installReferences target) := by
  refine bind (document h _) fun found => ?_
  cases found with
  | error failure => exact bind (noteFailed _ _) fun _ => pure _
  | ok list =>
      dsimp only
      cases Install.references? list with
      | some references => exact pure _
      | none => exact bind (noteSkipped _ _) fun _ => pure _

theorem getKnown (query : Option Query) (output unknown : String) :
    Blind site other (getKnown query output unknown) := by
  cases query with
  | some query => exact discard (get h _ _)
  | none => exact emit _

theorem installLogs (target : Target) : Blind site other (installLogs target) := by
  refine bind (names h _ _ _ _) fun found => ?_
  cases found with
  | error failure => exact noteFailed _ _
  | ok deployments =>
      dsimp only
      split
      · exact noteSkipped _ _
      · exact forM fun _ _ => discard (logs h _ _)

theorem resetSummary (path : String) : Blind site other (resetSummary path) := by
  refine bind (inTree h _) fun written => ?_
  cases written with
  | ok path => exact pure _
  | error fault => exact emit _

theorem install (target : Target) : Blind site other (install target) := by
  refine bind (emit _) fun _ => bind (discard (get h _ _)) fun _ => ?_
  refine bind (installReferences h target) fun references => ?_
  refine bind (getKnown h _ _ _) fun _ => bind (getKnown h _ _ _) fun _ => ?_
  refine bind (discard (get h _ _)) fun _ => bind (discard (get h _ _)) fun _ => ?_
  refine bind (discard (get h _ _)) fun _ => bind (installLogs h target) fun _ => ?_
  refine bind (resetSummary h _) fun _ => ?_
  exact forM fun _ _ => discard (appendGet h _ _)

theorem workloadNamespace (settings : Settings) :
    Blind site other (workloadNamespace settings) := by
  refine bind (exists? h _ _ _) fun found => ?_
  cases found with
  | error failure => exact pure _
  | ok found =>
      cases found with
      | false => exact bind (emit _) fun _ => pure _
      | true =>
          refine bind (document h _) fun document => ?_
          cases document with
          | error failure => exact pure _
          | ok resource => exact bind (emit _) fun _ => pure _

theorem instances (settings : Settings) : Blind site other (instances settings) := by
  refine bind (emit _) fun _ => bind (get h _ _) fun outcome => ?_
  split
  · exact bind (emit _) fun _ => bind (noteSkipped _ _) fun _ => pure _
  · refine bind (discard (get h _ _)) fun _ => bind (workloadNamespace h settings) fun found => ?_
    cases found with
    | ok ns => exact pure _
    | error failure => exact bind (noteFailed _ _) fun _ => pure _

theorem pod (ns : String) (set : Exporter.PodDiagnostics) : Blind site other (pod ns set) := by
  refine bind (inTree h _) fun made => ?_
  have hrest : Blind site other (do
      let object ← Collect.get ((Query.named "pod" set.pod).inNamespace ns)
        (Path.join set.directory "kepler-pod.yaml")
      let outputs ← Exporter.commands.mapM fun probe =>
        Collect.exec { ns, pod := set.pod, name := set.container } probe.1
          (Path.join set.directory probe.2)
      let log ← Collect.logs (.container { ns, pod := set.pod, name := set.container })
        (Path.join set.directory "kepler.log")
      return (object :: outputs ++ [log]).count Outcome.written) := by
    refine bind (get h _ _) fun object => ?_
    refine bind (mapM fun _ _ => exec h _ _ _) fun outputs => ?_
    exact bind (logs h _ _) fun log => pure _
  cases made with
  | ok path => exact hrest
  | error fault => exact bind (emit _) fun _ => hrest

theorem exporter (ns : Option String) : Blind site other (exporter ns) := by
  cases ns with
  | none => exact emit _
  | some ns =>
      refine bind (emit _) fun _ => bind (discard (get h _ _)) fun _ => ?_
      refine bind (forM fun _ _ => discard (get h _ _)) fun _ => ?_
      refine bind (discard (get h _ _)) fun _ => bind (names h _ _ _ _) fun found => ?_
      cases found with
      | error failure => exact noteFailed _ _
      | ok pods =>
          refine bind (emit _) fun _ => forM fun name _ => ?_
          exact bind (pod h ns _) fun written => emit _

end Blind

/-! ### Monitoring -/

namespace Alike

variable (h : site.AlikeButTokens other)

include h

/-- Finding out how to reach monitoring comes to the same but for the token. -/
theorem monitoringAccess (settings : Settings) :
    Alike site other (Ends fun access same => access.withoutToken = same.withoutToken)
      (Collect.monitoringAccess settings).run (Collect.monitoringAccess settings).run := by
  have hblind : ∀ {γ : Type} (what : String) {find : Collect (Except Failure γ)},
      Blind site other find →
      Alike site other (Ends Eq) (Collect.lookUp what find).run (Collect.lookUp what find).run :=
    fun what _ hfind => lookUp what (mono hfind fun found another hsame =>
      ends_of_eq (fun _ => rfl) (congrArg _ hsame))
  refine run_bind (hblind _ (Blind.bind (Blind.document h _) fun _ => Blind.pure _))
    fun host _ hhost => ?_
  subst hhost
  -- here the two runs part: whatever the tokens are, they are only kept
  refine run_bind (R := fun _ _ => True) (lookUp _ ?_) fun token secret _ => ?_
  · refine bind (issue h _ _ _) fun answer another hanswer => pure ?_
    rcases hanswer with rfl | ⟨token, secret, rfl, rfl⟩
    · exact ends_of_eq (fun _ => trivial) rfl
    · trivial
  refine run_bind (hblind _ (Blind.names h _ _ _ _)) fun pods _ hpods => ?_
  subst hpods
  refine run_bind (hblind _ (Blind.bind (Blind.document h _) fun _ => Blind.pure _))
    fun certificates _ hcertificates => ?_
  subst hcertificates
  refine run_bind (R := Eq) (run_lift (Blind.write h _ _ _)) fun outcome _ houtcome => ?_
  subst houtcome
  by_cases hwritten : outcome = .written
  · simp only [hwritten, ne_eq, not_true_eq_false, if_false]
    refine run_bind (R := Eq) (run_lift (Blind.emit _)) fun _ _ _ => ?_
    exact run_pure rfl
  · simp only [hwritten, ne_eq, not_false_eq_true, if_true]
    exact fun p q hp => ⟨rfl, hp⟩

/-- The rules are asked for in the same way but for the token. -/
theorem rules {access same : Access} (haccess : access.withoutToken = same.withoutToken)
    (output : String) :
    Alike site other Eq (Collect.rules access output) (Collect.rules same output) := by
  obtain ⟨host, path, token, pods⟩ := access
  obtain ⟨_, _, secret, _⟩ := same
  obtain ⟨rfl, rfl, -, rfl⟩ := Access.mk.inj haccess
  refine bind read fun here there hsites => ?_
  obtain ⟨rfl, rfl⟩ := hsites
  dsimp only
  rw [h.bundle]
  cases Monitoring.rulesUrl host with
  | error fault => exact Blind.noteFailed _ _
  | ok url =>
      dsimp only
      cases there.bundle.resolve path with
      | error fault => exact Blind.noteFailed _ _
      | ok path =>
          refine bind getThe fun p q hp => ?_
          rw [hp.tree]
          cases File.read q.tree path with
          | error fault => exact Blind.noteFailed _ _
          | ok certificates =>
              refine discard (R := Eq) (bind (ask h rfl rfl) fun answer another hanswer => ?_)
              subst hanswer
              exact Blind.finish h _ _ _ _

theorem monitoring {access same : Access} (haccess : access.withoutToken = same.withoutToken)
    (settings : Settings) :
    Alike site other Eq (Collect.monitoring access settings)
      (Collect.monitoring same settings) := by
  have hrules := rules h haccess Monitoring.rulesFile
  obtain ⟨host, path, token, pods⟩ := access
  obtain ⟨_, _, secret, _⟩ := same
  obtain ⟨rfl, rfl, -, rfl⟩ := Access.mk.inj haccess
  refine bind (Blind.emit _) fun _ _ _ => bind hrules fun _ _ _ => ?_
  exact Blind.forM fun _ _ => Blind.forM fun _ _ => Blind.discard (Blind.exec h _ _ _)

end Alike

end Collect

/-! ### Whole runs -/

namespace Run

open Collect (Alike Blind Ends)

section

variable {site other : Site} (h : site.AlikeButTokens other)

include h

theorem blind_beforeMonitoring (target : Target) (settings : Settings) :
    Blind site other (beforeMonitoring target settings) := by
  refine .bind (.emit _) fun _ => .bind (.emit _) fun _ => ?_
  refine .bind (.lifecycle h target) fun _ => .bind (.emit _) fun _ => ?_
  refine .bind (.install h target) fun _ => .bind (.emit _) fun _ => ?_
  refine .bind (.instances h settings) fun ns => .bind (.emit _) fun _ => ?_
  exact .bind (.exporter h ns) fun _ => .pure _

theorem blind_monitoring (settings : Settings) : Blind site other (monitoring settings) := by
  refine .bind (.emit _) fun _ => Alike.bind (.monitoringAccess h settings) ?_
  intro found another hends
  cases found with
  | ok access =>
      cases another with
      | ok same =>
          refine .bind (Blind.emit _) fun _ _ _ => ?_
          exact .bind (.monitoring h hends settings) fun _ _ _ => .pure rfl
      | error fault => exact hends.elim
  | error fault =>
      cases another with
      | ok same => exact hends.elim
      | error same =>
          obtain rfl : fault = same := hends
          refine Blind.bind (.emit _) fun _ => .bind (.noteSkipped _ _) fun _ => ?_
          exact .bind (.emit _) fun _ => .pure _

theorem blind_stages (target : Target) (settings : Settings) :
    Blind site other (stages target settings) := by
  rw [stages_eq]
  refine .bind (blind_beforeMonitoring h target settings) fun ns => ?_
  refine .bind (blind_monitoring h settings) fun reached => .bind (.emit _) fun _ => ?_
  refine Alike.bind .getThe fun p q hp => ?_
  dsimp only
  rw [hp.tally]
  exact Blind.bind (.emit _) fun _ => .pure _

end

/-- What may be shown of an access does not hold its token. -/
theorem shown_eq_of_withoutToken (access same : Access)
    (h : access.withoutToken = same.withoutToken) : access.shown = same.shown :=
  show access.withoutToken.shown = same.withoutToken.shown by rw [h]

/-- The token of a run is seen in the request behind the route and nowhere else: not in what the
run finds, not in its bundle, its tally, its report or what an observer is told, and not in what may
be shown of the access to monitoring. -/
theorem run_hides_token (cluster other : Cluster) (h : cluster.AlikeButTokens other)
    (target : Target) (settings : Settings) (tree : File.Tree)
    (started finished : Calendar.Instant) :
    (run cluster target settings tree).1 = (run other target settings tree).1 ∧
      (run cluster target settings tree).2.Alike (run other target settings tree).2 ∧
      report target (run cluster target settings tree).1
          (run cluster target settings tree).2.tally started finished =
        report target (run other target settings tree).1
          (run other target settings tree).2.tally started finished ∧
      (report target (run cluster target settings tree).1
          (run cluster target settings tree).2.tally started finished).save
          (run cluster target settings tree).2.tree =
        (report target (run other target settings tree).1
          (run other target settings tree).2.tally started finished).save
          (run other target settings tree).2.tree ∧
      (discovery cluster target settings tree).map Access.shown =
        (discovery other target settings tree).map Access.shown := by
  have hsites : (site cluster target).AlikeButTokens (site other target) := ⟨h, rfl⟩
  obtain ⟨hfindings, halike⟩ := blind_stages hsites target settings { tree } { tree } (.refl _)
  have hfound : (run cluster target settings tree).1 = (run other target settings tree).1 :=
    hfindings
  have hprogress : (run cluster target settings tree).2.Alike (run other target settings tree).2 :=
    halike
  obtain ⟨-, hturning⟩ :=
    blind_beforeMonitoring hsites target settings { tree } { tree } (.refl _)
  obtain ⟨hends, -⟩ := Alike.monitoringAccess hsites settings _ _ hturning
  refine ⟨hfound, hprogress, by rw [hfound, hprogress.tally], ?_, ?_⟩
  · rw [hfound, hprogress.tally, hprogress.tree]
  · exact hends.map_eq shown_eq_of_withoutToken

/-- A cluster with monitoring and some token. -/
def clusterIssuing (token : Bytes) : Cluster where
  answer
    | .get query =>
        .ok (Utf8.encode
          (match query.kind with
          | "route" => "\x7b\"spec\":\x7b\"host\":\"thanos\"\x7d\x7d"
          | "pod" => "\x7b\"items\":[\x7b\"metadata\":\x7b\"name\":\"p\"\x7d\x7d]\x7d"
          | "configmap" => "\x7b\"data\":\x7b\"service-ca.crt\":\"x\"\x7d\x7d"
          | _ => "\x7b\x7d"))
    | .token .. => .ok token
    | _ => .ok []

/-- The theorem at two tokens, `a` and `b`. -/
theorem run_hides_token_between_letters :
    (clusterIssuing [97]).AlikeButTokens (clusterIssuing [98]) ∧
      (run (clusterIssuing [97]) ⟨"o", "n", "/b"⟩ {} ⟨[(["b"], .directory)]⟩).2.Alike
        (run (clusterIssuing [98]) ⟨"o", "n", "/b"⟩ {} ⟨[(["b"], .directory)]⟩).2 := by
  have halike : (clusterIssuing [97]).AlikeButTokens (clusterIssuing [98]) := by
    refine ⟨fun _ _ _ => .inr ⟨[97], [98], rfl, rfl⟩, ?_, fun _ _ _ => rfl⟩
    intro call same hcalls hissue
    cases call with
    | token ns account duration => simp [Call.isIssue] at hissue
    | get query =>
        cases same with
        | get another => rw [show query = another from Call.get.inj hcalls]; rfl
        | exec | logs | token | fetch => simp [Call.withoutToken] at hcalls
    | exec container command | logs source | fetch url token bundle =>
        cases same with
        | get another => simp [Call.withoutToken] at hcalls
        | token ns account duration => simp [Call.withoutToken] at hcalls
        | exec | logs | fetch => rfl
  exact ⟨halike, (run_hides_token _ _ halike ⟨"o", "n", "/b"⟩ {} ⟨[(["b"], .directory)]⟩
    ⟨0, 0⟩ ⟨0, 0⟩).2.1⟩

end Run

end ClusterBundle
