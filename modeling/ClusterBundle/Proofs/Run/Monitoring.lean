import ClusterBundle.Proofs.Run.Isolation
import ClusterBundle.Proofs.Run.Gates
import ClusterBundle.Proofs.Script.Discovery
import ClusterBundle.Proofs.Script.Records

/-!
The last stage of a run that can reach monitoring.

The certificates that were found are not handed on: they are written to the bundle, and the rules
are fetched with what is read there. The rest of the stage does not hang on anything that comes
back. So its requests and the number of its steps can be read off its script once it is known that
the certificates come back as they were.
-/

namespace ClusterBundle

open Cluster (Call Reach)
open Operation (Within performAll)

/-- What is outside of the limits of some operations is not among their requests. -/
theorem Operation.Within.filter_calls {reaches : List Reach} {ops : List Operation}
    (h : Within reaches ops) {reach : Reach} (hreach : reach ∉ reaches) :
    ((ops.filterMap Operation.call?).filter fun call => call.reach = reach) = [] := by
  refine List.filter_eq_nil_iff.2 fun call hcall hreached => ?_
  obtain ⟨op, hop, hasked⟩ := List.mem_filterMap.1 hcall
  exact h.not_reaches hreach hop (by simpa [Operation.Reaches, hasked] using hreached)

namespace Monitoring

/-- The requests for the rules: one if the host makes an address, and none if it does not. -/
def rulesCalls (access : Access) (certificates : String) : List Call :=
  match rulesUrl access.routeHost with
  | .error _ => []
  | .ok url => [.fetch url.text access.token (Utf8.encode certificates)]

/-- The requests that look into a monitoring pod. -/
def podCalls (settings : Settings) (pod : String) : List Call :=
  ["status/runtimeinfo", "status/config", "targets?state=active", "status/tsdb"].map fun api =>
    .exec { ns := settings.userMonitoringNamespace, pod, name := "prometheus" }
      ["curl", "-s", "http://localhost:9090/api/v1/" ++ api]

variable (bundle : Bundle) (tree : File.Tree) (access : Access) (settings : Settings)

theorem podScript_calls (pod : String) :
    (podScript settings pod).filterMap Operation.call? = podCalls settings pod := rfl

theorem podsScript_calls :
    (access.pods.flatMap (podScript settings)).filterMap Operation.call? =
      access.pods.flatMap (podCalls settings) := by
  rw [List.filterMap_flatMap]
  exact congrArg (access.pods.flatMap ·) (funext (podScript_calls settings))

/-- Nothing of the pods is behind an address. -/
theorem podsCalls_addresses :
    (access.pods.flatMap (podCalls settings)).filter (fun call => call.reach = .address) = [] := by
  have hwithin : Within [.container containerName] (access.pods.flatMap (podScript settings)) :=
    .flatMap fun _ _ => .flatMap fun _ _ =>
      .having (.container containerName) rfl (by decide) .nil
  rw [← podsScript_calls]
  exact hwithin.filter_calls (by decide)

theorem rulesCalls_addresses (certificates : String) :
    (rulesCalls access certificates).filter (fun call => call.reach = .address) =
      rulesCalls access certificates := by
  unfold rulesCalls
  cases rulesUrl access.routeHost <;> rfl

/-- The rules are one step, whatever comes of it. -/
theorem rulesScript_tallied : (rulesScript bundle tree access).countP Operation.isTallied = 1 := by
  unfold rulesScript
  split
  · rfl
  · split
    · rfl
    · split <;> rfl

theorem script_tallied :
    (script bundle tree access settings).countP Operation.isTallied =
      1 + 4 * access.pods.length := by
  unfold script
  rw [List.countP_append, rulesScript_tallied, List.countP_flatMap]
  have hpods : access.pods.map (fun pod => (podScript settings pod).countP Operation.isTallied) =
      access.pods.map fun _ => 4 := rfl
  rw [Function.comp_def, hpods, List.map_const', List.sum_replicate_nat, Nat.mul_comm]

variable {bundle tree access}

/-- The rules when the certificates come back from the bundle. -/
theorem rulesScript_of_read {certificates full : String}
    (hresolve : bundle.resolve access.certificatesPath = .ok full)
    (hread : File.read tree full = .ok (Utf8.encode certificates)) :
    rulesScript bundle tree access =
      match rulesUrl access.routeHost with
      | .error fault => [rulesFailure access s!"invalid route host: {fault.message}"]
      | .ok url =>
          [.reread access.certificatesPath,
            .fetch url.text access.token (Utf8.encode certificates) rulesFile] := by
  unfold rulesScript
  cases rulesUrl access.routeHost with
  | error fault => rfl
  | ok url => simp only [hresolve, hread]

theorem rulesScript_calls {certificates full : String}
    (hresolve : bundle.resolve access.certificatesPath = .ok full)
    (hread : File.read tree full = .ok (Utf8.encode certificates)) :
    (rulesScript bundle tree access).filterMap Operation.call? =
      rulesCalls access certificates := by
  rw [rulesScript_of_read hresolve hread]
  unfold rulesCalls
  cases rulesUrl access.routeHost <;> rfl

end Monitoring

namespace Run

variable (cluster : Cluster) (target : Target) (settings : Settings) (tree : File.Tree)

/-- How far a run has come when it knows whether monitoring can be reached. -/
def discovered : Progress :=
  ((Collect.monitoringAccess settings).run.on (site cluster target)
    (turningToMonitoring cluster target settings tree).2).2

/-- What the last stage adds to a run that can reach monitoring. -/
structure CollectsMonitoring (access : Monitoring.Access) (certificates : String) : Prop where
  /-- The stage is entered. -/
  collected : (run cluster target settings tree).1.monitoringCollected = true
  /-- The rules come first, and behind them every pod is looked into. -/
  calls : (run cluster target settings tree).2.calls =
    (discovered cluster target settings tree).calls ++
      (Monitoring.rulesCalls access certificates ++
        access.pods.flatMap (Monitoring.podCalls settings))
  /-- Nothing else in the run is behind an address. -/
  addresses : (run cluster target settings tree).2.calls.filter (fun call =>
    call.reach = .address) = Monitoring.rulesCalls access certificates
  /-- A host that makes no address is the next thing that is recorded. -/
  invalid : ∀ fault, Monitoring.rulesUrl access.routeHost = .error fault →
    (discovered cluster target settings tree).tally.records ++
        [{ step := { action := "proxy", kind := "rules", name := access.routeHost },
           outcome := .failed, reason := s!"invalid route host: {fault.message}" }] <+:
      (run cluster target settings tree).2.tally.records
  total : (run cluster target settings tree).2.tally.total =
    (discovered cluster target settings tree).tally.total + (1 + 4 * access.pods.length)

variable {cluster target settings tree} {access : Monitoring.Access}

theorem discovered_silent :
    (discovered cluster target settings tree).silent =
      (performAll (site cluster target) (prepared cluster target settings tree)
        (Monitoring.accessScript cluster settings)).silent :=
  (performs_monitoringAccess turningToMonitoring_silent).2.trans
    (Operation.performAll_silent turningToMonitoring_silent _)

/-- With an access, a run goes on with the last stage from where it found it. -/
theorem run_of_discovered (h : Run.access cluster target settings tree = .ok access) :
    (run cluster target settings tree).2.silent =
      (performAll (site cluster target) (discovered cluster target settings tree)
        (Monitoring.script target.bundle (accessTree cluster target settings tree) access
          settings)).silent := by
  rw [(run_eq cluster target settings tree).2]
  unfold script closing
  rw [h, Operation.performAll_append, Operation.performAll_append]
  exact (Operation.performAll_silent discovered_silent _).symm

/-- Before the last stage nothing is behind an address. -/
theorem discovered_addresses :
    (discovered cluster target settings tree).calls.filter (fun call =>
      call.reach = .address) = [] := by
  have hcalls : (discovered cluster target settings tree).calls =
      (preparation cluster target settings tree).filterMap Operation.call? ++
        (Monitoring.accessScript cluster settings).filterMap Operation.call? := by
    rw [(Progress.silent_eq_iff.1 discovered_silent).2.2, Operation.performAll_calls, prepared,
      Operation.performAll_calls]
    rfl
  rw [hcalls, List.filter_append, preparation_within.filter_calls (by decide),
    (Monitoring.accessScript_within _ _).filter_calls (by decide)]
  rfl

/-- Whatever a cluster answers and whatever was in the bundle before, a run that finds out how to
reach monitoring goes on to collect it. The one request behind the route, if the host of the route
makes an address, has the token and the certificates that were found, and each monitoring pod is
looked into four times. -/
theorem run_collects_monitoring (cluster : Cluster) (target : Target) (settings : Settings)
    (tree : File.Tree) (access : Monitoring.Access)
    (h : discovery cluster target settings tree = .ok access) :
    ∃ certificates,
      Monitoring.FindsAll cluster settings access.routeHost access.token access.pods
        certificates ∧
      CollectsMonitoring cluster target settings tree access certificates := by
  rw [discovery_eq] at h
  obtain ⟨certificates, hfound, hcertificates⟩ := read_certificates h
  obtain ⟨hfinds, hpath⟩ := Monitoring.findsAll_of_found cluster settings hfound
  -- the certificates that were written are those that are read
  have hresolve : target.bundle.resolve access.certificatesPath =
      .ok (Path.join target.bundle.root access.certificatesPath) := by
    rw [hpath]
    exact Bundle.resolve_of_accepts _ (by decide)
  have hread := hcertificates _ hresolve
  obtain ⟨-, htally, hcalls⟩ := Progress.silent_eq_iff.1 (run_of_discovered h)
  have hrules := Monitoring.rulesScript_calls hresolve hread
  have hall : (run cluster target settings tree).2.calls =
      (discovered cluster target settings tree).calls ++
        (Monitoring.rulesCalls access certificates ++
          access.pods.flatMap (Monitoring.podCalls settings)) := by
    rw [hcalls, Operation.performAll_calls, Monitoring.script, List.filterMap_append, hrules,
      Monitoring.podsScript_calls]
  refine ⟨certificates, hfinds,
    { collected := ?_, calls := hall, addresses := ?_, invalid := fun fault hfault => ?_,
      total := ?_ }⟩
  · rw [(run_eq cluster target settings tree).1]
    exact congrArg Except.toBool h
  · rw [hall, List.filter_append, List.filter_append, discovered_addresses,
      Monitoring.podsCalls_addresses, Monitoring.rulesCalls_addresses, List.nil_append,
      List.append_nil]
  · rw [htally, Monitoring.script, Monitoring.rulesScript_of_read hresolve hread, hfault,
      Operation.performAll_append]
    exact @Operation.records_prefix_performAll _
      ((Monitoring.rulesFailure access _).perform _ (discovered cluster target settings tree)) _
  · rw [htally, Operation.performAll_total, Monitoring.script_tallied]

/-- A cluster in which little more is found than how to reach monitoring. One object will do for
the route, for the configuration map and for the list of the pods. -/
def clusterMonitored : Cluster where
  answer
    | .get query =>
        if query.kind ∈ ["route", "configmap"] ∨
            query.ns = some "openshift-user-workload-monitoring" then
          .ok (Utf8.encode ("\x7b\"items\":[\x7b\"metadata\":\x7b\"name\":\"p\"\x7d\x7d]," ++
            "\"spec\":\x7b\"host\":\"h\"\x7d,\"data\":\x7b\"service-ca.crt\":\"x\"\x7d\x7d"))
        else .error (.commandFailed "oc" "1" "")
    | .token .. => .ok [116]
    | .fetch .. | .exec .. | .logs _ => .error (.commandFailed "oc" "1" "")

theorem discovery_clusterMonitored :
    (discovery clusterMonitored ⟨"o", "n", "/b"⟩ {} ⟨[(["b"], .directory)]⟩).toOption =
      some ⟨"h", "uwm-info/ca-bundle.crt", "t", ["p"]⟩ := by decide +kernel

/-- The theorem at that cluster, in which the one request behind the route fails. -/
theorem run_collects_monitoring_found :
    discovery clusterMonitored ⟨"o", "n", "/b"⟩ {} ⟨[(["b"], .directory)]⟩ =
        .ok ⟨"h", "uwm-info/ca-bundle.crt", "t", ["p"]⟩ ∧
      (∃ certificates, (run clusterMonitored ⟨"o", "n", "/b"⟩ {}
          ⟨[(["b"], .directory)]⟩).2.calls.filter (fun call => call.reach = .address) =
        [.fetch "https://h/api/v1/rules" "t" (Utf8.encode certificates)]) ∧
      (run clusterMonitored ⟨"o", "n", "/b"⟩ {} ⟨[(["b"], .directory)]⟩).2.tally.total =
        (discovered clusterMonitored ⟨"o", "n", "/b"⟩ {} ⟨[(["b"], .directory)]⟩).tally.total +
          (1 + 4 * 1) := by
  have hreached := ok_of_toOption discovery_clusterMonitored
  have hparsed : (Monitoring.rulesUrl "h").toOption.map Url.text =
      some "https://h/api/v1/rules" := by decide +kernel
  obtain ⟨url, hurl, htext⟩ := Option.map_eq_some_iff.1 hparsed
  obtain ⟨certificates, -, hcollects⟩ :=
    run_collects_monitoring clusterMonitored ⟨"o", "n", "/b"⟩ {} ⟨[(["b"], .directory)]⟩ _ hreached
  refine ⟨hreached, ⟨certificates, ?_⟩, hcollects.total⟩
  rw [hcollects.addresses, Monitoring.rulesCalls, ok_of_toOption hurl]
  dsimp only
  rw [htext]

end Run

end ClusterBundle
