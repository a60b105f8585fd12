import ClusterBundle.Collection.Monitoring
import ClusterBundle.Proofs.Script.Install

/-!
Monitoring as a list of operations.

Four reads decide whether monitoring can be reached, each made only if the ones before it found
what they were for. The certificates are saved after that and read again when the rules are
fetched, and these two are the points at which the bundle decides what comes next.
-/

namespace ClusterBundle

open Cluster (Call Failure Query)

namespace Monitoring

/-! ### Finding out how to reach monitoring -/

def routeQuery (settings : Settings) : Query :=
  (Query.named "route" route).inNamespace settings.monitoringNamespace

def certificatesQuery (settings : Settings) : Query :=
  (Query.named "configmap" certificatesMap).inNamespace settings.monitoringNamespace

def routeCall (settings : Settings) : Call := .get ((routeQuery settings).formatted .json)

def tokenCall (settings : Settings) : Call :=
  .token settings.monitoringNamespace serviceAccount settings.tokenDuration

def podsCall (settings : Settings) : Call :=
  Cluster.listing "pod" settings.userMonitoringNamespace selector

def certificatesCall (settings : Settings) : Call :=
  .get ((certificatesQuery settings).formatted .json)

def foundHost (cluster : Cluster) (settings : Settings) : Except Failure String :=
  (cluster.document (routeQuery settings)).bind routeHost

def foundToken (cluster : Cluster) (settings : Settings) : Except Failure String :=
  (cluster.answer (tokenCall settings)).map Utf8.lossy

def foundPods (cluster : Cluster) (settings : Settings) : Except Failure (List String) :=
  cluster.podNames settings.userMonitoringNamespace selector

def foundCertificates (cluster : Cluster) (settings : Settings) : Except Failure String :=
  (cluster.document (certificatesQuery settings)).bind certificates

/-- The requests up to the first that does not find what it is for. -/
def upTo : List (Call × Bool) → List Operation
  | [] => []
  | (call, found) :: rest => .ask call :: if found then upTo rest else []

/-- The requests by which a run finds out how to reach monitoring. -/
def reads (cluster : Cluster) (settings : Settings) : List Operation :=
  upTo
    [(routeCall settings, (foundHost cluster settings).toBool),
      (tokenCall settings, (foundToken cluster settings).toBool),
      (podsCall settings, (foundPods cluster settings).toBool),
      (certificatesCall settings, (foundCertificates cluster settings).toBool)]

/-- What all the requests together find: the access and the certificates for it. -/
def found (cluster : Cluster) (settings : Settings) : Except Fault (Access × String) :=
  match foundHost cluster settings with
  | .error failure => .error (.unknown "monitoring route" failure)
  | .ok host =>
      match foundToken cluster settings with
      | .error failure => .error (.unknown "monitoring token" failure)
      | .ok token =>
          match foundPods cluster settings with
          | .error failure => .error (.unknown "prometheus pods" failure)
          | .ok pods =>
              match foundCertificates cluster settings with
              | .error failure => .error (.unknown "service CA bundle" failure)
              | .ok certificates =>
                  .ok ({ routeHost := host, certificatesPath := certificatesFile, token, pods },
                    certificates)

/-- Saving the certificates. -/
def saving (settings : Settings) (certificates : String) : Operation :=
  .save { action := "write", kind := "configmap", name := certificatesMap,
          ns := some settings.monitoringNamespace } certificatesFile (Utf8.encode certificates)

/-- What a run does to find out how to reach monitoring. -/
def accessScript (cluster : Cluster) (settings : Settings) : List Operation :=
  reads cluster settings ++
    match found cluster settings with
    | .error _ => []
    | .ok (_, certificates) => [saving settings certificates]

/-- The access, given how the certificates could be saved. -/
def access (cluster : Cluster) (settings : Settings)
    (saved : String → Option Outcome) : Except Fault Access :=
  match found cluster settings with
  | .error fault => .error fault
  | .ok (access, certificates) =>
      if saved certificates = some .written then .ok access
      else .error (.unwritable "service CA bundle" certificatesFile)

section

variable {cluster : Cluster} {settings : Settings} {access : Access} {certificates : String}

/-- Everything is found only if each request finds what it is for. -/
theorem found_eq_ok (h : found cluster settings = .ok (access, certificates)) :
    ∃ host token pods, foundHost cluster settings = .ok host ∧
      foundToken cluster settings = .ok token ∧ foundPods cluster settings = .ok pods ∧
      foundCertificates cluster settings = .ok certificates ∧
      access = { routeHost := host, certificatesPath := certificatesFile, token, pods } := by
  unfold found at h
  split at h
  · cases h
  rename_i host hhost
  split at h
  · cases h
  rename_i token htoken
  split at h
  · cases h
  rename_i pods hpods
  split at h
  · cases h
  rename_i certificates hcertificates
  cases h
  exact ⟨host, token, pods, hhost, htoken, hpods, hcertificates, rfl⟩

/-- If everything is found, then every request was made for it. -/
theorem reads_of_found (h : found cluster settings = .ok (access, certificates)) :
    reads cluster settings =
      [.ask (routeCall settings), .ask (tokenCall settings), .ask (podsCall settings),
        .ask (certificatesCall settings)] := by
  obtain ⟨host, token, pods, hhost, htoken, hpods, hcertificates, -⟩ := found_eq_ok h
  unfold reads
  rw [hhost, htoken, hpods, hcertificates]
  rfl

/-- There is an access only if everything was found and the certificates were saved. -/
theorem access_eq_ok {saved : String → Option Outcome}
    (h : Monitoring.access cluster settings saved = .ok access) :
    ∃ certificates, found cluster settings = .ok (access, certificates) ∧
      saved certificates = some .written := by
  unfold Monitoring.access at h
  split at h
  · cases h
  · rename_i found certificates hfound
    split at h
    · rename_i hsaved
      cases h
      exact ⟨certificates, hfound, hsaved⟩
    · cases h

end

/-! ### Collecting -/

/-- A step on the rules that was not tried. -/
def rulesFailure (access : Access) (reason : String) : Operation :=
  .fail { action := "proxy", kind := "rules", name := access.routeHost } reason

/-- Fetching the rules, given what can be read of the bundle. -/
def rulesScript (bundle : Bundle) (tree : File.Tree) (access : Access) : List Operation :=
  match rulesUrl access.routeHost with
  | .error fault => [rulesFailure access s!"invalid route host: {fault.message}"]
  | .ok url =>
      match bundle.resolve access.certificatesPath with
      | .error fault => [rulesFailure access fault.message]
      | .ok path =>
          .reread access.certificatesPath ::
            match File.read tree path with
            | .error fault => [rulesFailure access s!"CA bundle unreadable: {fault.message}"]
            | .ok certificates => [.fetch url.text access.token certificates rulesFile]

/-- Asking one pod about its state. -/
def podScript (settings : Settings) (pod : String) : List Operation :=
  snapshots.flatMap fun (api, file) =>
    [.exec { ns := settings.userMonitoringNamespace, pod, name := containerName }
      ["curl", "-s", s!"{localApi}/{api}"] (Path.join (Path.join directory pod) file)]

/-- What the last stage does. -/
def script (bundle : Bundle) (tree : File.Tree) (access : Access) (settings : Settings) :
    List Operation :=
  rulesScript bundle tree access ++ access.pods.flatMap (podScript settings)

end Monitoring

namespace Performs

open Monitoring (Access Fault)

variable {α β : Type} {site : Site} {p : Progress}

theorem on_run_bind (act : ExceptT Fault Collect α) (next : α → ExceptT Fault Collect β) :
    (act >>= next).run.on site p =
      (match (act.run.on site p).1 with
      | .ok a => (next a).run
      | .error fault => Pure.pure (.error fault)).on site (act.run.on site p).2 := by
  rw [ExceptT.run_bind, Collect.on_bind]
  cases (act.run.on site p).1 <;> rfl

theorem on_run_lift (act : Collect α) :
    (liftM act : ExceptT Fault Collect α).run.on site p =
      (.ok (act.on site p).1, (act.on site p).2) := rfl

theorem on_lookUp (what : String) (find : Collect (Except Failure α)) :
    (Collect.lookUp what find).run.on site p =
      ((find.on site p).1.mapError (.unknown what), (find.on site p).2) := by
  unfold Collect.lookUp
  rw [on_run_bind, on_run_lift]
  cases (find.on site p).1 <;> rfl

/-- Looking something up that can be found. -/
theorem lookUp_ok {find : Collect (Except Failure α)} {a : α} {b : Except Fault β}
    {next : α → ExceptT Fault Collect β} {ops : List Operation} (what : String) (call : Call)
    (hfind : find.on site p = (.ok a, (Operation.ask call).perform site p))
    (hnext : Performs site ((Operation.ask call).perform site p) (next a).run b ops) :
    Performs site p (Collect.lookUp what find >>= next).run b (.ask call :: ops) := by
  unfold Performs
  rw [on_run_bind, on_lookUp, hfind]
  exact hnext

/-- Looking something up that cannot be found. -/
theorem lookUp_error {find : Collect (Except Failure α)} {failure : Failure}
    {next : α → ExceptT Fault Collect β} (what : String) (call : Call)
    (hfind : find.on site p = (.error failure, (Operation.ask call).perform site p)) :
    Performs site p (Collect.lookUp what find >>= next).run (.error (.unknown what failure))
      [.ask call] := by
  unfold Performs
  rw [on_run_bind, on_lookUp, hfind]
  exact ⟨rfl, rfl⟩

/-- Going on only if something could be saved. -/
theorem save_or {a : α} {events : List Event} (step : Step) (output : String) (content : Bytes)
    (fault : Fault) :
    Performs site p
      (ExceptT.run do
        let outcome ← Collect.write step output content
        if outcome ≠ .written then
          throw fault
        Collect.emit events
        return a)
      (if (Operation.save step output content).outcome? site p = some .written then .ok a
        else .error fault)
      [.save step output content] := by
  have houtcome : (Operation.save step output content).outcome? site p =
      some ((Collect.write step output content).on site p).1 := rfl
  unfold Performs
  rw [houtcome, on_run_bind, on_run_lift]
  by_cases hwritten : ((Collect.write step output content).on site p).1 = .written
  · simp only [hwritten, ne_eq, not_true_eq_false, if_false, if_true]
    exact ⟨rfl, rfl⟩
  · simp only [hwritten, ne_eq, not_false_eq_true, if_true, Option.some.injEq, if_false]
    exact ⟨rfl, rfl⟩

theorem monitoringAccess (settings : Settings) :
    Performs site p (Collect.monitoringAccess settings).run
      (Monitoring.access site.cluster settings fun certificates =>
        (Monitoring.saving settings certificates).outcome? site
          (Operation.performAll site p (Monitoring.reads site.cluster settings)))
      (Monitoring.accessScript site.cluster settings) := by
  unfold Monitoring.accessScript Monitoring.access Monitoring.reads Monitoring.found
  cases hhost : Monitoring.foundHost site.cluster settings with
  | error failure =>
      exact lookUp_error _ (Monitoring.routeCall settings) (Prod.ext hhost rfl)
  | ok host =>
      refine lookUp_ok _ (Monitoring.routeCall settings) (Prod.ext hhost rfl) ?_
      cases htoken : Monitoring.foundToken site.cluster settings with
      | error failure =>
          exact lookUp_error _ (Monitoring.tokenCall settings) (Prod.ext htoken rfl)
      | ok token =>
          refine lookUp_ok _ (Monitoring.tokenCall settings) (Prod.ext htoken rfl) ?_
          cases hpods : Monitoring.foundPods site.cluster settings with
          | error failure =>
              exact lookUp_error _ (Monitoring.podsCall settings) (Prod.ext hpods rfl)
          | ok pods =>
              refine lookUp_ok _ (Monitoring.podsCall settings) (Prod.ext hpods rfl) ?_
              cases hcertificates : Monitoring.foundCertificates site.cluster settings with
              | error failure =>
                  exact lookUp_error _ (Monitoring.certificatesCall settings)
                    (Prod.ext hcertificates rfl)
              | ok certificates =>
                  refine lookUp_ok _ (Monitoring.certificatesCall settings)
                    (Prod.ext hcertificates rfl) ?_
                  exact save_or _ _ _ _

theorem rules (access : Access) :
    Performs site p (Collect.rules access Monitoring.rulesFile) ()
      (Monitoring.rulesScript site.bundle p.tree access) := by
  have hread (next : Site → Collect Unit) :
      (read >>= next : Collect Unit).on site p = (next site).on site p := rfl
  refine .of_on (hread _) ?_
  unfold Monitoring.rulesScript
  dsimp only
  cases Monitoring.rulesUrl access.routeHost with
  | error fault => exact .single rfl
  | ok url =>
      dsimp only
      cases site.bundle.resolve access.certificatesPath with
      | error fault => exact .single rfl
      | ok path =>
          have hprogress (next : Progress → Collect Unit) :
              (getThe Progress >>= next : Collect Unit).on site p =
                (next p).on site p := rfl
          refine .of_on (hprogress _) ?_
          dsimp only
          cases File.read p.tree path with
          | error fault => exact .single rfl
          | ok certificates => exact .single rfl

theorem monitoring (access : Access) (settings : Settings) :
    Performs site p (Collect.monitoring access settings) ()
      (Monitoring.script site.bundle p.tree access settings) := by
  refine .tell_bind fun q hq => ?_
  have htree : q.tree = p.tree := (Progress.silent_eq_iff.1 hq).1
  unfold Monitoring.script
  rw [← htree]
  refine .append (rules access) fun q _ => ?_
  exact .forM fun _ _ _ => .forM fun _ _ _ => .single rfl

end Performs

end ClusterBundle
