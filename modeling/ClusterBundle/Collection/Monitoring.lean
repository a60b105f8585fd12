import ClusterBundle.Collection.Listing
import ClusterBundle.Settings
import ClusterBundle.Url.Parser

/-!
The last stage: the monitoring of user workloads.

Monitoring is reached through a route, with a token and a bundle of certificates. All that is
found out before anything is collected; if any of it cannot be found, the stage is left out.
-/

namespace ClusterBundle

namespace Monitoring

def route : String := "thanos-querier"
def serviceAccount : String := "prometheus-k8s"
def certificatesMap : String := "serving-certs-ca-bundle"
def certificatesKey : String := "service-ca.crt"
def selector : String := "app.kubernetes.io/name=prometheus"
def containerName : String := "prometheus"
def localApi : String := "http://localhost:9090/api/v1"
def rulesPath : String := "api/v1/rules"
def directory : String := "uwm-info"
def certificatesFile : String := Path.join directory "ca-bundle.crt"
def rulesFile : String := Path.join directory "rules.json"

/-- What is asked of each monitoring pod, with the file for the answer below the pod's directory. -/
def snapshots : List (String × String) :=
  [("status/runtimeinfo", "status/runtimeinfo.json"),
    ("status/config", "status/config.json"),
    ("targets?state=active", "active-targets.json"),
    ("status/tsdb", "status/tsdb.json")]

/-- All that is needed to reach monitoring. -/
structure Access where
  routeHost : String
  /-- The place of the certificates in the bundle. -/
  certificatesPath : String
  token : String
  pods : List String
  deriving Repr, DecidableEq

/-- The form in which access data may be shown: all but the token. -/
def Access.shown (access : Access) : String :=
  let pods := Text.joinWith ", " (access.pods.map Quoted.shown)
  "MonitoringContext \x7b route_host: " ++ Quoted.shown access.routeHost ++
    ", ca_bundle_path: " ++ Quoted.shown access.certificatesPath ++
    ", service_account_token: \"<redacted>\", prometheus_pod_names: [" ++ pods ++ "] \x7d"

/-- Why monitoring cannot be reached. -/
inductive Fault where
  | unknown (what : String) (failure : Cluster.Failure)
  /-- What was found could not be saved. -/
  | unwritable (what path : String)
  deriving Repr, DecidableEq

namespace Fault

def message : Fault → String
  | .unknown what failure => s!"discovery of {what} failed: {failure.message}"
  | .unwritable what path => s!"discovered {what} could not be saved to {path}"

/-- The texts of the faults that a fault comes from. -/
def sources : Fault → List String
  | .unknown _ failure => failure.message :: failure.sources
  | .unwritable .. => []

end Fault

open Cluster (Query Failure)

/-- The host of the route. -/
def routeHost (document : Json.Value) : Except Failure String :=
  match document.textAt? ["spec", "host"] with
  | some host => .ok host
  | none => .error (.missingField "route" route "spec.host")

/-- The certificates in a configuration map. -/
def certificates (document : Json.Value) : Except Failure String :=
  match Json.conform Cluster.Objects.configMap document with
  | .error problem => .error (.undecodable s!"configmap {certificatesMap}" problem.message)
  | .ok configMap =>
      match (configMap.at? ["data", certificatesKey]).bind Json.Value.text? with
      | some text =>
          if Text.isAllBlank text then .error (missing ())
          else .ok text
      | none => .error (missing ())
where
  missing : Unit → Failure
    | () => .missingField "configmap" certificatesMap s!"data.{certificatesKey}"

/-- The address of the alerting rules behind the route. -/
def rulesUrl (routeHost : String) : Except Url.Fault Url :=
  match Url.parseAbsolute s!"https://{routeHost}/" with
  | .error fault => .error fault
  | .ok base => base.join rulesPath

end Monitoring

namespace Collect

open Cluster (Query Failure Container)
open Monitoring (Access Fault)

/-- Names what could not be found out. -/
def lookUp {α : Type} (what : String) (find : Collect (Except Failure α)) :
    ExceptT Fault Collect α := do
  match ← find with
  | .ok found => return found
  | .error failure => throw (.unknown what failure)

/-- Finds out how to reach monitoring, and saves the certificates in the bundle. -/
def monitoringAccess (settings : Settings) : ExceptT Fault Collect Access := do
  let ns := settings.monitoringNamespace
  let host ← lookUp "monitoring route" do
    let route ← document ((Query.named "route" Monitoring.route).inNamespace ns)
    return route.bind Monitoring.routeHost
  let token ← lookUp "monitoring token" do
    let answer ← ask (.token ns Monitoring.serviceAccount settings.tokenDuration)
    return answer.map Utf8.lossy
  let pods ← lookUp "prometheus pods"
    (podNames settings.userMonitoringNamespace Monitoring.selector)
  let bundle ← lookUp "service CA bundle" do
    let map ← document ((Query.named "configmap" Monitoring.certificatesMap).inNamespace ns)
    return map.bind Monitoring.certificates
  let step : Step :=
    { action := "write", kind := "configmap", name := Monitoring.certificatesMap, ns := some ns }
  let outcome ← write step Monitoring.certificatesFile (Utf8.encode bundle)
  if outcome ≠ .written then
    throw (.unwritable "service CA bundle" Monitoring.certificatesFile)
  emit [.info "Discovered monitoring endpoints"
    [("route_host", host), ("prometheus_pods", toString pods.length)]]
  return { routeHost := host, certificatesPath := Monitoring.certificatesFile, token, pods }

/-- Collects the alerting rules through the route. -/
def rules (access : Access) (output : String) : Collect Unit := do
  let site ← read
  let fail (reason : String) : Collect Unit :=
    noteFailed { action := "proxy", kind := "rules", name := access.routeHost } reason
  match Monitoring.rulesUrl access.routeHost with
  | .error fault => fail s!"invalid route host: {fault.message}"
  | .ok url =>
      match site.bundle.resolve access.certificatesPath with
      | .error fault => fail fault.message
      | .ok path =>
          match File.read (← getThe Progress).tree path with
          | .error fault => fail s!"CA bundle unreadable: {fault.message}"
          | .ok certificates => discard (fetch url.text access.token certificates output)

/-- Collects the alerting rules and the state of every monitoring pod. -/
def monitoring (access : Access) (settings : Settings) : Collect Unit := do
  emit [.info "Collecting monitoring snapshot"
    [("stage", "monitoring"), ("route_host", access.routeHost),
      ("pods", toString access.pods.length)]]
  rules access Monitoring.rulesFile
  access.pods.forM fun pod => do
    let container : Container :=
      { ns := settings.userMonitoringNamespace, pod, name := Monitoring.containerName }
    Monitoring.snapshots.forM fun (api, file) =>
      discard (exec container ["curl", "-s", s!"{Monitoring.localApi}/{api}"]
        (Path.join (Path.join Monitoring.directory pod) file))

end Collect

end ClusterBundle
