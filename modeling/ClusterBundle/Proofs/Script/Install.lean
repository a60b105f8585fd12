import ClusterBundle.Collection.Instances
import ClusterBundle.Collection.Lifecycle
import ClusterBundle.Collection.Monitoring
import ClusterBundle.Proofs.Script.Operation

/-!
The stages as lists of operations.

What a stage does is decided by few things: by the answers to the requests that are made only to
find something out, and at three points by what became of the bundle. Each stage has its script
here, a list of operations that is a function of just that, and the theorem that the stage performs
its script. A script is what the statements about calls, places and outcomes are about.
-/

namespace ClusterBundle

open Cluster (Call Failure Query)

namespace Cluster

/-- The document that a cluster answers a query with. -/
def document (cluster : Cluster) (query : Query) : Except Failure Json.Value :=
  decodeAs .any s!"{query.kind} {query.targetName}"
    (cluster.answer (.get (query.formatted .json)))

/-- The request for the objects of a kind that bear a label. -/
def listing (kind ns selector : String) : Call :=
  .get (((Query.labeled kind selector).inNamespace ns).formatted .json)

/-- The names that a cluster lists. -/
def names (cluster : Cluster) (kind : String) (shape : Json.Shape) (ns selector : String) :
    Except Failure (List String) :=
  (decodeAs (.listing shape) s!"{kind} list -l {selector}"
    (cluster.answer (listing kind ns selector))).map listedNames

def podNames (cluster : Cluster) (ns selector : String) : Except Failure (List String) :=
  cluster.names "pod" Objects.pod ns selector

def deploymentNames (cluster : Cluster) (ns selector : String) :
    Except Failure (List String) :=
  cluster.names "deployment" Objects.deployment ns selector

end Cluster

/-! ### The lifecycle manager -/

/-- What the first stage does. -/
def Lifecycle.script (target : Target) : List Operation :=
  .get ((Query.named "packagemanifest" target.operator).inNamespace marketplaceNamespace)
      (Path.join directory "packagemanifest.yaml") ::
    .get ((Query.all "pod").inNamespace managerNamespace)
      (Path.join directory "olm-pods.yaml") ::
    controllers.flatMap fun (reference, log) =>
      [.logs (.workload managerNamespace reference) (Path.join directory log)]

theorem Performs.lifecycle (site : Site) (p : Progress) (target : Target) :
    Performs site p (Collect.lifecycle target) () (Lifecycle.script target) := by
  refine .tell_bind fun q _ => ?_
  refine .step rfl (.step rfl ?_)
  exact .forM fun _ _ _ => .single rfl

/-! ### The installation -/

namespace Install

/-- The request for the subscription of the operator as a document. -/
def subscriptionCall (target : Target) : Call :=
  .get ((labeled target "subscription").formatted .json)

/-- What a cluster says that the subscription refers to. -/
def foundReferences (cluster : Cluster) (target : Target) : References :=
  match cluster.document (labeled target "subscription") with
  | .error _ => {}
  | .ok list => (references? list).getD {}

/-- What is tallied about reading the subscription: nothing if it is there. -/
def referencesNote (cluster : Cluster) (target : Target) : List Operation :=
  match cluster.document (labeled target "subscription") with
  | .error failure => [.fail (step target "read" "subscription") failure.message]
  | .ok list =>
      match references? list with
      | some _ => []
      | none =>
          [.skip (step target "get" "subscription")
            "no subscription matches the operator; catalog source and install plan unknown"]

/-- What holds of either note holds of all that is tallied about reading the subscription. -/
theorem only_referencesNote {α : Type} {known? : Operation → Option α} {may : α → Prop}
    {cluster : Cluster} {target : Target}
    (hfail : ∀ reason,
      Operation.Only known? may [.fail (step target "read" "subscription") reason])
    (hskip : ∀ reason,
      Operation.Only known? may [.skip (step target "get" "subscription") reason]) :
    Operation.Only known? may (referencesNote cluster target) := by
  unfold referencesNote
  split
  · exact hfail _
  · split
    · exact .nil
    · exact hskip _

/-- Collecting the objects of a query if there is one. -/
def known (query : Option Query) (output : String) : List Operation :=
  match query with
  | some query => [.get query output]
  | none => []

/-- The logs of the deployments, as far as they are known. -/
def logsScript (cluster : Cluster) (target : Target) : List Operation :=
  match cluster.deploymentNames target.ns target.selector with
  | .error failure => [.fail (step target "list" "deployment") failure.message]
  | .ok deployments =>
      if deployments.isEmpty then
        [.skip (step target "logs" "deployment") "no operator deployment found"]
      else
        deployments.flatMap fun name =>
          [.logs (.workload target.ns s!"deployment/{name}")
            (file target (logFile deployments name))]

/-- The objects that are collected one by one. -/
def objectsScript (cluster : Cluster) (target : Target) : List Operation :=
  let references := foundReferences cluster target
  known (catalogQuery? target references) (file target "catalogsource.yaml") ++
    (known (planQuery? target references) (file target "installplan.yaml") ++
      [.get (labeled target "clusterserviceversion") (file target "csv.yaml"),
        .get (labeled target "deployment") (file target "deployment.yaml"),
        .get (labeled target "pod") (file target "pod.yaml")])

/-- The summary, made anew. -/
def summaryScript (cluster : Cluster) (target : Target) : List Operation :=
  .reset (file target "summary.txt") ::
    (summaryQueries target (foundReferences cluster target)).flatMap fun query =>
      [.appendGet (query.formatted .wide) (file target "summary.txt")]

/-- What the second stage does. -/
def script (cluster : Cluster) (target : Target) : List Operation :=
  .get (labeled target "subscription") (file target "subscription.yaml") ::
    .ask (subscriptionCall target) ::
      (referencesNote cluster target ++
        (objectsScript cluster target ++
          (.ask (Cluster.listing "deployment" target.ns target.selector) ::
            (logsScript cluster target ++ summaryScript cluster target))))

end Install

namespace Performs

variable {site : Site} {p : Progress}

theorem installReferences (target : Target) :
    Performs site p (Collect.installReferences target)
      (Install.foundReferences site.cluster target)
      (.ask (Install.subscriptionCall target) :: Install.referencesNote site.cluster target) := by
  refine .asking (Install.subscriptionCall target)
    (site.cluster.document (Install.labeled target "subscription")) rfl ?_
  unfold Install.foundReferences Install.referencesNote
  cases site.cluster.document (Install.labeled target "subscription") with
  | error failure => exact .step rfl (.pure _)
  | ok list =>
      dsimp only
      cases Install.references? list with
      | some references => exact .pure _
      | none => exact .step rfl (.pure _)

theorem getKnown (query : Option Query) (output unknown : String) :
    Performs site p (Collect.getKnown query output unknown) ()
      (Install.known query output) := by
  cases query with
  | some query => exact .single rfl
  | none => exact .tell _

theorem installLogs (target : Target) :
    Performs site p (Collect.installLogs target) ()
      (.ask (Cluster.listing "deployment" target.ns target.selector) ::
        Install.logsScript site.cluster target) := by
  refine .asking (Cluster.listing "deployment" target.ns target.selector)
    (site.cluster.deploymentNames target.ns target.selector) rfl ?_
  unfold Install.logsScript
  cases site.cluster.deploymentNames target.ns target.selector with
  | error failure => exact .single rfl
  | ok deployments =>
      dsimp only
      split
      · exact .single rfl
      · exact .forM fun _ _ _ => .single rfl

theorem summary (target : Target) :
    Performs site p
      (do
        Collect.resetSummary (Install.file target "summary.txt")
        (Install.summaryQueries target (Install.foundReferences site.cluster target)).forM
          fun query =>
            discard (Collect.appendGet (query.formatted .wide)
              (Install.file target "summary.txt"))) ()
      (Install.summaryScript site.cluster target) := by
  refine .step rfl ?_
  exact .forM fun _ _ _ => .single rfl

theorem install (target : Target) :
    Performs site p (Collect.install target) () (Install.script site.cluster target) := by
  refine .tell_bind fun q _ => ?_
  refine .step rfl ?_
  refine .append (installReferences target) fun q _ => ?_
  unfold Install.objectsScript
  rw [List.append_assoc, List.append_assoc]
  refine .append (getKnown _ _ _) fun q _ => ?_
  refine .append (getKnown _ _ _) fun q _ => ?_
  refine .step rfl (.step rfl (.step rfl ?_))
  exact (installLogs target).append fun q _ => summary target

end Performs

end ClusterBundle
