import ClusterBundle.Proofs.Script.Discovery

/-!
What the answers to requests for documents and for the names of some objects say.

Names are listed in the order of their bytes, whatever order the cluster has them in, and an object
without a name is left out.
-/

namespace ClusterBundle.Cluster

/-- There is a document if there is an answer that can be read. -/
theorem document_eq_ok_iff {cluster : Cluster} {query : Query} {document : Json.Value} :
    cluster.document query = .ok document ↔
      ∃ bytes, cluster.answer (.get (query.formatted .json)) = .ok bytes ∧
        Json.read .any bytes = .ok document := by
  unfold Cluster.document
  cases cluster.answer (.get (query.formatted .json)) with
  | error failure => simp [decodeAs]
  | ok bytes =>
  cases hread : Json.read .any bytes with
  | error message => simp [decodeAs_of_error _ hread, hread]
  | ok read => simp [decodeAs_of_ok _ hread, hread]

section

variable {cluster other : Cluster}

/-- Clusters that give the same answer give the same document. -/
theorem document_eq {query : Query}
    (h : cluster.answer (.get (query.formatted .json)) =
      other.answer (.get (query.formatted .json))) :
    cluster.document query = other.document query := by
  unfold document
  rw [h]

/-- Clusters that give the same answer give the same names. -/
theorem names_eq {kind ns selector : String} (shape : Json.Shape)
    (h : cluster.answer (listing kind ns selector) = other.answer (listing kind ns selector)) :
    cluster.names kind shape ns selector = other.names kind shape ns selector := by
  unfold names
  rw [h]

end

/-- What an answer to the request for the objects of a kind that bear a label says of their
names. -/
inductive NamesRead (kind : String) (shape : Json.Shape) (selector : String) :
    Except Failure Bytes → Except Failure (List String) → Prop where
  | unanswered (failure : Failure) :
      NamesRead kind shape selector (.error failure) (.error failure)
  | undecodable {bytes : Bytes} {message : String}
      (h : Json.read (.listing shape) bytes = .error message) :
      NamesRead kind shape selector (.ok bytes)
        (.error (.undecodable s!"{kind} list -l {selector}" message))
  | found {bytes : Bytes} {listing : Json.Value} {names : List String}
      (h : Json.read (.listing shape) bytes = .ok listing)
      (hnames : names.Perm ((listed listing).filterMap objectName?))
      (hsorted : names.Pairwise fun name other => Utf8.encode name ≤ Utf8.encode other) :
      NamesRead kind shape selector (.ok bytes) (.ok names)

theorem read_names (cluster : Cluster) (kind : String) (shape : Json.Shape)
    (ns selector : String) :
    NamesRead kind shape selector (cluster.answer (listing kind ns selector))
      (cluster.names kind shape ns selector) := by
  unfold names
  cases cluster.answer (listing kind ns selector) with
  | error failure => exact .unanswered failure
  | ok bytes =>
  cases hread : Json.read (.listing shape) bytes with
  | error message =>
      rw [decodeAs_of_error _ hread]
      exact .undecodable hread
  | ok listing =>
      rw [decodeAs_of_ok _ hread]
      exact .found hread (List.mergeSort_perm _ _) (Monitoring.sorted_listedNames listing)

/-- Names that are in order already are listed as they are. -/
theorem names_of_sorted {cluster : Cluster} {kind ns selector : String} {shape : Json.Shape}
    {found : List String}
    (h : ((decodeAs (.listing shape) s!"{kind} list -l {selector}"
      (cluster.answer (listing kind ns selector))).map fun list =>
        (listed list).filterMap objectName?).toOption = some found)
    (hsorted : found.Pairwise fun name other => decide (name ≤ other) = true) :
    cluster.names kind shape ns selector = .ok found := by
  unfold names
  cases hlist : decodeAs (.listing shape) s!"{kind} list -l {selector}"
      (cluster.answer (listing kind ns selector)) with
  | error failure =>
      rw [hlist] at h
      cases h
  | ok list =>
      rw [hlist] at h
      have hnames : (listed list).filterMap objectName? = found := Option.some.inj h
      have hlisted : listedNames list = found := by
        rw [listedNames, hnames, List.mergeSort_of_pairwise hsorted]
      exact congrArg Except.ok hlisted

end ClusterBundle.Cluster
