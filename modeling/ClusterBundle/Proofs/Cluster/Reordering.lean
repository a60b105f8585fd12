import ClusterBundle.Proofs.Cluster.Listing
import ClusterBundle.Proofs.Json.Listing

/-!
Names and the order of the objects that bear them.

A list of names holds each name as often as there are objects of that name, in the order of the
bytes. That leaves no choice: objects that a cluster lists in another order have the same list of
names. `AlikeButOrder` is the relation between clusters that differ in such orders and in nothing
else that they answer.
-/

namespace ClusterBundle.Cluster

/-- What an answer to the request for the objects of a kind that bear a label says of their names,
by the items that are in it. -/
inductive NamesListed (kind : String) (shape : Json.Shape) (selector : String) :
    Except Failure Bytes → Except Failure (List String) → Prop where
  | unanswered (failure : Failure) :
      NamesListed kind shape selector (.error failure) (.error failure)
  | undecodable {bytes : Bytes} {message : String}
      (h : Json.read (.listing shape) bytes = .error message) :
      NamesListed kind shape selector (.ok bytes)
        (.error (.undecodable s!"{kind} list -l {selector}" message))
  | bare {bytes : Bytes} (h : Json.read (.listing shape) bytes = .ok (.object [])) :
      NamesListed kind shape selector (.ok bytes) (.ok [])
  | found {bytes : Bytes} {objects : List Json.Value} {names : List String}
      (h : Json.read (.listing shape) bytes = .ok (.object [("items", .list objects)]))
      (hnames : names.Perm (objects.filterMap fun object =>
        (object.at? ["metadata", "name"]).bind Json.Value.text?))
      (hsorted : names.Pairwise fun name other => Utf8.encode name ≤ Utf8.encode other) :
      NamesListed kind shape selector (.ok bytes) (.ok names)

theorem NamesRead.namesListed {kind selector : String} {shape : Json.Shape}
    {answer : Except Failure Bytes} {names : Except Failure (List String)}
    (h : NamesRead kind shape selector answer names) :
    NamesListed kind shape selector answer names := by
  cases h with
  | unanswered failure => exact .unanswered failure
  | undecodable hread => exact .undecodable hread
  | found hread hnames hsorted =>
      cases Json.isListing_of_read hread with
      | bare =>
          obtain rfl := List.perm_nil.1 hnames
          exact .bare hread
      | items objects => exact .found hread hnames hsorted

/-- The names do not hang on the order of the objects. -/
theorem listedNames_eq_of_perm {listing other : Json.Value}
    (h : (listed listing).Perm (listed other)) : listedNames listing = listedNames other := by
  have hnames : (listedNames listing).Perm (listedNames other) :=
    (List.mergeSort_perm _ _).trans ((h.filterMap objectName?).trans (List.mergeSort_perm _ _).symm)
  refine hnames.eq_of_pairwise (fun name same _ _ hle hge => ?_)
    (Monitoring.sorted_listedNames listing) (Monitoring.sorted_listedNames other)
  exact Std.le_antisymm (Utf8.encode_le_iff.1 hle) (Utf8.encode_le_iff.1 hge)

/-! ### Clusters that list the same objects -/

/-- The kinds of which a cluster is asked for a list to find out the names in it, with the shape
that the objects of each must have. -/
def listedKinds : List (String × Json.Shape) :=
  [("pod", Objects.pod), ("deployment", Objects.deployment)]

/-- The shape of the objects that a request asks for as documents, if they are pods or
deployments. -/
def Call.listed? : Call → Option Json.Shape
  | .get query => if query.format = .json then listedKinds.lookup query.kind else none
  | .exec .. | .logs _ | .token .. | .fetch .. => none

/-- Two answers can be read, and they list the same objects, each in an order of its own. -/
def ListSame (shape : Json.Shape) (answer other : Except Failure Bytes) : Prop :=
  ∃ bytes reordered listing same, answer = .ok bytes ∧ other = .ok reordered ∧
    Json.read (.listing shape) bytes = .ok listing ∧
    Json.read (.listing shape) reordered = .ok same ∧ (listed listing).Perm (listed same)

/-- Two clusters give the same answers to everything, but for the order in which lists of pods or
deployments have their objects. -/
structure AlikeButOrder (cluster other : Cluster) : Prop where
  lists : ∀ call shape, call.listed? = some shape →
    cluster.answer call = other.answer call ∨
      ListSame shape (cluster.answer call) (other.answer call)
  others : ∀ call, call.listed? = none → cluster.answer call = other.answer call

namespace AlikeButOrder

variable {cluster other : Cluster} (h : cluster.AlikeButOrder other)

include h

/-- Both clusters have the same names for pods and for deployments. -/
theorem names_eq {kind : String} {shape : Json.Shape} (hkind : listedKinds.lookup kind = some shape)
    (ns selector : String) :
    cluster.names kind shape ns selector = other.names kind shape ns selector := by
  rcases h.lists (listing kind ns selector) shape hkind with hsame | hlists
  · exact Cluster.names_eq shape hsame
  · obtain ⟨bytes, reordered, listing, same, hanswer, hother, hread, hreread, hperm⟩ := hlists
    unfold names
    rw [hanswer, hother, decodeAs_of_ok _ hread, decodeAs_of_ok _ hreread]
    exact congrArg Except.ok (listedNames_eq_of_perm hperm)

theorem podNames_eq (ns selector : String) :
    cluster.podNames ns selector = other.podNames ns selector := h.names_eq rfl ns selector

theorem deploymentNames_eq (ns selector : String) :
    cluster.deploymentNames ns selector = other.deploymentNames ns selector :=
  h.names_eq rfl ns selector

/-- Both clusters have the same documents of other kinds. -/
theorem document_eq {query : Query} (hkind : listedKinds.lookup query.kind = none) :
    cluster.document query = other.document query :=
  Cluster.document_eq (h.others _ hkind)

end AlikeButOrder

end ClusterBundle.Cluster
