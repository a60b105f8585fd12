import ClusterBundle.Proofs.Bundle.Attempt
import ClusterBundle.Proofs.Json.Conform
import ClusterBundle.Proofs.Script.Records
import ClusterBundle.Proofs.Script.Reach
import ClusterBundle.Proofs.Text.Order

/-!
What comes of finding out how to reach monitoring.

Each of the four reads is said here by what is in the answer to it: an answer that fails, one that
cannot be decoded, one that lacks what is looked for, or one that holds it. `Discovers` puts the
reads in order. It goes on to the next one only behind one that found something, touches neither
the tally nor the bundle before all four have, and saves the certificates then.
-/

namespace ClusterBundle

open Cluster (Call Failure)
open Operation (performAll)

/-- The text that a path leads to counts if it is not empty. -/
theorem Json.Value.textAt?_eq_some_iff {v : Json.Value} {path : List String} {text : String} :
    v.textAt? path = some text ↔ v.at? path = some (.text text) ∧ text ≠ "" := by
  unfold textAt?
  cases hfound : v.at? path with
  | none => simp
  | some found => cases found <;> simp [text?]

section

variable {shape : Json.Shape} {bytes : Bytes} (what : String)

theorem Cluster.decodeAs_of_ok {document : Json.Value} (h : Json.read shape bytes = .ok document) :
    decodeAs shape what (.ok bytes) = .ok document := by
  unfold decodeAs
  dsimp only
  rw [h]
  rfl

theorem Cluster.decodeAs_of_error {message : String} (h : Json.read shape bytes = .error message) :
    decodeAs shape what (.ok bytes) = .error (.undecodable what message) := by
  unfold decodeAs
  dsimp only
  rw [h]
  rfl

end

namespace Monitoring

/-! ### The reads -/

/-- What an answer about the route says of its host. -/
inductive HostRead : Except Failure Bytes → Except Failure String → Prop where
  | unanswered (failure : Failure) : HostRead (.error failure) (.error failure)
  | undecodable {bytes : Bytes} {message : String} (h : Json.read .any bytes = .error message) :
      HostRead (.ok bytes) (.error (.undecodable s!"route {route}" message))
  | missing {bytes : Bytes} {document : Json.Value} (h : Json.read .any bytes = .ok document)
      (hmissing : ∀ host, document.at? ["spec", "host"] = some (.text host) → host = "") :
      HostRead (.ok bytes) (.error (.missingField "route" route "spec.host"))
  | found {bytes : Bytes} {document : Json.Value} {host : String}
      (h : Json.read .any bytes = .ok document)
      (hhost : document.at? ["spec", "host"] = some (.text host)) (hsome : host ≠ "") :
      HostRead (.ok bytes) (.ok host)

/-- What an answer to the request for a token says. -/
inductive TokenRead : Except Failure Bytes → Except Failure String → Prop where
  | unanswered (failure : Failure) : TokenRead (.error failure) (.error failure)
  | found (bytes : Bytes) : TokenRead (.ok bytes) (.ok (Utf8.lossy bytes))

/-- What an answer about the monitoring pods says of their names: all names that are listed, in the
order of their bytes. -/
inductive PodsRead : Except Failure Bytes → Except Failure (List String) → Prop where
  | unanswered (failure : Failure) : PodsRead (.error failure) (.error failure)
  | undecodable {bytes : Bytes} {message : String}
      (h : Json.read (.listing Cluster.Objects.pod) bytes = .error message) :
      PodsRead (.ok bytes) (.error (.undecodable s!"pod list -l {selector}" message))
  | found {bytes : Bytes} {listing : Json.Value} {names : List String}
      (h : Json.read (.listing Cluster.Objects.pod) bytes = .ok listing)
      (hnames : names.Perm ((Cluster.listed listing).filterMap Cluster.objectName?))
      (hsorted : names.Pairwise fun name other => Utf8.encode name ≤ Utf8.encode other) :
      PodsRead (.ok bytes) (.ok names)

/-- What an answer about the configuration map says of the certificates. -/
inductive CertificatesRead : Except Failure Bytes → Except Failure String → Prop where
  | unanswered (failure : Failure) : CertificatesRead (.error failure) (.error failure)
  | undecodable {bytes : Bytes} {message : String} (h : Json.read .any bytes = .error message) :
      CertificatesRead (.ok bytes)
        (.error (.undecodable s!"configmap {certificatesMap}" message))
  | misshapen {bytes : Bytes} {document : Json.Value} {problem : Json.Problem}
      (h : Json.read .any bytes = .ok document)
      (hshape : Json.conform Cluster.Objects.configMap document = .error problem) :
      CertificatesRead (.ok bytes)
        (.error (.undecodable s!"configmap {certificatesMap}" problem.message))
  | missing {bytes : Bytes} {document : Json.Value} (h : Json.read .any bytes = .ok document)
      (hshape : (Json.conform Cluster.Objects.configMap document).toBool = true)
      (hmissing : ∀ text, document.at? ["data", certificatesKey] = some (.text text) →
        ∀ c ∈ text.toList, isBlank c = true) :
      CertificatesRead (.ok bytes)
        (.error (.missingField "configmap" certificatesMap s!"data.{certificatesKey}"))
  | found {bytes : Bytes} {document : Json.Value} {text : String}
      (h : Json.read .any bytes = .ok document)
      (hshape : (Json.conform Cluster.Objects.configMap document).toBool = true)
      (htext : document.at? ["data", certificatesKey] = some (.text text))
      (hsome : ∃ c ∈ text.toList, isBlank c = false) :
      CertificatesRead (.ok bytes) (.ok text)

/-- Names are listed in the order of their bytes. -/
theorem sorted_listedNames (listing : Json.Value) :
    (Cluster.listedNames listing).Pairwise fun name other =>
      Utf8.encode name ≤ Utf8.encode other := by
  have hsorted := @List.pairwise_mergeSort _ (fun a b : String => decide (a ≤ b))
    (fun a b c hab hbc => by
      simpa using Std.le_trans (of_decide_eq_true hab) (of_decide_eq_true hbc))
    (fun a b => by simpa using Std.le_total (a := a) (b := b))
    ((Cluster.listed listing).filterMap Cluster.objectName?)
  exact hsorted.imp fun h => Utf8.encode_le_iff.2 (of_decide_eq_true h)

variable (cluster : Cluster) (settings : Settings)

theorem read_host :
    HostRead (cluster.answer (routeCall settings)) (foundHost cluster settings) := by
  show HostRead _ ((Cluster.decodeAs .any s!"route {route}"
    (cluster.answer (routeCall settings))).bind routeHost)
  cases cluster.answer (routeCall settings) with
  | error failure => exact .unanswered failure
  | ok bytes =>
  cases hread : Json.read .any bytes with
  | error message =>
      rw [Cluster.decodeAs_of_error _ hread]
      exact .undecodable hread
  | ok document =>
      rw [Cluster.decodeAs_of_ok _ hread]
      show HostRead _ (routeHost document)
      unfold routeHost
      cases hhost : document.textAt? ["spec", "host"] with
      | none =>
          refine .missing hread fun host hfound => ?_
          by_cases hsome : host = ""
          · exact hsome
          · rw [Json.Value.textAt?_eq_some_iff.2 ⟨hfound, hsome⟩] at hhost
            cases hhost
      | some host =>
          obtain ⟨hfound, hsome⟩ := Json.Value.textAt?_eq_some_iff.1 hhost
          exact .found hread hfound hsome

theorem read_token :
    TokenRead (cluster.answer (tokenCall settings)) (foundToken cluster settings) := by
  unfold foundToken
  cases cluster.answer (tokenCall settings) with
  | error failure => exact .unanswered failure
  | ok bytes => exact .found bytes

theorem read_pods :
    PodsRead (cluster.answer (podsCall settings)) (foundPods cluster settings) := by
  show PodsRead _ ((Cluster.decodeAs (.listing Cluster.Objects.pod) s!"pod list -l {selector}"
    (cluster.answer (podsCall settings))).map Cluster.listedNames)
  cases cluster.answer (podsCall settings) with
  | error failure => exact .unanswered failure
  | ok bytes =>
  cases hread : Json.read (.listing Cluster.Objects.pod) bytes with
  | error message =>
      rw [Cluster.decodeAs_of_error _ hread]
      exact .undecodable hread
  | ok listing =>
      rw [Cluster.decodeAs_of_ok _ hread]
      exact .found hread (List.mergeSort_perm _ _) (sorted_listedNames listing)

/-- What a document says of the certificates. -/
theorem read_certificatesMap {bytes : Bytes} {document : Json.Value}
    (hread : Json.read .any bytes = .ok document) :
    CertificatesRead (.ok bytes) (Monitoring.certificates document) := by
  unfold Monitoring.certificates certificates.missing
  cases hshape : Json.conform Cluster.Objects.configMap document with
  | error problem => exact .misshapen hread hshape
  | ok map =>
      have hfits : (Json.conform Cluster.Objects.configMap document).toBool = true := by
        rw [hshape]
        rfl
      -- what is looked for in the map is found in the document
      have hsame : map.at? ["data", certificatesKey] =
          document.at? ["data", certificatesKey] := Json.at?_conform rfl hshape _
      dsimp only
      rw [hsame]
      cases hfound : document.at? ["data", certificatesKey] with
      | none => exact .missing hread hfits fun text htext => by simp [hfound] at htext
      | some found =>
          cases found with
          | text text =>
              simp only [Option.bind_some, Json.Value.text?]
              split
              · rename_i hblank
                refine .missing hread hfits fun other hother => ?_
                rw [hfound] at hother
                cases hother
                simpa [Text.isAllBlank] using hblank
              · rename_i hblank
                exact .found hread hfits hfound (by simpa [Text.isAllBlank] using hblank)
          | _ => exact .missing hread hfits fun text htext => by simp [hfound] at htext

theorem read_certificates :
    CertificatesRead (cluster.answer (certificatesCall settings))
      (foundCertificates cluster settings) := by
  show CertificatesRead _ ((Cluster.decodeAs .any s!"configmap {certificatesMap}"
    (cluster.answer (certificatesCall settings))).bind certificates)
  cases cluster.answer (certificatesCall settings) with
  | error failure => exact .unanswered failure
  | ok bytes =>
  cases hread : Json.read .any bytes with
  | error message =>
      rw [Cluster.decodeAs_of_error _ hread]
      exact .undecodable hread
  | ok document =>
      rw [Cluster.decodeAs_of_ok _ hread]
      exact read_certificatesMap hread

/-! ### All or nothing -/

/-- What the four reads find if each finds what it is for. -/
structure FindsAll (host token : String) (pods : List String) (certificates : String) : Prop where
  host : HostRead (cluster.answer (routeCall settings)) (.ok host)
  token : TokenRead (cluster.answer (tokenCall settings)) (.ok token)
  pods : PodsRead (cluster.answer (podsCall settings)) (.ok pods)
  certificates :
    CertificatesRead (cluster.answer (certificatesCall settings)) (.ok certificates)

theorem findsAll_of_found {access : Access} {certificates : String}
    (h : found cluster settings = .ok (access, certificates)) :
    FindsAll cluster settings access.routeHost access.token access.pods certificates ∧
      access.certificatesPath = certificatesFile := by
  obtain ⟨host, token, pods, hhost, htoken, hpods, hcertificates, rfl⟩ := found_eq_ok h
  exact ⟨⟨hhost ▸ read_host cluster settings, htoken ▸ read_token cluster settings,
    hpods ▸ read_pods cluster settings, hcertificates ▸ read_certificates cluster settings⟩, rfl⟩

/-- The requests of the four reads. -/
def readCalls : List Call :=
  [routeCall settings, tokenCall settings, podsCall settings, certificatesCall settings]

/-- The step of saving the certificates. -/
def savingStep : Step :=
  { action := "write", kind := "configmap", name := certificatesMap,
    ns := some settings.monitoringNamespace }

/-- Requests were made, and neither the tally nor the bundle was touched. -/
structure Asked (p : Progress) (calls : List Call) (q : Progress) : Prop where
  calls : q.calls = p.calls ++ calls
  tally : q.tally = p.tally
  tree : q.tree = p.tree

/-- What comes of finding out how to reach monitoring. The first read that does not find what it is
for is the last one, and its failure is what is told. If all of them find it, then the certificates
are saved, and this step alone is tallied. -/
inductive Discovers (site : Site) (settings : Settings) (p : Progress) :
    Except Fault Access → Progress → Prop where
  | noRoute {failure : Failure} {q : Progress}
      (hhost : HostRead (site.cluster.answer (routeCall settings)) (.error failure))
      (hasked : Asked p [routeCall settings] q) :
      Discovers site settings p (.error (.unknown "monitoring route" failure)) q
  | noToken {host : String} {failure : Failure} {q : Progress}
      (hhost : HostRead (site.cluster.answer (routeCall settings)) (.ok host))
      (htoken : TokenRead (site.cluster.answer (tokenCall settings)) (.error failure))
      (hasked : Asked p [routeCall settings, tokenCall settings] q) :
      Discovers site settings p (.error (.unknown "monitoring token" failure)) q
  | noPods {host token : String} {failure : Failure} {q : Progress}
      (hhost : HostRead (site.cluster.answer (routeCall settings)) (.ok host))
      (htoken : TokenRead (site.cluster.answer (tokenCall settings)) (.ok token))
      (hpods : PodsRead (site.cluster.answer (podsCall settings)) (.error failure))
      (hasked : Asked p [routeCall settings, tokenCall settings, podsCall settings] q) :
      Discovers site settings p (.error (.unknown "prometheus pods" failure)) q
  | noCertificates {host token : String} {pods : List String} {failure : Failure} {q : Progress}
      (hhost : HostRead (site.cluster.answer (routeCall settings)) (.ok host))
      (htoken : TokenRead (site.cluster.answer (tokenCall settings)) (.ok token))
      (hpods : PodsRead (site.cluster.answer (podsCall settings)) (.ok pods))
      (hcertificates :
        CertificatesRead (site.cluster.answer (certificatesCall settings)) (.error failure))
      (hasked : Asked p (readCalls settings) q) :
      Discovers site settings p (.error (.unknown "service CA bundle" failure)) q
  | saved {host token : String} {pods : List String} {certificates full : String} {q : Progress}
      (hfound : FindsAll site.cluster settings host token pods certificates)
      (hcalls : q.calls = p.calls ++ readCalls settings)
      (htally : q.tally = p.tally.addWritten)
      (hresolve : site.bundle.resolve certificatesFile = .ok full)
      (hread : File.read q.tree full = .ok (Utf8.encode certificates)) :
      Discovers site settings p
        (.ok { routeHost := host, certificatesPath := certificatesFile, token, pods }) q
  | unsaved {host token : String} {pods : List String} {certificates reason : String}
      {q : Progress} (hfound : FindsAll site.cluster settings host token pods certificates)
      (hcalls : q.calls = p.calls ++ readCalls settings)
      (htally : q.tally = p.tally.addFailed (savingStep settings) reason (some certificatesFile))
      (hkept : ∀ full old, site.bundle.resolve certificatesFile = .ok full →
        File.read p.tree full = .ok old → File.read q.tree full = .ok old) :
      Discovers site settings p
        (.error (.unwritable "service CA bundle" certificatesFile)) q

section

variable {cluster settings} {site : Site} {p q r : Progress} {calls : List Call}

theorem asked_performAll (calls : List Call) :
    Asked p calls (performAll site p (calls.map .ask)) := by
  induction calls generalizing p with
  | nil => exact ⟨(List.append_nil _).symm, rfl, rfl⟩
  | cons call rest ih =>
      obtain ⟨hcalls, htally, htree⟩ := @ih ((Operation.ask call).perform site p)
      refine ⟨?_, htally, htree⟩
      rw [List.map_cons, Operation.performAll_cons, hcalls]
      exact List.append_assoc _ _ _

theorem Asked.of_silent (h : Asked p calls q) (hsilent : r.silent = q.silent) :
    Asked p calls r := by
  obtain ⟨htree, htally, hcalls⟩ := Progress.silent_eq_iff.1 hsilent
  exact ⟨hcalls.trans h.calls, htally.trans h.tally, htree.trans h.tree⟩

end

/-- Saving content either leaves it in the bundle or leaves what was there. -/
theorem save_or_keep (site : Site) (p : Progress) (step : Step) (output : String)
    (content : Bytes) :
    ((Operation.save step output content).outcome? site p = some .written ∧
      ((Operation.save step output content).perform site p).tally = p.tally.addWritten ∧
      ∃ full, site.bundle.resolve output = .ok full ∧
        File.read ((Operation.save step output content).perform site p).tree full =
          .ok content) ∨
    ((Operation.save step output content).outcome? site p = some .failed ∧
      (∃ reason, ((Operation.save step output content).perform site p).tally =
        p.tally.addFailed step reason (some output)) ∧
      ∀ full old, site.bundle.resolve output = .ok full → File.read p.tree full = .ok old →
        File.read ((Operation.save step output content).perform site p).tree full = .ok old) := by
  unfold Operation.outcome? Operation.perform Operation.act Collect.write
  rw [Collect.on_map]
  rcases hput : Collect.Mode.put .replace output content site.bundle p.tree with
    ⟨fault | full, after⟩
  · rw [Collect.on_finish_refused step hput]
    refine .inr ⟨rfl, ⟨_, rfl⟩, fun full old hresolve hread => ?_⟩
    obtain ⟨haccepts, rfl⟩ := Bundle.resolve_ok hresolve
    have hwrite : site.bundle.write p.tree output content = (.error fault, after) := hput
    have hkept := Bundle.read_of_write_error haccepts hread (congrArg (·.1.toBool) hwrite)
    rw [hwrite] at hkept
    exact hkept
  · rw [Collect.on_finish_written step hput]
    exact .inl ⟨rfl, rfl, full, Bundle.read_of_write hput⟩

/-- Saving the certificates when everything was found. -/
theorem discovers_of_findsAll {site : Site} {p q : Progress} {host token certificates : String}
    {pods : List String} (hfound : FindsAll site.cluster settings host token pods certificates)
    (hsilent : q.silent = (performAll site p
      ((readCalls settings).map .ask ++ [saving settings certificates])).silent) :
    Discovers site settings p
      (if (saving settings certificates).outcome? site
          (performAll site p ((readCalls settings).map .ask)) = some .written then
        .ok { routeHost := host, certificatesPath := certificatesFile, token, pods }
      else .error (.unwritable "service CA bundle" certificatesFile)) q := by
  have hasked := @asked_performAll site p (readCalls settings)
  rw [Operation.performAll_append, Operation.performAll_cons, Operation.performAll_nil] at hsilent
  generalize performAll site p ((readCalls settings).map .ask) = r at hasked hsilent ⊢
  obtain ⟨htree, htally, hcalls⟩ := Progress.silent_eq_iff.1 hsilent
  rw [Operation.perform_calls] at hcalls
  have hrequests : q.calls = p.calls ++ readCalls settings := by
    rw [hcalls, hasked.calls]
    exact List.append_nil _
  have hsaving : saving settings certificates =
      .save (savingStep settings) certificatesFile (Utf8.encode certificates) := rfl
  rw [hsaving] at htree htally ⊢
  obtain ⟨houtcome, hsaved, full, hresolve, hread⟩ | ⟨houtcome, ⟨reason, hsaved⟩, hkept⟩ :=
    save_or_keep site r (savingStep settings) certificatesFile (Utf8.encode certificates)
  · rw [houtcome, if_pos rfl]
    rw [← htree] at hread
    rw [hsaved, hasked.tally] at htally
    exact .saved hfound hrequests htally hresolve hread
  · rw [houtcome, if_neg (by decide)]
    rw [hsaved, hasked.tally] at htally
    rw [hasked.tree, ← htree] at hkept
    exact .unsaved hfound hrequests htally hkept

/-- Finding out how to reach monitoring is all or nothing. -/
theorem access_all_or_nothing (site : Site) (settings : Settings) (p : Progress) :
    Discovers site settings p ((Collect.monitoringAccess settings).run.on site p).1
      ((Collect.monitoringAccess settings).run.on site p).2 := by
  obtain ⟨hresult, hsilent⟩ := @Performs.monitoringAccess site p settings
  rw [hresult]
  generalize ((Collect.monitoringAccess settings).run.on site p).2 = q at hsilent ⊢
  have hhost := read_host site.cluster settings
  have htoken := read_token site.cluster settings
  have hpods := read_pods site.cluster settings
  have hcertificates := read_certificates site.cluster settings
  unfold access accessScript reads found at *
  -- the first read that fails decides, and behind all four the certificates are saved
  generalize foundHost site.cluster settings = host at hhost hsilent ⊢
  cases host with
  | error failure => exact .noRoute hhost ((asked_performAll _).of_silent hsilent)
  | ok host =>
  generalize foundToken site.cluster settings = token at htoken hsilent ⊢
  cases token with
  | error failure => exact .noToken hhost htoken ((asked_performAll _).of_silent hsilent)
  | ok token =>
  generalize foundPods site.cluster settings = pods at hpods hsilent ⊢
  cases pods with
  | error failure => exact .noPods hhost htoken hpods ((asked_performAll _).of_silent hsilent)
  | ok pods =>
  generalize foundCertificates site.cluster settings = certificates at hcertificates hsilent ⊢
  cases certificates with
  | error failure =>
      exact .noCertificates hhost htoken hpods hcertificates
        ((asked_performAll _).of_silent hsilent)
  | ok certificates =>
      exact discovers_of_findsAll settings ⟨hhost, htoken, hpods, hcertificates⟩ hsilent

end Monitoring

end ClusterBundle
