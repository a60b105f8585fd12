import ClusterBundle.Collection.Exporter
import ClusterBundle.Collection.Install

/-!
Operations: the single things that a run does.

A stage is a program, and what it does next may depend on an answer of the cluster or on what the
bundle looks like. Most of what there is to say about a stage needs no program: which requests it
makes, which places of the bundle it writes to and how its steps come out can be read off the list
of operations that it performs. An operation has no branch in it. `performAll` carries out a list
of them, and `trace` keeps how each of them came out.

`Performs` is the judgment that connects the two: a computation has a result and does what a list
of operations does. It leaves the log alone, because events are also told between operations and
say nothing that the progress does not say already.
-/

namespace ClusterBundle

open Cluster (Call Failure Query Container LogSource)

/-- A result is known by what is in it. -/
theorem ok_of_toOption {ε α : Type} {result : Except ε α} {a : α}
    (h : result.toOption = some a) : result = .ok a := by
  cases result with
  | error fault => cases h
  | ok b => exact congrArg Except.ok (Option.some.inj h)

namespace Collect

variable {α β : Type} {site : Site} {p : Progress}

/-- What a computation comes to at a site, with the progress after it. -/
def on (act : Collect α) (site : Site) (p : Progress) : α × Progress := (act.run site).run p

@[simp] theorem on_pure (a : α) : (pure a : Collect α).on site p = (a, p) := rfl

@[simp] theorem on_bind (act : Collect α) (next : α → Collect β) :
    (act >>= next).on site p =
      (next (act.on site p).1).on site (act.on site p).2 := rfl

@[simp] theorem on_map (act : Collect α) (f : α → β) :
    (f <$> act).on site p = (f (act.on site p).1, (act.on site p).2) := rfl

@[simp] theorem on_discard (act : Collect α) :
    (discard act).on site p = ((), (act.on site p).2) := rfl

@[simp] theorem on_emit (events : List Event) :
    (emit events).on site p = ((), { p with log := p.log ++ events }) := rfl

@[simp] theorem on_ask (call : Call) :
    (ask call).on site p =
      (site.cluster.answer call,
        { p with calls := p.calls ++ [call], log := p.log ++ site.cluster.notices call }) := rfl

@[simp] theorem on_inTree (act : Bundle → File.Tree → α × File.Tree) :
    (inTree act).on site p =
      ((act site.bundle p.tree).1, { p with tree := (act site.bundle p.tree).2 }) := rfl

@[simp] theorem on_recordWritten (step : Step) (path : String) :
    (recordWritten step path).on site p =
      (.written, { p with
        tally := p.tally.addWritten, log := p.log ++ [Tally.writtenEvent step path] }) := rfl

@[simp] theorem on_recordSkipped (step : Step) (reason : String) (output : Option String) :
    (recordSkipped step reason output).on site p =
      (.skipped, { p with
        tally := p.tally.addSkipped step reason output
        log := p.log ++ [Tally.skippedEvent step reason] }) := rfl

@[simp] theorem on_recordFailed (step : Step) (reason : String) (output : Option String) :
    (recordFailed step reason output).on site p =
      (.failed, { p with
        tally := p.tally.addFailed step reason output
        log := p.log ++ [Tally.failedEvent step reason] }) := rfl

/-! ### How a step comes out

`finish` is the one place where an answer becomes an outcome. These are its four cases. -/

theorem on_finish_absent (mode : Mode) (step : Step) (output : String) {failure : Failure}
    (h : failure.isNotFound = true) :
    (finish mode step output (.error failure)).on site p =
      (recordSkipped step failure.message (some output)).on site p := by
  simp only [finish, h, if_true]

theorem on_finish_failed (mode : Mode) (step : Step) (output : String) {failure : Failure}
    (h : failure.isNotFound = false) :
    (finish mode step output (.error failure)).on site p =
      (recordFailed step failure.message (some output)).on site p := by
  simp only [finish, h, Bool.false_eq_true, if_false]

theorem on_finish_written {mode : Mode} {output : String} {content : Bytes} {path : String}
    {tree : File.Tree} (step : Step)
    (h : mode.put output content site.bundle p.tree = (.ok path, tree)) :
    (finish mode step output (.ok content)).on site p =
      (recordWritten step path).on site { p with tree } := by
  simp only [finish, on_bind, on_inTree, h]

theorem on_finish_refused {mode : Mode} {output : String} {content : Bytes}
    {fault : Bundle.Fault} {tree : File.Tree} (step : Step)
    (h : mode.put output content site.bundle p.tree = (.error fault, tree)) :
    (finish mode step output (.ok content)).on site p =
      (recordFailed step fault.message (some output)).on site { p with tree } := by
  simp only [finish, on_bind, on_inTree, h]

/-- Makes the directory of a pod, and tells an observer if that cannot be done. -/
def podDirectory (pod path : String) : Collect Unit := do
  match ← inTree fun bundle tree => bundle.createDirectory tree path with
  | .ok _ => pure ()
  | .error fault =>
      emit [.warning "Could not create pod directory" [("pod", pod), ("error", fault.message)]]

end Collect

/-- One thing that a run does. -/
inductive Operation where
  /-- Makes a request and puts the answer into the bundle. -/
  | collect (mode : Collect.Mode) (step : Step) (output : String) (call : Call)
  /-- Puts content into the bundle that is known already. -/
  | save (step : Step) (output : String) (content : Bytes)
  | skip (step : Step) (reason : String)
  | fail (step : Step) (reason : String)
  /-- Makes a request only to decide what comes next. -/
  | ask (call : Call)
  /-- Makes the directory of a pod. -/
  | makeDirectory (pod path : String)
  /-- Empties a file that is going to be added to. -/
  | reset (path : String)
  /-- Reads a file of the bundle again. -/
  | reread (path : String)
  deriving DecidableEq

namespace Operation

def get (query : Query) (output : String) : Operation :=
  .collect .replace (.ofQuery query) output (.get query)

def appendGet (query : Query) (output : String) : Operation :=
  .collect .append (.ofQuery query) output (.get query)

def exec (container : Container) (command : List String) (output : String) : Operation :=
  .collect .replace (.ofCommand container command) output (.exec container command)

def logs (source : LogSource) (output : String) : Operation :=
  .collect .replace (.ofLog source) output (.logs source)

def fetch (url token : String) (certificates : Bytes) (output : String) : Operation :=
  .collect .replace (.ofFetch url) output (.fetch url token certificates)

/-- The computation that an operation stands for, with its outcome if it is a step that is
tallied. -/
def act : Operation → Collect (Option Outcome)
  | .collect mode step output call => do
      return some (← Collect.finish mode step output (← Collect.ask call))
  | .save step output content => some <$> Collect.write step output content
  | .skip step reason => some <$> Collect.recordSkipped step reason none
  | .fail step reason => some <$> Collect.recordFailed step reason none
  | .ask call => do
      discard (Collect.ask call)
      return none
  | .makeDirectory pod path => do
      Collect.podDirectory pod path
      return none
  | .reset path => do
      Collect.resetSummary path
      return none
  | .reread _ => return none

/-- The request that an operation makes. -/
def call? : Operation → Option Call
  | .collect _ _ _ call | .ask call => some call
  | _ => none

/-- Whether an operation is a step that is tallied. -/
def isTallied : Operation → Bool
  | .collect .. | .save .. | .skip .. | .fail .. => true
  | _ => false

/-- How an operation comes out. -/
def outcome? (site : Site) (p : Progress) (op : Operation) : Option Outcome := (op.act.on site p).1

def perform (site : Site) (p : Progress) (op : Operation) : Progress := (op.act.on site p).2

def performAll (site : Site) (p : Progress) (ops : List Operation) : Progress :=
  ops.foldl (perform site) p

/-- The operations in order, each with how it came out. -/
def trace (site : Site) : Progress → List Operation → List (Operation × Option Outcome)
  | _, [] => []
  | p, op :: ops => (op, op.outcome? site p) :: trace site (op.perform site p) ops

end Operation

/-- A progress without what an observer was told. -/
def Progress.silent (p : Progress) : Progress := { p with log := [] }

@[simp] theorem Progress.silent_tree (p : Progress) : p.silent.tree = p.tree := rfl
@[simp] theorem Progress.silent_tally (p : Progress) : p.silent.tally = p.tally := rfl
@[simp] theorem Progress.silent_calls (p : Progress) : p.silent.calls = p.calls := rfl

/-- Two progresses are the same without their logs if everything else is. -/
theorem Progress.silent_eq_iff {p q : Progress} :
    p.silent = q.silent ↔ p.tree = q.tree ∧ p.tally = q.tally ∧ p.calls = q.calls := by
  cases p
  cases q
  simp [Progress.silent]

/-! ### The log decides nothing

Neither the outcome of an operation nor anything that it does beside telling an observer depends
on what was told before. So a computation that tells events between its operations can be compared
with the bare operations. -/

theorem Collect.finish_silent (site : Site) {p q : Progress} (h : p.silent = q.silent)
    (mode : Collect.Mode) (step : Step) (output : String) (answer : Except Failure Bytes) :
    ((Collect.finish mode step output answer).on site p).1 =
        ((Collect.finish mode step output answer).on site q).1 ∧
      ((Collect.finish mode step output answer).on site p).2.silent =
        ((Collect.finish mode step output answer).on site q).2.silent := by
  obtain ⟨htree, htally, hcalls⟩ := Progress.silent_eq_iff.1 h
  cases answer with
  | error failure =>
      cases habsent : failure.isNotFound with
      | true =>
          rw [on_finish_absent _ _ _ habsent, on_finish_absent _ _ _ habsent]
          simp [Progress.silent, htree, htally, hcalls]
      | false =>
          rw [on_finish_failed _ _ _ habsent, on_finish_failed _ _ _ habsent]
          simp [Progress.silent, htree, htally, hcalls]
  | ok content =>
      rcases hput : mode.put output content site.bundle p.tree with ⟨_ | path, tree⟩
      · rw [on_finish_refused step hput, on_finish_refused step (htree ▸ hput)]
        simp [Progress.silent, htally, hcalls]
      · rw [on_finish_written step hput, on_finish_written step (htree ▸ hput)]
        simp [Progress.silent, htally, hcalls]

namespace Operation

variable {site : Site} {p q : Progress}

theorem act_silent (h : p.silent = q.silent) (op : Operation) :
    op.outcome? site p = op.outcome? site q ∧
      (op.perform site p).silent = (op.perform site q).silent := by
  obtain ⟨htree, htally, hcalls⟩ := Progress.silent_eq_iff.1 h
  cases op with
  | collect mode step output call =>
      have hasked :
          ((Collect.ask call).on site p).2.silent = ((Collect.ask call).on site q).2.silent := by
        simp [Progress.silent, htree, htally, hcalls]
      obtain ⟨hout, hrest⟩ :=
        Collect.finish_silent site hasked mode step output (site.cluster.answer call)
      exact ⟨by simpa [outcome?, act] using hout, by simpa [perform, act] using hrest⟩
  | save step output content =>
      obtain ⟨hout, hrest⟩ := Collect.finish_silent site h .replace step output (.ok content)
      exact ⟨by simpa [outcome?, act, Collect.write] using hout,
        by simpa [perform, act, Collect.write] using hrest⟩
  | skip step reason | fail step reason | ask call =>
      simp [outcome?, perform, act, Progress.silent, htree, htally, hcalls]
  | makeDirectory pod path =>
      refine ⟨rfl, ?_⟩
      simp only [perform, act, Collect.podDirectory, Collect.on_bind, Collect.on_inTree, htree]
      cases (site.bundle.createDirectory q.tree path).1 <;>
        simp [Progress.silent, htally, hcalls]
  | reset path =>
      refine ⟨rfl, ?_⟩
      simp only [perform, act, Collect.resetSummary, Collect.on_bind, Collect.on_inTree, htree]
      cases (site.bundle.write q.tree path []).1 <;> simp [Progress.silent, htally, hcalls]
  | reread path => exact ⟨rfl, h⟩

theorem outcome?_silent (h : p.silent = q.silent) (op : Operation) :
    op.outcome? site p = op.outcome? site q := (act_silent h op).1

theorem perform_silent (h : p.silent = q.silent) (op : Operation) :
    (op.perform site p).silent = (op.perform site q).silent := (act_silent h op).2

theorem performAll_silent (h : p.silent = q.silent) (ops : List Operation) :
    (performAll site p ops).silent = (performAll site q ops).silent := by
  induction ops generalizing p q with
  | nil => exact h
  | cons op ops ih => exact ih (perform_silent h op)

@[simp] theorem performAll_nil : performAll site p [] = p := rfl

@[simp] theorem performAll_cons (op : Operation) (ops : List Operation) :
    performAll site p (op :: ops) = performAll site (op.perform site p) ops := rfl

theorem performAll_append (ops more : List Operation) :
    performAll site p (ops ++ more) = performAll site (performAll site p ops) more := by
  simp [performAll]

theorem trace_append (ops more : List Operation) :
    trace site p (ops ++ more) =
      trace site p ops ++ trace site (performAll site p ops) more := by
  induction ops generalizing p with
  | nil => rfl
  | cons op ops ih => simp [trace, ih]

theorem map_fst_trace (ops : List Operation) : (trace site p ops).map Prod.fst = ops := by
  induction ops generalizing p with
  | nil => rfl
  | cons op ops ih => simp [trace, ih]

/-! ### Requests and counts

Which requests are made and how many steps are tallied does not hang on how anything comes out. -/

theorem finish_calls (mode : Collect.Mode) (step : Step) (output : String)
    (answer : Except Failure Bytes) :
    ((Collect.finish mode step output answer).on site p).2.calls = p.calls := by
  cases answer with
  | error failure => cases habsent : failure.isNotFound <;> simp [Collect.finish, habsent]
  | ok content =>
      rcases hput : mode.put output content site.bundle p.tree with ⟨_ | path, tree⟩
      · rw [Collect.on_finish_refused step hput]
        rfl
      · rw [Collect.on_finish_written step hput]
        rfl

theorem finish_total (mode : Collect.Mode) (step : Step) (output : String)
    (answer : Except Failure Bytes) :
    ((Collect.finish mode step output answer).on site p).2.tally.total = p.tally.total + 1 := by
  cases answer with
  | error failure =>
      cases habsent : failure.isNotFound <;>
        simp [Collect.finish, habsent, Tally.total, Tally.addSkipped, Tally.addFailed] <;> omega
  | ok content =>
      rcases hput : mode.put output content site.bundle p.tree with ⟨_ | path, tree⟩
      · rw [Collect.on_finish_refused step hput]
        simp [Tally.total, Tally.addFailed]
        omega
      · rw [Collect.on_finish_written step hput]
        simp [Tally.total, Tally.addWritten]
        omega

theorem perform_calls (op : Operation) :
    (op.perform site p).calls = p.calls ++ op.call?.toList := by
  cases op with
  | collect mode step output call => simp [perform, act, call?, finish_calls]
  | save step output content => simp [perform, act, call?, Collect.write, finish_calls]
  | skip step reason | fail step reason | ask call | reread path => simp [perform, act, call?]
  | makeDirectory pod path =>
      simp only [perform, act, Collect.podDirectory, Collect.on_bind, Collect.on_inTree]
      cases (site.bundle.createDirectory p.tree path).1 <;> simp [call?]
  | reset path =>
      simp only [perform, act, Collect.resetSummary, Collect.on_bind, Collect.on_inTree]
      cases (site.bundle.write p.tree path []).1 <;> simp [call?]

theorem perform_total (op : Operation) :
    (op.perform site p).tally.total = p.tally.total + if op.isTallied then 1 else 0 := by
  cases op with
  | collect mode step output call => simp [perform, act, isTallied, finish_total]
  | save step output content => simp [perform, act, isTallied, Collect.write, finish_total]
  | skip step reason | fail step reason =>
      simp [perform, act, isTallied, Tally.total, Tally.addSkipped, Tally.addFailed]
      omega
  | ask call | reread path => simp [perform, act, isTallied]
  | makeDirectory pod path =>
      simp only [perform, act, Collect.podDirectory, Collect.on_bind, Collect.on_inTree]
      cases (site.bundle.createDirectory p.tree path).1 <;> simp [isTallied]
  | reset path =>
      simp only [perform, act, Collect.resetSummary, Collect.on_bind, Collect.on_inTree]
      cases (site.bundle.write p.tree path []).1 <;> simp [isTallied]

theorem performAll_calls (ops : List Operation) :
    (performAll site p ops).calls = p.calls ++ ops.filterMap call? := by
  induction ops generalizing p with
  | nil => simp
  | cons op ops ih =>
      rw [performAll_cons, ih, perform_calls, List.append_assoc, List.filterMap_cons]
      cases op.call? <;> rfl

theorem performAll_total (ops : List Operation) :
    (performAll site p ops).tally.total = p.tally.total + ops.countP isTallied := by
  induction ops generalizing p with
  | nil => simp
  | cons op ops ih =>
      rw [performAll_cons, ih, perform_total, List.countP_cons]
      omega

end Operation

/-! ### Looking through scripts

Much of what there is to say about a script says something about every operation in it. -/

namespace Operation

/-- Whatever of one kind is known about some operations is as it may be. -/
def Only {α : Type} (known? : Operation → Option α) (may : α → Prop) (ops : List Operation) :
    Prop :=
  ∀ op ∈ ops, ∀ a, known? op = some a → may a

namespace Only

variable {α : Type} {known? : Operation → Option α} {may could : α → Prop} {op : Operation}
  {ops others : List Operation}

theorem nil : Only known? may [] := fun _ hop => absurd hop (List.not_mem_nil)

/-- An operation of which something is known that it may be. -/
theorem having (a : α) (hop : known? op = some a) (ha : may a) (h : Only known? may ops) :
    Only known? may (op :: ops) := by
  refine List.forall_mem_cons.2 ⟨fun b hb => ?_, h⟩
  obtain rfl := Option.some.inj (hop.symm.trans hb)
  exact ha

/-- An operation of which nothing is known. -/
theorem without (hop : known? op = none) (h : Only known? may ops) :
    Only known? may (op :: ops) := by
  refine List.forall_mem_cons.2 ⟨fun a ha => ?_, h⟩
  rw [hop] at ha
  cases ha

theorem append (h : Only known? may ops) (hothers : Only known? may others) :
    Only known? may (ops ++ others) :=
  List.forall_mem_append.2 ⟨h, hothers⟩

theorem flatMap {γ : Type} {xs : List γ} {f : γ → List Operation}
    (h : ∀ x ∈ xs, Only known? may (f x)) : Only known? may (xs.flatMap f) := by
  intro op hop
  obtain ⟨x, hx, hop⟩ := List.mem_flatMap.1 hop
  exact h x hx op hop

theorem map {γ : Type} {xs : List γ} {f : γ → Operation}
    (h : ∀ x ∈ xs, ∃ a, known? (f x) = some a ∧ may a) : Only known? may (xs.map f) := by
  intro op hop b hb
  obtain ⟨x, hx, rfl⟩ := List.mem_map.1 hop
  obtain ⟨a, ha, hmay⟩ := h x hx
  obtain rfl := Option.some.inj (ha.symm.trans hb)
  exact hmay

theorem mono (h : Only known? may ops) (hmay : ∀ a, may a → could a) : Only known? could ops :=
  fun op hop a ha => hmay a (h op hop a ha)

end Only

end Operation

/-! ### Computations and what they perform -/

/-- `Performs site p act a ops`: started from `p`, the computation `act` has the result `a`, and
but for the log it leaves behind what the operations `ops` leave behind. -/
def Performs {α : Type} (site : Site) (p : Progress) (act : Collect α) (a : α)
    (ops : List Operation) : Prop :=
  (act.on site p).1 = a ∧ (act.on site p).2.silent = (Operation.performAll site p ops).silent

namespace Performs

variable {α β : Type} {site : Site} {p : Progress} {a : α} {b : β} {act : Collect α}
  {next : α → Collect β} {op : Operation} {ops more : List Operation}

theorem pure (a : α) : Performs site p (Pure.pure a) a [] := ⟨rfl, rfl⟩

theorem of_on {same : Collect α} (hsame : act.on site p = same.on site p)
    (h : Performs site p same a ops) : Performs site p act a ops := by
  unfold Performs
  rw [hsame]
  exact h

theorem tell (events : List Event) : Performs site p (Collect.emit events) () [] := ⟨rfl, rfl⟩

theorem single (h : act.on site p = (a, op.perform site p)) : Performs site p act a [op] :=
  ⟨congrArg Prod.fst h, congrArg (fun r => r.2.silent) h⟩

/-- A computation that begins with one operation. -/
theorem step (h : act.on site p = (a, op.perform site p))
    (hnext : Performs site (op.perform site p) (next a) b ops) :
    Performs site p (act >>= next) b (op :: ops) := by
  unfold Performs
  rw [Collect.on_bind, h]
  exact hnext

/-- A computation that begins with a request and reads something out of the answer. -/
theorem asking (call : Call) (a : α) (h : act.on site p = (a, (Operation.ask call).perform site p))
    (hnext : Performs site ((Operation.ask call).perform site p) (next a) b ops) :
    Performs site p (act >>= next) b (.ask call :: ops) := step h hnext

/-- A computation that begins with other ones. Where the second part depends on what the bundle
looks like, it is enough to look at the bundle that the operations of the first part leave. -/
theorem append (h : Performs site p act a ops)
    (hnext : ∀ q : Progress, q.silent = (Operation.performAll site p ops).silent →
      Performs site q (next a) b more) :
    Performs site p (act >>= next) b (ops ++ more) := by
  obtain ⟨rfl, hops⟩ := h
  obtain ⟨hb, hmore⟩ := hnext _ hops
  refine ⟨hb, ?_⟩
  rw [Collect.on_bind, hmore, Operation.performAll_append]
  exact Operation.performAll_silent hops more

/-- Events told in front of a computation do not count. -/
theorem tell_bind {events : List Event} {next : Unit → Collect β}
    (hnext : ∀ q : Progress, q.silent = p.silent → Performs site q (next ()) b ops) :
    Performs site p (Collect.emit events >>= next) b ops :=
  append (tell events) fun q hq => hnext q hq

/-- A computation behind which nothing more is done than telling something. -/
theorem then_quietly (h : Performs site p act a ops)
    (hnext : ∀ q : Progress, Performs site q (next a) b []) :
    Performs site p (act >>= next) b ops := by
  rw [← List.append_nil ops]
  exact h.append fun q _ => hnext q

/-- A loop performs what its rounds perform. -/
theorem forM {γ : Type} {xs : List γ} {body : γ → Collect Unit} {ops : γ → List Operation}
    (h : ∀ x ∈ xs, ∀ q, Performs site q (body x) () (ops x)) :
    Performs site p (xs.forM body) () (xs.flatMap ops) := by
  induction xs generalizing p with
  | nil => exact pure ()
  | cons x xs ih =>
      rw [List.flatMap_cons]
      refine append (h x (by simp) p) fun q _ => ?_
      exact ih fun y hy => h y (by simp [hy])

/-- A loop whose rounds are one step each, and which keeps how they came out. -/
theorem mapM {γ : Type} (xs : List γ) (body : γ → Collect Outcome) (op : γ → Operation)
    (h : ∀ x ∈ xs, ∀ q, (body x).on site q = ((body x).on site q |>.1, (op x).perform site q) ∧
      (op x).outcome? site q = some ((body x).on site q).1) :
    ∃ outcomes, Performs site p (xs.mapM body) outcomes (xs.map op) ∧
      (Operation.trace site p (xs.map op)).map Prod.snd = outcomes.map some := by
  induction xs generalizing p with
  | nil => exact ⟨[], pure [], rfl⟩
  | cons x xs ih =>
      obtain ⟨hon, houtcome⟩ := h x (by simp) p
      obtain ⟨outcomes, hops, htrace⟩ :=
        @ih ((op x).perform site p) fun y hy => h y (by simp [hy])
      refine ⟨((body x).on site p).1 :: outcomes, ?_, ?_⟩
      · rw [List.mapM_cons, List.map_cons]
        apply step hon
        exact hops.then_quietly fun q => pure _
      · simp [Operation.trace, houtcome, htrace]

end Performs

end ClusterBundle
