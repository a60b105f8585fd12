import ClusterBundle.Cluster.Tool

/-!
What can be read off a command line.

A command line is a flat list of words, in which parts that may be missing stand beside parts that
are always there. Still each part can be told from what follows it: what selects objects is a name
or the option for a label, and no name looks like an option; the namespace and the form have options
of their own; and what is to run in a container is all that stands behind the first `--`. So a
request is known by its command line, whether or not the tool is told where its access data is.
-/

namespace ClusterBundle.Cluster

/-- A word that a tool takes for an option. -/
def IsOption (word : String) : Prop := word.toList.head? = some '-'

instance (word : String) : Decidable (IsOption word) := inferInstanceAs (Decidable (_ = _))

/-! ### Reads of objects -/

theorem Format.flag?_inj {format other : Format} (h : format.flag? = other.flag?) :
    format = other := by
  cases format <;> cases other <;> simp_all [Format.flag?]

namespace Query

/-- The words that select objects. -/
def selectionWords : Selection → List String
  | .named name => [name, "--ignore-not-found"]
  | .labeled selector => ["-l", selector]
  | .all => []

/-- The words that say where objects are looked for and in which form they are shown. -/
def optionWords (ns flag : Option String) : List String :=
  ns.elim [] (fun ns => ["-n", ns]) ++ flag.elim [] fun flag => ["-o", flag]

theorem arguments_eq (query : Query) :
    query.arguments =
      "get" :: query.kind ::
        (selectionWords query.selection ++ optionWords query.ns query.format.flag?) := by
  obtain ⟨kind, selection, ns, format⟩ := query
  cases selection <;> cases ns <;> cases format <;> rfl

theorem optionWords_inj {ns flag ns' flag' : Option String}
    (h : optionWords ns flag = optionWords ns' flag') : ns = ns' ∧ flag = flag' := by
  cases ns <;> cases ns' <;> cases flag <;> cases flag' <;> simp_all [optionWords]

/-- What follows a selection begins with an option, and not with the one for a label. -/
theorem isOption_of_optionWords {ns flag : Option String} {word : String} {rest : List String}
    (h : optionWords ns flag = word :: rest) : IsOption word ∧ word ≠ "-l" := by
  have hword : word = "-n" ∨ word = "-o" := by
    cases ns <;> cases flag <;> simp_all [optionWords]
  rcases hword with rfl | rfl <;> decide

/-- The words show where a selection ends, as long as no name looks like an option. -/
theorem selectionWords_append_inj {selection other : Selection} {ns flag ns' flag' : Option String}
    (hname : ∀ name, selection = .named name → ¬ IsOption name)
    (hother : ∀ name, other = .named name → ¬ IsOption name)
    (h : selectionWords selection ++ optionWords ns flag =
      selectionWords other ++ optionWords ns' flag') :
    selection = other ∧ optionWords ns flag = optionWords ns' flag' := by
  cases selection with
  | named name =>
      have hplain := hname name rfl
      cases other with
      | named => simp_all [selectionWords]
      | labeled selector =>
          obtain ⟨rfl, -⟩ := List.cons.inj h
          exact absurd (by decide) hplain
      | all => exact absurd (isOption_of_optionWords h.symm).1 hplain
  | labeled selector =>
      cases other with
      | named name =>
          obtain ⟨rfl, -⟩ := List.cons.inj h
          exact absurd (by decide) (hother _ rfl)
      | labeled => simp_all [selectionWords]
      | all => exact absurd rfl (isOption_of_optionWords h.symm).2
  | all =>
      cases other with
      | named name => exact absurd (isOption_of_optionWords h).1 (hother name rfl)
      | labeled selector => exact absurd rfl (isOption_of_optionWords h).2
      | all => exact ⟨rfl, h⟩

theorem arguments_inj {query other : Query}
    (hname : ∀ name, query.selection = .named name → ¬ IsOption name)
    (hother : ∀ name, other.selection = .named name → ¬ IsOption name)
    (h : query.arguments = other.arguments) : query = other := by
  rw [arguments_eq, arguments_eq, List.cons.injEq, List.cons.injEq] at h
  obtain ⟨-, hkind, hwords⟩ := h
  obtain ⟨hselection, hoptions⟩ := selectionWords_append_inj hname hother hwords
  obtain ⟨hns, hflag⟩ := optionWords_inj hoptions
  obtain ⟨kind, selection, ns, format⟩ := query
  obtain ⟨_, _, _, _⟩ := other
  obtain rfl := Format.flag?_inj hflag
  cases hkind
  cases hselection
  cases hns
  rfl

end Query

/-! ### All requests -/

theorem LogSource.arguments_inj {source other : LogSource}
    (h : source.arguments = other.arguments) : source = other := by
  cases source with
  | container c =>
      obtain ⟨ns, pod, name⟩ := c
      cases other <;> simp_all [arguments]
  | workload ns reference => cases other <;> simp_all [arguments]

theorem Container.execArguments_inj {container other : Container} {command more : List String}
    (h : container.execArguments command = other.execArguments more) :
    container = other ∧ command = more := by
  obtain ⟨ns, pod, name⟩ := container
  simp_all [execArguments]

theorem tokenArguments_inj {ns account duration ns' account' duration' : String}
    (h : tokenArguments ns account duration = tokenArguments ns' account' duration') :
    ns = ns' ∧ account = account' ∧ duration = duration' := by
  simp only [tokenArguments, List.cons.injEq, String.append_right_inj, and_true,
    true_and] at h
  exact ⟨h.2.1, h.1, h.2.2⟩

namespace Call

/-- The names in a request that its command line cannot be read with if they look like options: that
of an object, which stands where an option could stand, and those in front of a `--`. -/
def names : Call → List String
  | .get { selection := .named name, .. } => [name]
  | .exec container _ => [container.ns, container.pod, container.name]
  | _ => []

/-- The word that a command line begins with. -/
def verb? : Call → Option String
  | .get _ => some "get"
  | .exec .. => some "exec"
  | .logs _ => some "logs"
  | .token .. => some "create"
  | .fetch .. => none

variable {call another : Call} {words : List String}

theorem head?_of_arguments? (h : call.arguments? = some words) : words.head? = call.verb? := by
  cases call with
  | get query =>
      cases h
      rw [query.arguments_eq]
      rfl
  | logs source =>
      cases h
      cases source <;> rfl
  | exec | token =>
      cases h
      rfl
  | fetch => cases h

theorem not_isOption_verb {verb : String} (h : call.verb? = some verb) : ¬ IsOption verb := by
  cases call <;> cases h <;> decide

/-- No command line begins with an option. -/
theorem not_isOption_of_arguments? {word : String} {rest : List String}
    (h : call.arguments? = some (word :: rest)) : ¬ IsOption word :=
  not_isOption_verb (head?_of_arguments? h).symm

/-- An object that is asked for by name. -/
theorem named_of_names {query : Query} (h : ∀ name ∈ names (.get query), ¬ IsOption name)
    (name : String) (hname : query.selection = .named name) : ¬ IsOption name := by
  obtain ⟨kind, selection, ns, format⟩ := query
  cases hname
  exact h name (List.mem_singleton_self name)

/-- Two requests with one command line are the same. -/
theorem eq_of_arguments? (hcall : call.arguments? = some words)
    (hanother : another.arguments? = some words) (hnames : ∀ name ∈ call.names, ¬ IsOption name)
    (hothers : ∀ name ∈ another.names, ¬ IsOption name) : call = another := by
  have hverb : call.verb? = another.verb? :=
    (head?_of_arguments? hcall).symm.trans (head?_of_arguments? hanother)
  have hwords := hcall.trans hanother.symm
  cases call with
  | get query =>
      cases another with
      | get other =>
          exact congrArg get (Query.arguments_inj (named_of_names hnames) (named_of_names hothers)
            (Option.some.inj hwords))
      | _ => simp [verb?] at hverb
  | exec container command =>
      cases another with
      | exec other more =>
          obtain ⟨rfl, rfl⟩ := Container.execArguments_inj (Option.some.inj hwords)
          rfl
      | _ => simp [verb?] at hverb
  | logs source =>
      cases another with
      | logs other => exact congrArg logs (LogSource.arguments_inj (Option.some.inj hwords))
      | _ => simp [verb?] at hverb
  | token ns account duration =>
      cases another with
      | token ns' account' duration' =>
          obtain ⟨rfl, rfl, rfl⟩ := tokenArguments_inj (Option.some.inj hwords)
          rfl
      | _ => simp [verb?] at hverb
  | fetch => cases hcall

end Call

/-! ### The whole command line -/

namespace Tool

variable {tool other : Tool} {call another : Call} {words more : List String}

theorem isOption_kubeconfig (path : String) : IsOption ("--kubeconfig=" ++ path) := by
  unfold IsOption
  rw [String.toList_append, List.head?_append]
  rfl

theorem kubeconfig_ne_dashes (path : String) : "--kubeconfig=" ++ path ≠ "--" := by
  rw [ne_eq, ← String.toList_inj, String.toList_append]
  simp

/-- The option for the access data comes first, and nothing else is changed by it. -/
theorem fullArguments_eq (tool : Tool) (words : List String) :
    tool.fullArguments words =
      (tool.kubeconfig.map ("--kubeconfig=" ++ ·)).toList ++ words := by
  unfold fullArguments
  cases tool.kubeconfig <;> rfl

/-- Whether there is the option is seen from the words, since no command line begins with one. -/
theorem fullArguments_inj (hcall : call.arguments? = some words)
    (hanother : another.arguments? = some more)
    (h : tool.fullArguments words = other.fullArguments more) :
    tool.kubeconfig = other.kubeconfig ∧ words = more := by
  rw [fullArguments_eq, fullArguments_eq] at h
  cases hfile : tool.kubeconfig with
  | none =>
      cases hothers : other.kubeconfig with
      | none =>
          rw [hfile, hothers] at h
          exact ⟨rfl, h⟩
      | some path =>
          rw [hfile, hothers] at h
          obtain rfl : words = ("--kubeconfig=" ++ path) :: more := h
          exact absurd (isOption_kubeconfig path) (Call.not_isOption_of_arguments? hcall)
  | some path =>
      cases hothers : other.kubeconfig with
      | none =>
          rw [hfile, hothers] at h
          obtain rfl : ("--kubeconfig=" ++ path) :: words = more := h
          exact absurd (isOption_kubeconfig path) (Call.not_isOption_of_arguments? hanother)
      | some file =>
          rw [hfile, hothers] at h
          obtain ⟨hpath, hwords⟩ := List.cons.inj h
          exact ⟨congrArg some (String.append_right_inj _ |>.1 hpath), hwords⟩

/-- What is to run in a container is what stands behind the first `--`. -/
theorem fullArguments_exec (tool : Tool) {container : Container} {command : List String}
    (hnames : ∀ name ∈ Call.names (.exec container command), ¬ IsOption name) :
    ∃ front, "--" ∉ front ∧
      tool.fullArguments (container.execArguments command) = front ++ "--" :: command := by
  have hname (name : String) (h : name ∈ [container.ns, container.pod, container.name]) :
      "--" ≠ name := by
    rintro rfl
    exact hnames _ h (by decide)
  refine ⟨(tool.kubeconfig.map ("--kubeconfig=" ++ ·)).toList ++
    ["exec", "-n", container.ns, container.pod, "-c", container.name], ?_, ?_⟩
  · have hoption : "--" ∉ (tool.kubeconfig.map ("--kubeconfig=" ++ ·)).toList := by
      cases tool.kubeconfig with
      | none => exact List.not_mem_nil
      | some path => simpa using (kubeconfig_ne_dashes path).symm
    simpa [hoption] using ⟨hname container.ns (by simp), hname container.pod (by simp),
      hname container.name (by simp)⟩
  · rw [fullArguments_eq, List.append_assoc]
    rfl

/-- A request is known by its command line. No two requests have the same one, be it with an option
for the access data or without. That option comes before everything else, and the rest is as it is
without the option. What is to run in a container stands behind the first `--`, whatever words there
are in it. -/
theorem commandLine_unambiguous (tool other : Tool) (call another : Call)
    (words more : List String) (hcall : call.arguments? = some words)
    (hanother : another.arguments? = some more)
    (hnames : ∀ name ∈ call.names, ¬ IsOption name)
    (hothers : ∀ name ∈ another.names, ¬ IsOption name) :
    (tool.fullArguments words = other.fullArguments more →
        call = another ∧ tool.kubeconfig = other.kubeconfig) ∧
      tool.fullArguments words =
        (tool.kubeconfig.map ("--kubeconfig=" ++ ·)).toList ++ words ∧
      ∀ container command, call = .exec container command →
        ∃ front, "--" ∉ front ∧ tool.fullArguments words = front ++ "--" :: command := by
  refine ⟨fun h => ?_, fullArguments_eq tool words, fun container command hexec => ?_⟩
  · obtain ⟨hfile, rfl⟩ := fullArguments_inj hcall hanother h
    exact ⟨Call.eq_of_arguments? hcall hanother hnames hothers, hfile⟩
  · subst hexec
    cases hcall
    exact fullArguments_exec tool hnames

/-- The theorem for a command that holds a `--` and for an object whose name is empty. -/
theorem commandLine_unambiguous_dashes :
    let tool : Tool :=
      { program := "oc", kubeconfig := some "/k", launch := fun _ _ => .notStarted .nulInArgument,
        network := ⟨fun _ => .error ""⟩ }
    let command := Call.exec ⟨"n", "p", "c"⟩ ["sh", "--", "-n"]
    let object := Call.get (Query.named "pod" "")
    (∀ name ∈ command.names, ¬ IsOption name) ∧ (∀ name ∈ object.names, ¬ IsOption name) ∧
      tool.fullArguments ["exec", "-n", "n", "p", "-c", "c", "--", "sh", "--", "-n"] ≠
        tool.fullArguments ["get", "pod", "", "--ignore-not-found", "-o", "yaml"] ∧
      ∃ front, "--" ∉ front ∧
        tool.fullArguments ["exec", "-n", "n", "p", "-c", "c", "--", "sh", "--", "-n"] =
          front ++ "--" :: ["sh", "--", "-n"] := by
  intro tool command object
  have hcommand : ∀ name ∈ command.names, ¬ IsOption name := by decide
  have hobject : ∀ name ∈ object.names, ¬ IsOption name := by decide
  obtain ⟨hsame, -, hdashes⟩ :=
    commandLine_unambiguous tool tool command object _ _ rfl rfl hcommand hobject
  exact ⟨hcommand, hobject, fun h => (nofun : command ≠ object) (hsame h).1, hdashes _ _ rfl⟩

end Tool

end ClusterBundle.Cluster
