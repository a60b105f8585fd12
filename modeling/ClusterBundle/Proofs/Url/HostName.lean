import ClusterBundle.Proofs.Cluster.Names
import ClusterBundle.Text.Utf8.Lemmas
import ClusterBundle.Url.Parser

/-!
Names of hosts.

The name of a host is made of labels joined by dots, of small letters, digits and hyphens. None of
these characters means anything in an address, none is changed on the way, and a name whose last
label begins with a letter is not a number. So such a name is read as a host as it is.
-/

namespace ClusterBundle.Url

/-- The name of a host: its labels are of letters, digits and inner hyphens, none of them claims to
spell another one, and the last one begins with a letter. -/
structure IsHostName (host : String) : Prop where
  labels : ∀ label ∈ Text.split '.' host, Cluster.isNamePart label = true
  unspelled : ∀ label ∈ Text.split '.' host, ¬ Domain.spelledMark <+: label.toList
  letter : ∀ label ∈ (Text.split '.' host).getLast?, ∀ c ∈ label.toList.head?, c.isLower = true

/-- The characters of host names. -/
def hostChars : List Char := "abcdefghijklmnopqrstuvwxyz0123456789-.".toList

theorem mem_hostChars_of_isLabelChar {c : Char} (h : Cluster.isLabelChar c = true) :
    c ∈ hostChars := by
  have hcode : ∀ n < 123, Cluster.isLabelChar (Char.ofNat n) = true →
      Char.ofNat n ∈ hostChars := by decide
  have hsmall : c.toNat < 123 := by
    simp only [Cluster.isLabelChar, Cluster.isAlphanumeric, Bool.or_eq_true,
      decide_eq_true_eq] at h
    rcases h with (hlower | hdigit) | rfl
    · have hrange : (decide (c.val ≥ 97) && decide (c.val ≤ 122)) = true := hlower
      exact Nat.lt_succ_of_le (of_decide_eq_true (Bool.and_eq_true_iff.1 hrange).2)
    · have hrange : (decide (c.val ≥ 48) && decide (c.val ≤ 57)) = true := hdigit
      exact Nat.lt_of_le_of_lt (of_decide_eq_true (Bool.and_eq_true_iff.1 hrange).2) (by decide)
    · decide
  rw [← Char.ofNat_toNat c] at h ⊢
  exact hcode _ hsmall h

/-- What is to be known of every character of a host name is found out by going through them. -/
theorem forall_hostChars {p : Char → Prop} [DecidablePred p]
    (hp : hostChars.all (fun c => decide (p c)) = true) : ∀ c ∈ hostChars, p c :=
  fun c hc => of_decide_eq_true (List.all_eq_true.1 hp c hc)

theorem mem_hostChars_of_isLower {c : Char} (h : c.isLower = true) : c ∈ hostChars :=
  mem_hostChars_of_isLabelChar (by simp [Cluster.isLabelChar, Cluster.isAlphanumeric, h])

theorem not_isDigit_of_isLower {c : Char} (h : c.isLower = true) : c.isDigit = false := by
  have hdigit : ∀ d ∈ hostChars, d.isLower = true → d.isDigit = false :=
    forall_hostChars (by decide)
  exact hdigit c (mem_hostChars_of_isLower h) h

/-- A text without escapes stands for its own bytes. -/
theorem unescape_of_not_mem {text : List Char} (h : '%' ∉ text) :
    unescape text = text.flatMap String.utf8EncodeChar := by
  induction text with
  | nil => rfl
  | cons c rest ih =>
      rw [List.mem_cons, not_or] at h
      obtain ⟨hc, hrest⟩ := h
      rw [unescape, ih hrest, List.flatMap_cons]
      rintro a b more rfl
      exact absurd rfl hc

/-- What has come to nothing stays nothing. -/
theorem foldl_none {α β : Type} {f : Option β → α → Option β} (hf : ∀ a, f none a = none)
    (xs : List α) : xs.foldl f none = none := by
  induction xs with
  | nil => rfl
  | cons a xs ih => rw [List.foldl_cons, hf, ih]

/-- A text that begins with no digit of a base is no number in it. -/
theorem digitsValue_eq_none {base : Nat} {c : Char} {rest : List Char}
    (h : ∀ value ∈ hexValue? c, base ≤ value) : digitsValue base (c :: rest) = none := by
  unfold digitsValue
  rw [List.foldl_cons]
  cases hvalue : hexValue? c with
  | none => exact foldl_none (fun _ => rfl) rest
  | some value =>
      dsimp only
      rw [if_neg (Nat.not_lt.2 (h value hvalue))]
      exact foldl_none (fun _ => rfl) rest

/-- A part that begins with a letter is none of an IPv4 address. -/
theorem ipv4Part?_eq_none {c : Char} {rest : List Char} (h : c.isLower = true) :
    ipv4Part? (c :: rest) = none := by
  have hzero : c ≠ '0' := by
    rintro rfl
    cases h
  have hvalue : ∀ d ∈ hostChars, d.isLower = true → ∀ value ∈ hexValue? d, 10 ≤ value :=
    forall_hostChars (by decide)
  rw [ipv4Part?]
  · exact digitsValue_eq_none (hvalue c (mem_hostChars_of_isLower h) h)
  all_goals simp_all

namespace IsHostName

variable {host : String}

theorem mem_hostChars (h : IsHostName host) {c : Char} (hc : c ∈ host.toList) :
    c ∈ hostChars := by
  by_cases hdot : c = '.'
  · subst hdot
    decide
  · obtain ⟨part, hpart, hmem⟩ := Text.exists_mem_splitChars_iff.2 ⟨hc, hdot⟩
    have hlabel := h.labels _ (List.mem_map_of_mem hpart)
    exact mem_hostChars_of_isLabelChar
      (Cluster.isLabelChar_of_isNamePart hlabel (by rwa [String.toList_ofList]))

theorem forall_mem {p : Char → Prop} [DecidablePred p] (h : IsHostName host)
    (hp : hostChars.all (fun c => decide (p c)) = true) : ∀ c ∈ host.toList, p c :=
  fun c hc => forall_hostChars hp c (h.mem_hostChars hc)

theorem ne_nil (h : IsHostName host) : host.toList ≠ [] := by
  intro hempty
  have hlabel := h.labels ""
  rw [Text.split, hempty] at hlabel
  exact absurd (hlabel (by decide)) (by decide)

theorem toLower_eq (h : IsHostName host) {c : Char} (hc : c ∈ host.toList) : c.toLower = c :=
  h.forall_mem (p := fun c => c.toLower = c) (by decide) c hc

theorem map_toLower (h : IsHostName host) : host.toList.map Char.toLower = host.toList := by
  rw [List.map_congr_left fun c hc => h.toLower_eq hc, List.map_id']

/-- The ASCII form of a host name is the name. -/
theorem ascii? (h : IsHostName host) : Domain.ascii? host.toList = some host.toList := by
  have hascii : host.toList.all Domain.isAscii = true :=
    List.all_eq_true.2 (h.forall_mem (by decide))
  have hrefused : host.toList.any Domain.isRefused = false :=
    List.any_eq_false.2 (h.forall_mem (by decide))
  have hspelled : (Text.splitChars '.' host.toList).any Domain.isSpelled = false := by
    refine List.any_eq_false.2 fun label hlabel hspells => ?_
    have hmem : ∀ c ∈ label, c ∈ host.toList := fun c hc =>
      (Text.exists_mem_splitChars_iff.1 ⟨label, hlabel, hc⟩).1
    have hlower : label.map Char.toLower = label := by
      rw [List.map_congr_left fun c hc => h.toLower_eq (hmem c hc), List.map_id']
    rw [Domain.isSpelled, hlower, List.isPrefixOf_iff_prefix] at hspells
    exact h.unspelled _ (List.mem_map_of_mem hlabel) (by rwa [String.toList_ofList])
  rw [Domain.ascii?, hascii, hspelled, hrefused, h.map_toLower]
  rfl

theorem not_endsInNumber (h : IsHostName host) : endsInNumber host.toList = false := by
  obtain ⟨label, hlast⟩ : ∃ label, (Text.splitChars '.' host.toList).getLast? = some label :=
    ⟨_, List.getLast?_eq_some_getLast (Text.splitChars_ne_nil _ _)⟩
  have hmem := List.mem_of_getLast? hlast
  have hlabel := h.labels _ (List.mem_map_of_mem hmem)
  have hletter := h.letter (String.ofList label) (by simp [Text.split, hlast])
  rw [String.toList_ofList] at hletter
  cases label with
  | nil => exact absurd hlabel (by decide)
  | cons c rest =>
      have hlower := hletter c rfl
      have hdigit : c.isDigit = false := not_isDigit_of_isLower hlower
      simp [endsInNumber, ipv4Parts, hlast, hdigit, ipv4Part?_eq_none hlower]

/-- A host name is read as a domain as it is. -/
theorem webHost (h : IsHostName host) : webHost host.toList = .ok (.domain host) := by
  obtain ⟨c, rest, hchars⟩ := List.exists_cons_of_ne_nil h.ne_nil
  have hpercent : '%' ∉ host.toList := fun hc => absurd (h.mem_hostChars hc) (by decide)
  have hbracket : '[' ∉ host.toList := fun hc => absurd (h.mem_hostChars hc) (by decide)
  have hplain : bracketed? host.toList = none := by
    rw [hchars] at hbracket ⊢
    unfold bracketed?
    split
    · rename_i htext
      exact absurd (htext ▸ List.mem_cons_self) hbracket
    · rfl
  have hdecode : Utf8.decode (unescape host.toList) = .ok host := by
    rw [unescape_of_not_mem hpercent]
    exact Utf8.decode_encode host
  have hascii := h.ascii?
  have hnumber := h.not_endsInNumber
  rw [Url.webHost, hplain, hdecode]
  dsimp only
  rw [hascii, hchars]
  dsimp only
  rw [← hchars, hnumber, String.ofList_toList]
  rfl

end IsHostName

end ClusterBundle.Url
