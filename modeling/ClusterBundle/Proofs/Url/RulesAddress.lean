import ClusterBundle.Collection.Monitoring
import ClusterBundle.Proofs.Url.HostName

/-!
The address of the alerting rules.

The host of the route is put between two fixed texts, and that is read as an address. Whatever the
host is, the text in front of it decides the scheme, and the rules are then looked up relative to
the address that was read. So an odd host can change who is asked and what the path begins with, but
never the scheme nor what the path ends in.
-/

namespace ClusterBundle

namespace Url

variable {url base : Url} {text tail : List Char} {before parts : List String} {host : String}

/-! ### What stands behind an authority -/

theorem withTail_scheme : (withTail url tail).scheme = url.scheme := by
  unfold withTail
  split <;> rfl

theorem withTail_authority : (withTail url tail).authority = url.authority := by
  unfold withTail
  split <;> rfl

theorem withTail_path : (withTail url tail).path = url.path := by
  unfold withTail
  split <;> rfl

/-- A path that is read below segments leaves the front of an address alone and is made of segments
itself. -/
structure Rooted (url read : Url) : Prop where
  scheme : read.scheme = url.scheme
  authority : read.authority = url.authority
  path : ∃ parts, read.path = .segments parts

theorem rooted_withPath : Rooted url (withPath url before text) :=
  ⟨withTail_scheme, withTail_authority, _, withTail_path⟩

theorem rooted_withRootPath : Rooted url (withRootPath url text) := by
  have hself : Rooted url { url with path := .segments [] } := ⟨rfl, rfl, _, rfl⟩
  unfold withRootPath
  cases text with
  | nil =>
      dsimp only
      split
      · exact rooted_withPath
      · exact hself
  | cons c rest =>
      dsimp only
      split
      · exact rooted_withPath
      · split
        · exact rooted_withPath
        · split
          · exact ⟨withTail_scheme, withTail_authority, _, withTail_path⟩
          · exact rooted_withPath

/-- What is read behind two slashes has an authority and a path of segments. -/
theorem behindSlashes_eq_ok {scheme : String} (h : behindSlashes scheme text = .ok url) :
    ∃ authority, Rooted { scheme, authority := some authority, path := .segments [] } url := by
  unfold behindSlashes at h
  simp only [bind, Except.bind, pure, Except.pure, throw, throwThe, MonadExceptOf.throw] at h
  -- a fault on the way is the end of it, and otherwise the last step puts the parts together
  repeat' split at h
  all_goals first
    | exact ⟨_, Except.ok.inj h ▸ rooted_withRootPath⟩
    | cases h

/-! ### The text around the host -/

/-- The characters that count in an address. -/
def counts (c : Char) : Bool := !(c = '\t' || c = '\n' || c = '\r')

/-- Nothing is cut off at the ends of a text that begins and ends with what is no blank. -/
theorem clean_eq_filter {first last : Char} {inner : List Char} {text : String}
    (htext : text.toList = first :: (inner ++ [last])) (hfirst : 0x20 < first.toNat)
    (hlast : 0x20 < last.toNat) : clean text = text.toList.filter counts := by
  unfold clean counts
  dsimp only
  rw [htext, List.dropWhile_cons_of_neg (by simpa using hfirst), List.reverse_cons,
    List.reverse_append, List.reverse_singleton, List.singleton_append, List.cons_append,
    List.dropWhile_cons_of_neg (by simpa using hlast)]
  simp

theorem toList_around (host : String) :
    (s!"https://{host}/").toList = "https://".toList ++ (host.toList ++ ['/']) := by
  show ("https://" ++ host ++ "/").toList = _
  rw [String.toList_append, String.toList_append, List.append_assoc]
  rfl

theorem clean_around (host : String) :
    clean s!"https://{host}/" = "https://".toList ++ (host.toList.filter counts ++ ['/']) := by
  have hends : (s!"https://{host}/").toList =
      'h' :: ("ttps://".toList ++ host.toList ++ ['/']) := by
    rw [toList_around, List.append_assoc]
    rfl
  rw [clean_eq_filter hends (by decide) (by decide), toList_around, List.filter_append,
    List.filter_append]
  rfl

theorem scheme?_https (rest : List Char) :
    scheme? ("https://".toList ++ rest) = some ("https", "//".toList ++ rest) := rfl

/-- Behind a scheme of the web any number of slashes may stand. -/
theorem parseAbsolute_special {input scheme : String} {rest : List Char}
    (hscheme : scheme? (clean input) = some (scheme, rest)) (hfile : scheme ≠ "file")
    (hspecial : isSpecialScheme scheme = true) :
    parseAbsolute input = behindSlashes scheme (rest.dropWhile (isSlash true)) := by
  have hdrop : rest.drop (rest.takeWhile (isSlash true)).length = rest.dropWhile (isSlash true) :=
    calc rest.drop (rest.takeWhile (isSlash true)).length
        = (rest.takeWhile (isSlash true) ++ rest.dropWhile (isSlash true)).drop
            (rest.takeWhile (isSlash true)).length := by rw [List.takeWhile_append_dropWhile]
      _ = rest.dropWhile (isSlash true) := List.drop_left
  unfold parseAbsolute parse
  dsimp only
  rw [hscheme]
  split
  · rename_i h _
    cases h
  · rename_i h _
    cases h
  · rename_i h
    cases h
    exact absurd rfl hfile
  · rename_i h
    cases h
    rw [if_pos hspecial, hdrop]

/-- The scheme is there before the host is looked at. -/
theorem parseAbsolute_around (host : String) :
    parseAbsolute s!"https://{host}/" =
      behindSlashes "https" ((host.toList.filter counts ++ ['/']).dropWhile (isSlash true)) := by
  have hscheme := scheme?_https (host.toList.filter counts ++ ['/'])
  rw [← clean_around] at hscheme
  rw [parseAbsolute_special hscheme (by decide) rfl]
  rfl

/-! ### The place of the rules -/

theorem addSegments_cons {segment : List Char} {rest : List (List Char)}
    (hdouble : isDoubleDot segment = false) (hsingle : isSingleDot segment = false) :
    addSegments before (segment :: rest) =
      addSegments (before ++ [String.ofList (escape pathSpecials segment)]) rest := by
  simp [addSegments, hdouble, hsingle]

/-- The segments of the place of the rules come behind those before them. -/
theorem addSegments_rulesPath :
    addSegments before (splitPath true Monitoring.rulesPath.toList) =
      before ++ ["api", "v1", "rules"] := by
  have hsplit : splitPath true Monitoring.rulesPath.toList =
      ["api".toList, "v1".toList, "rules".toList] := by decide
  rw [hsplit, addSegments_cons (by decide) (by decide), addSegments_cons (by decide) (by decide),
    addSegments_cons (by decide) (by decide), addSegments]
  simp only [List.append_assoc]
  rfl

theorem withPath_rulesPath (hscheme : url.scheme = "https") (hfragment : url.fragment = none) :
    withPath url before Monitoring.rulesPath.toList =
      { url with path := .segments (before ++ ["api", "v1", "rules"]) } := by
  have hall : Monitoring.rulesPath.toList.takeWhile (fun c => !endsPath c) =
      Monitoring.rulesPath.toList := by decide
  have hspecial : isSpecialScheme url.scheme = true := hscheme ▸ rfl
  unfold withPath
  rw [hall, hspecial]
  dsimp only
  rw [addSegments_rulesPath, List.drop_length]
  unfold withTail
  dsimp only
  rw [← hfragment]

/-- A text without a scheme is read relative to an address whose path has segments. -/
theorem parse_relative {input : String} (hinput : scheme? (clean input) = none)
    (hpath : base.path = .segments parts) :
    parse (some base) input = relativeUrl base (clean input) := by
  unfold parse
  dsimp only
  rw [hinput]
  dsimp only
  split
  · rfl
  · rename_i _ _ hverbatim _
    cases hpath.symm.trans hverbatim
  · rfl

/-- A text that begins like a segment takes the place of the last segment of the base. -/
theorem relativeUrl_segment {c : Char} {rest : List Char} (hc : c ∉ ['?', '#', '/', '\\'])
    (hspecial : isSpecialScheme base.scheme = true) (hpath : base.path = .segments parts) :
    relativeUrl base (c :: rest) =
      .ok (withPath { base with query := none, fragment := none } parts.dropLast (c :: rest)) := by
  simp only [List.mem_cons, List.not_mem_nil, or_false, not_or] at hc
  obtain ⟨hquery, hfragment, hslash, hback⟩ := hc
  unfold relativeUrl
  rw [hpath, hspecial]
  simp [hslash, hback]

/-- The place of the rules relative to an address of the web. -/
theorem join_rulesPath (hscheme : base.scheme = "https") (hpath : base.path = .segments parts) :
    base.join Monitoring.rulesPath =
      .ok { base with
            path := .segments (parts.dropLast ++ ["api", "v1", "rules"])
            query := none
            fragment := none } := by
  have hclean : clean Monitoring.rulesPath = Monitoring.rulesPath.toList := by decide
  have hrelative : scheme? (clean Monitoring.rulesPath) = none := by decide
  have hspecial : isSpecialScheme base.scheme = true := hscheme ▸ rfl
  rw [join, parse_relative hrelative hpath, hclean]
  refine (relativeUrl_segment (c := 'a') (by decide) hspecial hpath).trans ?_
  exact congrArg Except.ok (withPath_rulesPath hscheme rfl)

theorem pathText_append (parts more : List String) :
    Path.text (.segments (parts ++ more)) =
      Path.text (.segments parts) ++ Path.text (.segments more) := by
  have hfold : ∀ (front : String) (more : List String),
      more.foldl (fun text part => text ++ "/" ++ part) front =
        front ++ more.foldl (fun text part => text ++ "/" ++ part) "" := by
    intro front more
    induction more generalizing front with
    | nil => simp
    | cons part rest ih =>
        rw [List.foldl_cons, List.foldl_cons, ih, ih ("" ++ "/" ++ part)]
        simp [String.append_assoc]
  simp only [Path.text, List.foldl_append]
  exact hfold _ _

theorem text_of_authority (authority : Authority) (path : Path) :
    Url.text { scheme := "https", authority := some authority, path } =
      "https://" ++ authority.text ++ path.text := by
  simp only [Url.text, pathFront, String.append_empty, ← String.append_assoc]
  rfl

/-! ### Names of hosts -/

theorem splitUser_eq_none (h : '@' ∉ text) : splitUser text = none := by
  have hcut : ∀ text : List Char, '@' ∉ text → Text.cutAt '@' text = none := by
    intro text htext
    induction text with
    | nil => rfl
    | cons c rest ih =>
        rw [List.mem_cons, not_or] at htext
        rw [Text.cutAt, if_neg (Ne.symm htext.1), ih htext.2]
        rfl
  rw [splitUser, hcut _ (by rwa [List.mem_reverse])]

theorem splitHost_of_plain (h : ∀ c ∈ text, c ≠ ':' ∧ c ≠ '[' ∧ c ≠ ']') :
    splitHost false text = (text, []) := by
  induction text with
  | nil => rfl
  | cons c rest ih =>
      obtain ⟨⟨hcolon, hopen, hclose⟩, hrest⟩ := List.forall_mem_cons.1 h
      simp [splitHost, hcolon, hopen, hclose, ih hrest]

/-- The address with nothing but the name of a host. -/
def atHost (host : String) : Url :=
  { scheme := "https", authority := some { host := .domain host }, path := .segments [""] }

theorem behindSlashes_hostName (h : IsHostName host) :
    behindSlashes "https" (host.toList ++ ['/']) = .ok (atHost host) := by
  have hplain : ∀ c ∈ host.toList, (!endsAuthority true c) = true :=
    h.forall_mem (by decide)
  have hpart : (host.toList ++ ['/']).takeWhile (fun c => !endsAuthority true c) =
      host.toList := by
    rw [List.takeWhile_append_of_pos hplain]
    exact List.append_nil _
  have huser : splitUser host.toList = none :=
    splitUser_eq_none fun hc => absurd (h.mem_hostChars hc) (by decide)
  have hhost : splitHost false host.toList = (host.toList, []) :=
    splitHost_of_plain (h.forall_mem (by decide))
  have hsome : host.toList.isEmpty = false := by simpa using h.ne_nil
  have hspecial : isSpecialScheme "https" = true := rfl
  unfold behindSlashes
  simp only [hspecial, hpart, huser, hhost, h.webHost, hsome, List.drop_left, Bool.and_false,
    Bool.false_and, Option.isSome_none, Bool.false_eq_true, if_false, if_true, bind, Except.bind,
    pure, Except.pure]
  rfl

theorem parseAbsolute_hostName (h : IsHostName host) :
    parseAbsolute s!"https://{host}/" = .ok (atHost host) := by
  have hcounts : host.toList.filter counts = host.toList :=
    List.filter_eq_self.2 (h.forall_mem (by decide))
  have hslash : (host.toList ++ ['/']).dropWhile (isSlash true) = host.toList ++ ['/'] := by
    obtain ⟨c, rest, hchars⟩ := List.exists_cons_of_ne_nil h.ne_nil
    have hc : isSlash true c = false :=
      h.forall_mem (p := fun c => isSlash true c = false) (by decide) c
        (hchars ▸ List.mem_cons_self)
    rw [hchars, List.cons_append, List.dropWhile_cons_of_neg (by simp [hc])]
  rw [parseAbsolute_around, hcounts, hslash, behindSlashes_hostName h]

end Url

namespace Monitoring

open Url (IsHostName)

/-- The address of the rules is that of the host with the place of the rules at its end. -/
theorem rulesUrl_eq_ok {host : String} {url : Url} (h : rulesUrl host = .ok url) :
    ∃ authority parts, url =
      { scheme := "https", authority := some authority
        path := .segments (parts ++ ["api", "v1", "rules"]) } := by
  unfold rulesUrl at h
  split at h
  · cases h
  · rename_i base hbase
    rw [Url.parseAbsolute_around] at hbase
    obtain ⟨authority, hscheme, hauthority, parts, hpath⟩ := Url.behindSlashes_eq_ok hbase
    rw [Url.join_rulesPath hscheme hpath] at h
    obtain ⟨scheme, _, path, query, fragment⟩ := base
    cases hscheme
    cases hauthority
    cases h
    exact ⟨authority, parts.dropLast, rfl⟩

theorem rulesUrl_hostName {host : String} (h : IsHostName host) :
    rulesUrl host = .ok
      { scheme := "https", authority := some { host := .domain host }
        path := .segments ["api", "v1", "rules"] } := by
  have hpath : (Url.atHost host).path = .segments [""] := rfl
  unfold rulesUrl
  rw [Url.parseAbsolute_hostName h]
  exact Url.join_rulesPath rfl hpath

/-- Whatever the host of the route is, an address of the rules is one of the web that ends in the
place of the rules, with nothing behind the path. And the name of a host always makes an address, in
which it stands as it is. -/
theorem rulesUrl_fixed_ends (host : String) :
    (∀ url, rulesUrl host = .ok url →
      url.scheme = "https" ∧ url.query = none ∧ url.fragment = none ∧
        ∃ authority front, url.path.text = front ++ "/api/v1/rules" ∧
          url.text = "https://" ++ authority ++ front ++ "/api/v1/rules") ∧
      (IsHostName host →
        ∃ url, rulesUrl host = .ok url ∧ url.text = "https://" ++ host ++ "/api/v1/rules") := by
  refine ⟨fun url h => ?_, fun h => ?_⟩
  · obtain ⟨authority, parts, rfl⟩ := rulesUrl_eq_ok h
    refine ⟨rfl, rfl, rfl, authority.text, Url.Path.text (.segments parts),
      Url.pathText_append _ _, ?_⟩
    rw [Url.text_of_authority, Url.pathText_append]
    exact String.append_assoc.symm
  · refine ⟨_, rulesUrl_hostName h, ?_⟩
    rw [Url.text_of_authority]
    simp [Url.Authority.text, Url.Host.text, Url.Path.text]

/-- The theorem for the name of a host, and for a text that is taken apart into a user, a host, a
port, a path and a query. -/
theorem rulesUrl_fixed_ends_odd :
    IsHostName "h-1.example" ∧
      (∃ url, rulesUrl "h-1.example" = .ok url ∧
        url.text = "https://h-1.example/api/v1/rules") ∧
      ∃ url, rulesUrl "u@h:8443\\a/../b/c?d#e" = .ok url ∧ url.scheme = "https" ∧
        url.text = "https://u@h:8443/b/api/v1/rules" ∧
        ∃ authority front, url.path.text = front ++ "/api/v1/rules" ∧
          url.text = "https://" ++ authority ++ front ++ "/api/v1/rules" := by
  have hhost : IsHostName "h-1.example" := by
    refine ⟨by decide, by decide, fun label hlabel c hc => ?_⟩
    have hlast : (Text.split '.' "h-1.example").getLast? = some "example" := by decide
    obtain rfl : "example" = label := Option.some.inj (hlast.symm.trans hlabel)
    obtain rfl : 'e' = c := Option.some.inj hc
    rfl
  have hodd : rulesUrl "u@h:8443\\a/../b/c?d#e" = .ok
      { scheme := "https"
        authority := some { username := "u", host := .domain "h", port := some 8443 }
        path := .segments ["b", "api", "v1", "rules"] } := by
    with_unfolding_all rfl
  obtain ⟨hscheme, -, -, hpath⟩ := (rulesUrl_fixed_ends "u@h:8443\\a/../b/c?d#e").1 _ hodd
  exact ⟨hhost, (rulesUrl_fixed_ends "h-1.example").2 hhost, _, hodd, hscheme, by rfl, hpath⟩

end Monitoring

end ClusterBundle
