import ClusterBundle.Proofs.File.Nested

/-!
Paths that stay inside the bundle.

A path can be read in one way only as pieces with a slash between neighbours. A bundle accepts it
just if it does not start at the root of all files, never goes up and has a piece that leads
somewhere. Behind the root of the bundle such a path goes down by each of these pieces and by
nothing else. So whatever it leads to is below the root, in every tree and also if the root is
itself reached by going up, and two such paths lead to the same place just if they have the same
components.
-/

namespace ClusterBundle

open ClusterBundle.Path (components)

namespace Path

/-! ### The pieces of a path -/

/-- The pieces that a path is made of, read off its text: there is a slash between neighbours and
in none of them. -/
structure Spells (parts : List String) (path : String) : Prop where
  ne_nil : parts ≠ []
  isPiece : ∀ part ∈ parts, IsPiece part
  joined : Text.joinWith "/" parts = path

theorem spells_pieces (path : String) : Spells (pieces path) path where
  ne_nil := by simp [pieces, Text.split, Text.splitChars_ne_nil]
  isPiece _ := isPiece_of_mem_pieces
  joined := String.toList_inj.1 (Text.toList_joinWith_splitChars '/' path.toList)

theorem spells_iff {parts : List String} {path : String} :
    Spells parts path ↔ parts = pieces path := by
  constructor
  · rintro ⟨hsome, hpiece, rfl⟩
    exact (pieces_joinWith hsome hpiece).symm
  · rintro rfl
    exact spells_pieces path

/-- The text of a base stands in front of everything that is below it. -/
theorem prefix_join {path : String} (h : isAbsolute path = false) (base : String) :
    base.toList <+: (join base path).toList := by
  unfold join
  rw [if_neg (by simp [h])]
  split
  · rw [String.toList_append]
    exact List.prefix_append _ _
  · rw [String.append_assoc, String.toList_append]
    exact List.prefix_append _ _

end Path

namespace File

open Access (Leads)

variable {tree : Tree} {path base : String} {names : List String} {spot : Spot}

/-- A path that is found behind another one leads below the directory with the other path. -/
theorem Access.Leads.locate_below (h : Leads base path names) (hnames : names ≠ [])
    (hbase : base ≠ "") (htext : base.toList <+: path.toList)
    (hlocate : locate tree path = .ok spot) :
    ∃ root, stat tree base = .ok (root, .directory) ∧ spot.place = root ++ names := by
  obtain ⟨root, hroot⟩ := walk_of_locate h.components_eq hnames hlocate
  have hfault := textFault?_of_prefix htext (textFault?_of_locate hlocate)
  exact ⟨root, stat_of_walked (hfault.resolve_left hbase) hroot,
    locate_place hroot h.components_eq h.down hlocate⟩

end File

namespace Bundle

open File.Access (Leads)

/-! ### Accepted paths -/

/-- What makes a path one inside of the bundle. -/
structure StaysInside (path : String) : Prop where
  relative : path.toList.head? ≠ some '/'
  down : ".." ∉ Path.pieces path
  named : ∃ piece ∈ Path.pieces path, piece ≠ "" ∧ piece ≠ "."

theorem accepts_iff_staysInside {path : String} : accepts path = true ↔ StaysInside path := by
  have hrelative : Path.isAbsolute path = false ↔ path.toList.head? ≠ some '/' := by
    rw [Bool.eq_false_iff, ne_eq, Path.isAbsolute_iff, ne_eq, List.head?_eq_some_iff]
  have hdown : ".." ∉ components path ↔ ".." ∉ Path.pieces path := by
    have hup : Path.isIdle ".." = false := by decide
    simp [components, hup]
  have hnamed : components path ≠ [] ↔ ∃ piece ∈ Path.pieces path, piece ≠ "" ∧ piece ≠ "." := by
    simp [components, Path.isIdle, List.filter_eq_nil_iff]
  rw [accepts_iff, hrelative, hdown, hnamed]
  constructor
  · rintro ⟨hrelative, hnamed, hdown⟩
    exact ⟨hrelative, hdown, hnamed⟩
  · rintro ⟨hrelative, hdown, hnamed⟩
    exact ⟨hrelative, hnamed, hdown⟩

/-- A full path goes down from the root by some names, at least one, and so does whatever is found
by it. -/
structure LiesBelow (root full : String) (names : List String) : Prop where
  leads : Leads root full names
  strict : names ≠ []
  located : ∀ tree spot, File.locate tree full = .ok spot →
    ∃ place, File.stat tree root = .ok (place, .directory) ∧ spot.place = place ++ names

theorem liesBelow_join {root path : String} (hroot : Path.isAbsolute root = true)
    (h : accepts path = true) : LiesBelow root (Path.join root path) (components path) := by
  obtain ⟨hrelative, hnames, -⟩ := accepts_iff.1 h
  have hleads := @leads_join root path h
  have hsome : root ≠ "" := by
    rintro rfl
    exact absurd hroot (by decide)
  exact ⟨hleads, hnames, fun tree spot =>
    hleads.locate_below hnames hsome (Path.prefix_join hrelative root)⟩

/-- Two full paths below the root lead to the same place just if they go down by the same names. -/
theorem LiesBelow.place_eq_iff {root full other : String} {names others : List String}
    (h : LiesBelow root full names) (hother : LiesBelow root other others) {tree : File.Tree}
    {spot there : File.Spot} (hspot : File.locate tree full = .ok spot)
    (hthere : File.locate tree other = .ok there) : spot.place = there.place ↔ names = others := by
  obtain ⟨place, hstat, hplace⟩ := h.located tree spot hspot
  obtain ⟨again, hagain, hotherPlace⟩ := hother.located tree there hthere
  rw [hstat] at hagain
  cases hagain
  rw [hplace, hotherPlace, List.append_cancel_left_eq]

variable {bundle : Bundle}

/-- A bundle accepts just the paths that stay inside it and refuses the others as they are. The
pieces of a path are the one way to read it. A path that is accepted goes down from the root by its
own components, all the way and to whatever is found there; two of them come to the same components,
and in every tree to the same place, just if they have the same components themselves. -/
theorem resolve_confines (hroot : Path.isAbsolute bundle.root = true) (path other : String) :
    (∀ parts, Path.Spells parts path ↔ parts = Path.pieces path) ∧
      ((∃ full, bundle.resolve path = .ok full) ↔ StaysInside path) ∧
      (¬ StaysInside path → bundle.resolve path = .error (.outside path)) ∧
      (∀ full, bundle.resolve path = .ok full →
        Path.isAbsolute full = true ∧ LiesBelow bundle.root full (components path)) ∧
      (∀ full there, bundle.resolve path = .ok full → bundle.resolve other = .ok there →
        (components full = components there ↔ components path = components other) ∧
          ∀ tree spot place, File.locate tree full = .ok spot → File.locate tree there = .ok place →
            (spot.place = place.place ↔ components path = components other)) := by
  refine ⟨fun _ => Path.spells_iff, ?_, fun houtside => ?_, fun full hfull => ?_,
    fun full there hfull hthere => ?_⟩
  · rw [← accepts_iff_staysInside]
    constructor
    · rintro ⟨full, hfull⟩
      exact (resolve_ok hfull).1
    · exact fun haccepts => ⟨_, resolve_of_accepts bundle haccepts⟩
  · rw [← accepts_iff_staysInside] at houtside
    exact if_neg houtside
  · obtain ⟨haccepts, rfl⟩ := resolve_ok hfull
    exact ⟨Path.isAbsolute_join hroot path, liesBelow_join hroot haccepts⟩
  · obtain ⟨haccepts, rfl⟩ := resolve_ok hfull
    obtain ⟨hother, rfl⟩ := resolve_ok hthere
    have hpath := liesBelow_join hroot haccepts
    have hthere := liesBelow_join hroot hother
    refine ⟨?_, fun tree spot place => hpath.place_eq_iff hthere⟩
    rw [hpath.leads.components_eq, hthere.leads.components_eq, List.append_cancel_left_eq]

/-- Two spellings of one path, with a name that only begins like a way up, behind a root that does
go up. -/
theorem resolve_confines_respelled :
    Path.isAbsolute "/b/../c/" = true ∧ StaysInside "./a//..d/" ∧
      components "/b/../c/./a//..d/" = components "/b/../c/a/..d" := by
  have hroot : Path.isAbsolute (Bundle.mk "/b/../c/").root = true := by decide
  obtain ⟨-, haccepted, -, -, hsame⟩ := resolve_confines hroot "./a//..d/" "a/..d"
  have hfull : (Bundle.mk "/b/../c/").resolve "./a//..d/" = .ok "/b/../c/./a//..d/" := rfl
  have hother : (Bundle.mk "/b/../c/").resolve "a/..d" = .ok "/b/../c/a/..d" := rfl
  exact ⟨hroot, haccepted.1 ⟨_, hfull⟩, (hsame _ _ hfull hother).1.2 (by decide)⟩

end Bundle

end ClusterBundle
