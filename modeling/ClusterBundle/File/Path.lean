import ClusterBundle.Text.Blank

/-!
Paths as texts and the pieces between their slashes.

A path keeps the text it was given. The pieces `""` and `"."` lead nowhere, so the parent of a path
and its last name are found by passing over them from the end; the text that remains in front is
left as it was.
-/

namespace ClusterBundle.Path

def isAbsolute (path : String) : Bool := Text.isPrefixOf "/" path

def endsWithSlash (path : String) : Bool := path.toList.getLast? = some '/'

/-- What stands between the slashes, with an empty piece wherever two of them meet. -/
def pieces (path : String) : List String := Text.split '/' path

/-- A piece that stays where it is. -/
def isIdle (piece : String) : Bool := piece = "" || piece = "."

/-- The pieces that lead somewhere. -/
def components (path : String) : List String := (pieces path).filter fun p => !isIdle p

/-- A path below a base. An absolute path does not care about the base. -/
def join (base path : String) : String :=
  if isAbsolute path then path
  else if base = "" || endsWithSlash base then base ++ path
  else base ++ "/" ++ path

theorem components_append_slash (base path : String) :
    components (base ++ "/" ++ path) = components base ++ components path := by
  simp [components, pieces, Text.split, String.toList_append, Text.splitChars_append_cons]

theorem endsWithSlash_iff (path : String) :
    endsWithSlash path = true ↔ ∃ front, path.toList = front ++ ['/'] := by
  simp [endsWithSlash, List.getLast?_eq_some_iff]

/-- A relative path adds its components to those of the base. -/
theorem components_join (base path : String) (h : isAbsolute path = false) :
    components (join base path) = components base ++ components path := by
  unfold join
  split
  · simp_all
  · split
    · rename_i hb
      simp only [Bool.or_eq_true, decide_eq_true_eq, endsWithSlash_iff] at hb
      rcases hb with rfl | ⟨front, hf⟩
      · simp [components, pieces, Text.split, Text.splitChars, isIdle]
      · simp only [components, pieces, Text.split, String.toList_append, hf, List.append_assoc,
          List.singleton_append, Text.splitChars_append_cons, List.map_append,
          List.filter_append]
        simp [Text.splitChars, isIdle]
    · exact components_append_slash base path

/-- The pieces of a path from the last to the first, without the empty one before a slash that
starts it. -/
def reversedPieces (path : String) : List String :=
  let all := pieces path
  (if isAbsolute path then all.drop 1 else all).reverse

/-- The text of a path from its reversed pieces. -/
def ofReversed (absolute : Bool) (reversed : List String) : String :=
  (if absolute then "/" else "") ++ Text.joinWith "/" reversed.reverse

/-- What is left of reversed pieces in front of each piece that leads somewhere. -/
def parentPieces : List String → List (List String)
  | [] => []
  | piece :: rest =>
      if isIdle piece then parentPieces rest
      else rest.dropWhile isIdle :: parentPieces rest

/-- The directories around a path, from the nearest to the outermost. -/
def parents (path : String) : List String :=
  (parentPieces (reversedPieces path)).map (ofReversed (isAbsolute path))

def parent? (path : String) : Option String := (parents path).head?

/-- The last name of a path; a path that ends by going up has none. -/
def fileName? (path : String) : Option String :=
  match (reversedPieces path).dropWhile isIdle with
  | [] => none
  | ".." :: _ => none
  | name :: _ => some name

/-- A path made absolute from a working directory. Idle pieces and doubled slashes go, a slash at
the end stays, and nothing is done about pieces that go up. -/
def absolute? (workingDirectory path : String) : Option String :=
  if path = "" then none
  else
    let tail := if endsWithSlash path then "/" else ""
    let body := Text.joinWith "/" (components path)
    if isAbsolute path then
      let slashes := (path.toList.takeWhile (· = '/')).length
      let front := if slashes = 2 then "//" else "/"
      if body = "" then some front else some (front ++ body ++ tail)
    else if body = "" then
      some (if endsWithSlash workingDirectory then workingDirectory else workingDirectory ++ tail)
    else some (join workingDirectory body ++ tail)

end ClusterBundle.Path
