/-!
# Files and directories

A directory with everything in it: files of bytes, and directories. Paths are read as
a system does that follows them name by name: `..` leaves a directory only once it
has been entered, and a name behind a file leads nowhere. Outside of the directory
nothing is known; whatever lies there is missing.
-/

namespace RegisterWrites

inductive FileError
  | notFound
  | notDirectory
  | isDirectory
  /-- The bytes of the file are no text. -/
  | notText
  /-- Any other cause, in words. -/
  | other (cause : String)
  deriving DecidableEq, Repr

def FileError.message : FileError → String
  | notFound => "No such file or directory (os error 2)"
  | notDirectory => "Not a directory (os error 20)"
  | isDirectory => "Is a directory (os error 21)"
  | notText => "stream did not contain valid UTF-8"
  | other cause => cause

/-- The names that lead from the directory to something in it. -/
abbrev Route := List String

/-- A directory with everything in it. -/
structure FileTree where
  files : List (Route × ByteArray)
  /-- Directories that are there although no file is in them. -/
  directories : List Route

namespace FileTree

/-- Where a path leads. -/
inductive Place
  /-- To something in the directory, or to a name in it that is free. -/
  | within (route : Route)
  /-- Out of the directory. -/
  | outside
  deriving DecidableEq, Repr

def content? (tree : FileTree) (route : Route) : Option ByteArray := tree.files.lookup route

/-- Whether there is a directory at the end of `route`: the directory itself, one of those in it, or
one on the way to a file or a directory. -/
def isDirectory (tree : FileTree) (route : Route) : Bool :=
  route = [] ||
    (tree.directories ++ tree.files.map (·.1.dropLast)).any route.isPrefixOf

/-- Whether a place is a directory. What lies outside is not known but for the directories above. -/
def isDirectoryPlace (tree : FileTree) : Place → Bool
  | .within route => tree.isDirectory route
  | .outside => true

/-- The place to which `name` leads from the directory `from_`. -/
def enter (tree : FileTree) (from_ : Place) (name : String) : Except FileError Place :=
  if !tree.isDirectoryPlace from_ then .error .notDirectory
  else if name = "" ∨ name = "." then .ok from_
  else
    match from_ with
    | .outside => if name = ".." then .ok .outside else .error .notFound
    | .within route =>
      if name = ".." then .ok (if route = [] then .outside else .within route.dropLast)
      else if (tree.content? (route ++ [name])).isSome ∨ tree.isDirectory (route ++ [name]) then
        .ok (.within (route ++ [name]))
      else .error .notFound

def names (path : String) : List String :=
  (path.toList.splitOn '/').map String.ofList

/-- The place where `path` begins: a slash in front leads out of the directory. -/
def start (path : String) : Place :=
  if path.toList.head? = some '/' then .outside else .within []

/-- The place to which `path` leads, name by name. -/
def follow (tree : FileTree) (path : String) : Except FileError Place :=
  (names path).foldlM tree.enter (start path)

/-- The bytes of the file to which `path` leads. -/
def read (tree : FileTree) (path : String) : Except FileError ByteArray := do
  match ← tree.follow path with
  | .outside => throw .isDirectory
  | .within route =>
    match tree.content? route with
    | some bytes => return bytes
    | none => throw .isDirectory

/-- The text of the file to which `path` leads. -/
def readText (tree : FileTree) (path : String) : Except FileError String := do
  match String.fromUTF8? (← tree.read path) with
  | some text => return text
  | none => throw .notText

/-- The `names` of a path without the empty ones at its end, and whether there were any. -/
def dropSlashes (names : List String) : List String × Bool :=
  ((names.reverse.dropWhile (· = "")).reverse, names.getLast? = some "")

/-- The route of the file that is written under `path`. The file need not be there, but its
directory must. -/
def target (tree : FileTree) (path : String) : Except FileError Route := do
  let (names, slashed) := dropSlashes (names path)
  let parent ← names.dropLast.foldlM tree.enter (start path)
  if !tree.isDirectoryPlace parent then throw .notDirectory
  match names.getLast?, parent with
  | none, _ => throw .isDirectory
  | some name, place =>
    if slashed ∨ name = "." ∨ name = ".." then throw .isDirectory
    match place with
    | .outside => throw .notFound
    | .within route =>
      if tree.isDirectory (route ++ [name]) then throw .isDirectory
      return route ++ [name]

/-- Puts a file of `bytes` at `route`, in the place of the file that is there. -/
def put (tree : FileTree) (route : Route) (bytes : ByteArray) : FileTree :=
  { tree with files := (route, bytes) :: tree.files.filter fun (file, _) => file ≠ route }

/-- Writes `bytes` under `path`, to the route of `target`. -/
def write (tree : FileTree) (path : String) (bytes : ByteArray) : Except FileError FileTree := do
  return tree.put (← tree.target path) bytes

/-- The files that `after` has and `before` has not, or has with other bytes. -/
def changes (before after : FileTree) : List (Route × ByteArray) :=
  after.files.filter fun (route, bytes) => !(before.content? route == some bytes)

theorem content?_put (tree : FileTree) (route other : Route) (bytes : ByteArray) :
    (tree.put route bytes).content? other =
      if other = route then some bytes else tree.content? other := by
  unfold content? put
  simp only [List.lookup_cons]
  by_cases h : other = route
  · simp [h]
  · simp only [h, ite_false, beq_eq_false_iff_ne.mpr h]
    induction tree.files with
    | nil => rfl
    | cons file files ih =>
      obtain ⟨place, content⟩ := file
      by_cases hp : place = route
      · subst hp
        simpa [List.lookup_cons, beq_eq_false_iff_ne.mpr h] using ih
      · simp only [List.filter_cons, hp, ne_eq, not_false_eq_true, decide_true, ite_true,
          List.lookup_cons, ih]

end FileTree

end RegisterWrites
