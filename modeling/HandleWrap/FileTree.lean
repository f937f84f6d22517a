import HandleWrap.FileSystem

set_option autoImplicit false

/-! # File trees

A file system in memory: which locations hold a file or a directory, and the working directory at
which relative paths start. A location is the list of names that leads to it from the root. -/

namespace HandleWrap

/-- What a location holds. -/
inductive FileNode where
  | file (content : ByteArray)
  | directory

/-- Whether this is a directory. -/
def FileNode.isDirectory : FileNode → Bool
  | file _ => false
  | directory => true

/-- A tree of files and directories. The root is always a directory. -/
structure FileTree where
  /-- The locations with what they hold; of several entries for one location the first counts. -/
  nodes : List (List String × FileNode)
  /-- The location at which relative paths start. -/
  workplace : List String

namespace FileTree

/-- What a location holds. -/
def node? (t : FileTree) (location : List String) : Option FileNode :=
  if location.isEmpty then some .directory else t.nodes.lookup location

/-- The tree with something put at a location, in place of what was there. -/
def put (t : FileTree) (location : List String) (node : FileNode) : FileTree :=
  { t with nodes := (location, node) :: t.nodes.filter fun entry => entry.1 != location }

/-- Putting something at a location leaves all other locations. -/
theorem node?_put (t : FileTree) (location other : List String) (node : FileNode)
    (h : location ≠ []) :
    (t.put location node).node? other =
      if other = location then some node else t.node? other := by
  have others (hne : other ≠ location) (nodes : List (List String × FileNode)) :
      (nodes.filter fun entry => entry.1 != location).lookup other = nodes.lookup other := by
    induction nodes with
    | nil => rfl
    | cons entry rest ih =>
      obtain ⟨key, value⟩ := entry
      by_cases he : key = location
      · simp [he, ih, List.lookup_cons, beq_eq_false_iff_ne.2 hne]
      · simp [he, ih, List.lookup_cons]
  by_cases hroot : other = []
  · simp [node?, hroot, Ne.symm h]
  · by_cases hloc : other = location
    · subst hloc; simp [node?, put, hroot]
    · simp [node?, put, hroot, hloc, List.lookup_cons, beq_eq_false_iff_ne.2 hloc, others hloc]

/-- The files below a directory, by their names from there. -/
def filesBelow (t : FileTree) (directory : List String) : List (List String × ByteArray) :=
  t.nodes.filterMap fun (location, node) =>
    match node with
    | .file content =>
      if directory.isPrefixOf location then some (location.drop directory.length, content)
      else none
    | .directory => none

/-! ## Paths in a tree -/

/-- Names may have 255 bytes. -/
def isTooLong (name : String) : Bool :=
  255 < name.utf8ByteSize

/-- The location that the segments lead to from a location. Every location but the last has to be
    a directory. -/
def walk (t : FileTree) (location : List String) : List String → Except FileFault (List String)
  | [] => .ok location
  | segment :: rest =>
    match t.node? location with
    | none => .error .notFound
    | some (.file _) => .error .notDirectory
    | some .directory =>
      if Path.isIdle segment then t.walk location rest
      else if segment = ".." then t.walk location.dropLast rest
      else if isTooLong segment then .error .nameTooLong
      else t.walk (location ++ [segment]) rest

/-- The location at which a path starts, if it can be a path at all. A path may have 4095 bytes. -/
def start (t : FileTree) (path : String) : Except FileFault (List String) :=
  if path.contains '\x00' then .error .nullInPath
  else if path.isEmpty then .error .notFound
  else if 4095 < path.utf8ByteSize then .error .nameTooLong
  else .ok (if path.startsWith "/" then [] else t.workplace)

/-- What a path leads to. -/
def find (t : FileTree) (path : String) : Except FileFault FileNode := do
  let location ← t.walk (← t.start path) (Path.segments path)
  match t.node? location with
  | some node => .ok node
  | none => .error .notFound

/-- Where something new would be put. -/
inductive Place where
  /-- A directory that is there and is not named: the root, or one named by dots. -/
  | unnamed
  /-- A location in a directory that is there; `slash` if the path ends in a slash. The location is
      not looked at yet, so its name may be too long. -/
  | entry (location : List String) (slash : Bool)

/-- The place that a path leads to. -/
def place (t : FileTree) (path : String) : Except FileFault Place := do
  let start ← t.start path
  let segments := (Path.segments path).reverse
  match segments.dropWhile (·.isEmpty) with
  | [] => return .unnamed
  | last :: before =>
    -- A last segment that leads nowhere makes sure that the parent is a directory.
    let parent ← t.walk start (before.reverse ++ ["."])
    if last = "." ∨ last = ".." then return .unnamed
    return .entry (parent ++ [last]) (segments.head?.any (·.isEmpty))

/-- What stands at the location of an entry, if its name can be looked up. -/
def occupant (t : FileTree) (location : List String) : Except FileFault (Option FileNode) :=
  if location.getLast?.any isTooLong then .error .nameTooLong else .ok (t.node? location)

/-! ## Operations -/

/-- The text of the file that a path leads to. -/
def readText (t : FileTree) (path : String) : Except FileFault String := do
  match ← t.find path with
  | .directory => throw .isDirectory
  | .file content =>
    match String.fromUTF8? content with
    | some text => return text
    | none => throw .notText

/-- The tree with one more directory. -/
def makeDirectory (t : FileTree) (path : String) : Except FileFault FileTree := do
  match ← t.place path with
  | .unnamed => throw .alreadyThere
  | .entry location _ =>
    if (← t.occupant location).isSome then throw .alreadyThere
    return t.put location .directory

/-- The tree with the file that a path leads to made of a text. A path that ends in a slash is one
    of a directory, whatever stands there. -/
def writeText (t : FileTree) (path text : String) : Except FileFault FileTree := do
  match ← t.place path with
  | .unnamed | .entry _ true => throw .isDirectory
  | .entry location false =>
    match ← t.occupant location with
    | some .directory => throw .isDirectory
    | _ => return t.put location (.file text.toUTF8)

/-- Changes the tree, or fails and leaves it as it is. -/
def change (f : FileTree → Except FileFault FileTree) : StateM FileTree (Except FileFault Unit) :=
  modifyGet fun t =>
    match f t with
    | .ok changed => (.ok (), changed)
    | .error fault => (.error fault, t)

instance : FileSystem (StateM FileTree) where
  isThere path := return ((← get).find path).isOk
  isDirectory path := return ((← get).find path).toOption.any FileNode.isDirectory
  readText path := return (← get).readText path
  makeDirectory path := change (·.makeDirectory path)
  writeText path text := change (·.writeText path text)

end FileTree

end HandleWrap
