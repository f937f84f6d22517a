set_option autoImplicit false

/-! # Paths

Paths as texts whose segments are separated by slashes. An empty segment and a dot lead nowhere; two
dots lead to the directory above. Paths are joined and cut as texts, so what is shown to the user
keeps the user's spelling. -/

namespace HandleWrap.Path

/-- The path of a name in a directory; an absolute name stands for itself. -/
def join (directory name : String) : String :=
  if name.startsWith "/" then name
  else if directory.isEmpty || directory.endsWith "/" then directory ++ name
  else directory ++ "/" ++ name

/-- The texts between the slashes of a path. -/
def segments (path : String) : List String :=
  (path.toList.splitOn '/').map String.ofList

/-- Whether a segment leads nowhere. -/
def isIdle (segment : String) : Bool :=
  segment.isEmpty || segment == "."

/-- Where a path starts. -/
inductive Start where
  | root
  /-- The working directory, written as a dot. -/
  | dot
  /-- The working directory, not written. -/
  | bare
deriving DecidableEq, Repr

/-- The path with that start and those segments, last segment first. -/
def ofReversed (start : Start) (segments : List String) : String :=
  match start with
  | .root => "/" ++ "/".intercalate segments.reverse
  | .dot => "/".intercalate ("." :: segments.reverse)
  | .bare => "/".intercalate segments.reverse

/-- The paths above the path with that start and those segments, last segment first. Segments that
    lead nowhere are dropped where the path is cut. -/
def aboveReversed (start : Start) : List String → List String
  | [] => if start = .dot then [""] else []
  | segment :: rest =>
    if isIdle segment then aboveReversed start rest
    else ofReversed start (rest.dropWhile isIdle) :: aboveReversed start rest

/-- The paths above a path, nearest first. -/
def above (path : String) : List String :=
  match segments path with
  | "" :: rest => if rest.isEmpty then [] else aboveReversed .root rest.reverse
  | "." :: rest => aboveReversed .dot rest.reverse
  | segments => aboveReversed .bare segments.reverse

/-- The path of the directory that holds what a path leads to. -/
def parent? (path : String) : Option String :=
  (above path).head?

end HandleWrap.Path
