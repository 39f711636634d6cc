/-! Paths as they are written: names separated by slashes. Nothing is simplified, except that the
parent of a path ends in a name. -/
namespace ClusterVars.Path

/-- The bytes that a path can have. -/
def maxSize : Nat := 4095

/-- The bytes that a name in a path can have. -/
def maxNameSize : Nat := 255

/-- The texts between slashes, of which those at the ends may be empty. -/
def segments (path : String) : List String := (path.toList.splitOn '/').map String.ofList

def isAbsolute (path : String) : Bool := path.toList.head? = some '/'

/-- A segment that names no other place than the one before it. -/
def isIdle (segment : String) : Bool := segment = "" || segment = "."

/-- The path before the last name, less slashes and dots that lead nowhere. -/
def parent (path : String) : String :=
  match (segments path).dropLast with
  | [] => ""
  | first :: rest =>
    match (rest.reverse.dropWhile isIdle).reverse with
    | [] => if first = "" then "/" else first
    | kept => "/".intercalate (first :: kept)

/-- A path as seen from a directory; absolute paths stay, and so do all paths when the directory
is empty. -/
def join (directory path : String) : String :=
  if directory = "" || isAbsolute path then path
  else if directory.toList.getLast? = some '/' then directory ++ path
  else directory ++ "/" ++ path

end ClusterVars.Path
