import ClusterVars.Load
import ClusterVars.Path

/-! The files that a run can see: a tree of directories and files below a root. Absolute paths start
from the root, others from the working directory, which is one of the directories. -/
namespace ClusterVars

/-- Why a path leads nowhere whatever files there are. -/
def FileError.ofPath? (path : String) : Option FileError :=
  if path.toList.contains '\x00' then some .nulInName
  else if path = "" then some .missing
  else if Path.maxSize < path.utf8ByteSize then some .nameTooLong
  else none

/-- Files and directories are known by the names that lead to them from the root. Whatever leads to
one of them is a directory. -/
structure FileTree where
  /-- A file without text holds bytes that are not UTF-8. -/
  files : List (List String × Option String)
  /-- Directories that may be empty. -/
  directories : List (List String)
  workingDirectory : List String

namespace FileTree

/-- One step from a place in the tree. The root is its own parent. -/
def enter (names : List String) (name : String) : List String :=
  if Path.isIdle name then names
  else if name = ".." then names.dropLast
  else names ++ [name]

def isDirectory (t : FileTree) (names : List String) : Bool :=
  (t.workingDirectory :: t.directories).any (names.isPrefixOf ·) ||
    t.files.any fun file => names.isPrefixOf file.1 && names.length < file.1.length

/-- The content of the file at a place, if there is a file. -/
def content? (t : FileTree) (names : List String) : Option (Option String) :=
  if t.isDirectory names then none else (t.files.find? (·.1 = names)).map (·.2)

def isFile (t : FileTree) (names : List String) : Bool := (t.content? names).isSome

/-- Follows segments from a place; every place left has to be a directory. -/
def follow (t : FileTree) : List String → List String → Except FileError (List String)
  | names, [] => .ok names
  | names, name :: rest =>
    if t.isDirectory names then
      if Path.maxNameSize < name.utf8ByteSize then .error .nameTooLong
      else t.follow (enter names name) rest
    else if t.isFile names then .error .notDirectory
    else .error .missing

/-- Where a path starts from. -/
def start (t : FileTree) (path : String) : List String :=
  if Path.isAbsolute path then [] else t.workingDirectory

/-- Follows a path by some of its segments. -/
def followPath (t : FileTree) (path : String) (segments : List String) :
    Except FileError (List String) :=
  match FileError.ofPath? path with
  | some cause => .error cause
  | none => t.follow (t.start path) segments

/-- The place that a path leads to, where there need not be anything. -/
def locate (t : FileTree) (path : String) : Except FileError (List String) :=
  t.followPath path (Path.segments path)

def read (t : FileTree) (path : String) : Except FileError String :=
  match t.locate path with
  | .error cause => .error cause
  | .ok names =>
    if t.isDirectory names then .error .isDirectory
    else match t.content? names with
      | some (some text) => .ok text
      | some none => .error .notText
      | none => .error .missing

/-- The file at these names holds the text. -/
def put (t : FileTree) (names : List String) (text : String) : FileTree :=
  { t with files := (names, some text) :: t.files.filter (·.1 ≠ names) }

/-- Writes a file in a directory that exists. A path that ends in a slash asks for a directory, so
only the way to it matters. -/
def write (t : FileTree) (path text : String) : Except FileError FileTree :=
  let segments := Path.segments path
  if segments.getLast? = some "" then
    match t.followPath path ((segments.reverse.dropWhile (· = "")).reverse.dropLast ++ [""]) with
    | .error cause => .error cause
    | .ok _ => .error .isDirectory
  else match t.locate path with
    | .error cause => .error cause
    | .ok names =>
      if t.isDirectory names then .error .isDirectory else .ok (t.put names text)

def layer (t : FileTree) (path : String) : Layer := ⟨path, t.read path⟩

/-- A tree of files, given by their paths from the root or from the working directory. -/
def ofFiles (files : List (String × Option String))
    (workingDirectory : List String := ["work"]) : FileTree where
  files := files.map fun (path, content) =>
    ((Path.segments path).foldl enter (if Path.isAbsolute path then [] else workingDirectory),
      content)
  directories := []
  workingDirectory := workingDirectory

/-- The files below the working directory that the tree has and an earlier one had not, or not with
this content, by their paths from there. -/
def changesSince (after before : FileTree) : List (String × Option String) :=
  let base := after.workingDirectory
  (after.files.filter fun file =>
    base.isPrefixOf file.1 && before.content? file.1 ≠ some file.2).map fun file =>
      ("/".intercalate (file.1.drop base.length), file.2)

end FileTree
end ClusterVars
