/-!
Files and directories. A path is followed name by name from the root or from the working directory, as
an operating system does, so a path that passes through a file or through nothing leads nowhere.
-/

namespace FilterSql

/-- Names from the root. -/
abbrev Location := List String

/-- A path as written. What stands behind the last slash is apart: a file can only be made under a
proper name. -/
structure Path where
  absolute : Bool
  directories : List String
  last : String
  deriving DecidableEq, Repr

namespace Path

def ofText (s : String) : Path :=
  let names := (s.toList.splitOn '/').map String.ofList
  ⟨s.toList.head? == some '/', names.dropLast, names.getLastD ""⟩

/-- Whether the path ends in a name, and not in a slash or in dots that stand for a directory. -/
def isProper (p : Path) : Bool :=
  p.last != "" && p.last != "." && p.last != ".."

/-- The text of a path below a directory. -/
def join (directory name : String) : String :=
  if directory.isEmpty || directory.endsWith "/" then directory ++ name
  else directory ++ "/" ++ name

/-- The directories that lead to what the path names, which is the last name that is not empty and not
a single dot. -/
def parents (p : Path) : List String :=
  if p.last == "" || p.last == "." then
    ((p.directories.reverse.dropWhile fun name => name == "" || name == ".").drop 1).reverse
  else p.directories

end Path

/-- What a path leads to. -/
inductive Entry
  | missing
  | directory
  | file (content : String)
  deriving DecidableEq, Repr

namespace Entry

def isPresent : Entry → Bool
  | missing => false
  | _ => true

end Entry

inductive WriteError
  /-- A directory on the way is missing and cannot be made. -/
  | noDirectory
  | notWritable
  deriving DecidableEq, Repr

structure FileStore where
  files : List (Location × String)
  directories : List Location
  /-- The working directory. -/
  working : Location
  deriving DecidableEq, Repr

namespace FileStore

def isDirectory (fs : FileStore) (location : Location) : Bool :=
  location.isEmpty || fs.directories.contains location

def entryAt (fs : FileStore) (location : Location) : Entry :=
  match fs.files.lookup location with
  | some content => .file content
  | none => if fs.isDirectory location then .directory else .missing

def start (fs : FileStore) (path : Path) : Location :=
  if path.absolute then [] else fs.working

/-- Where a name leads from a directory. -/
def enter (location : Location) (name : String) : Location :=
  if name == "" || name == "." then location
  else if name == ".." then location.dropLast
  else location ++ [name]

/-- Follows names through directories; the end may be anything. -/
def follow? (fs : FileStore) (location : Location) : List String → Option Location
  | [] => some location
  | name :: names =>
    if fs.isDirectory location then fs.follow? (enter location name) names else none

def locate? (fs : FileStore) (path : Path) : Option Location :=
  fs.follow? (fs.start path) (path.directories ++ [path.last])

def look (fs : FileStore) (path : Path) : Entry :=
  match fs.locate? path with
  | some location => fs.entryAt location
  | none => .missing

/-- Makes the directories that are missing along the names; a file in the way stops it. -/
def makeDirectories (fs : FileStore) (location : Location) : List String → FileStore × Bool
  | [] => (fs, true)
  | name :: names =>
    let next := enter location name
    match fs.entryAt next with
    | .directory => fs.makeDirectories next names
    | .missing => { fs with directories := next :: fs.directories }.makeDirectories next names
    | .file _ => (fs, false)

def put (fs : FileStore) (location : Location) (content : String) : FileStore :=
  { fs with files := (location, content) :: fs.files.filter fun file => file.1 != location }

/-- Writes a file, after making the directories on its way. Directories made before a failure stay. -/
def write (fs : FileStore) (path : Path) (content : String) : FileStore × Except WriteError Unit :=
  match fs.makeDirectories (fs.start path) path.parents with
  | (made, false) => (made, .error .noDirectory)
  | (made, true) =>
    match path.isProper, made.locate? path with
    | true, some location =>
      if made.isDirectory location then (made, .error .notWritable)
      else (made.put location content, .ok ())
    | _, _ => (made, .error .notWritable)

end FileStore

end FilterSql
