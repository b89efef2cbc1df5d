import HiddenEquation.Corpus

/-!
# A tree of files

The files of a run, apart from any file system: named contents under a root, with a working
directory among them. A path is followed name by name. It starts at the root if it begins with a
slash, and at the working directory otherwise. A name can be that of a link, which leads elsewhere.

## Main definitions

* `FileTree` : files by the names along their routes from the root, and standard input.
* `FileTree.links`, `FileTree.resolve` : where a link leads.
* `FileTree.walk`, `FileTree.find` : the route to which a path leads.
* `FileTree.read` : the bytes of a file.
* `FileTree.create` : a file is there from now on.
* `FileTree.append` : more bytes at the end of a file.
-/

namespace HiddenEquation

/-- Files below a root, and what standard input holds. -/
structure FileTree where
  /-- The files, each with the names along its route from the root. -/
  files : List (List String × ByteArray)
  input : ByteArray := .empty

namespace FileTree

/-- The route of the working directory. -/
def workplace : List String := ["tmp", "work"]

/-- The tree with files at these paths from the working directory. -/
def ofFiles (files : List (String × ByteArray)) (input : ByteArray) : FileTree :=
  let names (path : String) := (path.splitOn "/").filter fun name => name ≠ "" ∧ name ≠ "."
  { files := files.map fun file => (workplace ++ names file.1, file.2), input }

/-- The directory of the open streams of a run, which are named by their numbers. -/
def streams : List String := ["proc", "self", "fd"]

/-- The route at which standard input can be read. -/
def inputRoute : List String := streams ++ ["0"]

/-- The routes of standard output and of the error stream. -/
def outputRoutes : List (List String) := [streams ++ ["1"], streams ++ ["2"]]

/-- The links, each with the route to which it leads. -/
def links : List (List String × List String) :=
  [(["dev", "fd"], streams), (["dev", "stdin"], inputRoute), (["dev", "stdout"], streams ++ ["1"]),
    (["dev", "stderr"], streams ++ ["2"]), (["bin"], ["usr", "bin"]), (["lib"], ["usr", "lib"]),
    (["sbin"], ["usr", "sbin"])]

/-- Where a route leads if it ends at a link, and the route itself otherwise. -/
def resolve (route : List String) : List String := (links.lookup route).getD route

/-- The directories that are there whatever files there are. -/
def directories : List (List String) :=
  ["boot", "dev", "etc", "home", "media", "mnt", "opt", "proc", "root", "run", "srv", "sys", "tmp",
    "usr", "var"].map ([·]) ++ ["bin", "lib", "sbin"].map (["usr", ·])

/-- The longest name that a file can have, in bytes. -/
def maxNameSize : Nat := 255

/-- The longest path that can be followed, in bytes. -/
def maxPathSize : Nat := 4095

/-- All that can be read: the files, the empty device and standard input. -/
def readables (t : FileTree) : List (List String × ByteArray) :=
  t.files ++ [(["dev", "null"], .empty), (inputRoute, t.input)]

/-- What can be read at the end of a route. -/
def file? (t : FileTree) (route : List String) : Option ByteArray :=
  (t.readables.find? fun entry => entry.1 == route).map Prod.snd

/-- Whether a route leads to a directory: one that is always there, one on the way to the working
directory, or one that holds a file. -/
def isDirectory (t : FileTree) (route : List String) : Bool :=
  directories.contains route || route.isPrefixOf workplace
    || t.readables.any fun entry => route.isPrefixOf entry.1 && entry.1 != route

/-- The route to which names lead from a route. Each name is looked up in a directory; the last one
need not be there. -/
def walk (t : FileTree) (here : List String) : List String → Except FileError (List String)
  | [] => .ok here
  | name :: rest =>
    if !t.isDirectory here then
      .error (if (t.file? here).isSome then .notDirectory else .notFound)
    else if name = "" ∨ name = "." then t.walk here rest
    else if name = ".." then t.walk here.dropLast rest
    else if maxNameSize < name.utf8ByteSize then .error .nameTooLong
    else t.walk (resolve (here ++ [name])) rest

/-- The names along a path and the route from which they start. -/
def namesOf (path : String) : Except FileError (List String × List String) :=
  if path.isEmpty then .error .notFound
  else if maxPathSize < path.utf8ByteSize then .error .nameTooLong
  else .ok (path.splitOn "/", if path.startsWith "/" then [] else workplace)

/-- The route to which a path leads. -/
def find (t : FileTree) (path : String) : Except FileError (List String) :=
  match namesOf path with
  | .error reason => .error reason
  | .ok (names, start) => t.walk start names

/-- The bytes of the file at a path. -/
def read (t : FileTree) (path : String) : Except FileError ByteArray :=
  match t.find path with
  | .error reason => .error reason
  | .ok route =>
    if t.isDirectory route then .error .isDirectory
    else
      match t.file? route with
      | some bytes => .ok bytes
      | none => .error .notFound

/-- The tree with a file at the end of a route, which is empty if it was not there before. Among the
open streams no file can be made. -/
def createAt (t : FileTree) (route : List String) : Except FileError FileTree :=
  if t.isDirectory route then .error .isDirectory
  else if (t.file? route).isSome || outputRoutes.contains route then .ok t
  else if ["proc"].isPrefixOf route then .error .notFound
  else .ok { t with files := t.files ++ [(route, .empty)] }

/-- The tree with a file at a path. The last name has to be that of a file: neither a dot, nor two
dots, nor followed by a slash. -/
def create (t : FileTree) (path : String) : Except FileError FileTree :=
  match namesOf path with
  | .error reason => .error reason
  | .ok (names, start) =>
    let stem := (names.reverse.dropWhile (· == "")).reverse
    match t.walk start (stem.dropLast ++ ["."]), stem.getLast? with
    | .error reason, _ => .error reason
    | .ok _, none => .error .isDirectory
    | .ok parent, some name =>
      if name = "." ∨ name = ".." ∨ stem.length < names.length then .error .isDirectory
      else if maxNameSize < name.utf8ByteSize then .error .nameTooLong
      else t.createAt (resolve (parent ++ [name]))

/-- The tree with more text at the end of a file that is there. -/
def append (t : FileTree) (path text : String) : FileTree :=
  match t.find path with
  | .error _ => t
  | .ok route =>
    { t with
      files := t.files.map fun entry =>
        if entry.1 = route then (route, entry.2 ++ text.toUTF8) else entry }

/-- Whether reading the file at a path reads standard input. -/
def readsInput (t : FileTree) (path : String) : Bool :=
  match t.find path with
  | .error _ => false
  | .ok route => route == inputRoute

end FileTree

end HiddenEquation
