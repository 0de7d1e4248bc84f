import Teletype.Config

/-!
# The tree of files

The files that the command line may name stand in a tree of directories, and the
program works in one of them. A path is a list of names between slashes, and is
walked name by name: from the working directory, or from the root if a slash
comes first. Empty names and single dots stay where they are, and a double dot
leads to the directory around; around the root there is only the root.

Every step starts from something that stands there and is a directory. So a walk
ends at the first name that leads nowhere, at a file that is not the last name,
or at a name that is too long to be looked up; and what is left of the path,
were it only a double dot, does not matter then.
-/

namespace Teletype.CommandLine

/-- **What stands at a place** of the tree. -/
inductive Entry where
  /-- A directory. -/
  | directory
  /-- A file with some content. -/
  | file (content : List UInt8)
  deriving DecidableEq

/-- **A tree of files**, with the directory that the program works in. Places are
given by the names that lead to them from the root. -/
structure FileTree where
  /-- The directories that are there whatever they hold. Those on the way to a file
  or to another directory need not be mentioned. -/
  directories : List (List String)
  /-- The files. -/
  files : List (List String × List UInt8)
  /-- The working directory. -/
  working : List String

namespace FileTree

/-! ## Walking a path -/

/-- What stands at a place. -/
def entry? (t : FileTree) (place : List String) : Option Entry :=
  match t.files.lookup place with
  | some content => some (.file content)
  | none =>
    if (t.directories ++ t.files.map (·.1)).any fun other => place.isPrefixOf other then
      some .directory
    else none

/-- The length in bytes of the longest name that can be looked up. -/
def longestName : Nat := 255

/-- The length in bytes of the longest path that can be walked. -/
def longestPath : Nat := 4095

/-- **What there is behind some more names**, seen from a place whose names are given
with the innermost first. -/
def walk (t : FileTree) : List String → List String → Config.File
  | here, [] =>
    match t.entry? here.reverse with
    | none => .missing
    | some .directory => .directory
    | some (.file content) => .content content
  | here, name :: rest =>
    match t.entry? here.reverse with
    | none => .missing
    | some (.file _) => .beyondFile
    | some .directory =>
      if name == "" || name == "." then t.walk here rest
      else if name == ".." then t.walk here.tail rest
      else if longestName < (Text.bytesOf name).length then .nameTooLong
      else t.walk (name :: here) rest

/-- Whether a path starts at the root. -/
def isAbsolute (path : String) : Bool := path.toList.head? == some '/'

/-- **What there is at a path.** No path at all leads nowhere. -/
def file (t : FileTree) (path : String) : Config.File :=
  if path.isEmpty then .missing
  else if longestPath < (Text.bytesOf path).length then .nameTooLong
  else t.walk (if isAbsolute path then [] else t.working.reverse) (path.splitOn "/")

/-! ## The tree the program finds -/

/-- The directories at the root of every system. -/
def systemDirectories : List String :=
  ["bin", "boot", "dev", "etc", "home", "lib", "media", "mnt", "opt", "proc", "root", "run",
   "sbin", "srv", "sys", "tmp", "usr", "var"]

/-- The line that the program's log begins with. -/
def logLine : String := "INFO polyterm: polyterm 0.1.0 starting...\n"

/-- The working directory of a program that runs for a while: it stands among
temporary files, and has a name that no path can give. -/
def temporary : List String := ["tmp", ""]

/-- The files of every system that are of use here: one is always empty, and the other
lists the accounts. -/
def systemFiles : List (List String × List UInt8) :=
  [(["dev", "null"], []),
   (["etc", "passwd"], Text.bytesOf "root:x:0:0:root:/root:/bin/sh\n")]

/-- **The tree around some files of the working directory**, once the program keeps its
log there, beside the configuration. -/
def around (files : List (List String × List UInt8)) : FileTree :=
  let log := ([Config.directory, "polyterm.log"], Text.bytesOf logLine)
  { directories := temporary :: systemDirectories.map fun name => [name]
    files := systemFiles ++ (files ++ [log]).map fun (place, content) =>
      (temporary ++ place, content)
    working := temporary }

end FileTree

end Teletype.CommandLine
