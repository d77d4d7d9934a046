namespace Skirmish

-- Why a file could not be read.
inductive FileFault where
  | missing
  | notDirectory
  | isDirectory
  | tooLong
  | other (message : String)
deriving DecidableEq, Repr

def FileFault.message : FileFault → String
  | .missing => "No such file or directory (os error 2)"
  | .notDirectory => "Not a directory (os error 20)"
  | .isDirectory => "Is a directory (os error 21)"
  | .tooLong => "File name too long (os error 36)"
  | .other message => message

-- What a path leads to.
inductive Found where
  | file (content : String)
  | directory
  | nothing (fault : FileFault)
deriving DecidableEq, Repr

-- The files within reach, by path.
abbrev Files := String → Found

namespace Files

def isDirectory (files : Files) (path : String) : Bool := files path == .directory

def holds (files : Files) (path : String) : Bool :=
  match files path with
  | .nothing _ => false
  | _ => true

def read (files : Files) (path : String) : Except FileFault String :=
  match files path with
  | .file content => .ok content
  | .directory => .error .isDirectory
  | .nothing fault => .error fault

-- A path one step further down.
def join (path name : String) : String :=
  if path.endsWith "/" then path ++ name else path ++ "/" ++ name

end Files

-- Files with their contents, each at the steps that lead to it from the top.
-- There is a directory wherever a file lies below.
structure FileTree where
  files : List (List String × String)

namespace FileTree

def steps (path : String) : List String := path.splitOn "/"

-- The steps of a path that do not stay where they are.
def names (path : String) : List String :=
  (steps path).filter fun step => step ≠ "" ∧ step ≠ "."

def ofList (files : List (String × String)) : FileTree where
  files := files.map fun (path, content) => (names path, content)

def found (tree : FileTree) (place : List String) : Found :=
  match tree.files.find? fun (path, _) => path == place with
  | some (_, content) => .file content
  | none =>
    if place.isEmpty || tree.files.any fun (path, _) => place.isPrefixOf path then .directory
    else .nothing .missing

-- The most bytes in a name and in a whole path.
def maxNameLength : Nat := 255

def maxPathLength : Nat := 4095

-- What lies outside a tree, where nothing can be found.
def outside : FileTree := ⟨[]⟩

-- Follows a path from a directory, given by the steps that lead to it, the last
-- first. Empty steps and single dots stay in a directory, double dots leave it.
def walk (tree : FileTree) (place : List String) : List String → Found
  | [] => tree.found place.reverse
  | name :: names =>
    match tree.found place.reverse with
    | .directory =>
      if name = "" ∨ name = "." then walk tree place names
      else if name = ".." then
        match place with
        | [] => walk outside [] names
        | _ :: parent => walk tree parent names
      else if maxNameLength < name.utf8ByteSize then .nothing .tooLong
      else walk tree (name :: place) names
    | .file _ => .nothing .notDirectory
    | .nothing fault => .nothing fault

-- Paths start at the top of the tree, but those from the root outside.
def view (tree : FileTree) : Files := fun path =>
  if path.isEmpty then .nothing .missing
  else if maxPathLength < path.utf8ByteSize then .nothing .tooLong
  else walk (if path.startsWith "/" then outside else tree) [] (steps path)

end FileTree

end Skirmish
