import CertFailover.Bytes
import CertFailover.Timestamp

/-!
A tree of files, and what can be observed of it. A path is walked name by name, from the root if it
is absolute and from the working directory if not: each name but the last must be a directory, and
`..` leads up, from the root to itself.
-/

namespace CertFailover

inductive FileNode where
  | file (content : Bytes) (modified : Timestamp)
  | directory (modified : Timestamp)

inductive FileError where
  | nulInPath
  | missing
  | notDirectory
  | isDirectory
  | nameTooLong
  deriving DecidableEq

def FileError.message : FileError → String
  | nulInPath => "file name contained an unexpected NUL byte"
  | missing => "No such file or directory (os error 2)"
  | notDirectory => "Not a directory (os error 20)"
  | isDirectory => "Is a directory (os error 21)"
  | nameTooLong => "File name too long (os error 36)"

namespace FileNode

def modified : FileNode → Timestamp
  | file _ modified | directory modified => modified

def isDirectory : FileNode → Bool
  | file .. => false
  | directory _ => true

def content : FileNode → Except FileError Bytes
  | file content _ => .ok content
  | directory _ => .error .isDirectory

end FileNode

/-- Every node, and the working directory, with the names that lead there from the root. -/
structure FileTree where
  working : List String
  nodes : List (List String × FileNode)

namespace FileTree

def maxNameLength : Nat := 255

def maxPathLength : Nat := 4095

def empty : FileTree :=
  ⟨["work"], [([], .directory .epoch), (["work"], .directory .epoch)]⟩

def node? (files : FileTree) (place : List String) : Option FileNode :=
  files.nodes.lookup place

/-- The names of a path, with the empty ones that adjacent or final slashes leave. -/
def namesOf (path : String) : List String :=
  (path.toList.splitOn '/').map String.ofList

def isAbsolute (path : String) : Bool :=
  path.toList.head? == some '/'

def origin (files : FileTree) (path : String) : List String :=
  if isAbsolute path then [] else files.working

def enter (files : FileTree) (place : List String) (name : String) :
    Except FileError (List String) :=
  match files.node? place with
  | none => .error .missing
  | some (.file ..) => .error .notDirectory
  | some (.directory _) =>
    if name = "" || name = "." then .ok place
    else if name = ".." then .ok place.dropLast
    else if maxNameLength < name.utf8ByteSize then .error .nameTooLong
    else match files.node? (place ++ [name]) with
      | none => .error .missing
      | some _ => .ok (place ++ [name])

def walk (files : FileTree) (place : List String) : List String → Except FileError (List String)
  | [] => .ok place
  | name :: rest => (files.enter place name).bind fun next => files.walk next rest

def find (files : FileTree) (path : String) : Except FileError FileNode :=
  if path.toList.contains '\x00' then .error .nulInPath
  else if maxPathLength < path.utf8ByteSize then .error .nameTooLong
  else if path = "" then .error .missing
  else (files.walk (files.origin path) (namesOf path)).bind fun place =>
    match files.node? place with
    | none => .error .missing
    | some node => .ok node

def read (files : FileTree) (path : String) : Except FileError Bytes :=
  (files.find path).bind FileNode.content

def modified? (files : FileTree) (path : String) : Option Timestamp :=
  (files.find path).toOption.map FileNode.modified

def isFile (files : FileTree) (path : String) : Bool :=
  match files.find path with
  | .ok node => !node.isDirectory
  | .error _ => false

/-- A reference seen from a base directory: an absolute reference stands for itself. -/
def join (base reference : String) : String :=
  if isAbsolute reference || base = "" then reference
  else if base.toList.getLast? = some '/' then base ++ reference
  else base ++ "/" ++ reference

end FileTree

end CertFailover
