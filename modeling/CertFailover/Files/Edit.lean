import CertFailover.Files.Basic

/-!
Edits of a file tree. Writing makes the directories on the way; removing and renaming take along
all that lies below.
-/

namespace CertFailover.FileTree

def placeOf (files : FileTree) (path : String) : List String :=
  (namesOf path).foldl
    (fun place name =>
      if name = "" || name = "." then place
      else if name = ".." then place.dropLast
      else place ++ [name])
    (files.origin path)

def put (files : FileTree) (place : List String) (node : FileNode) : FileTree :=
  { files with nodes := (place, node) :: files.nodes.filter (·.1 != place) }

def makeParents (files : FileTree) (place : List String) : FileTree :=
  ((List.range place.length).map place.take).foldl
    (fun tree above =>
      if (tree.node? above).isSome then tree else tree.put above (.directory .epoch))
    files

def write (files : FileTree) (path : String) (content : Bytes) (time : Timestamp) : FileTree :=
  (files.makeParents (files.placeOf path)).put (files.placeOf path) (.file content time)

def makeDirectory (files : FileTree) (path : String) (time : Timestamp) : FileTree :=
  (files.makeParents (files.placeOf path)).put (files.placeOf path) (.directory time)

def touch (files : FileTree) (path : String) (time : Timestamp) : FileTree :=
  match files.node? (files.placeOf path) with
  | none => files
  | some (.file content _) => files.put (files.placeOf path) (.file content time)
  | some (.directory _) => files.put (files.placeOf path) (.directory time)

def remove (files : FileTree) (path : String) : FileTree :=
  { files with
    nodes := files.nodes.filter fun (place, _) => !(files.placeOf path).isPrefixOf place }

/-- A working directory that lies below the source goes along with it. -/
def rename (files : FileTree) (source target : String) : FileTree :=
  let carry (place : List String) : Option (List String) :=
    ((files.placeOf source).isPrefixOf? place).map (files.placeOf target ++ ·)
  let moved := files.nodes.filterMap fun (place, node) => (carry place).map (·, node)
  if moved.isEmpty then files
  else
    { working := (carry files.working).getD files.working
      nodes := moved ++ ((files.remove source).remove target).nodes }

end CertFailover.FileTree
