import CertFailover.Proofs.Likeness

/-!
File trees that differ in contents only. Contents have no part in where a path leads, nor in
anything about what is found there but what is read from it.
-/

namespace CertFailover

def FileNode.bare : FileNode → FileNode
  | file _ modified => file [] modified
  | directory modified => directory modified

inductive FileNode.Alike : FileNode → FileNode → Prop
  | file (content other : Bytes) (modified : Timestamp) :
      Alike (.file content modified) (.file other modified)
  | directory (modified : Timestamp) : Alike (.directory modified) (.directory modified)

theorem FileNode.alike_of_bare {node twin : FileNode} (same : node.bare = twin.bare) :
    node.Alike twin := by
  cases node with
  | file content modified =>
      cases twin with
      | file other time =>
          cases same
          exact .file content other modified
      | directory time => cases same
  | directory modified =>
      cases twin with
      | file other time => cases same
      | directory time =>
          cases same
          exact .directory modified

namespace FileTree

def bare (files : FileTree) : FileTree :=
  { files with nodes := files.nodes.map (Prod.map id FileNode.bare) }

theorem lookup_map_bare (nodes : List (List String × FileNode)) (names : List String) :
    (nodes.map (Prod.map id FileNode.bare)).lookup names =
      (nodes.lookup names).map FileNode.bare := by
  induction nodes with
  | nil => rfl
  | cons first rest ih =>
      obtain ⟨key, node⟩ := first
      rw [List.map_cons, List.lookup_cons, Prod.map, List.lookup_cons, ih, id]
      cases names == key <;> rfl

theorem node?_bare (files : FileTree) (place : List String) :
    files.bare.node? place = (files.node? place).map FileNode.bare :=
  lookup_map_bare files.nodes place

theorem enter_bare (files : FileTree) (place : List String) (name : String) :
    files.bare.enter place name = files.enter place name := by
  rw [enter, enter, node?_bare, node?_bare]
  cases files.node? place with
  | none => rfl
  | some node =>
      cases node with
      | file => rfl
      | directory modified => cases files.node? (place ++ [name]) <;> rfl

theorem walk_bare (files : FileTree) (place names : List String) :
    files.bare.walk place names = files.walk place names := by
  induction names generalizing place with
  | nil => rfl
  | cons name rest ih =>
      rw [walk, walk, enter_bare]
      exact congrArg _ (funext ih)

theorem find_bare (files : FileTree) (path : String) :
    files.bare.find path = (files.find path).map FileNode.bare := by
  rw [find, find, walk_bare]
  split
  · rfl
  · split
    · rfl
    · split
      · rfl
      · have origin : files.bare.origin path = files.origin path := rfl
        rw [origin]
        cases files.walk (files.origin path) (namesOf path) with
        | error cause => rfl
        | ok place =>
            simp only [Except.bind, node?_bare]
            cases files.node? place <;> rfl

/-- File trees with the same at each path but for contents, which are related at one path. -/
structure AlikeAt (contents : Bytes → Bytes → Prop) (path : String) (files twin : FileTree) :
    Prop where
  found : ∀ path, Matching Eq FileNode.Alike (files.find path) (twin.find path)
  content : ∀ {content other}, files.read path = .ok content → twin.read path = .ok other →
    contents content other

theorem found_of_bare {files twin : FileTree} (same : files.bare = twin.bare) (path : String) :
    Matching Eq FileNode.Alike (files.find path) (twin.find path) := by
  have found := files.find_bare path
  rw [same, find_bare] at found
  cases first : files.find path with
  | error cause =>
      cases second : twin.find path with
      | error other =>
          rw [first, second] at found
          cases found
          exact .failed rfl
      | ok node =>
          rw [first, second] at found
          cases found
  | ok node =>
      cases second : twin.find path with
      | error other =>
          rw [first, second] at found
          cases found
      | ok other =>
          rw [first, second] at found
          simp only [Except.map, Except.ok.injEq] at found
          exact .given (FileNode.alike_of_bare found.symm)

theorem alikeAt_of_bare {contents : Bytes → Bytes → Prop} {path : String} {files twin : FileTree}
    (same : files.bare = twin.bare) {content other : Bytes} (reads : files.read path = .ok content)
    (twinReads : twin.read path = .ok other) (related : contents content other) :
    files.AlikeAt contents path twin := by
  refine ⟨found_of_bare same, ?_⟩
  intro held held' first second
  cases reads.symm.trans first
  cases twinReads.symm.trans second
  exact related

namespace AlikeAt

variable {contents : Bytes → Bytes → Prop} {path : String} {files twin : FileTree}

theorem modified? (alike : files.AlikeAt contents path twin) (other : String) :
    files.modified? other = twin.modified? other := by
  have found := alike.found other
  rw [FileTree.modified?, FileTree.modified?]
  generalize files.find other = first at found
  generalize twin.find other = second at found
  cases found with
  | failed => rfl
  | given nodes => cases nodes <;> rfl

theorem isFile (alike : files.AlikeAt contents path twin) (other : String) :
    files.isFile other = twin.isFile other := by
  have found := alike.found other
  rw [FileTree.isFile, FileTree.isFile]
  generalize files.find other = first at found
  generalize twin.find other = second at found
  cases found with
  | failed => rfl
  | given nodes => cases nodes <;> rfl

theorem engine (alike : files.AlikeAt contents path twin) {properties : String}
    (same : files.read properties = twin.read properties) :
    Engine.read files properties = Engine.read twin properties := by
  have found := alike.found properties
  rw [FileTree.read, FileTree.read] at same
  rw [Engine.read, Engine.read]
  generalize files.find properties = first at found same
  generalize twin.find properties = second at found same
  cases found with
  | failed related => rw [related]
  | given nodes =>
      cases nodes with
      | directory => rfl
      | file content other modified =>
          cases same
          rfl

theorem lines (alike : files.AlikeAt contents path twin) (related : List Line → List Line → Prop)
    (ofContents : ∀ {content other}, contents content other →
      related (Line.ofContent content) (Line.ofContent other)) :
    Matching Eq related (Lookup.lines files path) (Lookup.lines twin path) := by
  have found := alike.found path
  have content := @alike.content
  rw [FileTree.read, FileTree.read] at content
  rw [Lookup.lines, Lookup.lines]
  generalize files.find path = first at found content
  generalize twin.find path = second at found content
  cases found with
  | failed => exact .failed rfl
  | given nodes =>
      cases nodes with
      | directory => exact .failed rfl
      | file => exact .given (ofContents (content rfl rfl))

end AlikeAt

end FileTree

end CertFailover
