import PseudoLint.File.Path
import PseudoLint.Numeral
import PseudoLint.Text.Utf8

/-! # File trees

A file tree holds the files and directories below the working directory. A path is followed name
by name, and every name but the last has to lead to a directory. What lies outside the tree is a
directory whose entries are not known.
-/

namespace PseudoLint

inductive FileFault where
  | missing
  | notADirectory
  | isADirectory
  | nullCharacter
  | other (number : Nat) (description : Text)
deriving DecidableEq, Repr

namespace FileFault

/-- The number and description under which the system reports a fault. -/
def report? : FileFault → Option (Nat × Text)
  | .missing => some (2, "No such file or directory")
  | .notADirectory => some (20, "Not a directory")
  | .isADirectory => some (21, "Is a directory")
  | .other number description => some (number, description)
  | .nullCharacter => none

def message (path : Path) (fault : FileFault) : Text :=
  match fault.report? with
  | some (number, description) =>
    "[Errno " ++ Numeral.ofNat number ++ "] " ++ description ++ ": " ++ path.toText.quoted
  | none => "embedded null byte"

end FileFault

/-- A way to read files by their paths. -/
abbrev FileReader := Path → Except FileFault Bytes

inductive FileNode where
  | file (bytes : Bytes)
  | directory
deriving DecidableEq, Repr

/-- The nodes below the working directory, each with the names that lead to it. -/
abbrev FileTree := List (List Text × FileNode)

/-- Where a path has led: to a place in the tree, given by names with the last one first, or
outside it. -/
inductive Place where
  | inside (names : List Text)
  | outside
deriving DecidableEq, Repr

namespace FileTree

/-- All proper beginnings of a list, the empty one apart. -/
def parents (names : List Text) : List (List Text) :=
  (List.range names.length).filterMap fun count =>
    if count == 0 then none else some (names.take count)

/-- A tree with a node added, in place of one of the same path, together with the directories that
lead to it. -/
def add (tree : FileTree) (path : Path) (node : FileNode) : FileTree :=
  let others := tree.filter (·.1 != path.parts)
  let directories := (parents path.parts).filter fun names => (tree.lookup names).isNone
  others ++ directories.map (·, .directory) ++ [(path.parts, node)]

/-- What is found at a place. -/
def node? (tree : FileTree) : Place → Option FileNode
  | .outside => some .directory
  | .inside [] => some .directory
  | .inside names => tree.lookup names.reverse

/-- The place that a name leads to from a directory. -/
def enter (place : Place) (name : Text) : Place :=
  match place with
  | .outside => .outside
  | .inside names =>
    if name == ['.', '.'] then
      match names with
      | [] => .outside
      | _ :: above => .inside above
    else .inside (name :: names)

/-- Follows names from a place. -/
def follow (tree : FileTree) : (place : Place) → List Text → Except FileFault Place
  | place, [] => if (tree.node? place).isSome then .ok place else .error .missing
  | place, name :: rest =>
    match tree.node? place with
    | none => .error .missing
    | some (.file _) => .error .notADirectory
    | some .directory =>
      if place == .outside && name != ['.', '.'] then .error .missing
      else follow tree (enter place name) rest

def locate (tree : FileTree) (path : Path) : Except FileFault Place :=
  if path.parts.any (·.contains '\x00') then .error .nullCharacter
  else tree.follow (if path.root.isEmpty then .inside [] else .outside) path.parts

def read (tree : FileTree) : FileReader := fun path => do
  let place ← tree.locate path
  match tree.node? place with
  | some (.file bytes) => .ok bytes
  | some .directory => .error .isADirectory
  | none => .error .missing

/-- The files of a directory with their names, in the order of code points. A path that leads to
no directory has none. -/
def filesIn (tree : FileTree) (path : Path) : List (Text × Bytes) :=
  match tree.locate path with
  | .ok (.inside names) =>
    let found := tree.filterMap fun (key, node) =>
      match key.reverse, node with
      | name :: above, .file bytes => if above == names then some (name, bytes) else none
      | _, _ => none
    stableSort (fun left right => Text.ordered left.1 right.1) found
  | _ => []

end FileTree

end PseudoLint
