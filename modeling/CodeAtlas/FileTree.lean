import CodeAtlas.Table
import CodeAtlas.Text.Fields
import CodeAtlas.Text.Hex

/-!
# File trees

The files and directories that names reach from a directory, the start of the tree. A name is
followed part by part. Every part but the last has to lead to a directory, an empty part or a dot
stays where it is, and two dots go back. A name that begins with a slash is followed from the root.
The root, the start and the directories above the start are always there, and nothing else is known
of what lies outside the start. A name has at most 4095 bytes, none of them zero, and a part of it
at most 255.
-/

namespace CodeAtlas

/-- A directory, or a file with its content. -/
inductive FileNode (α : Type)
  /-- A directory. -/
  | directory
  /-- A file. -/
  | file (content : α)
  deriving DecidableEq, Repr

/-- Why nothing can be done with a name. -/
inductive FileFault
  /-- Nothing is there. -/
  | notFound
  /-- Something is there already. -/
  | alreadyThere
  /-- A file stands where a directory has to be. -/
  | notADirectory
  /-- A directory stands where a file has to be. -/
  | isADirectory
  /-- The name or a part of it has too many bytes. -/
  | nameTooLong
  /-- The name has a byte that is zero. -/
  | zeroByte
  deriving DecidableEq, Repr

/-- The wording of a fault. -/
def FileFault.message : FileFault → String
  | .notFound => "No such file or directory (os error 2)"
  | .alreadyThere => "File exists (os error 17)"
  | .notADirectory => "Not a directory (os error 20)"
  | .isADirectory => "Is a directory (os error 21)"
  | .nameTooLong => "File name too long (os error 36)"
  | .zeroByte => "file name contained an unexpected NUL byte"

/-- The parts of the shortest name of a file or directory. Two dots in front stand for a step above
the start, and an empty part in front stands for the root. -/
abbrev Place := List (List Char)

/-- The files and directories by their places. -/
structure FileTree (α : Type) where
  /-- All of them but those that are always there. -/
  nodes : Table Place (FileNode α)

/-! ## Names -/

namespace Place

/-- The part of a name that goes back. -/
def dots : List Char := ['.', '.']

/-- The root. -/
def root : Place := [[]]

/-- Whether a place is a directory that is always there: the root, the start or one above it. -/
def isGiven (place : Place) : Bool :=
  place = root || place.all fun part => part = dots

/-- The directory in which a directory is. The root is in itself. -/
def back (place : Place) : Place :=
  if place = root then root
  else if place.isGiven then place ++ [dots]
  else place.dropLast

/-- Whether a place is known to be below the start. -/
def isInside : Place → Bool
  | [] => false
  | first :: _ => first ≠ [] ∧ first ≠ dots

/-- The name of a place. -/
def name (place : Place) : String :=
  String.ofList (Text.joined '/' place)

/-- Going back from what stands in a directory below the start leads to the directory. -/
theorem back_append {place : Place} {part : List Char} (h : (place ++ [part]).isGiven = false) :
    (place ++ [part]).back = place := by
  have apart : place ++ [part] ≠ root := fun same => by simp [isGiven, same] at h
  rw [back, if_neg apart, h]
  simp

end Place

/-- The most bytes that a name may have. -/
def maxNameSize : Nat := 4095

/-- The most bytes that a part of a name may have. -/
def maxPartSize : Nat := 255

/-- The parts between the slashes of a name. -/
def nameParts (name : List Char) : Except FileFault (List (List Char)) :=
  if name.contains '\x00' then .error .zeroByte
  else if name = [] then .error .notFound
  else if maxNameSize < (Text.utf8 name).length then .error .nameTooLong
  else .ok (Text.fields '/' name)

/-- The parts of a name in front of the slashes at its end. -/
def withoutSlashes (parts : List (List Char)) : List (List Char) :=
  (parts.reverse.dropWhile (· = [])).reverse

/-- The parts of a name that lead somewhere, and the empty one in front of a leading slash. -/
def leadingParts (parts : List (List Char)) : List (List Char) :=
  let leading := parts.filter fun part => part ≠ [] ∧ part ≠ ['.']
  if parts.head? = some [] then [] :: leading else leading

/-! ## Following names -/

namespace FileTree

variable {α : Type}

/-- A tree that has nothing but what is always there. -/
def empty : FileTree α :=
  ⟨.empty⟩

/-- What is at a place. -/
def node? (tree : FileTree α) (place : Place) : Option (FileNode α) :=
  if place.isGiven then some .directory else tree.nodes.get? place

/-- The tree with something at a place. -/
def put (tree : FileTree α) (place : Place) (node : FileNode α) : FileTree α :=
  ⟨tree.nodes.insert place node⟩

/-- Putting something at a place changes what is there and nowhere else. -/
theorem node?_put (tree : FileTree α) {place : Place} (other : Place) (node : FileNode α)
    (h : place.isGiven = false) :
    (tree.put place node).node? other = if other = place then some node else tree.node? other := by
  simp only [node?, put, Table.get?_insert]
  by_cases same : other = place
  · simp [same, h]
  · simp [same]

/-- Refuses a place where there is no directory. -/
def requireDirectory (tree : FileTree α) (place : Place) : Except FileFault Unit :=
  match tree.node? place with
  | some .directory => .ok ()
  | some (.file _) => .error .notADirectory
  | none => .error .notFound

/-- The place that a part of a name leads to from a directory. -/
def enter (tree : FileTree α) (place : Place) (part : List Char) : Except FileFault Place := do
  tree.requireDirectory place
  if part = [] ∨ part = ['.'] then return place
  else if part = Place.dots then return place.back
  else if (Text.utf8 part).length ≤ maxPartSize then return place ++ [part]
  else throw .nameTooLong

/-- The place that the parts of a name lead to, where there may be nothing yet. -/
def follow (tree : FileTree α) (parts : List (List Char)) : Except FileFault Place :=
  parts.foldlM tree.enter (if parts.head? = some [] then Place.root else [])

/-- What a name stands for. -/
def find? (tree : FileTree α) (name : String) : Option (FileNode α) :=
  match nameParts name.toList >>= tree.follow with
  | .ok place => tree.node? place
  | .error _ => none

/-- Whether the parts of a name lead to a directory. -/
def leadsToDirectory (tree : FileTree α) (parts : List (List Char)) : Bool :=
  match tree.follow parts >>= tree.requireDirectory with
  | .ok () => true
  | .error _ => false

/-! ## Files -/

/-- The place that a name leads to, where there is a file or nothing yet. -/
def filePlace (tree : FileTree α) (name : String) : Except FileFault Place := do
  let place ← tree.follow (← nameParts name.toList)
  match tree.node? place with
  | some .directory => throw .isADirectory
  | _ => return place

/-- The tree with a file of the given name and content. -/
def write (tree : FileTree α) (name : String) (content : α) : Except FileFault (FileTree α) := do
  let place ← tree.filePlace name
  return tree.put place (.file content)

/-- The place of the file of the given name, and the tree in which it is there. A new file has the
given content. -/
def openFile (tree : FileTree α) (name : String) (content : α) :
    Except FileFault (Place × FileTree α) := do
  let place ← tree.filePlace name
  match tree.node? place with
  | some _ => return (place, tree)
  | none => return (place, tree.put place (.file content))

/-- The tree with a changed content of the file at a place. -/
def changeFile (tree : FileTree α) (place : Place) (change : α → α) : FileTree α :=
  match tree.node? place with
  | some (.file content) => tree.put place (.file (change content))
  | _ => tree

/-- The files below the start, with their names. -/
def files (tree : FileTree α) : List (String × α) :=
  tree.nodes.pairs.filterMap fun (place, node) =>
    match node with
    | .file content => if place.isInside then some (place.name, content) else none
    | .directory => none

/-! ## Directories -/

/-- The tree with a new directory. Slashes at the end of its name do not count. -/
def makeDirectory (tree : FileTree α) (parts : List (List Char)) :
    Except FileFault (FileTree α) := do
  let place ← tree.follow (withoutSlashes parts)
  match tree.node? place with
  | some _ => throw .alreadyThere
  | none => return tree.put place .directory

/-- The tree with a directory that is new or there already, or why there can be none. -/
def ensureDirectory (tree : FileTree α) (parts : List (List Char)) :
    FileTree α × Option FileFault :=
  match tree.makeDirectory parts with
  | .ok tree => (tree, none)
  | .error fault => (tree, if tree.leadsToDirectory parts then none else some fault)

/-- The tree with a directory and, where they are missing, the directories on the way to it, of
which the parts are given from the last one back. What was made stays when the rest fails. -/
def makeWay (tree : FileTree α) (parts : List (List Char)) :
    List (List Char) → FileTree α × Option FileFault
  | [] => tree.ensureDirectory parts
  | last :: before =>
    match tree.makeDirectory parts with
    | .error .notFound =>
      match tree.makeWay (last :: before).reverse before with
      | (tree, none) => tree.ensureDirectory parts
      | failed => failed
    | _ => tree.ensureDirectory parts

/-- The tree with the directories on the way to a file. -/
def makeParents (tree : FileTree α) (name : String) : FileTree α × Option FileFault :=
  match nameParts name.toList with
  | .ok parts =>
    let way := (leadingParts parts).dropLast
    tree.makeWay way way.dropLast.reverse
  | .error fault => (tree, some fault)

/-- The tree with a directory and the missing directories on the way to it. -/
def makeDirectories (tree : FileTree α) (name : String) : FileTree α × Option FileFault :=
  match nameParts name.toList with
  | .ok parts => tree.makeWay parts (leadingParts parts).dropLast.reverse
  | .error fault => (tree, some fault)

end FileTree

end CodeAtlas
