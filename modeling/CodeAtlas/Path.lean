import CodeAtlas.Text.Fields
import CodeAtlas.Text.Hex

/-!
# File paths

A path keeps the text it was given, but what it names is the list of its components. A leading
slash is the root component. Empty parts between slashes do not count, and neither does a dot that
is not the very first component. Paths are equal and ordered by their components: the root comes
before a leading dot, that before two dots, and those before names, which compare by their bytes in
UTF-8. A path comes before those that continue it.
-/

namespace CodeAtlas

open Text

/-- A component of a path. -/
inductive Component
  /-- The root of the file tree. -/
  | root
  /-- A leading dot. -/
  | here
  /-- Two dots. -/
  | parent
  /-- The name of a file or directory. -/
  | name (text : List Char)
  deriving DecidableEq, Repr

/-- A path as it is spelled. -/
structure Path where
  /-- The spelling. -/
  text : String
  deriving DecidableEq, Repr

/-- The component that a part between slashes stands for, if it counts. A dot counts when it is the
first part. -/
def Component.ofPart (isFirst : Bool) (part : List Char) : Option Component :=
  if part = [] then none
  else if part = ['.'] then if isFirst then some .here else none
  else if part = ['.', '.'] then some .parent
  else some (.name part)

/-- A list of numbers that stands where the component stands among components. -/
def Component.place : Component → List Nat
  | .root => [0]
  | .here => [1]
  | .parent => [2]
  | .name text => 3 :: (utf8 text).map (·.toNat)

namespace Path

/-- The components of a path. -/
def components (path : Path) : List Component :=
  match fields '/' path.text.toList with
  | [] => []
  | [] :: [] => []
  | [] :: others => .root :: others.filterMap (Component.ofPart false)
  | first :: others =>
    (Component.ofPart true first).toList ++ others.filterMap (Component.ofPart false)

/-- The place of a path among paths. -/
def place (path : Path) : List (List Nat) :=
  path.components.map Component.place

end Path

end CodeAtlas
