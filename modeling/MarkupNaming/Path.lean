import MarkupNaming.Text.Utf8

/-!
# Paths

Slash-separated paths. Components `.` and empty components have no meaning and are dropped, `..`
is an ordinary component, and exactly two slashes at the start are a root of their own. A first
component `~` stands for a home directory.
-/
namespace MarkupNaming
open Text

/-- Where a path starts. -/
inductive Root
  | relative
  | single
  | double
deriving DecidableEq, Repr

namespace Root

/-- The slashes at the start of a path. -/
def text : Root → Text
  | relative => []
  | single => "/"
  | double => "//"

end Root

/-- A path as its root and its components. -/
structure Path where
  root : Root
  components : List Text
deriving DecidableEq, Repr

namespace Path

/-- The components written between slashes. -/
def componentsOf (t : Text) : List Text :=
  (splitAll (· == .char '/') t).filter fun c => c ≠ [] ∧ c ≠ [.char '.']

/-- The root of a written path. -/
def rootOf : Text → Root
  | '/' :: '/' :: '/' :: _ => .single
  | '/' :: '/' :: _ => .double
  | '/' :: _ => .single
  | _ => .relative

/-- The path that a text writes. -/
def ofText (t : Text) : Path := ⟨rootOf t, componentsOf t⟩

/-- A path as a text; `.` for the relative path without components. -/
def text (p : Path) : Text :=
  if p.root = .relative ∧ p.components = [] then "." else p.root.text ++ join "/" p.components

/-- Whether a path starts at a root. -/
def isAbsolute (p : Path) : Bool := p.root != .relative

/-- A path followed from a directory; an absolute path is followed from its own root. -/
def append (directory p : Path) : Path :=
  if p.isAbsolute then p else ⟨directory.root, directory.components ++ p.components⟩

instance : Append Path := ⟨append⟩

/-- The bytes of each component. -/
def names (p : Path) : Except Utf8.Unencodable (List (List UInt8)) :=
  p.components.mapM (Utf8.encode .escape)

/-- The path without its last component. -/
def parent (p : Path) : Path := ⟨p.root, p.components.dropLast⟩

/-- The last component, empty if there is none. -/
def name (p : Path) : Text := p.components.getLastD []

/-- A file name split at its last dot, unless that is its first or last character. -/
def splitName (name : Text) : Text × Text :=
  let afterDot := (name.reverse.takeWhile (· != .char '.')).reverse
  let stem := name.take (name.length - afterDot.length - 1)
  if .char '.' ∈ name ∧ stem ≠ [] ∧ afterDot ≠ [] then (stem, afterDot) else (name, [])

/-- The file name without its extension. -/
def stem (p : Path) : Text := (splitName p.name).1

/-- The extension of the file name, without its dot. -/
def extension (p : Path) : Text := (splitName p.name).2

/-- The path from a directory to `p`, if `p` lies under it. -/
def relativeTo? (p directory : Path) : Option Path :=
  if p.root = directory.root ∧ directory.components.isPrefixOf p.components then
    some ⟨.relative, p.components.drop directory.components.length⟩
  else none

/-- The directory from which relative paths are followed, and the home directories by the bytes
of their owners' names. The home directory of the user has no name there. -/
structure Surroundings where
  directory : Path := ⟨.single, []⟩
  homes : List (List UInt8 × Path) := []

/-- Why a home directory cannot be written out. -/
inductive HomeFault
  | unknown
  /-- The name of its owner has a NUL character. -/
  | nulInOwner
  /-- The name of its owner has no bytes. -/
  | unencodable (fault : Utf8.Unencodable)
deriving DecidableEq, Repr

def HomeFault.message : HomeFault → Text
  | unknown => "Could not determine home directory."
  | nulInOwner => "embedded null byte"
  | unencodable fault => fault.message

/-- A path with its home directory written out. -/
def expandHome (s : Surroundings) (p : Path) : Except HomeFault Path :=
  match p.root, p.components with
  | .relative, ('~' :: owner) :: rest =>
    match Utf8.encode .escape owner with
    | .error fault => .error (.unencodable fault)
    | .ok bytes =>
      if .char '\x00' ∈ owner then .error .nulInOwner
      else
        match s.homes.lookup bytes with
        | some home => .ok (home ++ ⟨.relative, rest⟩)
        | none => .error .unknown
  | _, _ => .ok p

/-- The absolute path that a text writes. -/
def absolute (s : Surroundings) (t : Text) : Except HomeFault Path :=
  (expandHome s (ofText t)).map (s.directory ++ ·)

/-- Components with each `..` taken back together with the component in front of it. The root is
its own parent. -/
def withoutParents (components : List Text) : List Text :=
  components.foldl
    (fun before (c : Text) => if c = [.char '.', .char '.'] then before.dropLast else before ++ [c])
    []

/-- The absolute path without `..` that a text writes, followed from a directory. -/
def resolve (directory : Path) (t : Text) : Path :=
  ⟨.single, withoutParents (directory ++ ofText t).components⟩

end Path
end MarkupNaming
