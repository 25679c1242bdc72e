import MarkupNaming.Path

/-!
# Contexts

The document and the place in it for which a name is generated, with the parts of its path.
-/
namespace MarkupNaming.Naming
open Text

/-- Why there is no context. -/
inductive ContextFault
  | outside (offset : Int) (length : Nat)
  | home (fault : Path.HomeFault)
deriving DecidableEq, Repr

namespace ContextFault

def message : ContextFault → Text
  | outside offset length =>
    "Element offset " ++ ofInt offset ++ " is outside the document (length " ++ ofNat length
      ++ ")."
  | home fault => fault.message

end ContextFault

/-- A place in a document. -/
structure Context where
  filePath : Text
  /-- The path from the workspace, or the whole path outside of it. -/
  relativePath : Text
  fileName : Text
  fileExtension : Text
  offset : Nat
  document : Text
  inDocument : offset ≤ document.length
deriving DecidableEq, Repr

/-- An absolute path as it is seen from a workspace. -/
def pathFrom (workspace : Option Path) (p : Path) : Text :=
  ((workspace.bind p.relativeTo?).getD p).text

/-- The absolute path of a workspace, if there is one. -/
def workspacePath (s : Path.Surroundings) (workspace : Option Text) :
    Except ContextFault (Option Path) :=
  (workspace.mapM (Path.absolute s)).mapError .home

/-- A path seen from a workspace, where both are made absolute first. -/
def relativePath (s : Path.Surroundings) (path : Text) (workspace : Option Text) :
    Except ContextFault Text := do
  let p ← (Path.absolute s path).mapError .home
  return pathFrom (← workspacePath s workspace) p

namespace Context

/-- The context with given path parts. -/
def make (filePath relativePath fileName fileExtension : Text) (offset : Int) (document : Text) :
    Except ContextFault Context :=
  if h : 0 ≤ offset ∧ offset ≤ document.length then
    .ok ⟨filePath, relativePath, fileName, fileExtension, offset.toNat, document, by omega⟩
  else .error (.outside offset document.length)

/-- The context of a file in a workspace. -/
def ofFile (s : Path.Surroundings) (path : Text) (document : Text) (offset : Int)
    (workspace : Option Text) : Except ContextFault Context := do
  let p ← (Path.absolute s path).mapError .home
  let root ← workspacePath s workspace
  make p.text (pathFrom root p) p.stem p.extension offset document

end Context
end MarkupNaming.Naming
