import MarkupNaming.Files.Tree
import MarkupNaming.Text.Utf8

/-!
# Documents

Documents as files. A document is read as UTF-8 and keeps its line breaks, so that writing it
back restores every byte.
-/
namespace MarkupNaming.Generation
open Text

/-- Why a document cannot be read. -/
inductive DocumentFault
  | unreadable (fault : FileFault)
  /-- A path that can name no file. -/
  | path (fault : FileFault)
  | undecodable (content : List UInt8) (fault : Utf8.Fault)
deriving DecidableEq, Repr

namespace DocumentFault

def message : DocumentFault → Text
  | unreadable fault => "Unable to read '" ++ fault.path.text ++ "'."
  | path fault => fault.message
  | undecodable _ fault => fault.message

end DocumentFault

/-- The document in a file. -/
def readDocument (tree : FileTree) (directory path : Path) : Except DocumentFault Text :=
  match tree.read directory path with
  | .error fault => .error (if fault.isReported then .unreadable fault else .path fault)
  | .ok content => (Utf8.decode content).mapError (.undecodable content)

end MarkupNaming.Generation
