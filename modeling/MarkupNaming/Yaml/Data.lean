import MarkupNaming.Value
import MarkupNaming.Yaml.Scalar.Written

/-!
# Data

Values that can be written as YAML: texts, integers, truth values, lists and records. Collections
are written in block style. The items of a list in a record stand below its key, behind dashes
that are not indented; an empty collection stands in brackets.
-/
namespace MarkupNaming.Yaml
open Text

/-- A value that can be written. -/
inductive Data
  | text (t : Text)
  | int (n : Int)
  | bool (b : Bool)
  | list (items : List Data)
  | record (fields : List (Text × Data))

namespace Data

mutual

/-- The value that data denote. -/
def toValue : Data → Value
  | text t => .text t
  | int n => .int n
  | bool b => .bool b
  | list items => .list (toValues items)
  | record fields => .map (toEntries fields)

/-- The values of a list. -/
def toValues : List Data → List Value
  | [] => []
  | d :: rest => d.toValue :: toValues rest

/-- The fields of a record as entries of a mapping. -/
def toEntries : List (Text × Data) → List (Value × Value)
  | [] => []
  | (key, d) :: rest => (.text key, d.toValue) :: toEntries rest

end

/-- Spaces in front of a line. -/
def spaces (indent : Nat) : Text := List.replicate indent (Code.char ' ')

mutual

/-- Data behind a key. A collection stands on the lines below, items at the indentation of the
key and fields two columns further in. -/
def writeBehindKey (indent column : Nat) : Data → Text
  | text t => .char ' ' :: writtenText (indent + 2) (column + 1) t ++ [Code.char '\n']
  | int n => .char ' ' :: ofInt n ++ [Code.char '\n']
  | bool b => (if b then " true\n" else " false\n" : String)
  | list [] => " []\n"
  | list items => .char '\n' :: writeItems indent (spaces indent) items
  | record [] => " \x7b\x7d\n"
  | record fields => .char '\n' :: writeFields (indent + 2) (spaces (indent + 2)) fields

/-- Data behind a dash, from the column `indent` on. A collection starts on the same line. -/
def writeBehindDash (indent : Nat) : Data → Text
  | text t => writtenText indent indent t ++ [Code.char '\n']
  | int n => ofInt n ++ [Code.char '\n']
  | bool b => (if b then "true\n" else "false\n" : String)
  | list [] => "[]\n"
  | list items => writeItems indent [] items
  | record [] => "\x7b\x7d\n"
  | record fields => writeFields indent [] fields

/-- Items behind dashes at a column. `lead` stands in front of the first one. -/
def writeItems (indent : Nat) (lead : Text) : List Data → Text
  | [] => []
  | d :: rest =>
    lead ++ .char '-' :: .char ' ' :: writeBehindDash (indent + 2) d ++
      writeItems indent (spaces indent) rest

/-- Fields at a column. `lead` stands in front of the first one. -/
def writeFields (indent : Nat) (lead : Text) : List (Text × Data) → Text
  | [] => []
  | (key, d) :: rest =>
    lead ++ writtenText indent indent key ++ .char ':' ::
      writeBehindKey indent (indent + (writtenText indent indent key).length + 1) d ++
        writeFields indent (spaces indent) rest

end

/-- A record as the text of a document. -/
def document : List (Text × Data) → Text
  | [] => "\x7b\x7d\n"
  | fields => writeFields 0 [] fields

end Data
end MarkupNaming.Yaml
