import MarkupNaming.Calendar
import MarkupNaming.Decimal
import MarkupNaming.Text.Quoted

/-!
# Values

The values that a settings file or an event can hold, before anything is known about their
meaning. Numbers and truth values that count the same are equal as keys of a mapping.
-/
namespace MarkupNaming
open Text

/-- A value of any kind. -/
inductive Value
  | null
  | bool (b : Bool)
  | int (n : Int)
  | real (x : Float)
  | text (t : Text)
  | bytes (content : List UInt8)
  | date (d : Date)
  | moment (m : Moment)
  | list (items : List Value)
  /-- A collection that is neither a list nor a mapping, of the kind named. -/
  | other (kind : Text) (items : List Value)
  | map (entries : List (Value × Value))
deriving Inhabited

namespace Value

/-- The name of a value's kind in messages. -/
def kind : Value → Text
  | null => "NoneType"
  | bool _ => "bool"
  | int _ => "int"
  | real _ => "float"
  | text _ => "str"
  | bytes _ => "bytes"
  | date _ => "date"
  | moment _ => "datetime"
  | list _ => "list"
  | other kind _ => kind
  | map _ => "dict"

/-- The number that a number or truth value counts as, if it is whole. -/
def whole? : Value → Option Int
  | bool b => some (if b then 1 else 0)
  | int n => some n
  | real x => (Binary.ofFloat? x).bind Binary.whole?
  | _ => none

/-- Whether two values are the same key. Lists and mappings are no keys. What is no number counts
as the same key wherever it stands. -/
def sameKey : Value → Value → Bool
  | null, null => true
  | text a, text b => a == b
  | bytes a, bytes b => a == b
  | date a, date b => a == b
  | moment a, moment b => a.isSame b
  | a, b =>
    match a.whole?, b.whole? with
    | some m, some n => m == n
    | none, none =>
      match a, b with
      | real x, real y => x == y || (x.isNaN && y.isNaN)
      | _, _ => false
    | _, _ => false

/-- Entries with a value set under a key, in the place of the key if it is there. -/
def setEntry {α : Type} (entries : List (Value × α)) (key : Value) (value : α) : List (Value × α) :=
  if entries.any (·.1.sameKey key) then
    entries.map fun (k, v) => if k.sameKey key then (k, value) else (k, v)
  else entries ++ [(key, value)]

/-- Whether a value counts as present when a default stands by. -/
def isTruthy : Value → Bool
  | null => false
  | bool b => b
  | int n => n != 0
  | real x => x != 0
  | text t => !t.isEmpty
  | bytes b => !b.isEmpty
  | list items => !items.isEmpty
  | other _ items => !items.isEmpty
  | map entries => !entries.isEmpty
  | date _ => true
  | moment _ => true

mutual

/-- A value as a literal. -/
def literal : Value → Text
  | null => "None"
  | bool true => "True"
  | bool false => "False"
  | int n => ofInt n
  | real x => ofFloat x
  | text t => quoted t
  | bytes b => quotedBytes b
  | date d => d.text
  | moment m => m.text
  | list items => .char '[' :: literals items ++ [Code.char ']']
  | other _ items => .char '(' :: literals items ++ [Code.char ')']
  | map entries => .char '\x7b' :: literalEntries entries ++ [Code.char '\x7d']

/-- Literals with commas between them. -/
def literals : List Value → Text
  | [] => []
  | [v] => v.literal
  | v :: rest => v.literal ++ ", " ++ literals rest

/-- Keys and values as literals, with commas between the entries. -/
def literalEntries : List (Value × Value) → Text
  | [] => []
  | [(k, v)] => k.literal ++ ": " ++ v.literal
  | (k, v) :: rest => k.literal ++ ": " ++ v.literal ++ ", " ++ literalEntries rest

end

/-- A value in a message: a text as it is, any other value as a literal. -/
def display : Value → Text
  | text t => t
  | v => v.literal

end Value
end MarkupNaming
