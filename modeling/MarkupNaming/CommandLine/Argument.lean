import MarkupNaming.Text.Basic

/-!
# Arguments

The arguments of a command line: options with their values, and words. An option with a long
name may carry its value behind an equals sign. Options of one letter may stand together behind
one dash, and the rest of such a group is the value of the first of them that takes one. Behind
two dashes everything is a word.
-/
namespace MarkupNaming.CommandLine
open Text

/-- The options of all commands. -/
inductive OptionName
  | help
  | version
  | verbose
  | debug
  | offset
  | line
  | column
  | rule
  | segment
  | separator
  | marker
  | noMarker
  | config
  | workspace
  | inPlace
  | output
  | id
deriving DecidableEq, Repr

namespace OptionName

/-- How an option is written. -/
def spellings : OptionName → List Text
  | help => ["--help"]
  | version => ["--version"]
  | verbose => ["--verbose", "-v"]
  | debug => ["--debug"]
  | offset => ["--offset", "-o"]
  | line => ["--line", "-l"]
  | column => ["--column", "-c"]
  | rule => ["--rule", "-r"]
  | segment => ["--option"]
  | separator => ["--separator"]
  | marker => ["--marker"]
  | noMarker => ["--no-marker"]
  | config => ["--config"]
  | workspace => ["--workspace", "-w"]
  | inPlace => ["--in-place", "-i"]
  | output => ["--output"]
  | id => ["--id"]

/-- Whether a value follows an option. -/
def takesValue : OptionName → Bool
  | help | version | verbose | debug | marker | noMarker | inPlace => false
  | _ => true

/-- The option among `allowed` that is written in a given way. -/
def find? (allowed : List OptionName) (t : Text) : Option OptionName :=
  allowed.find? fun name => name.spellings.contains t

end OptionName

/-- An option as it is given. -/
structure Given where
  name : OptionName
  value : Text := []
deriving DecidableEq, Repr

/-- The options in a group of letters. The flag tells whether the next argument is a value. -/
def readGroup (allowed : List OptionName) (next : Option Text) :
    Text → Option (List Given × Bool)
  | [] => some ([], false)
  | c :: rest =>
    match OptionName.find? allowed ['-', c] with
    | none => none
    | some name =>
      if name.takesValue then
        if rest.isEmpty then next.map fun value => ([⟨name, value⟩], true)
        else some ([⟨name, rest⟩], false)
      else (readGroup allowed next rest).map fun (others, used) => ({ name } :: others, used)

/-- The options in an argument. The flag tells whether the next argument is a value. -/
def readOption (allowed : List OptionName) (arg : Text) (next : Option Text) :
    Option (List Given × Bool) :=
  let spelled := arg.takeWhile (· != .char '=')
  let value := if .char '=' ∈ arg then some (arg.drop (spelled.length + 1)) else none
  if (['-', '-'] : Text).isPrefixOf arg then
    match OptionName.find? allowed spelled with
    | none => none
    | some name =>
      match name.takesValue, value with
      | true, some value => some ([⟨name, value⟩], false)
      | true, none => next.map fun value => ([⟨name, value⟩], true)
      | false, none => some ([{ name }], false)
      | false, some _ => none
  else readGroup allowed next (arg.drop 1)

/-- Whether an argument holds options. -/
def holdsOptions (arg : Text) : Bool := arg.head? == some (.char '-') && 1 < arg.length

/-- Arguments apart: options in order, and words. -/
structure Arguments where
  options : List Given := []
  words : List Text := []
deriving DecidableEq, Repr

namespace Arguments

/-- Arguments taken apart, none if an option is unknown or lacks its value. Options may follow
words only if `mixed`. -/
def read (allowed : List OptionName) (mixed : Bool) (args : List Text) : Option Arguments :=
  match args with
  | [] => some {}
  | arg :: rest =>
    if arg = [.char '-', .char '-'] then some { words := rest }
    else if holdsOptions arg then
      match readOption allowed arg rest.head? with
      | none => none
      | some (given, used) =>
        (read allowed mixed (if used then rest.drop 1 else rest)).map fun others =>
          { others with options := given ++ others.options }
    else if mixed then
      (read allowed mixed rest).map fun others => { others with words := arg :: others.words }
    else some { words := arg :: rest }
termination_by args.length
decreasing_by
  · split
    · rw [List.length_drop, List.length_cons]
      omega
    · exact Nat.lt_succ_self _
  · exact Nat.lt_succ_self _

variable (a : Arguments)

/-- The values of an option in order. -/
def values (name : OptionName) : List Text :=
  (a.options.filter (·.name == name)).map (·.value)

/-- The value of an option, which is the last one given. -/
def value? (name : OptionName) : Option Text := (a.values name).getLast?

/-- Whether an option is given. -/
def has (name : OptionName) : Bool := a.options.any (·.name == name)

end Arguments
end MarkupNaming.CommandLine
