import MarkupNaming.Path
import MarkupNaming.Text.Quoted
import MarkupNaming.Text.Utf8

/-!
# File trees

Files and directories by the names that lead to them. A name is a sequence of bytes. The name `..`
leads back to the directory above, so a path is followed step by step and every step needs a
directory. Names and paths have a greatest length in bytes, and none of them has a NUL character.
A path with a surrogate that stands for no byte names nothing. Setting an entry changes that one and
no other (`entryAt?_set`). A change of several steps that ends in a fault leaves what it has made
before.
-/
namespace MarkupNaming
open Text

/-- A name of an entry. -/
abbrev FileName := List UInt8

/-- The names that lead from the root to an entry. -/
abbrev Place := List FileName

/-- What stands at a place. -/
inductive Entry
  | file (content : List UInt8)
  | directory
deriving DecidableEq, Repr

/-- Files and directories. The root is always a directory. -/
structure FileTree where
  entries : List (Place × Entry) := []
deriving DecidableEq, Repr

/-- Why a file or directory cannot be used. -/
inductive FileReason
  | missing
  | occupied
  | notDirectory
  | isDirectory
  | tooLong
  /-- The path of a file has a NUL character. -/
  | nulInFile
  /-- The path of a new directory has a NUL character. -/
  | nulInDirectory
  /-- A path that is looked up has a NUL character. -/
  | nulInLookup
  /-- The path has no bytes. -/
  | unencodable (fault : Utf8.Unencodable)
deriving DecidableEq, Repr

namespace FileReason

/-- The number under which systems report a reason, if they do. -/
def number? : FileReason → Option Nat
  | missing => some 2
  | occupied => some 17
  | notDirectory => some 20
  | isDirectory => some 21
  | tooLong => some 36
  | nulInFile | nulInDirectory | nulInLookup | unencodable _ => none

/-- The wording of a reason. -/
def wording : FileReason → Text
  | missing => "No such file or directory"
  | occupied => "File exists"
  | notDirectory => "Not a directory"
  | isDirectory => "Is a directory"
  | tooLong => "File name too long"
  | nulInFile => "embedded null byte"
  | nulInDirectory => "mkdir: embedded null character in path"
  | nulInLookup => "lstat: embedded null character in path"
  | unencodable fault => fault.message

end FileReason

/-- A path that cannot be used. -/
structure FileFault where
  reason : FileReason
  path : Path
deriving DecidableEq, Repr

namespace FileFault

/-- Whether the system reports the fault. -/
def isReported (f : FileFault) : Bool := f.reason.number?.isSome

def message (f : FileFault) : Text :=
  match f.reason.number? with
  | some number =>
    "[Errno " ++ ofNat number ++ "] " ++ f.reason.wording ++ ": " ++ quoted f.path.text
  | none => f.reason.wording

end FileFault

/-- Why a file cannot be written. -/
inductive WriteFault
  | path (fault : FileFault)
  /-- The text that is to be written has no bytes. -/
  | content (fault : Utf8.Unencodable)
deriving DecidableEq, Repr

namespace WriteFault

def message : WriteFault → Text
  | path fault => fault.message
  | content fault => fault.message

end WriteFault

/-- Why a change of several steps came to an end too early, and the tree that it leaves. -/
structure Unfinished where
  fault : WriteFault
  left : FileTree
deriving DecidableEq, Repr

namespace FileTree
variable (t : FileTree)

/-- What stands at a place, if anything does. -/
def entryAt? : Place → Option Entry
  | [] => some .directory
  | p => t.entries.lookup p

/-- The tree with an entry at a place. -/
def set (p : Place) (e : Entry) : FileTree := ⟨(p, e) :: t.entries.filter (·.1 != p)⟩

theorem lookup_filter_ne {p q : Place} (h : q ≠ p) (entries : List (Place × Entry)) :
    (entries.filter (·.1 != p)).lookup q = entries.lookup q := by
  induction entries with
  | nil => rfl
  | cons entry rest ih =>
    obtain ⟨r, e⟩ := entry
    by_cases hr : r = p
    · subst hr
      have : (q == r) = false := by simpa using h
      simp [List.lookup_cons, this, ih]
    · simp [List.lookup_cons, hr, ih]

theorem entryAt?_set {p : Place} (hp : p ≠ []) (e : Entry) (q : Place) :
    (t.set p e).entryAt? q = if q = p then some e else t.entryAt? q := by
  cases q with
  | nil => simp [entryAt?, Ne.symm hp]
  | cons c rest =>
    by_cases h : c :: rest = p
    · simp [entryAt?, set, h]
    · have hb : (c :: rest == p) = false := by simpa using h
      simp only [entryAt?, set, List.lookup_cons, hb, h, if_false]
      exact lookup_filter_ne h _

/-- The greatest length of a name in bytes. -/
def longestName : Nat := 255

/-- The greatest length of a path in bytes. -/
def longestPath : Nat := 4095

/-- The place that names lead to. Each step starts from a directory. -/
def walk : Place → List FileName → Except FileReason Place
  | place, [] => .ok place
  | place, name :: rest =>
    match t.entryAt? place with
    | none => .error .missing
    | some (.file _) => .error .notDirectory
    | some .directory =>
      if longestName < name.length then .error .tooLong
      else walk (if name = ".." then place.dropLast else place ++ [name]) rest

/-- The place that a path leads to from a directory. -/
def place (directory p : Path) : Except FileReason Place :=
  match Utf8.encode .escape p.text, (directory ++ p).names with
  | .error fault, _ | .ok _, .error fault => .error (.unencodable fault)
  | .ok written, .ok names =>
    if .char '\x00' ∈ p.text then .error .nulInFile
    else if longestPath < written.length then .error .tooLong
    else t.walk [] names

/-- What stands at the end of a path, if anything does. -/
def find? (directory p : Path) : Option Entry :=
  match t.place directory p with
  | .ok place => t.entryAt? place
  | .error _ => none

/-- Whether a path leads to a file. That cannot be told of one that is too long. -/
def isFile (directory p : Path) : Except FileFault Bool :=
  match t.place directory p with
  | .error .tooLong => .error ⟨.tooLong, p⟩
  | _ =>
    match t.find? directory p with
    | some (.file _) => .ok true
    | _ => .ok false

/-- The content of the file that a path leads to from a directory. -/
def read (directory p : Path) : Except FileFault (List UInt8) :=
  match t.place directory p with
  | .error reason => .error ⟨reason, p⟩
  | .ok place =>
    match t.entryAt? place with
    | some (.file content) => .ok content
    | some .directory => .error ⟨.isDirectory, p⟩
    | none => .error ⟨.missing, p⟩

/-- The place at which a path lets a file be written. -/
def writable (directory p : Path) : Except FileFault Place :=
  match t.place directory p with
  | .error reason => .error ⟨reason, p⟩
  | .ok place =>
    match t.entryAt? place with
    | some .directory => .error ⟨.isDirectory, p⟩
    | _ => .ok place

/-- The tree with a text in the file at the end of a path, in an existing directory. The file is
emptied, or made, before the text is encoded. -/
def write (directory p : Path) (content : Text) : Except Unfinished FileTree :=
  match t.writable directory p with
  | .error fault => .error ⟨.path fault, t⟩
  | .ok place =>
    let emptied := t.set place (.file [])
    match Utf8.encode .strict content with
    | .error fault => .error ⟨.content fault, emptied⟩
    | .ok bytes => .ok (emptied.set place (.file bytes))

/-- The tree with a directory at the end of a path, above which directories exist. -/
def makeDirectory (directory p : Path) : Except FileFault FileTree :=
  match t.place directory p with
  | .error .nulInFile => .error ⟨.nulInDirectory, p⟩
  | .error reason => .error ⟨reason, p⟩
  | .ok place =>
    match t.entryAt? place with
    | some .directory => .ok t
    | some (.file _) => .error ⟨.occupied, p⟩
    | none => .ok (t.set place .directory)

/-- The tree with a directory at the end of a path, given by its root and its components from
the last one back, and with all directories above it. Those are made first, and stay if the last
one cannot be made. -/
def makeDirectoriesBack (directory : Path) (root : Root) : List Text → Except Unfinished FileTree
  | [] => .ok t
  | c :: above =>
    let p : Path := ⟨root, (c :: above).reverse⟩
    match t.makeDirectory directory p with
    | .ok made => .ok made
    | .error ⟨.missing, _⟩ =>
      match makeDirectoriesBack directory root above with
      | .ok made => (made.makeDirectory directory p).mapError (⟨.path ·, made⟩)
      | .error unfinished => .error unfinished
    | .error fault => .error ⟨.path fault, t⟩

/-- The tree with a directory at the end of a path and all directories above it. -/
def makeDirectories (directory p : Path) : Except Unfinished FileTree :=
  t.makeDirectoriesBack directory p.root p.components.reverse

/-- The files with their places. -/
def files : List (Place × List UInt8) :=
  t.entries.filterMap fun
    | (p, .file content) => some (p, content)
    | _ => none

end FileTree
end MarkupNaming
