import MarkupNaming.Digest.Md5
import MarkupNaming.Markup.Ancestry
import MarkupNaming.Naming.Abbreviation
import MarkupNaming.Naming.Context
import MarkupNaming.Settings.Release

/-!
# Segments

The parts of which class names are made. Each depends on the place of the element, on the
settings and, for releases, on the day. A segment without input is empty. A hash is taken of bytes,
so there is none of a text that has no bytes.
-/
namespace MarkupNaming.Naming
open Text

/-- The kinds of segments, in the order in which they are listed. -/
inductive Segment
  | label
  | pathHash
  | reversedFileName
  | domHash
  | abbreviatedDom
  | abbreviatedPath
  | releaseName
deriving DecidableEq, Repr

namespace Segment

/-- All kinds of segments. -/
def all : List Segment :=
  [label, pathHash, reversedFileName, domHash, abbreviatedDom, abbreviatedPath, releaseName]

theorem mem_all (s : Segment) : s ∈ all := by cases s <;> decide

/-- The identifier of a segment in rules. -/
def id : Segment → Text
  | label => "projectPrefix"
  | pathHash => "pathHash"
  | reversedFileName => "reversedFileName"
  | domHash => "domHash"
  | abbreviatedDom => "abbreviatedDomPosition"
  | abbreviatedPath => "abbreviatedFilePath"
  | releaseName => "releaseName"

/-- The name of a segment in lists. -/
def title : Segment → Text
  | label => "Project Prefix"
  | pathHash => "Path Hash"
  | reversedFileName => "Reversed File Name"
  | domHash => "DOM Hash"
  | abbreviatedDom => "Abbreviated DOM Position"
  | abbreviatedPath => "Abbreviated File Path"
  | releaseName => "Release Name"

/-- What a segment is made of. -/
def description : Segment → Text
  | label => "Custom text prefix for the entire project (max 50 chars)"
  | pathHash => "Hash of the relative file path"
  | reversedFileName => "File name reversed (without extension)"
  | domHash => "Hash of the DOM ancestor chain"
  | abbreviatedDom => "Abbreviated ancestor tag names (e.g., div-sec-hea-spa)"
  | abbreviatedPath => "Abbreviated folder/file names (e.g., int-tem-cli-uti)"
  | releaseName => "Current active release name based on expiry dates"

/-- A sample of the segment. -/
def sample : Segment → Text
  | label => "my-project"
  | pathHash => "a3f2b9c1"
  | reversedFileName => "llib_ytilitu"
  | domHash => "e7c3a1b9"
  | abbreviatedDom => "div-sec-hea-spa"
  | abbreviatedPath => "tem-adm-use"
  | releaseName => "release-1"

/-- The segment that an identifier names. -/
def ofId? (t : Text) : Option Segment := all.find? (·.id == t)

@[simp] theorem ofId?_id (s : Segment) : ofId? s.id = some s := by cases s <;> decide

end Segment

/-- An identifier that names no segment. -/
structure UnknownSegment where
  id : Text
deriving DecidableEq, Repr

def UnknownSegment.message (u : UnknownSegment) : Text :=
  "Unknown option '" ++ u.id ++ "'. Available: " ++ join ", " (Segment.all.map (·.id))

/-- The segment that an identifier names, or the fault that there is none. -/
def Segment.find (id : Text) : Except UnknownSegment Segment :=
  match Segment.ofId? id with
  | some s => .ok s
  | none => .error ⟨id⟩

/-- The segments that identifiers name, in order; the first unknown one is the fault. -/
def Segment.findAll (ids : List Text) : Except UnknownSegment (List Segment) :=
  ids.mapM Segment.find

/-- An identifier that is taken. -/
structure TakenId where
  id : Text
deriving DecidableEq, Repr

def TakenId.message (t : TakenId) : Text := "Option '" ++ t.id ++ "' is already registered"

/-- Identifiers with a new one at the end. -/
def register (ids : List Text) (id : Text) : Except TakenId (List Text) :=
  if ids.contains id then .error ⟨id⟩ else .ok (ids ++ [id])

/-- How many characters of the label are used. -/
def labelLimit : Nat := 50

/-- Tags that say nothing about the place of an element. -/
def unspecificTags : List Text := ["html", "head", "body", "script", "style"]

/-- The first digits of the MD5 digest of the bytes of a text. -/
def shortHash (t : Text) (length : Int) : Except Utf8.Unencodable Text :=
  (Utf8.encode .strict t).map fun bytes => (Md5.hex bytes).take length.toNat

/-- A reversed file name in the configured case. -/
def reversedName (nameCase : NameCase) (fileName : Text) : Text :=
  match nameCase with
  | .uppercase => upper fileName.reverse
  | .lowercase => lower fileName.reverse
  | .preserve => fileName.reverse

/-- The release that names are labelled with on a day. -/
def releaseLabel (settings : Settings) (today : Date) : Text :=
  match Release.active? settings.releases today with
  | some r => sanitize r.name
  | none => sanitize settings.defaultRelease

/-- The tags around a place, up to its own. -/
def Context.chain (context : Context) : List Text :=
  Markup.ancestors context.document context.offset

/-- The segment for a place. -/
def Segment.generate (context : Context) (settings : Settings) (today : Date) :
    Segment → Except Utf8.Unencodable Text
  | label => .ok (sanitize (settings.label.take labelLimit))
  | pathHash =>
    if context.relativePath.isEmpty then .ok []
    else shortHash context.relativePath settings.pathHashLength.val
  | reversedFileName => .ok (reversedName settings.reversedNameCase context.fileName)
  | domHash =>
    let chain := Markup.chainText context.chain
    if chain.isEmpty then .ok [] else shortHash chain settings.domHashLength.val
  | abbreviatedDom =>
    .ok (abbreviate (context.chain.filter fun tag => lower tag ∉ unspecificTags)
      settings.abbreviationLength.val)
  | abbreviatedPath => .ok (abbreviatePath context.relativePath settings.abbreviationLength.val)
  | releaseName => .ok (releaseLabel settings today)

/-- The path of a document as it is recorded in a path marker. -/
def markerValue (context : Context) (settings : Settings) : Text :=
  let condensed := abbreviatePath context.relativePath settings.abbreviationLength.val
  if condensed.isEmpty then context.relativePath else condensed

end MarkupNaming.Naming
