import MarkupNaming.Text.Blank
import MarkupNaming.Calendar
import MarkupNaming.Markup.Attribute

/-!
# Settings

What a project configures: a label for its names, the lengths of hashes and abbreviations, its
releases, its own rules, and the attribute that records paths. Lengths and the attribute name
carry the bounds that every settings value obeys.
-/
namespace MarkupNaming
open Text

/-- A number between two bounds. -/
structure Between (least greatest : Nat) where
  val : Nat
  least_le : least ≤ val
  le_greatest : val ≤ greatest
deriving DecidableEq, Repr

namespace Between
variable {least greatest : Nat}

/-- An integer as a number between the bounds. -/
def ofInt? (n : Int) : Option (Between least greatest) :=
  if h : (least : Int) ≤ n ∧ n ≤ greatest then
    some ⟨n.toNat, by omega, by omega⟩
  else none

@[simp] theorem ofInt?_val (n : Between least greatest) :
    (ofInt? n.val : Option (Between least greatest)) = some n := by
  have := n.least_le
  have := n.le_greatest
  unfold ofInt?
  rw [dif_pos (by omega)]
  simp

end Between

/-- How the letters of a reversed file name are written. -/
inductive NameCase
  | lowercase
  | uppercase
  | preserve
deriving DecidableEq, Repr

namespace NameCase

/-- How a choice of case is written. -/
def text : NameCase → Text
  | lowercase => "lowercase"
  | uppercase => "uppercase"
  | preserve => "preserve"

/-- The choice of case that a text writes. -/
def ofText? (t : Text) : Option NameCase :=
  [lowercase, uppercase, preserve].find? (·.text == t)

@[simp] theorem ofText?_text (c : NameCase) : ofText? c.text = some c := by cases c <;> rfl

end NameCase

/-- A label with the last day on which it applies, as that day is written. -/
structure Release where
  name : Text
  expiry : Text
deriving DecidableEq, Repr

/-- The last day on which a release applies, if it writes one. -/
def Release.expiryDate? (r : Release) : Option Date := Date.ofText? (trim r.expiry)

/-- The separator of a rule that names none. -/
def defaultSeparator : Text := "--"

/-- A rule that a project defines. Its options are identifiers that need not exist. -/
structure CustomRule where
  id : Text
  name : Text
  options : List Text := []
  separator : Text := defaultSeparator
deriving DecidableEq, Repr

/-- Whether a text can name the attribute that records paths. -/
def isMarkerName (t : Text) : Bool :=
  !t.isEmpty && trim t == t && t.all fun c => !isBlank c && !(("\"'<>=/" : Text).contains c)

/-- A name for the attribute that records paths. -/
structure MarkerName where
  text : Text
  accepted : isMarkerName text = true
deriving DecidableEq, Repr

namespace MarkerName

/-- A text as a name, after trimming. -/
def ofText? (t : Text) : Option MarkerName :=
  if h : isMarkerName (trim t) = true then some ⟨trim t, h⟩ else none

/-- The name that is used unless another one is configured. -/
def default : MarkerName := ⟨Markup.defaultPathMarker, by decide⟩

instance : Inhabited MarkerName := ⟨default⟩

theorem trim_text (n : MarkerName) : trim n.text = n.text := by
  have := n.accepted
  simp only [isMarkerName, Bool.and_eq_true, beq_iff_eq] at this
  exact this.1.2

@[simp] theorem ofText?_text (n : MarkerName) : ofText? n.text = some n := by
  have := n.accepted
  simp [ofText?, trim_text, this]

end MarkerName

/-- Whether and where the path of a document is recorded. -/
structure PathMarker where
  enabled : Bool := false
  name : MarkerName := MarkerName.default
deriving DecidableEq, Repr

/-- All that a project configures. -/
structure Settings where
  /-- Text in front of generated names. -/
  label : Text := []
  pathHashLength : Between 4 32 := ⟨8, by decide, by decide⟩
  domHashLength : Between 4 32 := ⟨8, by decide, by decide⟩
  abbreviationLength : Between 1 32 := ⟨3, by decide, by decide⟩
  reversedNameCase : NameCase := .lowercase
  releases : List Release := []
  defaultRelease : Text := "stable"
  customRules : List CustomRule := []
  pathMarker : PathMarker := {}
deriving DecidableEq, Repr

namespace Settings

/-- The settings of a project that configures nothing. -/
def defaults : Settings := {}

instance : Inhabited Settings := ⟨defaults⟩

end Settings

end MarkupNaming
