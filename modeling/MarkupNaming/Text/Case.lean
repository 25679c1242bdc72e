import MarkupNaming.Text.CaseTable

/-!
# Letter case

Full case mappings. A character may have several characters as its image. The lowercase of a
capital sigma is its final form when a cased letter stands before it and none after it, where
characters without a bearing on case are skipped.
-/
namespace MarkupNaming.Text

/-- The image of a code point under runs and sequences, itself when neither lists it. -/
def caseImage (runs : List CaseRun) (sequences : List (Nat × List Nat)) (c : Code) : Text :=
  match sequences.lookup c.toNat with
  | some image => image.map Code.ofNat
  | none =>
    match runs.find? (·.covers c.toNat) with
    | some run => [Code.ofNat (run.imageOf c.toNat)]
    | none => [c]

/-- The lowercase of a character on its own. -/
def lowerChar (c : Code) : Text :=
  if c.toNat < 128 then [c.toLower] else caseImage lowerRuns lowerSequences c

/-- The uppercase of a character. -/
def upperChar (c : Code) : Text :=
  if c.toNat < 128 then [c.toUpper] else caseImage upperRuns upperSequences c

/-- A letter with case. -/
def isCased (c : Code) : Bool := CharSet.contains ⟨casedRanges⟩ c

/-- A character without a bearing on the form of a sigma. -/
def isCaseIgnorable (c : Code) : Bool := CharSet.contains ⟨caseIgnorableRanges⟩ c

/-- Whether the first character with a bearing on case is a cased letter. -/
def startsCased (t : Text) : Bool := ((t.dropWhile isCaseIgnorable).head?.map isCased).getD false

/-- The lowercase of a text that follows the characters `before`, nearest first. -/
def lowerAfter (before : Text) : Text → Text
  | [] => []
  | c :: rest =>
    (if c = 'Σ' then (if startsCased before && !startsCased rest then (['ς'] : Text) else ['σ'])
      else lowerChar c) ++ lowerAfter (c :: before) rest

/-- The lowercase of a text. -/
def lower (t : Text) : Text := lowerAfter [] t

/-- The uppercase of a text. -/
def upper (t : Text) : Text := t.flatMap upperChar

@[simp] theorem lower_nil : lower [] = [] := rfl
@[simp] theorem upper_nil : upper [] = [] := rfl

end MarkupNaming.Text
