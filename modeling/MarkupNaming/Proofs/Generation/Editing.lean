import MarkupNaming.Proofs.Generation.Repetition
import MarkupNaming.Proofs.Markup.Outline

/-!
# Edits of requests

What a request with an edit changes. Its answers are those of generating the name only. It puts a
text with the outline of the tag in the place of the tag and leaves the rest of the document alone,
and it counts as applied exactly if that text is another one.
-/
namespace MarkupNaming.Generation.Request
open Text Naming Markup
variable {r : Request} {s : Path.Surroundings} {today : Date} {e : Element} {outcome : Outcome}
  {edit : TextEdit}

/-- Only an outcome with a name and an element is given an edit. -/
theorem exists_of_edit_withEdit (hnone : outcome.edit = none)
    (h : (r.withEdit outcome).edit = some edit) :
    ∃ e, outcome.element = some e ∧
      edit = buildEdit outcome.document e outcome.className outcome.markerValue
        (some r.settings.pathMarker.name.text) ∧
      r.withEdit outcome = { outcome with
        edit := some edit
        status := if edit.changes then .applied else .unchanged } := by
  unfold withEdit at h ⊢
  split at h
  · next e hok helement =>
    obtain rfl := Option.some.inj h
    exact ⟨e, helement, rfl, rfl⟩
  · rw [hnone] at h
    cases h

theorem withEdit_eq (hok : outcome.status.isOk = true) (helement : outcome.element = some e) :
    let edit := buildEdit outcome.document e outcome.className outcome.markerValue
      (some r.settings.pathMarker.name.text)
    r.withEdit outcome = { outcome with
      edit := some edit
      status := if edit.changes then .applied else .unchanged } := by
  rw [withEdit, hok, helement]

theorem isOk_of_withEdit (h : (r.withEdit outcome).status.isOk = true) :
    outcome.status.isOk = true := by
  unfold withEdit at h
  split at h
  · assumption
  · exact h

theorem edit_of_generate (h : r.generate s today = .ok outcome) : outcome.edit = none := by
  obtain ⟨rule, document, -, -, rfl | ⟨e, context, name, -, -, -, rfl⟩⟩ := generate_cases h
  · rfl
  · unfold nameElement
    dsimp only
    split <;> rfl

/-- An element is given an edit only with a name. -/
theorem className_ne_nil {rule : Rule} {document name : Text} {context : Context}
    (h : (r.withEdit (r.nameElement rule document e context today name)).edit = some edit) :
    (r.nameElement rule document e context today name).className ≠ [] := by
  cases hempty : name.isEmpty with
  | true =>
    simp only [nameElement, hempty] at h
    cases h
  | false =>
    simp only [nameElement, hempty]
    exact List.isEmpty_eq_false_iff.1 hempty

/-- An edit that changes its document exactly if it changes the tag is applied exactly if the
document is another one. -/
theorem status_of_changes {document : Text}
    (h : edit.apply document = document ↔ edit.changes = false) :
    (if edit.changes then Status.applied else .unchanged) =
      if edit.apply document = document then .unchanged else .applied := by
  cases hchanges : edit.changes with
  | true => rw [if_pos rfl, if_neg (by rw [h, hchanges]; decide)]
  | false => rw [if_neg (by decide), if_pos (h.2 hchanges)]

/-- An outcome with a name has an edit that replaces the tag that was located. -/
theorem exists_edit_of_isOk (h : r.apply s today = .ok outcome)
    (hok : outcome.status.isOk = true) :
    ∃ (front back : Text) (tag : Tag) (edit : TextEdit),
      outcome.document = front ++ (tag.text ++ back) ∧ r.document = .ok outcome.document ∧
      locate? outcome.document r.offset r.settings.pathMarker.name.text =
        some (tag.element front.length r.settings.pathMarker.name.text) ∧
      outcome.edit = some edit ∧ edit.replaced = tag.text ∧
      outcome.updatedText = front ++ (edit.replacement ++ back) := by
  rw [apply_eq] at h
  cases hnamed : r.generate s today with
  | error fault =>
    rw [hnamed] at h
    cases h
  | ok named =>
  rw [hnamed] at h
  obtain rfl := Except.ok.inj h
  obtain ⟨rule, document, -, hdocument, rfl | ⟨e, context, name, located, -, -, rfl⟩⟩ :=
    generate_cases hnamed
  · cases hok
  obtain ⟨front, tag, back, rfl, rfl⟩ := Tag.exists_of_locate? located
  rw [withEdit_eq (isOk_of_withEdit hok) element_nameElement, document_nameElement]
  exact ⟨front, back, tag, _, rfl, hdocument, located, rfl, Tag.tagText_element .., by
    rw [Outcome.updatedText]
    exact (apply_buildEdit ..).trans (Tag.splice_element ..)⟩

/-- A request that gives an edit answers like generating its name, and puts a text with the outline
of the tag in the place of the tag. It counts as applied exactly if the document is another one. A
class that is new, without a path marker, is one insertion inside the tag. -/
theorem edit_of_apply (h : r.apply s today = .ok outcome) (hedit : outcome.edit = some edit) :
    ∃ named e, r.generate s today = .ok named ∧ named.element = some e ∧
      (outcome.element = some e ∧ outcome.className = named.className ∧
        outcome.rule = named.rule ∧ outcome.markerValue = named.markerValue) ∧
      r.document = .ok outcome.document ∧
      outcome.updatedText = outcome.document.take e.start ++
        (edit.replacement ++ outcome.document.drop e.stop) ∧
      .char '<' :: e.tagName <+: edit.replacement ∧ [.char '>'] <:+ edit.replacement ∧
      outcome.status =
        (if outcome.updatedText = outcome.document then .unchanged else .applied) ∧
      (e.classSpan? = none → outcome.markerValue.filter (!List.isEmpty ·) = none →
        ∃ front written back, outcome.document = front ++ back ∧
          outcome.updatedText = front ++ (written ++ back) ∧ written ≠ [] ∧
          e.start < front.length ∧ front.length < e.stop) := by
  have hgenerate := apply_eq.symm.trans h
  cases hnamed : r.generate s today with
  | error fault =>
    rw [hnamed] at hgenerate
    cases hgenerate
  | ok named =>
  rw [hnamed] at hgenerate
  obtain rfl := Except.ok.inj hgenerate
  obtain ⟨e, helement, rfl, hwith⟩ := exists_of_edit_withEdit (edit_of_generate hnamed) hedit
  obtain ⟨rule, document, context, name, hrule, hdocument, located, hcontext, hgenerated, -⟩ :=
    exists_of_apply h (element_withEdit.trans helement)
  obtain rfl : r.nameElement rule document e context today name = named :=
    Except.ok.inj ((generate_eq_ok hrule hdocument located hcontext hgenerated).symm.trans hnamed)
  have hname := className_ne_nil hedit
  have hsame : (r.nameElement rule document e context today name).document = document :=
    document_nameElement
  generalize r.nameElement rule document e context today name = named at *
  subst hsame
  obtain ⟨front, tag, back, hsplit, rfl⟩ := Tag.exists_of_locate? located
  obtain ⟨body, hbody⟩ := tag.exists_replacement_eq_around front back
    r.settings.pathMarker.name.text named.className named.markerValue
    (some r.settings.pathMarker.name.text)
  rw [← hsplit] at hbody
  rw [hwith]
  refine ⟨named, _, rfl, helement, ⟨helement, rfl, rfl, rfl⟩, hdocument,
    apply_buildEdit .., ?_, ?_, ?_, ?_⟩
  · rw [hbody]
    exact ⟨body ++ [Code.char '>'], rfl⟩
  · rw [hbody]
    exact ⟨.char '<' :: (tag.name.text ++ body), by simp [TagName.around]⟩
  · exact status_of_changes (Tag.apply_buildEdit_eq_self_iff hsplit)
  · exact Tag.exists_insertion hsplit hname

/-- A request that names a heading after a file with a `>` in its name. -/
def heading : Request where
  path := "/w/a>b.html"
  offset := 5
  document := .ok ("x<h1 id=a>y" : Text)
  ruleId := some ("ruleGamma" : Text)

theorem edit_of_apply_heading : ∃ outcome edit e, heading.apply {} ⟨2024, 5, 1⟩ = .ok outcome ∧
    outcome.edit = some edit ∧ outcome.element = some e ∧
    outcome.updatedText = outcome.document.take e.start ++
      (edit.replacement ++ outcome.document.drop e.stop) ∧
    .char '<' :: e.tagName <+: edit.replacement ∧ [.char '>'] <:+ edit.replacement ∧
    outcome.updatedText = ("x<h1 id=a class=\"b>a\">y" : Text) := by
  have hmade : (heading.apply {} ⟨2024, 5, 1⟩).toOption.map
      (fun o => (o.edit.isSome, o.updatedText)) =
        some (true, ("x<h1 id=a class=\"b>a\">y" : Text)) := by
    decide +kernel
  cases happly : heading.apply {} ⟨2024, 5, 1⟩ with
  | error fault =>
    rw [happly] at hmade
    cases hmade
  | ok outcome =>
    rw [happly] at hmade
    have hpair := Option.some.inj hmade
    rw [Prod.mk.injEq] at hpair
    obtain ⟨edit, hedit⟩ := Option.isSome_iff_exists.1 hpair.1
    obtain ⟨named, e, -, -, ⟨helement, -⟩, -, hspliced, hstarts, hends, -⟩ :=
      edit_of_apply happly hedit
    exact ⟨outcome, edit, e, rfl, hedit, helement, hspliced, hstarts, hends, hpair.2⟩

end MarkupNaming.Generation.Request
