import MarkupNaming.Generation.Request
import MarkupNaming.Proofs.Markup.Frame
import MarkupNaming.Proofs.Naming.ClassName
import MarkupNaming.Proofs.Naming.Context

/-!
# Repeated requests

A request with the rule for the place in a document that is repeated on the text it gave changes
nothing more: the element is found where it was, its place gives the same name, and the name is
among its classes.
-/
namespace MarkupNaming
open Text

section Steps
variable {ε δ α β : Type} {f : ε → δ} {k : α → Except δ β}

/-- A step that succeeds is followed by the next one, whatever its faults are taken for. -/
theorem mapError_ok_bind (a : α) : ((Except.ok a).mapError f >>= k) = k a := rfl

theorem mapError_error_bind (e : ε) : ((Except.error e).mapError f >>= k) = .error (f e) := rfl

end Steps

/-! ## Outcomes -/

namespace Generation
open Naming Markup

namespace Request
variable {r : Request} {s : Path.Surroundings} {today : Date} {document : Text} {e : Element}
  {rule : Rule} {context : Context} {name : Text} {outcome : Outcome}

/-- The outcome with the edit that writes its name, if it has a name and an element. -/
def withEdit (r : Request) (outcome : Outcome) : Outcome :=
  match outcome.status.isOk, outcome.element with
  | true, some element =>
    let edit := buildEdit outcome.document element outcome.className outcome.markerValue
      (some r.settings.pathMarker.name.text)
    { outcome with
      edit := some edit
      status := if edit.changes then .applied else .unchanged }
  | _, _ => outcome

theorem apply_eq : r.apply s today = (r.generate s today).map r.withEdit := by
  unfold apply
  cases r.generate s today with
  | error fault => rfl
  | ok outcome =>
    simp only [bind, Except.bind, Except.map, withEdit]
    cases outcome.status.isOk <;> cases outcome.element <;> rfl

@[simp] theorem element_withEdit : (r.withEdit outcome).element = outcome.element := by
  unfold withEdit
  split <;> rfl

@[simp] theorem element_nameElement :
    (r.nameElement rule document e context today name).element = some e := by
  unfold nameElement
  dsimp only
  split <;> rfl

@[simp] theorem document_withEdit : (r.withEdit outcome).document = outcome.document := by
  unfold withEdit
  split <;> rfl

@[simp] theorem document_nameElement :
    (r.nameElement rule document e context today name).document = document := by
  unfold nameElement
  dsimp only
  split <;> rfl

/-- A request without segments selects the rule of its identifier. -/
theorem selectRule_of_ruleId {id : Text} (hrule : r.ruleId = some id) (hid : id ≠ [])
    (hsegments : r.optionIds = []) : r.selectRule = Rule.resolve id r.settings := by
  have hgiven : r.ruleId.filter (!·.isEmpty) = some id := by simp [hrule, hid]
  rw [selectRule, if_neg (by simpa using hsegments), hgiven]

/-- A request without a rule fails, whatever its document is. -/
theorem generate_of_ruleFault {fault : RuleFault} (hrule : r.selectRule = .error fault) :
    r.generate s today = .error (.rule fault) := by
  rw [generate, hrule, mapError_error_bind]

theorem generate_of_documentFault {fault : DocumentFault} (hrule : r.selectRule = .ok rule)
    (hdocument : r.document = .error fault) :
    r.generate s today = .error (.document fault) := by
  rw [generate, hrule, hdocument, mapError_ok_bind, mapError_error_bind]

/-- A request that locates no element does not look at its path. -/
theorem generate_of_notFound (hrule : r.selectRule = .ok rule)
    (hdocument : r.document = .ok document)
    (located : locate? document r.offset r.settings.pathMarker.name.text = none) :
    r.generate s today = .ok { status := .notFound, rule := rule, document := document } := by
  simp only [generate, hrule, hdocument, located, mapError_ok_bind]
  rfl

/-- A request that locates an element names it in the context of its file, if it has one. -/
theorem generate_of_contextFault {fault : ContextFault} (hrule : r.selectRule = .ok rule)
    (hdocument : r.document = .ok document)
    (located : locate? document r.offset r.settings.pathMarker.name.text = some e)
    (hcontext : Context.ofFile s r.path document e.start r.workspace = .error fault) :
    r.generate s today = .error (.context fault) := by
  simp only [generate, hrule, hdocument, located, hcontext, mapError_ok_bind,
    mapError_error_bind]

theorem generate_eq_map (hrule : r.selectRule = .ok rule) (hdocument : r.document = .ok document)
    (located : locate? document r.offset r.settings.pathMarker.name.text = some e)
    (hcontext : Context.ofFile s r.path document e.start r.workspace = .ok context) :
    r.generate s today =
      ((rule.generate context r.settings today).mapError
        (Fault.encoding · (r.reported rule e today))).map
        (r.nameElement rule document e context today) := by
  simp only [generate, hrule, hdocument, located, hcontext, mapError_ok_bind]
  cases rule.generate context r.settings today <;> rfl

theorem generate_eq_ok (hrule : r.selectRule = .ok rule) (hdocument : r.document = .ok document)
    (located : locate? document r.offset r.settings.pathMarker.name.text = some e)
    (hcontext : Context.ofFile s r.path document e.start r.workspace = .ok context)
    (hname : rule.generate context r.settings today = .ok name) :
    r.generate s today = .ok (r.nameElement rule document e context today name) := by
  rw [generate_eq_map hrule hdocument located hcontext, hname]
  rfl

/-- A request with an outcome has a rule and a document, and finds no element or names one. -/
theorem generate_cases (h : r.generate s today = .ok outcome) :
    ∃ rule document, r.selectRule = .ok rule ∧ r.document = .ok document ∧
      (outcome = { status := .notFound, rule := rule, document := document } ∨
        ∃ e context name, locate? document r.offset r.settings.pathMarker.name.text = some e ∧
          Context.ofFile s r.path document e.start r.workspace = .ok context ∧
          rule.generate context r.settings today = .ok name ∧
          outcome = r.nameElement rule document e context today name) := by
  cases hrule : r.selectRule with
  | error fault =>
    rw [generate_of_ruleFault hrule] at h
    cases h
  | ok rule =>
    cases hdocument : r.document with
    | error fault =>
      rw [generate_of_documentFault hrule hdocument] at h
      cases h
    | ok document =>
      refine ⟨rule, document, rfl, rfl, ?_⟩
      cases located : locate? document r.offset r.settings.pathMarker.name.text with
      | none =>
        rw [generate_of_notFound hrule hdocument located] at h
        exact .inl (Except.ok.inj h).symm
      | some e =>
        cases hcontext : Context.ofFile s r.path document e.start r.workspace with
        | error fault =>
          rw [generate_of_contextFault hrule hdocument located hcontext] at h
          cases h
        | ok context =>
          rw [generate_eq_map hrule hdocument located hcontext] at h
          cases hname : rule.generate context r.settings today with
          | error fault =>
            rw [hname] at h
            cases h
          | ok name =>
            rw [hname] at h
            exact .inr ⟨e, context, name, rfl, hcontext, hname, (Except.ok.inj h).symm⟩

/-- What a request that locates an element has found. -/
theorem exists_of_apply (h : r.apply s today = .ok outcome) (hlocated : outcome.element = some e) :
    ∃ rule document context name, r.selectRule = .ok rule ∧ r.document = .ok document ∧
      locate? document r.offset r.settings.pathMarker.name.text = some e ∧
      Context.ofFile s r.path document e.start r.workspace = .ok context ∧
      rule.generate context r.settings today = .ok name ∧
      outcome = r.withEdit (r.nameElement rule document e context today name) := by
  rw [apply_eq] at h
  cases hnamed : r.generate s today with
  | error fault =>
    rw [hnamed] at h
    cases h
  | ok named =>
    rw [hnamed] at h
    obtain rfl := Except.ok.inj h
    rw [element_withEdit] at hlocated
    obtain ⟨rule, document, hrule, hdocument,
      rfl | ⟨e', context, name, located, hcontext, hname, rfl⟩⟩ := generate_cases hnamed
    · cases hlocated
    · rw [element_nameElement] at hlocated
      obtain rfl := Option.some.inj hlocated
      exact ⟨rule, document, context, name, hrule, hdocument, located, hcontext, hname, rfl⟩

/-- The outcome for an element with a name and without a path marker. -/
theorem withEdit_nameElement (rule : Rule) (document : Text) (e : Element) (context : Context)
    (today : Date) (hname : name ≠ [])
    (hmarker : r.emitMarker.getD r.settings.pathMarker.enabled = false) :
    let outcome := r.withEdit (r.nameElement rule document e context today name)
    let edit := buildEdit document e name none (some r.settings.pathMarker.name.text)
    outcome.edit = some edit ∧ outcome.className = name ∧
      outcome.status = if edit.changes then .applied else .unchanged := by
  have hnonempty : name.isEmpty = false := by simpa using hname
  simp only [nameElement, hnonempty, hmarker]
  exact ⟨rfl, rfl, rfl⟩

variable {front back marker newClass : Text} {tag : Tag}

/-- The document that a class without a path marker gives. -/
theorem updatedText_eq {chosen : Option Text} {written : Text}
    (hdocument : outcome.document = front ++ (tag.text ++ back))
    (hedit : outcome.edit = some (buildEdit (front ++ (tag.text ++ back))
      (tag.element front.length marker) newClass none chosen))
    (happlied : applyClass tag.text (tag.element front.length marker) newClass = written) :
    outcome.updatedText = front ++ (written ++ back) := by
  rw [Outcome.updatedText, hedit]
  dsimp only
  rw [hdocument, apply_buildEdit,
    Tag.replacement_buildEdit_nil front back marker newClass chosen rfl, happlied,
    Tag.splice_element]

/-- A request whose name the tag has already changes nothing. -/
theorem apply_of_applyClass_eq (hrule : r.selectRule = .ok rule)
    (hdocument : r.document = .ok (front ++ (tag.text ++ back))) (hoffset : r.offset = front.length)
    (hmarker : r.emitMarker.getD r.settings.pathMarker.enabled = false)
    (hcontext : Context.ofFile s r.path (front ++ (tag.text ++ back)) front.length r.workspace =
      .ok context)
    (hname : rule.generate context r.settings today = .ok newClass) (hne : newClass ≠ [])
    (hkept : applyClass tag.text (tag.element front.length r.settings.pathMarker.name.text)
      newClass = tag.text) :
    ∃ outcome, r.apply s today = .ok outcome ∧ outcome.status = .unchanged ∧
      outcome.className = newClass ∧ outcome.updatedText = front ++ (tag.text ++ back) := by
  have located : locate? (front ++ (tag.text ++ back)) r.offset r.settings.pathMarker.name.text =
      some (tag.element front.length r.settings.pathMarker.name.text) := by
    rw [hoffset]
    exact tag.locate?_append front back r.settings.pathMarker.name.text
  have hsame : (buildEdit (front ++ (tag.text ++ back))
      (tag.element front.length r.settings.pathMarker.name.text) newClass none
      (some r.settings.pathMarker.name.text)).changes = false := by
    have hreplacement := tag.replacement_buildEdit_nil front back
      r.settings.pathMarker.name.text newClass (some r.settings.pathMarker.name.text)
      (Option.filter_none _)
    have htext := tag.tagText_element front back r.settings.pathMarker.name.text
    rw [TextEdit.changes, hreplacement, hkept]
    simp [buildEdit, htext]
  obtain ⟨hedit, hclass, hstatus⟩ := withEdit_nameElement rule (front ++ (tag.text ++ back))
    (tag.element front.length r.settings.pathMarker.name.text) context today hne hmarker
  refine ⟨_, ?_, ?_, hclass, updatedText_eq (by simp) hedit hkept⟩
  · rw [apply_eq, generate_eq_ok hrule hdocument located hcontext hname]
    rfl
  · rw [hstatus, hsame]
    rfl

/-- A request with the rule for the place in a document that is made again, on any day, on the
updated text at the start of the element finds its name there and changes nothing. -/
theorem apply_again {first : Outcome} (again : Date) (hrule : r.selectRule = .ok Rule.beta)
    (hmarker : r.emitMarker.getD r.settings.pathMarker.enabled = false)
    (hfirst : r.apply s today = .ok first) (hlocated : first.element = some e)
    (quoted : ∀ span, e.classSpan? = some span → span.isQuoted = true)
    (hquotes : e.QuotesCovered first.document) :
    ∃ second, ({ r with document := .ok first.updatedText, offset := e.start } : Request).apply s
        again = .ok second ∧
      second.status = .unchanged ∧ second.className = first.className ∧
      second.updatedText = first.updatedText := by
  obtain ⟨rule, document, context, name, hselected, -, located, hcontext, hgenerated, rfl⟩ :=
    exists_of_apply hfirst hlocated
  obtain rfl : Rule.beta = rule := Except.ok.inj (hrule.symm.trans hselected)
  obtain ⟨front, tag, back, rfl, rfl⟩ := Tag.exists_of_locate? located
  have hchain : context.chain = ancestors (front ++ (tag.text ++ back)) front.length :=
    Context.chain_of_ofFile hcontext
  -- The name is a class, and the tag with it does not take it again.
  have hclass : IsClassName name := by
    rw [generate_beta] at hgenerated
    obtain rfl := Except.ok.inj hgenerated
    refine isClassName_chainName_chain ?_ r.settings
    rw [hchain]
    exact tag.chainText_ancestors_ne_nil front back
  obtain ⟨hedit, hname, -⟩ := withEdit_nameElement Rule.beta (front ++ (tag.text ++ back))
    (tag.element front.length r.settings.pathMarker.name.text) context today hclass.1 hmarker
  rw [document_withEdit, document_nameElement] at hquotes
  obtain ⟨tag', hsets, happlied, hkept⟩ := Tag.exists_applyClass_twice tag front.length
    r.settings.pathMarker.name.text hclass (Tag.quoted_of_element quoted)
    (Tag.quotesCovered_of_element hquotes)
  rw [updatedText_eq (by simp) hedit happlied, hname]
  -- The new tag stands in the same place, below the same tags, so it is given the same name.
  have hinside : front.length ≤ (front ++ (tag'.text ++ back)).length := by simp
  obtain ⟨context', hcontext'⟩ := Context.exists_ofFile hcontext hinside
  have hchain' : context'.chain = context.chain := by
    rw [hchain, Context.chain_of_ofFile hcontext']
    exact (hsets.alike (Tag.quoted_of_element quoted)).ancestors_before front back (Int.le_refl _)
  exact apply_of_applyClass_eq hrule rfl rfl hmarker hcontext'
    ((generate_beta_congr hchain' r.settings today again).trans hgenerated) hclass.1 hkept

/-- A request for a paragraph with a class. -/
def paragraph : Request where
  path := "/a.html"
  offset := 1
  document := .ok ("<p class=\"a\">x" : Text)

theorem apply_again_paragraph :
    ∃ first second, paragraph.apply {} ⟨2024, 5, 1⟩ = .ok first ∧
      ({ paragraph with document := .ok first.updatedText, offset := 0 } : Request).apply {}
        ⟨2024, 5, 2⟩ = .ok second ∧
      second.status = .unchanged ∧ second.className = first.className ∧
      second.updatedText = first.updatedText := by
  have located : locate? "<p class=\"a\">x" 1 defaultPathMarker =
      some ⟨"p", 0, 13, [⟨"class", "a", 3, 12, 10, 11, .double⟩], defaultPathMarker⟩ := by
    decide +kernel
  have hquotes : Element.QuotesCovered
      ⟨"p", 0, 13, [⟨"class", "a", 3, 12, 10, 11, .double⟩], defaultPathMarker⟩
      "<p class=\"a\">x" := by
    have inside : ∀ i < 13, (("<p class=\"a\">x" : Text)[i]?).any isQuote = true →
        3 ≤ i ∧ i < 12 := by
      decide
    intro i q _ hi hget hq
    refine ⟨(3, ⟨"class", [], [], .double, "a"⟩), by decide +kernel, inside i hi ?_⟩
    rw [hget]
    exact hq
  obtain ⟨context, hcontext⟩ : ∃ context, Context.ofFile {} paragraph.path "<p class=\"a\">x" 0
      paragraph.workspace = .ok context := ⟨_, rfl⟩
  have hfirst : paragraph.apply {} ⟨2024, 5, 1⟩ =
      (paragraph.generate {} ⟨2024, 5, 1⟩).map paragraph.withEdit := apply_eq
  rw [generate_eq_ok rfl rfl located hcontext (generate_beta ..)] at hfirst
  obtain ⟨second, happly, hrest⟩ := apply_again ⟨2024, 5, 2⟩ rfl rfl hfirst
    (element_withEdit.trans element_nameElement) (by intro span hspan; cases hspan; rfl)
    (by rwa [document_withEdit, document_nameElement])
  exact ⟨_, second, hfirst, happly, hrest⟩

end Request
end Generation
end MarkupNaming
