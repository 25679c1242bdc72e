import MarkupNaming.Proofs.Generation.Repetition
import MarkupNaming.Proofs.Markup.Retention
import MarkupNaming.Proofs.Naming.PathParts

/-!
# Names as classes

Whether the name that a request writes is one class. It is, unless the path of the file brings a
blank, a quote or a `>` into it. A name with a blank is several classes, and as it is not among the
classes of the element afterwards, it is written again with every request.
-/
namespace MarkupNaming.Generation.Request
open Text Naming Markup
variable {r : Request} {s : Path.Surroundings} {today : Date} {e : Element} {rule : Rule}
  {name : Text}

/-- A request for an element is empty exactly if its rule makes no name. -/
theorem status_withEdit_eq_empty_iff {document : Text} {context : Context} :
    (r.withEdit (r.nameElement rule document e context today name)).status = .empty ↔
      name = [] := by
  cases hempty : name.isEmpty with
  | true =>
    simp only [nameElement, hempty]
    exact iff_of_true rfl (List.isEmpty_iff.1 hempty)
  | false =>
    have hstatus : ∀ changes : Bool, (if changes then Status.applied else .unchanged) ≠ .empty := by
      decide
    simp only [nameElement, hempty]
    exact iff_of_false (hstatus _) fun hname => by simp [hname] at hempty

/-- Whether a request that has an element has a name or none, it is the one of its rule. -/
theorem className_withEdit {document : Text} {context : Context} :
    (r.withEdit (r.nameElement rule document e context today name)).className = name := by
  cases hempty : name.isEmpty with
  | true =>
    simp only [nameElement, hempty]
    exact (List.isEmpty_iff.1 hempty).symm
  | false =>
    simp only [nameElement, hempty]
    rfl

/-- Whether the name of an outcome is a class of the element that is now at a place. -/
def Lists (r : Request) (first : Outcome) (start : Nat) : Prop :=
  ∃ e span, locate? first.updatedText start r.settings.pathMarker.name.text = some e ∧
    e.classSpan? = some span ∧ first.className ∈ classTokens (some span.value)

/-- Whether a request that is made again, on any day, at a place of the updated text finds the
same name there and changes nothing. -/
def Settles (r : Request) (s : Path.Surroundings) (first : Outcome) (start : Nat) : Prop :=
  ∀ again, ∃ second,
    ({ r with document := .ok first.updatedText, offset := start } : Request).apply s again =
      .ok second ∧
    second.status = .unchanged ∧ second.className = first.className ∧
    second.updatedText = first.updatedText

/-- The name that a preset rule makes for an element has a blank, a quote or a `>` exactly if a
part of the path of the file brings it. With a blank, the name is no class of the element
afterwards. With none of these characters it is, and the request made again changes nothing. -/
theorem mem_className_iff {first : Outcome} (hpreset : rule ∈ Rule.presets)
    (hrule : r.selectRule = .ok rule) (hfirst : r.apply s today = .ok first)
    (hlocated : first.element = some e) :
    ∃ context, Context.ofFile s r.path first.document e.start r.workspace = .ok context ∧
      (∀ c, isPlain c = false →
        (c ∈ first.className ↔ ∃ part ∈ rule.pathParts context r.settings, c ∈ part)) ∧
      ((∃ part ∈ rule.pathParts context r.settings, ∃ c ∈ part, isBlank c = true) →
        ¬ r.Lists first e.start) ∧
      ((∀ part ∈ rule.pathParts context r.settings, ∀ c ∈ part, isPlain c = true) →
        first.status ≠ .empty → r.emitMarker.getD r.settings.pathMarker.enabled = false →
        (∀ span, e.classSpan? = some span → span.isQuoted = true) →
        e.AcceptsClass first.document →
        r.Lists first e.start ∧ r.Settles s first e.start) := by
  obtain ⟨rule', document, context, name, hselected, -, located, hcontext, hname, rfl⟩ :=
    exists_of_apply hfirst hlocated
  obtain rfl : rule = rule' := Except.ok.inj (hrule.symm.trans hselected)
  obtain ⟨front, tag, back, rfl, rfl⟩ := Tag.exists_of_locate? located
  rw [Lists, Settles, document_withEdit, document_nameElement, className_withEdit]
  have hiff (c : Code) (hc : isPlain c = false) :
      c ∈ name ↔ ∃ part ∈ rule.pathParts context r.settings, c ∈ part := by
    refine Rule.mem_generate_iff hc (fun hmem => ?_) hname
    rw [Rule.isPlain_of_mem_separator hpreset hmem] at hc
    cases hc
  refine ⟨context, hcontext, hiff, ?_, fun hplain hstatus hmarker quoted haccepts => ?_⟩
  · rintro ⟨part, hpart, c, hc, hblank⟩ ⟨e', span, -, -, hmem⟩
    have hblankname := (hiff c (by simp [isPlain, hblank])).2 ⟨part, hpart, hc⟩
    rw [isBlank_eq_false_of_mem_words hmem hblankname] at hblank
    cases hblank
  -- The name is a class, which the new tag lists.
  have hclass :=
    Rule.isClassName_generate hpreset hplain hname (mt status_withEdit_eq_empty_iff.2 hstatus)
  obtain ⟨hedit, -, -⟩ := withEdit_nameElement rule (front ++ (tag.text ++ back))
    (tag.element front.length r.settings.pathMarker.name.text) context today hclass.1 hmarker
  obtain ⟨tag', htakes, happlied⟩ := tag.exists_takes_applyClass front.length
    r.settings.pathMarker.name.text (hclass.not_mem (c := '>') (by decide)) hclass.1
  obtain ⟨found, hwritten, hmem⟩ :=
    htakes.exists_written hclass (Tag.acceptsClass_of_element haccepts)
  rw [updatedText_eq (by simp) hedit happlied]
  constructor
  · refine ⟨_, (found.2.span (found.1 + tag'.bodyOffset)).map (· + front.length),
      tag'.locate?_append front back r.settings.pathMarker.name.text, ?_, hmem⟩
    rw [Element.classSpan?, Tag.attribute?_element, hwritten]
    rfl
  -- It stands in the same place, below the same tags, so it is given the same name.
  · intro again
    have hinside : front.length ≤ (front ++ (tag'.text ++ back)).length := by simp
    obtain ⟨context', hcontext'⟩ := Context.exists_ofFile hcontext hinside
    have hchain : context'.chain = context.chain := by
      rw [Context.chain_of_ofFile hcontext, Context.chain_of_ofFile hcontext']
      exact (htakes.sets.alike (Tag.quoted_of_element quoted)).ancestors_before front back
        (Int.le_refl _)
    obtain ⟨hpath, hfile⟩ := Context.path_eq_of_ofFile hcontext hcontext'
    exact apply_of_applyClass_eq hrule rfl rfl hmarker hcontext'
      ((Rule.generate_congr hpreset hpath hfile hchain r.settings today again).trans hname) hclass.1
      (Tag.applyClass_of_written? hwritten hmem)

/-- A request that names a paragraph after its file. -/
def page (path : Text) : Request where
  path := path
  offset := 0
  document := .ok ("<p>" : Text)
  ruleId := some ("ruleGamma" : Text)

theorem mem_className_iff_page : ∃ first,
    (page "/w/my-page.html").apply {} ⟨2024, 5, 1⟩ = .ok first ∧
    first.className = ("egap-ym" : Text) ∧ (∀ c, isPlain c = false → c ∉ first.className) ∧
    (page "/w/my-page.html").Lists first 0 ∧ (page "/w/my-page.html").Settles {} first 0 := by
  have located : locate? ("<p>" : Text) 0 = some ⟨"p", 0, 3, [], defaultPathMarker⟩ := by
    decide +kernel
  obtain ⟨context, hcontext, hfile⟩ : ∃ context,
      Context.ofFile {} (page "/w/my-page.html").path "<p>" 0 (page "/w/my-page.html").workspace =
        .ok context ∧ context.fileName = ("my-page" : Text) := ⟨_, rfl, by decide +kernel⟩
  have hrule : (page "/w/my-page.html").selectRule = .ok Rule.gamma := rfl
  have hfirst : (page "/w/my-page.html").apply {} ⟨2024, 5, 1⟩ =
      ((page "/w/my-page.html").generate {} ⟨2024, 5, 1⟩).map (page "/w/my-page.html").withEdit :=
    apply_eq
  have hname : Rule.gamma.generate context (page "/w/my-page.html").settings ⟨2024, 5, 1⟩ =
      .ok ("egap-ym" : Text) := by
    change Except.ok (compose defaultSeparator [sanitize (Settings.defaults.label.take labelLimit),
      reversedName Settings.defaults.reversedNameCase context.fileName]) = _
    rw [hfile]
    decide
  rw [generate_eq_ok hrule rfl located hcontext hname] at hfirst
  obtain ⟨context', hcontext', hiff, -, hone⟩ := mem_className_iff (by decide) hrule hfirst
    (element_withEdit.trans element_nameElement)
  rw [document_withEdit, document_nameElement] at hcontext' hone
  obtain rfl : context = context' := Except.ok.inj (hcontext.symm.trans hcontext')
  have hplain : ∀ part ∈ Rule.gamma.pathParts context (page "/w/my-page.html").settings,
      ∀ c ∈ part, isPlain c = true := by
    intro part hpart
    obtain rfl : part = context.fileName := List.mem_singleton.1 hpart
    rw [hfile]
    exact List.all_eq_true.1 (by decide)
  have hquotes : Element.AcceptsClass ⟨"p", 0, 3, [], defaultPathMarker⟩ "<p>" := by
    have none : ∀ i < 3, (("<p>" : Text)[i]?).any isQuote = false := by decide
    refine .inr fun i q _ hi hget hq => ?_
    have := none i hi
    rw [hget, Option.any_some, hq] at this
    cases this
  obtain ⟨hlists, hsettles⟩ := hone hplain (mt status_withEdit_eq_empty_iff.1 (by decide)) rfl
    (by intro span hspan; cases hspan) hquotes
  refine ⟨_, hfirst, className_withEdit, fun c hc hmem => ?_, hlists, hsettles⟩
  obtain ⟨part, hpart, hc'⟩ := (hiff c hc).1 hmem
  rw [hplain part hpart c hc'] at hc
  cases hc

/-- A name with a blank from the name of the file is written once more by the same request. -/
theorem not_settles_page : ∃ first second,
    (page "/w/my page.html").apply {} ⟨2024, 5, 1⟩ = .ok first ∧ first.status = .applied ∧
    .char ' ' ∈ first.className ∧
    ({ page "/w/my page.html" with document := .ok first.updatedText } : Request).apply {}
      ⟨2024, 5, 1⟩ = .ok second ∧
    second.status = .applied ∧ second.updatedText = ("<p class=\"egap ym egap ym\">" : Text) := by
  have hmade {x : Except Fault Outcome} {v : Status × Text × Text}
      (h : x.toOption.map (fun o => (o.status, o.className, o.updatedText)) = some v) :
      ∃ o, x = .ok o ∧ (o.status, o.className, o.updatedText) = v := by
    cases x with
    | error fault => cases h
    | ok o => exact ⟨o, rfl, Option.some.inj h⟩
  obtain ⟨first, hfirst, heq⟩ : ∃ first, (page "/w/my page.html").apply {} ⟨2024, 5, 1⟩ =
      .ok first ∧ (first.status, first.className, first.updatedText) =
        (.applied, ("egap ym" : Text), ("<p class=\"egap ym\">" : Text)) :=
    hmade (by decide +kernel)
  obtain ⟨second, hsecond, heq'⟩ : ∃ second, ({ page "/w/my page.html" with
      document := .ok ("<p class=\"egap ym\">" : Text) } : Request).apply {} ⟨2024, 5, 1⟩ =
      .ok second ∧ (second.status, second.className, second.updatedText) =
        (.applied, ("egap ym" : Text), ("<p class=\"egap ym egap ym\">" : Text)) :=
    hmade (by decide +kernel)
  simp only [Prod.mk.injEq] at heq heq'
  obtain ⟨hstatus, hname, htext⟩ := heq
  exact ⟨first, second, hfirst, hstatus, by rw [hname]; decide, by rw [htext]; exact hsecond,
    heq'.1, heq'.2.2⟩

end MarkupNaming.Generation.Request
