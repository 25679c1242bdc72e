import MarkupNaming.Proofs.Generation.Repetition

/-!
# Order of requests

Two elements of a document may be named in either order. A class that is written into one of them
moves the other one, but neither its tag nor the tags around it change, so it is given the same
name and its tag is rewritten in the same way.
-/
namespace MarkupNaming
open Text

namespace Markup.Tag
variable {tag tag' : Tag}

/-- How a class is added to a tag does not depend on where the tag stands. -/
theorem applyClass_element (tag : Tag) (start start' : Nat) (marker newClass : Text) :
    applyClass tag.text (tag.element start marker) newClass =
      applyClass tag.text (tag.element start' marker) newClass := by
  rw [applyClass, applyClass, Element.classSpan?, Element.classSpan?, attribute?_element,
    attribute?_element]
  cases tag.written? classAttribute with
  | none => rfl
  | some e => simp [replaceValue, AttributeSpan.map, element]

/-- A tag that stands behind another one, which ends in front of it. -/
theorem exists_between {front front' back back' : Text}
    (h : front ++ (tag.text ++ back) = front' ++ (tag'.text ++ back'))
    (hle : front.length + tag.text.length ≤ front'.length) :
    ∃ mid, front' = front ++ (tag.text ++ mid) ∧ back = mid ++ (tag'.text ++ back') := by
  rw [← List.append_assoc] at h
  have hprefix : front ++ tag.text <+: front' :=
    List.prefix_of_prefix_length_le (h ▸ List.prefix_append _ _) (List.prefix_append _ _)
      (by simpa using hle)
  obtain ⟨mid, rfl⟩ := hprefix
  rw [List.append_assoc (front ++ tag.text), List.append_cancel_left_eq] at h
  exact ⟨mid, by simp, h⟩

end Markup.Tag

namespace Generation.Request
open Naming Markup
variable {r : Request} {s : Path.Surroundings} {document : Text}

/-- The same request at a place of another document. -/
def on (r : Request) (document : Text) (offset : Int) : Request :=
  { r with document := .ok document, offset := offset }

/-- The class name that a request makes at a place of a document, and the text it gives. -/
def annotate (r : Request) (s : Path.Surroundings) (today : Date) (document : Text)
    (offset : Int) : Except Fault (Text × Text) :=
  ((r.on document offset).apply s today).map fun outcome =>
    (outcome.className, outcome.updatedText)

/-- Two requests, the second one on the text that the first one gives. Each is made at its own
place and on its own day; the second place is read off that text. -/
def annotateBoth (r : Request) (s : Path.Surroundings) (today today' : Date) (document : Text)
    (first : Int) (second : Text → Int) : Except Fault (Text × Text × Text) := do
  let (name, edited) ← r.annotate s today document first
  let (name', edited') ← r.annotate s today' edited (second edited)
  return (name, name', edited')

/-- The name that the rule for the place in a document makes for a place. -/
def placeName (r : Request) (document : Text) (offset : Int) : Text :=
  chainName r.settings (ancestors document offset)

/-- The context of the file of a request, in the empty document. -/
def base (r : Request) (s : Path.Surroundings) : Except Fault Context :=
  (Context.ofFile s r.path [] 0 r.workspace).mapError Fault.context

theorem isClassName_placeName (r : Request) (tag : Tag) (front back : Text) :
    IsClassName (r.placeName (front ++ (tag.text ++ back)) front.length) :=
  isClassName_chainName (fun _ htag => isPlain_of_mem_ancestors htag)
    (isEncodable_chainText_ancestors _ _) (tag.chainText_ancestors_ne_nil front back) r.settings

section Tags
variable {tag tag' tag₁ tag₁' tag₂ tag₂' : Tag} {front mid back name name₁ name₂ : Text}
  (hrule : r.selectRule = .ok Rule.beta)
  (hmarker : r.emitMarker.getD r.settings.pathMarker.enabled = false)
include hrule hmarker

/-- What a request at a tag makes, if its file has a context: the name for its place, added to the
tag as a class. -/
theorem annotate_tag (today : Date)
    (hname : r.placeName (front ++ (tag.text ++ back)) front.length = name)
    (hwritten : applyClass tag.text (tag.element 0 r.settings.pathMarker.name.text) name =
      tag'.text) :
    r.annotate s today (front ++ (tag.text ++ back)) front.length =
      (r.base s).map fun _ => (name, front ++ (tag'.text ++ back)) := by
  subst hname
  have hle : front.length ≤ (front ++ (tag.text ++ back)).length := by simp
  have located := tag.locate?_append front back r.settings.pathMarker.name.text
  rw [annotate, apply_eq, base]
  have hfile := Context.ofFile_eq_map s r.path r.workspace hle
  cases hstart : Context.ofFile s r.path [] 0 r.workspace with
  | error fault =>
    rw [hstart] at hfile
    have hgenerate : (r.on (front ++ (tag.text ++ back)) front.length).generate s today = _ :=
      generate_of_contextFault hrule rfl located hfile
    rw [hgenerate]
    rfl
  | ok context =>
    rw [hstart] at hfile
    have hgenerate : (r.on (front ++ (tag.text ++ back)) front.length).generate s today = _ :=
      generate_eq_ok hrule rfl located hfile (generate_beta ..)
    rw [hgenerate, tag.applyClass_element 0 front.length] at *
    obtain ⟨hedit, hclass, -⟩ := withEdit_nameElement
      (r := r.on (front ++ (tag.text ++ back)) front.length) Rule.beta
      (front ++ (tag.text ++ back)) (tag.element front.length r.settings.pathMarker.name.text)
      (context.move _ _ hle) today (r.isClassName_placeName tag front back).1 hmarker
    exact congrArg Except.ok (Prod.ext hclass (updatedText_eq (by simp) hedit hwritten))

omit hrule hmarker in
/-- Two requests of which each makes something if the file has a context. -/
theorem annotateBoth_eq {today today' : Date} {first : Int} {second : Text → Int}
    {name' edited edited' : Text}
    (h : r.annotate s today document first = (r.base s).map fun _ => (name, edited))
    (h' : r.annotate s today' edited (second edited) =
      (r.base s).map fun _ => (name', edited')) :
    r.annotateBoth s today today' document first second =
      (r.base s).map fun _ => (name, name', edited') := by
  rw [annotateBoth, h]
  cases hbase : r.base s with
  | error fault => rfl
  | ok context =>
    rw [hbase] at h'
    simp only [Except.map, bind, Except.bind, h', pure, Except.pure]

/-- The tag in front is named first. -/
theorem annotateBoth_forward (today today' : Date) (halike : tag₁.Alike tag₁')
    (hcomment : tag₁'.ClosesComment ↔ tag₁.ClosesComment)
    (hname₁ : r.placeName (front ++ (tag₁.text ++ (mid ++ (tag₂.text ++ back)))) front.length =
      name₁)
    (hname₂ : r.placeName ((front ++ (tag₁.text ++ mid)) ++ (tag₂.text ++ back))
      (front ++ (tag₁.text ++ mid)).length = name₂)
    (hwritten₁ : applyClass tag₁.text (tag₁.element 0 r.settings.pathMarker.name.text) name₁ =
      tag₁'.text)
    (hwritten₂ : applyClass tag₂.text (tag₂.element 0 r.settings.pathMarker.name.text) name₂ =
      tag₂'.text) :
    r.annotateBoth s today today' (front ++ (tag₁.text ++ (mid ++ (tag₂.text ++ back))))
        front.length (fun edited => (front ++ (tag₁.text ++ mid)).length + ((edited.length : Int) -
          (front ++ (tag₁.text ++ (mid ++ (tag₂.text ++ back)))).length)) =
      (r.base s).map fun _ =>
        (name₁, name₂, (front ++ (tag₁'.text ++ mid)) ++ (tag₂'.text ++ back)) := by
  have hfirst := annotate_tag (s := s) hrule hmarker today hname₁ hwritten₁
  -- The class in front moves the second tag, but not to another place in the tree.
  have hbehind : ancestors ((front ++ (tag₁'.text ++ mid)) ++ (tag₂.text ++ back))
      (front ++ (tag₁'.text ++ mid)).length =
        ancestors ((front ++ (tag₁.text ++ mid)) ++ (tag₂.text ++ back))
          (front ++ (tag₁.text ++ mid)).length := by
    have := halike.ancestors_behind hcomment front (mid ++ (tag₂.text ++ back)) mid.length
    simpa [Nat.add_assoc] using this
  have hsecond := annotate_tag (s := s) hrule hmarker today'
    ((congrArg (chainName r.settings) hbehind).trans hname₂) hwritten₂
  have hmoved : ((front ++ (tag₁.text ++ mid)).length : Int) +
      (((front ++ (tag₁'.text ++ (mid ++ (tag₂.text ++ back)))).length : Int) -
        (front ++ (tag₁.text ++ (mid ++ (tag₂.text ++ back)))).length) =
          (front ++ (tag₁'.text ++ mid)).length := by
    simp only [List.length_append]
    omega
  refine annotateBoth_eq hfirst ?_
  rw [hmoved]
  simpa using hsecond

/-- The tag behind is named first. -/
theorem annotateBoth_backward (today today' : Date)
    (hname₁ : r.placeName (front ++ (tag₁.text ++ (mid ++ (tag₂.text ++ back)))) front.length =
      name₁)
    (hname₂ : r.placeName ((front ++ (tag₁.text ++ mid)) ++ (tag₂.text ++ back))
      (front ++ (tag₁.text ++ mid)).length = name₂)
    (hwritten₁ : applyClass tag₁.text (tag₁.element 0 r.settings.pathMarker.name.text) name₁ =
      tag₁'.text)
    (hwritten₂ : applyClass tag₂.text (tag₂.element 0 r.settings.pathMarker.name.text) name₂ =
      tag₂'.text) :
    r.annotateBoth s today today' ((front ++ (tag₁.text ++ mid)) ++ (tag₂.text ++ back))
        (front ++ (tag₁.text ++ mid)).length (fun _ => front.length) =
      (r.base s).map fun _ =>
        (name₂, name₁, (front ++ (tag₁'.text ++ mid)) ++ (tag₂'.text ++ back)) := by
  have hfirst := annotate_tag (s := s) hrule hmarker today hname₂ hwritten₂
  have hbefore : ancestors (front ++ (tag₁.text ++ (mid ++ (tag₂'.text ++ back)))) front.length =
      ancestors (front ++ (tag₁.text ++ (mid ++ (tag₂.text ++ back)))) front.length :=
    tag₁.ancestors_append_eq front _ _ (Int.le_refl _)
  have hsecond := annotate_tag (s := s) hrule hmarker today'
    ((congrArg (chainName r.settings) hbefore).trans hname₁) hwritten₁
  refine annotateBoth_eq hfirst ?_
  simpa using hsecond

end Tags

/-- Two elements of a document, one behind the other, are given the same names and leave the same
document in whichever order they are named with the rule for the place in a document, unless the
class of the one in front is a bare value or its tag ends in `-->`. They are named if the file has
a context. -/
theorem annotateBoth_comm {e₁ e₂ : Element} {offset₁ offset₂ : Int}
    (hrule : r.selectRule = .ok Rule.beta)
    (hmarker : r.emitMarker.getD r.settings.pathMarker.enabled = false)
    (located₁ : locate? document offset₁ r.settings.pathMarker.name.text = some e₁)
    (located₂ : locate? document offset₂ r.settings.pathMarker.name.text = some e₂)
    (hle : e₁.stop ≤ e₂.start)
    (quoted : ∀ span, e₁.classSpan? = some span → span.isQuoted = true)
    (hcomment : ¬ ("-->" : Text) <:+ e₁.tagText document) (day₁ day₂ day₃ day₄ : Date) :
    r.annotateBoth s day₁ day₂ document e₁.start
        (fun edited => e₂.start + ((edited.length : Int) - document.length)) =
      (r.annotateBoth s day₃ day₄ document e₂.start fun _ => e₁.start).map
        (fun (name₂, name₁, edited) => (name₁, name₂, edited)) ∧
    ∀ context, Context.ofFile s r.path document e₁.start r.workspace = .ok context →
      ∃ made, r.annotateBoth s day₁ day₂ document e₁.start
        (fun edited => e₂.start + ((edited.length : Int) - document.length)) = .ok made := by
  obtain ⟨front, tag₁, back₁, rfl, rfl⟩ := Tag.exists_of_locate? located₁
  obtain ⟨front₂, tag₂, back, hdocument, rfl⟩ := Tag.exists_of_locate? located₂
  obtain ⟨mid, rfl, rfl⟩ := Tag.exists_between hdocument hle
  rw [Tag.tagText_element, Tag.mark_isSuffix_text_iff] at hcomment
  -- Each tag with the class for its place in the document as it was.
  obtain ⟨tag₁', hsets, hwritten₁⟩ := tag₁.exists_sets_applyClass 0
    r.settings.pathMarker.name.text
    ((r.isClassName_placeName tag₁ front (mid ++ (tag₂.text ++ back))).not_mem (c := '>')
      (by decide))
  obtain ⟨tag₂', -, hwritten₂⟩ := tag₂.exists_sets_applyClass 0 r.settings.pathMarker.name.text
    ((r.isClassName_placeName tag₂ (front ++ (tag₁.text ++ mid)) back).not_mem (c := '>')
      (by decide))
  have hquoted := Tag.quoted_of_element quoted
  have hiff : tag₁'.ClosesComment ↔ tag₁.ClosesComment :=
    ⟨hsets.closesComment hquoted, fun h => absurd h hcomment⟩
  have hforward := annotateBoth_forward (s := s) hrule hmarker day₁ day₂ (hsets.alike hquoted)
    hiff rfl rfl hwritten₁ hwritten₂
  have hbackward := annotateBoth_backward (s := s) hrule hmarker day₃ day₄ rfl rfl hwritten₁
    hwritten₂
  rw [← hdocument] at hbackward
  refine ⟨?_, fun context hcontext => ?_⟩
  · refine hforward.trans (Eq.trans ?_ (congrArg _ hbackward.symm))
    rw [hdocument]
    cases r.base s <;> rfl
  · obtain ⟨start, hstart⟩ := Context.exists_ofFile hcontext (Nat.zero_le ([] : Text).length)
    have hbase : r.base s = .ok start := congrArg (Except.mapError Fault.context) hstart
    rw [hbase] at hforward
    exact ⟨_, hforward⟩

theorem annotateBoth_comm_paragraph :
    ∃ made,
      paragraph.annotateBoth {} ⟨2024, 5, 1⟩ ⟨2024, 5, 2⟩ "<p class='a'>x<b>" (0 : Nat)
        (fun edited => (14 : Nat) + ((edited.length : Int) - ("<p class='a'>x<b>" : Text).length)) =
          .ok made ∧
      (paragraph.annotateBoth {} ⟨2024, 5, 3⟩ ⟨2024, 5, 4⟩ "<p class='a'>x<b>" (14 : Nat)
        fun _ => (0 : Nat)).map (fun (name₂, name₁, edited) => (name₁, name₂, edited)) =
          .ok made := by
  have located₁ : locate? ("<p class='a'>x<b>" : Text) 5 =
      some ⟨"p", 0, 13, [⟨"class", "a", 3, 12, 10, 11, .single⟩], defaultPathMarker⟩ := by
    decide +kernel
  have located₂ : locate? ("<p class='a'>x<b>" : Text) 15 =
      some ⟨"b", 14, 17, [], defaultPathMarker⟩ := by
    decide +kernel
  obtain ⟨context, hcontext⟩ : ∃ context, Context.ofFile {} paragraph.path "<p class='a'>x<b>"
      (0 : Nat) paragraph.workspace = .ok context := ⟨_, rfl⟩
  obtain ⟨hsame, hmade⟩ := annotateBoth_comm (r := paragraph) (s := {}) rfl rfl located₁ located₂
    (by decide) (by intro span hspan; cases hspan; rfl) (by decide)
    ⟨2024, 5, 1⟩ ⟨2024, 5, 2⟩ ⟨2024, 5, 3⟩ ⟨2024, 5, 4⟩
  obtain ⟨made, hok⟩ := hmade context hcontext
  exact ⟨made, hok, hsame.symm.trans hok⟩

end Generation.Request
end MarkupNaming
