import MarkupNaming.Proofs.Markup.Frame
import MarkupNaming.Proofs.Naming.ClassName
import MarkupNaming.Proofs.Naming.Context

/-!
# Lookahead

What stands behind the tag of an element decides neither where the element is found, nor which
tags are open at it, nor what it is named after them. Reading may look beyond the tag, for the end
of a comment or of a tag that is not closed, but what it finds there opens nothing in front of it.
-/
namespace MarkupNaming
open Text

namespace Markup

/-- A document that agrees with another one through a located tag has the tag in the same place. -/
theorem Tag.exists_eq_append_of_take {tag : Tag} {front back document : Text}
    (h : document.take (front.length + tag.text.length) =
      (front ++ (tag.text ++ back)).take (front.length + tag.text.length)) :
    ∃ back', document = front ++ (tag.text ++ back') := by
  have hfront : (front ++ (tag.text ++ back)).take (front.length + tag.text.length) =
      front ++ tag.text := by
    rw [← List.append_assoc]
    exact List.take_left' List.length_append
  refine ⟨document.drop (front.length + tag.text.length), ?_⟩
  rw [← List.append_assoc, ← hfront, ← h, List.take_append_drop]

end Markup

namespace Naming
open Markup

/-- Places with the same ancestors have the same name, in whichever documents of a file they are,
or the file has no context. -/
theorem map_generate_beta_congr {document document' : Text} {start start' : Nat}
    (hle : start ≤ document.length) (hle' : start' ≤ document'.length)
    (hchain : ancestors document' start' = ancestors document start) (s : Path.Surroundings)
    (path : Text) (workspace : Option Text) (settings : Settings) (today today' : Date) :
    (Context.ofFile s path document' start' workspace).map
        (Rule.beta.generate · settings today') =
      (Context.ofFile s path document start workspace).map
        (Rule.beta.generate · settings today) := by
  rw [Context.ofFile_eq_map s path workspace hle, Context.ofFile_eq_map s path workspace hle']
  cases Context.ofFile s path [] 0 workspace with
  | error fault => simp only [Except.map]
  | ok context =>
    have hmoved : (context.move document' start' hle').chain =
        (context.move document start hle).chain := by
      rw [Context.chain_move, Context.chain_move, hchain]
    simp only [Except.map, generate_beta_congr hmoved settings today today']

/-- In documents that agree through the tag of an element, the element is located alike, has the
same ancestors and is named alike by the rule for the place in a document. -/
theorem generate_beta_of_take_eq {document document' marker : Text} {offset : Int} {e : Element}
    (located : locate? document offset marker = some e)
    (h : document'.take e.stop = document.take e.stop) :
    locate? document e.start marker = some e ∧ locate? document' e.start marker = some e ∧
    ancestors document' e.start = ancestors document e.start ∧
    ∀ (s : Path.Surroundings) (path : Text) (workspace : Option Text) (settings : Settings)
      (today today' : Date),
      (Context.ofFile s path document' e.start workspace).map
          (Rule.beta.generate · settings today') =
        (Context.ofFile s path document e.start workspace).map
          (Rule.beta.generate · settings today) := by
  obtain ⟨front, tag, back, rfl, rfl⟩ := Tag.exists_of_locate? located
  obtain ⟨back', rfl⟩ := Tag.exists_eq_append_of_take h
  have hchain : ancestors (front ++ (tag.text ++ back')) front.length =
      ancestors (front ++ (tag.text ++ back)) front.length :=
    tag.ancestors_append_eq front back back' (Int.le_refl _)
  have hle (back : Text) : front.length ≤ (front ++ (tag.text ++ back)).length := by simp
  exact ⟨tag.locate?_append front back marker, tag.locate?_append front back' marker, hchain,
    map_generate_beta_congr (hle back) (hle back') hchain⟩

theorem generate_beta_of_take_eq_paragraph :
    ∃ e, locate? ("<i <b><p>x<!--" : Text) 7 = some e ∧
      locate? ("<i <b><p></i>" : Text) 6 = some e ∧
      ancestors "<i <b><p></i>" 6 = ancestors "<i <b><p>x<!--" 6 ∧
      (Context.ofFile {} "/a.html" "<i <b><p></i>" 6 none).map
          (Rule.beta.generate · .defaults ⟨2024, 5, 2⟩) =
        (Context.ofFile {} "/a.html" "<i <b><p>x<!--" 6 none).map
          (Rule.beta.generate · .defaults ⟨2024, 5, 1⟩) := by
  have located : locate? ("<i <b><p>x<!--" : Text) 7 =
      some ⟨"p", 6, 9, [], defaultPathMarker⟩ := by
    decide +kernel
  have hagree : ("<i <b><p></i>" : Text).take 9 = ("<i <b><p>x<!--" : Text).take 9 := by decide
  obtain ⟨-, hlocated, hchain, hname⟩ := generate_beta_of_take_eq located hagree
  exact ⟨_, located, hlocated, hchain, hname {} "/a.html" none .defaults ⟨2024, 5, 1⟩ ⟨2024, 5, 2⟩⟩

end Naming
end MarkupNaming
