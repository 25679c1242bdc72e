import MarkupNaming.Proofs.Naming.ClassName

/-!
# Parts of paths in names

What a name takes over from the path of a file. Labels, releases, hashes and names of tags bring
no blank, no quote and no `>` into a name. The segments of the path and the name of the file do:
they are cut, reversed and changed in case, but not cleaned. So a name has such a character exactly
if one of them has it.
-/
namespace MarkupNaming.Naming
open Text
variable {context context' : Context} {settings : Settings} {today today' : Date} {c : Code}

/-- The parts of the path of a file that a segment takes over. -/
def Segment.pathParts (context : Context) (settings : Settings) : Segment → List Text
  | reversedFileName => [context.fileName]
  | abbreviatedPath =>
    (stripLast (meaningfulSegments (splitPath context.relativePath))).map
      (upTo · settings.abbreviationLength.val)
  | _ => []

/-- The parts of the path of a file that a rule takes over. -/
def Rule.pathParts (rule : Rule) (context : Context) (settings : Settings) : List Text :=
  rule.segments.flatMap (·.pathParts context settings)

theorem mem_reversedName_iff (h : isPlain c = false) (nameCase : NameCase) (fileName : Text) :
    c ∈ reversedName nameCase fileName ↔ c ∈ fileName := by
  cases nameCase with
  | uppercase => exact (mem_upper_iff h).trans List.mem_reverse
  | lowercase => exact (mem_lower_iff h).trans List.mem_reverse
  | preserve => exact List.mem_reverse

theorem mem_abbreviate_iff (h : isPlain c = false) (segments : List Text) (length : Int) :
    c ∈ abbreviate segments length ↔ ∃ part ∈ segments.map (upTo · length), c ∈ part := by
  have hdash : c ∉ ("-" : Text) := by
    intro hc
    obtain rfl : c = '-' := by simpa using hc
    exact absurd h (by decide)
  simp only [abbreviate, mem_join_iff hdash, List.mem_map, exists_exists_and_eq_and,
    mem_lower_iff h]

/-- A segment has a character that is not plain exactly if a part of the path brings it. -/
theorem Segment.mem_generate_iff (h : isPlain c = false) {segment : Segment} {made : Text}
    (hmade : segment.generate context settings today = .ok made) :
    c ∈ made ↔ ∃ part ∈ segment.pathParts context settings, c ∈ part := by
  have hnone {t : Text} (ht : c ∈ t → isPlain c = true) :
      c ∈ t ↔ ∃ part ∈ ([] : List Text), c ∈ part := by
    refine iff_of_false (fun hc => ?_) (by simp)
    rw [ht hc] at h
    cases h
  have hhashed {t : Text} {length : Int}
      (ht : (if t.isEmpty then .ok [] else shortHash t length) = .ok made) :
      c ∈ made → isPlain c = true := by
    intro hc
    split at ht
    · cases ht
      cases hc
    · exact isPlain_of_mem_shortHash ht hc
  cases segment with
  | label =>
    cases hmade
    exact hnone isPlain_of_mem_sanitize
  | pathHash => exact hnone (hhashed hmade)
  | reversedFileName =>
    cases hmade
    rw [mem_reversedName_iff h, pathParts]
    simp
  | domHash => exact hnone (hhashed hmade)
  | abbreviatedDom =>
    cases hmade
    refine hnone fun hc => isPlain_of_mem_abbreviate (fun tag htag => ?_) hc
    exact Markup.isPlain_of_mem_ancestors (List.mem_filter.1 htag).1
  | abbreviatedPath =>
    cases hmade
    exact mem_abbreviate_iff h _ _
  | releaseName =>
    cases hmade
    refine hnone fun hc => ?_
    rw [releaseLabel] at hc
    split at hc <;> exact isPlain_of_mem_sanitize hc

theorem mem_compose_iff {separator : Text} {parts : List Text} (hc : c ∉ separator) :
    c ∈ compose separator parts ↔ ∃ part ∈ parts, c ∈ part := by
  rw [compose, mem_join_iff hc]
  constructor
  · rintro ⟨part, hpart, hc⟩
    exact ⟨part, (List.mem_filter.1 hpart).1, hc⟩
  · rintro ⟨part, hpart, hc⟩
    have hne : part ≠ [] := List.ne_nil_of_mem hc
    exact ⟨part, List.mem_filter.2 ⟨hpart, by simpa using hne⟩, hc⟩

namespace Rule
variable {rule : Rule} {name : Text}

/-- A name has a character that is not plain exactly if a part of the path brings it, unless the
separator has it. -/
theorem mem_generate_iff (h : isPlain c = false) (hseparator : c ∉ rule.separator)
    (hname : rule.generate context settings today = .ok name) :
    c ∈ name ↔ ∃ part ∈ rule.pathParts context settings, c ∈ part := by
  obtain ⟨parts, hparts, rfl⟩ := generate_eq_ok_iff.1 hname
  rw [mem_compose_iff hseparator, pathParts]
  clear hname
  generalize rule.segments = segments at hparts
  induction hparts with
  | nil => simp
  | cons hmade _ ih =>
    simp only [List.mem_cons, List.flatMap_cons, List.mem_append, or_and_right, exists_or,
      exists_eq_left, ih, Segment.mem_generate_iff h hmade]

/-! ## Preset rules -/

theorem isPlain_of_mem_separator (hpreset : rule ∈ presets) (hc : c ∈ rule.separator) :
    isPlain c = true := by
  have hall : ∀ rule ∈ presets, rule.separator.all isPlain = true := by decide
  exact List.all_eq_true.1 (hall rule hpreset) c hc

/-- A name that is made of plain parts of the path is the name of a class. -/
theorem isClassName_generate (hpreset : rule ∈ presets)
    (hplain : ∀ part ∈ rule.pathParts context settings, ∀ c ∈ part, isPlain c = true)
    (hname : rule.generate context settings today = .ok name) (hne : name ≠ []) :
    Markup.IsClassName name := by
  refine ⟨hne, fun c hc => ?_⟩
  cases h : isPlain c with
  | true => rfl
  | false =>
    have hseparator : c ∉ rule.separator := by
      intro hmem
      rw [isPlain_of_mem_separator hpreset hmem] at h
      cases h
    obtain ⟨part, hpart, hmem⟩ := (mem_generate_iff h hseparator hname).1 hc
    rw [hplain part hpart c hmem] at h
    cases h

/-- A preset rule depends on the path and on the tags around the place, but not on the day. -/
theorem generate_congr (hpreset : rule ∈ presets)
    (hpath : context'.relativePath = context.relativePath)
    (hfile : context'.fileName = context.fileName) (hchain : context'.chain = context.chain)
    (settings : Settings) (today today' : Date) :
    rule.generate context' settings today' = rule.generate context settings today := by
  have hsegment : ∀ segment ∈ rule.segments, segment.generate context' settings today' =
      segment.generate context settings today := by
    intro segment hsegment
    have hrelease : segment ≠ .releaseName := by
      have hnone : ∀ rule ∈ presets, .releaseName ∉ rule.segments := by decide
      rintro rfl
      exact hnone rule hpreset hsegment
    cases segment with
    | releaseName => exact absurd rfl hrelease
    | _ => simp only [Segment.generate, hpath, hfile, hchain]
  rw [generate, generate, mapM_congr hsegment]

end Rule
end MarkupNaming.Naming
