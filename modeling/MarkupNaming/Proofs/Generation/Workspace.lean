import MarkupNaming.Proofs.Generation.Repetition
import MarkupNaming.Proofs.Path

/-!
# Files of a workspace

Names depend on where a file is in its workspace and not on where the workspace is: the contexts
of the same file in a workspace that was moved differ in the absolute path, which no name reads.
And no two files are seen alike. From a workspace, what is in it is seen without the slash that
everything else starts with, and both are written so that they can be read again.
-/
namespace MarkupNaming
open Text

namespace Path
variable {s : Surroundings} {t workspace file : Text} {p q directory : Path}

/-- The path of a file that is given from a workspace. -/
def within (workspace file : Text) : Text := (ofText workspace ++ ofText file).text

/-- Whether a text is an absolute path in the form in which paths are written. -/
def IsNormalized (t : Text) : Prop := (ofText t).isAbsolute = true ∧ (ofText t).text = t

instance (t : Text) : Decidable (IsNormalized t) := inferInstanceAs (Decidable (_ ∧ _))

theorem absolute_of_isAbsolute (s : Surroundings) (h : (ofText t).isAbsolute = true) :
    absolute s t = .ok (ofText t) := by
  have hexpand : expandHome s (ofText t) = .ok (ofText t) := by
    unfold expandHome
    split
    · next hroot _ => simp [isAbsolute, hroot] at h
    · rfl
  rw [absolute, hexpand]
  exact congrArg Except.ok (append_of_isAbsolute _ h)

theorem isAbsolute_append (h : directory.isAbsolute = true) (p : Path) :
    (directory ++ p).isAbsolute = true := by
  cases hp : p.isAbsolute with
  | true => rwa [append_of_isAbsolute directory hp]
  | false =>
    rw [append_of_relative directory (by simpa [isAbsolute] using hp)]
    exact h

/-- A file in a directory has the name by which it is given. -/
theorem name_append (directory : Path) (h : p.root = .relative) (hne : p.components ≠ []) :
    (directory ++ p).name = p.name := by
  obtain ⟨front, last, hlast⟩ := (List.eq_nil_or_concat p.components).resolve_left hne
  rw [append_of_relative directory h, name, name, hlast]
  simp [← List.append_assoc]

/-- What follows a directory in a path that was read could be read alone. -/
theorem isCanonical_of_append (h : p.root = .relative) (hp : (directory ++ p).IsCanonical) :
    p.IsCanonical := by
  rw [append_of_relative directory h] at hp
  exact fun c hc => hp c (List.mem_append_right _ hc)

theorem ofText_within (workspace file : Text) :
    ofText (within workspace file) = ofText workspace ++ ofText file :=
  ofText_text ((isCanonical_ofText workspace).append (isCanonical_ofText file))

theorem absolute_within (s : Surroundings) (h : (ofText workspace).isAbsolute = true)
    (file : Text) : absolute s (within workspace file) = .ok (ofText workspace ++ ofText file) := by
  rw [← ofText_within]
  refine absolute_of_isAbsolute s ?_
  rw [ofText_within]
  exact isAbsolute_append h _

/-- A relative path is written without a slash at its start. -/
theorem head?_text_ne_slash (h : p.IsCanonical) (hroot : p.root = .relative) :
    p.text.head? ≠ some (.char '/') := by
  intro hslash
  obtain ⟨rest, hrest⟩ := List.head?_eq_some_iff.1 hslash
  have hread : rootOf p.text = .relative := by
    rw [← hroot]
    exact congrArg Path.root (ofText_text h)
  rw [hrest, rootOf.eq_def] at hread
  split at hread <;> simp_all

end Path

namespace Naming
open MarkupNaming.Path

/-! ## What is seen from a workspace -/

section Seen
variable {s : Surroundings} {p q : Path} {root : Option Path} {path : Text}
  {workspace : Option Text}

theorem relativePath_eq (hroot : workspacePath s workspace = .ok root)
    (hpath : (ofText path).isAbsolute = true) :
    relativePath s path workspace = .ok (pathFrom root (ofText path)) := by
  rw [relativePath, absolute_of_isAbsolute s hpath, hroot]
  rfl

/-- A path is seen as what follows the workspace, or as it is. -/
theorem pathFrom_cases (root : Option Path) (p : Path) :
    (∃ directory file, root = some directory ∧ file.root = .relative ∧ p = directory ++ file ∧
      pathFrom root p = file.text) ∨
    (∀ directory, root = some directory → p.relativeTo? directory = none) ∧
      pathFrom root p = p.text := by
  cases hseen : root.bind p.relativeTo? with
  | some file =>
    obtain ⟨directory, rfl, hfile⟩ := Option.bind_eq_some_iff.1 hseen
    obtain ⟨hrelative, hp⟩ := relativeTo?_eq_some_iff.1 hfile
    exact .inl ⟨directory, file, rfl, hrelative, hp, by rw [pathFrom, hseen, Option.getD_some]⟩
  | none =>
    refine .inr ⟨fun directory hroot => ?_, by rw [pathFrom, hseen, Option.getD_none]⟩
    rwa [hroot, Option.bind_some] at hseen

/-- No two absolute paths are seen alike. -/
theorem pathFrom_injective (hp : p.IsCanonical) (hq : q.IsCanonical)
    (habsolute : p.isAbsolute = true) (habsolute' : q.isAbsolute = true)
    (h : pathFrom root p = pathFrom root q) : p = q := by
  -- What follows the workspace is relative, so it is written unlike what is outside.
  have hne {file outside : Path} (hfile : file.IsCanonical) (houtside : outside.IsCanonical)
      (hrelative : file.root = .relative) (hrooted : outside.isAbsolute = true) :
      file.text ≠ outside.text := by
    intro heq
    rw [← text_injective hfile houtside heq, isAbsolute, hrelative] at hrooted
    cases hrooted
  rcases pathFrom_cases root p with ⟨directory, file, rfl, hfile, rfl, hseen⟩ | ⟨-, hseen⟩
  · have hcanonical := isCanonical_of_append hfile hp
    rcases pathFrom_cases (some directory) q with
      ⟨directory', file', hroot, hfile', rfl, hseen'⟩ | ⟨-, hseen'⟩
    · obtain rfl := Option.some.inj hroot
      have hcanonical' := isCanonical_of_append hfile' hq
      rw [hseen, hseen'] at h
      rw [text_injective hcanonical hcanonical' h]
    · rw [hseen, hseen'] at h
      exact absurd h (hne hcanonical hq hfile habsolute')
  · rcases pathFrom_cases root q with ⟨directory, file, rfl, hfile, rfl, hseen'⟩ | ⟨-, hseen'⟩
    · rw [hseen, hseen'] at h
      exact absurd h.symm (hne (isCanonical_of_append hfile hq) hp hfile habsolute)
    · rw [hseen, hseen'] at h
      exact text_injective hp hq h

end Seen

/-! ## A workspace that was moved -/

namespace Context
variable {settings : Settings} {today : Date} {workspace workspace' file : Text}

/-- A context with another absolute path. -/
def relocate (context : Context) (filePath : Text) : Context := { context with filePath }

@[simp] theorem generate_relocate (rule : Rule) (context : Context) (filePath : Text) :
    rule.generate (context.relocate filePath) settings today =
      rule.generate context settings today := by
  have hsegment (segment : Segment) : segment.generate (context.relocate filePath) settings today =
      segment.generate context settings today := by
    cases segment <;> rfl
  rw [Rule.generate, Rule.generate, mapM_congr fun segment _ => hsegment segment]

@[simp] theorem markerValue_relocate (context : Context) (filePath : Text) :
    markerValue (context.relocate filePath) settings = markerValue context settings := rfl

section
variable (s s' : Surroundings) (hworkspace : (ofText workspace).isAbsolute = true)
  (hworkspace' : (ofText workspace').isAbsolute = true) (hfile : (ofText file).root = .relative)
  (hne : (ofText file).components ≠ []) (document : Text) (offset : Int)
include hworkspace hfile hne

/-- In its workspace, a file is seen under the path by which it is given. -/
theorem ofFile_within : ofFile s (within workspace file) document offset (some workspace) =
    make (within workspace file) (ofText file).text (ofText file).stem (ofText file).extension
      offset document := by
  have hroot : workspacePath s (some workspace) = .ok (some (ofText workspace)) := by
    simp only [workspacePath, Option.mapM_some, absolute_of_isAbsolute s hworkspace]
    rfl
  have hseen : pathFrom (some (ofText workspace)) (ofText workspace ++ ofText file) =
      (ofText file).text := by
    rw [pathFrom, Option.bind_some, relativeTo?_eq_some_iff.2 ⟨hfile, rfl⟩, Option.getD_some]
  have hname := name_append (ofText workspace) hfile hne
  unfold ofFile
  rw [absolute_within s hworkspace, hroot]
  change make _ (pathFrom (some _) _) _ _ _ _ = _
  rw [hseen, stem, extension, hname]
  rfl

include hworkspace'

/-- Moving a workspace changes the absolute paths of its files only. -/
theorem ofFile_moved : ofFile s' (within workspace' file) document offset (some workspace') =
    (ofFile s (within workspace file) document offset (some workspace)).map
      (·.relocate (within workspace' file)) := by
  rw [ofFile_within s hworkspace hfile hne, ofFile_within s' hworkspace' hfile hne, make, make]
  split <;> rfl

end

end Context
end Naming

namespace Generation
open MarkupNaming.Path Naming

namespace Request
variable {r : Request} {rule : Rule} {today : Date} {workspace workspace' file : Text}

/-- A request for a file of a workspace. -/
def within (r : Request) (workspace file : Text) : Request :=
  { r with path := Path.within workspace file, workspace := some workspace }

@[simp] theorem selectRule_within : (r.within workspace file).selectRule = r.selectRule := rfl

@[simp] theorem document_within : (r.within workspace file).document = r.document := rfl

theorem nameElement_relocate (document : Text) (e : Markup.Element) (context : Context)
    (filePath name : Text) :
    (r.within workspace' file).nameElement rule document e (context.relocate filePath) today name =
      (r.within workspace file).nameElement rule document e context today name := by
  simp only [nameElement, Context.markerValue_relocate]
  rfl

section
variable (r) (s s' : Surroundings) (hworkspace : (ofText workspace).isAbsolute = true)
  (hworkspace' : (ofText workspace').isAbsolute = true) (hfile : (ofText file).root = .relative)
  (hne : (ofText file).components ≠ []) (today : Date)
include hworkspace hworkspace' hfile hne

/-- A request for a file of a workspace ends alike wherever the workspace is. -/
theorem generate_moved :
    (r.within workspace' file).generate s' today = (r.within workspace file).generate s today := by
  cases hrule : r.selectRule with
  | error fault =>
    have herror (workspace : Text) (s : Surroundings) :
        (r.within workspace file).generate s today = .error (.rule fault) :=
      generate_of_ruleFault (selectRule_within.trans hrule)
    rw [herror, herror]
  | ok rule =>
    have hrule (workspace : Text) : (r.within workspace file).selectRule = .ok rule :=
      selectRule_within.trans hrule
    cases hdocument : r.document with
    | error fault =>
      have herror (workspace : Text) (s : Surroundings) :
          (r.within workspace file).generate s today = .error (.document fault) :=
        generate_of_documentFault (hrule workspace) (document_within.trans hdocument)
      rw [herror, herror]
    | ok document =>
      have hdocument (workspace : Text) : (r.within workspace file).document = .ok document :=
        document_within.trans hdocument
      cases located : Markup.locate? document r.offset r.settings.pathMarker.name.text with
      | none =>
        have hnone (workspace : Text) (s : Surroundings) :
            (r.within workspace file).generate s today =
              .ok { status := .notFound, rule := rule, document := document } :=
          generate_of_notFound (hrule workspace) (hdocument workspace) located
        rw [hnone, hnone]
      | some e =>
        have hmoved :=
          Context.ofFile_moved s s' hworkspace hworkspace' hfile hne document e.start
        cases hcontext : Context.ofFile s (Path.within workspace file) document e.start
            (some workspace) with
        | error fault =>
          rw [hcontext] at hmoved
          rw [generate_of_contextFault (hrule workspace) (hdocument workspace) located hcontext]
          exact generate_of_contextFault (hrule workspace') (hdocument workspace') located hmoved
        | ok context =>
          rw [hcontext] at hmoved
          rw [generate_eq_map (hrule workspace) (hdocument workspace) located hcontext,
            generate_eq_map (hrule workspace') (hdocument workspace') located hmoved,
            Context.generate_relocate]
          change ((rule.generate context r.settings today).mapError _).map _ =
            ((rule.generate context r.settings today).mapError _).map _
          cases rule.generate context r.settings today with
          | error fault => rfl
          | ok name => exact congrArg Except.ok (nameElement_relocate document e context _ name)

theorem apply_moved :
    (r.within workspace' file).apply s' today = (r.within workspace file).apply s today := by
  rw [apply_eq, apply_eq, generate_moved r s s' hworkspace hworkspace' hfile hne]
  rfl

end

end Request

/-- The names of a file depend on where it is in its workspace and not on where the workspace is,
and from any workspace, different files are seen under different paths. -/
theorem names_in_workspace :
    (∀ (s s' : Surroundings) (workspace workspace' file : Text),
      (ofText workspace).isAbsolute = true → (ofText workspace').isAbsolute = true →
      (ofText file).root = .relative → (ofText file).components ≠ [] →
      (∀ (document : Text) (offset : Int), 0 ≤ offset → offset ≤ document.length →
        ∃ context context', Context.ofFile s (Path.within workspace file) document offset
            (some workspace) = .ok context ∧
          Context.ofFile s' (Path.within workspace' file) document offset
            (some workspace') = .ok context' ∧
          context'.relativePath = context.relativePath ∧
          context'.fileName = context.fileName ∧
          context'.fileExtension = context.fileExtension ∧
          (∀ rule settings today, Rule.generate rule context' settings today =
            rule.generate context settings today) ∧
          ∀ settings, markerValue context' settings = markerValue context settings) ∧
      ∀ (r : Request) (today : Date),
        (r.within workspace' file).generate s' today =
          (r.within workspace file).generate s today ∧
        (r.within workspace' file).apply s' today = (r.within workspace file).apply s today) ∧
    ∀ (s : Surroundings) (workspace : Option Text) (root : Option Path),
      workspacePath s workspace = .ok root → ∀ path, IsNormalized path →
      ∃ seen, relativePath s path workspace = .ok seen ∧
        ((∃ directory file, root = some directory ∧ ofText path = directory ++ file ∧
            file.root = .relative ∧ seen = file.text ∧ seen.head? ≠ some (.char '/')) ∨
          (∀ directory, root = some directory → (ofText path).relativeTo? directory = none) ∧
            seen = path) ∧
        ∀ path', IsNormalized path' → relativePath s path' workspace = .ok seen →
          path' = path := by
  constructor
  · intro s s' workspace workspace' file hworkspace hworkspace' hfile hne
    refine ⟨fun document offset hnonneg hle => ?_, fun r today =>
      ⟨r.generate_moved s s' hworkspace hworkspace' hfile hne today,
        r.apply_moved s s' hworkspace hworkspace' hfile hne today⟩⟩
    have hmoved := Context.ofFile_moved s s' hworkspace hworkspace' hfile hne document offset
    obtain ⟨context, hcontext⟩ : ∃ context, Context.ofFile s (Path.within workspace file) document
        offset (some workspace) = .ok context :=
      ⟨_, (Context.ofFile_within s hworkspace hfile hne document offset).trans
        (dif_pos ⟨hnonneg, hle⟩)⟩
    rw [hcontext] at hmoved
    exact ⟨context, _, hcontext, hmoved, rfl, rfl, rfl,
      fun rule settings today => Context.generate_relocate rule context _, fun settings => rfl⟩
  · intro s workspace root hroot path hpath
    refine ⟨_, relativePath_eq hroot hpath.1, ?_, fun path' hpath' hseen => ?_⟩
    · rcases pathFrom_cases root (ofText path) with
        ⟨directory, file, rfl, hfile, hinside, hseen⟩ | ⟨houtside, hseen⟩
      · have hread := isCanonical_ofText path
        rw [hinside] at hread
        have hcanonical := isCanonical_of_append hfile hread
        rw [hseen]
        exact .inl ⟨directory, file, rfl, hinside, hfile, rfl, head?_text_ne_slash hcanonical hfile⟩
      · exact .inr ⟨houtside, hseen.trans hpath.2⟩
    · rw [relativePath_eq hroot hpath'.1] at hseen
      have heq := pathFrom_injective (isCanonical_ofText path') (isCanonical_ofText path)
        hpath'.1 hpath.1 (Except.ok.inj hseen)
      rw [← hpath'.2, heq, hpath.2]

theorem names_in_workspace_server :
    (∃ context context', Context.ofFile {} (Path.within "/w" "a//../b.tar.gz") "<p>" 0
        (some "/w") = .ok context ∧
      Context.ofFile {} (Path.within "//srv/./x/" "a//../b.tar.gz") "<p>" 0
        (some "//srv/./x/") = .ok context' ∧
      context'.relativePath = context.relativePath ∧
      Rule.alpha.generate context' .defaults ⟨2024, 5, 1⟩ =
        Rule.alpha.generate context .defaults ⟨2024, 5, 1⟩) ∧
    ∃ seen, relativePath {} "/w/a" (some "/") = .ok seen ∧ seen.head? ≠ some (.char '/') ∧
      relativePath {} "//w/a" (some "/") ≠ .ok seen := by
  constructor
  · obtain ⟨context, context', hcontext, hcontext', hrelative, -, -, hname, -⟩ :=
      (names_in_workspace.1 {} {} "/w" "//srv/./x/" "a//../b.tar.gz" (by decide) (by decide)
        (by decide) (by decide)).1 "<p>" 0 (by decide) (by decide)
    exact ⟨context, context', hcontext, hcontext', hrelative, hname _ _ _⟩
  · obtain ⟨seen, hseen, hform, hinjective⟩ :=
      names_in_workspace.2 {} (some "/") (some ⟨.single, []⟩) rfl "/w/a" (by decide)
    refine ⟨seen, hseen, ?_, fun hother => ?_⟩
    · rcases hform with ⟨-, -, -, -, -, -, hhead⟩ | ⟨houtside, -⟩
      · exact hhead
      · exact absurd (houtside _ rfl) (by decide)
    · exact absurd (hinjective "//w/a" (by decide) hother) (by decide)

end Generation
end MarkupNaming
