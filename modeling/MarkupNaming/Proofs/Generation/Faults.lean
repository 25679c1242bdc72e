import MarkupNaming.Diagnostics.Trail
import MarkupNaming.Proofs.Files.Writing
import MarkupNaming.Proofs.Generation.Repetition
import MarkupNaming.Proofs.Path
import MarkupNaming.Proofs.Text.Decoding

/-!
# Faults of requests

What comes of a request, whatever it asks for. Hosts expect the problems of generation itself: an
unknown rule or segment and a document that cannot be read. Four faults are of other kinds: those
of a path that no system takes, of bytes that are no text, of a home directory that is not known
and of a path that cannot be hashed. The offset of an element is never outside of its document.
-/
namespace MarkupNaming
open Text

namespace FileTree
variable {t : FileTree} {directory p : Path} {reason : FileReason} {fault : FileFault}

theorem number?_of_walk {start : Place} {names : List FileName}
    (h : t.walk start names = .error reason) : reason.number?.isSome = true := by
  induction names generalizing start with
  | nil => cases h
  | cons name names ih =>
    rw [walk] at h
    split at h
    · cases h
      rfl
    · cases h
      rfl
    · split at h
      · cases h
        rfl
      · exact ih h

/-- Whether a path followed from a directory can be that of a file, which has no NUL character and
no surrogate that stands for no byte. -/
def CanName (directory p : Path) : Prop :=
  .char '\x00' ∉ p.text ∧ Utf8.IsNameable (directory ++ p).text

/-- A path that is followed is written within the whole one, but for slashes and dots. -/
theorem isNameable_of_append (h : Utf8.IsNameable (directory ++ p).text) :
    Utf8.IsNameable p.text := by
  rw [Path.isNameable_text_iff] at h ⊢
  cases hroot : p.isAbsolute with
  | true => rwa [Path.append_of_isAbsolute directory hroot] at h
  | false =>
    have hrelative : p.root = .relative := by simpa [Path.isAbsolute] using hroot
    rw [Path.append_of_relative directory hrelative] at h
    exact fun part hpart => h part (List.mem_append_right _ hpart)

/-- The system reports why nothing is at a path, unless the path cannot be that of a file. -/
theorem number?_of_place (h : t.place directory p = .error reason) :
    reason.number?.isSome = true ↔ CanName directory p := by
  rw [place] at h
  split at h
  · next hwritten =>
    cases h
    refine iff_of_false (by simp [FileReason.number?]) fun ⟨_, hname⟩ => ?_
    obtain ⟨bytes, hbytes⟩ := Utf8.exists_encode_escape_iff.2 (isNameable_of_append hname)
    cases hbytes.symm.trans hwritten
  · next hnames =>
    cases h
    refine iff_of_false (by simp [FileReason.number?]) fun ⟨_, hname⟩ => ?_
    obtain ⟨names, hsome⟩ := Path.exists_names_iff.2 hname
    cases hsome.symm.trans hnames
  · next names _ hnames =>
    have hname := Path.exists_names_iff.1 ⟨names, hnames⟩
    split at h
    · next hnul =>
      cases h
      exact iff_of_false (by decide) fun ⟨hnone, _⟩ => hnone hnul
    · next hnul =>
      refine iff_of_true ?_ ⟨hnul, hname⟩
      split at h
      · cases h
        rfl
      · exact number?_of_walk h

theorem canName_of_place {place : Place} (h : t.place directory p = .ok place) :
    CanName directory p := by
  obtain ⟨_, names, -, hnul, -, hnames, -⟩ := place_eq_ok_iff.1 h
  exact ⟨hnul, Path.exists_names_iff.1 ⟨names, hnames⟩⟩

/-- The system reports why a file cannot be read, unless its path cannot be that of a file. -/
theorem isReported_of_read (h : t.read directory p = .error fault) :
    fault.isReported = true ↔ CanName directory p := by
  rw [read] at h
  split at h
  · next reason hplace =>
    cases h
    exact number?_of_place hplace
  · next place hplace =>
    refine iff_of_true ?_ (canName_of_place hplace)
    split at h
    · cases h
    all_goals
      cases h
      rfl

theorem canName_of_read {content : List UInt8} (h : t.read directory p = .ok content) :
    CanName directory p := by
  rw [read] at h
  split at h
  · cases h
  · next place hplace => exact canName_of_place hplace

end FileTree

namespace Path
variable {s : Surroundings} {t : Text}

/-- Whether a path starts at a home directory that is not known, as the name of its owner is not
known or can be none. -/
def IsHomeless (s : Surroundings) (t : Text) : Prop :=
  ∃ owner rest, ofText t = ⟨.relative, (.char '~' :: owner) :: rest⟩ ∧
    (.char '\x00' ∈ owner ∨ ∀ bytes, Utf8.encode .escape owner = .ok bytes →
      s.homes.lookup bytes = none)

theorem IsHomeless.isAbsolute_eq_false {p : Path} (h : IsHomeless s p.text) :
    p.isAbsolute = false := by
  obtain ⟨owner, rest, hread, -⟩ := h
  cases habsolute : p.isAbsolute with
  | false => rfl
  | true =>
    have hwritten := isAbsolute_ofText_text habsolute
    rw [hread] at hwritten
    cases hwritten

/-- A path cannot be made absolute exactly if its home directory is not known. -/
theorem exists_absolute_error_iff : (∃ fault, absolute s t = .error fault) ↔ IsHomeless s t := by
  unfold absolute expandHome IsHomeless
  split
  · next owner rest hroot hcomponents =>
    have hread : ofText t = ⟨.relative, (.char '~' :: owner) :: rest⟩ := by
      rw [← hroot, ← hcomponents]
    have hiff : (∃ owner' rest', ofText t = ⟨.relative, (.char '~' :: owner') :: rest'⟩ ∧
          (.char '\x00' ∈ owner' ∨ ∀ bytes, Utf8.encode .escape owner' = .ok bytes →
            s.homes.lookup bytes = none)) ↔
        .char '\x00' ∈ owner ∨ ∀ bytes, Utf8.encode .escape owner = .ok bytes →
          s.homes.lookup bytes = none := by
      simp [hread]
    rw [hiff]
    cases Utf8.encode .escape owner with
    | error fault => simp [Except.map]
    | ok bytes =>
      by_cases hnul : .char '\x00' ∈ owner
      · simp [Except.map, hnul]
      · simp only [hnul, if_false, false_or, Except.ok.injEq, forall_eq']
        cases s.homes.lookup bytes <;> simp [Except.map]
  · next hother =>
    refine iff_of_false (by simp [Except.map]) ?_
    rintro ⟨owner, rest, hread, -⟩
    exact hother owner rest (congrArg Path.root hread) (congrArg Path.components hread)

end Path

namespace Generation
open Naming Markup Diagnostics

/-- The kinds of problems of generation itself. -/
def problemKinds : List Text :=
  ["CssGpsError", "ConfigurationError", "UnknownRuleError", "UnknownOptionError", "PositionError"]

theorem kind_fileProblem (f : FileFault) : (fileProblem f).kind = reasonKind f.reason := by
  unfold fileProblem
  dsimp only
  split
  · next fault hreason =>
    rw [hreason]
    rfl
  · split <;> rfl

theorem reasonKind_notMem (reason : FileReason) : reasonKind reason ∉ problemKinds := by
  cases reason with
  | unencodable fault =>
    change ("UnicodeEncodeError" : Text) ∉ problemKinds
    decide
  | _ => decide

namespace Fault

/-- The kind of problem that a fault is. -/
def kind (fault : Fault) : Text := ((trail fault).head?.map (·.kind)).getD []

/-- Whether a fault is a problem of generation itself, as hosts expect. -/
def IsExpected (fault : Fault) : Prop := fault.kind ∈ problemKinds

instance (fault : Fault) : Decidable fault.IsExpected := inferInstanceAs (Decidable (_ ∈ _))

theorem isExpected_rule (f : RuleFault) : IsExpected (.rule f) := by
  cases f with
  | unknownRule id known =>
    change ("UnknownRuleError" : Text) ∈ problemKinds
    decide
  | unknownSegment fault =>
    change ("UnknownOptionError" : Text) ∈ problemKinds
    decide

theorem isExpected_document (f : DocumentFault) :
    IsExpected (.document f) ↔ ∃ fault, f = .unreadable fault := by
  cases f with
  | unreadable fault =>
    refine iff_of_true ?_ ⟨fault, rfl⟩
    change ("CssGpsError" : Text) ∈ problemKinds
    decide
  | path fault =>
    refine iff_of_false ?_ nofun
    change (fileProblem fault).kind ∉ problemKinds
    rw [kind_fileProblem]
    exact reasonKind_notMem fault.reason
  | undecodable content fault =>
    refine iff_of_false ?_ nofun
    change ("UnicodeDecodeError" : Text) ∉ problemKinds
    decide

theorem not_isExpected_context (f : ContextFault) : ¬IsExpected (.context f) := by
  have hvalue : ("ValueError" : Text) ∉ problemKinds := by decide
  have hruntime : ("RuntimeError" : Text) ∉ problemKinds := by decide
  have hencode : ("UnicodeEncodeError" : Text) ∉ problemKinds := by decide
  cases f with
  | outside offset length => exact hvalue
  | home fault =>
    cases fault with
    | unknown => exact hruntime
    | nulInOwner => exact hvalue
    | unencodable fault => exact hencode

theorem not_isExpected_encoding (f : Utf8.Unencodable) (reported : List Event) :
    ¬IsExpected (.encoding f reported) := by
  change ("UnicodeEncodeError" : Text) ∉ problemKinds
  decide

end Fault

/-! ## Reading a document -/

/-- A file holds a document that cannot be read as one, or its path cannot be that of a file. -/
theorem exists_unexpected_document_iff {files : FileTree} {directory p : Path} :
    (∃ fault, readDocument files directory p = .error fault ∧
        ¬Fault.IsExpected (.document fault)) ↔
      ¬FileTree.CanName directory p ∨ ∃ content, files.read directory p = .ok content ∧
        ∀ t, Utf8.encode .strict t ≠ .ok content := by
  unfold readDocument
  cases hread : files.read directory p with
  | error fault =>
    have hreported := FileTree.isReported_of_read hread
    by_cases hname : FileTree.CanName directory p
    · simp [Fault.isExpected_document, hname, hreported.2 hname]
    · have : fault.isReported = false := by simpa [hname] using hreported
      simp [Fault.isExpected_document, hname, this]
  | ok content =>
    have hname := FileTree.canName_of_read hread
    cases hdecode : Utf8.decode content with
    | error fault =>
      have hcontent : ∀ t, Utf8.encode .strict t ≠ .ok content := by
        intro t hencode
        cases hdecode.symm.trans (Utf8.decode_of_encode hencode)
      simp [Fault.isExpected_document, Except.mapError, hcontent, hdecode]
    | ok t =>
      have hcontent : ∃ t, Utf8.encode .strict t = .ok content := ⟨t, Utf8.encode_decode hdecode⟩
      simp [Except.mapError, hname, hcontent, hdecode]

/-! ## Hashing a path -/

theorem exists_shortHash_eq_error_iff {t : Text} {length : Int} :
    (∃ fault, shortHash t length = .error fault) ↔ ¬Utf8.IsEncodable t := by
  rw [← exists_shortHash_iff]
  cases shortHash t length <;> simp

/-- A segment cannot be made exactly if it is the hash of a path that has no bytes. -/
theorem exists_segment_eq_error_iff {segment : Segment} {context : Context} {settings : Settings}
    {today : Date} : (∃ fault, segment.generate context settings today = .error fault) ↔
      segment = .pathHash ∧ ¬Utf8.IsEncodable context.relativePath := by
  cases segment with
  | pathHash =>
    rw [Segment.generate]
    split
    · next hempty =>
      rw [List.isEmpty_iff.1 hempty]
      simp [Utf8.IsEncodable]
    · simp [exists_shortHash_eq_error_iff]
  | domHash =>
    refine iff_of_false ?_ (by simp)
    rw [Segment.generate]
    split
    · rintro ⟨fault, hfault⟩
      cases hfault
    · rw [exists_shortHash_eq_error_iff, not_not]
      exact isEncodable_chainText_ancestors context.document context.offset
  | _ => simp [Segment.generate]

theorem exists_rule_eq_error_iff {rule : Rule} {context : Context} {settings : Settings}
    {today : Date} : (∃ fault, rule.generate context settings today = .error fault) ↔
      .pathHash ∈ rule.segments ∧ ¬Utf8.IsEncodable context.relativePath := by
  have hmap : (∃ fault, rule.generate context settings today = .error fault) ↔
      ∃ fault, rule.segments.mapM (Segment.generate context settings today) = .error fault := by
    rw [Rule.generate]
    cases rule.segments.mapM (Segment.generate context settings today) <;> simp [Except.map]
  rw [hmap, exists_mapM_eq_error_iff]
  simp only [exists_segment_eq_error_iff]
  constructor
  · rintro ⟨segment, hmem, rfl, hpath⟩
    exact ⟨hmem, hpath⟩
  · rintro ⟨hmem, hpath⟩
    exact ⟨_, hmem, rfl, hpath⟩

/-! ## Requests -/

namespace Request
variable {r : Request} {s : Path.Surroundings} {files : FileTree} {given : Option Text}
  {today : Date}

/-- A request for a text that is given, or else for what is in the file of its path. -/
def reading (r : Request) (s : Path.Surroundings) (files : FileTree) (given : Option Text) :
    Request :=
  { r with
    document :=
      match given with
      | some t => .ok t
      | none => readDocument files s.directory (.ofText r.path) }

/-- The ways in which a request that has its rule can end in a fault of another kind than those
of generation. -/
inductive Escapes (s : Path.Surroundings) (files : FileTree) (r : Request) (given : Option Text)
    (rule : Rule) : Prop
  /-- The path of a document that is read has a NUL character, or a surrogate that stands for no
  byte. -/
  | path (hgiven : given = none) (hname : ¬FileTree.CanName s.directory (.ofText r.path))
  /-- A file that is read holds bytes that are no text. -/
  | bytes {content : List UInt8} (hgiven : given = none)
    (hread : files.read s.directory (.ofText r.path) = .ok content)
    (hcontent : ∀ t, Utf8.encode .strict t ≠ .ok content)
  /-- An element is located, and the document or the workspace is in an unknown home directory. -/
  | home {document : Text} {e : Element}
    (hdocument : (r.reading s files given).document = .ok document)
    (located : locate? document r.offset r.settings.pathMarker.name.text = some e)
    (hhome : Path.IsHomeless s r.path ∨ ∃ workspace ∈ r.workspace, Path.IsHomeless s workspace)
  /-- An element is located, and its name takes the hash of a path that has no bytes. -/
  | hash {document : Text} {e : Element} {context : Context}
    (hdocument : (r.reading s files given).document = .ok document)
    (located : locate? document r.offset r.settings.pathMarker.name.text = some e)
    (hcontext : Context.ofFile s r.path document e.start r.workspace = .ok context)
    (hsegment : .pathHash ∈ rule.segments) (hpath : ¬Utf8.IsEncodable context.relativePath)

/-- At a place of its document, a file has no context exactly if its home directory or that of the
workspace is not known. -/
theorem exists_context_error_iff {path document : Text} {workspace : Option Text} {start : Nat}
    (hle : start ≤ document.length) :
    (∃ fault, Context.ofFile s path document start workspace = .error fault) ↔
      Path.IsHomeless s path ∨ ∃ w ∈ workspace, Path.IsHomeless s w := by
  have hinside : (0 : Int) ≤ start ∧ (start : Int) ≤ document.length := by omega
  have hroot : (∃ fault, workspacePath s workspace = .error fault) ↔
      ∃ w ∈ workspace, Path.IsHomeless s w := by
    cases workspace with
    | none => exact iff_of_false nofun nofun
    | some w =>
      simp only [workspacePath, Option.mapM_some, Option.mem_some_iff, exists_eq_left',
        ← Path.exists_absolute_error_iff]
      cases Path.absolute s w with
      | error fault => exact iff_of_true ⟨_, rfl⟩ ⟨_, rfl⟩
      | ok p => exact iff_of_false nofun nofun
  rw [← hroot, ← Path.exists_absolute_error_iff, Context.ofFile]
  cases Path.absolute s path with
  | error fault => exact iff_of_true ⟨_, rfl⟩ (.inl ⟨_, rfl⟩)
  | ok p =>
    cases workspacePath s workspace with
    | error fault => exact iff_of_true ⟨_, rfl⟩ (.inr ⟨_, rfl⟩)
    | ok root =>
      refine iff_of_false ?_ (by simp)
      rintro ⟨fault, h⟩
      cases (dif_pos hinside).symm.trans h

theorem start_le_of_locate? {document marker : Text} {offset : Int} {e : Element}
    (located : locate? document offset marker = some e) : e.start ≤ document.length := by
  obtain ⟨front, tag, back, rfl, rfl⟩ := Tag.exists_of_locate? located
  change front.length ≤ _
  simp

theorem escapes_of_generate {rule : Rule} {fault : Fault} (hrule : r.selectRule = .ok rule)
    (h : (r.reading s files given).generate s today = .error fault) (hkind : ¬fault.IsExpected) :
    Escapes s files r given rule := by
  have hselected : (r.reading s files given).selectRule = .ok rule := hrule
  cases hdocument : (r.reading s files given).document with
  | error fault =>
    rw [generate_of_documentFault hselected hdocument] at h
    obtain rfl := Except.error.inj h
    cases given with
    | some t => cases hdocument
    | none =>
      rcases exists_unexpected_document_iff.1 ⟨fault, hdocument, hkind⟩ with
        hname | ⟨content, hread, hcontent⟩
      · exact .path rfl hname
      · exact .bytes rfl hread hcontent
  | ok document =>
    cases located : locate? document r.offset r.settings.pathMarker.name.text with
    | none =>
      rw [generate_of_notFound hselected hdocument located] at h
      cases h
    | some e =>
      cases hcontext : Context.ofFile s r.path document e.start r.workspace with
      | error fault =>
        exact .home hdocument located
          ((exists_context_error_iff (start_le_of_locate? located)).1 ⟨fault, hcontext⟩)
      | ok context =>
        rw [generate_eq_map hselected hdocument located hcontext] at h
        have hname : ∃ fault, rule.generate context r.settings today = .error fault := by
          change ((rule.generate context r.settings today).mapError _).map _ = _ at h
          cases hname : rule.generate context r.settings today with
          | error fault => exact ⟨fault, rfl⟩
          | ok name =>
            rw [hname] at h
            cases h
        obtain ⟨hsegment, hpath⟩ := exists_rule_eq_error_iff.1 hname
        exact .hash hdocument located hcontext hsegment hpath

theorem Escapes.exists_generate {rule : Rule} (hrule : r.selectRule = .ok rule)
    (h : Escapes s files r given rule) : ∃ fault,
      (r.reading s files given).generate s today = .error fault ∧ ¬fault.IsExpected := by
  have hselected : (r.reading s files given).selectRule = .ok rule := hrule
  have hread (hgiven : given = none) (hcause : ¬FileTree.CanName s.directory (.ofText r.path) ∨
      ∃ content, files.read s.directory (.ofText r.path) = .ok content ∧
        ∀ t, Utf8.encode .strict t ≠ .ok content) : ∃ fault,
      (r.reading s files given).generate s today = .error fault ∧ ¬fault.IsExpected := by
    subst hgiven
    obtain ⟨fault, hdocument, hkind⟩ := exists_unexpected_document_iff.2 hcause
    exact ⟨_, generate_of_documentFault hselected hdocument, hkind⟩
  cases h with
  | path hgiven hname => exact hread hgiven (.inl hname)
  | bytes hgiven hcontent hbytes => exact hread hgiven (.inr ⟨_, hcontent, hbytes⟩)
  | home hdocument located hhome =>
    obtain ⟨fault, hcontext⟩ :=
      (exists_context_error_iff (start_le_of_locate? located)).2 hhome
    exact ⟨.context fault, generate_of_contextFault hselected hdocument located hcontext,
      Fault.not_isExpected_context fault⟩
  | @hash document e context hdocument located hcontext hsegment hpath =>
    obtain ⟨fault, hfault⟩ : ∃ fault, rule.generate context r.settings today = .error fault :=
      exists_rule_eq_error_iff.2 ⟨hsegment, hpath⟩
    refine ⟨_, ?_, Fault.not_isExpected_encoding fault (r.reported rule e today)⟩
    rw [generate_eq_map hselected hdocument located hcontext]
    change ((rule.generate context r.settings today).mapError _).map _ = _
    rw [hfault]
    rfl

/-- A request ends in a fault that hosts do not expect exactly if it has its rule and the path of
a document that is read can be none, its bytes are no text, or an element is located and the home
directory of the document or of the workspace is not known or its name takes the hash of a path
that has no bytes. -/
theorem unexpected_iff_escapes (r : Request) (s : Path.Surroundings) (files : FileTree)
    (given : Option Text) (today : Date) :
    (∀ fault, (r.reading s files given).apply s today = .error fault ↔
      (r.reading s files given).generate s today = .error fault) ∧
    ((∃ fault, (r.reading s files given).generate s today = .error fault ∧ ¬fault.IsExpected) ↔
      ∃ rule, r.selectRule = .ok rule ∧ Escapes s files r given rule) := by
  refine ⟨fun fault => ?_, fun ⟨fault, h, hkind⟩ => ?_,
    fun ⟨rule, hrule, h⟩ => h.exists_generate hrule⟩
  · rw [apply_eq]
    cases (r.reading s files given).generate s today <;> simp [Except.map]
  · cases hrule : r.selectRule with
    | ok rule => exact ⟨rule, rfl, escapes_of_generate hrule h hkind⟩
    | error rejected =>
      have hrejected : (r.reading s files given).selectRule = .error rejected := hrule
      rw [generate_of_ruleFault hrejected] at h
      obtain rfl := Except.error.inj h
      exact absurd (Fault.isExpected_rule rejected) hkind

/-- A file with one byte that is no text. -/
def undecodableFiles : FileTree := ⟨[([("b.html" : FileName)], .file [0xFF])]⟩

/-- A request for the document in that file. -/
def undecodableRequest : Request where
  path := "b.html"
  offset := 0
  document := .ok []

/-- A file with one byte that is no text is a document on which hosts fail. -/
theorem not_expected_of_byte :
    ¬∀ (r : Request) (s : Path.Surroundings) (files : FileTree) (given : Option Text)
        (today : Date),
      (∃ outcome, (r.reading s files given).generate s today = .ok outcome) ∨
        ∃ fault, (r.reading s files given).generate s today = .error fault ∧
          fault.IsExpected := by
  intro h
  have hdocument : (undecodableRequest.reading {} undecodableFiles none).document =
      .error (.undecodable [0xFF] ⟨0, 0xFF, 0, .start⟩) := by
    change readDocument undecodableFiles ⟨.single, []⟩ (.ofText "b.html") = _
    have hread : undecodableFiles.read ⟨.single, []⟩ (.ofText "b.html") = .ok [0xFF] := by
      decide
    rw [readDocument, hread]
    dsimp only
    rw [Utf8.decode, Utf8.decodeFrom]
    rfl
  have hfails : (undecodableRequest.reading {} undecodableFiles none).generate {} ⟨2024, 5, 1⟩ =
      .error (.document (.undecodable [0xFF] ⟨0, 0xFF, 0, .start⟩)) :=
    generate_of_documentFault rfl hdocument
  obtain ⟨outcome, houtcome⟩ | ⟨fault, hfault, hexpected⟩ :=
    h undecodableRequest {} undecodableFiles none ⟨2024, 5, 1⟩
  · cases hfails.symm.trans houtcome
  · obtain rfl := Except.error.inj (hfails.symm.trans hfault)
    obtain ⟨unreadable, hunreadable⟩ := (Fault.isExpected_document _).1 hexpected
    cases hunreadable

end Request

end Generation
end MarkupNaming
