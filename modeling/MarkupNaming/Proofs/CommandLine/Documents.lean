import MarkupNaming.Proofs.CommandLine.Parts
import MarkupNaming.Proofs.Files.Writing
import MarkupNaming.Proofs.Generation.Editing
import MarkupNaming.Proofs.Text.Decoding

/-!
# Editing documents

What applying a name leaves in files. A document is decoded without any loss, so the bytes of a
file change at the tag and nowhere else, and another file is given the same bytes.
-/
namespace MarkupNaming
open Text

/-- A document that was read holds all bytes of its file. -/
theorem Generation.read_of_readDocument {tree : FileTree} {directory p : Path} {document : Text}
    (h : readDocument tree directory p = .ok document) :
    ∃ content, Utf8.encode .strict document = .ok content ∧
      tree.read directory p = .ok content := by
  rw [readDocument] at h
  cases hread : tree.read directory p with
  | error fault =>
    rw [hread] at h
    cases h
  | ok content =>
    rw [hread] at h
    cases hdecode : Utf8.decode content with
    | error fault =>
      simp only [hdecode] at h
      cases h
    | ok t =>
      simp only [hdecode] at h
      obtain rfl := Except.ok.inj h
      exact ⟨content, Utf8.encode_decode hdecode, rfl⟩

namespace CommandLine
open World CommandLine.Action
variable {w : World} {t : Target} {outcome : Generation.Outcome} {args : List Text}
  {verbosity : Nat} {showsTracebacks : Bool}

/-- The document in the file of a target, parted at the tag that its cursor hits, with the bytes
around the tag, and the text that an outcome has for that tag. -/
structure Retags (w : World) (t : Target) (outcome : Generation.Outcome)
    (before tag after replacement : Text) (front back : List UInt8) : Prop where
  bytesBefore : Utf8.encode .strict before = .ok front
  bytesAfter : Utf8.encode .strict after = .ok back
  content : ∃ middle, Utf8.encode .strict tag = .ok middle ∧
    w.files.read w.directory t.file = .ok (front ++ (middle ++ back))
  located : ∃ offset marker e, t.cursor.resolve (before ++ (tag ++ after)) = .ok offset ∧
    Markup.locate? (before ++ (tag ++ after)) offset marker = some e ∧
    e.start = before.length ∧ e.stop = before.length + tag.length
  edit : ∃ edit, outcome.edit = some edit ∧ edit.replaced = tag ∧ edit.replacement = replacement
  updatedText : outcome.updatedText = before ++ (replacement ++ after)

/-- An outcome that is applied has a text for the tag. -/
theorem exists_retags {s s₁ : Session} (h : (w.outcome t true).run.run s = (.ok outcome, s₁)) :
    s₁.files = s.files ∧ ∃ before tag after replacement front back,
      Retags w t outcome before tag after replacement front back := by
  obtain ⟨hfiles, hresult⟩ := (keeps_outcome : Keeps (w.outcome t true) s.files _) s rfl
  rw [h] at hfiles hresult
  obtain ⟨hok, settings, document, offset, hread, hoffset, happly⟩ := hresult outcome rfl
  obtain ⟨before, after, tag, edit, hdocument, hsame, hlocated, hedit, hreplaced, hupdated⟩ :=
    Generation.Request.exists_edit_of_isOk happly hok
  obtain rfl : document = outcome.document := Except.ok.inj hsame
  obtain ⟨content, hcontent, hfile⟩ := Generation.read_of_readDocument hread
  obtain ⟨front, rest, hfront, hrest, rfl⟩ := Utf8.exists_of_encode_append (hdocument ▸ hcontent)
  obtain ⟨middle, back, hmiddle, hback, rfl⟩ := Utf8.exists_of_encode_append hrest
  refine ⟨hfiles, before, tag.text, after, edit.replacement, front, back, hfront, hback,
    ⟨middle, hmiddle, hfile⟩, ?_, ⟨edit, hedit, hreplaced, rfl⟩, hupdated⟩
  rw [← hdocument]
  exact ⟨offset, _, _, hoffset, hlocated, rfl, rfl⟩

theorem apply_eq {inPlace : Bool} {output : Option Path} (h : inPlace = false ∨ output = none) :
    w.apply t inPlace output = w.outcome t true >>= fun outcome => warn outcome >>= fun _ =>
      w.deliver outcome t.file (if inPlace then some t.file else output) := by
  rw [World.apply, demand, if_pos h]
  rfl

/-- Where the document of an outcome goes decides about nothing but the end of the command. -/
theorem run_apply {inPlace : Bool} {output : Option Path} {s s₁ : Session}
    (hone : inPlace = false ∨ output = none)
    (houtcome : (w.outcome t true).run.run s = (.ok outcome, s₁)) :
    ∃ s₂, s₂.files = s₁.files ∧ (w.apply t inPlace output).run.run s =
      (w.deliver outcome t.file (if inPlace then some t.file else output)).run.run s₂ := by
  obtain ⟨s₂, hwarn, hfiles⟩ :
      ∃ s₂, (warn outcome).run.run s₁ = (.ok (), s₂) ∧ s₂.files = s₁.files := by
    rw [warn]
    split
    · exact ⟨s₁, rfl, rfl⟩
    · exact ⟨_, rfl, rfl⟩
  refine ⟨s₂, hfiles, ?_⟩
  rw [apply_eq hone, run_bind_of_ok houtcome, run_bind_of_ok hwarn]

/-- A command that applies a name ends with the delivery of its outcome. -/
theorem delivers_of_outcome {inPlace : Bool} {output : Option Path} {s s₁ : Session}
    (hone : inPlace = false ∨ output = none) (hs : s.files = w.files)
    (houtcome : (w.outcome t true).run.run s = (.ok outcome, s₁)) :
    Delivers w outcome t.file (if inPlace then some t.file else output)
      ((w.apply t inPlace output).run.run s).1 ((w.apply t inPlace output).run.run s).2.files := by
  obtain ⟨s₂, hs₂, hrun⟩ := run_apply hone houtcome
  rw [hrun]
  exact ends_deliver s₂ (hs₂.trans ((exists_retags houtcome).1.trans hs))

/-- A document whose new tag has bytes has bytes. -/
theorem Retags.isEncodable {before tag behind replacement : Text} {front middle back : List UInt8}
    (h : Retags w t outcome before tag behind replacement front back)
    (hmiddle : Utf8.encode .strict replacement = .ok middle) :
    Utf8.IsEncodable outcome.updatedText := by
  rw [h.updatedText]
  exact Utf8.exists_encode_strict_iff.1 ⟨_, Utf8.encode_append_ok h.bytesBefore
    (Utf8.encode_append_ok hmiddle h.bytesAfter)⟩

/-- A file to which an outcome is delivered holds the bytes around the tag and those of the new
text. An outcome that was not written has the tag as its text. -/
theorem Retags.read_of_delivers {before tag behind replacement printed : Text}
    {front back : List UInt8} {p : Path} {after : FileTree}
    (h : Retags w t outcome before tag behind replacement front back)
    (hdelivers : Delivers w outcome t.file (some p) (.ok printed) after) :
    (∃ middle, Utf8.encode .strict replacement = .ok middle ∧
      after.read w.directory p = .ok (front ++ (middle ++ back))) ∧
      ∀ q, after.entryAt? q = w.files.entryAt? q ∨ w.files.place w.directory p = .ok q := by
  cases hdelivers with
  | kept unchanged =>
    obtain ⟨edit, hedit, rfl, rfl⟩ := h.edit
    have hsame : edit.replacement = edit.replaced := by
      simpa [changes, hedit, Markup.TextEdit.changes] using unchanged
    exact ⟨hsame ▸ h.content, fun q => .inl rfl⟩
  | written write =>
    obtain ⟨bytes, hbytes, hread⟩ := FileTree.read_of_write write
    rw [h.updatedText] at hbytes
    obtain ⟨_, rest, hfront, hrest, rfl⟩ := Utf8.exists_of_encode_append hbytes
    obtain ⟨middle, _, hmiddle, hback, rfl⟩ := Utf8.exists_of_encode_append hrest
    obtain rfl := Except.ok.inj (h.bytesBefore.symm.trans hfront)
    obtain rfl := Except.ok.inj (h.bytesAfter.symm.trans hback)
    exact ⟨⟨middle, hmiddle, hread⟩, FileTree.entryAt?_of_write write⟩

/-- What is printed of an outcome that is delivered to a file. -/
theorem World.Delivers.printed_eq {printed : Text} {file p : Path} {after : FileTree}
    (h : Delivers w outcome file (some p) (.ok printed) after) :
    printed = line outcome.className := by
  cases h <;> rfl

/-- Only the document decides whether it can be delivered where a file can be written. -/
theorem World.Delivers.exists_ok {r : Except Failure Text} {file p : Path} {after saved : FileTree}
    (h : Delivers w outcome file (some p) r after)
    (hwrite : w.files.write w.directory p [] = .ok saved)
    (hdocument : Utf8.IsEncodable outcome.updatedText) : ∃ printed, r = .ok printed := by
  obtain ⟨saved', hwrite'⟩ := FileTree.exists_write hwrite hdocument
  cases h with
  | kept => exact ⟨_, rfl⟩
  | written => exact ⟨_, rfl⟩
  | refused failure hrefused => cases hrefused.symm.trans hwrite'

/-- A run that applies a name ends as the command does, and prints one text. -/
theorem run_of_apply {inPlace : Bool} {output : Option Path}
    (h : Request.read ⟨w.files, w.directory⟩ args =
      some (.run verbosity showsTracebacks (.apply t inPlace output))) :
    (run w args).files =
        ((w.apply t inPlace output).run.run (w.start verbosity showsTracebacks)).2.files ∧
      ((run w args).exitCode = 0 ↔ ∃ printed,
        ((w.apply t inPlace output).run.run (w.start verbosity showsTracebacks)).1 = .ok printed ∧
        ∃ bytes, Utf8.encode w.stdout printed = .ok bytes) := by
  have hrun := run_bind_pure (w.apply t inPlace output) (fun printed => [Printout.plain printed])
    (w.start verbosity showsTracebacks)
  obtain ⟨hfiles, hcode⟩ := run_of_read h
  rw [perform, hrun] at hfiles hcode
  refine ⟨hfiles, hcode.trans ?_⟩
  cases ((w.apply t inPlace output).run.run (w.start verbosity showsTracebacks)).1 with
  | error failure => simp [Except.map]
  | ok printed => simp [Except.map, Printout.plain]

/-- Applying a name in place succeeds only with a document that has an element at the cursor. The
file of the document then holds the bytes in front of the tag, those of the new text of the tag and
the bytes behind the tag, and no other entry has changed. The same arguments with an output instead
leave the same bytes there, as soon as it can be written. -/
theorem read_of_apply {inPlace : List Text}
    (h : Request.read ⟨w.files, w.directory⟩ inPlace =
      some (.run verbosity showsTracebacks (.apply t true none)))
    (hexit : (run w inPlace).exitCode = 0) :
    ∃ outcome before tag behind replacement front middle back,
      ((w.outcome t true).run.run (w.start verbosity showsTracebacks)).1 = .ok outcome ∧
      Retags w t outcome before tag behind replacement front back ∧
      Utf8.encode .strict replacement = .ok middle ∧
      (run w inPlace).files.read w.directory t.file = .ok (front ++ (middle ++ back)) ∧
      (∀ q, (run w inPlace).files.entryAt? q = w.files.entryAt? q ∨
        w.files.place w.directory t.file = .ok q) ∧
      ∀ args p, Request.read ⟨w.files, w.directory⟩ args =
          some (.run verbosity showsTracebacks (.apply t false (some p))) →
        ((∃ saved, w.files.write w.directory p [] = .ok saved) → (run w args).exitCode = 0) ∧
        ((run w args).exitCode = 0 → (run w args).files.read w.directory p =
          (run w inPlace).files.read w.directory t.file) := by
  obtain ⟨hfiles, hsuccess⟩ := run_of_apply h
  obtain ⟨printed, hprinted, hprintable⟩ := hsuccess.1 hexit
  -- both commands begin with the same outcome and have only its delivery left
  obtain ⟨outcome, s₁, houtcome⟩ : ∃ outcome s₁,
      (w.outcome t true).run.run (w.start verbosity showsTracebacks) = (.ok outcome, s₁) := by
    rw [apply_eq (.inr rfl)] at hprinted
    obtain ⟨outcome, s₁, houtcome, -⟩ := exists_of_run_bind (Prod.ext hprinted rfl)
    exact ⟨outcome, s₁, houtcome⟩
  obtain ⟨-, before, tag, behind, replacement, front, back, hretags⟩ := exists_retags houtcome
  have hplaced : Delivers w outcome t.file (some t.file) _ _ :=
    delivers_of_outcome (Or.inr rfl : true = false ∨ (none : Option Path) = none) rfl houtcome
  rw [hprinted, ← hfiles] at hplaced
  obtain ⟨⟨middle, hmiddle, hread⟩, hothers⟩ := hretags.read_of_delivers hplaced
  refine ⟨outcome, before, tag, behind, replacement, front, middle, back,
    congrArg Prod.fst houtcome, hretags, hmiddle, hread, hothers, fun args p hargs => ?_⟩
  obtain ⟨hfiles', hsuccess'⟩ := run_of_apply hargs
  have hgiven : Delivers w outcome t.file (some p) _ _ :=
    delivers_of_outcome (.inl rfl) rfl houtcome
  rw [← hfiles'] at hgiven
  refine ⟨fun ⟨saved, hwritable⟩ => hsuccess'.2 ?_, fun hexit' => ?_⟩
  · obtain ⟨printed', hprinted'⟩ := hgiven.exists_ok hwritable (hretags.isEncodable hmiddle)
    rw [hprinted'] at hgiven
    refine ⟨printed', hprinted', ?_⟩
    rw [hgiven.printed_eq, ← hplaced.printed_eq]
    exact hprintable
  · obtain ⟨printed', hprinted', -⟩ := hsuccess'.1 hexit'
    rw [hprinted'] at hgiven
    obtain ⟨⟨middle', hmiddle', hread'⟩, -⟩ := hretags.read_of_delivers hgiven
    obtain rfl := Except.ok.inj (hmiddle.symm.trans hmiddle')
    rw [hread, hread']

/-- A page with a byte order mark, a letter of two bytes and both kinds of returns. -/
def pages : World where
  files := ⟨[(["w"], .directory),
    (["w", "p.html"], .file (Utf8.ofString "\ufeffé\r\n<p>x\r"))]⟩
  surroundings := { directory := .ofText "/w" }
  today := ⟨2024, 5, 1⟩
  now := 0
  room := machineRoom

/-- The arguments that name the paragraph of the page after its file. -/
def paragraphArguments : List Text :=
  [("apply" : Text), ("p.html" : Text), ("-o" : Text), ("4" : Text), ("-r" : Text),
    ("ruleGamma" : Text)]

def paragraph : Target where
  file := .ofText "/w/p.html"
  cursor := ⟨some 4, none, 1⟩
  naming := { rule := some ("ruleGamma" : Text) }
  place := {}

theorem read_of_apply_paragraph :
    ∃ outcome before tag behind replacement front middle back,
      Retags pages paragraph outcome before tag behind replacement front back ∧
      Utf8.encode .strict replacement = .ok middle ∧
      (run pages (paragraphArguments ++ [("-i" : Text)])).files.read pages.directory
          (.ofText "/w/p.html") = .ok (front ++ (middle ++ back)) ∧
      (run pages (paragraphArguments ++ [("--output" : Text), ("o.html" : Text)])).files.read
          pages.directory (.ofText "/w/o.html") =
        (run pages (paragraphArguments ++ [("-i" : Text)])).files.read pages.directory
          (.ofText "/w/p.html") := by
  have hread : Request.read ⟨pages.files, pages.directory⟩ (paragraphArguments ++ [("-i" : Text)]) =
      some (.run 0 false (.apply paragraph true none)) := by decide +kernel
  have hgiven : Request.read ⟨pages.files, pages.directory⟩
      (paragraphArguments ++ [("--output" : Text), ("o.html" : Text)]) =
        some (.run 0 false (.apply paragraph false (some (.ofText "/w/o.html")))) := by
    decide +kernel
  obtain ⟨outcome, before, tag, behind, replacement, front, middle, back, -, hretags, hmiddle,
    hhere, -, hthere⟩ := read_of_apply hread (by decide +kernel)
  obtain ⟨hexit, hsame⟩ := hthere _ _ hgiven
  exact ⟨outcome, before, tag, behind, replacement, front, middle, back, hretags, hmiddle, hhere,
    hsame (hexit ⟨_, rfl⟩)⟩

end CommandLine
end MarkupNaming
