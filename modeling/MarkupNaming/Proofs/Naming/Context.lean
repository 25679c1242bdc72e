import MarkupNaming.Naming.Segment

/-!
# Contexts of a file

What the contexts of one file have in common. Whether a file has a context, and the parts of its
path, do not depend on the document: a context is that of the empty document, moved to a place of
another one.
-/
namespace MarkupNaming.Naming.Context
open Text
variable {s : Path.Surroundings} {path document : Text} {offset : Int} {workspace : Option Text}
  {context : Context}

theorem ofFile_eq_ok_iff : ofFile s path document offset workspace = .ok context ↔
    ∃ p root, (Path.absolute s path).mapError ContextFault.home = .ok p ∧
      workspacePath s workspace = .ok root ∧
      make p.text (pathFrom root p) p.stem p.extension offset document = .ok context := by
  unfold ofFile
  cases (Path.absolute s path).mapError ContextFault.home with
  | error fault => simp [bind, Except.bind]
  | ok p => cases workspacePath s workspace <;> simp [bind, Except.bind]

theorem make_eq_ok {filePath relativePath fileName fileExtension : Text}
    (h : make filePath relativePath fileName fileExtension offset document = .ok context) :
    context.document = document ∧ (context.offset : Int) = offset := by
  unfold make at h
  split at h
  · next hinside =>
    cases h
    exact ⟨rfl, Int.toNat_of_nonneg hinside.1⟩
  · cases h

theorem path_of_make {filePath relativePath fileName fileExtension : Text}
    (h : make filePath relativePath fileName fileExtension offset document = .ok context) :
    context.relativePath = relativePath ∧ context.fileName = fileName := by
  unfold make at h
  split at h
  · cases h
    exact ⟨rfl, rfl⟩
  · cases h

/-- The contexts of a file have the same parts of its path. -/
theorem path_eq_of_ofFile {document' : Text} {offset' : Int} {context' : Context}
    (h : ofFile s path document offset workspace = .ok context)
    (h' : ofFile s path document' offset' workspace = .ok context') :
    context'.relativePath = context.relativePath ∧ context'.fileName = context.fileName := by
  obtain ⟨p, root, hp, hroot, hmake⟩ := ofFile_eq_ok_iff.1 h
  obtain ⟨p', root', hp', hroot', hmake'⟩ := ofFile_eq_ok_iff.1 h'
  obtain rfl : p = p' := Except.ok.inj (hp.symm.trans hp')
  obtain rfl : root = root' := Except.ok.inj (hroot.symm.trans hroot')
  obtain ⟨hpath, hfile⟩ := path_of_make hmake
  obtain ⟨hpath', hfile'⟩ := path_of_make hmake'
  exact ⟨hpath'.trans hpath.symm, hfile'.trans hfile.symm⟩

/-- The chain of a context is the one at its offset in its document. -/
theorem chain_of_ofFile {start : Nat} (h : ofFile s path document start workspace = .ok context) :
    context.chain = Markup.ancestors document start := by
  obtain ⟨p, root, -, -, hmake⟩ := ofFile_eq_ok_iff.1 h
  obtain ⟨hdocument, hoffset⟩ := make_eq_ok hmake
  have hstart : context.offset = start := Int.ofNat.inj hoffset
  rw [chain, hdocument, hstart]

/-- A file that has a context has one at each offset of any document. -/
theorem exists_ofFile (h : ofFile s path document offset workspace = .ok context)
    {document' : Text} {start : Nat} (hle : start ≤ document'.length) :
    ∃ context', ofFile s path document' start workspace = .ok context' := by
  obtain ⟨p, root, hp, hroot, -⟩ := ofFile_eq_ok_iff.1 h
  have hinside : (0 : Int) ≤ start ∧ (start : Int) ≤ document'.length := by omega
  exact ⟨_, ofFile_eq_ok_iff.2 ⟨p, root, hp, hroot, dif_pos hinside⟩⟩

/-- The context at another place, with the parts of its path kept. -/
def move (context : Context) (document : Text) (start : Nat) (h : start ≤ document.length) :
    Context :=
  { context with document := document, offset := start, inDocument := h }

@[simp] theorem relativePath_move {start : Nat} (h : start ≤ document.length) :
    (context.move document start h).relativePath = context.relativePath := rfl

@[simp] theorem fileName_move {start : Nat} (h : start ≤ document.length) :
    (context.move document start h).fileName = context.fileName := rfl

@[simp] theorem chain_move {start : Nat} (h : start ≤ document.length) :
    (context.move document start h).chain = Markup.ancestors document start := rfl

/-- A context of a file is that of the empty document, moved to its place. -/
theorem ofFile_eq_map (s : Path.Surroundings) (path : Text) (workspace : Option Text)
    {start : Nat} (h : start ≤ document.length) : ofFile s path document start workspace =
      (ofFile s path [] 0 workspace).map (·.move document start h) := by
  have hinside : (0 : Int) ≤ start ∧ (start : Int) ≤ document.length := by omega
  unfold ofFile
  cases (Path.absolute s path).mapError ContextFault.home with
  | error fault => rfl
  | ok p =>
    cases workspacePath s workspace with
    | error fault => rfl
    | ok root => exact dif_pos hinside

end MarkupNaming.Naming.Context
