import MarkupNaming.Path
import MarkupNaming.Proofs.Text.Encoding
import MarkupNaming.Proofs.Text.Runs

/-!
# Written paths

A path and the text that writes it. What is read from a text is canonical: no component of it is
dropped or taken apart when it is read again. Canonical paths come back from their texts, so
different ones are written differently, and a path seen from a directory is written with what
follows the directory and nothing else.
-/
namespace MarkupNaming
open Text

/-! ## Pieces of a text -/

namespace Text
variable {isSeparator : Code → Bool} {t part : Text} {c : Code}

theorem splitAll_ne_nil (t : Text) : splitAll isSeparator t ≠ [] := by
  cases t with
  | nil => exact List.cons_ne_nil _ _
  | cons c t =>
    rw [splitAll]
    split
    · exact List.cons_ne_nil _ _
    · split <;> exact List.cons_ne_nil _ _

theorem splitAll_cons_of_pos (hc : isSeparator c = true) (t : Text) :
    splitAll isSeparator (c :: t) = [] :: splitAll isSeparator t := by
  rw [splitAll]
  split
  · next h => exact absurd h (splitAll_ne_nil t)
  · next h => rw [if_pos hc, h]

theorem splitAll_cons_of_neg (hc : isSeparator c = false) (t : Text) :
    splitAll isSeparator (c :: t) = (splitAll isSeparator t).modifyHead (c :: ·) := by
  rw [splitAll]
  split
  · next h => exact absurd h (splitAll_ne_nil t)
  · next h => rw [if_neg (by simp [hc]), h, List.modifyHead_cons]

theorem splitAll_of_forall (ht : ∀ d ∈ t, isSeparator d = false) :
    splitAll isSeparator t = [t] := by
  induction t with
  | nil => rfl
  | cons c t ih =>
    obtain ⟨hc, ht⟩ := List.forall_mem_cons.1 ht
    rw [splitAll_cons_of_neg hc, ih ht, List.modifyHead_cons]

/-- A text without separators is the piece in front of the first separator. -/
theorem splitAll_append_cons (ht : ∀ d ∈ t, isSeparator d = false) (hc : isSeparator c = true)
    (u : Text) : splitAll isSeparator (t ++ c :: u) = t :: splitAll isSeparator u := by
  induction t with
  | nil => exact splitAll_cons_of_pos hc u
  | cons d t ih =>
    obtain ⟨hd, ht⟩ := List.forall_mem_cons.1 ht
    rw [List.cons_append, splitAll_cons_of_neg hd, ih ht, List.modifyHead_cons]

/-- There is no separator in a piece. -/
theorem isSeparator_eq_false_of_mem (hpart : part ∈ splitAll isSeparator t) :
    ∀ d ∈ part, isSeparator d = false := by
  induction t generalizing part with
  | nil =>
    obtain rfl := List.mem_singleton.1 hpart
    exact List.forall_mem_nil _
  | cons c t ih =>
    cases hc : isSeparator c with
    | true =>
      rw [splitAll_cons_of_pos hc] at hpart
      rcases List.mem_cons.1 hpart with rfl | hpart
      · exact List.forall_mem_nil _
      · exact ih hpart
    | false =>
      rw [splitAll_cons_of_neg hc] at hpart
      obtain ⟨piece, pieces, hsplit⟩ := List.exists_cons_of_ne_nil (splitAll_ne_nil t)
      rw [hsplit, List.modifyHead_cons] at hpart
      rw [hsplit] at ih
      rcases List.mem_cons.1 hpart with rfl | hpart
      · exact List.forall_mem_cons.2 ⟨hc, ih List.mem_cons_self⟩
      · exact ih (List.mem_cons_of_mem _ hpart)

/-- Outside of separators, a text has the characters of its pieces. -/
theorem mem_splitAll_iff (hc : isSeparator c = false) :
    (∃ part ∈ splitAll isSeparator t, c ∈ part) ↔ c ∈ t := by
  induction t with
  | nil => simp [splitAll]
  | cons d t ih =>
    cases hd : isSeparator d with
    | true =>
      have hne : c ≠ d := by
        rintro rfl
        cases hc.symm.trans hd
      rw [splitAll_cons_of_pos hd]
      simpa [hne] using ih
    | false =>
      obtain ⟨part, parts, hsplit⟩ := List.exists_cons_of_ne_nil (splitAll_ne_nil t)
      rw [hsplit] at ih
      rw [splitAll_cons_of_neg hd, hsplit, List.modifyHead_cons]
      simp only [List.mem_cons, or_and_right, exists_or, exists_eq_left] at ih ⊢
      rw [← ih, or_assoc]

end Text

namespace Path
variable {t : Text} {p q directory : Path} {components : List Text}

/-! ## Canonical paths -/

/-- Whether components are such as are read from a text. -/
def AreCanonical (components : List Text) : Prop :=
  ∀ c ∈ components, c ≠ [] ∧ c ≠ [.char '.'] ∧ .char '/' ∉ c

/-- Whether the components of a path are such as are read from a text. -/
def IsCanonical (p : Path) : Prop := AreCanonical p.components

theorem areCanonical_componentsOf (t : Text) : AreCanonical (componentsOf t) := by
  intro c hc
  obtain ⟨hpiece, hkept⟩ := List.mem_filter.1 hc
  obtain ⟨hne, hdot⟩ := of_decide_eq_true hkept
  refine ⟨hne, hdot, fun hslash => ?_⟩
  simpa using isSeparator_eq_false_of_mem hpiece _ hslash

theorem isCanonical_ofText (t : Text) : (ofText t).IsCanonical := areCanonical_componentsOf t

theorem append_of_relative (directory : Path) (h : p.root = .relative) :
    directory ++ p = ⟨directory.root, directory.components ++ p.components⟩ :=
  if_neg (by simp [isAbsolute, h])

theorem append_of_isAbsolute (directory : Path) (h : p.isAbsolute = true) : directory ++ p = p :=
  if_pos h

theorem IsCanonical.append (hdirectory : directory.IsCanonical) (hp : p.IsCanonical) :
    (directory ++ p).IsCanonical := by
  cases h : p.isAbsolute with
  | true =>
    rw [append_of_isAbsolute directory h]
    exact hp
  | false =>
    rw [append_of_relative directory (by simpa [isAbsolute] using h)]
    exact List.forall_mem_append.2 ⟨hdirectory, hp⟩

/-! ## Reading what is written -/

theorem startsOutside_join (h : AreCanonical components) :
    StartsOutside (· == .char '/') (join "/" components) := by
  have hhead {c : Text} (hne : c ≠ []) (hslash : .char '/' ∉ c) :
      StartsOutside (· == .char '/') c := by
    intro d hd
    obtain ⟨rest, rfl⟩ := List.head?_eq_some_iff.1 hd
    simpa using fun heq : d = '/' => hslash (heq ▸ List.mem_cons_self)
  cases components with
  | nil => exact startsOutside_nil
  | cons c components =>
    obtain ⟨hne, -, hslash⟩ := h c List.mem_cons_self
    cases components with
    | nil => simpa using hhead hne hslash
    | cons d components =>
      rw [join_cons_cons, startsOutside_append hne]
      exact hhead hne hslash

theorem rootOf_append (root : Root) (ht : StartsOutside (· == .char '/') t) :
    rootOf (root.text ++ t) = root := by
  cases t with
  | nil => cases root <;> rfl
  | cons c t =>
    have hc : c ≠ '/' := by simpa using ht
    cases root <;> simp [Root.text, rootOf, hc]

theorem componentsOf_append (root : Root) (t : Text) :
    componentsOf (root.text ++ t) = componentsOf t := by
  have hslash (u : Text) : componentsOf (.char '/' :: u) = componentsOf u := by
    rw [componentsOf, splitAll_cons_of_pos (by rfl)]
    rfl
  cases root with
  | relative => rfl
  | single => exact hslash t
  | double => exact (hslash _).trans (hslash t)

theorem componentsOf_join (h : AreCanonical components) :
    componentsOf (join "/" components) = components := by
  have hkept {c : Text} {rest : List Text} (hc : c ≠ [] ∧ c ≠ [.char '.'] ∧ .char '/' ∉ c) :
      (c :: rest).filter (fun c => c ≠ [] ∧ c ≠ [.char '.']) =
        c :: rest.filter (fun c => c ≠ [] ∧ c ≠ [.char '.']) :=
    List.filter_cons_of_pos (decide_eq_true ⟨hc.1, hc.2.1⟩)
  have hsolid {c : Text} (hc : .char '/' ∉ c) : ∀ d ∈ c, (d == '/') = false := by
    intro d hd
    simpa using fun heq : d = '/' => hc (heq ▸ hd)
  induction components with
  | nil => rfl
  | cons c components ih =>
    obtain ⟨hc, hrest⟩ := List.forall_mem_cons.1 h
    cases components with
    | nil =>
      rw [join_singleton, componentsOf, splitAll_of_forall (hsolid hc.2.2), hkept hc]
      rfl
    | cons d components =>
      rw [join_cons_cons, componentsOf]
      change (splitAll _ (c ++ .char '/' :: join "/" (d :: components))).filter _ = _
      rw [splitAll_append_cons (hsolid hc.2.2) (by rfl), hkept hc]
      exact congrArg (c :: ·) (ih hrest)

/-- A canonical path is read from its text. -/
theorem ofText_text (h : p.IsCanonical) : ofText p.text = p := by
  unfold text
  split
  · next hempty =>
    obtain ⟨root, components⟩ := p
    obtain ⟨rfl, rfl⟩ := hempty
    rfl
  · rw [ofText, rootOf_append p.root (startsOutside_join h), componentsOf_append,
      componentsOf_join h]

/-- Different canonical paths are written differently. -/
theorem text_injective (hp : p.IsCanonical) (hq : q.IsCanonical) (h : p.text = q.text) :
    p = q := by
  rw [← ofText_text hp, h, ofText_text hq]

/-- What is written of an absolute path is absolute. -/
theorem isAbsolute_ofText_text (h : p.isAbsolute = true) : (ofText p.text).isAbsolute = true := by
  have hslash (u : Text) : rootOf (.char '/' :: u) ≠ .relative := by
    unfold rootOf
    split <;> simp_all
  obtain ⟨root, components⟩ := p
  cases root with
  | relative => cases h
  | single =>
    have := hslash (join "/" components)
    simpa [isAbsolute, ofText, text, Root.text] using this
  | double =>
    have := hslash (.char '/' :: join "/" components)
    simpa [isAbsolute, ofText, text, Root.text] using this

/-- Outside of slashes and dots, a written path has the characters of its components. -/
theorem mem_text_iff {c : Code} (hslash : c ≠ '/') (hdot : c ≠ '.') :
    c ∈ p.text ↔ ∃ part ∈ p.components, c ∈ part := by
  have hroot (root : Root) : c ∉ root.text := by
    cases root <;> simp [Root.text, hslash]
  unfold text
  split
  · next hempty => simp [hempty.2, hdot]
  · rw [List.mem_append, or_iff_right (hroot _), mem_join_iff (by simpa using hslash)]

/-- A path can be named exactly if its components can be. -/
theorem isNameable_text_iff :
    Utf8.IsNameable p.text ↔ ∀ part ∈ p.components, Utf8.IsNameable part := by
  have hiff (c : Code) : (c ∈ p.text → Utf8.Handler.covers .escape c = true) ↔
      ∀ part ∈ p.components, c ∈ part → Utf8.Handler.covers .escape c = true := by
    by_cases hmark : c = '/' ∨ c = '.'
    · have hcovers : Utf8.Handler.covers .escape c = true := by rcases hmark with rfl | rfl <;> rfl
      simp [hcovers]
    · rw [not_or] at hmark
      rw [mem_text_iff hmark.1 hmark.2]
      simp
  exact (forall_congr' hiff).trans
    ⟨fun h part hpart c => h c part hpart, fun h c part hpart => h part hpart c⟩

theorem exists_names_iff : (∃ names, p.names = .ok names) ↔ Utf8.IsNameable p.text := by
  rw [isNameable_text_iff, names]
  generalize p.components = components
  induction components with
  | nil => simp [pure, Except.pure]
  | cons part components ih =>
    rw [List.forall_mem_cons, ← ih, ← Utf8.exists_encode_escape_iff]
    simp only [mapM_eq_ok_iff, List.forall₂_cons_left_iff]
    constructor
    · rintro ⟨_, name, names, hname, hnames, -⟩
      exact ⟨⟨name, hname⟩, names, hnames⟩
    · rintro ⟨⟨name, hname⟩, names, hnames⟩
      exact ⟨_, name, names, hname, hnames, rfl⟩

/-! ## Paths seen from a directory -/

/-- A path seen from a directory is what follows the directory. -/
theorem relativeTo?_eq_some_iff {r : Path} : p.relativeTo? directory = some r ↔
    r.root = .relative ∧ p = directory ++ r := by
  unfold relativeTo?
  rw [Option.ite_none_right_eq_some]
  constructor
  · rintro ⟨⟨hroot, hprefix⟩, h⟩
    obtain rfl := Option.some.inj h
    obtain ⟨rest, hrest⟩ := List.isPrefixOf_iff_prefix.1 hprefix
    refine ⟨rfl, ?_⟩
    rw [append_of_relative _ rfl, ← hroot]
    change p = ⟨p.root, _ ++ p.components.drop _⟩
    rw [← hrest, List.drop_left, hrest]
  · rintro ⟨hrelative, h⟩
    obtain ⟨root, components⟩ := r
    obtain rfl : root = .relative := hrelative
    rw [append_of_relative _ rfl] at h
    obtain rfl := h
    simp

end Path
end MarkupNaming
