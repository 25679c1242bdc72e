import Mathlib.Data.List.Induction
import MarkupNaming.Proofs.Files.Directories
import MarkupNaming.Proofs.Path
import MarkupNaming.Settings.File

/-!
# Growing trees

What making directories adds to a tree. It is nothing but the directories that are missing on a
path, and making them comes to an end too early only at a name that is too long. If some of them
have been made by then, they stay.
-/
namespace MarkupNaming
open Text

/-- A name of a component that leads to an entry of a directory. -/
def Path.IsName (c : Text) : Prop :=
  c ≠ [.char '.', .char '.'] ∧ .char '\x00' ∉ c ∧ Utf8.IsNameable c

instance (c : Text) : Decidable (Path.IsName c) := inferInstanceAs (Decidable (_ ∧ _ ∧ _))

/-- A path that starts at a root and names what it leads to, without `..` on the way. -/
structure Path.IsPlain (p : Path) : Prop where
  rooted : p.root ≠ .relative
  named : ∀ c ∈ p.components, IsName c

namespace Path
variable {p directory : Path} {root : Root} {front rest : List Text}

theorem IsPlain.of_append (h : (⟨root, front ++ rest⟩ : Path).IsPlain) :
    (⟨root, front⟩ : Path).IsPlain :=
  ⟨h.rooted, fun c hc => h.named c (List.mem_append_left _ hc)⟩

/-- The names that a path leads through. -/
def namesOf (components : List Text) : Place := components.map Utf8.bytesOf

@[simp] theorem namesOf_append (front rest : List Text) :
    namesOf (front ++ rest) = namesOf front ++ namesOf rest := List.map_append

@[simp] theorem namesOf_singleton (c : Text) : namesOf [c] = [Utf8.bytesOf c] := rfl

theorem IsPlain.not_mem_text (h : p.IsPlain) : .char '\x00' ∉ p.text := by
  rw [mem_text_iff (by decide) (by decide)]
  rintro ⟨c, hc, hnul⟩
  exact (h.named c hc).2.1 hnul

theorem IsPlain.encode_text (h : p.IsPlain) :
    Utf8.encode .escape p.text = .ok (Utf8.bytesOf p.text) :=
  Utf8.encode_escape (isNameable_text_iff.2 fun c hc => (h.named c hc).2.2)

theorem IsPlain.names_eq (h : p.IsPlain) : p.names = .ok (namesOf p.components) := by
  refine mapM_eq_ok_iff.2 (List.forall₂_map_right_iff.2 (List.forall₂_same.2 fun c hc => ?_))
  exact Utf8.encode_escape (h.named c hc).2.2

/-- No name of a plain path leads back. -/
theorem IsPlain.forall_namesOf (h : p.IsPlain) : ∀ name ∈ namesOf p.components, name ≠ ".." := by
  intro name hname hparent
  obtain ⟨c, hc, rfl⟩ := List.mem_map.1 hname
  obtain ⟨hne, -, hcovers⟩ := h.named c hc
  have hbytes := Utf8.encode_escape hcovers
  rw [hparent] at hbytes
  exact hne (Utf8.eq_map_of_encode hbytes (by simp [Utf8.ofString, String.utf8EncodeChar]))

/-- A path with a root of its own is followed from there. -/
theorem IsPlain.components_append (h : p.IsPlain) :
    (directory ++ p).components = p.components := by
  have hrooted : p.isAbsolute = true := by simp [isAbsolute, h.rooted]
  change (append directory p).components = _
  rw [append, if_pos hrooted]

end Path

namespace FileTree
variable {t made after : FileTree} {directory p : Path} {start place : Place} {root : Root}
  {front rest : List Text} {names behind : List FileName} {component : Text} {name : FileName}

/-- Everything stands in a directory. -/
def IsTree (t : FileTree) : Prop :=
  ∀ place name entry, t.entryAt? (place ++ [name]) = some entry →
    t.entryAt? place = some .directory

theorem isTree_of_entries (h : ∀ e ∈ t.entries, t.entryAt? e.1.dropLast = some .directory) :
    t.IsTree := by
  intro place name entry hentry
  have hlookup : t.entries.lookup (place ++ [name]) = some entry := by
    cases place <;> exact hentry
  obtain ⟨before, after, hentries, -⟩ := List.lookup_eq_some_iff.1 hlookup
  have hmem : (place ++ [name], entry) ∈ t.entries := by simp [hentries]
  simpa using h _ hmem

/-- Behind a place where nothing is, nothing is. -/
theorem IsTree.entryAt?_append (ht : t.IsTree) (h : t.entryAt? start = none)
    (rest : List FileName) :
    t.entryAt? (start ++ rest) = none := by
  induction rest using List.reverseRecOn with
  | nil => rwa [List.append_nil]
  | append_singleton rest name ih =>
    rw [← List.append_assoc]
    cases hentry : t.entryAt? (start ++ rest ++ [name]) with
    | none => rfl
    | some entry => cases (ht _ _ _ hentry).symm.trans ih

/-! ## Following plain paths -/

theorem place_of_isPlain (h : p.IsPlain) : t.place directory p =
    if longestPath < (Utf8.bytesOf p.text).length then .error .tooLong
    else t.walk [] (Path.namesOf p.components) := by
  have hnames : (directory ++ p).names = .ok (Path.namesOf p.components) := by
    rw [Path.names, h.components_append]
    exact h.names_eq
  rw [FileTree.place, h.encode_text, hnames]
  dsimp only
  rw [if_neg h.not_mem_text]

/-- A step of a plain path. -/
theorem walk_singleton (hstart : t.entryAt? start = some .directory) (hname : name ≠ "..") :
    t.walk start [name] = if longestName < name.length then .error .tooLong
      else .ok (start ++ [name]) := by
  rw [walk, hstart]
  dsimp only
  rw [if_neg hname]
  rfl

/-- A plain path leads to the place that it names. -/
theorem eq_of_walk (hnames : ∀ name ∈ names, name ≠ "..") (h : t.walk start names = .ok place) :
    place = start ++ names := by
  induction names generalizing start with
  | nil =>
    rw [List.append_nil]
    exact (Except.ok.inj h).symm
  | cons name names ih =>
    obtain ⟨hname, hnames⟩ := List.forall_mem_cons.1 hnames
    have hstart := entryAt?_of_walk h (List.cons_ne_nil name names)
    rw [walk, hstart] at h
    dsimp only at h
    rw [if_neg hname] at h
    split at h
    · cases h
    · rw [ih hnames h, List.append_assoc, List.singleton_append]

/-- Something is missing only on the way to a place behind it. -/
theorem exists_of_walk_missing (hnames : ∀ name ∈ names, name ≠ "..")
    (h : t.walk start names = .error .missing) :
    ∃ front back, names = front ++ back ∧ back ≠ [] ∧ t.entryAt? (start ++ front) = none := by
  induction names generalizing start with
  | nil => cases h
  | cons name names ih =>
    obtain ⟨hname, hnames⟩ := List.forall_mem_cons.1 hnames
    rw [walk] at h
    split at h
    · next hnone =>
      exact ⟨[], name :: names, rfl, List.cons_ne_nil name names, by rwa [List.append_nil]⟩
    · cases h
    · rw [if_neg hname] at h
      split at h
      · cases h
      · obtain ⟨front, back, rfl, hback, hnone⟩ := ih hnames h
        refine ⟨name :: front, back, rfl, hback, ?_⟩
        rwa [List.append_cons]

/-! ## Making directories -/

/-- A tree to which the missing directories on the way to a place have been added. -/
def Grown (before after : FileTree) (place : Place) : Prop :=
  ∀ q, after.entryAt? q =
    if before.entryAt? q = none ∧ q <+: place then some .directory else before.entryAt? q

/-- A tree with a directory at a place that a path leads to, to which only missing directories on
the way have been added. -/
structure Reaches (before after : FileTree) (place : Place) : Prop where
  walk : after.walk [] place = .ok place
  directory : after.entryAt? place = some .directory
  grown : Grown before after place
  same : before.entryAt? place = some .directory → after = before

/-- A tree with directories that were made for a path whose next name is too long. -/
def Strands (before after : FileTree) (names : List FileName) : Prop :=
  ∃ made name rest, names = made ++ name :: rest ∧
    longestName < name.length ∧ before.entryAt? made = none ∧ Grown before after made

theorem Strands.append (h : Strands t after names) (rest : List FileName) :
    Strands t after (names ++ rest) := by
  obtain ⟨place, name, behind, rfl, hlong, hnone, hgrown⟩ := h
  exact ⟨place, name, behind ++ rest, by rw [List.append_assoc, List.cons_append], hlong, hnone,
    hgrown⟩

theorem grown_self (h : t.entryAt? place = some .directory) (ht : t.IsTree) : Grown t t place := by
  intro q
  rw [if_neg]
  rintro ⟨hnone, rest, rfl⟩
  cases h.symm.trans (ht.entryAt?_append hnone rest)

/-- Adding one more directory behind those that have been added. -/
theorem Grown.set (h : Grown t made place) (hnone : t.entryAt? (place ++ [name]) = none) :
    Grown t (made.set (place ++ [name]) .directory) (place ++ [name]) := by
  intro q
  rw [entryAt?_set made (by simp), h q]
  by_cases hq : q = place ++ [name]
  · rw [if_pos hq, if_pos ⟨hq ▸ hnone, hq ▸ List.prefix_rfl⟩]
  · rw [if_neg hq]
    simp only [List.prefix_concat_iff, hq, false_or]

/-- A plain path leads through places that it names. -/
theorem entryAt?_of_walk_append (hnames : ∀ name ∈ names, name ≠ "..") (hbehind : behind ≠ [])
    (h : t.walk [] (names ++ behind) = .ok place) : t.entryAt? names = some .directory := by
  rw [walk_append] at h
  cases habove : t.walk [] names with
  | error reason =>
    rw [habove] at h
    cases h
  | ok above =>
    rw [habove] at h
    obtain rfl := eq_of_walk hnames habove
    exact entryAt?_of_walk h hbehind

theorem IsTree.entryAt?_of_missing (ht : t.IsTree)
    (hp : (⟨root, front ++ [component]⟩ : Path).IsPlain)
    (h : t.place directory ⟨root, front ++ [component]⟩ = .error .missing) :
    t.entryAt? (Path.namesOf front) = none := by
  rw [place_of_isPlain hp] at h
  split at h
  · cases h
  · obtain ⟨start, back, hsplit, hback, hnone⟩ := exists_of_walk_missing hp.forall_namesOf h
    rw [Path.namesOf_append, Path.namesOf_singleton] at hsplit
    obtain ⟨rest, hfront⟩ : start <+: Path.namesOf front := by
      rcases List.prefix_concat_iff.1 ⟨back, hsplit.symm⟩ with hall | hprefix
      · rw [hall] at hsplit
        exact absurd (List.self_eq_append_right.1 hsplit) hback
      · exact hprefix
    rw [← hfront]
    exact ht.entryAt?_append hnone rest

/-- A directory above which directories exist is there or is added. -/
theorem reaches_of_makeDirectory (ht : t.IsTree) (hp : (⟨root, front⟩ : Path).IsPlain)
    (h : t.makeDirectory directory ⟨root, front⟩ = .ok made) :
    Reaches t made (Path.namesOf front) := by
  have hnames := hp.forall_namesOf
  rw [makeDirectory, place_of_isPlain hp] at h
  dsimp only at h hnames
  generalize Path.namesOf front = names at h hnames ⊢
  split at h
  · cases h
  · cases h
  next place hplace =>
  split at hplace
  · cases hplace
  obtain rfl : place = names := eq_of_walk hnames hplace
  split at h
  · next hdirectory =>
    obtain rfl := Except.ok.inj h
    exact ⟨hplace, hdirectory, grown_self hdirectory ht, fun _ => rfl⟩
  · cases h
  · next hnone =>
    obtain rfl := Except.ok.inj h
    have hother : t.entryAt? place ≠ some .directory := by
      intro hdirectory
      cases hnone.symm.trans hdirectory
    have hset := entryAt?_set t (ne_nil_of_entryAt? hother) .directory
    refine ⟨walk_set hother _ hplace, by rw [hset, if_pos rfl], fun q => ?_,
      fun hdirectory => absurd hdirectory hother⟩
    rw [hset]
    by_cases hq : q = place
    · rw [if_pos hq, if_pos ⟨hq ▸ hnone, hq ▸ List.prefix_rfl⟩]
    · rw [if_neg hq, if_neg]
      -- places in front of the new directory are directories
      rintro ⟨hmissing, rest, rfl⟩
      have hrest : rest ≠ [] := by
        rintro rfl
        exact hq (List.append_nil q).symm
      have hthere := entryAt?_of_walk_append
        (fun name hname => hnames name (List.mem_append_left _ hname)) hrest hplace
      cases hthere.symm.trans hmissing

/-- A path goes on behind directories that have been made. -/
theorem Reaches.place_eq (h : Reaches t made (Path.namesOf front)) (directory : Path)
    (hp : (⟨root, front ++ [component]⟩ : Path).IsPlain)
    (hshort : ¬longestPath < (Utf8.bytesOf (⟨root, front ++ [component]⟩ : Path).text).length) :
    made.place directory ⟨root, front ++ [component]⟩ =
      if longestName < (Utf8.bytesOf component).length then .error .tooLong
      else .ok (Path.namesOf front ++ [Utf8.bytesOf component]) := by
  rw [place_of_isPlain hp, if_neg hshort, Path.namesOf_append, walk_append, h.walk]
  exact walk_singleton h.directory (hp.forall_namesOf _ (by simp))

theorem Reaches.entryAt?_behind (h : Reaches t made names) (ht : t.IsTree)
    (hnone : t.entryAt? names = none) (name : FileName) :
    made.entryAt? (names ++ [name]) = none := by
  rw [h.grown, if_neg, ht.entryAt?_append hnone [name]]
  rintro ⟨-, hfront⟩
  have := hfront.length_le
  rw [List.length_append, List.length_singleton] at this
  omega

/-- The next directory behind those that have been made is added, unless its name is too long. -/
theorem Reaches.makeDirectory (h : Reaches t made (Path.namesOf front))
    (hnone : t.entryAt? (Path.namesOf front) = none)
    (directory : Path) (ht : t.IsTree) (hp : (⟨root, front ++ [component]⟩ : Path).IsPlain)
    (hshort : ¬longestPath < (Utf8.bytesOf (⟨root, front ++ [component]⟩ : Path).text).length) :
    if longestName < (Utf8.bytesOf component).length then
      made.makeDirectory directory ⟨root, front ++ [component]⟩ =
        .error ⟨.tooLong, ⟨root, front ++ [component]⟩⟩
    else ∃ next, made.makeDirectory directory ⟨root, front ++ [component]⟩ = .ok next ∧
      Reaches t next (Path.namesOf (front ++ [component])) := by
  have hbehind := ht.entryAt?_append hnone [Utf8.bytesOf component]
  have hmissing := h.entryAt?_behind ht hnone (Utf8.bytesOf component)
  rw [FileTree.makeDirectory, h.place_eq directory hp hshort, Path.namesOf_append,
    Path.namesOf_singleton]
  split
  · rfl
  · next hname =>
    have hplace := h.place_eq directory hp hshort
    rw [place_of_isPlain hp, if_neg hshort, if_neg hname, Path.namesOf_append,
      Path.namesOf_singleton] at hplace
    have hother : made.entryAt? (Path.namesOf front ++ [Utf8.bytesOf component]) ≠
        some .directory := by
      intro hdirectory
      cases hmissing.symm.trans hdirectory
    dsimp only
    rw [hmissing]
    refine ⟨_, rfl, walk_set hother _ hplace, ?_, h.grown.set hbehind, fun hdirectory => ?_⟩
    · rw [entryAt?_set made (by simp), if_pos rfl]
    · cases hbehind.symm.trans hdirectory

/-- A file cannot be written behind directories that have been made only if its name is too
long. -/
theorem Reaches.strands_of_writable {fault : FileFault}
    (h : Reaches t made (Path.namesOf front)) (ht : t.IsTree)
    (hp : (⟨root, front ++ [component]⟩ : Path).IsPlain)
    (hplace : t.place directory ⟨root, front ++ [component]⟩ ≠ .error .tooLong)
    (hwrite : made.writable directory ⟨root, front ++ [component]⟩ = .error fault) :
    made = t ∨ Strands t made (Path.namesOf (front ++ [component])) := by
  by_cases hthere : t.entryAt? (Path.namesOf front) = some .directory
  · exact .inl (h.same hthere)
  have hnone : t.entryAt? (Path.namesOf front) = none := by
    have hgrown := h.grown (Path.namesOf front)
    rw [h.directory] at hgrown
    split at hgrown
    · next hmade => exact hmade.1
    · exact absurd hgrown.symm hthere
  have hshort :
      ¬longestPath < (Utf8.bytesOf (⟨root, front ++ [component]⟩ : Path).text).length := by
    intro hlong
    rw [place_of_isPlain hp, if_pos hlong] at hplace
    exact hplace rfl
  by_cases hname : longestName < (Utf8.bytesOf component).length
  · refine .inr ⟨Path.namesOf front, Utf8.bytesOf component, [], ?_, hname, hnone, h.grown⟩
    rw [Path.namesOf_append, Path.namesOf_singleton]
  · rw [writable, h.place_eq directory hp hshort, if_neg hname] at hwrite
    dsimp only at hwrite
    rw [h.entryAt?_behind ht hnone] at hwrite
    cases hwrite

theorem reaches_nil (ht : t.IsTree) : Reaches t t [] :=
  ⟨rfl, rfl, grown_self rfl ht, fun _ => rfl⟩

/-- Something is missing only on the way to a directory that is made. -/
theorem place_of_makeDirectory {path : Path}
    (h : t.makeDirectory directory p = .error ⟨.missing, path⟩) :
    t.place directory p = .error .missing := by
  rw [makeDirectory] at h
  split at h
  · cases h
  · next reason hplace =>
    obtain ⟨rfl, -⟩ := FileFault.mk.inj (Except.error.inj h)
    exact hplace
  · split at h <;> cases h

/-- Directories are made on the whole way, or nothing is made, or some are made in front of a name
that is too long. -/
theorem makeDirectoriesBack_cases (directory : Path) (ht : t.IsTree) {back : List Text}
    (hp : (⟨root, back.reverse⟩ : Path).IsPlain) :
    (∃ made, t.makeDirectoriesBack directory root back = .ok made ∧
      Reaches t made (Path.namesOf back.reverse)) ∨
    ∃ unfinished, t.makeDirectoriesBack directory root back = .error unfinished ∧
      (unfinished.left = t ∨ Strands t unfinished.left (Path.namesOf back.reverse)) := by
  induction back with
  | nil => exact .inl ⟨t, rfl, reaches_nil ht⟩
  | cons c above ih =>
    rw [List.reverse_cons] at hp ⊢
    rw [makeDirectoriesBack, List.reverse_cons]
    cases hmake : t.makeDirectory directory ⟨root, above.reverse ++ [c]⟩ with
    | ok made => exact .inl ⟨made, rfl, reaches_of_makeDirectory ht hp hmake⟩
    | error fault =>
      obtain ⟨reason, path⟩ := fault
      by_cases hreason : reason = .missing
      · subst hreason
        have hmissing := place_of_makeDirectory hmake
        have hnone := ht.entryAt?_of_missing hp hmissing
        have hshort : ¬longestPath <
            (Utf8.bytesOf (⟨root, above.reverse ++ [c]⟩ : Path).text).length := by
          intro hlong
          rw [place_of_isPlain hp, if_pos hlong] at hmissing
          cases hmissing
        obtain ⟨made, hmade, hreaches⟩ | ⟨unfinished, hunfinished, hleft⟩ := ih hp.of_append
        · have hlast := hreaches.makeDirectory hnone directory ht hp hshort
          split at hlast
          · next hlong =>
            refine .inr ⟨_, by simp only [hmade, hlast]; rfl, .inr ?_⟩
            refine ⟨Path.namesOf above.reverse, Utf8.bytesOf c, [], ?_, hlong, hnone,
              hreaches.grown⟩
            rw [Path.namesOf_append, Path.namesOf_singleton]
          · obtain ⟨next, hnext, hreaches⟩ := hlast
            exact .inl ⟨next, by simp only [hmade, hnext]; rfl, hreaches⟩
        · refine .inr ⟨unfinished, by simp only [hunfinished], ?_⟩
          rw [Path.namesOf_append]
          exact hleft.imp_right (·.append _)
      · refine .inr ⟨⟨.path ⟨reason, path⟩, t⟩, ?_, .inl rfl⟩
        cases reason <;> first | rfl | exact absurd rfl hreason

end FileTree

namespace Settings
open FileTree
variable {s : Settings} {tree : FileTree} {directory p : Path} {unfinished : Unfinished}

/-- Settings that cannot be saved leave the tree as it is, or with directories in front of a name
that is too long. -/
theorem strands_of_save (ht : tree.IsTree) (hp : p.IsPlain)
    (hwritten : Utf8.IsEncodable s.written) (hplace : tree.place directory p ≠ .error .tooLong)
    (h : s.save tree directory p = .error unfinished) :
    unfinished.left = tree ∨ Strands tree unfinished.left (Path.namesOf p.components) := by
  obtain ⟨bytes, hbytes⟩ := Utf8.exists_encode_strict_iff.2 hwritten
  have hwritable {made : FileTree} (hwrite : made.write directory p s.written = .error unfinished) :
      ∃ fault, made.writable directory p = .error fault ∧ unfinished.left = made := by
    rcases write_eq_error_iff.1 hwrite with ⟨fault, hfault, rfl⟩ | ⟨target, fault, -, hfault, -⟩
    · exact ⟨fault, hfault, rfl⟩
    · cases hbytes.symm.trans hfault
  rcases List.eq_nil_or_concat p.components with hnil | ⟨front, name, hcomponents⟩
  · have hmake : tree.makeDirectories directory p.parent = .ok tree := by
      rw [makeDirectories, Path.parent, hnil]
      rfl
    rcases save_eq_error_iff.1 h with hfailed | ⟨made, hmade, hwrite⟩
    · cases hmake.symm.trans hfailed
    · obtain ⟨fault, -, hleft⟩ := hwritable hwrite
      exact .inl (hleft.trans (Except.ok.inj (hmade.symm.trans hmake)))
  · rw [List.concat_eq_append] at hcomponents
    obtain ⟨root, components⟩ := p
    subst hcomponents
    have hback : tree.makeDirectories directory (Path.parent ⟨root, front ++ [name]⟩) =
        tree.makeDirectoriesBack directory root front.reverse := by
      rw [makeDirectories, Path.parent, List.dropLast_concat]
    have hfront : (⟨root, front.reverse.reverse⟩ : Path).IsPlain := by
      rw [List.reverse_reverse]
      exact hp.of_append
    have hcases := makeDirectoriesBack_cases directory ht hfront
    rw [← hback, List.reverse_reverse] at hcases
    rcases save_eq_error_iff.1 h with hfailed | ⟨made, hmade, hwrite⟩
    · obtain ⟨made, hmade, -⟩ | ⟨_, hunfinished, hleft⟩ := hcases
      · cases hmade.symm.trans hfailed
      · obtain rfl := Except.error.inj (hunfinished.symm.trans hfailed)
        rw [Path.namesOf_append]
        exact hleft.imp_right (·.append _)
    · obtain ⟨_, hmade', hreaches⟩ | ⟨_, hunfinished, -⟩ := hcases
      · obtain rfl := Except.ok.inj (hmade.symm.trans hmade')
        obtain ⟨fault, hfault, hleft⟩ := hwritable hwrite
        rw [hleft]
        exact hreaches.strands_of_writable ht hp hplace hfault
      · cases hmade.symm.trans hunfinished

end Settings
end MarkupNaming
