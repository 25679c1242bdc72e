import Mathlib.Data.List.TakeWhile
import MarkupNaming.Naming.Abbreviation
import MarkupNaming.Proofs.Path
import MarkupNaming.Proofs.Text.Characters

/-!
# Abbreviated paths

What is kept of a path, and what is made of it. The segments of a path do not depend on how it is
written. Behind the first site root, what is in front of it does not count, and further roots do. No
kept segment is empty, so that each gives a piece of the abbreviation, unless the last one is
nothing but an extension: of a name such as `.env` nothing is left, and the abbreviation is empty or
ends in a hyphen.
-/
namespace MarkupNaming.Naming
open Text
variable {segments : List Text} {segment path t : Text} {c : Code} {length : Int}

/-! ## Segments -/

/-- A character between segments. -/
def isPathSeparator (c : Code) : Bool := c == '/' || c == '\\'

/-- The texts that write segments. Separators stand between neighbours, and any number of them may
stand there, in front and behind. -/
inductive Writes : List Text → Text → Prop
  | nil : Writes [] []
  | separator {c : Code} {segments : List Text} {t : Text} (hc : isPathSeparator c = true)
      (rest : Writes segments t) : Writes segments (c :: t)
  | segment {segment : Text} {segments : List Text} {t : Text} (nonempty : segment ≠ [])
      (solid : ∀ c ∈ segment, isPathSeparator c = false)
      (behind : ∀ c ∈ t.head?, isPathSeparator c = true) (rest : Writes segments t) :
      Writes (segment :: segments) (segment ++ t)

theorem splitPath_eq_filter (t : Text) :
    splitPath t = (splitAll isPathSeparator t).filter (!·.isEmpty) := rfl

theorem splitPath_cons (hc : isPathSeparator c = true) (t : Text) :
    splitPath (c :: t) = splitPath t := by
  rw [splitPath_eq_filter, splitAll_cons_of_pos hc]
  rfl

theorem splitPath_append (hne : segment ≠ []) (hsolid : ∀ c ∈ segment, isPathSeparator c = false)
    (hbehind : ∀ c ∈ t.head?, isPathSeparator c = true) :
    splitPath (segment ++ t) = segment :: splitPath t := by
  have hkept (pieces : List Text) : (segment :: pieces).filter (!·.isEmpty) =
      segment :: pieces.filter (!·.isEmpty) :=
    List.filter_cons_of_pos (by simpa using hne)
  cases t with
  | nil =>
    rw [List.append_nil, splitPath_eq_filter, splitAll_of_forall hsolid, hkept]
    rfl
  | cons c t =>
    have hc := hbehind c rfl
    rw [splitPath_cons hc, splitPath_eq_filter, splitAll_append_cons hsolid hc, hkept]
    rfl

theorem exists_writes (t : Text) : ∃ segments, Writes segments t := by
  induction t with
  | nil => exact ⟨[], .nil⟩
  | cons c t ih =>
    obtain ⟨segments, h⟩ := ih
    cases hc : isPathSeparator c with
    | true => exact ⟨segments, .separator hc h⟩
    | false =>
      -- The character is a segment of its own, or it belongs to the one at the start of the rest.
      have hsolid : ∀ d ∈ [c], isPathSeparator d = false := by simpa using hc
      cases h with
      | nil => exact ⟨[[c]], .segment (List.cons_ne_nil c []) hsolid (by simp) .nil⟩
      | separator hd rest =>
        exact ⟨[c] :: segments, .segment (List.cons_ne_nil c []) hsolid (by simpa using hd)
          (.separator hd rest)⟩
      | segment nonempty solid behind rest =>
        exact ⟨_, .segment (List.cons_ne_nil c _) (List.forall_mem_cons.2 ⟨hc, solid⟩) behind rest⟩

/-- A text writes its own segments and no others. -/
theorem writes_iff : Writes segments t ↔ splitPath t = segments := by
  have hsplit {segments : List Text} {t : Text} (h : Writes segments t) :
      splitPath t = segments := by
    induction h with
    | nil => rfl
    | separator hc rest ih => rw [splitPath_cons hc, ih]
    | segment nonempty solid behind rest ih => rw [splitPath_append nonempty solid behind, ih]
  constructor
  · exact hsplit
  · intro h
    obtain ⟨segments', h'⟩ := exists_writes t
    rwa [← h, hsplit h']

theorem ne_nil_of_mem_splitPath (h : segment ∈ splitPath path) : segment ≠ [] := by
  simpa using (List.mem_filter.1 h).2

theorem isPathSeparator_eq_false_of_mem (h : segment ∈ splitPath path) (hc : c ∈ segment) :
    isPathSeparator c = false :=
  isSeparator_eq_false_of_mem (List.mem_filter.1 h).1 c hc

/-! ## Extensions -/

/-- Whether a segment is a dot with an extension behind it and no name in front. -/
def isBareExtension : Text → Bool
  | .char '.' :: ext => !ext.isEmpty && !ext.contains '.'
  | _ => false

theorem stripExtension_append {stem ext : Text} (hdot : .char '.' ∉ ext) :
    stripExtension (stem ++ .char '.' :: ext) =
      if ext ≠ [] ∧ .char '/' ∉ ext then stem else stem ++ .char '.' :: ext := by
  have hafter : ((stem ++ .char '.' :: ext).reverse.takeWhile (· != .char '.')).reverse = ext := by
    have hreverse : (stem ++ .char '.' :: ext).reverse =
        ext.reverse ++ .char '.' :: stem.reverse := by simp
    rw [hreverse, List.takeWhile_append_of_pos, List.takeWhile_cons_of_neg (by simp),
      List.append_nil, List.reverse_reverse]
    intro c hc
    simpa using fun heq : c = '.' => hdot (heq ▸ List.mem_reverse.1 hc)
  have hlength : (stem ++ .char '.' :: ext).length - ext.length - 1 = stem.length := by
    rw [List.length_append, List.length_cons]
    omega
  rw [stripExtension]
  simp only [hafter, hlength, List.take_left]
  simp

theorem stripExtension_of_notMem (h : .char '.' ∉ segment) : stripExtension segment = segment := by
  simp [stripExtension, h]

theorem exists_last_dot (h : .char '.' ∈ segment) :
    ∃ stem ext, segment = stem ++ .char '.' :: ext ∧ .char '.' ∉ ext := by
  obtain ⟨ext, stem, hsplit, hdot⟩ := List.eq_append_cons_of_mem (List.mem_reverse.2 h)
  refine ⟨stem.reverse, ext.reverse, ?_, by simpa using hdot⟩
  rw [← List.reverse_reverse segment, hsplit]
  simp

/-- A segment loses all of its characters exactly if it is nothing but an extension. -/
theorem stripExtension_eq_nil_iff (hne : segment ≠ []) (hslash : .char '/' ∉ segment) :
    stripExtension segment = [] ↔ isBareExtension segment = true := by
  by_cases hmem : .char '.' ∈ segment
  · obtain ⟨stem, ext, rfl, hdot⟩ := exists_last_dot hmem
    have hext : .char '/' ∉ ext := fun h => hslash (by simp [h])
    rw [stripExtension_append hdot]
    cases stem with
    | nil => simp [isBareExtension, hext, hdot]
    | cons c stem =>
      -- Behind a dot at the start, the last dot is another one.
      have hbare : isBareExtension (c :: stem ++ .char '.' :: ext) = false := by
        rw [List.cons_append]
        unfold isBareExtension
        split
        · next heq => simp [← (List.cons.inj heq).2]
        · rfl
      rw [hbare]
      split <;> simp
  · have hbare : isBareExtension segment = false := by
      unfold isBareExtension
      split
      · exact absurd List.mem_cons_self hmem
      · rfl
    simp [stripExtension_of_notMem hmem, hbare, hne]

/-! ## Kept segments -/

/-- The segments that are kept of a path. -/
def keptSegments (path : Text) : List Text := stripLast (meaningfulSegments (splitPath path))

theorem stripLast_concat (front : List Text) (last : Text) :
    stripLast (front ++ [last]) = front ++ [stripExtension last] := by
  induction front with
  | nil => rfl
  | cons first front ih =>
    obtain ⟨second, rest, hrest⟩ := List.exists_cons_of_ne_nil (l := front ++ [last]) (by simp)
    rw [List.cons_append, hrest, stripLast, ← hrest, ih, List.cons_append]
    simp

theorem isSiteRoot_iff : isSiteRoot segment = true ↔ lower segment ∈ siteRoots :=
  List.contains_iff_mem

/-- Of segments with a site root, those behind the first one count, or all if there are none. -/
theorem meaningfulSegments_append {front : List Text} {root : Text}
    (hfront : ∀ s ∈ front, isSiteRoot s = false) (hroot : isSiteRoot root = true)
    (rest : List Text) :
    meaningfulSegments (front ++ root :: rest) =
      if rest = [] then front ++ [root] else rest := by
  have hdrop : (front ++ root :: rest).dropWhile (!isSiteRoot ·) = root :: rest := by
    rw [List.dropWhile_append_of_pos (by simpa using hfront),
      List.dropWhile_cons_of_neg (by simp [hroot])]
  rw [meaningfulSegments, hdrop, List.drop_one, List.tail_cons]
  cases rest <;> rfl

theorem meaningfulSegments_of_forall (h : ∀ s ∈ segments, isSiteRoot s = false) :
    meaningfulSegments segments = segments := by
  have hdrop : segments.dropWhile (!isSiteRoot ·) = [] := by
    rw [List.dropWhile_eq_nil_iff]
    simpa using h
  rw [meaningfulSegments, hdrop]
  rfl

/-- The segments that count are the last ones, and there are some if there are segments at all. -/
theorem exists_append_meaningfulSegments (h : segments ≠ []) :
    meaningfulSegments segments ≠ [] ∧
      ∃ skipped, segments = skipped ++ meaningfulSegments segments := by
  cases hfind : segments.find? isSiteRoot with
  | none =>
    have hnone : ∀ s ∈ segments, isSiteRoot s = false := by
      simpa using List.find?_eq_none.1 hfind
    rw [meaningfulSegments_of_forall hnone]
    exact ⟨h, [], rfl⟩
  | some root =>
    obtain ⟨hroot, front, rest, rfl, hfront⟩ := List.find?_eq_some_iff_append.1 hfind
    rw [meaningfulSegments_append (by simpa using hfront) hroot]
    split
    · next hrest => exact ⟨by simp, [], by rw [hrest, List.nil_append]⟩
    · next hrest => exact ⟨hrest, front ++ [root], by simp⟩

/-- Of a path with segments, the last one is kept without its extension, behind some that stand in
front of it in the path. -/
theorem exists_keptSegments (h : splitPath path ≠ []) :
    ∃ skipped front last, splitPath path = skipped ++ front ++ [last] ∧
      keptSegments path = front ++ [stripExtension last] := by
  obtain ⟨hne, skipped, hsplit⟩ := exists_append_meaningfulSegments h
  refine ⟨skipped, (meaningfulSegments (splitPath path)).dropLast,
    (meaningfulSegments (splitPath path)).getLast hne, ?_, ?_⟩
  · rw [List.append_assoc, List.dropLast_concat_getLast]
    exact hsplit
  · conv => lhs; rw [keptSegments, ← List.dropLast_concat_getLast hne, stripLast_concat]

/-! ## Pieces -/

/-- What an abbreviation has of a segment. -/
def piece (length : Int) (segment : Text) : Text := lower (upTo segment length)

theorem abbreviatePath_eq_join (path : Text) (length : Int) :
    abbreviatePath path length = join "-" ((keptSegments path).map (piece length)) := rfl

@[simp] theorem piece_nil (length : Int) : piece length [] = [] := by simp [piece, upTo]

theorem piece_ne_nil (hlength : 1 ≤ length) (h : segment ≠ []) : piece length segment ≠ [] := by
  obtain ⟨n, rfl⟩ := Int.eq_ofNat_of_zero_le (by omega : 0 ≤ length)
  refine lower_ne_nil ?_
  rw [upTo_natCast, Ne, List.take_eq_nil_iff, not_or]
  exact ⟨by omega, h⟩

/-- Whether a text begins with all of the piece of the first segment and ends with all of that of
the last one, and both are there. -/
structure IsFramed (length : Int) (segments : List Text) (t : Text) : Prop where
  starts : ∃ first, segments.head? = some first ∧ piece length first ≠ [] ∧ piece length first <+: t
  ends : ∃ last, segments.getLast? = some last ∧ piece length last ≠ [] ∧ piece length last <:+ t

theorem isFramed_join (hlength : 1 ≤ length) (hne : segments ≠ []) (h : ∀ s ∈ segments, s ≠ []) :
    IsFramed length segments (join "-" (segments.map (piece length))) where
  starts := by
    obtain ⟨first, rest, rfl⟩ := List.exists_cons_of_ne_nil hne
    exact ⟨first, rfl, piece_ne_nil hlength (h first List.mem_cons_self), prefix_join _ _ _⟩
  ends := by
    have hmap : segments.map (piece length) =
        segments.dropLast.map (piece length) ++ [piece length (segments.getLast hne)] := by
      conv => lhs; rw [← List.dropLast_concat_getLast hne, List.map_append, List.map_singleton]
    refine ⟨segments.getLast hne, List.getLast?_eq_some_getLast hne,
      piece_ne_nil hlength (h _ (List.getLast_mem hne)), ?_⟩
    rw [hmap]
    exact suffix_join _ _ _

/-- Of a path with segments, each kept one is something and the abbreviation begins and ends in
pieces of kept segments, exactly if the last segment is not a bare extension. A bare extension
leaves an empty segment, which gives nothing but the hyphen in front of it. -/
theorem abbreviatePath_isFramed_iff (hpath : splitPath path ≠ []) (hlength : 1 ≤ length) :
    ((∀ s ∈ keptSegments path, s ≠ []) ∧ abbreviatePath path length ≠ [] ∧
        IsFramed length (keptSegments path) (abbreviatePath path length) ↔
      isBareExtension ((splitPath path).getLast hpath) = false) ∧
    (isBareExtension ((splitPath path).getLast hpath) = true →
      ∃ front, keptSegments path = front ++ [[]] ∧ abbreviatePath path length =
        if front = [] then [] else join "-" (front.map (piece length)) ++ [Code.char '-']) := by
  obtain ⟨skipped, front, last, hsplit, hkept⟩ := exists_keptSegments hpath
  have hlast : (splitPath path).getLast hpath = last := by
    simp only [hsplit, List.getLast_concat]
  have hmem : last ∈ splitPath path := by simp [hsplit]
  have hslash : .char '/' ∉ last := by
    intro h
    cases isPathSeparator_eq_false_of_mem hmem h
  have hnil := stripExtension_eq_nil_iff (ne_nil_of_mem_splitPath hmem) hslash
  rw [hlast]
  refine ⟨⟨fun h => ?_, fun hbare => ?_⟩, fun hbare => ⟨front, ?_, ?_⟩⟩
  · rw [← Bool.not_eq_true, ← hnil]
    exact h.1 _ (by simp [hkept])
  · have hall : ∀ s ∈ keptSegments path, s ≠ [] := by
      rw [hkept]
      refine List.forall_mem_append.2 ⟨fun s hs => ?_, ?_⟩
      · have hs' : s ∈ splitPath path := by simp [hsplit, hs]
        exact ne_nil_of_mem_splitPath hs'
      · rw [List.forall_mem_singleton, Ne, hnil, hbare]
        exact Bool.false_ne_true
    have hne : keptSegments path ≠ [] := by simp [hkept]
    have hframed := isFramed_join hlength hne hall
    rw [← abbreviatePath_eq_join] at hframed
    obtain ⟨first, -, hpiece, hprefix⟩ := hframed.starts
    exact ⟨hall, fun hempty => hpiece (List.prefix_nil.1 (hempty ▸ hprefix)), hframed⟩
  · rw [hkept, hnil.2 hbare]
  · rw [abbreviatePath_eq_join, hkept, hnil.2 hbare, List.map_append]
    split
    · next hfront => simp [hfront]
    · next hfront =>
      rw [List.map_singleton, piece_nil, join_concat (by simpa using hfront), List.append_nil]
      rfl

/-- Two dots make a name and an extension, and roots behind the first one count. -/
theorem abbreviatePath_isFramed_iff_twoDots :
    ∃ hpath : splitPath "app/x//www\\.c.d" ≠ [],
      (1 : Int) ≤ 2 ∧
      isBareExtension ((splitPath "app/x//www\\.c.d").getLast hpath) = false ∧
      (∀ s ∈ keptSegments "app/x//www\\.c.d", s ≠ []) ∧
      abbreviatePath "app/x//www\\.c.d" 2 ≠ [] ∧
      IsFramed 2 (keptSegments "app/x//www\\.c.d") (abbreviatePath "app/x//www\\.c.d" 2) := by
  have hpath : splitPath "app/x//www\\.c.d" ≠ [] := by decide
  have hbare : isBareExtension ((splitPath "app/x//www\\.c.d").getLast hpath) = false := rfl
  exact ⟨hpath, by decide, hbare, (abbreviatePath_isFramed_iff hpath (by decide)).1.2 hbare⟩

/-- Nothing is left of a name that starts with its only dot. -/
theorem abbreviatePath_env :
    splitPath ".env" = [(".env" : Text)] ∧ keptSegments ".env" = [[]] ∧
      abbreviatePath ".env" 3 = [] ∧ abbreviatePath "a/.env" 3 = "a-" := by
  decide

/-! ## Site roots -/

theorem stripExtension_of_mem_siteRoots (h : lower segment ∈ siteRoots) :
    stripExtension segment = segment := by
  refine stripExtension_of_notMem fun hdot => ?_
  have hlower : .char '.' ∈ lower segment :=
    mem_lowerAfter_of_mem_lowerChar hdot (by decide) (by decide)
  have hroots : ∀ root ∈ siteRoots, .char '.' ∉ root := by decide
  exact hroots _ h hlower

/-- What is kept of the segments in front of a first site root, of the root and of those behind. -/
theorem keptSegments_of_writes {front rest : List Text} {root : Text}
    (hfront : ∀ s ∈ front, lower s ∉ siteRoots) (hroot : lower root ∈ siteRoots)
    (h : Writes (front ++ root :: rest) path) :
    keptSegments path = stripLast (if rest = [] then front ++ [root] else rest) := by
  have hfront' : ∀ s ∈ front, isSiteRoot s = false := by
    intro s hs
    rw [Bool.eq_false_iff, Ne, isSiteRoot_iff]
    exact hfront s hs
  rw [keptSegments, writes_iff.1 h, meaningfulSegments_append hfront' (isSiteRoot_iff.2 hroot)]

/-- However a path is written, segments behind its first site root are abbreviated alike, whatever
is in front and however the root is spelt, with the extension of the last one left out and further
roots as they are. A root at the end is abbreviated with all that is in front. -/
theorem abbreviatePath_of_writes {front : List Text} {root : Text}
    (hfront : ∀ s ∈ front, lower s ∉ siteRoots) (hroot : lower root ∈ siteRoots) (length : Int) :
    (∀ more last path, Writes (front ++ root :: (more ++ [last])) path →
      abbreviatePath path length =
        join "-" ((more ++ [stripExtension last]).map fun s => lower (s.upTo length))) ∧
    ∀ path, Writes (front ++ [root]) path →
      abbreviatePath path length =
        join "-" ((front ++ [stripExtension root]).map fun s => lower (s.upTo length)) ∧
      stripExtension root = root := by
  constructor
  · intro more last path h
    rw [abbreviatePath_eq_join, keptSegments_of_writes hfront hroot h, if_neg (by simp),
      stripLast_concat]
    rfl
  · intro path h
    refine ⟨?_, stripExtension_of_mem_siteRoots hroot⟩
    rw [abbreviatePath_eq_join, keptSegments_of_writes hfront hroot h, if_pos rfl, stripLast_concat]
    rfl

/-- The root of a path in mixed spelling, with a further root behind it and without. -/
theorem abbreviatePath_of_writes_mixed :
    (∀ s ∈ [("lib" : Text)], lower s ∉ siteRoots) ∧ lower "App" ∈ siteRoots ∧
    Writes ([("lib" : Text)] ++ ("App" : Text) ::
      ([("views" : Text), ("src" : Text)] ++ [("home.tsx" : Text)]))
      "\\lib//App/views\\src/home.tsx/" ∧
    abbreviatePath "\\lib//App/views\\src/home.tsx/" 3 = "vie-src-hom" ∧
    Writes ([("lib" : Text)] ++ [("App" : Text)]) "lib/App\\/" ∧
    abbreviatePath "lib/App\\/" 3 = "lib-app" := by
  have hfront : ∀ s ∈ [("lib" : Text)], lower s ∉ siteRoots := by decide
  have hroot : lower "App" ∈ siteRoots := by decide
  have hwrites : Writes
      ([("lib" : Text)] ++ ("App" : Text) ::
        ([("views" : Text), ("src" : Text)] ++ [("home.tsx" : Text)]))
      "\\lib//App/views\\src/home.tsx/" := writes_iff.2 (by decide)
  have hend : Writes ([("lib" : Text)] ++ [("App" : Text)]) "lib/App\\/" := writes_iff.2 (by decide)
  obtain ⟨hbehind, hlast⟩ := abbreviatePath_of_writes hfront hroot 3
  exact ⟨hfront, hroot, hwrites, (hbehind _ _ _ hwrites).trans (by decide), hend,
    (hlast _ hend).1.trans (by decide)⟩

end MarkupNaming.Naming
