import Mathlib.Tactic.IntervalCases
import MarkupNaming.Proofs.Files.Writing
import MarkupNaming.Proofs.Settings.Rereading
import MarkupNaming.Proofs.Text.Encoding
import MarkupNaming.Proofs.Yaml.Construction
import MarkupNaming.Proofs.Yaml.Parsing
import MarkupNaming.Settings.File

/-!
# Saving and loading settings

What is loaded from the file in which settings have just been saved. Each text is read back from
the scalar that it was written as, so nothing is lost but next line characters in single quotes.
-/
namespace MarkupNaming
open Text Yaml

theorem Text.normalizeBreaks_eq_self {t : Text} (h : .char '\r' ∉ t) : normalizeBreaks t = t := by
  induction t with
  | nil => rfl
  | cons c t ih =>
    obtain ⟨hc, ht⟩ := not_or.1 (mt List.mem_cons.2 h)
    rw [normalizeBreaks, ih ht]
    · rintro rest rfl -
      exact hc rfl
    · rintro rfl
      exact hc rfl

/-- A written record is read as its value. -/
theorem Yaml.read_document {room : Room} {depth : Nat} {fields : List (Text × Data)}
    (h : Data.Fits depth (.record fields)) (hdepth : depth ≤ greatestDepth)
    (hroom : depth ≤ room.nesting) :
    Yaml.read room (Data.document fields) = .ok (Data.record fields).readValue := by
  have hlast : 2 * depth < lastColumn := by
    simp only [greatestDepth, lastColumn] at hdepth ⊢
    omega
  obtain ⟨root, g, hdocument, hroot⟩ := Document.exists_ofText h hlast hroom
  rw [Yaml.read, hdocument]
  exact Document.value_of_denotes room hroot hdepth

/-! ## Settings as data -/

/-- A record fits whose keys stand as they are in front of their colons. -/
theorem fits_record (keys : List Key) {fields : List (Text × Data)} {depth : Nat}
    (hkeys : ∀ k ∈ keys, k.camel ≠ [] ∧ k.camel.all Reading.isAlphanumeric = true ∧
      k.camel.length ≤ 1024 ∧ Style.ofText k.camel = .plain)
    (hfields : fields.map (·.1) = keys.map (·.camel)) (hne : fields ≠ [])
    (hnodup : (fields.map (·.1)).Nodup) (h : ∀ field ∈ fields, Data.Fits depth field.2) :
    Data.Fits (depth + 1) (.record fields) := by
  refine .record hne (fun field hfield => ?_) hnodup h
  have hmem : field.1 ∈ keys.map (·.camel) := hfields ▸ List.mem_map_of_mem hfield
  obtain ⟨k, hk, hkey⟩ := List.mem_map.1 hmem
  obtain ⟨hne, hall, hshort, hstyle⟩ := hkeys k hk
  exact hkey ▸ ⟨Reading.isSimpleWord_of_isAlphanumeric hne hall hshort, hstyle⟩

/-- A list of records fits. -/
theorem fits_records {α : Type} {fields : α → List (Text × Data)} {depth : Nat}
    (h : ∀ a, Data.Fits depth (.record (fields a))) (items : List α) :
    Data.Fits (depth + 1) (.list (items.map (.record <| fields ·))) := by
  refine .list ?_ ?_
  · intro d hd
    obtain ⟨a, -, rfl⟩ := List.mem_map.1 hd
    rfl
  · intro d hd
    obtain ⟨a, -, rfl⟩ := List.mem_map.1 hd
    exact h a

theorem fits_texts {depth : Nat} (texts : List Text) :
    Data.Fits (depth + 1) (.list (texts.map .text)) := by
  refine .list ?_ ?_
  · intro d hd
    obtain ⟨t, -, rfl⟩ := List.mem_map.1 hd
    rfl
  · intro d hd
    obtain ⟨t, -, rfl⟩ := List.mem_map.1 hd
    exact .text t

theorem isReadable_of_le {n : Nat} (h : n ≤ 32) : Data.IsReadable n := by
  have hword : ∀ n < 33, ofInt (n : Nat) ≠ [] ∧
      (ofInt (n : Nat)).all Reading.isAlphanumeric = true ∧
        (ofInt (n : Nat)).length ≤ 1024 := by decide
  have htag : ∀ n < 33, impliedTag (ofInt (n : Nat)) = .integer := by decide
  have hlt := Nat.lt_succ_of_le h
  refine ⟨Reading.isSimpleWord_of_isAlphanumeric (hword n hlt).1 (hword n hlt).2.1
    (hword n hlt).2.2, htag n hlt, ?_⟩
  interval_cases n <;> rfl

theorem Release.fits_fields (r : Release) : Data.Fits 2 (.record r.fields) := by
  refine fits_record [Keys.name, Keys.expiry] (by decide) rfl (by simp [fields])
    r.nodup_keys ?_
  simp only [fields, Key.field, List.forall_mem_cons, List.not_mem_nil, false_implies, implies_true,
    and_true]
  exact ⟨.text _, .text _⟩

theorem CustomRule.fits_fields (r : CustomRule) : Data.Fits 2 (.record r.fields) := by
  refine fits_record [Keys.id, Keys.name, Keys.options, Keys.separator] (by decide) rfl
    (by simp [fields]) r.nodup_keys ?_
  simp only [fields, Key.field, List.forall_mem_cons, List.not_mem_nil, false_implies, implies_true,
    and_true]
  exact ⟨.text _, .text _, fits_texts _, .text _⟩

theorem PathMarker.fits_fields (m : PathMarker) : Data.Fits 3 (.record m.fields) := by
  refine fits_record [Keys.enabled, Keys.attributeName] (by decide +kernel) rfl
    (by simp [fields]) m.nodup_keys ?_
  simp only [fields, Key.field, List.forall_mem_cons, List.not_mem_nil, false_implies, implies_true,
    and_true]
  exact ⟨.bool _, .text _⟩

namespace Settings

/-- All texts of settings. -/
def texts (s : Settings) : List Text :=
  s.label :: s.defaultRelease :: s.pathMarker.name.text ::
    (s.releases.flatMap fun r => [r.name, r.expiry]) ++
      s.customRules.flatMap fun r => r.id :: r.name :: r.separator :: r.options

/-- Settings with other texts. The name of an attribute is left as it is. -/
def mapTexts (f : Text → Text) (s : Settings) : Settings :=
  { s with
    label := f s.label
    defaultRelease := f s.defaultRelease
    releases := s.releases.map fun r => ⟨f r.name, f r.expiry⟩
    customRules := s.customRules.map fun r =>
      ⟨f r.id, f r.name, r.options.map f, f r.separator⟩ }

theorem fits_fields (s : Settings) : Data.Fits 4 (.record s.fields) := by
  refine fits_record keys (by decide) rfl (by simp [fields]) s.nodup_keys ?_
  simp only [fields, Key.field, List.forall_mem_cons, List.not_mem_nil, false_implies, implies_true,
    and_true]
  exact ⟨.text _, .int (isReadable_of_le s.pathHashLength.le_greatest),
    .int (isReadable_of_le s.domHashLength.le_greatest),
    .int (isReadable_of_le s.abbreviationLength.le_greatest), .text _,
    fits_records Release.fits_fields _, .text _, fits_records CustomRule.fits_fields _,
    s.pathMarker.fits_fields⟩

theorem mapText_fields {f : Text → Text} (s : Settings) (hcase : ∀ c : NameCase, f c.text = c.text)
    (hname : f s.pathMarker.name.text = s.pathMarker.name.text) :
    (Data.record s.fields).mapText f = .record (s.mapTexts f).fields := by
  simp [fields, mapTexts, Data.mapText, Key.field, Release.fields, CustomRule.fields,
    PathMarker.fields, hcase, hname, Function.comp_def]

theorem not_mem_name (n : MarkerName) : .char '\x85' ∉ n.text := fun hmem => by
  have haccepted := n.accepted
  simp only [isMarkerName, Bool.and_eq_true, List.all_eq_true, Bool.not_eq_true'] at haccepted
  have hblank := (haccepted.2 _ hmem).1
  exact absurd hblank (by decide)

theorem readBack_name (n : MarkerName) : readBack n.text = n.text :=
  readBack_eq_self_iff.2 fun _ => not_mem_name n

theorem readBack_case (c : NameCase) : readBack c.text = c.text :=
  readBack_eq_self_iff.2 fun _ => by cases c <;> decide

/-- Whatever texts settings have, the text in which they are written has bytes. -/
theorem isEncodable_written (s : Settings) : Utf8.IsEncodable s.written := fun c hc =>
  Style.isSurrogate_of_isLiteral
    (List.all_eq_true.1 (Data.all_isLiteral_document s.fields) c hc)

/-- Settings are saved wherever a file can be written. -/
theorem exists_save (s : Settings) {tree made : FileTree} {directory path : Path} {target : Place}
    (hmake : tree.makeDirectories directory path.parent = .ok made)
    (hwritable : made.writable directory path = .ok target) :
    ∃ saved, s.save tree directory path = .ok saved := by
  obtain ⟨content, hcontent⟩ := Utf8.exists_encode_strict_iff.2 s.isEncodable_written
  exact ⟨_, save_eq_ok_iff.2 ⟨made, hmake,
    FileTree.write_eq_ok_iff.2 ⟨target, content, hwritable, hcontent, rfl⟩⟩⟩

/-- The settings in a written text are those with each text as it is read back. -/
theorem ofContent_written (room : Room) {s : Settings} (path : Path) {content : List UInt8}
    (h : Utf8.encode .strict s.written = .ok content) :
    ofContent room path content = .ok (s.mapTexts readBack) := by
  have hreturn : .char '\r' ∉ s.written := fun hmem => Style.ne_return_of_isLiteral
    (List.all_eq_true.1 (Data.all_isLiteral_document s.fields) _ hmem) rfl
  have hread : Yaml.read room s.written =
      .ok (Data.record (s.mapTexts readBack).fields).toValue := by
    rw [written, read_document s.fits_fields (by decide) room.enough.1, Data.readValue,
      mapText_fields s readBack_case (readBack_name _)]
  rw [ofContent, Utf8.decode_of_encode h]
  simp only [normalizeBreaks_eq_self hreturn, hread, ofValue_toValue]
  rfl

theorem load_of_save {room : Room} {s : Settings} {tree saved : FileTree} {directory path : Path}
    (h : s.save tree directory path = .ok saved) :
    load room saved directory path = .ok (s.mapTexts readBack) := by
  obtain ⟨made, -, hwrite⟩ := save_eq_ok_iff.1 h
  obtain ⟨content, hcontent, hread⟩ := FileTree.read_of_write hwrite
  rw [load, hread]
  exact ofContent_written room path hcontent

theorem map_eq_self_iff {α : Type} {f : α → α} {items : List α} :
    items.map f = items ↔ ∀ a ∈ items, f a = a := by
  have hmap : items.map f = items.map id ↔ ∀ a ∈ items, f a = id a := List.map_inj_left
  rwa [List.map_id] at hmap

theorem mapTexts_eq_self_iff {f : Text → Text} {s : Settings}
    (hname : f s.pathMarker.name.text = s.pathMarker.name.text) :
    s.mapTexts f = s ↔ ∀ t ∈ s.texts, f t = t := by
  obtain ⟨label, pathHashLength, domHashLength, abbreviationLength, nameCase, releases,
    defaultRelease, customRules, pathMarker⟩ := s
  have hrelease (r : Release) : (⟨f r.name, f r.expiry⟩ : Release) = r ↔
      ∀ t ∈ [r.name, r.expiry], f t = t := by
    cases r
    simp
  have hrule (r : CustomRule) :
      (⟨f r.id, f r.name, r.options.map f, f r.separator⟩ : CustomRule) = r ↔
        ∀ t ∈ r.id :: r.name :: r.separator :: r.options, f t = t := by
    cases r
    simp only [CustomRule.mk.injEq, map_eq_self_iff, List.forall_mem_cons]
    tauto
  simp only [mapTexts, texts, mk.injEq, map_eq_self_iff, hrelease, hrule, List.forall_mem_append,
    List.forall_mem_cons, List.forall_mem_flatMap]
  tauto

/-- Settings that have been saved in a file are loaded from it. They are the same if and only if
no text that is written in single quotes has a next line character. -/
theorem exists_load_save_iff {room : Room} {s : Settings} {tree saved : FileTree}
    {directory path : Path} (h : s.save tree directory path = .ok saved) :
    ∃ loaded, load room saved directory path = .ok loaded ∧
      (loaded = s ↔ ∀ t ∈ s.texts, Style.ofText t = .single → .char '\x85' ∉ t) := by
  refine ⟨_, load_of_save h, (mapTexts_eq_self_iff (readBack_name _)).trans ?_⟩
  exact forall₂_congr fun t _ => readBack_eq_self_iff

theorem exists_load_save_iff_labelled : ∃ saved loaded,
    save { label := "it's: a\nlabel " } {} (.ofText "/") (.ofText "cssgps.yml") = .ok saved ∧
      load ⟨489, 480, 480, by decide⟩ saved (.ofText "/") (.ofText "cssgps.yml") = .ok loaded ∧
        loaded = { label := "it's: a\nlabel " } := by
  obtain ⟨saved, hsave⟩ : ∃ saved,
      save { label := "it's: a\nlabel " } {} (.ofText "/") (.ofText "cssgps.yml") = .ok saved :=
    exists_save _ rfl rfl
  obtain ⟨loaded, hload, hsame⟩ := exists_load_save_iff hsave
  exact ⟨saved, loaded, hsave, hload, hsame.2 (by decide)⟩

/-- A next line character in single quotes is read back as a space. -/
theorem load_save_nextLine : ∃ saved,
    save { label := [.char 'a', .char '\x85', .char 'b'] } {} (.ofText "/")
        (.ofText "cssgps.yml") = .ok saved ∧
      (∀ room, load room saved (.ofText "/") (.ofText "cssgps.yml") = .ok { label := "a b" }) ∧
        ({ label := "a b" } : Settings) ≠ { label := [.char 'a', .char '\x85', .char 'b'] } := by
  obtain ⟨saved, hsave⟩ : ∃ saved,
      save { label := [.char 'a', .char '\x85', .char 'b'] } {} (.ofText "/")
        (.ofText "cssgps.yml") = .ok saved := exists_save _ rfl rfl
  refine ⟨saved, hsave, fun room => (load_of_save hsave).trans (congrArg Except.ok ?_), by decide⟩
  decide

end Settings
end MarkupNaming
