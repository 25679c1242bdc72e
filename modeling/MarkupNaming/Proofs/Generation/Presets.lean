import MarkupNaming.Proofs.Generation.Repetition
import MarkupNaming.Proofs.Naming.Composition

/-!
# Preset rules with a hash

Two of the preset rules end in a hash: of the path of the document, or of the tags around the
place in it. Neither text can be empty, and the tags always have bytes. So these rules name every
element that is located, and their names end in as many digits as the settings ask for, unless a
path is hashed that has no bytes.
-/
namespace MarkupNaming
open Text

/-! ## Digits of a digest -/

/-- A lowercase hexadecimal digit. -/
def isHexDigit (c : Code) : Bool := isAsciiDigit c || ('a' ≤ c && c ≤ 'f')

namespace Md5
variable {message : List UInt8}

theorem hexDigits_byte (byte : UInt8) :
    (hexDigits 2 byte.toNat).length = 2 ∧ ∀ c ∈ hexDigits 2 byte.toNat, isHexDigit c = true := by
  have hbytes : ∀ n < 256, (hexDigits 2 n).length = 2 ∧ (hexDigits 2 n).all isHexDigit = true := by
    decide +kernel
  obtain ⟨hlength, hall⟩ := hbytes byte.toNat byte.toNat_lt
  exact ⟨hlength, List.all_eq_true.1 hall⟩

@[simp] theorem length_digest (message : List UInt8) : (digest message).length = 16 := by
  simp [digest, littleEndian]

theorem isHexDigit_of_mem_hex {c : Code} (h : c ∈ hex message) : isHexDigit c = true := by
  obtain ⟨byte, -, hc⟩ := List.mem_flatMap.1 h
  exact (hexDigits_byte byte).2 c hc

@[simp] theorem length_hex (message : List UInt8) : (hex message).length = 32 := by
  have htwo (bytes : List UInt8) :
      (bytes.flatMap fun byte => hexDigits 2 byte.toNat).length = 2 * bytes.length := by
    induction bytes with
    | nil => rfl
    | cons byte bytes ih =>
      rw [List.flatMap_cons, List.length_append, (hexDigits_byte byte).1, ih, List.length_cons]
      omega
  rw [hex, htwo, length_digest]

end Md5

/-! ## Paths -/

namespace Path
variable {s : Surroundings} {t : Text} {p : Path}

/-- Whether no component of a path is empty. -/
def IsNormal (p : Path) : Prop := ∀ c ∈ p.components, c ≠ []

/-- Whether the working directory and the home directories are normal. -/
structure Surroundings.IsNormal (s : Surroundings) : Prop where
  directory : s.directory.IsNormal
  homes : ∀ home ∈ s.homes, home.2.IsNormal

theorem isNormal_ofText (t : Text) : (ofText t).IsNormal := by
  intro c hc
  have := (List.mem_filter.1 hc).2
  simp only [decide_eq_true_eq] at this
  exact this.1

theorem IsNormal.append {directory : Path} (hdirectory : directory.IsNormal) (hp : p.IsNormal) :
    (directory ++ p).IsNormal := by
  change (if p.isAbsolute then p else _ : Path).IsNormal
  split
  · exact hp
  · intro c hc
    exact (List.mem_append.1 hc).elim (hdirectory c) (hp c)

theorem isNormal_of_absolute (hs : s.IsNormal) (h : absolute s t = .ok p) : p.IsNormal := by
  unfold absolute at h
  cases hexpand : expandHome s (ofText t) with
  | error fault =>
    rw [hexpand] at h
    cases h
  | ok q =>
    rw [hexpand] at h
    obtain rfl := Except.ok.inj h
    refine hs.directory.append ?_
    have ht := isNormal_ofText t
    unfold expandHome at hexpand
    split at hexpand
    · next owner rest _ hcomponents =>
      have hrest : IsNormal ⟨.relative, rest⟩ := by
        intro c hc
        exact ht c (by rw [hcomponents]; exact List.mem_cons_of_mem _ hc)
      split at hexpand
      · cases hexpand
      · next bytes _ =>
        split at hexpand
        · cases hexpand
        · split at hexpand
          · next home hlookup =>
            obtain rfl := Except.ok.inj hexpand
            obtain ⟨front, back, heq, -⟩ := List.lookup_eq_some_iff.1 hlookup
            have hmem : (bytes, home) ∈ s.homes := by
              rw [heq]
              exact List.mem_append_right _ List.mem_cons_self
            exact (hs.homes _ hmem).append hrest
          · cases hexpand
    · obtain rfl := Except.ok.inj hexpand
      exact ht

/-- The text of a normal path is not empty. -/
theorem IsNormal.text_ne_nil (h : p.IsNormal) : p.text ≠ [] := by
  unfold text
  split
  · decide
  · next hnot =>
    cases hroot : p.root with
    | relative =>
      obtain ⟨c, rest, hcomponents⟩ :=
        List.exists_cons_of_ne_nil fun hnil => hnot ⟨hroot, hnil⟩
      have hc : c ∈ p.components := by
        rw [hcomponents]
        exact List.mem_cons_self
      exact List.append_ne_nil_of_right_ne_nil _ (join_ne_nil hc (h c hc))
    | single => simp [Root.text]
    | double => simp [Root.text]

end Path

/-! ## Names -/

namespace Naming
open Markup

theorem pathFrom_ne_nil {p : Path} (h : p.IsNormal) (workspace : Option Path) :
    pathFrom workspace p ≠ [] := by
  unfold pathFrom
  refine Path.IsNormal.text_ne_nil ?_
  cases hrelative : workspace.bind p.relativeTo? with
  | none => exact h
  | some q =>
    obtain ⟨directory, -, hq⟩ := Option.bind_eq_some_iff.1 hrelative
    unfold Path.relativeTo? at hq
    rw [Option.ite_none_right_eq_some] at hq
    obtain rfl := Option.some.inj hq.2
    exact fun c hc => h c (List.mem_of_mem_drop hc)

theorem Context.relativePath_ne_nil {s : Path.Surroundings} {path document : Text} {offset : Int}
    {workspace : Option Text} {context : Context} (hs : s.IsNormal)
    (h : ofFile s path document offset workspace = .ok context) : context.relativePath ≠ [] := by
  obtain ⟨p, root, hp, -, hmake⟩ := ofFile_eq_ok_iff.1 h
  rw [(path_of_make hmake).1]
  refine pathFrom_ne_nil (Path.isNormal_of_absolute hs (t := path) ?_) root
  cases habsolute : Path.absolute s path with
  | error fault =>
    rw [habsolute] at hp
    cases hp
  | ok q =>
    rw [habsolute] at hp
    rw [Except.ok.inj hp]

theorem markerValue_ne_nil {context : Context} (h : context.relativePath ≠ [])
    (settings : Settings) : markerValue context settings ≠ [] := by
  unfold markerValue
  dsimp only
  split
  · exact h
  · next hcondensed => exact fun hnil => hcondensed (List.isEmpty_iff.2 hnil)

theorem length_shortHash {t hash : Text} {n : Nat} (hhash : shortHash t n = .ok hash)
    (h : n ≤ 32) : hash.length = n := by
  obtain ⟨bytes, -, rfl⟩ := shortHash_eq_ok_iff.1 hhash
  rw [List.length_take, Md5.length_hex, Int.toNat_natCast]
  omega

theorem isHexDigit_of_mem_shortHash {t hash : Text} {length : Int}
    (hhash : shortHash t length = .ok hash) {c : Code} (h : c ∈ hash) : isHexDigit c = true := by
  obtain ⟨bytes, -, rfl⟩ := shortHash_eq_ok_iff.1 hhash
  exact Md5.isHexDigit_of_mem_hex (List.mem_of_mem_take h)

/-- A last part that is not empty stands at the end of a name, behind nothing or a separator. -/
theorem exists_compose_concat (separator : Text) (parts : List Text) {last : Text}
    (h : last ≠ []) :
    ∃ front, compose separator (parts ++ [last]) = front ++ last ∧
      (front = [] ∨ separator <:+ front) := by
  rw [compose_append, compose_singleton]
  by_cases hparts : compose separator parts = []
  · exact ⟨[], by rw [hparts, joined_nil_left, List.nil_append], .inl rfl⟩
  · exact ⟨_, joined_of_ne_nil hparts h, .inr (List.suffix_append _ separator)⟩

/-- A rule of three segments of which only the last one may be a fault. -/
theorem Rule.generate_eq_map_last {rule : Rule} {context : Context} {settings : Settings}
    {today : Date} {first second last : Segment} {t u : Text}
    (hsegments : rule.segments = [first, second, last])
    (hfirst : first.generate context settings today = .ok t)
    (hsecond : second.generate context settings today = .ok u) :
    rule.generate context settings today = (last.generate context settings today).map fun part =>
      compose rule.separator ([t, u] ++ [part]) := by
  rw [generate, hsegments, List.mapM_cons, hfirst, List.mapM_cons, hsecond, List.mapM_cons,
    List.mapM_nil]
  cases last.generate context settings today with
  | error fault => rfl
  | ok part => rfl

/-- The preset rules that end in a hash. -/
inductive HashPreset
  | path
  | place

namespace HashPreset

/-- The rule itself. -/
def rule : HashPreset → Rule
  | path => .alpha
  | place => .beta

/-- The number of digits that settings ask for. -/
def length (settings : Settings) : HashPreset → Nat
  | path => settings.pathHashLength.val
  | place => settings.domHashLength.val

/-- The text that is hashed. -/
def source (context : Context) : HashPreset → Text
  | path => context.relativePath
  | place => chainText context.chain

variable (preset : HashPreset) (settings : Settings) {context : Context}

theorem length_le : preset.length settings ≤ 32 := by
  cases preset
  · exact settings.pathHashLength.le_greatest
  · exact settings.domHashLength.le_greatest

theorem length_pos : 0 < preset.length settings := by
  have := settings.pathHashLength.least_le
  have := settings.domHashLength.least_le
  cases preset <;> simp only [length] <;> omega

/-- The parts of the name in front of the hash. -/
def parts (context : Context) (settings : Settings) : HashPreset → List Text
  | path => [sanitize (settings.label.take labelLimit),
      abbreviatePath context.relativePath settings.abbreviationLength.val]
  | place => [sanitize (settings.label.take labelLimit),
      abbreviate (context.chain.filter fun tag => lower tag ∉ unspecificTags)
        settings.abbreviationLength.val]

/-- Only a path may have no bytes. -/
theorem eq_path_of_not_isEncodable (h : ¬ Utf8.IsEncodable (preset.source context)) :
    preset = path := by
  cases preset with
  | path => rfl
  | place => exact absurd (isEncodable_chainText_ancestors context.document context.offset) h

/-- Everything but the hash is always made. -/
theorem generate_eq_map (h : preset.source context ≠ []) (today : Date) :
    preset.rule.generate context settings today =
      (shortHash (preset.source context) (preset.length settings)).map fun digits =>
        compose defaultSeparator (preset.parts context settings ++ [digits]) := by
  have hempty : ¬ (preset.source context).isEmpty = true := by simpa using h
  cases preset with
  | path =>
    have hhash : Segment.pathHash.generate context settings today =
        shortHash (path.source context) (path.length settings) := if_neg hempty
    rw [← hhash]
    exact Rule.generate_eq_map_last rfl rfl rfl
  | place =>
    have hhash : Segment.domHash.generate context settings today =
        shortHash (place.source context) (place.length settings) := if_neg hempty
    rw [← hhash]
    exact Rule.generate_eq_map_last rfl rfl rfl

/-- The name ends in the hash, behind nothing or a separator. -/
theorem exists_generate_eq {digits : Text} (h : preset.source context ≠ [])
    (hdigits : shortHash (preset.source context) (preset.length settings) = .ok digits)
    (today : Date) : ∃ front, preset.rule.generate context settings today = .ok (front ++ digits) ∧
      (front = [] ∨ defaultSeparator <:+ front) := by
  have hpos := preset.length_pos settings
  have hne : digits ≠ [] := ne_nil_of_shortHash hdigits (by omega)
  obtain ⟨front, hcompose, hfront⟩ :=
    exists_compose_concat defaultSeparator (preset.parts context settings) hne
  refine ⟨front, ?_, hfront⟩
  rw [preset.generate_eq_map settings h, hdigits, ← hcompose]
  rfl

end HashPreset
end Naming

/-! ## Requests -/

/-- The chain of tags at an element ends in its own. -/
theorem Markup.Tag.getLast?_ancestors (tag : Tag) (front back : Text) :
    (ancestors (front ++ (tag.text ++ back)) front.length).getLast? =
      some (lower tag.name.text) := by
  have hlimit : min front.length (front ++ (tag.text ++ back)).length = front.length := by
    rw [List.length_append]
    omega
  rw [ancestors_eq_chain, Int.toNat_natCast, hlimit, chain, List.drop_left,
    tag.tagName?_text_append]
  simp

namespace Generation.Request
open Naming Markup
variable {r : Request} {s : Path.Surroundings} {today : Date} {document : Text}

/-- A request for a preset rule gets it. -/
theorem selectRule_eq_ok (preset : HashPreset) (hoptions : r.optionIds = [])
    (hid : r.ruleId = some preset.rule.id) : r.selectRule = .ok preset.rule := by
  have hfound : Rule.preset? preset.rule.id = some preset.rule := by cases preset <;> decide
  rw [selectRule_of_ruleId hid (by cases preset <;> decide) hoptions, Rule.resolve, hfound]

/-- A preset rule with a hash names every element that is located, unless it hashes a path that
has no bytes, and its name ends in as many digits as the settings ask for. The tags that may be
hashed end with that of the element, and a path marker that is asked for is not empty. -/
theorem generate_preset {preset : HashPreset} {base : Context} (hs : s.IsNormal)
    (hrule : r.selectRule = .ok preset.rule) (hdocument : r.document = .ok document)
    (hbase : Context.ofFile s r.path document 0 r.workspace = .ok base) :
    (locate? document r.offset r.settings.pathMarker.name.text = none ∧
        ∃ outcome, r.generate s today = .ok outcome ∧ outcome.status = .notFound) ∨
      ∃ e context, locate? document r.offset r.settings.pathMarker.name.text = some e ∧
        Context.ofFile s r.path document e.start r.workspace = .ok context ∧
        context.chain.getLast? = some (lower e.tagName) ∧
        (Utf8.IsEncodable (preset.source context) →
          ∃ outcome front digits, r.generate s today = .ok outcome ∧
            outcome.status = .generated ∧ outcome.element = some e ∧
            outcome.className = front ++ digits ∧ (front = [] ∨ defaultSeparator <:+ front) ∧
            shortHash (preset.source context) (preset.length r.settings) = .ok digits ∧
            digits.length = preset.length r.settings ∧ (∀ c ∈ digits, isHexDigit c = true) ∧
            (r.emitMarker.getD r.settings.pathMarker.enabled = true →
              ∃ value, outcome.markerValue = some value ∧ value ≠ [])) ∧
        (¬ Utf8.IsEncodable (preset.source context) →
          preset = .path ∧ ∃ fault, r.generate s today =
            .error (.encoding fault (r.reported preset.rule e today))) := by
  cases located : locate? document r.offset r.settings.pathMarker.name.text with
  | none => exact .inl ⟨rfl, _, generate_of_notFound hrule hdocument located, rfl⟩
  | some e =>
    obtain ⟨front, tag, back, rfl, rfl⟩ := Tag.exists_of_locate? located
    have hinside : front.length ≤ (front ++ (tag.text ++ back)).length := by simp
    obtain ⟨context, hcontext⟩ := Context.exists_ofFile hbase hinside
    have hchain := Context.chain_of_ofFile hcontext
    have hpath := Context.relativePath_ne_nil hs hcontext
    have hsource : preset.source context ≠ [] := by
      cases preset with
      | path => exact hpath
      | place =>
        rw [HashPreset.source, hchain]
        exact tag.chainText_ancestors_ne_nil front back
    refine .inr ⟨_, context, rfl, hcontext, by rw [hchain]; exact tag.getLast?_ancestors front back,
      fun hencodable => ?_, fun hnot => ⟨preset.eq_path_of_not_isEncodable hnot, ?_⟩⟩
    · obtain ⟨digits, hdigits⟩ := exists_shortHash_iff.2 hencodable
      obtain ⟨before, hname, hbefore⟩ :=
        preset.exists_generate_eq r.settings hsource hdigits today
      have hlength := length_shortHash hdigits (preset.length_le r.settings)
      have hempty : (before ++ digits).isEmpty = false := by
        have := preset.length_pos r.settings
        rw [List.isEmpty_eq_false_iff]
        exact List.append_ne_nil_of_right_ne_nil _ (List.length_pos_iff.1 (by omega))
      refine ⟨_, before, digits, generate_eq_ok hrule hdocument located hcontext hname, ?_,
        element_nameElement, ?_, hbefore, hdigits, hlength,
        fun c => isHexDigit_of_mem_shortHash hdigits, fun hmarker => ?_⟩
      · simp only [nameElement, hempty]
        rfl
      · simp only [nameElement, hempty]
        rfl
      · refine ⟨markerValue context r.settings, ?_, markerValue_ne_nil hpath r.settings⟩
        simp only [nameElement, hempty, hmarker]
        rfl
    · cases hhash : shortHash (preset.source context) (preset.length r.settings) with
      | ok digits => exact absurd (exists_shortHash_iff.1 ⟨digits, hhash⟩) hnot
      | error fault =>
        refine ⟨fault, ?_⟩
        rw [generate_eq_map hrule hdocument located hcontext,
          preset.generate_eq_map r.settings hsource, hhash]
        rfl

/-- A request that names a place without a label, with a marker for the path. -/
def unlabelled : Request where
  path := "~/a.html"
  offset := 9
  document := .ok ("<html><P>x" : Text)
  ruleId := some Rule.beta.id
  emitMarker := some true

theorem generate_preset_unlabelled : ∃ outcome e digits value,
    unlabelled.generate ⟨⟨.single, []⟩, [([], ⟨.single, ["home"]⟩)]⟩ ⟨2024, 5, 1⟩ =
        .ok outcome ∧
      outcome.status = .generated ∧ outcome.element = some e ∧ e.start = 6 ∧
      digits <:+ outcome.className ∧ digits.length = 8 ∧
      outcome.markerValue = some value ∧ value ≠ [] := by
  have hs : Path.Surroundings.IsNormal ⟨⟨.single, []⟩, [([], ⟨.single, ["home"]⟩)]⟩ := by
    refine ⟨by simp [Path.IsNormal], fun home hhome => ?_⟩
    obtain rfl := List.mem_singleton.1 hhome
    simp [Path.IsNormal]
  have hstart : (locate? "<html><P>x" 9 Markup.defaultPathMarker).map (·.start) = some 6 := by
    decide
  obtain ⟨base, hbase⟩ : ∃ base, Context.ofFile ⟨⟨.single, []⟩, [([], ⟨.single, ["home"]⟩)]⟩
      unlabelled.path "<html><P>x" 0 none = .ok base := ⟨_, rfl⟩
  obtain ⟨hnone, -⟩ | ⟨e, context, located, -, -, hnamed, -⟩ :=
    generate_preset (r := unlabelled) hs (selectRule_eq_ok .place rfl rfl) rfl hbase
  · exact absurd (hstart.symm.trans (congrArg _ hnone)) (by decide)
  · obtain ⟨outcome, front, digits, hgenerate, hstatus, helement, hname, -, -, hlength, -,
      hmarker⟩ := hnamed (isEncodable_chainText_ancestors context.document context.offset)
    obtain ⟨value, hvalue, hne⟩ := hmarker rfl
    refine ⟨outcome, e, digits, value, hgenerate, hstatus, helement, ?_, ⟨front, hname.symm⟩,
      hlength, hvalue, hne⟩
    exact Option.some.inj ((congrArg _ located).symm.trans hstart)

/-- A request for a paragraph in a file whose name is no text. -/
def undecodable : Request where
  path := ("/w/abc" : Text) ++ Code.ofNat 0xDCFF :: (".html" : Text)
  offset := 1
  document := .ok ("<p>" : Text)
  ruleId := some Rule.alpha.id

/-- An element is located in it, but its name would have to hash a path that has no bytes. -/
theorem not_generated_of_surrogate : ¬∀ (r : Request) (s : Path.Surroundings) (today : Date)
    (document : Text) (preset : HashPreset), s.IsNormal → r.selectRule = .ok preset.rule →
      r.document = .ok document →
      (∃ base, Context.ofFile s r.path document 0 r.workspace = .ok base) →
      (locate? document r.offset r.settings.pathMarker.name.text).isSome = true →
      ∃ outcome, r.generate s today = .ok outcome ∧ outcome.status = .generated := by
  intro h
  have hs : Path.Surroundings.IsNormal {} := ⟨by simp [Path.IsNormal], nofun⟩
  obtain ⟨outcome, hgenerate, -⟩ := h undecodable {} ⟨2024, 5, 1⟩ "<p>" .path hs
    (selectRule_eq_ok .path rfl rfl) rfl ⟨_, rfl⟩ (by decide)
  have hfails : (undecodable.generate {} ⟨2024, 5, 1⟩).isOk = false := by decide
  rw [hgenerate] at hfails
  cases hfails

end Generation.Request
end MarkupNaming
