import MarkupNaming.Proofs.CommandLine.Rediscovery
import MarkupNaming.Proofs.Generation.Faults
import MarkupNaming.Proofs.Generation.Presets

/-!
# Inspecting elements

Commands that inspect an element locate it, find its context and evaluate segments on their own.
What they print is nevertheless what names are made of: an element starts at the same place
whatever the attribute for paths is called, and a name of one segment is the value of the segment.
The texts that they print have no escape sequences that could be left out, and no cell of the
table of segments can fail to be shown. But the table takes all values, and one of them may be the
hash of a path that has no bytes. Then it shows none, although the other segments have values.
-/
namespace MarkupNaming
open Text

namespace Console

/-- A text without escape characters has no escape sequences. -/
theorem withoutEscapes_eq_self {t : Text} (h : .char '\x1b' ∉ t) : withoutEscapes t = t := by
  fun_induction withoutEscapes t with
  | case1 => rfl
  | case2 => simp at h
  | case3 => simp at h
  | case4 c rest hother ih => rw [ih fun hrest => h (List.mem_cons_of_mem c hrest)]

end Console

namespace Markup
variable {document marker marker' : Text} {offset : Int}

/-- Which element is located does not depend on the attribute for paths. -/
theorem locate?_eq_map (document marker marker' : Text) (offset : Int) :
    locate? document offset marker' =
      (locate? document offset marker).map ({ · with markerAttribute := marker' }) := by
  unfold locate?
  cases lastOpening? document offset.toNat with
  | none => rfl
  | some start =>
    cases htag : throughClose? (document.drop start) with
    | none => simp [htag]
    | some tag => cases hname : tagName? tag <;> simp [htag, hname]

theorem escape_notMem_chainText (document : Text) (offset : Int) :
    .char '\x1b' ∉ chainText (ancestors document offset) := by
  intro hmem
  rcases mem_join hmem with hmem | ⟨name, hname, hmem⟩
  · exact absurd hmem (by decide)
  · obtain ⟨n, rfl⟩ := exists_tagName_of_mem_ancestors hname
    have hword := n.isWord_of_mem (mem_of_mem_lower_of_not_image (by decide) hmem)
    exact absurd hword (by decide)

end Markup

namespace Naming

theorem escape_notMem_sanitize (t : Text) : .char '\x1b' ∉ sanitize t :=
  fun hmem => absurd (List.mem_filter.1 hmem).2 (by decide)

theorem isEncodable_sanitize (t : Text) : Utf8.IsEncodable (sanitize t) := fun _ hc =>
  forall_isTokenChar (p := fun c => c.isSurrogate = false) (by decide) (List.mem_filter.1 hc).2

theorem Rule.exists_ofOptions_id (segment : Segment) (separator : Text) :
    ∃ rule, ofOptions [segment.id] separator = .ok rule ∧ rule.segments = [segment] := by
  have hfind : Segment.findAll [segment.id] = .ok [segment] := Segment.findAll_eq_ok_iff.2 rfl
  rw [ofOptions, hfind]
  exact ⟨_, rfl, rfl⟩

end Naming

/-- A rule of one segment gives the value of the segment. -/
theorem Naming.Rule.generate_alone {rule : Rule} {segment : Segment}
    (hrule : rule.segments = [segment]) (context : Context) (settings : Settings) (today : Date) :
    rule.generate context settings today = segment.generate context settings today := by
  rw [generate, hrule, List.mapM_cons, List.mapM_nil]
  cases segment.generate context settings today with
  | error fault => rfl
  | ok value => exact congrArg Except.ok (compose_singleton rule.separator value)

/-- An element is named as the value that its name has, or not at all if that is empty. -/
theorem Generation.Request.nameElement_eq (r : Request) (rule : Naming.Rule) (document : Text)
    (e : Markup.Element) (context : Naming.Context) (today : Date) (name : Text) :
    (r.nameElement rule document e context today name).className = name ∧
      (r.nameElement rule document e context today name).status =
        if name = [] then .empty else .generated := by
  cases name with
  | nil => exact ⟨rfl, rfl⟩
  | cons c name => exact ⟨rfl, rfl⟩

namespace CommandLine
open Console Diagnostics Naming Markup CommandLine.Action World

/-! ## Tables -/

section Tables
variable {ε α β : Type}

theorem exists_mapM {f : α → Except ε β} {items : List α}
    (h : ∀ a ∈ items, ∃ b, f a = .ok b) : ∃ bs, items.mapM f = .ok bs := by
  cases hmap : items.mapM f with
  | ok bs => exact ⟨bs, rfl⟩
  | error fault =>
    obtain ⟨a, ha, _, hfault⟩ := exists_mapM_eq_error_iff.1 ⟨fault, hmap⟩
    obtain ⟨b, hb⟩ := h a ha
    cases hb.symm.trans hfault

theorem mapM_eq_ok_map {f : α → Except ε β} {g : α → β} {items : List α}
    (h : ∀ a ∈ items, f a = .ok (g a)) : items.mapM f = .ok (items.map g) :=
  mapM_eq_ok_iff.2 (List.forall₂_map_right_iff.2 (List.forall₂_same.2 h))

theorem forIn_eq_ok {f : α → PUnit → Except ε (ForInStep PUnit)} {items : List α}
    (h : ∀ a ∈ items, f a PUnit.unit = .ok (.yield PUnit.unit)) :
    forIn items PUnit.unit f = .ok PUnit.unit := by
  induction items with
  | nil => rfl
  | cons a items ih =>
    obtain ⟨ha, hitems⟩ := List.forall_mem_cons.1 h
    rw [List.forIn_cons, ha]
    exact ih hitems

end Tables

/-- A listing can be shown if each of its cells can. -/
theorem Listing.exists_text {l : Listing}
    (h : ∀ row ∈ l.rows, ∀ cell ∈ row, ∃ t, cell.shown = .ok t) :
      ∃ printed, l.text = .ok printed := by
  have hcolumns : ∀ column ∈ l.columns, ∀ cell ∈ column, ∃ t, cell.shown = .ok t := by
    intro column hcolumn cell hcell
    obtain ⟨⟨_, i⟩, -, rfl⟩ := List.mem_map.1 hcolumn
    obtain ⟨row, hrow, hi⟩ := List.mem_filterMap.1 hcell
    exact h row hrow cell (List.mem_of_getElem? hi)
  obtain ⟨rows, hrows⟩ : ∃ rows, l.rows.mapM (·.mapM Cell.shown) = .ok rows :=
    exists_mapM fun row hrow => exists_mapM (h row hrow)
  have htable : l.table = .ok { title := l.title, headers := l.headers, rows } := by
    rw [Listing.table, forIn_eq_ok, hrows]
    · rfl
    · intro column hcolumn
      rw [forIn_eq_ok]
      · rfl
      · intro cell hcell
        obtain ⟨t, ht⟩ := hcolumns column hcolumn cell hcell
        rw [ht]
        rfl
  exact ⟨_, by rw [Listing.text, htable]; rfl⟩

/-- The segments can be listed, whatever their values are. -/
theorem exists_segmentListing_text (values : Option (List (Segment × Text))) :
    ∃ printed, (segmentListing values).text = .ok printed := by
  have hplain : ∀ segment ∈ Segment.all, Code.char '[' ∉ segment.id ∧
      Code.char '[' ∉ segment.title ∧ Code.char '[' ∉ segment.description := by
    decide +kernel
  have hstyled {t : Text} (ht : Code.char '[' ∉ t) : ∃ shown, (Cell.styled t).shown = .ok shown :=
    ⟨_, if_neg ht⟩
  refine Listing.exists_text fun row hrow => ?_
  obtain ⟨segment, hsegment, rfl⟩ := List.mem_map.1 hrow
  obtain ⟨hid, htitle, hdescription⟩ := hplain segment hsegment
  intro cell hcell
  simp only [List.mem_cons, List.not_mem_nil, or_false] at hcell
  rcases hcell with rfl | rfl | rfl | rfl
  · exact hstyled hid
  · exact hstyled htitle
  · exact hstyled hdescription
  · exact ⟨_, rfl⟩

/-! ## Running -/

theorem run_require {ε α : Type} [Traced ε] (x : Except ε α) (s : Session) :
    (require x).run.run s = (x.mapError fun fault => .unexpected (trail fault), s) := by
  cases x <;> rfl

variable {w : World} {t : Target} {place : SettingsPlace} {file : Path} {c : Cursor}
  {settings : Settings} {document : Text} {offset : Int}

/-- A target that is to be named by one segment. -/
def Target.alone (t : Target) (segment : Segment) : Target :=
  { t with naming := { t.naming with segments := [segment.id] } }

namespace World

/-- Whether a command ends with texts to print or a failure, whatever its console is and has
shown. -/
def Performs (w : World) (command : Command) (result : Except Failure (List Printout)) : Prop :=
  ∀ session, ((w.perform command).run.run session).1 = result

/-- Whether a command ends with one text, which can be printed anywhere. -/
structure Prints (w : World) (command : Command) (t : Text) : Prop where
  performs : w.Performs command (.ok [.plain t])
  isEncodable : Utf8.IsEncodable t

/-- What comes of naming the element of a target by one segment. -/
def namedAlone (w : World) (t : Target) (settings : Settings) (document : Text) (offset : Int)
    (segment : Segment) : Except Generation.Fault Generation.Outcome :=
  (w.request (t.alone segment) settings document offset).generate w.surroundings w.today

theorem Finds.exists_run (h : w.Finds place settings) (session : Session) :
    ∃ s₁, (w.settings place).run.run session = (.ok settings, s₁) :=
  ⟨_, Prod.ext (h session) rfl⟩

theorem run_document (h : Generation.readDocument w.files w.directory file = .ok document)
    (session : Session) : (w.document file).run.run session = (.ok document, session) := by
  rw [World.document, h]
  rfl

theorem run_offsetIn (h : c.resolve document = .ok offset) (session : Session) :
    (offsetIn document c).run.run session = (.ok offset, session) := by
  rw [offsetIn, h]
  rfl

/-- The label that is printed for the release of a day is the value of its segment. -/
theorem prints_currentRelease (h : w.Finds place settings) (context : Context) :
    ∃ label, Segment.releaseName.generate context settings w.today = .ok label ∧
      w.Prints (.currentRelease place) (label ++ [Code.char '\n']) := by
  have hsame : Segment.releaseName.generate context settings w.today =
      .ok (w.currentLabel settings) := by
    rw [currentLabel_eq_releaseLabel]
    rfl
  refine ⟨_, hsame, fun session => ?_, ?_⟩
  · obtain ⟨s₁, hsettings⟩ := h.exists_run session
    rw [perform, run_bind_pure, World.currentRelease, run_bind_of_ok hsettings]
    change Except.ok [Printout.plain (line (w.currentLabel settings))] = _
    rw [line, currentLabel, withoutEscapes_eq_self (escape_notMem_sanitize _)]
  · exact Utf8.IsEncodable.append (isEncodable_sanitize _) (by decide)

section
variable (hdocument : Generation.readDocument w.files w.directory file = .ok document)
  (hoffset : c.resolve document = .ok offset)
include hdocument hoffset

theorem prints_ancestors {e : Element} (located : locate? document offset = some e) :
    w.Prints (.ancestors file c)
      (chainText (Markup.ancestors document e.start) ++ [Code.char '\n']) := by
  refine ⟨fun session => ?_,
    Utf8.IsEncodable.append (isEncodable_chainText_ancestors document e.start) (by decide)⟩
  rw [perform, run_bind_pure, World.ancestors, run_bind_of_ok (run_document hdocument session),
    run_bind_of_ok (run_offsetIn hoffset session), located]
  change Except.ok [Printout.plain (line _)] = _
  rw [line, withoutEscapes_eq_self (escape_notMem_chainText document e.start)]

theorem performs_ancestors_of_none (located : locate? document offset = none) :
    w.Performs (.ancestors file c) (.error (.failed noElement [])) := by
  intro session
  rw [perform, run_bind_pure, World.ancestors, run_bind_of_ok (run_document hdocument session),
    run_bind_of_ok (run_offsetIn hoffset session), located]
  rfl

/-- The values of all segments are listed, or the first one that there is not is the failure. -/
theorem performs_options (hsettings : w.Finds place settings) :
    w.Performs (.options (some file) c place) <|
      match locate? document offset settings.pathMarker.name.text with
      | none => .error (.failed noElement [])
      | some e =>
        match Context.ofFile w.surroundings file.text document e.start
            (some (w.workspace place).text) with
        | .error fault => .error (.unexpected (trail fault))
        | .ok context =>
          match Segment.all.mapM fun s => (s.generate context settings w.today).map (s, ·) with
          | .error fault => .error (.unexpected (trail fault))
          | .ok values =>
            ((segmentListing (some values)).text.mapError fun fault =>
              .unexpected (trail fault)).map fun t => [.drawn t] := by
  intro session
  obtain ⟨s₁, hfound⟩ := hsettings.exists_run session
  rw [perform, run_bind_pure, World.options]
  dsimp only
  rw [run_bind_of_ok hfound, run_bind_of_ok (run_document hdocument s₁),
    run_bind_of_ok (run_offsetIn hoffset s₁)]
  cases locate? document offset settings.pathMarker.name.text with
  | none => rfl
  | some e =>
    dsimp only
    cases Context.ofFile w.surroundings file.text document e.start
        (some (w.workspace place).text) with
    | error fault => rfl
    | ok context =>
      have hcontext : (require (.ok context : Except ContextFault Context)).run.run s₁ =
          (.ok context, s₁) := rfl
      rw [run_bind_of_ok hcontext]
      dsimp only
      cases Segment.all.mapM fun s => (s.generate context settings w.today).map (s, ·) with
      | error fault => rfl
      | ok values =>
        have hvalues : (require (.ok values : Except Utf8.Unencodable _)).run.run s₁ =
            (.ok values, s₁) := rfl
        rw [run_bind_of_ok hvalues, run_require]

end

/-- A request for one segment selects the rule that consists of it. -/
theorem exists_selectRule_alone (segment : Segment) : ∃ rule,
    (w.request (t.alone segment) settings document offset).selectRule = .ok rule ∧
      rule.segments = [segment] := by
  obtain ⟨rule, hrule, hsegments⟩ := Rule.exists_ofOptions_id segment t.naming.separator
  refine ⟨rule, ?_, hsegments⟩
  have hne : (w.request (t.alone segment) settings document offset).optionIds ≠ [] :=
    List.cons_ne_nil _ _
  rw [Generation.Request.selectRule, if_pos hne]
  change (Rule.ofOptions [segment.id] t.naming.separator).mapError _ = _
  rw [hrule]
  rfl

end World

/-! ## Inspecting -/

section Inspecting
variable (w : World) (t : Target) (settings : Settings) (document : Text) (offset : Int)

/-- What commands that inspect an element in a context show, and its names of one segment. There is
one for each segment but the hash of a path that has no bytes. -/
structure Shows (context : Context) (chain : Text) (values : Segment → Text) : Prop where
  located : ∃ e, locate? document offset settings.pathMarker.name.text = some e ∧
    Context.ofFile w.surroundings t.file.text document e.start (some (w.workspace t.place).text) =
      .ok context
  ancestors : w.Prints (.ancestors t.file t.cursor) (chain ++ [Code.char '\n'])
  label : w.Prints (.currentRelease t.place) (values .releaseName ++ [Code.char '\n'])
  hashed : ∃ bytes, Utf8.encode .strict chain = .ok bytes ∧
    values .domHash = (Md5.hex bytes).take settings.domHashLength.val ∧
    (values .domHash).length = settings.domHashLength.val
  names : ∀ segment, (segment = .pathHash → Utf8.IsEncodable context.relativePath) →
    ∃ outcome, w.namedAlone t settings document offset segment = .ok outcome ∧
      outcome.className = values segment ∧
      outcome.status = if values segment = [] then .empty else .generated

/-- What inspecting the element that a target names shows, beside its names of one segment. -/
inductive Inspects : Prop
  | nothing
    (ancestors : w.Performs (.ancestors t.file t.cursor) (.error (.failed World.noElement [])))
    (options : w.Performs (.options (some t.file) t.cursor t.place)
      (.error (.failed World.noElement [])))
    (names : ∀ segment, ∃ outcome, w.namedAlone t settings document offset segment = .ok outcome ∧
      outcome.status = .notFound)
  /-- The file or the workspace is in a home directory that is not known. -/
  | homeless (chain : Text) (fault : ContextFault)
    (relative : t.file.isAbsolute = false ∨ (w.workspace t.place).isAbsolute = false)
    (ancestors : w.Prints (.ancestors t.file t.cursor) (chain ++ [Code.char '\n']))
    (options : w.Performs (.options (some t.file) t.cursor t.place)
      (.error (.unexpected (trail fault))))
    (names : ∀ segment,
      w.namedAlone t settings document offset segment = .error (.context fault))
  /-- The path of the file has no bytes. -/
  | unhashed (context : Context) (chain : Text) (values : Segment → Text) (fault : Utf8.Unencodable)
    (shows : Shows w t settings document offset context chain values)
    (path : ¬Utf8.IsEncodable context.relativePath)
    (options : w.Performs (.options (some t.file) t.cursor t.place)
      (.error (.unexpected (trail fault))))
    (hash : ∃ reported,
      w.namedAlone t settings document offset .pathHash = .error (.encoding fault reported))
  | element (context : Context) (chain printed : Text) (values : Segment → Text)
    (shows : Shows w t settings document offset context chain values)
    (path : Utf8.IsEncodable context.relativePath)
    (listed : (segmentListing (some (Segment.all.map fun s => (s, values s)))).text = .ok printed)
    (options : w.Performs (.options (some t.file) t.cursor t.place) (.ok [.drawn printed]))

end Inspecting

/-- An element that is located is below tags, so the hash of its chain is a value. -/
theorem domHash_of_located {surroundings : Path.Surroundings} {name marker : Text}
    {workspace : Option Text} {e : Element} {context : Context}
    (located : locate? document offset marker = some e)
    (hcontext : Context.ofFile surroundings name document e.start workspace = .ok context)
    (today : Date) :
    Segment.domHash.generate context settings today =
      shortHash (chainText (Markup.ancestors document e.start)) settings.domHashLength.val := by
  rw [Segment.generate, Context.chain_of_ofFile hcontext]
  obtain ⟨front, tag, back, rfl, rfl⟩ := Tag.exists_of_locate? located
  refine if_neg fun hempty => ?_
  exact tag.chainText_ancestors_ne_nil front back (List.isEmpty_iff.1 hempty)

/-- Finding the context of a located element fails at relative paths only. -/
theorem isAbsolute_eq_false_of_context {surroundings : Path.Surroundings} {p root : Path}
    {marker : Text} {e : Element} {fault : ContextFault}
    (located : locate? document offset marker = some e)
    (hcontext : Context.ofFile surroundings p.text document e.start (some root.text) =
      .error fault) :
    p.isAbsolute = false ∨ root.isAbsolute = false := by
  have hstart : e.start ≤ document.length := Generation.Request.start_le_of_locate? located
  rcases (Generation.Request.exists_context_error_iff hstart).1 ⟨fault, hcontext⟩ with
    hfile | ⟨_, hworkspace, hhome⟩
  · exact .inl hfile.isAbsolute_eq_false
  · obtain rfl := Option.some.inj hworkspace
    exact .inr hhome.isAbsolute_eq_false

/-- The values of the segments in a context, empty for one that there is not. -/
def valuesIn (context : Context) (settings : Settings) (today : Date) (segment : Segment) : Text :=
  ((segment.generate context settings today).toOption).getD []

theorem generate_eq_valuesIn {context : Context} {today : Date} {segment : Segment}
    (h : segment = .pathHash → Utf8.IsEncodable context.relativePath) :
    segment.generate context settings today = .ok (valuesIn context settings today segment) := by
  rw [valuesIn]
  cases hvalue : segment.generate context settings today with
  | ok value => rfl
  | error fault =>
    obtain ⟨hsegment, hpath⟩ := Generation.exists_segment_eq_error_iff.1 ⟨fault, hvalue⟩
    exact absurd (h hsegment) hpath

section Naming
variable {e : Element} {context : Context}
  (located : locate? document offset settings.pathMarker.name.text = some e)
  (hcontext : Context.ofFile w.surroundings t.file.text document e.start
    (some (w.workspace t.place).text) = .ok context)
include located hcontext

/-- Naming an element by one segment takes the value of the segment, if there is one. -/
theorem namedAlone_eq (segment : Segment) : ∃ rule reported,
    w.namedAlone t settings document offset segment =
      ((segment.generate context settings w.today).mapError (.encoding · reported)).map
        ((w.request (t.alone segment) settings document offset).nameElement rule document e context
          w.today) := by
  obtain ⟨rule, hrule, hsegments⟩ : ∃ rule,
      (w.request (t.alone segment) settings document offset).selectRule = .ok rule ∧
        rule.segments = [segment] :=
    exists_selectRule_alone segment
  refine ⟨rule,
    (w.request (t.alone segment) settings document offset).reported rule e w.today, ?_⟩
  rw [namedAlone, Generation.Request.generate_eq_map hrule rfl located hcontext,
    Rule.generate_alone hsegments]
  rfl

theorem shows_of_context (hsettings : w.Finds t.place settings)
    (hancestors : w.Prints (.ancestors t.file t.cursor)
      (chainText (Markup.ancestors document e.start) ++ [Code.char '\n'])) :
    Shows w t settings document offset context (chainText (Markup.ancestors document e.start))
      (valuesIn context settings w.today) where
  located := ⟨e, located, hcontext⟩
  ancestors := hancestors
  label := by
    obtain ⟨label, hlabel, hprints⟩ := prints_currentRelease hsettings context
    rw [valuesIn, hlabel]
    exact hprints
  hashed := by
    have hhash : shortHash (chainText (Markup.ancestors document e.start))
        settings.domHashLength.val = .ok (valuesIn context settings w.today .domHash) := by
      rw [← domHash_of_located located hcontext w.today]
      exact generate_eq_valuesIn nofun
    have hlength := length_shortHash hhash settings.domHashLength.le_greatest
    obtain ⟨bytes, hbytes, hdigits⟩ := shortHash_eq_ok_iff.1 hhash
    exact ⟨bytes, hbytes, hdigits.symm, hlength⟩
  names segment h := by
    obtain ⟨rule, reported, hnamed⟩ := namedAlone_eq located hcontext segment
    rw [generate_eq_valuesIn h] at hnamed
    obtain ⟨hclass, hstatus⟩ := Generation.Request.nameElement_eq
      (w.request (t.alone segment) settings document offset) rule document e context w.today
      (valuesIn context settings w.today segment)
    exact ⟨_, hnamed, hclass, hstatus⟩

end Naming

/-- All options have a value for an element whose path has bytes. -/
theorem mapM_generate_of_isEncodable {context : Context}
    (h : Utf8.IsEncodable context.relativePath) :
    (Segment.all.mapM fun s => (s.generate context settings w.today).map (s, ·)) =
      .ok (Segment.all.map fun s => (s, valuesIn context settings w.today s)) :=
  mapM_eq_ok_map fun s _ => by rw [generate_eq_valuesIn fun _ => h]; rfl

/-- The hash of a path is the first option that can fail, and all options fail with it. -/
theorem mapM_generate_of_pathHash {context : Context} {fault : Utf8.Unencodable}
    (h : Segment.pathHash.generate context settings w.today = .error fault) :
    (Segment.all.mapM fun s => (s.generate context settings w.today).map (s, ·)) =
      .error fault := by
  rw [Segment.all, List.mapM_cons, List.mapM_cons, h]
  rfl

/-- Commands that inspect an element show what its names are made of. -/
theorem inspects_of_read (hsettings : w.Finds t.place settings)
    (hdocument : Generation.readDocument w.files w.directory t.file = .ok document)
    (hoffset : t.cursor.resolve document = .ok offset) :
    Inspects w t settings document offset ∧
      ∀ context : Context, ∃ label,
        Segment.releaseName.generate context settings w.today = .ok label ∧
        w.Prints (.currentRelease t.place) (label ++ [Code.char '\n']) := by
  refine ⟨?_, prints_currentRelease hsettings⟩
  have hoptions := performs_options hdocument hoffset hsettings
  -- The tags are looked for without settings, so at the element of another attribute for paths.
  have hsame := locate?_eq_map document settings.pathMarker.name.text defaultPathMarker offset
  cases located : locate? document offset settings.pathMarker.name.text with
  | none =>
    rw [located] at hoptions hsame
    refine .nothing (performs_ancestors_of_none hdocument hoffset hsame) hoptions fun segment => ?_
    obtain ⟨rule, hrule, -⟩ := exists_selectRule_alone (w := w) (t := t) segment
    exact ⟨_, Generation.Request.generate_of_notFound hrule rfl located, rfl⟩
  | some e =>
    rw [located] at hoptions hsame
    have hancestors := prints_ancestors hdocument hoffset hsame
    dsimp only at hancestors hoptions
    cases hcontext : Context.ofFile w.surroundings t.file.text document e.start
        (some (w.workspace t.place).text) with
    | error fault =>
      rw [hcontext] at hoptions
      refine .homeless _ fault ?_ hancestors hoptions fun segment => ?_
      · exact isAbsolute_eq_false_of_context located hcontext
      · obtain ⟨rule, hrule, -⟩ := exists_selectRule_alone (w := w) (t := t) segment
        exact Generation.Request.generate_of_contextFault hrule rfl located hcontext
    | ok context =>
      rw [hcontext] at hoptions
      dsimp only at hoptions
      have hshows := shows_of_context located hcontext hsettings hancestors
      by_cases hpath : Utf8.IsEncodable context.relativePath
      · obtain ⟨printed, hprinted⟩ := exists_segmentListing_text
          (some (Segment.all.map fun s => (s, valuesIn context settings w.today s)))
        rw [mapM_generate_of_isEncodable hpath] at hoptions
        dsimp only at hoptions
        rw [hprinted] at hoptions
        exact .element context _ printed _ hshows hpath hprinted hoptions
      · obtain ⟨fault, hfault⟩ : ∃ fault,
            Segment.pathHash.generate context settings w.today = .error fault :=
          Generation.exists_segment_eq_error_iff.2 ⟨rfl, hpath⟩
        rw [mapM_generate_of_pathHash hfault] at hoptions
        obtain ⟨rule, reported, hnamed⟩ := namedAlone_eq located hcontext .pathHash
        rw [hfault] at hnamed
        exact .unhashed context _ _ fault hshows hpath hoptions ⟨reported, hnamed⟩

/-- A page of one open paragraph in a directory without settings. -/
def openPage (directory : FileName) : World :=
  { emptyDirectory with
    files := ⟨[(["w"], .directory), (["w", directory], .directory),
      (["w", directory, "p.html"], .file (Utf8.ofString "<p>x"))]⟩ }

/-- The end of a page, behind its tag. -/
def pageEnd (file : Path) : Target where
  file := file
  cursor := ⟨some 4, none, 1⟩
  naming := {}
  place := {}

theorem readDocument_openPage {directory : FileName} {file : Path}
    (h : (openPage directory).files.read (openPage directory).directory file =
      .ok (Utf8.ofString "<p>x")) :
    Generation.readDocument (openPage directory).files (openPage directory).directory file =
      .ok "<p>x" := by
  rw [Generation.readDocument, h]
  exact congrArg (Except.mapError _) (Utf8.decode_of_encode rfl)

theorem inspects_of_read_page : ∃ (chain : Text) (values : Segment → Text) (bytes : List UInt8),
    (openPage "d").Prints (.ancestors (.ofText "/w/d/p.html") ⟨some 4, none, 1⟩)
      (chain ++ [Code.char '\n']) ∧
    (openPage "d").Prints (.currentRelease {}) (values .releaseName ++ [Code.char '\n']) ∧
    Utf8.encode .strict chain = .ok bytes ∧ values .domHash = (Md5.hex bytes).take 8 ∧
    ∀ segment, ∃ outcome,
      (openPage "d").namedAlone (pageEnd (.ofText "/w/d/p.html")) .defaults "<p>x" 4 segment =
        .ok outcome ∧ outcome.className = values segment := by
  have hdocument : Generation.readDocument (openPage "d").files (openPage "d").directory
      (pageEnd (.ofText "/w/d/p.html")).file = .ok "<p>x" :=
    readDocument_openPage (by decide)
  have hoffset : (pageEnd (.ofText "/w/d/p.html")).cursor.resolve "<p>x" = .ok 4 := by
    decide
  have hfinds : (openPage "d").Finds (pageEnd (.ofText "/w/d/p.html")).place .defaults :=
    finds_defaults rfl (by decide)
  obtain ⟨hinspects, -⟩ := inspects_of_read hfinds hdocument hoffset
  cases hinspects with
  | nothing ancestors options names =>
    obtain ⟨outcome, hnamed, hstatus⟩ := names .label
    have hfound : ((openPage "d").namedAlone (pageEnd (.ofText "/w/d/p.html")) .defaults "<p>x" 4
        .label).map (·.status) ≠ .ok .notFound := by
      decide
    rw [hnamed] at hfound
    exact absurd (congrArg Except.ok hstatus) hfound
  | homeless chain fault relative => exact absurd relative (by decide)
  | unhashed context chain values fault shows path options hash =>
    obtain ⟨reported, hnamed⟩ := hash
    have hhashed : ((openPage "d").namedAlone (pageEnd (.ofText "/w/d/p.html")) .defaults "<p>x" 4
        .pathHash).isOk = true := by
      decide
    rw [hnamed] at hhashed
    cases hhashed
  | element context chain printed values shows path =>
    obtain ⟨bytes, hbytes, hhash, -⟩ := shows.hashed
    refine ⟨chain, values, bytes, shows.ancestors, shows.label, hbytes, hhash, fun segment => ?_⟩
    obtain ⟨outcome, hnamed, hclass, -⟩ := shows.names segment fun _ => path
    exact ⟨outcome, hnamed, hclass⟩

/-- A page in a directory whose name is no text. -/
def undecodablePage : World := openPage (Utf8.ofString "abc" ++ [0xFF])

/-- The path of that page. -/
def undecodablePath : Path :=
  ⟨.single, [("w" : Text), ("abc" : Text) ++ [Code.ofNat 0xDCFF], ("p.html" : Text)]⟩

/-- A page in a directory whose name is no text has an element, and all its segments but the hash of
its path have values. They are not listed. -/
theorem not_listed_of_surrogate : ¬∀ (w : World) (t : Target) (settings : Settings)
    (document : Text) (offset : Int) (e : Element) (context : Context),
    w.Finds t.place settings →
    Generation.readDocument w.files w.directory t.file = .ok document →
    t.cursor.resolve document = .ok offset →
    locate? document offset settings.pathMarker.name.text = some e →
    Context.ofFile w.surroundings t.file.text document e.start (some (w.workspace t.place).text) =
      .ok context →
    ∃ (values : Segment → Text) (printed : Text),
      (segmentListing (some (Segment.all.map fun s => (s, values s)))).text = .ok printed ∧
      w.Performs (.options (some t.file) t.cursor t.place) (.ok [.drawn printed]) ∧
      ∀ segment outcome, w.namedAlone t settings document offset segment = .ok outcome →
        outcome.className = values segment := by
  intro h
  have hdocument : Generation.readDocument undecodablePage.files undecodablePage.directory
      undecodablePath = .ok "<p>x" :=
    readDocument_openPage (by decide)
  have hfinds : undecodablePage.Finds (pageEnd undecodablePath).place .defaults :=
    finds_defaults rfl (by decide +kernel)
  obtain ⟨e, located⟩ := Option.isSome_iff_exists.1
    (show (locate? "<p>x" 4 Settings.defaults.pathMarker.name.text).isSome = true by
      decide +kernel)
  have hfails : ((undecodablePage.perform (.options (some (pageEnd undecodablePath).file)
      (pageEnd undecodablePath).cursor (pageEnd undecodablePath).place)).run.run
      (undecodablePage.start 0 false)).1.toOption = none := by
    decide +kernel
  cases hcontext : Context.ofFile undecodablePage.surroundings undecodablePath.text "<p>x" e.start
      (some (undecodablePage.workspace {}).text) with
  | error fault => exact absurd (isAbsolute_eq_false_of_context located hcontext) (by decide)
  | ok context =>
    obtain ⟨values, printed, -, hperformed, -⟩ := h undecodablePage (pageEnd undecodablePath)
      .defaults "<p>x" 4 e context hfinds hdocument (by decide +kernel) located hcontext
    rw [hperformed (undecodablePage.start 0 false)] at hfails
    cases hfails

end CommandLine
end MarkupNaming
