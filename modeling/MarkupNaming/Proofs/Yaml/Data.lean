import MarkupNaming.Proofs.Yaml.Scanning
import MarkupNaming.Yaml.Data
import MarkupNaming.Yaml.Scalar.Meaning

/-!
# The tokens of written data

Data that are written in block style are read as their tokens, whatever stands around them: each
part is read up to the line behind it, and the next line closes the blocks that it does not belong
to.
-/
namespace MarkupNaming.Yaml
open Text Written Reading

namespace Data

/-- Whether data are a list. -/
def isList : Data → Bool
  | list _ => true
  | _ => false

/-- An integer that is read again as it is written. -/
structure IsReadable (n : Int) : Prop where
  word : IsSimpleWord (ofInt n)
  tag : impliedTag (ofInt n) = .integer
  value : integerOf (ofInt n) = .ok n

/-- A text that stands as it is in front of a colon. -/
structure IsKey (key : Text) : Prop where
  word : IsSimpleWord key
  style : Style.ofText key = .plain

/-- Data whose collections stand within each other `depth` times at most, and that can be read
again: a key stands once in a record, records have fields, and the items of lists are no lists. -/
inductive Fits : Nat → Data → Prop
  | text {depth : Nat} (t : Text) : Fits depth (text t)
  | int {depth : Nat} {n : Int} (hn : IsReadable n) : Fits depth (int n)
  | bool {depth : Nat} (b : Bool) : Fits depth (bool b)
  | list {depth : Nat} {items : List Data} (hflat : ∀ d ∈ items, d.isList = false)
    (hitems : ∀ d ∈ items, Fits depth d) : Fits (depth + 1) (list items)
  | record {depth : Nat} {fields : List (Text × Data)} (hne : fields ≠ [])
    (hkeys : ∀ field ∈ fields, IsKey field.1) (hnodup : (fields.map (·.1)).Nodup)
    (hfields : ∀ field ∈ fields, Fits depth field.2) : Fits (depth + 1) (record fields)

/-- The text of a truth value. -/
def boolText (b : Bool) : Text := if b then "true" else "false"

mutual

/-- The tokens of data behind a key, or of an item that is no list. -/
def tokens : Data → List Token
  | text t => [textToken t]
  | int n => [.scalar (ofInt n) true]
  | bool b => [.scalar (boolText b) true]
  | list [] => [.flowSequenceStart, .flowSequenceEnd]
  | list items => itemTokens items
  | record fields => .blockMappingStart :: fieldTokens fields ++ [Token.blockEnd]

/-- The tokens of items behind dashes that are not indented. -/
def itemTokens : List Data → List Token
  | [] => []
  | d :: rest => .blockEntry :: d.tokens ++ itemTokens rest

/-- The tokens of fields. -/
def fieldTokens : List (Text × Data) → List Token
  | [] => []
  | (key, d) :: rest => .key :: .scalar key true :: .value :: d.tokens ++ fieldTokens rest

end

mutual

/-- Data with other texts. Keys are left as they are. -/
def mapText (f : Text → Text) : Data → Data
  | text t => text (f t)
  | int n => int n
  | bool b => bool b
  | list items => list (mapItems f items)
  | record fields => record (mapFields f fields)

/-- Items with other texts. -/
def mapItems (f : Text → Text) : List Data → List Data
  | [] => []
  | d :: rest => d.mapText f :: mapItems f rest

/-- Fields with other texts. -/
def mapFields (f : Text → Text) : List (Text × Data) → List (Text × Data)
  | [] => []
  | (key, d) :: rest => (key, d.mapText f) :: mapFields f rest

end

@[simp] theorem mapItems_eq_map (f : Text → Text) (items : List Data) :
    mapItems f items = items.map (·.mapText f) := by
  induction items with
  | nil => rfl
  | cons d rest ih => rw [mapItems, ih, List.map_cons]

@[simp] theorem mapFields_eq_map (f : Text → Text) (fields : List (Text × Data)) :
    mapFields f fields = fields.map fun (key, d) => (key, d.mapText f) := by
  induction fields with
  | nil => rfl
  | cons field rest ih => rw [mapFields, ih, List.map_cons]

@[simp] theorem toValues_eq_map (items : List Data) : toValues items = items.map toValue := by
  induction items with
  | nil => rfl
  | cons d rest ih => rw [toValues, ih, List.map_cons]

@[simp] theorem toEntries_eq_map (fields : List (Text × Data)) :
    toEntries fields = fields.map fun (key, d) => (.text key, d.toValue) := by
  induction fields with
  | nil => rfl
  | cons field rest ih => rw [toEntries, ih, List.map_cons]

/-- The value that written data are read as. -/
def readValue (d : Data) : Value := (d.mapText readBack).toValue

variable {d : Data} {depth indent top column k : Nat} {outer : List Int} {tokens : List Token}
  {after : Text} {r : Reading}

/-- Data are read behind the colon of a key at a column. -/
def RunsBehindKey (depth : Nat) (d : Data) : Prop :=
  ∀ {r : Reading} {tokens : List Token} {outer : List Int} {indent start column k : Nat}
    {after : Text},
    r.Stands false tokens (indent :: outer) column
      (d.writeBehindKey indent start ++ (List.replicate k (Code.char ' ') ++ after)) →
    indent < column → indent + 2 * depth + 2 < lastColumn → k ≤ indent → StartsLine after →
    ∃ next, r.Runs next ∧ next.Before (tokens ++ d.tokens) (indent :: outer) k after

/-- Data are read at a column behind a dash. -/
def RunsBehindDash (depth : Nat) (d : Data) : Prop :=
  ∀ {r : Reading} {tokens : List Token} {outer : List Int} {top column k : Nat} {after : Text},
    r.Before tokens (top :: outer) column
      (d.writeBehindDash column ++ (List.replicate k (Code.char ' ') ++ after)) →
    top < column → column + 2 * depth < lastColumn → k ≤ top → StartsLine after →
    ∃ next, r.Runs next ∧ next.Before (tokens ++ d.tokens) (top :: outer) k after

/-! ## Scalars -/

theorem runsBehindKey_text (t : Text) : RunsBehindKey depth (text t) := by
  intro r tokens outer indent start column k after hr hcolumn hlast hk hafter
  have hline : writeBehindKey indent start (text t) ++ (List.replicate k (Code.char ' ') ++ after) =
      List.replicate 1 (Code.char ' ') ++ (writtenText (indent + 2) (start + 1) t ++
        .char '\n' :: (List.replicate k (Code.char ' ') ++ after)) := by
    simp [writeBehindKey]
  rw [hline] at hr
  refine hr.exists_runs (by omega) (startsToken_writtenText _) fun s hs => ?_
  exact hs.exists_runs_text (by omega) (by omega) (by omega) hk hafter

theorem runsBehindDash_text (t : Text) : RunsBehindDash depth (text t) := by
  intro r tokens outer top column k after hr hcolumn hlast hk hafter
  have hline : writeBehindDash column (text t) ++ (List.replicate k (Code.char ' ') ++ after) =
      writtenText column column t ++ .char '\n' :: (List.replicate k (Code.char ' ') ++ after) := by
    simp [writeBehindDash]
  rw [hline] at hr
  refine hr.exists_runs (by omega) (startsToken_writtenText _) fun s hs => ?_
  exact hs.exists_runs_text hcolumn hcolumn (by omega) hk hafter

/-- Data that are written as a simple word in both places. -/
theorem runs_word {w : Text} (hw : IsSimpleWord w) (htokens : d.tokens = [.scalar w true])
    (hkey : ∀ indent start, d.writeBehindKey indent start = .char ' ' :: w ++ [Code.char '\n'])
    (hdash : ∀ column, d.writeBehindDash column = w ++ [Code.char '\n']) :
    RunsBehindKey depth d ∧ RunsBehindDash depth d := by
  have hstart (t : Text) : StartsToken (w ++ t) := startsToken_of_startsLine hw.startsLine
  refine ⟨fun hr hcolumn hlast hk hafter => ?_, fun hr hcolumn hlast hk hafter => ?_⟩
  · rw [hkey, List.append_assoc, List.cons_append] at hr
    rw [htokens]
    exact hr.exists_runs (k := 1) (by omega) (hstart _) fun s hs =>
      hs.exists_runs_word hw (by omega) hk hafter
  · rw [hdash, List.append_assoc] at hr
    rw [htokens]
    exact hr.exists_runs (by omega) (hstart _) fun s hs => hs.exists_runs_word hw hcolumn hk hafter

theorem runs_bool (b : Bool) : RunsBehindKey depth (bool b) ∧ RunsBehindDash depth (bool b) := by
  have hword : IsSimpleWord (boolText b) := by
    cases b <;> exact isSimpleWord_of_isAlphanumeric (by decide) (by decide) (by decide)
  refine runs_word hword (by rw [tokens]) (fun indent start => ?_) fun column => ?_
  · cases b <;> rfl
  · cases b <;> rfl

theorem runs_int {n : Int} (hn : IsReadable n) :
    RunsBehindKey depth (int n) ∧ RunsBehindDash depth (int n) :=
  runs_word hn.word (by rw [tokens]) (fun _ _ => rfl) fun _ => rfl

/-! ## Fields -/

theorem writtenText_key {key : Text} (hkey : IsKey key)
    (indent column : Nat) : writtenText indent column key = key := by
  rw [writtenText, hkey.style]
  exact hkey.word.word.folded_runs indent column true

theorem atGap_writeBehindKey (d : Data) (indent start : Nat) (t : Text) :
    atGap (d.writeBehindKey indent start ++ t) = true := by
  cases d with
  | text t => rfl
  | int n => rfl
  | bool b => cases b <;> rfl
  | list items => cases items <;> rfl
  | record fields => cases fields <;> rfl

/-- The rest of a record behind one of its keys. -/
theorem exists_runs_fields {rest : List (Text × Data)}
    (hkeys : ∀ field ∈ rest, IsKey field.1)
    (hruns : ∀ field ∈ rest, RunsBehindKey depth field.2) {d : Data} (hd : RunsBehindKey depth d)
    {r : Reading} {tokens : List Token} {start column : Nat}
    (hr : r.Stands false tokens (indent :: outer) column (d.writeBehindKey indent start ++
      (writeFields indent (spaces indent) rest ++ (List.replicate k (Code.char ' ') ++ after))))
    (hcolumn : indent < column) (hlast : indent + 2 * depth + 2 < lastColumn) (hk : k ≤ indent)
    (hafter : StartsLine after) :
    ∃ next, r.Runs next ∧
      next.Before (tokens ++ d.tokens ++ fieldTokens rest) (indent :: outer) k after := by
  induction rest generalizing d r tokens start column with
  | nil =>
    rw [fieldTokens, List.append_nil]
    exact hd hr hcolumn hlast hk hafter
  | cons field rest ih =>
    obtain ⟨key, value⟩ := field
    have hkey : IsKey key := hkeys _ List.mem_cons_self
    have hline : writeFields indent (spaces indent) ((key, value) :: rest) ++
        (List.replicate k (Code.char ' ') ++ after) =
          List.replicate indent (Code.char ' ') ++ (key ++ .char ':' ::
          (value.writeBehindKey indent (indent + key.length + 1) ++
            (writeFields indent (spaces indent) rest ++
              (List.replicate k (Code.char ' ') ++ after)))) := by
      rw [writeFields, writtenText_key hkey, spaces]
      simp
    rw [hline] at hr
    obtain ⟨line, hrun, hline⟩ := hd hr hcolumn hlast (Nat.le_refl _) hkey.word.startsLine
    obtain ⟨behind, hrun', hbehind⟩ := hline.exists_runs_key hkey.word (Int.le_refl _)
      (atGap_writeBehindKey ..)
    rw [if_neg (Int.lt_irrefl _), if_neg (Int.lt_irrefl _), List.append_nil] at hbehind
    obtain ⟨next, hrun'', hnext⟩ := ih (fun _ h => hkeys _ (List.mem_cons_of_mem _ h))
      (fun _ h => hruns _ (List.mem_cons_of_mem _ h)) (hruns _ List.mem_cons_self) hbehind
      (by omega)
    refine ⟨next, hrun.trans (hrun'.trans hrun''), ?_⟩
    rw [fieldTokens]
    simpa using hnext

/-- A record that is indented more than the block around it, up to a line that is not. -/
theorem exists_runs_record {fields : List (Text × Data)} (hne : fields ≠ [])
    (hkeys : ∀ field ∈ fields, IsKey field.1)
    (hruns : ∀ field ∈ fields, RunsBehindKey depth field.2) {top : Int} {r : Reading}
    {tokens : List Token}
    (hr : r.Before tokens (top :: outer) column
      (writeFields column [] fields ++ (List.replicate k (Code.char ' ') ++ after)))
    (htop : top < column) (hlast : column + 2 * depth + 2 < lastColumn) (hk : k ≤ column)
    (hafter : StartsLine after) :
    ∃ next, r.Runs next ∧
      next.Before (tokens ++ .blockMappingStart :: fieldTokens fields)
        ((column : Int) :: top :: outer) k after := by
  obtain ⟨⟨key, value⟩, rest, rfl⟩ := List.exists_cons_of_ne_nil hne
  have hkey : IsKey key := hkeys _ List.mem_cons_self
  have hline : writeFields column [] ((key, value) :: rest) ++
      (List.replicate k (Code.char ' ') ++ after) =
      key ++ .char ':' :: (value.writeBehindKey column (column + key.length + 1) ++
        (writeFields column (spaces column) rest ++
          (List.replicate k (Code.char ' ') ++ after))) := by
    rw [writeFields, writtenText_key hkey]
    simp
  rw [hline] at hr
  obtain ⟨behind, hrun, hbehind⟩ := hr.exists_runs_key hkey.word (Int.le_of_lt htop)
    (atGap_writeBehindKey ..)
  rw [if_pos htop, if_pos htop] at hbehind
  obtain ⟨next, hrun', hnext⟩ := exists_runs_fields
    (fun _ h => hkeys _ (List.mem_cons_of_mem _ h))
    (fun _ h => hruns _ (List.mem_cons_of_mem _ h)) (hruns _ List.mem_cons_self) hbehind (by omega)
    hlast hk hafter
  refine ⟨next, hrun.trans hrun', ?_⟩
  rw [fieldTokens]
  simpa using hnext

theorem exists_runs_closed_record {fields : List (Text × Data)} (hne : fields ≠ [])
    (hkeys : ∀ field ∈ fields, IsKey field.1)
    (hruns : ∀ field ∈ fields, RunsBehindKey depth field.2) {r : Reading} {tokens : List Token}
    (hr : r.Before tokens (top :: outer) column
      (writeFields column [] fields ++ (List.replicate k (Code.char ' ') ++ after)))
    (htop : top < column) (hlast : column + 2 * depth + 2 < lastColumn) (hk : k ≤ top)
    (hafter : StartsLine after) :
    ∃ next, r.Runs next ∧
      next.Before (tokens ++ (record fields).tokens) (top :: outer) k after := by
  obtain ⟨next, hrun, hnext⟩ := exists_runs_record hne hkeys hruns hr (by omega) hlast (by omega)
    hafter
  have hclosed := hnext.close (by omega)
  rw [List.append_assoc] at hclosed
  exact ⟨next, hrun, by rw [Data.tokens]; exact hclosed⟩

theorem startsToken_writeFields {fields : List (Text × Data)} (hne : fields ≠ [])
    (hkeys : ∀ field ∈ fields, IsKey field.1) (column : Nat) (t : Text) :
    StartsToken (writeFields column [] fields ++ t) := by
  obtain ⟨⟨key, value⟩, rest, rfl⟩ := List.exists_cons_of_ne_nil hne
  have hkey : IsKey key := hkeys _ List.mem_cons_self
  rw [writeFields, writtenText_key hkey]
  simp only [List.nil_append, List.append_assoc]
  exact startsToken_of_startsLine hkey.word.startsLine

/-! ## Items -/

/-- Data behind a dash start with a token, unless they are a list. -/
theorem Fits.startsToken_writeBehindDash (hd : Fits depth d) (hflat : d.isList = false)
    (column : Nat) (t : Text) : StartsToken (d.writeBehindDash column ++ t) := by
  cases hd with
  | text x =>
    rw [writeBehindDash, List.append_assoc]
    exact startsToken_writtenText _
  | int hn =>
    rw [writeBehindDash, List.append_assoc]
    exact startsToken_of_startsLine hn.word.startsLine
  | bool b => cases b <;> exact startsToken_cons (by decide) _
  | list => cases hflat
  | record hne hkeys =>
    obtain ⟨field, rest, rfl⟩ := List.exists_cons_of_ne_nil hne
    exact startsToken_writeFields hne hkeys column t

theorem startsLine_dash (t : Text) : StartsLine (.char '-' :: .char ' ' :: t) := by
  intro c hc
  obtain rfl : '-' = c := by simpa using hc
  exact ⟨by decide, by decide, by decide, fun _ => rfl⟩

theorem writeItems_spaces (d : Data) (rest : List Data) :
    writeItems indent (spaces indent) (d :: rest) =
      List.replicate indent (Code.char ' ') ++ writeItems indent [] (d :: rest) := by
  rw [writeItems, writeItems, spaces]
  simp

/-- The items of a list whose dashes stand in the column of the block around it. -/
theorem exists_runs_items {d : Data} {rest : List Data}
    (hitems : ∀ e ∈ d :: rest, Fits depth e ∧ e.isList = false ∧ RunsBehindDash depth e)
    {r : Reading} {tokens : List Token}
    (hr : r.Before tokens (indent :: outer) indent
      (writeItems indent [] (d :: rest) ++ (List.replicate k (Code.char ' ') ++ after)))
    (hlast : indent + 2 + 2 * depth < lastColumn) (hk : k ≤ indent) (hafter : StartsLine after) :
    ∃ next, r.Runs next ∧
      next.Before (tokens ++ itemTokens (d :: rest)) (indent :: outer) k after := by
  have hline (d : Data) (rest : List Data) :
      writeItems indent [] (d :: rest) ++ (List.replicate k (Code.char ' ') ++ after) =
        .char '-' :: .char ' ' :: (d.writeBehindDash (indent + 2) ++
          (writeItems indent (spaces indent) rest ++
            (List.replicate k (Code.char ' ') ++ after))) := by
    rw [writeItems]
    simp
  -- Behind its dash an item is read up to the next line, which is either the next item or not.
  have hdash {d : Data} {rest : List Data} {r : Reading} {tokens : List Token} {m : Nat}
      {line : Text} (hd : Fits depth d ∧ d.isList = false ∧ RunsBehindDash depth d)
      (hr : r.Before tokens (indent :: outer) indent
        (writeItems indent [] (d :: rest) ++ (List.replicate k (Code.char ' ') ++ after)))
      (hrest : writeItems indent (spaces indent) rest ++
        (List.replicate k (Code.char ' ') ++ after) =
        List.replicate m (Code.char ' ') ++ line) (hm : m ≤ indent) (hstart : StartsLine line) :
      ∃ next, r.Runs next ∧
        next.Before (tokens ++ .blockEntry :: d.tokens) (indent :: outer) m line := by
    rw [hline, hrest] at hr
    obtain ⟨behind, hrun, hbehind⟩ := hr.exists_runs (Int.le_refl _)
      (startsToken_of_startsLine (startsLine_dash _)) fun s hs =>
        hs.exists_runs_dash (hd.1.startsToken_writeBehindDash hd.2.1 _ _)
    obtain ⟨next, hrun', hnext⟩ := hd.2.2 hbehind (by omega) (by omega) hm hstart
    exact ⟨next, hrun.trans hrun', by simpa using hnext⟩
  induction rest generalizing d r tokens with
  | nil =>
    obtain ⟨next, hrun, hnext⟩ := hdash (hitems d List.mem_cons_self) hr rfl hk hafter
    exact ⟨next, hrun, by simpa [itemTokens] using hnext⟩
  | cons e rest ih =>
    have hline' : writeItems indent (spaces indent) (e :: rest) ++
        (List.replicate k (Code.char ' ') ++ after) =
        List.replicate indent (Code.char ' ') ++
          (writeItems indent [] (e :: rest) ++ (List.replicate k (Code.char ' ') ++ after)) := by
      rw [writeItems_spaces, List.append_assoc]
    have hstart := startsLine_dash (e.writeBehindDash (indent + 2) ++
      (writeItems indent (spaces indent) rest ++ (List.replicate k (Code.char ' ') ++ after)))
    rw [← hline] at hstart
    obtain ⟨hd, hrest⟩ := List.forall_mem_cons.1 hitems
    obtain ⟨behind, hrun, hbehind⟩ := hdash hd hr hline' (Nat.le_refl _) hstart
    obtain ⟨next, hrun', hnext⟩ := ih hrest hbehind
    exact ⟨next, hrun.trans hrun', by simpa [itemTokens] using hnext⟩

/-! ## Data -/

theorem runsBehindKey_list {items : List Data} (hfits : ∀ d ∈ items, Fits depth d)
    (hflat : ∀ d ∈ items, d.isList = false) (hruns : ∀ d ∈ items, RunsBehindDash depth d) :
    RunsBehindKey (depth + 1) (list items) := by
  intro r tokens outer indent start column k after hr hcolumn hlast hk hafter
  cases items with
  | nil =>
    have hline : writeBehindKey indent start (list []) ++
        (List.replicate k (Code.char ' ') ++ after) =
        List.replicate 1 (Code.char ' ') ++
          (.char '[' :: .char ']' :: .char '\n' :: (List.replicate k (Code.char ' ') ++ after)) :=
      rfl
    rw [hline] at hr
    rw [Data.tokens]
    exact hr.exists_runs (by omega) (startsToken_cons (by decide) _) fun s hs =>
      hs.exists_runs_brackets (by omega) (startsToken_of_startsLine hafter)
  | cons d rest =>
    have hline : writeBehindKey indent start (list (d :: rest)) ++
        (List.replicate k (Code.char ' ') ++ after) =
          .char '\n' :: (List.replicate indent (Code.char ' ') ++
          (writeItems indent [] (d :: rest) ++ (List.replicate k (Code.char ' ') ++ after))) := by
      rw [writeBehindKey, writeItems_spaces]
      · simp
      · simp
    have hstart : StartsToken
        (writeItems indent [] (d :: rest) ++ (List.replicate k (Code.char ' ') ++ after)) := by
      rw [writeItems]
      exact startsToken_of_startsLine (startsLine_dash _)
    rw [hline] at hr
    rw [Data.tokens]
    · exact exists_runs_items (fun e he => ⟨hfits e he, hflat e he, hruns e he⟩)
        (hr.carries.before_of_line hr.rest hstart) (by omega) hk hafter
    · simp

theorem runsBehindKey_record {fields : List (Text × Data)} (hne : fields ≠ [])
    (hkeys : ∀ field ∈ fields, IsKey field.1)
    (hruns : ∀ field ∈ fields, RunsBehindKey depth field.2) :
    RunsBehindKey (depth + 1) (record fields) := by
  intro r tokens outer indent start column k after hr hcolumn hlast hk hafter
  have hline : writeBehindKey indent start (record fields) ++
      (List.replicate k (Code.char ' ') ++ after) =
      .char '\n' :: (List.replicate (indent + 2) (Code.char ' ') ++
        (writeFields (indent + 2) [] fields ++ (List.replicate k (Code.char ' ') ++ after))) := by
    obtain ⟨⟨key, value⟩, rest, rfl⟩ := List.exists_cons_of_ne_nil hne
    rw [writeBehindKey, writeFields, writeFields, spaces]
    · simp
    · simp
  rw [hline] at hr
  have hbefore := hr.carries.before_of_line hr.rest (startsToken_writeFields hne hkeys _ _)
  exact exists_runs_closed_record hne hkeys hruns hbefore (by omega) (by omega) hk hafter

theorem runsBehindDash_record {fields : List (Text × Data)} (hne : fields ≠ [])
    (hkeys : ∀ field ∈ fields, IsKey field.1)
    (hruns : ∀ field ∈ fields, RunsBehindKey depth field.2) :
    RunsBehindDash (depth + 1) (record fields) := by
  intro r tokens outer top column k after hr hcolumn hlast hk hafter
  have hline : writeBehindDash column (record fields) = writeFields column [] fields := by
    obtain ⟨field, rest, rfl⟩ := List.exists_cons_of_ne_nil hne
    rfl
  rw [hline] at hr
  exact exists_runs_closed_record hne hkeys hruns hr hcolumn (by omega) hk hafter

/-- Data that fit are read in both places, but lists behind keys only. -/
theorem Fits.runs (hd : Fits depth d) :
    RunsBehindKey depth d ∧ (d.isList = false → RunsBehindDash depth d) := by
  induction hd with
  | text t => exact ⟨runsBehindKey_text t, fun _ => runsBehindDash_text t⟩
  | int hn => exact ⟨(runs_int hn).1, fun _ => (runs_int hn).2⟩
  | bool b => exact ⟨(runs_bool b).1, fun _ => (runs_bool b).2⟩
  | list hflat hitems ih =>
    exact ⟨runsBehindKey_list hitems hflat fun d hd => (ih d hd).2 (hflat d hd), fun h => nomatch h⟩
  | record hne hkeys _ _ ih =>
    exact ⟨runsBehindKey_record hne hkeys fun field h => (ih field h).1,
      fun _ => runsBehindDash_record hne hkeys fun field h => (ih field h).1⟩

/-! ## Characters -/

theorem all_isLiteral_ofInt (n : Int) : (ofInt n).all Style.isLiteral = true := by
  have hdigit (n : Nat) : (ofNat n).all Style.isLiteral = true := by
    refine List.all_eq_true.2 fun c hc => Style.isLiteral_of_ascii ?_
    obtain ⟨d, hd, rfl⟩ := List.mem_map.1 hc
    have hdigit := Nat.isDigit_of_mem_toDigits (by decide) (by decide) hd
    simp only [Char.isDigit, Bool.and_eq_true, decide_eq_true_eq, ge_iff_le,
      UInt32.le_iff_toNat_le] at hdigit
    exact ⟨Nat.le_trans (by decide) hdigit.1, Nat.le_trans hdigit.2 (by decide)⟩
  cases n with
  | ofNat n => exact hdigit n
  | negSucc n =>
    rw [ofInt, List.all_cons, hdigit]
    rfl

theorem isLiteral_marks : Style.isLiteral ' ' = true ∧ Style.isLiteral '\n' = true ∧
    Style.isLiteral '-' = true ∧ Style.isLiteral ':' = true := by decide

mutual

/-- All characters of written data are written as they are. -/
theorem all_isLiteral_writeBehindKey (indent column : Nat) :
    ∀ d : Data, (d.writeBehindKey indent column).all Style.isLiteral = true
  | text t => by
    simp only [writeBehindKey, List.cons_append, List.all_cons, List.all_append,
      all_isLiteral_writtenText, isLiteral_marks, List.all_nil, Bool.and_self]
  | int n => by
    simp only [writeBehindKey, List.cons_append, List.all_cons, List.all_append,
      all_isLiteral_ofInt, isLiteral_marks, List.all_nil, Bool.and_self]
  | bool true => rfl
  | bool false => rfl
  | list [] => rfl
  | list (d :: rest) => by
    have hitems := all_isLiteral_writeItems indent (all_isLiteral_replicate indent) (d :: rest)
    rw [writeBehindKey, List.all_cons, isLiteral_marks.2.1]
    · exact hitems
    · simp
  | record [] => rfl
  | record (field :: rest) => by
    have hfields := all_isLiteral_writeFields (indent + 2) (all_isLiteral_replicate (indent + 2))
      (field :: rest)
    rw [writeBehindKey, List.all_cons, isLiteral_marks.2.1]
    · exact hfields
    · simp

theorem all_isLiteral_writeBehindDash (column : Nat) :
    ∀ d : Data, (d.writeBehindDash column).all Style.isLiteral = true
  | text t => by
    simp only [writeBehindDash, List.all_cons, List.all_append, all_isLiteral_writtenText,
      isLiteral_marks, List.all_nil, Bool.and_self]
  | int n => by
    simp only [writeBehindDash, List.all_cons, List.all_append, all_isLiteral_ofInt,
      isLiteral_marks, List.all_nil, Bool.and_self]
  | bool true => rfl
  | bool false => rfl
  | list [] => rfl
  | list (d :: rest) => all_isLiteral_writeItems column rfl (d :: rest)
  | record [] => rfl
  | record (field :: rest) => all_isLiteral_writeFields column rfl (field :: rest)

theorem all_isLiteral_writeItems (indent : Nat) {lead : Text}
    (hlead : lead.all Style.isLiteral = true) :
    ∀ items : List Data, (writeItems indent lead items).all Style.isLiteral = true
  | [] => rfl
  | d :: rest => by
    have hspaces : (spaces indent).all Style.isLiteral = true := all_isLiteral_replicate indent
    simp only [writeItems, List.all_append, List.all_cons, hlead, isLiteral_marks,
      all_isLiteral_writeBehindDash (indent + 2) d, all_isLiteral_writeItems indent hspaces rest,
      Bool.and_self]

theorem all_isLiteral_writeFields (indent : Nat) {lead : Text}
    (hlead : lead.all Style.isLiteral = true) :
    ∀ fields : List (Text × Data), (writeFields indent lead fields).all Style.isLiteral = true
  | [] => rfl
  | (key, d) :: rest => by
    have hspaces : (spaces indent).all Style.isLiteral = true := all_isLiteral_replicate indent
    have hd := all_isLiteral_writeBehindKey indent
      (indent + (writtenText indent indent key).length + 1) d
    simp only [writeFields, List.all_append, List.all_cons, hlead, isLiteral_marks, hd,
      all_isLiteral_writtenText, all_isLiteral_writeFields indent hspaces rest, Bool.and_self]

end

theorem all_isLiteral_document (fields : List (Text × Data)) :
    (document fields).all Style.isLiteral = true := by
  cases fields with
  | nil => decide
  | cons field rest => exact all_isLiteral_writeFields 0 rfl _

/-! ## Documents -/

/-- The tokens of a document are those of its record. -/
theorem tokens_document {fields : List (Text × Data)} (h : Fits depth (record fields))
    (hlast : 2 * depth < lastColumn) :
    (Tokens.ofText (document fields)).tokens.map (·.token) =
        (record fields).tokens ++ [Token.streamEnd] ∧
      (Tokens.ofText (document fields)).fault = none := by
  obtain _ | _ | _ | _ | ⟨hne, hkeys, -, hfields⟩ := h
  have hdocument : document fields = writeFields 0 [] fields := by
    obtain ⟨field, rest, rfl⟩ := List.exists_cons_of_ne_nil hne
    rfl
  have hmark : (document fields).head? ≠ some '\uFEFF' := by
    obtain ⟨⟨key, value⟩, rest, rfl⟩ := List.exists_cons_of_ne_nil hne
    have hkey : IsKey key := hkeys _ List.mem_cons_self
    rw [hdocument, writeFields, writtenText_key hkey]
    obtain ⟨c, key, rfl⟩ := List.exists_cons_of_ne_nil hkey.word.word.ne_nil
    simpa using (hkey.word.word.inline c List.mem_cons_self).2
  have hstart : Before { source := { rest := document fields } } [] [-1] 0
      (writeFields 0 [] fields ++ (List.replicate 0 (Code.char ' ') ++ [])) := by
    rw [hdocument]
    refine Carries.before_of_spaces (k := 0) ⟨rfl, rfl, rfl, rfl, by simp⟩ (by simp) ?_
      (startsToken_writeFields hne hkeys 0 _) rfl
    simp
  obtain ⟨next, hrun, hnext⟩ := exists_runs_record hne hkeys
    (fun field h => (hfields field h).runs.1) hstart (by decide) (by omega) (Nat.le_refl _)
    (by simp [StartsLine])
  rw [Tokens.ofText, if_neg hmark]
  obtain ⟨fuel, hfuel, hread⟩ := hrun.exists_read (Nat.lt_succ_self _)
  rw [hread]
  simpa [Data.tokens] using hnext.read_end hfuel

end Data
end MarkupNaming.Yaml
