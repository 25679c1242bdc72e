import Mathlib.Data.List.Sublists
import MarkupNaming.Naming.Rule
import MarkupNaming.Proofs.Text.Runs

/-!
# Composing names

A name is put together like a text in which a separator stands between the parts: joining two
texts leaves out an empty one and is associative, and composing is the fold of it. So what gives
nothing can be anywhere in a rule, and a rule may be composed piece by piece. A rule is made of
identifiers in one of three ways, and each ends in the same: in the rule of the segments that the
identifiers name, or in the first identifier that names none.
-/
namespace MarkupNaming.Naming
open Text

/-! ## Joining two texts -/

/-- Two texts with a separator between them, or one of them if the other is empty. -/
def joined (separator t u : Text) : Text :=
  if t = [] then u else if u = [] then t else t ++ separator ++ u

section Compose
variable {separator t u : Text} {parts : List Text}

@[simp] theorem joined_nil_left : joined separator [] u = u := by simp [joined]

@[simp] theorem joined_nil_right : joined separator t [] = t := by
  by_cases h : t = [] <;> simp [joined, h]

theorem joined_of_ne_nil (ht : t ≠ []) (hu : u ≠ []) :
    joined separator t u = t ++ separator ++ u := by
  rw [joined, if_neg ht, if_neg hu]

theorem joined_eq_nil_iff : joined separator t u = [] ↔ t = [] ∧ u = [] := by
  by_cases ht : t = []
  · simp [ht]
  · by_cases hu : u = []
    · simp [hu]
    · simp [joined_of_ne_nil ht hu, ht]

theorem joined_assoc (separator t u v : Text) :
    joined separator (joined separator t u) v = joined separator t (joined separator u v) := by
  by_cases ht : t = []
  · simp [ht]
  by_cases hu : u = []
  · simp [hu]
  by_cases hv : v = []
  · simp [hv]
  have htu : joined separator t u ≠ [] := fun h => ht (joined_eq_nil_iff.1 h).1
  have huv : joined separator u v ≠ [] := fun h => hu (joined_eq_nil_iff.1 h).1
  rw [joined_of_ne_nil htu hv, joined_of_ne_nil ht huv, joined_of_ne_nil ht hu,
    joined_of_ne_nil hu hv]
  simp

/-! ## Composing -/

@[simp] theorem compose_nil : compose separator [] = [] := rfl

/-- The first part is joined to the name that the others make. -/
theorem compose_cons (separator t : Text) (parts : List Text) :
    compose separator (t :: parts) = joined separator t (compose separator parts) := by
  cases t with
  | nil => simp [compose]
  | cons c t =>
    rw [compose, compose, List.filter_cons_of_pos rfl]
    cases hkept : parts.filter (!List.isEmpty ·) with
    | nil => simp
    | cons u kept =>
      have hu : u ∈ parts.filter (!List.isEmpty ·) := hkept ▸ List.mem_cons_self
      have hne : join separator (u :: kept) ≠ [] :=
        join_ne_nil List.mem_cons_self (by simpa using (List.mem_filter.1 hu).2)
      rw [joined_of_ne_nil (List.cons_ne_nil c t) hne]
      simp

theorem compose_singleton (separator t : Text) : compose separator [t] = t := by
  rw [compose_cons, compose_nil, joined_nil_right]

theorem compose_append (separator : Text) (parts parts' : List Text) :
    compose separator (parts ++ parts') =
      joined separator (compose separator parts) (compose separator parts') := by
  induction parts with
  | nil => simp
  | cons t parts ih => rw [List.cons_append, compose_cons, ih, compose_cons, joined_assoc]

theorem compose_eq_nil_iff : compose separator parts = [] ↔ ∀ t ∈ parts, t = [] := by
  induction parts with
  | nil => simp
  | cons t parts ih => rw [compose_cons, joined_eq_nil_iff, ih, List.forall_mem_cons]

/-- What gives nothing can be left out: only what is kept counts, if it holds all that gives
something. -/
theorem compose_map_of_sublist {ι : Type} {output : ι → Text} {kept all : List ι}
    (hkept : kept.Sublist all) (hall : (all.filter (output · ≠ [])).Sublist kept) :
    compose separator (kept.map output) = compose separator (all.map output) := by
  have hfilter : kept.filter (output · ≠ []) = all.filter (output · ≠ []) := by
    refine (hkept.filter _).antisymm ?_
    have := hall.filter (output · ≠ [])
    rwa [List.filter_filter, List.filter_congr fun o _ => Bool.and_self _] at this
  have hcompose (options : List ι) : compose separator (options.map output) =
      join separator ((options.filter (output · ≠ [])).map output) := by
    rw [compose, List.filter_map]
    congr 2
    refine List.filter_congr fun o _ => ?_
    rw [Function.comp_apply]
    cases output o <;> simp
  rw [hcompose, hcompose, hfilter]

end Compose

/-! ## Segments that identifiers name -/

namespace Segment
variable {id : Text} {ids : List Text} {segments : List Segment} {fault : UnknownSegment}

theorem isSome_ofId?_iff : (ofId? id).isSome ↔ id ∈ all.map (·.id) := by
  rw [ofId?, List.find?_isSome, List.mem_map]
  simp

theorem id_of_ofId? {s : Segment} (h : ofId? id = some s) : s.id = id := by
  have := List.find?_some h
  exact eq_of_beq this

theorem findAll_cons (id : Text) (ids : List Text) : findAll (id :: ids) =
    match ofId? id with
    | some s => (findAll ids).map (s :: ·)
    | none => .error ⟨id⟩ := by
  rw [findAll, List.mapM_cons, find]
  cases ofId? id with
  | none => rfl
  | some s =>
    rw [findAll]
    cases ids.mapM find <;> rfl

/-- Segments are found under their identifiers, and under no others. -/
theorem findAll_eq_ok_iff : findAll ids = .ok segments ↔ segments.map (·.id) = ids := by
  induction ids generalizing segments with
  | nil => simp [findAll, pure, Except.pure]
  | cons id ids ih =>
    rw [findAll_cons]
    cases hid : ofId? id with
    | none =>
      refine iff_of_false (by simp) fun h => ?_
      obtain ⟨s, segments, rfl, rfl, -⟩ := List.map_eq_cons_iff.1 h
      rw [ofId?_id] at hid
      cases hid
    | some s =>
      obtain rfl := id_of_ofId? hid
      constructor
      · intro h
        cases hids : findAll ids with
        | error fault =>
          rw [hids] at h
          cases h
        | ok rest =>
          rw [hids] at h
          obtain rfl := Except.ok.inj h
          rw [List.map_cons, ih.1 hids]
      · intro h
        obtain ⟨s', rest, rfl, hs, hrest⟩ := List.map_eq_cons_iff.1 h
        rw [← hs, ofId?_id] at hid
        obtain rfl := Option.some.inj hid
        show (findAll ids).map (s' :: ·) = _
        rw [ih.2 hrest]
        rfl

/-- The fault is the first identifier that names no segment. -/
theorem findAll_eq_error_iff : findAll ids = .error fault ↔
    ∃ before after, ids = before ++ fault.id :: after ∧ (∀ id ∈ before, id ∈ all.map (·.id)) ∧
      fault.id ∉ all.map (·.id) := by
  induction ids with
  | nil => simp [findAll, pure, Except.pure]
  | cons id ids ih =>
    rw [findAll_cons]
    cases hid : ofId? id with
    | none =>
      have hunknown : id ∉ all.map (·.id) := by
        rw [← isSome_ofId?_iff, hid]
        simp
      constructor
      · intro h
        obtain rfl := Except.error.inj h
        exact ⟨[], ids, rfl, List.forall_mem_nil _, hunknown⟩
      · rintro ⟨before, after, heq, hbefore, -⟩
        cases before with
        | nil => rw [(List.cons.inj heq).1]
        | cons first before =>
          rw [(List.cons.inj heq).1] at hunknown
          exact absurd (hbefore first List.mem_cons_self) hunknown
    | some s =>
      have hknown : id ∈ all.map (·.id) := by
        rw [← isSome_ofId?_iff, hid]
        rfl
      have hmap : (findAll ids).map (s :: ·) = .error fault ↔ findAll ids = .error fault := by
        cases findAll ids <;> simp [Except.map]
      show (findAll ids).map (s :: ·) = _ ↔ _
      rw [hmap, ih]
      constructor
      · rintro ⟨before, after, rfl, hbefore, hunknown⟩
        exact ⟨id :: before, after, rfl, List.forall_mem_cons.2 ⟨hknown, hbefore⟩, hunknown⟩
      · rintro ⟨before, after, heq, hbefore, hunknown⟩
        cases before with
        | nil =>
          rw [(List.cons.inj heq).1] at hknown
          exact absurd hknown hunknown
        | cons first before =>
          exact ⟨before, after, (List.cons.inj heq).2, (List.forall_mem_cons.1 hbefore).2, hunknown⟩

theorem exists_findAll_iff :
    (∃ segments, findAll ids = .ok segments) ↔ ∀ id ∈ ids, id ∈ all.map (·.id) := by
  constructor
  · rintro ⟨segments, h⟩ id hid
    rw [← findAll_eq_ok_iff.1 h] at hid
    obtain ⟨s, -, rfl⟩ := List.mem_map.1 hid
    exact List.mem_map_of_mem s.mem_all
  · intro h
    cases hids : findAll ids with
    | ok segments => exact ⟨segments, rfl⟩
    | error fault =>
      obtain ⟨before, after, rfl, -, hunknown⟩ := findAll_eq_error_iff.1 hids
      exact absurd (h fault.id (by simp)) hunknown

end Segment

/-! ## Rules that identifiers make -/

/-- The identifiers of the segments of a rule. -/
def Rule.ids (r : Rule) : List Text := r.segments.map (·.id)

/-- What comes of identifiers that are to make a rule: the rule of the segments that they name if
all are registered, and otherwise the fault that the first other one is. -/
structure Makes {ε : Type} (result : Except ε Rule) (unknown : UnknownSegment → ε)
    (ids : List Text) (separator : Text) : Prop where
  made : (∀ id ∈ ids, id ∈ Segment.all.map (·.id)) →
    ∃ r, result = .ok r ∧ r.ids = ids ∧ r.separator = separator
  refused : (∃ fault, result = .error (unknown fault)) ↔ ∃ id ∈ ids, id ∉ Segment.all.map (·.id)
  first : ∀ fault, result = .error (unknown fault) → ∃ before after,
    ids = before ++ fault.id :: after ∧ ∀ id ∈ before, id ∈ Segment.all.map (·.id)

section Makes
variable {ids : List Text} {separator : Text}

/-- A rule that is made of the segments which are found has the identifiers that were given. -/
theorem makes_map {rule : List Segment → Rule}
    (hrule : ∀ segments, (rule segments).segments = segments ∧
      (rule segments).separator = separator) :
    Makes ((Segment.findAll ids).map rule) id ids separator := by
  have herror (fault : UnknownSegment) :
      (Segment.findAll ids).map rule = .error fault ↔ Segment.findAll ids = .error fault := by
    cases Segment.findAll ids <;> simp [Except.map]
  constructor
  · intro h
    obtain ⟨segments, hsegments⟩ := Segment.exists_findAll_iff.2 h
    refine ⟨rule segments, by rw [hsegments]; rfl, ?_, (hrule segments).2⟩
    rw [Rule.ids, (hrule segments).1]
    exact Segment.findAll_eq_ok_iff.1 hsegments
  · constructor
    · rintro ⟨fault, hfault⟩
      obtain ⟨before, after, rfl, -, hunknown⟩ :=
        Segment.findAll_eq_error_iff.1 ((herror fault).1 hfault)
      exact ⟨fault.id, by simp, hunknown⟩
    · rintro ⟨name, hname, hunknown⟩
      cases hids : Segment.findAll ids with
      | error fault => exact ⟨fault, rfl⟩
      | ok segments =>
        exact absurd (Segment.exists_findAll_iff.1 ⟨segments, hids⟩ name hname) hunknown
  · intro fault hfault
    obtain ⟨before, after, heq, hbefore, -⟩ :=
      Segment.findAll_eq_error_iff.1 ((herror fault).1 hfault)
    exact ⟨before, after, heq, hbefore⟩

theorem Makes.mapError {result : Except UnknownSegment Rule} (h : Makes result id ids separator) :
    Makes (result.mapError RuleFault.unknownSegment) .unknownSegment ids separator := by
  have herror (fault : UnknownSegment) :
      result.mapError RuleFault.unknownSegment = .error (.unknownSegment fault) ↔
        result = .error fault := by
    cases result <;> simp [Except.mapError]
  refine ⟨fun hids => ?_, ?_, fun fault hfault => h.first fault ((herror fault).1 hfault)⟩
  · obtain ⟨r, rfl, hr⟩ := h.made hids
    exact ⟨r, rfl, hr⟩
  · simp only [herror]
    exact h.refused

theorem makes_ofOptions (ids : List Text) (separator : Text) :
    Makes (Rule.ofOptions ids separator) id ids separator :=
  makes_map fun _ => ⟨rfl, rfl⟩

theorem makes_ofCustom (record : CustomRule) :
    Makes (Rule.ofCustom record) id record.options record.separator :=
  makes_map fun _ => ⟨rfl, rfl⟩

/-! ## Rules that an identifier names -/

/-- What an identifier of a rule stands for: the identifiers of segments and the separator of a
preset rule or, where there is none, of the first rule in the settings that has it. -/
def Rule.named? (name : Text) (settings : Settings) : Option (List Text × Text) :=
  ((Rule.preset? name).map fun r => (r.ids, r.separator)).or
    ((settings.findRule? name).map fun record => (record.options, record.separator))

theorem makes_resolve {name : Text} {settings : Settings}
    (h : Rule.named? name settings = some (ids, separator)) :
    Makes (Rule.resolve name settings) .unknownSegment ids separator := by
  rw [Rule.named?] at h
  rw [Rule.resolve]
  cases hpreset : Rule.preset? name with
  | some r =>
    rw [hpreset] at h
    obtain ⟨rfl, rfl⟩ := Prod.mk.inj (Option.some.inj h)
    have hknown : ∀ id ∈ r.ids, id ∈ Segment.all.map (·.id) :=
      Segment.exists_findAll_iff.1 ⟨r.segments, Segment.findAll_eq_ok_iff.2 rfl⟩
    refine ⟨fun _ => ⟨r, rfl, rfl, rfl⟩, iff_of_false (by simp) ?_, by simp⟩
    rintro ⟨id, hid, hunknown⟩
    exact hunknown (hknown id hid)
  | none =>
    rw [hpreset] at h
    obtain ⟨record, hrecord, heq⟩ := Option.map_eq_some_iff.1 h
    obtain ⟨rfl, rfl⟩ := Prod.mk.inj heq
    simp only [hrecord]
    exact (makes_ofCustom record).mapError

/-- An identifier that stands for nothing is itself the fault. -/
theorem resolve_of_named?_eq_none {name : Text} {settings : Settings}
    (h : Rule.named? name settings = none) :
    ∃ known, Rule.resolve name settings = .error (.unknownRule name known) := by
  rw [Rule.named?, Option.or_eq_none_iff, Option.map_eq_none_iff, Option.map_eq_none_iff] at h
  rw [Rule.resolve, h.1]
  simp only [h.2]
  exact ⟨_, rfl⟩

end Makes

/-- Names are composed piece by piece. Of two lists of options, whatever they give, the name of both
together is that of the first, the separator and that of the second, or just one of them if the
other is empty; options that give nothing can be left out or put in anywhere; and the name is empty
exactly if all options give nothing. A rule composes what the segments give that its identifiers
name, in their order, and a rule is refused for an identifier that is not registered exactly if it
has one, whichever way it is made. -/
theorem generate_eq_compose {ι : Type} (output : ι → Text) (separator : Text) :
    (∀ options options' : List ι, compose separator ((options ++ options').map output) =
      joined separator (compose separator (options.map output))
        (compose separator (options'.map output))) ∧
    (∀ kept all : List ι, kept.Sublist all → (all.filter (output · ≠ [])).Sublist kept →
      compose separator (kept.map output) = compose separator (all.map output)) ∧
    (∀ options : List ι, compose separator (options.map output) = [] ↔
      ∀ option ∈ options, output option = []) ∧
    (∀ r : Rule, ∃ segments, Segment.findAll r.ids = .ok segments ∧
      ∀ context settings today, r.generate context settings today =
        (segments.mapM (Segment.generate context settings today)).map (compose r.separator)) ∧
    (∀ ids, Makes (Rule.ofOptions ids separator) id ids separator) ∧
    (∀ record, Makes (Rule.ofCustom record) id record.options record.separator) ∧
    ∀ name settings,
      (∀ ids between, Rule.named? name settings = some (ids, between) →
        Makes (Rule.resolve name settings) .unknownSegment ids between) ∧
      (Rule.named? name settings = none →
        ∃ known, Rule.resolve name settings = .error (.unknownRule name known)) := by
  refine ⟨fun options options' => ?_, fun kept all => compose_map_of_sublist, fun options => ?_,
    fun r => ?_, fun ids => makes_ofOptions ids separator, makes_ofCustom,
    fun name settings => ⟨fun ids between => makes_resolve, resolve_of_named?_eq_none⟩⟩
  · rw [List.map_append, compose_append]
  · rw [compose_eq_nil_iff, List.forall_mem_map]
  · exact ⟨r.segments, Segment.findAll_eq_ok_iff.2 rfl, fun _ _ _ => rfl⟩

/-- Parts with gaps before, between and behind them make the name that they make without, a preset
rule is had, and an identifier is refused that names no segment, no preset rule and no rule of the
settings. -/
theorem generate_eq_compose_gaps :
    compose "--" [("a" : Text), ("b" : Text)] =
      compose "--" ["", ("a" : Text), "", ("b" : Text), ""] ∧
    (∃ r, Rule.resolve "ruleGamma" .defaults = .ok r ∧
      r.ids = [("projectPrefix" : Text), ("reversedFileName" : Text)]) ∧
    (∃ known, Rule.resolve "ruleDelta" .defaults = .error (.unknownRule "ruleDelta" known)) ∧
    ∃ fault, Rule.ofOptions ["pathHash", "nope"] "--" = .error fault := by
  obtain ⟨-, hgaps, -, -, hoptions, -, hresolve⟩ := generate_eq_compose (id : Text → Text) "--"
  have hgamma : Rule.named? "ruleGamma" .defaults =
      some ([("projectPrefix" : Text), ("reversedFileName" : Text)], ("--" : Text)) := by decide
  have hdelta : Rule.named? "ruleDelta" .defaults = none := by decide
  obtain ⟨r, hr, hids, -⟩ := ((hresolve _ _).1 _ _ hgamma).made (by decide)
  refine ⟨?_, ⟨r, hr, hids⟩, (hresolve _ _).2 hdelta, (hoptions _).refused.2 ?_⟩
  · exact hgaps [("a" : Text), ("b" : Text)] ["", ("a" : Text), "", ("b" : Text),
    ""] (by decide) (by decide)
  · exact ⟨"nope", by decide, by decide⟩

end MarkupNaming.Naming
