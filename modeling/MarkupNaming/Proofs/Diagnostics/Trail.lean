import Mathlib.Data.List.Chain
import Mathlib.Data.List.Perm.Subperm
import Mathlib.Logic.Relation
import MarkupNaming.Diagnostics.Problem
import MarkupNaming.Proofs.Text.Runs

/-!
# Trails of problems

What following causes and contexts from a problem gives, in graphs with circles of either kind too.
A trail goes from each problem to its cause, or to its context if it has no cause, takes no problem
twice and stops only where there is none to go to or where it has been. The bound on its steps is
never what stops it: a trail has no more places than its graph. Its messages are the headlines of
the problems with a text, one for each, in the order of the trail.
-/
namespace MarkupNaming.Diagnostics
open Text

/-! ## Headlines -/

/-- A line that shows a message: it stands in the message behind nothing but blanks, has no blank
at its ends and no line boundary, and only blanks follow it up to the end of its line. -/
structure IsHeadline (line message : Text) : Prop where
  ne_nil : line ≠ []
  unbroken : ∀ c ∈ line, isLineBoundary c = false
  startsSolid : StartsOutside isBlank line
  endsSolid : ∀ c ∈ line.getLast?, isBlank c = false
  stands : ∃ front gap rest, message = front ++ (line ++ (gap ++ rest)) ∧
    (∀ c ∈ front, isBlank c = true) ∧ (∀ c ∈ gap, isBlank c = true) ∧
    StartsOutside (!isLineBoundary ·) rest

theorem isBlank_of_isLineBoundary {c : Code} (h : isLineBoundary c = true) : isBlank c = true := by
  simp only [isLineBoundary, isBlank, Bool.or_eq_true, Bool.and_eq_true, decide_eq_true_eq,
    beq_iff_eq] at h ⊢
  omega

namespace Problem
variable {p : Problem}

/-- Whether the message has a character that is no blank. -/
def hasText (p : Problem) : Bool := p.message.any (!isBlank ·)

theorem hasText_eq_false_iff : p.hasText = false ↔ ∀ c ∈ p.message, isBlank c = true := by
  simp [hasText]

/-- A text that starts with no blank starts with no line boundary, so it has a first line. -/
theorem headline_ne_nil_iff : p.headline ≠ [] ↔ p.hasText = true := by
  rw [← Bool.not_eq_false, hasText_eq_false_iff, ← forall_mem_trim, not_iff_not, headline,
    trim_eq_nil_iff]
  have hstart : StartsOutside isBlank (trim p.message) := startsOutside_trim
  cases hcore : trim p.message with
  | nil => simp [firstLine]
  | cons c core =>
    rw [hcore, startsOutside_cons] at hstart
    have hbreak : isLineBoundary c = false := by
      cases hc : isLineBoundary c with
      | false => rfl
      | true =>
        rw [isBlank_of_isLineBoundary hc] at hstart
        cases hstart
    simp [firstLine, hbreak, hstart]

theorem isHeadline_headline (h : p.hasText = true) : IsHeadline p.headline p.message := by
  obtain ⟨front, back, hfront, hback, hmessage⟩ := exists_trim_append p.message
  obtain ⟨indent, gap, hindent, hgap, hline⟩ := exists_trim_append (firstLine (trim p.message))
  have hcore : trim p.message =
      firstLine (trim p.message) ++ (trim p.message).dropWhile (!isLineBoundary ·) :=
    List.takeWhile_append_dropWhile.symm
  refine ⟨headline_ne_nil_iff.2 h, ?_, startsOutside_trim,
    fun c hc => isBlank_of_getLast?_trimEnd hc, ?_⟩
  · intro c hc
    have hmem : c ∈ firstLine (trim p.message) := by
      rw [hline]
      exact List.mem_append_right _ (List.mem_append_left _ hc)
    simpa using forall_mem_takeWhile c hmem
  · have hstart : StartsOutside (!isLineBoundary ·)
        ((trim p.message).dropWhile (!isLineBoundary ·)) := startsOutside_dropWhile
    have hblank (t u : Text) (ht : ∀ c ∈ t, isBlank c = true) (hu : ∀ c ∈ u, isBlank c = true) :
        ∀ c ∈ t ++ u, isBlank c = true := List.forall_mem_append.2 ⟨ht, hu⟩
    generalize (trim p.message).dropWhile (!isLineBoundary ·) = rest at hcore hstart
    rw [hcore, hline] at hmessage
    -- The blanks at the end of the message belong to the line if no boundary stands before them.
    cases rest with
    | nil =>
      refine ⟨front ++ indent, gap ++ back, [], ?_, hblank _ _ hfront hindent,
        hblank _ _ hgap hback, startsOutside_nil⟩
      rw [hmessage]
      simp [headline]
    | cons c rest =>
      refine ⟨front ++ indent, gap, (c :: rest) ++ back, ?_, hblank _ _ hfront hindent, hgap,
        hstart⟩
      rw [hmessage]
      simp [headline]

end Problem

/-! ## Trails -/

namespace Graph
variable {g : Graph} {visited places : List Nat} {start : Option Nat} {i j : Nat}

/-- The problem at a place. -/
def problem? (g : Graph) (i : Nat) : Option Problem := g[i]?.map (·.problem)

/-- A place leads to that of the cause, or to that of the context where there is no cause. -/
def Leads (g : Graph) (i j : Nat) : Prop :=
  ∃ n, g[i]? = some n ∧ (n.cause = some j ∨ n.cause = none ∧ n.context = some j) ∧ j < g.length

/-- The places of a trail from `i`. -/
structure IsTrail (g : Graph) (i : Nat) (places : List Nat) : Prop where
  starts : places.head? = some i
  nodup : places.Nodup
  linked : places.IsChain g.Leads
  closed : ∀ a ∈ places, ∀ b, g.Leads a b → b ∈ places

theorem leads_iff : g.Leads i j ↔ ∃ n, g[i]? = some n ∧ n.next = some j ∧ j < g.length := by
  simp only [Leads, Node.next, Option.or_eq_some_iff]

/-- Going from place to place while there is a new one in the graph, however long that takes. -/
inductive Walk (g : Graph) : List Nat → Option Nat → List Nat → Prop
  | ended {visited : List Nat} : Walk g visited none []
  | met {visited : List Nat} {i : Nat} (old : i ∈ visited) : Walk g visited (some i) []
  | outside {visited : List Nat} {i : Nat} (absent : g[i]? = none) : Walk g visited (some i) []
  | step {visited : List Nat} {i : Nat} {n : Node} {places : List Nat} (new : i ∉ visited)
    (here : g[i]? = some n) (rest : Walk g (i :: visited) n.next places) :
    Walk g visited (some i) (i :: places)

/-- Distinct places of a graph are not more than it has, so a new one leaves room for a step. -/
theorem length_lt_of_new (hnodup : visited.Nodup) (hbound : ∀ a ∈ visited, a < g.length)
    (hnew : i ∉ visited) (hi : i < g.length) : visited.length < g.length := by
  have hsubset : i :: visited ⊆ List.range g.length := by
    intro a ha
    rcases List.mem_cons.1 ha with rfl | ha
    · exact List.mem_range.2 hi
    · exact List.mem_range.2 (hbound a ha)
  have hle := ((List.nodup_cons.2 ⟨hnew, hnodup⟩).subperm hsubset).length_le
  rw [List.length_cons, List.length_range] at hle
  omega

/-- With a step for each place that is not visited yet, following problems is a whole walk. -/
theorem exists_walk_follow (steps : Nat) (hnodup : visited.Nodup)
    (hbound : ∀ a ∈ visited, a < g.length) (hsteps : g.length ≤ visited.length + steps) :
    ∃ places, Walk g visited start places ∧
      places.map g.problem? = (g.follow visited start steps).map some := by
  induction steps generalizing visited start with
  | zero =>
    refine ⟨[], ?_, by simp [follow]⟩
    cases start with
    | none => exact .ended
    | some i =>
      by_cases hold : i ∈ visited
      · exact .met hold
      · refine .outside (List.getElem?_eq_none_iff.2 (Nat.le_of_not_lt fun hi => ?_))
        have := length_lt_of_new hnodup hbound hold hi
        omega
  | succ steps ih =>
    cases start with
    | none => exact ⟨[], .ended, by simp [follow]⟩
    | some i =>
      by_cases hold : i ∈ visited
      · exact ⟨[], .met hold, by simp [follow, hold]⟩
      · cases hn : g[i]? with
        | none => exact ⟨[], .outside hn, by simp [follow, hold, hn]⟩
        | some n =>
          obtain ⟨hi, -⟩ := List.getElem?_eq_some_iff.1 hn
          have hbound' : ∀ a ∈ i :: visited, a < g.length :=
            List.forall_mem_cons.2 ⟨hi, hbound⟩
          have hsteps' : g.length ≤ (i :: visited).length + steps := by
            rw [List.length_cons]
            omega
          obtain ⟨places, hwalk, heq⟩ : ∃ places, Walk g (i :: visited) n.next places ∧
              places.map g.problem? = (g.follow (i :: visited) n.next steps).map some :=
            ih (List.nodup_cons.2 ⟨hold, hnodup⟩) hbound' hsteps'
          refine ⟨i :: places, .step hold hn hwalk, ?_⟩
          simp [follow, hold, hn, problem?, heq]

namespace Walk

theorem notMem (h : Walk g visited start places) : ∀ a ∈ places, a ∉ visited := by
  induction h with
  | ended | met | outside => simp
  | step new here rest ih =>
    refine List.forall_mem_cons.2 ⟨new, fun a ha hmem => ?_⟩
    exact ih a ha (List.mem_cons_of_mem _ hmem)

theorem nodup (h : Walk g visited start places) : places.Nodup := by
  induction h with
  | ended | met | outside => exact List.nodup_nil
  | step new here rest ih =>
    exact List.nodup_cons.2 ⟨fun hmem => rest.notMem _ hmem List.mem_cons_self, ih⟩

theorem of_head? (h : Walk g visited start places) (hi : places.head? = some i) :
    start = some i ∧ i < g.length := by
  cases h with
  | ended | met | outside => cases hi
  | step new here rest =>
    obtain rfl := Option.some.inj hi
    exact ⟨rfl, (List.getElem?_eq_some_iff.1 here).1⟩

theorem isChain (h : Walk g visited start places) : places.IsChain g.Leads := by
  induction h with
  | ended | met | outside => exact .nil
  | step new here rest ih =>
    refine List.isChain_cons.2 ⟨fun j hj => ?_, ih⟩
    obtain ⟨hnext, hbound⟩ := rest.of_head? hj
    exact leads_iff.2 ⟨_, here, hnext, hbound⟩

/-- A walk that is to go to a place of the graph goes there, if it has not been there. -/
theorem mem_of_start (h : Walk g visited (some i) places) (hi : i < g.length) :
    i ∈ visited ∨ i ∈ places := by
  cases h with
  | met old => exact .inl old
  | outside absent => exact absurd hi (Nat.not_lt.2 (List.getElem?_eq_none_iff.1 absent))
  | step new here rest => exact .inr List.mem_cons_self

/-- A walk stops only where all that follows has been visited. -/
theorem closed (h : Walk g visited start places) {a b : Nat} (ha : a ∈ places)
    (hab : g.Leads a b) : b ∈ visited ∨ b ∈ places := by
  induction h with
  | ended | met | outside => cases ha
  | @step visited i n places new here rest ih =>
    have hrest : b ∈ i :: visited ∨ b ∈ places := by
      rcases List.mem_cons.1 ha with rfl | ha
      · obtain ⟨m, hm, hnext, hb⟩ := leads_iff.1 hab
        obtain rfl := Option.some.inj (here.symm.trans hm)
        rw [hnext] at rest
        exact rest.mem_of_start hb
      · exact ih ha
    rcases hrest with hb | hb
    · rcases List.mem_cons.1 hb with rfl | hb
      · exact .inr List.mem_cons_self
      · exact .inl hb
    · exact .inr (List.mem_cons_of_mem _ hb)

/-- A walk without anything visited, from a place of the graph, goes along a trail. -/
theorem isTrail (h : Walk g [] (some i) places) (hi : i < g.length) : g.IsTrail i places := by
  refine ⟨?_, h.nodup, h.isChain, fun a ha b hab => ?_⟩
  · cases h with
    | met old => cases old
    | outside absent => exact absurd hi (Nat.not_lt.2 (List.getElem?_eq_none_iff.1 absent))
    | step => rfl
  · exact (h.closed ha hab).resolve_left List.not_mem_nil

end Walk

/-- The places of a trail are those that can be reached. -/
theorem IsTrail.mem_iff (h : g.IsTrail i places) :
    j ∈ places ↔ Relation.ReflTransGen g.Leads i j := by
  constructor
  · refine h.linked.induction (Relation.ReflTransGen g.Leads i) places
      (fun a b hab ha => ha.tail hab) (fun hne => ?_) j
    have hhead := List.head?_eq_some_head hne
    rw [h.starts] at hhead
    rw [← Option.some.inj hhead]
  · intro hreach
    induction hreach with
    | refl => exact List.mem_of_head? h.starts
    | tail _ hab ih => exact h.closed _ ih _ hab

/-! ## Messages -/

/-- Only problems with a text have a message, and each of them has one. -/
theorem messages_eq (g : Graph) (i : Nat) :
    g.messages i = ((g.trail i).filter (·.hasText)).map Problem.headline := by
  rw [messages, List.filter_map]
  congr 1
  refine List.filter_congr fun p _ => ?_
  rw [Bool.eq_iff_iff, ← Problem.headline_ne_nil_iff]
  simp

theorem hint?_eq_none_iff : g.hint? i = none ↔ ∀ p ∈ g.trail i, p.hasText = false := by
  rw [hint?, List.getLast?_eq_none_iff, messages_eq, List.map_eq_nil_iff, List.filter_eq_nil_iff]
  simp

/-- Following problems from a place of a graph visits the places of a trail, one problem at each:
all places that causes and contexts lead to and each of them once. The messages are the headlines
of the problems with a text, in the order of the trail, and the hint is the last message. There is
none exactly if no problem of the trail has a text. -/
theorem exists_isTrail_messages (h : i < g.length) :
    ∃ places, g.IsTrail i places ∧
      (∀ j, j ∈ places ↔ Relation.ReflTransGen g.Leads i j) ∧
      places.map g.problem? = (g.trail i).map some ∧
      g.messages i = ((g.trail i).filter (·.hasText)).map Problem.headline ∧
      (∀ p ∈ g.trail i, p.hasText = true → IsHeadline p.headline p.message) ∧
      g.hint? i = (g.messages i).getLast? ∧
      (g.hint? i = none ↔ ∀ p ∈ g.trail i, ∀ c ∈ p.message, isBlank c = true) := by
  obtain ⟨places, hwalk, hproblems⟩ : ∃ places, Walk g [] (some i) places ∧
      places.map g.problem? = (g.trail i).map some :=
    exists_walk_follow g.length List.nodup_nil (List.forall_mem_nil _) (Nat.le_add_left _ _)
  have htrail := hwalk.isTrail h
  refine ⟨places, htrail, fun j => htrail.mem_iff, hproblems, messages_eq g i,
    fun p _ => Problem.isHeadline_headline, rfl, ?_⟩
  rw [hint?_eq_none_iff]
  exact forall₂_congr fun p _ => Problem.hasText_eq_false_iff

/-- Two problems that lead to each other, by way of one without a text. -/
def circle : Graph :=
  [{ problem := .ofKind "RuntimeError" (some "\n outer \x0b more"), cause := some 1,
     context := some 0 },
    { problem := .ofKind "ValueError" (some " \t"), context := some 2 },
    { problem := .ofKind "ValueError" (some "inner"), context := some 0 }]

/-- A trail goes once around a circle, and to a cause where there is a context too. -/
theorem exists_isTrail_messages_circle :
    0 < circle.length ∧ circle.messages 0 = [("outer" : Text), ("inner" : Text)] ∧
      circle.hint? 0 = some ("inner" : Text) ∧ ∃ places, circle.IsTrail 0 places ∧ 2 ∈ places := by
  have hstart : 0 < circle.length := by decide
  obtain ⟨places, htrail, hreach, -, hmessages, -, hhint, -⟩ := exists_isTrail_messages hstart
  have hcause : circle.Leads 0 1 := leads_iff.2 ⟨_, rfl, rfl, by decide⟩
  have hcontext : circle.Leads 1 2 := leads_iff.2 ⟨_, rfl, rfl, by decide⟩
  have hlines : circle.messages 0 = [("outer" : Text), ("inner" : Text)] := by
    rw [hmessages]
    decide
  exact ⟨hstart, hlines, by rw [hhint, hlines]; rfl, places, htrail,
    (hreach 2).2 ((Relation.ReflTransGen.single hcause).tail hcontext)⟩

end Graph
end MarkupNaming.Diagnostics
