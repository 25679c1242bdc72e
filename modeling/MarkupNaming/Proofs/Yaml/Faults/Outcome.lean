import MarkupNaming.Yaml.Fault

/-!
# Outcomes

What comes of a part of reading, whether it has a result or ends in a fault: the result satisfies
one condition, and every fault another one. Parts that come one after the other share the
condition on faults.
-/
namespace MarkupNaming.Yaml
variable {σ α β : Type} {E E' : Fault → Prop}

section Except
variable {x : Except Fault α} {f : α → Except Fault β} {P P' : α → Prop} {Q : β → Prop}

/-- A result satisfies `P`, and a fault `E`. -/
def Outcome (P : α → Prop) (E : Fault → Prop) : Except Fault α → Prop
  | .ok a => P a
  | .error fault => E fault

theorem Outcome.imp (h : Outcome P E x) (himp : ∀ a, P a → P' a) : Outcome P' E x := by
  cases x with
  | ok a => exact himp a h
  | error fault => exact h

theorem Outcome.imp_fault (h : Outcome P E x) (himp : ∀ fault, E fault → E' fault) :
    Outcome P E' x := by
  cases x with
  | ok a => exact h
  | error fault => exact himp fault h

theorem Outcome.bind (h : Outcome P E x) (hrest : ∀ a, P a → Outcome Q E (f a)) :
    Outcome Q E (x >>= f) := by
  cases x with
  | ok a => exact hrest a h
  | error fault => exact h

theorem Outcome.ite {y : Except Fault α} {c : Prop} [Decidable c] (hx : Outcome P E x)
    (hy : Outcome P E y) : Outcome P E (if c then x else y) := by
  split
  · exact hx
  · exact hy

theorem Outcome.of_eq_ok {a : α} (h : Outcome P E x) (hx : x = .ok a) : P a := by
  subst hx
  exact h

theorem Outcome.of_eq_error {fault : Fault} (h : Outcome P E x) (hx : x = .error fault) :
    E fault := by
  subst hx
  exact h

end Except

section State
variable {m : StateT σ (Except Fault) α} {f : α → StateT σ (Except Fault) β} {P P' : σ → Prop}
  {Q Q' : α → σ → Prop} {R : β → σ → Prop}

/-- Started where `P` holds, a step ends where `Q` holds of its result and the state, or in a fault
that satisfies `E`. -/
def Ends (P : σ → Prop) (m : StateT σ (Except Fault) α) (Q : α → σ → Prop) (E : Fault → Prop) :
    Prop :=
  ∀ s, P s → Outcome (fun (a, s') => Q a s') E (m.run s)

theorem Ends.imp (h : Ends P m Q E) (himp : ∀ a s, Q a s → Q' a s) : Ends P m Q' E :=
  fun s hs => (h s hs).imp fun _ => himp _ _

theorem Ends.pre (h : Ends P m Q E) (himp : ∀ s, P' s → P s) : Ends P' m Q E :=
  fun s hs => h s (himp s hs)

/-- What holds of a step started in any of some states. -/
theorem Ends.of_each (h : ∀ s, P s → Ends (· = s) m Q E) : Ends P m Q E := fun s hs => h s hs s rfl

theorem Ends.bind (h : Ends P m Q E) (hrest : ∀ a, Ends (Q a) (f a) R E) :
    Ends P (m >>= f) R E := by
  intro s hs
  rw [StateT.run_bind]
  exact (h s hs).bind fun _ hs' => hrest _ _ hs'

theorem ends_pure {a : α} (h : ∀ s, P s → Q a s) : Ends P (pure a) Q E := h

theorem ends_throw {fault : Fault} (h : ∀ s, P s → E fault) :
    Ends P (throw fault : StateT σ (Except Fault) α) Q E := h

theorem Ends.map {g : α → β} (h : Ends P m Q E) (himp : ∀ a s, Q a s → R (g a) s) :
    Ends P (g <$> m) R E := by
  rw [map_eq_pure_bind]
  exact h.bind fun _ => ends_pure (himp _)

theorem Ends.ite {m' : StateT σ (Except Fault) α} {c : Prop} [Decidable c] (hm : Ends P m Q E)
    (hm' : Ends P m' Q E) : Ends P (if c then m else m') Q E := by
  split
  · exact hm
  · exact hm'

theorem ends_get : Ends P (get : StateT σ (Except Fault) σ) (fun a s => a = s ∧ P s) E :=
  fun _ hs => ⟨rfl, hs⟩

/-- A step that depends on the state in which it starts. -/
theorem ends_get_bind {f : σ → StateT σ (Except Fault) β} (h : ∀ s, P s → Ends P (f s) R E) :
    Ends P (get >>= f) R E := fun s hs => h s hs s hs

/-- A part that has no state. -/
theorem ends_lift {x : Except Fault α} {Q : α → Prop} (h : Outcome Q E x) :
    Ends P (liftM x : StateT σ (Except Fault) α) (fun a s => Q a ∧ P s) E := by
  intro s hs
  cases x with
  | ok a => exact ⟨h, hs⟩
  | error fault => exact h

theorem ends_set {s' : σ} {P' : σ → Prop} (h : ∀ s, P s → P' s') :
    Ends P (set s' : StateT σ (Except Fault) PUnit) (fun _ => P') E := h

theorem ends_modify {g : σ → σ} {P' : σ → Prop} (h : ∀ s, P s → P' (g s)) :
    Ends P (modify g : StateT σ (Except Fault) PUnit) (fun _ => P') E := h

/-! ## Lists -/

variable {I : σ → Prop}

theorem ends_mapM {f : α → StateT σ (Except Fault) β} {items : List α} {R : β → Prop}
    (h : ∀ a ∈ items, Ends I (f a) (fun b s => I s ∧ R b) E) :
    Ends I (items.mapM f) (fun results s => I s ∧ ∀ b ∈ results, R b) E := by
  induction items with
  | nil => exact ends_pure fun _ hs => ⟨hs, nofun⟩
  | cons a items ih =>
    obtain ⟨ha, hitems⟩ := List.forall_mem_cons.1 h
    rw [List.mapM_cons]
    refine ha.bind fun b => .of_each fun s hs => ?_
    refine ((ih hitems).pre (by rintro _ rfl; exact hs.1)).bind fun results => ?_
    exact ends_pure fun _ hs' => ⟨hs'.1, List.forall_mem_cons.2 ⟨hs.2, hs'.2⟩⟩

theorem ends_forM {f : α → StateT σ (Except Fault) PUnit} (h : ∀ a, Ends I (f a) (fun _ => I) E)
    (items : List α) : Ends I (items.forM f) (fun _ => I) E := by
  induction items with
  | nil => exact ends_pure fun _ hs => hs
  | cons a items ih => exact (h a).bind fun _ => ih

theorem ends_foldlM {f : β → α → StateT σ (Except Fault) β}
    (h : ∀ b a, Ends I (f b a) (fun _ => I) E) (items : List α) (b : β) :
    Ends I (items.foldlM f b) (fun _ => I) E := by
  induction items generalizing b with
  | nil => exact ends_pure fun _ hs => hs
  | cons a items ih =>
    rw [List.foldlM_cons]
    exact (h b a).bind ih

end State
end MarkupNaming.Yaml
