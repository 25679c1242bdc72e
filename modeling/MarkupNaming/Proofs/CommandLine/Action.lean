import MarkupNaming.CommandLine.Run

/-!
# Effects of actions

What actions do to files, whatever their console is and has shown. Everything but saving and
writing keeps the files, so what a command leaves is told by the part at its end that changes
them.
-/
namespace MarkupNaming.CommandLine
open Text Console Diagnostics

namespace Action
variable {ε α β : Type} {x : Action α} {f : α → Action β} {files : FileTree} {a : α}

/-! ## Running -/

theorem run_bind (s : Session) :
    (x >>= f).run.run s = match x.run.run s with
      | (.ok a, s₁) => (f a).run.run s₁
      | (.error e, s₁) => (.error e, s₁) := by
  rw [ExceptT.run_bind, StateT.run_bind]
  rcases x.run.run s with ⟨_ | _, s₁⟩ <;> rfl

/-- The rest of an action runs behind a part with a result. -/
theorem run_bind_of_ok {s s₁ : Session} (h : x.run.run s = (.ok a, s₁)) :
    (x >>= f).run.run s = (f a).run.run s₁ := by
  rw [run_bind, h]

/-- An action with a result has a result in each of its parts. -/
theorem exists_of_run_bind {s s₂ : Session} {b : β} (h : (x >>= f).run.run s = (.ok b, s₂)) :
    ∃ a s₁, x.run.run s = (.ok a, s₁) ∧ (f a).run.run s₁ = (.ok b, s₂) := by
  rw [run_bind] at h
  rcases hx : x.run.run s with ⟨_ | a, s₁⟩
  · rw [hx] at h
    cases h
  · exact ⟨a, s₁, rfl, by simpa [hx] using h⟩

/-- What is made of a result leaves the session as it is. -/
theorem run_bind_pure {β : Type} (x : Action α) (g : α → β) (s : Session) :
    (x >>= fun a => pure (g a)).run.run s = ((x.run.run s).1.map g, (x.run.run s).2) := by
  rw [run_bind]
  rcases x.run.run s with ⟨_ | a, s₁⟩ <;> rfl

/-! ## What actions end with -/

/-- Started on files, an action ends with a result and files of which a condition holds. -/
def Ends (x : Action α) (files : FileTree) (Q : Except Failure α → FileTree → Prop) : Prop :=
  ∀ s : Session, s.files = files → Q (x.run.run s).1 (x.run.run s).2.files

/-- An action that leaves the files as they are, and has no result but one of which a condition
holds. -/
def Keeps (x : Action α) (files : FileTree) (P : α → Prop) : Prop :=
  Ends x files fun r after => after = files ∧ ∀ a, r = .ok a → P a

theorem Ends.imp {Q Q' : Except Failure α → FileTree → Prop} (h : Ends x files Q)
    (himp : ∀ r after, Q r after → Q' r after) : Ends x files Q' :=
  fun s hs => himp _ _ (h s hs)

theorem Keeps.imp {P P' : α → Prop} (h : Keeps x files P) (himp : ∀ a, P a → P' a) :
    Keeps x files P' :=
  Ends.imp h fun _ _ hkeeps => ⟨hkeeps.1, fun a hr => himp a (hkeeps.2 a hr)⟩

theorem Ends.bind {Q : Except Failure α → FileTree → Prop} {Q' : Except Failure β → FileTree → Prop}
    (h : Ends x files Q) (hfailure : ∀ failure after, Q (.error failure) after →
      Q' (.error failure) after)
    (hrest : ∀ a after, Q (.ok a) after → Ends (f a) after Q') : Ends (x >>= f) files Q' := by
  intro s hs
  have hfirst := h s hs
  rw [run_bind]
  rcases hx : x.run.run s with ⟨failure | a, s₁⟩
  · rw [hx] at hfirst
    exact hfailure failure s₁.files hfirst
  · rw [hx] at hfirst
    exact hrest a s₁.files hfirst s₁ rfl

/-- A part that keeps the files comes before a part that need not. -/
theorem Keeps.bind {P : α → Prop} {Q : Except Failure β → FileTree → Prop} (h : Keeps x files P)
    (hfailure : ∀ failure, Q (.error failure) files) (hrest : ∀ a, P a → Ends (f a) files Q) :
    Ends (x >>= f) files Q := by
  refine Ends.bind h ?_ ?_
  · rintro failure after ⟨rfl, -⟩
    exact hfailure failure
  · rintro a after ⟨rfl, hresult⟩
    exact hrest a (hresult a rfl)

/-- Two parts that keep the files. -/
theorem Keeps.andThen {P : α → Prop} {P' : β → Prop} (h : Keeps x files P)
    (hrest : ∀ a, P a → Keeps (f a) files P') : Keeps (x >>= f) files P' :=
  h.bind (fun _ => ⟨rfl, fun _ hr => nomatch hr⟩) hrest

theorem ends_pure {Q : Except Failure α → FileTree → Prop} (h : Q (.ok a) files) :
    Ends (pure a) files Q := by
  rintro s rfl
  exact h

theorem keeps_pure {P : α → Prop} (h : P a) : Keeps (pure a) files P :=
  ends_pure ⟨rfl, fun _ hr => Except.ok.inj hr ▸ h⟩

/-- What is made of a result changes nothing. -/
theorem Keeps.bind_pure {P : α → Prop} (h : Keeps x files P) (g : α → β) :
    Keeps (x >>= fun a => pure (g a)) files fun _ => True :=
  h.andThen fun _ _ => keeps_pure trivial

theorem ends_throw (failure : Failure) : Ends (throw failure : Action α) files fun r after =>
    r = .error failure ∧ after = files := by
  rintro s rfl
  exact ⟨rfl, rfl⟩

theorem keeps_throw (failure : Failure) {P : α → Prop} : Keeps (throw failure) files P :=
  (ends_throw failure).imp fun _ _ hends => ⟨hends.2, fun _ hr => nomatch hends.1.symm.trans hr⟩

theorem keeps_demand (condition : Prop) [Decidable condition] (failure : Failure) :
    Keeps (demand condition failure) files fun _ => condition := by
  rw [demand]
  split
  · next h => exact keeps_pure h
  · exact keeps_throw failure

theorem keeps_require [Traced ε] (e : Except ε α) : Keeps (require e) files (e = .ok ·) := by
  cases e with
  | error fault => exact keeps_throw _
  | ok a => exact keeps_pure rfl

theorem keeps_expect [Traced ε] (e : Except ε α) : Keeps (expect e) files (e = .ok ·) := by
  cases e with
  | error fault =>
    rw [expect]
    split <;> exact keeps_throw _
  | ok a => exact keeps_pure rfl

theorem keeps_get : Keeps (get : Action Session) files fun _ => True := by
  rintro s rfl
  exact ⟨rfl, fun _ _ => trivial⟩

/-- Nothing keeps an action from telling something. -/
theorem ends_emit (t : Text) : Ends (emit t) files fun r after => r = .ok () ∧ after = files := by
  rintro s rfl
  exact ⟨rfl, rfl⟩

theorem ends_tell (n : Notice) : Ends (tell n) files fun r after => r = .ok () ∧ after = files := by
  rintro s rfl
  exact ⟨rfl, rfl⟩

theorem ends_inform (t : Text) :
    Ends (inform t) files fun r after => r = .ok () ∧ after = files := by
  rintro s rfl
  exact ⟨rfl, rfl⟩

theorem Ends.keeps {P : α → Prop} (h : Ends x files fun r after => r = .ok a ∧ after = files)
    (hresult : P a) : Keeps x files P :=
  h.imp fun _ _ hends => ⟨hends.2, fun _ hr => Except.ok.inj (hends.1.symm.trans hr) ▸ hresult⟩

theorem ends_leave (after : FileTree) :
    Ends (leave after) files fun r left => r = .ok () ∧ left = after :=
  fun _ _ => ⟨rfl, rfl⟩

end Action
end MarkupNaming.CommandLine
