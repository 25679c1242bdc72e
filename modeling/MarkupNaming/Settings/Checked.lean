/-!
# Checked results

A result that carries either a value or the number of faults found on the way. Faults of
independent parts add up.
-/
namespace MarkupNaming

/-- A value, or how many faults stand against one. -/
inductive Checked (α : Type)
  | valid (a : α)
  | faulty (count : Nat)
deriving Repr

namespace Checked
variable {α β : Type}

/-- One fault unless there is a value. -/
def ofOption : Option α → Checked α
  | some a => valid a
  | none => faulty 1

/-- The value changed by a function, with the same faults. -/
def map (f : α → β) : Checked α → Checked β
  | valid a => valid (f a)
  | faulty n => faulty n

/-- Two independent parts. -/
def both : Checked (α → β) → Checked α → Checked β
  | valid f, valid a => valid (f a)
  | valid _, faulty n => faulty n
  | faulty m, valid _ => faulty m
  | faulty m, faulty n => faulty (m + n)

instance : Applicative Checked where
  pure := valid
  seq f x := both f (x ())

@[simp] theorem pure_eq (a : α) : (pure a : Checked α) = valid a := rfl
@[simp] theorem map_eq (f : α → β) (x : Checked α) : f <$> x = both (valid f) x := rfl
@[simp] theorem seq_eq (f : Checked (α → β)) (x : Checked α) : f <*> x = both f x := rfl
@[simp] theorem both_valid (f : α → β) (a : α) : both (valid f) (valid a) = valid (f a) := rfl

/-- A result whose value is not used, in front of one whose value is. -/
def after (first : Checked Unit) (x : Checked α) : Checked α := both (first.map fun _ a => a) x

/-- The results of a list of parts. -/
def all : List (Checked α) → Checked (List α)
  | [] => valid []
  | x :: rest => both (x.map (· :: ·)) (all rest)

@[simp] theorem all_map_valid (items : List α) : all (items.map valid) = valid items := by
  induction items with
  | nil => rfl
  | cons a rest ih => simp [all, ih, map]

/-- The value, or the number of faults as an error. -/
def toExcept : Checked α → Except Nat α
  | valid a => .ok a
  | faulty n => .error n

end Checked
end MarkupNaming
