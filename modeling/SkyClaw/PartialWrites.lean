import Mathlib.Data.List.Basic

set_option linter.all false

/-!
A sequence written over another from its start, item after item, and how far two
sequences agree. A write that is stopped leaves a part of the new one before the
rest of the old one.
-/
namespace PartialWrites

variable {α : Type}

/-- The file after the first `k` items of `new` are written over `old`. -/
def after (old new : List α) (k : Nat) : List α := new.take k ++ old.drop k

/-- An item at its place; at the end of the file it makes it longer. -/
def put (file : List α) (i : Nat) (x : α) : List α := file.take i ++ x :: file.drop (i + 1)

/-- The states of a write that starts at the first item. -/
inductive Reaches (old new : List α) : Nat → List α → Prop where
  | start : Reaches old new 0 old
  | step {k : Nat} {file : List α} {x : α} : Reaches old new k file → new[k]? = some x →
      Reaches old new (k + 1) (put file k x)

theorem put_after {old new : List α} {k : Nat} {x : α} (next : new[k]? = some x) :
    put (after old new k) k x = after old new (k + 1) := by
  obtain ⟨bound, same⟩ := List.getElem?_eq_some_iff.mp next
  have size : (new.take k).length = k := List.length_take_of_le (Nat.le_of_lt bound)
  have front : (after old new k).take k = new.take k := List.take_left' size
  have back : (after old new k).drop (k + 1) = old.drop (k + 1) := by
    rw [after, List.drop_append, size, List.drop_of_length_le (by omega), List.nil_append,
      List.drop_drop]
    congr 1
    omega
  rw [put, front, back, after, List.take_add_one, next]
  simp

theorem reaches_after {old new : List α} {k : Nat} (bound : k ≤ new.length) :
    Reaches old new k (after old new k) := by
  induction k with
  | zero => exact .start
  | succ k ih =>
    have next : new[k]? = some new[k] := List.getElem?_eq_getElem (by omega)
    rw [← put_after next]
    exact .step (ih (by omega)) next

theorem Reaches.is_after {old new file : List α} {k : Nat} (reached : Reaches old new k file) :
    k ≤ new.length ∧ file = after old new k := by
  induction reached with
  | start => exact ⟨Nat.zero_le _, rfl⟩
  | step _ next ih =>
    obtain ⟨bound, _⟩ := List.getElem?_eq_some_iff.mp next
    refine ⟨bound, ?_⟩
    rw [ih.2, put_after next]

theorem reaches_iff {old new file : List α} {k : Nat} :
    Reaches old new k file ↔ k ≤ new.length ∧ file = after old new k := by
  constructor
  · intro reached
    exact reached.is_after
  · intro both
    rw [both.2]
    exact reaches_after both.1

/-- How many items at the start agree. -/
def agreement [DecidableEq α] : List α → List α → Nat
  | x :: xs, y :: ys => if x = y then agreement xs ys + 1 else 0
  | _, _ => 0

theorem le_agreement [DecidableEq α] {a b : List α} {k : Nat} :
    k ≤ agreement a b ↔ k ≤ a.length ∧ k ≤ b.length ∧ a.take k = b.take k := by
  induction a generalizing b k with
  | nil =>
    cases k with
    | zero => simp
    | succ k => simp [agreement]
  | cons x xs ih =>
    cases b with
    | nil =>
      cases k with
      | zero => simp
      | succ k => simp [agreement]
    | cons y ys =>
      cases k with
      | zero => simp
      | succ k =>
        by_cases same : x = y
        · simp [agreement, same, ih]
        · simp [agreement, same]

section
variable [DecidableEq α] (a b : List α)

theorem agreement_bounds : agreement a b ≤ a.length ∧ agreement a b ≤ b.length := by
  have all := le_agreement.mp (Nat.le_refl (agreement a b))
  exact ⟨all.1, all.2.1⟩

theorem take_agreement : a.take (agreement a b) = b.take (agreement a b) :=
  (le_agreement.mp (Nat.le_refl (agreement a b))).2.2

end

end PartialWrites
