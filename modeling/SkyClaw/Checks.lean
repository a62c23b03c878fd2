import Mathlib.Data.List.Basic

set_option linter.all false

/-!
Chains of checks that end at the first error.
-/
namespace Checks

variable {ε α β : Type}

theorem bind_ok {x : Except ε α} {f : α → Except ε β} {b : β} :
    x >>= f = .ok b ↔ ∃ a, x = .ok a ∧ f a = .ok b := by
  cases x with
  | error e => exact ⟨nofun, nofun⟩
  | ok a => exact ⟨fun done => ⟨a, rfl, done⟩, fun ⟨_, same, done⟩ => by cases same; exact done⟩

theorem pure_ok {a b : α} : (pure a : Except ε α) = .ok b ↔ a = b := Except.ok.injEq a b ▸ Iff.rfl

def require (p : Prop) [Decidable p] (e : ε) : Except ε Unit := if p then .ok () else .error e

@[simp] theorem require_ok {p : Prop} [Decidable p] {e : ε} {u : Unit} :
    require p e = .ok u ↔ p := by
  unfold require
  split <;> simp [*]

/-- A value that must be there. -/
def present (e : ε) : Option α → Except ε α
  | some a => .ok a
  | none => .error e

@[simp] theorem present_ok {e : ε} {x : Option α} {a : α} : present e x = .ok a ↔ x = some a := by
  cases x <;> simp [present]

theorem mapM_map_ok {f : α → β} {g : β → Except ε α} {l : List α}
    (each : ∀ a ∈ l, g (f a) = .ok a) : (l.map f).mapM g = .ok l := by
  induction l with
  | nil => rfl
  | cons a l ih =>
    rw [List.map_cons, List.mapM_cons, each a List.mem_cons_self,
      ih fun b mem => each b (List.mem_cons_of_mem _ mem)]
    rfl

theorem perm_map {f : α → β} {l : List α} {m : List β} (perm : m.Perm (l.map f)) :
    ∃ l' : List α, m = l'.map f ∧ l'.Perm l := by
  induction m generalizing l with
  | nil => exact ⟨[], rfl, by simpa using perm.symm⟩
  | cons b m ih =>
    obtain ⟨a, mem, rfl⟩ := List.mem_map.mp (perm.subset List.mem_cons_self)
    obtain ⟨front, back, rfl⟩ := List.append_of_mem mem
    have middle : (front ++ a :: back).Perm (a :: (front ++ back)) := List.perm_middle
    obtain ⟨l', rfl, order⟩ := ih ((perm.trans (middle.map f)).cons_inv)
    exact ⟨a :: l', rfl, (order.cons a).trans middle.symm⟩

/-- The entries of some values, in any order, are read as these values. -/
theorem mapM_perm {f : α → β} {g : β → Except ε α} {l : List α} {m : List β}
    (perm : m.Perm (l.map f)) (each : ∀ a ∈ l, g (f a) = .ok a) :
    ∃ l' : List α, m.mapM g = .ok l' ∧ l'.Perm l := by
  obtain ⟨l', rfl, order⟩ := perm_map perm
  exact ⟨l', mapM_map_ok fun a mem => each a (order.subset mem), order⟩

end Checks
