import Mathlib.Logic.Function.Basic

set_option linter.all false

/-!
Locks and the parties that hold them: a lock is taken exactly while a party holds it, and
no two parties hold the same one.
-/
namespace HeldLocks

variable {K I : Type}

structure Held (locked : K → Bool) (holds : I → Option K) : Prop where
  taken : ∀ k, locked k = true ↔ ∃ i, holds i = some k
  one : ∀ i j k, holds i = some k → holds j = some k → i = j

variable {locked : K → Bool} {holds : I → Option K} {i j : I} {k l : K}

theorem Held.none : Held (fun _ : K => false) (fun _ : I => none) :=
  ⟨by simp, by simp⟩

theorem Held.nobody (held : Held locked holds) (free : locked k = false) (j : I) :
    holds j ≠ some k := by
  intro has
  rw [(held.taken k).mpr ⟨j, has⟩] at free
  cases free

section
variable [DecidableEq I]

theorem update_eq_some {now : Option K} : Function.update holds i now j = some l ↔
    (j = i ∧ now = some l) ∨ (j ≠ i ∧ holds j = some l) := by
  by_cases here : j = i
  · subst here
    simp
  · simp [here]

theorem Held.same (held : Held locked holds) {now : Option K} (unchanged : now = holds i) :
    Held locked (Function.update holds i now) := by
  rw [unchanged, Function.update_eq_self]
  exact held

variable [DecidableEq K]

theorem Held.take (held : Held locked holds) (free : locked k = false) (idle : holds i = .none) :
    Held (Function.update locked k true) (Function.update holds i (some k)) := by
  constructor
  · intro l
    simp only [update_eq_some]
    by_cases same : l = k
    · subst same
      simp only [Function.update_self, true_iff]
      exact ⟨i, .inl ⟨rfl, trivial⟩⟩
    · rw [Function.update_of_ne same, held.taken l]
      constructor
      · intro ⟨j, has⟩
        refine ⟨j, .inr ⟨?_, has⟩⟩
        rintro rfl
        rw [idle] at has
        cases has
      · rintro ⟨j, ⟨_, has⟩ | ⟨_, has⟩⟩
        · exact absurd (Option.some.inj has).symm same
        · exact ⟨j, has⟩
  · intro a b l first second
    rcases update_eq_some.mp first with ⟨rfl, here⟩ | ⟨_, has⟩
    · rcases update_eq_some.mp second with ⟨rfl, _⟩ | ⟨_, has⟩
      · rfl
      · exact absurd (has.trans here.symm) (held.nobody free b)
    · rcases update_eq_some.mp second with ⟨rfl, here⟩ | ⟨_, other⟩
      · exact absurd (has.trans here.symm) (held.nobody free a)
      · exact held.one a b l has other

theorem Held.give (held : Held locked holds) (has : holds i = some k) :
    Held (Function.update locked k false) (Function.update holds i .none) := by
  have kept : ∀ j l, Function.update holds i .none j = some l ↔ j ≠ i ∧ holds j = some l := by
    intro j l
    simp [update_eq_some]
  constructor
  · intro l
    simp only [kept]
    by_cases same : l = k
    · subst same
      simp only [Function.update_self, Bool.false_eq_true, false_iff]
      intro ⟨j, other, has'⟩
      exact other (held.one j i l has' has)
    · rw [Function.update_of_ne same, held.taken l]
      constructor
      · intro ⟨j, has'⟩
        refine ⟨j, ?_, has'⟩
        rintro rfl
        exact same (Option.some.inj (has'.symm.trans has))
      · intro ⟨j, _, has'⟩
        exact ⟨j, has'⟩
  · intro a b l first second
    exact held.one a b l ((kept a l).mp first).2 ((kept b l).mp second).2

end

/-- All who hold one lock are gone. -/
theorem Held.clear [DecidableEq K] (held : Held locked holds) (k : K) :
    Held (Function.update locked k false) fun i => (holds i).filter fun l => l ≠ k := by
  have kept : ∀ j l, (holds j).filter (fun l => l ≠ k) = some l ↔ holds j = some l ∧ l ≠ k := by
    intro j l
    simp [Option.filter_eq_some_iff]
  constructor
  · intro l
    simp only [kept]
    by_cases same : l = k
    · simp [same]
    · simp [same, held.taken l]
  · intro a b l first second
    exact held.one a b l ((kept a l).mp first).1 ((kept b l).mp second).1

end HeldLocks
