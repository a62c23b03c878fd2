import Mathlib.Data.List.Basic

set_option linter.all false

/-!
Tasks and connections kept in a list, each named by its position. A new one goes
at the end, and a change is made in place, so that a position stays with its
owner.
-/
namespace TaskTables

variable {α : Type} {l : List α} {f : α → α} {i j : Nat} {x y : α}

theorem getElem?_new (l : List α) (y : α) : (l ++ [y])[l.length]? = some y := by simp

theorem getElem?_old (at_ : l[i]? = some x) : (l ++ [y])[i]? = some x := by
  rw [List.getElem?_append_left (List.getElem?_eq_some_iff.mp at_).1, at_]

theorem getElem?_concat (at_ : (l ++ [y])[i]? = some x) : l[i]? = some x ∨ i = l.length ∧ x = y := by
  by_cases short : i < l.length
  · rw [List.getElem?_append_left short] at at_
    exact .inl at_
  · rw [List.getElem?_append_right (Nat.le_of_not_lt short)] at at_
    cases gap : i - l.length with
    | zero => exact .inr ⟨by omega, by simpa [gap] using at_.symm⟩
    | succ g => simp [gap] at at_

theorem getElem?_modify_cases (at_ : (l.modify i f)[j]? = some x) :
    j ≠ i ∧ l[j]? = some x ∨ j = i ∧ ∃ y, l[i]? = some y ∧ x = f y := by
  by_cases same : i = j
  · subst same
    rw [List.getElem?_modify_eq] at at_
    cases had : l[i]? with
    | none => simp [had] at at_
    | some y => exact .inr ⟨rfl, y, rfl, by simpa [had] using at_.symm⟩
  · rw [List.getElem?_modify_ne _ _ same] at at_
    exact .inl ⟨Ne.symm same, at_⟩

/-- What a change in place keeps of each entry. -/
theorem getElem?_modified (at_ : l[j]? = some x) : ∃ y, (l.modify i f)[j]? = some y ∧ (y = x ∨ y = f x) := by
  by_cases same : i = j
  · subst same
    exact ⟨f x, by rw [List.getElem?_modify_eq, at_]; rfl, .inr rfl⟩
  · exact ⟨x, by rw [List.getElem?_modify_ne _ _ same, at_], .inl rfl⟩

theorem mem_modify (mem : x ∈ l.modify i f) : x ∈ l ∨ ∃ y, l[i]? = some y ∧ x = f y := by
  obtain ⟨j, at_⟩ := List.mem_iff_getElem?.mp mem
  rcases getElem?_modify_cases at_ with ⟨_, old⟩ | ⟨_, changed⟩
  · exact .inl (List.mem_iff_getElem?.mpr ⟨j, old⟩)
  · exact .inr changed

end TaskTables
