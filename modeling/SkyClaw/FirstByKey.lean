import Mathlib.Data.List.Nodup

set_option linter.all false

/-!
The first item of each key in a list, but for the keys that were seen before.
-/
namespace FirstByKey

variable {α κ : Type} [DecidableEq κ] (key : α → κ)

def firsts : List κ → List α → List α
  | _, [] => []
  | seen, x :: xs => if key x ∈ seen then firsts seen xs else x :: firsts (key x :: seen) xs

variable {key}

/-- Only which of its keys were seen counts. -/
theorem firsts_congr {s t : List κ} {xs : List α} (same : ∀ x ∈ xs, key x ∈ s ↔ key x ∈ t) :
    firsts key s xs = firsts key t xs := by
  induction xs generalizing s t with
  | nil => rfl
  | cons x xs ih =>
    obtain ⟨first, rest⟩ := List.forall_mem_cons.mp same
    have next : ∀ y ∈ xs, key y ∈ key x :: s ↔ key y ∈ key x :: t := by
      intro y mem
      rw [List.mem_cons, List.mem_cons, rest y mem]
    simp only [firsts, first, ih rest, ih next]

theorem mem_keys_firsts {seen : List κ} {xs : List α} {k : κ} :
    k ∈ (firsts key seen xs).map key ↔ k ∈ xs.map key ∧ k ∉ seen := by
  induction xs generalizing seen with
  | nil => simp [firsts]
  | cons x xs ih =>
    rw [firsts, List.map_cons, List.mem_cons]
    by_cases old : key x ∈ seen
    · rw [if_pos old, ih]
      constructor
      · intro both
        exact ⟨.inr both.1, both.2⟩
      · intro both
        refine ⟨both.1.resolve_left fun same => both.2 (same ▸ old), both.2⟩
    · rw [if_neg old, List.map_cons, List.mem_cons, ih, List.mem_cons, not_or]
      by_cases same : k = key x
      · simp [same, old]
      · simp [same]

theorem nodup_keys_firsts (seen : List κ) (xs : List α) : ((firsts key seen xs).map key).Nodup := by
  induction xs generalizing seen with
  | nil => exact List.nodup_nil
  | cons x xs ih =>
    rw [firsts]
    split
    · exact ih seen
    · rw [List.map_cons, List.nodup_cons]
      refine ⟨fun mem => ?_, ih _⟩
      exact (mem_keys_firsts.mp mem).2 List.mem_cons_self

theorem firsts_append (seen : List κ) (xs ys : List α) :
    firsts key seen (xs ++ ys) = firsts key seen xs ++ firsts key (seen ++ xs.map key) ys := by
  induction xs generalizing seen with
  | nil => simp [firsts]
  | cons x xs ih =>
    rw [List.cons_append, firsts, firsts]
    split
    · next old =>
      rw [ih]
      congr 1
      refine firsts_congr fun y _ => ?_
      simp only [List.mem_append, List.map_cons, List.mem_cons]
      constructor
      · intro either
        exact either.imp_right .inr
      · intro either
        cases either with
        | inl mem => exact .inl mem
        | inr mem =>
          cases mem with
          | inl same => exact .inl (same ▸ old)
          | inr later => exact .inr later
    · rw [ih, List.cons_append]
      congr 2
      refine firsts_congr fun y _ => ?_
      simp only [List.mem_append, List.map_cons, List.mem_cons]
      rw [or_left_comm]

/-- What has different keys, none of them seen, is kept whole. -/
theorem firsts_nodup {seen : List κ} {xs : List α} (nodup : (xs.map key).Nodup) (fresh : ∀ x ∈ xs, key x ∉ seen) :
    firsts key seen xs = xs := by
  induction xs generalizing seen with
  | nil => rfl
  | cons x xs ih =>
    obtain ⟨first, rest⟩ := List.nodup_cons.mp nodup
    have later : ∀ y ∈ xs, key y ∉ key x :: seen := by
      intro y mem inside
      cases List.mem_cons.mp inside with
      | inl same => exact first (same ▸ List.mem_map_of_mem mem)
      | inr old => exact fresh y (List.mem_cons_of_mem _ mem) old
    rw [firsts, if_neg (fresh x List.mem_cons_self), ih rest later]

end FirstByKey
