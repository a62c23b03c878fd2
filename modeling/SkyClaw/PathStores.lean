import Mathlib.Data.List.Infix

set_option linter.all false

/-!
What stands at the paths of a file system, as a list of entries: an entry put at
a path, a whole folder removed, moved or copied. Only the first entry of a path
counts.
-/
namespace PathStores

variable {Name Entry : Type} [DecidableEq Name]

abbrev Store (Name Entry : Type) := List (List Name × Entry)

namespace Store

def find (s : Store Name Entry) (p : List Name) : Option Entry := s.lookup p

def put (p : List Name) (e : Entry) (s : Store Name Entry) : Store Name Entry := (p, e) :: s

/-- The paths from `p` down are gone. -/
def remove (p : List Name) (s : Store Name Entry) : Store Name Entry := s.filter fun x => ¬p <+: x.1

/-- What stood at `p` and below. -/
def below (p : List Name) (s : Store Name Entry) : Store Name Entry :=
  (s.filter fun x => p <+: x.1).map fun x => (x.1.drop p.length, x.2)

/-- These entries, with their paths below `p`. -/
def under (p : List Name) (s : Store Name Entry) : Store Name Entry := s.map fun x => (p ++ x.1, x.2)

/-- The folder at `p` holds these entries and no others. -/
def replace (p : List Name) (s piece : Store Name Entry) : Store Name Entry := under p piece ++ remove p s

/-- The folder at `p` is put over what stands at `q`. -/
def copy (p q : List Name) (s : Store Name Entry) : Store Name Entry := under q (below p s) ++ s

/-- The folder at `p` stands at `q`. -/
def move (p q : List Name) (s : Store Name Entry) : Store Name Entry :=
  under q (below p s) ++ remove p s

@[simp] theorem find_nil (p : List Name) : find ([] : Store Name Entry) p = none := rfl

theorem find_cons (x : List Name × Entry) (s : Store Name Entry) (p : List Name) :
    find (x :: s) p = if p = x.1 then some x.2 else find s p := by
  rw [find, List.lookup_cons]
  by_cases same : p = x.1
  · simp [same]
  · have differ : (p == x.1) = false := beq_false_of_ne same
    rw [differ, if_neg same]
    rfl

theorem find_put (p : List Name) (e : Entry) (s : Store Name Entry) (q : List Name) :
    (s.put p e).find q = if q = p then some e else s.find q := find_cons (p, e) s q

theorem find_append (s t : Store Name Entry) (p : List Name) :
    find (s ++ t) p = (find s p).or (find t p) := List.lookup_append

theorem find_remove (p : List Name) (s : Store Name Entry) (q : List Name) :
    (s.remove p).find q = if p <+: q then none else s.find q := by
  induction s with
  | nil => simp [remove]
  | cons x s ih =>
    rw [remove] at ih ⊢
    by_cases gone : p <+: x.1
    · rw [List.filter_cons_of_neg (by simpa using gone), ih, find_cons]
      by_cases same : q = x.1
      · rw [if_pos (same ▸ gone), if_pos (same ▸ gone)]
      · rw [if_neg same]
    · rw [List.filter_cons_of_pos (by simpa using gone), find_cons, find_cons, ih]
      by_cases same : q = x.1
      · rw [if_pos same, if_pos same, if_neg (same ▸ gone)]
      · rw [if_neg same, if_neg same]

theorem find_under (p : List Name) (s : Store Name Entry) (q : List Name) :
    (under p s).find (p ++ q) = s.find q := by
  induction s with
  | nil => rfl
  | cons x s ih =>
    rw [under, List.map_cons, find_cons, find_cons]
    rw [under] at ih
    simp only [List.append_cancel_left_eq]
    rw [ih]

theorem find_under_other {p q : List Name} (apart : ¬p <+: q) (s : Store Name Entry) :
    (under p s).find q = none := by
  induction s with
  | nil => rfl
  | cons x s ih =>
    rw [under, List.map_cons, find_cons, if_neg]
    · exact ih
    · intro same
      exact apart (same ▸ List.prefix_append p x.1)

theorem find_below (p : List Name) (s : Store Name Entry) (q : List Name) :
    (s.below p).find q = s.find (p ++ q) := by
  induction s with
  | nil => rfl
  | cons x s ih =>
    rw [below] at ih ⊢
    by_cases here : p <+: x.1
    · obtain ⟨rest, same⟩ := here
      rw [List.filter_cons_of_pos (by simp [← same]), List.map_cons, find_cons, find_cons, ih, ← same]
      simp
    · rw [List.filter_cons_of_neg (by simpa using here), ih, find_cons, if_neg]
      intro same
      exact here (same ▸ List.prefix_append p q)

theorem below_append (p q : List Name) (s : Store Name Entry) : (s.below p).below q = s.below (p ++ q) := by
  induction s with
  | nil => rfl
  | cons x s ih =>
    simp only [below] at ih ⊢
    by_cases here : p <+: x.1
    · obtain ⟨rest, same⟩ := here
      have first : p <+: x.1 := same ▸ List.prefix_append p rest
      rw [List.filter_cons_of_pos (by simpa using first), List.map_cons]
      by_cases both : q <+: rest
      · rw [List.filter_cons_of_pos (by simpa [← same] using both),
          List.filter_cons_of_pos (by simpa [← same, List.prefix_append_right_inj] using both),
          List.map_cons, List.map_cons, ih, ← same]
        simp
      · rw [List.filter_cons_of_neg (by simpa [← same] using both),
          List.filter_cons_of_neg (by simpa [← same, List.prefix_append_right_inj] using both), ih]
    · have neither : ¬p ++ q <+: x.1 := fun below => here ((List.prefix_append p q).trans below)
      rw [List.filter_cons_of_neg (by simpa using here), List.filter_cons_of_neg (by simpa using neither), ih]

theorem below_replace (p : List Name) (s piece : Store Name Entry) : (s.replace p piece).below p = piece := by
  have gone : (s.remove p).below p = [] := by
    rw [below, remove, List.filter_filter]
    have none_ : (s.filter fun x => decide (p <+: x.1) && decide ¬p <+: x.1) = [] := by
      rw [List.filter_eq_nil_iff]
      simp
    rw [none_, List.map_nil]
  have kept : below p (under p piece) = piece := by
    induction piece with
    | nil => rfl
    | cons x piece ih =>
      rw [below, under] at ih ⊢
      rw [List.map_cons, List.filter_cons_of_pos (by simp), List.map_cons, ih]
      simp
  rw [below] at gone kept
  rw [replace, below, List.filter_append, List.map_append, gone, kept, List.append_nil]

/-- A folder that is not the one replaced, nor above or below it. -/
theorem below_replace_apart {p q : List Name} (apart : ∀ r, p <+: r → ¬q <+: r) (s piece : Store Name Entry) :
    (s.replace p piece).below q = s.below q := by
  have none_ : (under p piece).filter (fun x => q <+: x.1) = [] := by
    rw [List.filter_eq_nil_iff]
    intro x mem
    obtain ⟨y, _, rfl⟩ := List.mem_map.mp mem
    simpa using apart _ (List.prefix_append p y.1)
  have kept : ∀ x ∈ s, (decide (q <+: x.1) && decide ¬p <+: x.1) = decide (q <+: x.1) := by
    intro x _
    by_cases here : q <+: x.1
    · have other : ¬p <+: x.1 := fun both => apart x.1 both here
      simp [here, other]
    · simp [here]
  rw [replace, below, List.filter_append, none_, List.nil_append, remove, List.filter_filter,
    List.filter_congr kept, below]

theorem find_replace (p : List Name) (s piece : Store Name Entry) (q : List Name) :
    (s.replace p piece).find (p ++ q) = piece.find q := by
  rw [replace, find_append, find_under, find_remove, if_pos (List.prefix_append p q), Option.or_none]

theorem find_replace_other {p q : List Name} (apart : ¬p <+: q) (s piece : Store Name Entry) :
    (s.replace p piece).find q = s.find q := by
  rw [replace, find_append, find_under_other apart, find_remove, if_neg apart, Option.none_or]

theorem find_copy (p q : List Name) (s : Store Name Entry) (r : List Name) :
    (s.copy p q).find (q ++ r) = (s.find (p ++ r)).or (s.find (q ++ r)) := by
  rw [copy, find_append, find_under, find_below]

theorem find_copy_other {q r : List Name} (apart : ¬q <+: r) (p : List Name) (s : Store Name Entry) :
    (s.copy p q).find r = s.find r := by
  rw [copy, find_append, find_under_other apart, Option.none_or]

/-- A folder moved to a place that was free. -/
theorem find_move {p q : List Name} {s : Store Name Entry} (free : ∀ r, s.find (q ++ r) = none)
    (r : List Name) : (s.move p q).find (q ++ r) = s.find (p ++ r) := by
  rw [move, find_append, find_under, find_below, find_remove, free]
  simp

theorem find_move_other {p q r : List Name} (apart : ¬q <+: r) (s : Store Name Entry) :
    (s.move p q).find r = if p <+: r then none else s.find r := by
  rw [move, find_append, find_under_other apart, find_remove, Option.none_or]

end Store

end PathStores
