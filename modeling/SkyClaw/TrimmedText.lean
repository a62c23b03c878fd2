import Mathlib.Data.List.DropRight

set_option linter.all false

/-!
Trimming of a list at both ends, for any notion of what is blank. `Trimmed`
lists are those that trimming leaves alone. `isspace` is the notion of Python.
-/
namespace TrimmedText

variable {α : Type} (blank : α → Bool)

def strip (l : List α) : List α := (l.dropWhile blank).rdropWhile blank

def Trimmed (l : List α) : Prop := strip blank l = l

instance [DecidableEq α] (l : List α) : Decidable (Trimmed blank l) :=
  inferInstanceAs (Decidable (strip blank l = l))

variable {blank}

theorem dropWhile_of_head {l : List α} (head : ∀ a ∈ l.head?, blank a = false) :
    l.dropWhile blank = l := by
  cases l with
  | nil => rfl
  | cons a l =>
    have solid := head a rfl
    simp [solid]

theorem head_dropWhile {l : List α} {a : α} (head : a ∈ (l.dropWhile blank).head?) :
    blank a = false := by
  induction l with
  | nil => simp at head
  | cons b l ih =>
    by_cases hb : blank b = true
    · rw [List.dropWhile_cons_of_pos hb] at head
      exact ih head
    · rw [List.dropWhile_cons_of_neg hb] at head
      obtain rfl : b = a := by simpa using head
      simpa using hb

theorem head_rdropWhile {l : List α} {a : α} (head : a ∈ (l.rdropWhile blank).head?) :
    a ∈ l.head? := by
  obtain ⟨tail, same⟩ := List.rdropWhile_prefix blank l
  cases kept : l.rdropWhile blank with
  | nil => simp [kept] at head
  | cons b rest =>
    rw [kept] at head same
    rw [← same]
    simpa using head

theorem head_strip {l : List α} {a : α} (head : a ∈ (strip blank l).head?) :
    blank a = false := head_dropWhile (head_rdropWhile head)

theorem mem_of_mem_strip {l : List α} {a : α} (mem : a ∈ strip blank l) : a ∈ l := by
  apply (List.dropWhile_suffix blank).subset
  exact (List.rdropWhile_prefix blank _).subset mem

@[simp] theorem strip_nil : strip blank ([] : List α) = [] := by simp [strip]

@[simp] theorem strip_strip (l : List α) : strip blank (strip blank l) = strip blank l := by
  have front : (strip blank l).dropWhile blank = strip blank l :=
    dropWhile_of_head fun _ => head_strip
  rw [strip, front]
  exact List.rdropWhile_idempotent blank _

theorem trimmed_strip (l : List α) : Trimmed blank (strip blank l) := strip_strip l

theorem rdropWhile_append_blank {l w : List α} (all : ∀ a ∈ w, blank a = true) :
    (l ++ w).rdropWhile blank = l.rdropWhile blank := by
  induction w using List.reverseRecOn with
  | nil => simp
  | append_singleton w a ih =>
    rw [← List.append_assoc, List.rdropWhile_concat_pos _ _ _ (all a (by simp))]
    exact ih fun b hb => all b (by simp [hb])

theorem dropWhile_blank_append {l w : List α} (all : ∀ a ∈ w, blank a = true) :
    (w ++ l).dropWhile blank = l.dropWhile blank := by
  induction w with
  | nil => rfl
  | cons a w ih =>
    rw [List.cons_append, List.dropWhile_cons_of_pos (all a (by simp))]
    exact ih fun b hb => all b (by simp [hb])

/-- Blanks at the end do not matter. -/
theorem strip_append_blank {l w : List α} (all : ∀ a ∈ w, blank a = true) :
    strip blank (l ++ w) = strip blank l := by
  unfold strip
  by_cases empty : l.dropWhile blank = []
  · have gone : (l ++ w).dropWhile blank = [] := by
      rw [List.dropWhile_eq_nil_iff] at empty ⊢
      intro a ha
      rcases List.mem_append.mp ha with h | h
      · exact empty a h
      · exact all a h
    rw [gone, empty]
  · have split : (l ++ w).dropWhile blank = l.dropWhile blank ++ w := by
      rw [List.dropWhile_append, if_neg (by simpa using empty)]
    rw [split, rdropWhile_append_blank all]

/-- Nor do blanks at the start. -/
theorem strip_blank_append {l w : List α} (all : ∀ a ∈ w, blank a = true) :
    strip blank (w ++ l) = strip blank l := by
  rw [strip, dropWhile_blank_append all, strip]

theorem strip_rdropWhile (l : List α) : strip blank (l.rdropWhile blank) = strip blank l := by
  have all : ∀ a ∈ l.rtakeWhile blank, blank a = true := fun _ mem => List.mem_rtakeWhile_imp mem
  rw [← strip_append_blank all, List.rdropWhile_append_rtakeWhile]

theorem rdropWhile_cons_of_solid {a : α} {l : List α} (solid : blank a = false) :
    (a :: l).rdropWhile blank = a :: l.rdropWhile blank := by
  induction l using List.reverseRecOn with
  | nil => simp [List.rdropWhile_singleton, solid]
  | append_singleton l b ih =>
    rw [← List.cons_append, List.rdropWhile_concat, List.rdropWhile_concat]
    split
    · exact ih
    · simp

theorem strip_cons_of_solid {a : α} {l : List α} (solid : blank a = false) :
    strip blank (a :: l) = a :: l.rdropWhile blank := by
  rw [strip, List.dropWhile_cons_of_neg (by simp [solid]), rdropWhile_cons_of_solid solid]

theorem rdropWhile_solid_append {k : List α} (solid : ∀ a ∈ k, blank a = false) (l : List α) :
    (k ++ l).rdropWhile blank = k ++ l.rdropWhile blank := by
  induction k with
  | nil => rfl
  | cons a k ih =>
    obtain ⟨first, rest⟩ := List.forall_mem_cons.mp solid
    rw [List.cons_append, rdropWhile_cons_of_solid first, ih rest, List.cons_append]

theorem rdropWhile_append_cons_of_solid {a : α} (solid : blank a = false) (k l : List α) :
    (k ++ a :: l).rdropWhile blank = k ++ a :: l.rdropWhile blank := by
  induction l using List.reverseRecOn with
  | nil => rw [List.rdropWhile_concat_neg _ _ _ (by simp [solid]), List.rdropWhile_nil]
  | append_singleton l b ih =>
    rw [← List.cons_append, ← List.append_assoc, List.rdropWhile_concat, List.rdropWhile_concat]
    split
    · exact ih
    · rw [List.append_assoc, List.cons_append]

/-- What stays of the start of a list is a start of what stays of the list. -/
theorem strip_prefix {l m : List α} (start : l <+: m) : strip blank l <+: strip blank m := by
  obtain ⟨x, rfl⟩ := start
  unfold strip
  by_cases empty : l.dropWhile blank = []
  · rw [empty, List.rdropWhile_nil]
    exact List.nil_prefix
  · rw [List.dropWhile_append, if_neg (by simpa using empty)]
    have kept := List.rdropWhile_append_rtakeWhile (p := blank) (l := l.dropWhile blank)
    cases last : (l.dropWhile blank).rdropWhile blank using List.reverseRecOn with
    | nil => exact List.nil_prefix
    | append_singleton k a =>
      have solid : blank a = false := by
        have end_ := List.rdropWhile_last_not blank (l.dropWhile blank) (by simp [last])
        simpa [last] using end_
      rw [last] at kept
      rw [← kept, List.append_assoc, List.append_assoc, List.singleton_append,
        rdropWhile_append_cons_of_solid solid]
      exact ⟨_, by rw [List.append_assoc, List.singleton_append]⟩

theorem strip_solid_append {k : List α} (solid : ∀ a ∈ k, blank a = false) (nonempty : k ≠ [])
    (l : List α) : strip blank (k ++ l) = k ++ l.rdropWhile blank := by
  have front : (k ++ l).dropWhile blank = k ++ l := by
    apply dropWhile_of_head
    obtain ⟨a, rest, rfl⟩ := List.exists_cons_of_ne_nil nonempty
    simpa using solid a List.mem_cons_self
  rw [strip, front, rdropWhile_solid_append solid]

theorem trimmed_between {a b : α} {l : List α} (first : blank a = false) (last : blank b = false) :
    Trimmed blank (a :: (l ++ [b])) := by
  rw [Trimmed, strip_cons_of_solid first, List.rdropWhile_concat_neg _ _ _ (by simp [last])]

theorem Trimmed.rdropWhile {l : List α} (trimmed : Trimmed blank l) :
    l.rdropWhile blank = l := by
  have twice := List.rdropWhile_idempotent blank (l.dropWhile blank)
  unfold Trimmed strip at trimmed
  rwa [trimmed] at twice

theorem strip_eq_nil_iff {l : List α} : strip blank l = [] ↔ ∀ a ∈ l, blank a = true := by
  constructor
  · intro empty
    have front : l.dropWhile blank = [] := by
      by_contra nonempty
      obtain ⟨a, rest, same⟩ := List.exists_cons_of_ne_nil nonempty
      have solid : blank a = false := head_dropWhile (l := l) (by simp [same])
      rw [strip, same, rdropWhile_cons_of_solid solid] at empty
      exact absurd empty (List.cons_ne_nil _ _)
    simpa using front
  · intro all
    have front : l.dropWhile blank = [] := by simpa using all
    rw [strip, front, List.rdropWhile_nil]

/-- The blanks of Python's `str.strip`. -/
def isspace (c : Char) : Bool :=
  (9 ≤ c.toNat && c.toNat ≤ 13) || (28 ≤ c.toNat && c.toNat ≤ 32) || c.toNat = 0x85 ||
    c.toNat = 0xA0 || c.toNat = 0x1680 || (0x2000 ≤ c.toNat && c.toNat ≤ 0x200A) ||
    c.toNat = 0x2028 || c.toNat = 0x2029 || c.toNat = 0x202F || c.toNat = 0x205F ||
    c.toNat = 0x3000

end TrimmedText
