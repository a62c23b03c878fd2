import Mathlib.Data.List.Infix

set_option linter.all false

/-!
Removing literals from a text until none is left. A match is a run that folds to what the
literal folds to; a pass removes the matches from left to right, each where the last one
ended.
-/
namespace LiteralRemoval

variable {α : Type} [DecidableEq α] (fold : α → α) (hs : List (List α))

/-- The first literal that the text starts with. -/
def found (t : List α) : Option (List α) :=
  hs.find? fun h => decide ((t.take h.length).map fold = h.map fold)

/-- `skip` characters belong to the last match. -/
def removeFrom : Nat → List α → List α
  | _, [] => []
  | skip + 1, _ :: t => removeFrom skip t
  | 0, c :: t =>
    match found fold hs (c :: t) with
    | some h => removeFrom (h.length - 1) t
    | none => c :: removeFrom 0 t

def remove (t : List α) : List α := removeFrom fold hs 0 t

/-- At most so many passes, the last one when there is nothing to remove. -/
def passes : Nat → List α → List α
  | 0, t => t
  | n + 1, t => if remove fold hs t = t then t else passes n (remove fold hs t)

/-- No match anywhere. -/
def Clean (t : List α) : Prop := ∀ s, s <:+ t → found fold hs s = none

/-- The literals are no empty texts. -/
def Solid : Prop := ∀ h ∈ hs, h ≠ []

variable {fold hs}

theorem found_some {t h : List α} (match_ : found fold hs t = some h) :
    h ∈ hs ∧ (t.take h.length).map fold = h.map fold := by
  refine ⟨List.mem_of_find?_eq_some match_, ?_⟩
  simpa using List.find?_some match_

theorem found_none {t h : List α} (missed : found fold hs t = none) (mem : h ∈ hs) :
    (t.take h.length).map fold ≠ h.map fold := by
  have all := List.find?_eq_none.mp missed h mem
  simpa using all

theorem found_length {t h : List α} (match_ : found fold hs t = some h) : h.length ≤ t.length := by
  have same := congrArg List.length (found_some match_).2
  rw [List.length_map, List.length_map, List.length_take] at same
  omega

/-- A match is still there when the text goes on. -/
theorem found_append {s t h : List α} (match_ : found fold hs s = some h) : found fold hs (s ++ t) ≠ none := by
  intro missed
  obtain ⟨mem, same⟩ := found_some match_
  apply found_none missed mem
  rw [List.take_append_of_le_length (found_length match_)]
  exact same

theorem Clean.cons_iff {c : α} {t : List α} :
    Clean fold hs (c :: t) ↔ found fold hs (c :: t) = none ∧ Clean fold hs t := by
  constructor
  · intro clean
    exact ⟨clean _ List.suffix_rfl, fun s tail => clean s (tail.trans (List.suffix_cons c t))⟩
  · intro both s tail
    cases List.suffix_cons_iff.mp tail with
    | inl whole => exact whole ▸ both.1
    | inr later => exact both.2 s later

theorem Clean.prefix {s t : List α} (clean : Clean fold hs (s ++ t)) : Clean fold hs s := by
  intro r tail
  cases match_ : found fold hs r with
  | none => rfl
  | some h =>
    exfalso
    exact found_append match_ (clean _ (List.suffix_append_self_iff.mpr tail))

theorem clean_nil (solid : Solid hs) : Clean fold hs [] := by
  intro s tail
  rw [List.suffix_nil.mp tail, found, List.find?_eq_none]
  intro h mem
  simpa using solid h mem

/-- A text goes on with a character that no literal has: no match reaches over it. -/
theorem Clean.append {s u : List α} {x : α} (left : Clean fold hs s) (right : Clean fold hs (x :: u))
    (strange : ∀ h ∈ hs, fold x ∉ h.map fold) : Clean fold hs (s ++ x :: u) := by
  induction s with
  | nil => exact right
  | cons c s ih =>
    rw [Clean.cons_iff] at left
    refine Clean.cons_iff.mpr ⟨?_, ih left.2⟩
    cases match_ : found fold hs (c :: (s ++ x :: u)) with
    | none => rfl
    | some h =>
      exfalso
      obtain ⟨mem, same⟩ := found_some match_
      rw [← List.cons_append] at same
      by_cases short : h.length ≤ (c :: s).length
      · rw [List.take_append_of_le_length short] at same
        exact found_none left.1 mem same
      · apply strange h mem
        rw [← same, List.take_append, List.map_append, List.mem_append]
        right
        obtain ⟨n, longer⟩ : ∃ n, h.length - (c :: s).length = n + 1 :=
          ⟨h.length - (c :: s).length - 1, by omega⟩
        rw [longer, List.take_succ_cons, List.map_cons]
        exact List.mem_cons_self

/-! One pass -/

theorem removeFrom_eq (skip : Nat) (t : List α) : removeFrom fold hs skip t = remove fold hs (t.drop skip) := by
  induction t generalizing skip with
  | nil => simp [removeFrom, remove]
  | cons c t ih =>
    cases skip with
    | zero => rfl
    | succ skip => exact ih skip

theorem remove_none {c : α} {t : List α} (missed : found fold hs (c :: t) = none) :
    remove fold hs (c :: t) = c :: remove fold hs t := by
  rw [remove, removeFrom, missed]
  rfl

theorem remove_some (solid : Solid hs) {c : α} {t h : List α} (match_ : found fold hs (c :: t) = some h) :
    remove fold hs (c :: t) = remove fold hs ((c :: t).drop h.length) := by
  have some_ := List.length_pos_iff.mpr (solid h (found_some match_).1)
  obtain ⟨n, long⟩ : ∃ n, h.length = n + 1 := ⟨h.length - 1, by omega⟩
  rw [remove, removeFrom, match_]
  dsimp only
  rw [removeFrom_eq, long]
  rfl

theorem removeFrom_sublist (skip : Nat) (t : List α) : (removeFrom fold hs skip t).Sublist t := by
  induction t generalizing skip with
  | nil =>
    rw [removeFrom]
  | cons c t ih =>
    cases skip with
    | succ skip => exact (ih skip).cons c
    | zero =>
      unfold removeFrom
      split
      · exact (ih _).cons c
      · exact (ih 0).cons_cons c

theorem remove_sublist (t : List α) : (remove fold hs t).Sublist t := removeFrom_sublist 0 t

theorem Clean.remove {t : List α} (clean : Clean fold hs t) : remove fold hs t = t := by
  induction t with
  | nil => rfl
  | cons c t ih =>
    rw [Clean.cons_iff] at clean
    rw [remove_none clean.1, ih clean.2]

variable (fold hs) in
/-- Every match has a character of these. -/
def Marked (p : α → Bool) : Prop := ∀ h ∈ hs, ∀ w : List α, w.map fold = h.map fold → ∃ c ∈ w, p c = true

/-- A pass that finds something removes one of the characters that every match has. -/
theorem countP_remove_lt (solid : Solid hs) {p : α → Bool} (marked : Marked fold hs p) {t : List α}
    (dirty : ¬ Clean fold hs t) : (remove fold hs t).countP p < t.countP p := by
  induction t with
  | nil => exact absurd (clean_nil solid) dirty
  | cons c t ih =>
    cases match_ : found fold hs (c :: t) with
    | none =>
      have later := ih fun clean => dirty (Clean.cons_iff.mpr ⟨match_, clean⟩)
      rw [remove_none match_, List.countP_cons, List.countP_cons]
      omega
    | some h =>
      obtain ⟨mem, same⟩ := found_some match_
      obtain ⟨x, inside, is⟩ := marked h mem _ same
      have first : 0 < ((c :: t).take h.length).countP p := List.countP_pos_iff.mpr ⟨x, inside, is⟩
      have rest : (remove fold hs ((c :: t).drop h.length)).countP p ≤ ((c :: t).drop h.length).countP p :=
        (remove_sublist _).countP_le
      have all : (c :: t).countP p = ((c :: t).take h.length).countP p + ((c :: t).drop h.length).countP p := by
        rw [← List.countP_append, List.take_append_drop]
      rw [remove_some solid match_]
      omega

theorem remove_eq_iff (solid : Solid hs) (t : List α) : remove fold hs t = t ↔ Clean fold hs t := by
  constructor
  · intro same
    by_contra dirty
    have any : Marked fold hs fun _ => true := by
      intro h mem w equal
      cases w with
      | nil => exact absurd (List.map_eq_nil_iff.mp equal.symm) (solid h mem)
      | cons c w => exact ⟨c, List.mem_cons_self, rfl⟩
    have fewer := countP_remove_lt solid any dirty
    rw [same] at fewer
    omega
  · exact Clean.remove

/-! The passes -/

theorem passes_sublist (n : Nat) (t : List α) : (passes fold hs n t).Sublist t := by
  induction n generalizing t with
  | zero => exact List.Sublist.refl t
  | succ n ih =>
    unfold passes
    split
    · exact List.Sublist.refl t
    · exact (ih _).trans (remove_sublist t)

theorem Clean.passes {t : List α} (clean : Clean fold hs t) (n : Nat) : passes fold hs n t = t := by
  cases n with
  | zero => rfl
  | succ n => rw [LiteralRemoval.passes, if_pos clean.remove]

/-- As many passes are enough as the text has characters that every match needs. -/
theorem passes_clean (solid : Solid hs) {p : α → Bool} (marked : Marked fold hs p) {n : Nat} {t : List α}
    (few : t.countP p ≤ n) : Clean fold hs (passes fold hs n t) := by
  induction n generalizing t with
  | zero =>
    by_contra dirty
    have fewer := countP_remove_lt solid marked dirty
    rw [passes] at fewer
    omega
  | succ n ih =>
    unfold passes
    split
    · next same => exact (remove_eq_iff solid t).mp same
    · next changed =>
      apply ih
      have fewer := countP_remove_lt solid marked fun clean => changed clean.remove
      omega

end LiteralRemoval
