import Mathlib.Data.List.Lex
import Mathlib.Data.List.Sort

set_option linter.all false

/-!
Binary search in a sorted list, and the texts with a given prefix, which stand
together in lexicographic order. A text is also the list of its parts between
separators, and what has a text and a separator as a prefix is what lies under
it part by part.
-/
namespace PrefixSearch

/-! Binary search -/

section
variable {α : Type} [LinearOrder α]

/-- The loop of `bisect_left`, in at most `fuel` rounds. -/
def bisectFrom (xs : List α) (x : α) : Nat → Nat → Nat → Nat
  | 0, lo, _ => lo
  | fuel + 1, lo, hi =>
    if lo < hi then
      match xs[(lo + hi) / 2]? with
      | some y => if y < x then bisectFrom xs x fuel ((lo + hi) / 2 + 1) hi
          else bisectFrom xs x fuel lo ((lo + hi) / 2)
      | none => lo
    else lo

def bisectLeft (xs : List α) (x : α) : Nat := bisectFrom xs x xs.length 0 xs.length

/-- The place in a sorted list before which all are less, and from which none is. -/
structure Cut (xs : List α) (x : α) (r : Nat) : Prop where
  below : ∀ i y, xs[i]? = some y → i < r → y < x
  above : ∀ i y, xs[i]? = some y → r ≤ i → ¬ y < x

theorem bisectFrom_cut {xs : List α} (sorted : xs.Pairwise (¬ · > ·)) (x : α) (fuel lo hi : Nat)
    (enough : hi ≤ lo + fuel) (inside : hi ≤ xs.length) (order : lo ≤ hi)
    (below : ∀ i y, xs[i]? = some y → i < lo → y < x)
    (above : ∀ i y, xs[i]? = some y → hi ≤ i → ¬ y < x) : Cut xs x (bisectFrom xs x fuel lo hi) := by
  induction fuel generalizing lo hi with
  | zero =>
    have met : lo = hi := by omega
    subst met
    exact ⟨below, above⟩
  | succ fuel ih =>
    unfold bisectFrom
    by_cases more : lo < hi
    · have there : (lo + hi) / 2 < xs.length := by omega
      rw [if_pos more, List.getElem?_eq_getElem there]
      dsimp only
      by_cases less : xs[(lo + hi) / 2] < x
      · rw [if_pos less]
        apply ih _ _ (by omega) inside (by omega) _ above
        intro i y here before
        obtain ⟨bound, rfl⟩ := List.getElem?_eq_some_iff.mp here
        by_cases same : i = (lo + hi) / 2
        · subst same
          exact less
        · have ordered := List.pairwise_iff_getElem.mp sorted i ((lo + hi) / 2) bound there (by omega)
          exact lt_of_le_of_lt (not_lt.mp ordered) less
      · rw [if_neg less]
        apply ih _ _ (by omega) (by omega) (by omega) below
        intro i y here after
        obtain ⟨bound, rfl⟩ := List.getElem?_eq_some_iff.mp here
        by_cases same : i = (lo + hi) / 2
        · subst same
          exact less
        · have ordered := List.pairwise_iff_getElem.mp sorted ((lo + hi) / 2) i there bound (by omega)
          intro early
          exact less (lt_of_le_of_lt (not_lt.mp ordered) early)
    · rw [if_neg more]
      have met : lo = hi := by omega
      subst met
      exact ⟨below, above⟩

theorem bisectLeft_cut {xs : List α} (sorted : xs.Pairwise (¬ · > ·)) (x : α) :
    Cut xs x (bisectLeft xs x) := by
  apply bisectFrom_cut sorted x _ _ _ (by omega) (Nat.le_refl _) (Nat.zero_le _)
  · intro i y _ before
    omega
  · intro i y here after
    have bound := (List.getElem?_eq_some_iff.mp here).1
    omega

end

/-! Prefixes -/

section
variable {α : Type} [LinearOrder α]

theorem not_append_lt (p t : List α) : ¬ p ++ t < p := by
  induction p with
  | nil => exact List.not_lt_nil t
  | cons a p ih =>
    rw [List.cons_append, List.cons_lt_cons_iff]
    rintro (less | ⟨_, rest⟩)
    · exact lt_irrefl a less
    · exact ih rest

/-- What lies between a text and one that it starts is started by it. -/
theorem prefix_between {p z t : List α} (low : ¬ z < p) (high : ¬ p ++ t < z) : p <+: z := by
  induction p generalizing z with
  | nil => exact List.nil_prefix
  | cons a p ih =>
    cases z with
    | nil => exact absurd (List.nil_lt_cons a p) low
    | cons b z =>
      rw [List.cons_append, List.cons_lt_cons_iff, not_or] at high
      rw [List.cons_lt_cons_iff, not_or] at low
      have same : a = b := le_antisymm (not_lt.mp low.1) (not_lt.mp high.1)
      subst same
      rw [List.cons_prefix_cons]
      refine ⟨rfl, ih ?_ ?_⟩
      · intro less
        exact low.2 ⟨rfl, less⟩
      · intro less
        exact high.2 ⟨rfl, less⟩

/-- The entry where the search for a prefix ends, if the prefix starts it. -/
def conPrefijo (xs : List (List α)) (p : List α) : Option (List α) :=
  (xs[bisectLeft xs p]?).filter (p.isPrefixOf ·)

theorem conPrefijo_some {xs : List (List α)} {p z : List α} (found : conPrefijo xs p = some z) :
    z ∈ xs ∧ p <+: z := by
  rw [conPrefijo, Option.filter_eq_some_iff] at found
  exact ⟨List.mem_of_getElem? found.1, List.isPrefixOf_iff_prefix.mp found.2⟩

/-- One entry is enough to look at. -/
theorem conPrefijo_none {xs : List (List α)} (sorted : xs.Pairwise (¬ · > ·)) {p : List α}
    (missing : conPrefijo xs p = none) : ∀ z ∈ xs, ¬ p <+: z := by
  intro z mem starts
  obtain ⟨t, rfl⟩ := starts
  obtain ⟨i, there⟩ := List.mem_iff_getElem?.mp mem
  have cut := bisectLeft_cut sorted p
  have late : bisectLeft xs p ≤ i := by
    by_contra early
    exact not_append_lt p t (cut.below i _ there (by omega))
  have inside := (List.getElem?_eq_some_iff.mp there).1
  have first : xs[bisectLeft xs p]? = some xs[bisectLeft xs p] :=
    List.getElem?_eq_getElem (by omega)
  have starts : p <+: xs[bisectLeft xs p] := by
    apply prefix_between (cut.above _ _ first (Nat.le_refl _)) (t := t)
    by_cases same : bisectLeft xs p = i
    · subst same
      rw [first] at there
      rw [Option.some.inj there]
      exact lt_irrefl _
    · have ordered := List.pairwise_iff_getElem.mp sorted (bisectLeft xs p) i (by omega) inside
        (by omega)
      rw [List.getElem?_eq_getElem inside] at there
      rw [Option.some.inj there] at ordered
      exact ordered
  rw [conPrefijo, first, Option.filter_some, if_pos (List.isPrefixOf_iff_prefix.mpr starts)] at missing
  cases missing

end

/-! Parts -/

section
variable {α : Type}

theorem intercalate_append (sep : α) {xs ys : List (List α)} (first : xs ≠ []) (second : ys ≠ []) :
    [sep].intercalate (xs ++ ys) = [sep].intercalate xs ++ sep :: [sep].intercalate ys := by
  induction xs with
  | nil => exact absurd rfl first
  | cons x xs ih =>
    cases xs with
    | nil =>
      rw [List.singleton_append, List.intercalate_cons_of_ne_nil second, List.intercalate_singleton]
      simp only [List.append_assoc, List.singleton_append]
    | cons y xs =>
      have later := ih (List.cons_ne_nil y xs)
      rw [List.cons_append] at later
      rw [List.cons_append, List.cons_append, List.intercalate_cons_cons, later,
        List.intercalate_cons_cons]
      simp only [List.append_assoc]

variable [DecidableEq α]

/-- The first text names a place on the way to the second one. -/
def Above (sep : α) (x y : List α) : Prop :=
  ∃ rest, rest ≠ [] ∧ y.splitOn sep = x.splitOn sep ++ rest

theorem above_iff_prefix (sep : α) (x y : List α) : Above sep x y ↔ x ++ [sep] <+: y := by
  constructor
  · intro above
    obtain ⟨rest, some_rest, parts⟩ := above
    refine ⟨[sep].intercalate rest, ?_⟩
    rw [← (List.intercalate_splitOn sep : [sep].intercalate (y.splitOn sep) = y), parts,
      intercalate_append sep (List.splitOn_ne_nil sep x) some_rest, List.intercalate_splitOn]
    simp only [List.append_assoc, List.singleton_append]
  · intro starts
    obtain ⟨rest, rfl⟩ := starts
    refine ⟨rest.splitOn sep, List.splitOn_ne_nil sep rest, ?_⟩
    rw [List.append_assoc, List.singleton_append, List.splitOn_append_cons_self]

end

end PrefixSearch
