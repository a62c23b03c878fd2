import Mathlib.Data.List.Induction
import Mathlib.Data.List.Sort

set_option linter.all false

/-!
Finite maps as the list of their entries, in the order of their keys: the
members of an object, the files of a directory.
-/
namespace SortedEntries

variable {Key Value : Type} [LinearOrder Key]

def put (k : Key) (v : Value) : List (Key × Value) → List (Key × Value)
  | [] => [(k, v)]
  | e :: m => if k < e.1 then (k, v) :: e :: m
    else if k = e.1 then (k, v) :: m
    else e :: put k v m

/-- The last entry of a key is the one that stays. -/
def ofList (m : List (Key × Value)) : List (Key × Value) := m.foldl (fun m e => put e.1 e.2 m) []

def find (m : List (Key × Value)) (k : Key) : Option Value :=
  (m.find? fun e => decide (e.1 = k)).map (·.2)

def Ascending (m : List (Key × Value)) : Prop := m.Pairwise (·.1 < ·.1)

theorem ascending_nil : Ascending ([] : List (Key × Value)) := List.Pairwise.nil

@[simp] theorem find_nil (k : Key) : find ([] : List (Key × Value)) k = none := rfl

theorem find_cons (e : Key × Value) (m : List (Key × Value)) (k : Key) :
    find (e :: m) k = if e.1 = k then some e.2 else find m k := by
  by_cases same : e.1 = k
  · rw [if_pos same, find, List.find?_cons_of_pos (by simpa using same), Option.map_some]
  · rw [if_neg same, find, List.find?_cons_of_neg (by simpa using same), find]

@[simp] theorem find_put (k : Key) (v : Value) (m : List (Key × Value)) (l : Key) :
    find (put k v m) l = if k = l then some v else find m l := by
  induction m with
  | nil => rw [put, find_cons]
  | cons e m ih =>
    unfold put
    split
    · rw [find_cons]
    · split
      · next same =>
        subst same
        simp only [find_cons]
        split <;> rfl
      · next other =>
        rw [find_cons, find_cons, ih]
        by_cases first : e.1 = l
        · rw [if_pos first, if_pos first, if_neg]
          rintro rfl
          exact other first.symm
        · rw [if_neg first, if_neg first]

theorem mem_put {k : Key} {v : Value} {m : List (Key × Value)} {e : Key × Value}
    (mem : e ∈ put k v m) : e = (k, v) ∨ e ∈ m := by
  induction m with
  | nil =>
    rw [put, List.mem_singleton] at mem
    exact .inl mem
  | cons f m ih =>
    unfold put at mem
    split at mem
    · exact List.mem_cons.mp mem
    · split at mem
      · rcases List.mem_cons.mp mem with same | mem
        · exact .inl same
        · exact .inr (List.mem_cons_of_mem _ mem)
      · rcases List.mem_cons.mp mem with rfl | mem
        · exact .inr List.mem_cons_self
        · exact (ih mem).imp_right (List.mem_cons_of_mem _)

theorem Ascending.put {m : List (Key × Value)} (ascending : Ascending m) (k : Key) (v : Value) :
    Ascending (put k v m) := by
  induction m with
  | nil => exact List.pairwise_singleton _ _
  | cons e m ih =>
    obtain ⟨above, rest⟩ := List.pairwise_cons.mp ascending
    unfold SortedEntries.put
    split
    · next less =>
      apply List.pairwise_cons.mpr ⟨?_, ascending⟩
      intro f mem
      rcases List.mem_cons.mp mem with rfl | mem
      · exact less
      · exact less.trans (above f mem)
    · next not_less =>
      split
      · next same =>
        exact List.pairwise_cons.mpr ⟨fun f mem => same ▸ above f mem, rest⟩
      · next other =>
        apply List.pairwise_cons.mpr ⟨?_, ih rest⟩
        intro f mem
        rcases mem_put mem with rfl | mem
        · exact lt_of_le_of_ne (not_lt.mp not_less) (Ne.symm other)
        · exact above f mem

theorem find_eq_some {m : List (Key × Value)} (ascending : Ascending m) {k : Key} {v : Value} :
    find m k = some v ↔ (k, v) ∈ m := by
  induction m with
  | nil => simp
  | cons e m ih =>
    obtain ⟨above, rest⟩ := List.pairwise_cons.mp ascending
    rw [find_cons, List.mem_cons]
    by_cases same : e.1 = k
    · have absent : (k, v) ∉ m := fun mem => lt_irrefl k (by simpa [same] using above _ mem)
      simp [same, absent, Prod.ext_iff, eq_comm]
    · have other : (k, v) ≠ e := by
        rintro rfl
        exact same rfl
      simp [same, other, ih rest]

theorem find_eq_none {m : List (Key × Value)} {k : Key} :
    find m k = none ↔ ∀ e ∈ m, e.1 ≠ k := by
  simp [find]

/-- What a map holds after an entry is written. -/
theorem put_perm {m : List (Key × Value)} (ascending : Ascending m) (k : Key) (v : Value) :
    (put k v m).Perm ((k, v) :: m.filter fun e => decide (e.1 ≠ k)) := by
  induction m with
  | nil => exact List.Perm.refl _
  | cons e m ih =>
    obtain ⟨above, rest⟩ := List.pairwise_cons.mp ascending
    have kept : (∀ f ∈ m, f.1 ≠ k) → m.filter (fun f => decide (f.1 ≠ k)) = m := by
      intro others
      exact List.filter_eq_self.mpr fun f mem => decide_eq_true (others f mem)
    unfold put
    split
    · next less =>
      rw [List.filter_cons_of_pos (by simpa using less.ne'),
        kept fun f mem => (less.trans (above f mem)).ne']
    · split
      · next same =>
        rw [List.filter_cons_of_neg (by simp [same]), kept fun f mem => (same ▸ above f mem).ne']
      · next other =>
        rw [List.filter_cons_of_pos (by simpa using Ne.symm other)]
        exact ((ih rest).cons e).trans (List.Perm.swap _ _ _)

/-- The entries with some property, when the one that is written over did not have it. -/
theorem filter_put_perm {m : List (Key × Value)} (ascending : Ascending m) {k : Key} {v : Value}
    {p : Value → Bool} (old : ∀ w, find m k = some w → p w = false) :
    ((put k v m).filter fun e => p e.2).Perm
      ((if p v then [(k, v)] else []) ++ m.filter fun e => p e.2) := by
  have kept : (m.filter fun e => decide (e.1 ≠ k)).filter (fun e => p e.2) =
      m.filter fun e => p e.2 := by
    rw [List.filter_filter]
    apply List.filter_congr
    intro e mem
    by_cases same : e.1 = k
    · have absent := old e.2 ((find_eq_some ascending).mpr (same ▸ mem))
      simp [absent]
    · simp [same]
  have perm := (put_perm ascending k v).filter fun e => p e.2
  rw [List.filter_cons, kept] at perm
  cases holds : p v with
  | true => simpa [holds] using perm
  | false => simpa [holds] using perm

theorem put_of_above {m : List (Key × Value)} {k : Key} (v : Value) (above : ∀ e ∈ m, e.1 < k) :
    put k v m = m ++ [(k, v)] := by
  induction m with
  | nil => rfl
  | cons e m ih =>
    have less := above e List.mem_cons_self
    rw [put, if_neg less.asymm, if_neg less.ne', ih fun f mem => above f (List.mem_cons_of_mem _ mem),
      List.cons_append]

theorem ofList_concat (m : List (Key × Value)) (e : Key × Value) :
    ofList (m ++ [e]) = put e.1 e.2 (ofList m) := by
  simp [ofList]

theorem ascending_ofList (m : List (Key × Value)) : Ascending (ofList m) := by
  induction m using List.reverseRecOn with
  | nil => exact ascending_nil
  | append_singleton m e ih =>
    rw [ofList_concat]
    exact ih.put e.1 e.2

theorem mem_ofList {m : List (Key × Value)} {e : Key × Value} (mem : e ∈ ofList m) : e ∈ m := by
  induction m using List.reverseRecOn with
  | nil => exact mem
  | append_singleton m f ih =>
    rw [ofList_concat] at mem
    rcases mem_put mem with rfl | mem
    · simp
    · simp [ih mem]

theorem Ascending.ofList {m : List (Key × Value)} (ascending : Ascending m) : ofList m = m := by
  induction m using List.reverseRecOn with
  | nil => rfl
  | append_singleton m e ih =>
    obtain ⟨before, -, above⟩ := List.pairwise_append.mp ascending
    rw [ofList_concat, ih before, put_of_above e.2 fun f mem => above f mem e (by simp)]

end SortedEntries
