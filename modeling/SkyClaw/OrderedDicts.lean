import Mathlib.Data.List.Nodup

set_option linter.all false

/-!
Dictionaries that keep the order in which their keys came, and dictionaries of such.
-/
namespace OrderedDicts

variable {κ ι ν : Type} [DecidableEq κ] [DecidableEq ι]

/-- The entry of a key with its value changed, or one more entry at the end. -/
def updateEntries (k : κ) (f : Option ν → ν) : List (κ × ν) → List (κ × ν)
  | [] => [(k, f none)]
  | (j, v) :: rest => if j = k then (j, f (some v)) :: rest else (j, v) :: updateEntries k f rest

theorem keys_updateEntries (k : κ) (f : Option ν → ν) (l : List (κ × ν)) :
    (updateEntries k f l).map Prod.fst =
      if k ∈ l.map Prod.fst then l.map Prod.fst else l.map Prod.fst ++ [k] := by
  induction l with
  | nil => simp [updateEntries]
  | cons p l ih =>
    obtain ⟨j, v⟩ := p
    rw [updateEntries]
    by_cases same : j = k
    · rw [if_pos same]
      simp [same]
    · rw [if_neg same, List.map_cons, ih, List.map_cons]
      have other : k ≠ j := fun equal => same equal.symm
      by_cases known : k ∈ l.map Prod.fst
      · rw [if_pos known, if_pos (List.mem_cons_of_mem _ known)]
      · rw [if_neg known, if_neg (by simp only [List.mem_cons, not_or]; exact ⟨other, known⟩)]
        rfl

theorem lookup_cons_eq (k j : κ) (v : ν) (l : List (κ × ν)) :
    ((j, v) :: l).lookup k = if k = j then some v else l.lookup k := by
  by_cases same : k = j
  · subst same
    simp
  · rw [List.lookup_cons, beq_eq_false_iff_ne.mpr same, if_neg same]

structure OrderedDict (κ ν : Type) where
  entries : List (κ × ν)
  distinct : (entries.map Prod.fst).Nodup

namespace OrderedDict

def empty : OrderedDict κ ν := ⟨[], List.nodup_nil⟩

def update (d : OrderedDict κ ν) (k : κ) (f : Option ν → ν) : OrderedDict κ ν where
  entries := updateEntries k f d.entries
  distinct := by
    rw [keys_updateEntries]
    split
    · exact d.distinct
    · next fresh =>
      rw [List.nodup_append]
      refine ⟨d.distinct, List.nodup_singleton k, ?_⟩
      intro a old b added same
      rw [List.mem_singleton] at added
      exact fresh (added ▸ same ▸ old)

def lookup (d : OrderedDict κ ν) (k : κ) : Option ν := d.entries.lookup k

@[simp] theorem lookup_empty (k : κ) : (empty : OrderedDict κ ν).lookup k = none := rfl

theorem lookup_update (d : OrderedDict κ ν) (k j : κ) (f : Option ν → ν) :
    (d.update k f).lookup j = if j = k then some (f (d.lookup k)) else d.lookup j := by
  unfold lookup update
  dsimp only
  induction d.entries with
  | nil => rw [updateEntries, lookup_cons_eq, List.lookup_nil, List.lookup_nil]
  | cons p l ih =>
    obtain ⟨i, v⟩ := p
    rw [updateEntries]
    by_cases here : i = k
    · subst here
      rw [if_pos rfl, lookup_cons_eq, lookup_cons_eq, lookup_cons_eq, if_pos rfl]
      by_cases same : j = i
      · rw [if_pos same, if_pos same]
      · rw [if_neg same, if_neg same, if_neg same]
    · have other : k ≠ i := fun equal => here equal.symm
      rw [if_neg here, lookup_cons_eq, ih, lookup_cons_eq, lookup_cons_eq]
      by_cases same : j = i
      · subst same
        rw [if_pos rfl, if_neg here, if_pos rfl]
      · rw [if_neg same, if_neg other, if_neg same]

theorem mem_entries_iff {d : OrderedDict κ ν} {k : κ} {v : ν} :
    (k, v) ∈ d.entries ↔ d.lookup k = some v := by
  obtain ⟨l, distinct⟩ := d
  unfold lookup
  dsimp only
  induction l with
  | nil => simp
  | cons p l ih =>
    obtain ⟨j, w⟩ := p
    rw [List.map_cons, List.nodup_cons] at distinct
    rw [List.mem_cons, lookup_cons_eq, ih distinct.2, Prod.mk.injEq]
    by_cases same : k = j
    · subst same
      have absent : l.lookup k ≠ some v := by
        intro found
        have old := List.mem_map_of_mem (f := Prod.fst) ((ih distinct.2).mpr found)
        exact distinct.1 old
      rw [if_pos rfl, Option.some.injEq]
      constructor
      · intro either
        exact (either.resolve_right absent).2.symm
      · intro equal
        exact .inl ⟨rfl, equal.symm⟩
    · rw [if_neg same]
      constructor
      · intro either
        exact either.resolve_left fun both => same both.1
      · exact .inr

/-! Dictionaries of dictionaries -/

def assign (d : OrderedDict κ (OrderedDict ι ν)) (k : κ) (i : ι) (v : ν) :
    OrderedDict κ (OrderedDict ι ν) :=
  d.update k fun inner => (inner.getD empty).update i fun _ => v

def valueAt (d : OrderedDict κ (OrderedDict ι ν)) (k : κ) (i : ι) : Option ν :=
  (d.lookup k).bind fun inner => inner.lookup i

@[simp] theorem valueAt_empty (k : κ) (i : ι) :
    (empty : OrderedDict κ (OrderedDict ι ν)).valueAt k i = none := rfl

theorem valueAt_assign (d : OrderedDict κ (OrderedDict ι ν)) (k l : κ) (i j : ι) (v : ν) :
    (d.assign k i v).valueAt l j = if l = k ∧ j = i then some v else d.valueAt l j := by
  unfold valueAt assign
  rw [lookup_update]
  by_cases outer : l = k
  · subst outer
    rw [if_pos rfl, Option.bind_some, lookup_update]
    by_cases inner : j = i
    · simp [inner]
    · rw [if_neg inner, if_neg (fun both => inner both.2)]
      cases d.lookup l <;> rfl
  · rw [if_neg outer, if_neg (fun both => outer both.1)]

/-- Of several assignments to one place the last one stays. -/
theorem valueAt_foldl {α : Type} (place : α → κ × ι) (value : α → ν) (xs : List α)
    (d : OrderedDict κ (OrderedDict ι ν)) (k : κ) (i : ι) :
    (xs.foldl (fun d x => d.assign (place x).1 (place x).2 (value x)) d).valueAt k i =
      (((xs.filter (place · = (k, i))).map value).getLast?).or (d.valueAt k i) := by
  induction xs generalizing d with
  | nil => simp
  | cons x xs ih =>
    rw [List.foldl_cons, ih, valueAt_assign]
    by_cases here : place x = (k, i)
    · rw [List.filter_cons_of_pos (by simpa using here), here, if_pos ⟨rfl, rfl⟩, List.map_cons,
        List.getLast?_cons]
      cases ((xs.filter (place · = (k, i))).map value).getLast? <;> rfl
    · rw [List.filter_cons_of_neg (by simpa using here), if_neg]
      intro both
      exact here (Prod.ext both.1.symm both.2.symm)

end OrderedDict

end OrderedDicts
