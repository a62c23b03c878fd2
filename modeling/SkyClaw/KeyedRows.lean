import Mathlib.Data.List.Nodup
import Mathlib.Data.List.Count

set_option linter.all false

/-!
Relational tables with a primary key, as the list of their rows. The key is
unique by construction, so a statement that names a key touches one row.
-/
namespace KeyedRows

structure Table (Row Key : Type) (key : Row → Key) where
  rows : List Row
  unique : (rows.map key).Nodup

variable {Row Key : Type} {key : Row → Key}

theorem Table.ext {t u : Table Row Key key} (same : t.rows = u.rows) : t = u := by
  cases t; cases u
  simp_all

instance [DecidableEq Row] : DecidableEq (Table Row Key key) := fun t u =>
  decidable_of_iff (t.rows = u.rows) ⟨Table.ext, fun h => h ▸ rfl⟩

def Table.empty : Table Row Key key := ⟨[], List.nodup_nil⟩

theorem Table.same_row {t : Table Row Key key} {r s : Row} (hr : r ∈ t.rows)
    (hs : s ∈ t.rows) (same : key r = key s) : r = s :=
  List.inj_on_of_nodup_map t.unique hr hs same

variable [DecidableEq Key]

def Table.find (t : Table Row Key key) (k : Key) : Option Row :=
  t.rows.find? fun r => decide (key r = k)

theorem Table.find_eq_some {t : Table Row Key key} {k : Key} {r : Row} :
    t.find k = some r ↔ r ∈ t.rows ∧ key r = k := by
  constructor
  · intro found
    have member := List.mem_of_find?_eq_some found
    have test := List.find?_some found
    exact ⟨member, by simpa using test⟩
  · rintro ⟨member, rfl⟩
    cases found : t.find (key r) with
    | none =>
      have absent := List.find?_eq_none.mp found r member
      simp at absent
    | some s =>
      have hs := List.mem_of_find?_eq_some found
      have test : key s = key r := by simpa using List.find?_some found
      rw [Table.same_row hs member test]

theorem Table.find_eq_none {t : Table Row Key key} {k : Key} :
    t.find k = none ↔ ∀ r ∈ t.rows, key r ≠ k := by
  simp [Table.find]

theorem Table.mem_of_find {t : Table Row Key key} {k : Key} {r : Row}
    (found : t.find k = some r) : r ∈ t.rows := (Table.find_eq_some.mp found).1

theorem Table.key_of_find {t : Table Row Key key} {k : Key} {r : Row}
    (found : t.find k = some r) : key r = k := (Table.find_eq_some.mp found).2

/-- The row count of `UPDATE` and `DELETE`: how many rows the condition selects. -/
def Table.count (t : Table Row Key key) (p : Row → Bool) : Nat := t.rows.countP p

omit [DecidableEq Key] in
theorem Table.count_eq_zero {t : Table Row Key key} {p : Row → Bool} :
    t.count p = 0 ↔ ∀ r ∈ t.rows, p r = false := by
  simp [Table.count, List.countP_eq_zero]

theorem Table.count_key_eq_zero {t : Table Row Key key} {p : Row → Bool} {k : Key}
    (only : ∀ r, p r = true → key r = k) :
    t.count p = 0 ↔ ∀ r, t.find k = some r → p r = false := by
  rw [Table.count_eq_zero]
  constructor
  · intro none_selected r found
    exact none_selected r (Table.mem_of_find found)
  · intro at_key r member
    cases test : p r with
    | false => rfl
    | true =>
      have found := Table.find_eq_some.mpr ⟨member, only r test⟩
      rw [at_key r found] at test
      exact test.symm

def Table.deleteWhere (t : Table Row Key key) (p : Row → Bool) : Table Row Key key :=
  ⟨t.rows.filter fun r => !p r, (List.filter_sublist.map key).nodup t.unique⟩

theorem Table.find_deleteWhere (t : Table Row Key key) (p : Row → Bool) (k : Key) :
    (t.deleteWhere p).find k = (t.find k).filter fun r => !p r := by
  ext r
  simp only [Table.find_eq_some, Table.deleteWhere, List.mem_filter, Option.filter_eq_some_iff]
  constructor
  · rintro ⟨⟨member, kept⟩, same⟩
    exact ⟨⟨member, same⟩, kept⟩
  · rintro ⟨⟨member, same⟩, kept⟩
    exact ⟨⟨member, kept⟩, same⟩

omit [DecidableEq Key] in
theorem Table.deleteWhere_none {t : Table Row Key key} {p : Row → Bool} (none : t.count p = 0) :
    t.deleteWhere p = t := by
  apply Table.ext
  have kept := Table.count_eq_zero.mp none
  simp only [Table.deleteWhere, List.filter_eq_self]
  intro r member
  simp [kept r member]

def Table.updateWhere (t : Table Row Key key) (p : Row → Bool) (f : Row → Row)
    (keeps : ∀ r, key (f r) = key r) : Table Row Key key where
  rows := t.rows.map fun r => if p r then f r else r
  unique := by
    have same : key ∘ (fun r => if p r then f r else r) = key := by
      funext r
      simp only [Function.comp]
      split
      · exact keeps r
      · rfl
    rw [List.map_map, same]
    exact t.unique

theorem Table.find_updateWhere (t : Table Row Key key) (p : Row → Bool) (f : Row → Row)
    (keeps : ∀ r, key (f r) = key r) (k : Key) :
    (t.updateWhere p f keeps).find k = (t.find k).map fun r => if p r then f r else r := by
  have same : ∀ r, key (if p r then f r else r) = key r := by
    intro r
    split
    · exact keeps r
    · rfl
  simp only [Table.find, Table.updateWhere, List.find?_map]
  congr 2
  funext r
  simp [Function.comp, same r]

omit [DecidableEq Key] in
theorem Table.updateWhere_none {t : Table Row Key key} {p : Row → Bool} {f : Row → Row}
    (keeps : ∀ r, key (f r) = key r) (none : t.count p = 0) : t.updateWhere p f keeps = t := by
  apply Table.ext
  have kept := Table.count_eq_zero.mp none
  simp only [Table.updateWhere]
  rw [List.map_congr_left (g := id), List.map_id]
  intro r member
  simp [kept r member]

omit [DecidableEq Key] in
theorem Table.updateWhere_eq_self {t : Table Row Key key} {p : Row → Bool} {f : Row → Row}
    (keeps : ∀ r, key (f r) = key r) :
    t.updateWhere p f keeps = t ↔ ∀ r ∈ t.rows, p r = true → f r = r := by
  have mapped : t.rows.map (fun r => if p r then f r else r) = t.rows ↔
      ∀ r ∈ t.rows, (if p r then f r else r) = r := by
    conv => lhs; rhs; rw [← List.map_id t.rows]
    exact List.map_inj_left
  constructor
  · intro same r member selected
    have fixed := mapped.mp (congrArg Table.rows same) r member
    rwa [if_pos selected] at fixed
  · intro fixed
    apply Table.ext
    refine mapped.mpr fun r member => ?_
    split
    · rename_i selected
      exact fixed r member selected
    · rfl

omit [DecidableEq Key] in
theorem Table.mem_updateWhere {t : Table Row Key key} {p : Row → Bool} {f : Row → Row}
    {keeps : ∀ r, key (f r) = key r} {s : Row} :
    s ∈ (t.updateWhere p f keeps).rows ↔ ∃ r ∈ t.rows, (if p r then f r else r) = s := by
  simp [Table.updateWhere]

def Table.insert (t : Table Row Key key) (r : Row) (fresh : t.find (key r) = none) :
    Table Row Key key where
  rows := t.rows ++ [r]
  unique := by
    have absent := Table.find_eq_none.mp fresh
    simp only [List.map_append, List.map_cons, List.map_nil]
    refine List.nodup_append.mpr ⟨t.unique, by simp, ?_⟩
    intro a ha b hb same
    obtain ⟨s, member, rfl⟩ := List.mem_map.mp ha
    exact absent s member (same.trans (by simpa using hb))

theorem Table.find_insert (t : Table Row Key key) (r : Row) (fresh : t.find (key r) = none)
    (k : Key) : (t.insert r fresh).find k = if key r = k then some r else t.find k := by
  simp only [Table.find, Table.insert, List.find?_append, List.find?_singleton, decide_eq_true_eq]
  split
  · rename_i same
    subst same
    have absent : t.rows.find? (fun s => decide (key s = key r)) = none := fresh
    simp [absent]
  · simp

/-- A table whose integer key is `AUTOINCREMENT`: `seq` is the largest key ever given out. -/
structure AutoTable (Row : Type) (key : Row → Nat) extends Table Row Nat key where
  seq : Nat
  bounded : ∀ r ∈ rows, key r ≤ seq

namespace AutoTable
variable {key : Row → Nat}

theorem ext {t u : AutoTable Row key} (rows : t.rows = u.rows) (seq : t.seq = u.seq) : t = u := by
  obtain ⟨t, n, bt⟩ := t
  obtain ⟨u, m, bu⟩ := u
  obtain rfl : t = u := Table.ext rows
  obtain rfl : n = m := seq
  rfl

instance [DecidableEq Row] : DecidableEq (AutoTable Row key) := fun t u =>
  decidable_of_iff (t.rows = u.rows ∧ t.seq = u.seq)
    ⟨fun h => ext h.1 h.2, fun h => h ▸ ⟨rfl, rfl⟩⟩

def empty : AutoTable Row key := { Table.empty with seq := 0, bounded := by simp [Table.empty] }

theorem find_next (t : AutoTable Row key) : t.find (t.seq + 1) = none :=
  Table.find_eq_none.mpr fun r member same => by
    have le := t.bounded r member
    omega

/-- `INSERT` without a key: the next one is given out. -/
def insertNext (t : AutoTable Row key) (row : Nat → Row) (keyed : ∀ k, key (row k) = k) :
    AutoTable Row key where
  toTable := t.toTable.insert (row (t.seq + 1)) (by rw [keyed]; exact t.find_next)
  seq := t.seq + 1
  bounded := by
    intro r member
    rcases List.mem_append.mp member with older | newest
    · exact Nat.le_succ_of_le (t.bounded r older)
    · obtain rfl := List.mem_singleton.mp newest
      have given := keyed (t.seq + 1)
      omega

def updateWhere (t : AutoTable Row key) (p : Row → Bool) (f : Row → Row)
    (keeps : ∀ r, key (f r) = key r) : AutoTable Row key where
  toTable := t.toTable.updateWhere p f keeps
  seq := t.seq
  bounded := by
    intro r member
    obtain ⟨s, older, rfl⟩ := Table.mem_updateWhere.mp member
    split
    · exact keeps s ▸ t.bounded s older
    · exact t.bounded s older

@[simp] theorem insertNext_seq (t : AutoTable Row key) (row : Nat → Row)
    (keyed : ∀ k, key (row k) = k) : (t.insertNext row keyed).seq = t.seq + 1 := rfl

@[simp] theorem updateWhere_seq (t : AutoTable Row key) (p : Row → Bool) (f : Row → Row)
    (keeps : ∀ r, key (f r) = key r) : (t.updateWhere p f keeps).seq = t.seq := rfl

theorem mem_insertNext {t : AutoTable Row key} {row : Nat → Row} {keyed : ∀ k, key (row k) = k}
    {r : Row} : r ∈ (t.insertNext row keyed).rows ↔ r ∈ t.rows ∨ r = row (t.seq + 1) := by
  simp [insertNext, Table.insert]

theorem find_insertNext (t : AutoTable Row key) (row : Nat → Row) (keyed : ∀ k, key (row k) = k)
    (k : Nat) :
    (t.insertNext row keyed).find k = if t.seq + 1 = k then some (row (t.seq + 1)) else t.find k := by
  rw [insertNext, Table.find_insert, keyed]

theorem find_insertNext_old {t : AutoTable Row key} {row : Nat → Row}
    {keyed : ∀ k, key (row k) = k} {k : Nat} {r : Row} (found : t.find k = some r) :
    (t.insertNext row keyed).find k = some r := by
  have le := t.bounded r (Table.mem_of_find found)
  have same := Table.key_of_find found
  rw [find_insertNext, if_neg (by omega), found]

theorem find_updateWhere (t : AutoTable Row key) (p : Row → Bool) (f : Row → Row)
    (keeps : ∀ r, key (f r) = key r) (k : Nat) :
    (t.updateWhere p f keeps).find k = (t.find k).map fun r => if p r then f r else r :=
  Table.find_updateWhere t.toTable p f keeps k

theorem mem_updateWhere {t : AutoTable Row key} {p : Row → Bool} {f : Row → Row}
    {keeps : ∀ r, key (f r) = key r} {s : Row} :
    s ∈ (t.updateWhere p f keeps).rows ↔ ∃ r ∈ t.rows, (if p r then f r else r) = s :=
  @Table.mem_updateWhere Row Nat key t.toTable p f keeps s

theorem updateWhere_eq_self {t : AutoTable Row key} {p : Row → Bool} {f : Row → Row}
    (keeps : ∀ r, key (f r) = key r) :
    t.updateWhere p f keeps = t ↔ ∀ r ∈ t.rows, p r = true → f r = r := by
  rw [← Table.updateWhere_eq_self keeps]
  exact ⟨fun same => congrArg toTable same, fun same => ext (congrArg Table.rows same) rfl⟩

theorem updateWhere_key_eq_self {t : AutoTable Row key} {k : Nat} {f : Row → Row}
    (keeps : ∀ r, key (f r) = key r) :
    t.updateWhere (fun r => key r = k) f keeps = t ↔ ∀ r, t.find k = some r → f r = r := by
  rw [updateWhere_eq_self]
  constructor
  · intro fixed r found
    exact fixed r (Table.mem_of_find found) (decide_eq_true (Table.key_of_find found))
  · intro fixed r member selected
    exact fixed r (Table.find_eq_some.mpr ⟨member, of_decide_eq_true selected⟩)

theorem updateWhere_key_comp (t : AutoTable Row key) (k : Nat) {f g : Row → Row}
    {keepsF : ∀ r, key (f r) = key r} {keepsG : ∀ r, key (g r) = key r} :
    (t.updateWhere (fun r => key r = k) f keepsF).updateWhere (fun r => key r = k) g keepsG =
      t.updateWhere (fun r => key r = k) (g ∘ f) fun r => (keepsG (f r)).trans (keepsF r) := by
  refine ext ?_ rfl
  simp only [updateWhere, Table.updateWhere, List.map_map]
  refine List.map_congr_left fun r _ => ?_
  by_cases same : key r = k
  · simp [Function.comp, same, keepsF]
  · simp [Function.comp, same]

theorem updateWhere_none {t : AutoTable Row key} {p : Row → Bool} {f : Row → Row}
    (keeps : ∀ r, key (f r) = key r) (none : t.count p = 0) : t.updateWhere p f keeps = t :=
  ext (congrArg Table.rows (Table.updateWhere_none keeps none)) rfl

end AutoTable

end KeyedRows
