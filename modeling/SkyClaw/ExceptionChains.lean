import Mathlib.Data.List.Basic

set_option linter.all false

/-!
Exceptions as objects of a heap. An object has a payload, the exception it was
raised from and the one that was being handled when it was raised. Raising sets
the second of these links, and never closes a cycle through it. A property of
an exception may be inherited along the links: it is read off a bounded walk.
-/
namespace ExceptionChains

structure Excepcion (κ : Type) where
  carga : κ
  cause : Option Nat
  context : Option Nat

abbrev Heap (κ : Type) := List (Excepcion κ)

variable {κ : Type} {p : κ → Bool} {heap more : Heap κ} {i j : Nat} {x : Excepcion κ}

def Excepcion.nueva (carga : κ) : Excepcion κ := ⟨carga, none, none⟩

/-- `curr.__cause__ or curr.__context__` -/
def Excepcion.siguiente (x : Excepcion κ) : Option Nat := x.cause <|> x.context

/-- Whether an exception within `fuel` links of `i` has the property. -/
def alguna (p : κ → Bool) (heap : Heap κ) : Nat → List Nat → Nat → Bool
  | 0, _, _ => false
  | fuel + 1, visited, i =>
    if i ∈ visited then false
    else
      match heap[i]? with
      | none => false
      | some x =>
        p x.carga ||
          match x.siguiente with
          | none => false
          | some j => alguna p heap fuel (i :: visited) j

theorem alguna_of_self {fuel : Nat} (at_i : heap[i]? = some x) (has : p x.carga = true) :
    alguna p heap (fuel + 1) [] i = true := by
  simp [alguna, at_i, has]

theorem alguna_of_next (fuel : Nat) {y : Excepcion κ} (at_i : heap[i]? = some x)
    (link : x.siguiente = some j) (at_j : heap[j]? = some y) (has : p y.carga = true) :
    alguna p heap (fuel + 2) [] i = true := by
  by_cases same : j = i
  · subst same
    rw [at_i, Option.some.injEq] at at_j
    subst at_j
    exact alguna_of_self at_i has
  · simp [alguna, at_i, link, at_j, has, same]

/-- A set closed under the links, none of whose members has the property. -/
theorem alguna_eq_false {S : Nat → Prop}
    (closed : ∀ i x, S i → heap[i]? = some x → p x.carga = false ∧ ∀ j, x.siguiente = some j → S j) :
    ∀ (fuel : Nat) (visited : List Nat) (i : Nat), S i → alguna p heap fuel visited i = false := by
  intro fuel
  induction fuel with
  | zero => intro visited i _; rfl
  | succ fuel ih =>
    intro visited i mem
    rw [alguna]
    split
    · rfl
    cases at_i : heap[i]? with
    | none => rfl
    | some x =>
      obtain ⟨none_here, next_in⟩ := closed i x mem at_i
      simp only [none_here, Bool.false_or]
      cases link : x.siguiente with
      | none => rfl
      | some j => exact ih _ _ (next_in j link)

/-! Writing to the heap -/

/-- Removes the context link to `value` from the chain that begins at `o`, if it is there. -/
def desata (value : Nat) : Nat → Nat → Heap κ → Heap κ
  | 0, _, heap => heap
  | fuel + 1, o, heap =>
    match heap[o]?.bind (·.context) with
    | none => heap
    | some c =>
      if c = value then heap.modify o fun x => { x with context := none }
      else desata value fuel c heap

/-- Raises `i` while `handled` is being handled. -/
def lanza (i : Nat) (handled : Option Nat) (heap : Heap κ) : Heap κ :=
  match handled with
  | none => heap
  | some h =>
    if h = i then heap
    else (desata i heap.length h heap).modify i fun x => { x with context := some h }

/-- `i.__cause__ = cause` -/
def conCausa (i : Nat) (cause : Option Nat) (heap : Heap κ) : Heap κ :=
  heap.modify i fun x => { x with cause := cause }

def marca (f : κ → κ) (i : Nat) (heap : Heap κ) : Heap κ :=
  heap.modify i fun x => { x with carga := f x.carga }

/-- Every object is still there, with a payload related to the one it had. -/
def Crece (r : κ → κ → Prop) (heap more : Heap κ) : Prop :=
  ∀ (i : Nat) (x : Excepcion κ), heap[i]? = some x → ∃ y : Excepcion κ, more[i]? = some y ∧ r x.carga y.carga

section growth
variable {r : κ → κ → Prop}

theorem Crece.refl (same : ∀ a, r a a) (heap : Heap κ) : Crece r heap heap :=
  fun _ x at_ => ⟨x, at_, same x.carga⟩

theorem Crece.trans {last : Heap κ} (step : ∀ a b c, r a b → r b c → r a c)
    (first : Crece r heap more) (second : Crece r more last) : Crece r heap last := by
  intro i x at_
  obtain ⟨y, at_y, xy⟩ := first i x at_
  obtain ⟨z, at_z, yz⟩ := second i y at_y
  exact ⟨z, at_z, step _ _ _ xy yz⟩

theorem Crece.modify {f : Excepcion κ → Excepcion κ} (same : ∀ a, r a a)
    (kept : ∀ x, r x.carga (f x).carga) (i : Nat) (heap : Heap κ) : Crece r heap (heap.modify i f) := by
  intro j x at_
  rw [List.getElem?_modify, at_]
  by_cases eq : i = j
  · exact ⟨f x, by simp [eq], kept x⟩
  · exact ⟨x, by simp [eq], same x.carga⟩

theorem Crece.desata (same : ∀ a, r a a) (value fuel o : Nat) (heap : Heap κ) :
    Crece r heap (desata value fuel o heap) := by
  induction fuel generalizing o with
  | zero => exact .refl same heap
  | succ fuel ih =>
    rw [ExceptionChains.desata]
    split
    · exact .refl same heap
    · split
      · apply Crece.modify same
        intro x
        exact same x.carga
      · exact ih _

theorem Crece.lanza (same : ∀ a, r a a) (step : ∀ a b c, r a b → r b c → r a c)
    (i : Nat) (handled : Option Nat) (heap : Heap κ) : Crece r heap (lanza i handled heap) := by
  rw [ExceptionChains.lanza.eq_def]
  split
  · exact .refl same heap
  · split
    · exact .refl same heap
    · apply Crece.trans step (.desata same i heap.length _ heap)
      apply Crece.modify same
      intro x
      exact same x.carga

end growth

/-! Where the links of an object can change -/

theorem desata_at {value fuel o : Nat} (at_i : (desata value fuel o heap)[i]? = some x) :
    ∃ y, heap[i]? = some y ∧ x.carga = y.carga ∧ x.cause = y.cause ∧ (x.context = y.context ∨ x.context = none) := by
  induction fuel generalizing o with
  | zero => exact ⟨x, at_i, rfl, rfl, .inl rfl⟩
  | succ fuel ih =>
    rw [desata] at at_i
    split at at_i
    · exact ⟨x, at_i, rfl, rfl, .inl rfl⟩
    · split at at_i
      · rw [List.getElem?_modify] at at_i
        cases before : heap[i]? with
        | none => simp [before] at at_i
        | some y =>
          by_cases eq : o = i
          · simp only [before, eq, if_true, Option.map_eq_map, Option.map_some, Option.some.injEq] at at_i
            subst at_i
            exact ⟨y, rfl, rfl, rfl, .inr rfl⟩
          · simp only [before, eq, if_false, Option.map_eq_map, Option.map_some, Option.some.injEq] at at_i
            subst at_i
            exact ⟨y, rfl, rfl, rfl, .inl rfl⟩
      · exact ih at_i

/-- Raising another exception never adds a link to `i`. -/
theorem lanza_at {handled : Option Nat} (other : j ≠ i) (at_i : (lanza j handled heap)[i]? = some x) :
    ∃ y, heap[i]? = some y ∧ x.carga = y.carga ∧ x.cause = y.cause ∧ (x.context = y.context ∨ x.context = none) := by
  rw [lanza.eq_def] at at_i
  split at at_i
  · exact ⟨x, at_i, rfl, rfl, .inl rfl⟩
  · split at at_i
    · exact ⟨x, at_i, rfl, rfl, .inl rfl⟩
    · rw [List.getElem?_modify_ne _ _ other] at at_i
      exact desata_at at_i

/-- An exception raised while another one is handled has it for its context. -/
theorem lanza_self {h : Nat} (other : h ≠ i) (at_i : heap[i]? = some x) :
    ∃ y, (lanza i (some h) heap)[i]? = some y ∧ y.carga = x.carga ∧ y.cause = x.cause ∧ y.context = some h := by
  obtain ⟨y, at_y, same⟩ := Crece.desata (r := Eq) (fun _ => rfl) i heap.length h heap i x at_i
  obtain ⟨z, at_z, _, causes, _⟩ := desata_at at_y
  rw [at_i, Option.some.injEq] at at_z
  subst at_z
  refine ⟨{ y with context := some h }, ?_, same.symm, causes, rfl⟩
  simp only [lanza, if_neg other, List.getElem?_modify_eq, at_y, Option.map_eq_map, Option.map_some]

end ExceptionChains
