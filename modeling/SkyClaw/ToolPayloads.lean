import Mathlib.Data.List.Sort
import SkyClaw.JsonText

set_option linter.all false

/-!
The payload of a tool as a JSON value, and the canonical text of it that the
idempotency key is made from. Two payloads are equal as JSON values when they
differ in the order of the members of their objects at most.
-/
namespace ToolStateMachine
open Utf8Text JsonText

inductive Payload where
  | null
  | bool (b : Bool)
  | int (n : Int)
  | real (literal : List Char)
  | text (t : Text)
  | list (items : List Payload)
  | dict (members : List (Text × Payload))

/-! `json.dumps(payload, sort_keys=True)` -/

def escapeHex (n : Nat) : List Char :=
  '\\' :: 'u' :: [n / 4096 % 16, n / 256 % 16, n / 16 % 16, n % 16].map Nat.digitChar

/-- `ensure_ascii` -/
def escapePoint : CodePoint → List Char
  | .surrogate n => escapeHex (0xD800 + n.val)
  | .scalar c =>
    if c = '"' ∨ c = '\\' ∨ c = '\n' ∨ c = '\r' ∨ c = '\t' ∨ c = '\x08' ∨ c = '\x0c' then
      FlatJson.escape c
    else if 32 ≤ c.toNat ∧ c.toNat < 127 then [c]
    else if c.toNat < 0x10000 then escapeHex c.toNat
    else escapeHex (0xD800 + (c.toNat - 0x10000) / 0x400) ++
      escapeHex (0xDC00 + (c.toNat - 0x10000) % 0x400)

def quote (t : Text) : List Char := '"' :: (t.flatMap escapePoint ++ ['"'])

/-- The order in which `sort_keys` writes the members. -/
def byKey {α : Type} (members : List (Text × α)) : List (Text × α) :=
  members.mergeSort fun p q => decide (p.1 ≤ q.1)

def separated (parts : List (List Char)) : List Char := [',', ' '].intercalate parts

mutual
def dumps : Payload → List Char
  | .null => ['n', 'u', 'l', 'l']
  | .bool true => ['t', 'r', 'u', 'e']
  | .bool false => ['f', 'a', 'l', 's', 'e']
  | .int n => FlatJson.writeNumber n
  | .real literal => literal
  | .text t => quote t
  | .list items => '[' :: (separated (dumpsItems items) ++ [']'])
  | .dict members => '{' :: (separated ((byKey (dumpsMembers members)).map fun p =>
      quote p.1 ++ ':' :: ' ' :: p.2) ++ ['}'])

def dumpsItems : List Payload → List (List Char)
  | [] => []
  | v :: items => dumps v :: dumpsItems items

def dumpsMembers : List (Text × Payload) → List (Text × List Char)
  | [] => []
  | (k, v) :: members => (k, dumps v) :: dumpsMembers members
end

/-! Equality of JSON values -/

mutual
/-- The value with the members of every object in the order of their keys. -/
def Payload.ordenado : Payload → Payload
  | .list items => .list (ordenados items)
  | .dict members => .dict (byKey (miembrosOrdenados members))
  | v => v

def ordenados : List Payload → List Payload
  | [] => []
  | v :: items => v.ordenado :: ordenados items

def miembrosOrdenados : List (Text × Payload) → List (Text × Payload)
  | [] => []
  | (k, v) :: members => (k, v.ordenado) :: miembrosOrdenados members
end

/-- The same JSON value. -/
def Payload.Igual (p q : Payload) : Prop := p.ordenado = q.ordenado

theorem dumpsMembers_eq (members : List (Text × Payload)) :
    dumpsMembers members = members.map fun p => (p.1, dumps p.2) := by
  induction members with
  | nil => rfl
  | cons p members ih => rw [dumpsMembers, ih, List.map_cons]

theorem miembrosOrdenados_eq (members : List (Text × Payload)) :
    miembrosOrdenados members = members.map fun p => (p.1, p.2.ordenado) := by
  induction members with
  | nil => rfl
  | cons p members ih => rw [miembrosOrdenados, ih, List.map_cons]

section Orden

variable {α β : Type}

theorem byKey_map (f : α → β) (members : List (Text × α)) :
    byKey (members.map fun p => (p.1, f p.2)) = (byKey members).map fun p => (p.1, f p.2) := by
  unfold byKey
  rw [List.map_mergeSort]
  intro p _ q _
  rfl

theorem byKey_pairwise (members : List (Text × α)) :
    (byKey members).Pairwise fun p q => decide (p.1 ≤ q.1) := by
  apply List.pairwise_mergeSort
  · intro p q r below above
    exact decide_eq_true (le_trans (of_decide_eq_true below) (of_decide_eq_true above))
  · intro p q
    simpa using le_total p.1 q.1

theorem byKey_byKey (members : List (Text × α)) : byKey (byKey members) = byKey members :=
  List.mergeSort_of_pairwise (byKey_pairwise members)

/-- The members of a dictionary, each key of which occurs once, are put in one order. -/
theorem byKey_perm {xs ys : List (Text × α)} (perm : xs.Perm ys) (once : (xs.map (·.1)).Nodup) :
    byKey xs = byKey ys := by
  have all : (byKey xs).Perm (byKey ys) :=
    (List.mergeSort_perm _ _).trans (perm.trans (List.mergeSort_perm _ _).symm)
  have keys : ((byKey xs).map (·.1)).Nodup :=
    ((List.mergeSort_perm xs _).map _).nodup_iff.mpr once
  refine List.Perm.eq_of_pairwise (fun p q inside other below above => ?_) (byKey_pairwise xs)
    (byKey_pairwise ys) all
  have same : p.1 = q.1 := le_antisymm (of_decide_eq_true below) (of_decide_eq_true above)
  exact List.inj_on_of_nodup_map keys inside (all.mem_iff.mpr other) same

end Orden

mutual
theorem dumps_ordenado : ∀ p : Payload, dumps p.ordenado = dumps p
  | .null | .bool _ | .int _ | .real _ | .text _ => rfl
  | .list items => by
    rw [Payload.ordenado, dumps, dumps, dumpsItems_ordenados items]
  | .dict members => by
    have written := dumpsMembers_ordenados members
    rw [dumpsMembers_eq] at written
    rw [Payload.ordenado, dumps, dumps, dumpsMembers_eq, ← byKey_map, byKey_byKey, written]

theorem dumpsItems_ordenados : ∀ items, dumpsItems (ordenados items) = dumpsItems items
  | [] => rfl
  | v :: items => by
    rw [ordenados, dumpsItems, dumpsItems, dumps_ordenado v, dumpsItems_ordenados items]

theorem dumpsMembers_ordenados : ∀ members,
    dumpsMembers (miembrosOrdenados members) = dumpsMembers members
  | [] => rfl
  | (k, v) :: members => by
    rw [miembrosOrdenados, dumpsMembers, dumpsMembers, dumps_ordenado v,
      dumpsMembers_ordenados members]
end

/-- One JSON value has one text. -/
theorem Payload.Igual.dumps_eq {p q : Payload} (same : p.Igual q) : dumps p = dumps q := by
  rw [← dumps_ordenado p, ← dumps_ordenado q, same]

/-- The order of the members of a dictionary does not count. -/
theorem Payload.Igual.dict {xs ys : List (Text × Payload)} (perm : xs.Perm ys)
    (once : (xs.map (·.1)).Nodup) : (Payload.dict xs).Igual (.dict ys) := by
  have mapped : (miembrosOrdenados xs).map (·.1) = xs.map (·.1) := by
    rw [miembrosOrdenados_eq, List.map_map]
    rfl
  have same : byKey (miembrosOrdenados xs) = byKey (miembrosOrdenados ys) := by
    apply byKey_perm
    · rw [miembrosOrdenados_eq, miembrosOrdenados_eq]
      exact perm.map _
    · rw [mapped]
      exact once
  rw [Payload.Igual, Payload.ordenado, Payload.ordenado, same]

/-- What `IdempotencyGuard.make_key` hashes. -/
def canonical (toolName : String) (payload : Payload) : List Char :=
  toolName.toList ++ ':' :: dumps payload

end ToolStateMachine
