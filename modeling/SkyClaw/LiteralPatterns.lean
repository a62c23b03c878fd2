import SkyClaw.TextLines

set_option linter.all false

/-!
Literal texts as patterns of `re` with `IGNORECASE`, and the scan of `finditer`
and `sub` over a text: from left to right, each match where the last one ended.
-/
namespace LiteralPatterns
open TextLines (Texto)

/-- The lower-case letter of ASCII that a character counts as. Besides the capitals
there are `İ`, `ı`, `ſ` and the Kelvin sign. -/
def minuscula (c : Char) : Char :=
  if c = 'İ' ∨ c = 'ı' then 'i' else if c = 'ſ' then 's' else if c = 'K' then 'k' else c.toLower

/-- What follows the literal at the start of a text. -/
def trasLiteral : Texto → Texto → Option Texto
  | [], t => some t
  | _ :: _, [] => none
  | a :: h, c :: t => if minuscula c = minuscula a then trasLiteral h t else none

variable {β : Type}

/-- The values of the matches. `m` gives the value and the length of the match at the
start of a text; `skip` characters belong to the last one. -/
def buscaDesde (m : Texto → Option (β × Nat)) : Nat → Texto → List β
  | _, [] => []
  | skip + 1, _ :: t => buscaDesde m skip t
  | 0, c :: t =>
    match m (c :: t) with
    | some (v, n) => v :: buscaDesde m (n - 1) t
    | none => buscaDesde m 0 t

def finditer (m : Texto → Option (β × Nat)) (t : Texto) : List β := buscaDesde m 0 t

theorem buscaDesde_drop (m : Texto → Option (β × Nat)) (skip : Nat) (t : Texto) :
    buscaDesde m skip t = finditer m (t.drop skip) := by
  induction t generalizing skip with
  | nil => simp [buscaDesde, finditer]
  | cons c t ih =>
    cases skip with
    | zero => rfl
    | succ skip => exact ih skip

@[simp] theorem finditer_nil (m : Texto → Option (β × Nat)) : finditer m [] = [] := rfl

theorem finditer_none {m : Texto → Option (β × Nat)} {c : Char} {t : Texto}
    (missed : m (c :: t) = none) : finditer m (c :: t) = finditer m t := by
  rw [finditer, buscaDesde, missed]
  rfl

theorem finditer_some {m : Texto → Option (β × Nat)} {c : Char} {t : Texto} {v : β} {n : Nat}
    (found : m (c :: t) = some (v, n)) (some_length : 0 < n) :
    finditer m (c :: t) = v :: finditer m ((c :: t).drop n) := by
  obtain ⟨n, rfl⟩ : ∃ k, n = k + 1 := ⟨n - 1, by omega⟩
  rw [finditer, buscaDesde, found]
  dsimp only
  rw [buscaDesde_drop]
  rfl

theorem trasLiteral_append {h t r : Texto} (found : trasLiteral h t = some r) :
    ∃ w, t = w ++ r ∧ w.length = h.length ∧ w.map minuscula = h.map minuscula := by
  induction h generalizing t with
  | nil =>
    cases found
    exact ⟨[], rfl, rfl, rfl⟩
  | cons a h ih =>
    cases t with
    | nil => cases found
    | cons c t =>
      unfold trasLiteral at found
      split at found
      · next same =>
        obtain ⟨w, rfl, long, equal⟩ := ih found
        refine ⟨c :: w, rfl, ?_, ?_⟩
        · rw [List.length_cons, List.length_cons, long]
        · rw [List.map_cons, List.map_cons, same, equal]
      · cases found

end LiteralPatterns
