import SkyClaw.GamePathEdits
import SkyClaw.PartialWrites

set_option linter.all false

/-!
Whether the bytes found in MO2's ini after a crash are those of a write of this
transition that was stopped, `frozen_runtime/binder_recovery.py`.
-/
namespace BinderRecovery
open PartialWrites
open GamePathEdits (preverBytes)

abbrev Bytes := List UInt8

/-- `_es_escritura_propia_interrumpida` -/
def esEscrituraPropiaInterrumpida (previos nuevo actuales : Bytes) : Bool :=
  if nuevo = [] ∨ actuales = [] ∨ previos = [] then false
  else if actuales = previos then false
  else
    let divergencia := agreement previos nuevo
    let coincidentes := agreement actuales nuevo
    if ¬(divergencia < coincidentes ∧ coincidentes ≤ nuevo.length) then false
    else if coincidentes = nuevo.length ∧ actuales.length ≤ nuevo.length then false
    else if previos.length < actuales.length then
      coincidentes = actuales.length ∧ actuales.length < nuevo.length
    else actuales.drop coincidentes = previos.drop coincidentes

/-- A state between the first byte of the write and its end, before the file is cut. -/
def Intermedio (previos nuevo actuales : Bytes) : Prop :=
  (∃ k, k ≤ min previos.length nuevo.length ∧ actuales = nuevo.take k ++ previos.drop k) ∨
    ∃ k, previos.length < k ∧ k < nuevo.length ∧ actuales = nuevo.take k

variable {previos nuevo actuales : Bytes}

/-- What the tests accept is the part of the write up to the agreement. -/
theorem aceptada_intermedia (accepted : esEscrituraPropiaInterrumpida previos nuevo actuales = true) :
    actuales ≠ previos ∧ actuales ≠ nuevo ∧ Intermedio previos nuevo actuales := by
  unfold esEscrituraPropiaInterrumpida at accepted
  split at accepted
  · cases accepted
  split at accepted
  · cases accepted
  next changed =>
  simp only at accepted
  split at accepted
  · cases accepted
  next crossed =>
  split at accepted
  · cases accepted
  next unfinished =>
  have bounds := agreement_bounds actuales nuevo
  have agreed := take_agreement actuales nuevo
  have notNew : actuales ≠ nuevo := by
    intro same
    subst same
    have whole : actuales.length ≤ agreement actuales actuales :=
      le_agreement.mpr ⟨Nat.le_refl _, Nat.le_refl _, rfl⟩
    exact unfinished ⟨Nat.le_antisymm bounds.1 whole, Nat.le_refl _⟩
  refine ⟨changed, notNew, ?_⟩
  split at accepted
  · next longer =>
    have both : agreement actuales nuevo = actuales.length ∧ actuales.length < nuevo.length := by
      simpa using accepted
    refine .inr ⟨actuales.length, longer, both.2, ?_⟩
    rw [both.1, List.take_length] at agreed
    exact agreed
  · next shorter =>
    have rest : actuales.drop (agreement actuales nuevo) = previos.drop (agreement actuales nuevo) := by
      simpa using accepted
    refine .inl ⟨agreement actuales nuevo, by omega, ?_⟩
    rw [← agreed, ← rest, List.take_append_drop]

/-- A part of the write that changed something goes beyond the first difference. -/
theorem intermedia_cruza {k : Nat}
    (shape : actuales = after previos nuevo k) (changed : actuales ≠ previos) :
    agreement previos nuevo < k := by
  by_contra early
  have bound : k ≤ agreement previos nuevo := by omega
  have equal := (le_agreement.mp bound).2.2
  rw [shape, after, ← equal, List.take_append_drop] at changed
  exact changed rfl

theorem mismo_tamano_aceptada {k : Nat} (short : k ≤ min previos.length nuevo.length)
    (shape : actuales = nuevo.take k ++ previos.drop k) (some_ : nuevo ≠ [] ∧ actuales ≠ [] ∧ previos ≠ [])
    (changed : actuales ≠ previos) (notNew : actuales ≠ nuevo) :
    esEscrituraPropiaInterrumpida previos nuevo actuales = true := by
  have bounds := agreement_bounds actuales nuevo
  have size : actuales.length = previos.length := by
    rw [shape, List.length_append, List.length_take, List.length_drop]
    omega
  have front : actuales.take k = nuevo.take k := by
    rw [shape]
    exact List.take_left' (List.length_take_of_le (by omega))
  have back : actuales.drop k = previos.drop k := by
    rw [shape]
    exact List.drop_left' (List.length_take_of_le (by omega))
  have reached : k ≤ agreement actuales nuevo := le_agreement.mpr ⟨by omega, by omega, front⟩
  have crossed := intermedia_cruza shape changed
  have unfinished : ¬(agreement actuales nuevo = nuevo.length ∧ actuales.length ≤ nuevo.length) := by
    intro both
    have agreed := take_agreement actuales nuevo
    rw [both.1, List.take_length, List.take_of_length_le both.2] at agreed
    exact notNew agreed
  have rest : actuales.drop (agreement actuales nuevo) = previos.drop (agreement actuales nuevo) := by
    have split : agreement actuales nuevo = k + (agreement actuales nuevo - k) := by omega
    rw [split, ← List.drop_drop, ← List.drop_drop, back]
  have room : agreement previos nuevo < agreement actuales nuevo ∧
      agreement actuales nuevo ≤ nuevo.length := by omega
  have plain : ¬previos.length < actuales.length := by omega
  simp [esEscrituraPropiaInterrumpida, some_, changed, room, unfinished, plain, rest]

theorem extension_aceptada {k : Nat} (long : previos.length < k) (short : k < nuevo.length)
    (shape : actuales = nuevo.take k) (some_ : nuevo ≠ [] ∧ actuales ≠ [] ∧ previos ≠ [])
    (changed : actuales ≠ previos) : esEscrituraPropiaInterrumpida previos nuevo actuales = true := by
  have bounds := agreement_bounds actuales nuevo
  have bounds' := agreement_bounds previos nuevo
  have size : actuales.length = k := by
    rw [shape]
    exact List.length_take_of_le (by omega)
  have front : actuales.take k = nuevo.take k := by rw [shape, List.take_take, Nat.min_self]
  have reached : k ≤ agreement actuales nuevo := le_agreement.mpr ⟨by omega, by omega, front⟩
  have all : agreement actuales nuevo = actuales.length := by omega
  have crossed : agreement previos nuevo < actuales.length := by omega
  have inside : actuales.length < nuevo.length := by omega
  have longer : previos.length < actuales.length := by omega
  simp [esEscrituraPropiaInterrumpida, some_, changed, all, crossed, inside, Nat.le_of_lt inside,
    Nat.ne_of_lt inside, longer]

/-- A write that was stopped is told from every other content. -/
theorem interrumpida_iff (hay : previos ≠ []) (nueva : nuevo ≠ []) (algo : actuales ≠ []) :
    esEscrituraPropiaInterrumpida previos nuevo actuales = true ↔
      actuales ≠ previos ∧ actuales ≠ nuevo ∧ Intermedio previos nuevo actuales := by
  constructor
  · exact aceptada_intermedia
  · intro torn
    obtain ⟨changed, notNew, shape⟩ := torn
    cases shape with
    | inl same =>
      obtain ⟨k, short, shape⟩ := same
      exact mismo_tamano_aceptada short shape ⟨nueva, algo, hay⟩ changed notNew
    | inr longer =>
      obtain ⟨k, long, short, shape⟩ := longer
      exact extension_aceptada long short shape ⟨nueva, algo, hay⟩ changed

theorem interrumpida_iff_uno :
    esEscrituraPropiaInterrumpida [1, 2, 3] [1, 7] [1, 7, 3] = true ↔ ([1, 7, 3] : Bytes) ≠ [1, 2, 3] ∧
      ([1, 7, 3] : Bytes) ≠ [1, 7] ∧ Intermedio [1, 2, 3] [1, 7] [1, 7, 3] :=
  interrumpida_iff (by decide) (by decide) (by decide)

/-! The write, byte after byte -/

/-- An intermediate of the write is a state that the write goes through. -/
theorem intermedio_iff_reaches (notNew : actuales ≠ nuevo) :
    Intermedio previos nuevo actuales ↔ ∃ k, Reaches previos nuevo k actuales := by
  constructor
  · intro torn
    cases torn with
    | inl same =>
      obtain ⟨k, short, shape⟩ := same
      exact ⟨k, reaches_iff.mpr ⟨by omega, shape⟩⟩
    | inr longer =>
      obtain ⟨k, long, short, shape⟩ := longer
      have none_ : previos.drop k = [] := List.drop_of_length_le (by omega)
      refine ⟨k, reaches_iff.mpr ⟨by omega, ?_⟩⟩
      rw [after, none_, List.append_nil]
      exact shape
  · intro reached
    obtain ⟨k, reached⟩ := reached
    obtain ⟨bound, shape⟩ := reached.is_after
    by_cases inside : k ≤ previos.length
    · exact .inl ⟨k, by omega, shape⟩
    · have none_ : previos.drop k = [] := List.drop_of_length_le (by omega)
      rw [after, none_, List.append_nil] at shape
      have unfinished : k < nuevo.length := by
        by_contra whole
        rw [List.take_of_length_le (by omega)] at shape
        exact notNew shape
      exact .inr ⟨k, by omega, unfinished, shape⟩

/-- `_coincide_con_lo_escrito`, of MO2's ini: what was captured, the path that was to be written,
whether a write was tried, and what was read while the file was still held. -/
def coincideConLoEscrito (previos : Option Bytes) (esperado : IniEditor.Texto)
    (escrituraIntentada : Option Bool) (trasEscritura : Option Bytes) (actuales : Bytes) : Bool :=
  if trasEscritura.any (· ≠ actuales) then false
  else match previos with
    | none => false
    | some previos => match preverBytes previos esperado with
      | .error _ => false
      | .ok previsto =>
        if previsto = actuales then escrituraIntentada = some true
        else if escrituraIntentada ≠ some true then false
        else esEscrituraPropiaInterrumpida previos previsto actuales

/-- The ini is taken for the transition's own only if a write was tried and the content is one that
the write goes through. -/
theorem coincide_propia {p : Option Bytes} {esperado : IniEditor.Texto} {intentada : Option Bool}
    {tras : Option Bytes} (own : coincideConLoEscrito p esperado intentada tras actuales = true) :
    intentada = some true ∧ (∀ b, tras = some b → b = actuales) ∧ ∃ previos previsto, p = some previos ∧
      preverBytes previos esperado = .ok previsto ∧
        (actuales = previsto ∨ actuales ≠ previos ∧ ∃ k, Reaches previos previsto k actuales) := by
  unfold coincideConLoEscrito at own
  split at own
  · cases own
  next undisturbed =>
  have held : ∀ b, tras = some b → b = actuales := by
    intro b read
    subst read
    simpa using undisturbed
  split at own
  · cases own
  next previos =>
  split at own
  · cases own
  next previsto foreseen =>
  split at own
  · next whole => exact ⟨by simpa using own, held, previos, previsto, rfl, foreseen, .inl whole.symm⟩
  · next part =>
    split at own
    · cases own
    · next tried =>
      obtain ⟨changed, notNew, torn⟩ := aceptada_intermedia own
      exact ⟨by simpa using tried, held, previos, previsto, rfl, foreseen,
        .inr ⟨changed, (intermedio_iff_reaches notNew).mp torn⟩⟩

/-- And no state that the write goes through is disowned, when a write was tried. -/
theorem coincide_alcanzada {esperado : IniEditor.Texto} {tras : Option Bytes} {k : Nat}
    (undisturbed : ∀ b, tras = some b → b = actuales) (foreseen : preverBytes previos esperado = .ok nuevo)
    (some_ : previos ≠ [] ∧ nuevo ≠ [] ∧ actuales ≠ []) (changed : actuales ≠ previos)
    (reached : Reaches previos nuevo k actuales) :
    coincideConLoEscrito (some previos) esperado (some true) tras actuales = true := by
  have held : tras.any (· ≠ actuales) = false := by
    cases tras with
    | none => rfl
    | some b => simp [undisturbed b rfl]
  unfold coincideConLoEscrito
  rw [held]
  simp only [foreseen, Bool.false_eq_true, ↓reduceIte]
  by_cases whole : nuevo = actuales
  · simp [whole]
  · have other : actuales ≠ nuevo := fun same => whole same.symm
    have torn := (intermedio_iff_reaches other).mpr ⟨k, reached⟩
    have accepted := (interrumpida_iff some_.1 some_.2.1 some_.2.2).mpr ⟨changed, other, torn⟩
    simp [whole, accepted]

end BinderRecovery
