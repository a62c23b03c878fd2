import Mathlib.Data.List.Dedup
import Mathlib.Data.List.Infix

set_option linter.all false

/-!
`AgenticLoopGuardrail`, a window over the fingerprints of the registered actions.
`dumps` is `json.dumps` with sorted keys, and `sha256` the digest of the text.
-/
namespace LoopGuardrail

/-- What `__init__` accepts. -/
structure Guardrail where
  maxRepeats : Nat
  windowSize : Nat
  repeats : 2 ≤ maxRepeats
  window : maxRepeats ≤ windowSize

def init (maxRepeats windowSize : Nat) : Except String Guardrail :=
  if few : maxRepeats < 2 then .error "max_repeats must be >= 2"
  else if small : windowSize < maxRepeats then .error "window_size must be >= max_repeats"
  else .ok ⟨maxRepeats, windowSize, by omega, by omega⟩

theorem init_accepts (g : Guardrail) : init g.maxRepeats g.windowSize = .ok g := by
  have repeats := g.repeats
  have window := g.window
  rw [init, dif_neg (by omega), dif_neg (by omega)]

structure Accion (Args : Type) where
  toolName : String
  toolArgs : Args

structure CircuitBreakerTripped where
  message : String
  toolName : String
  occurrences : Nat
  deriving DecidableEq

def trip (toolName reason : String) (occurrences : Nat) : CircuitBreakerTripped where
  message := "Has entrado en un bucle (" ++ reason ++ ") intentando usar '" ++ toolName ++
    "'. DETENTE. Solicita asistencia humana (HITL) inmediatamente."
  toolName := toolName
  occurrences := occurrences

section
variable {Hash : Type}

/-- `deque.append` under `maxlen`. -/
def append (g : Guardrail) (history : List Hash) (h : Hash) : List Hash :=
  (history ++ [h]).drop (history.length + 1 - g.windowSize)

variable [DecidableEq Hash]

def repite (g : Guardrail) (hist : List Hash) : Bool :=
  decide (g.maxRepeats ≤ hist.length) &&
    (hist.drop (hist.length - g.maxRepeats)).all fun h => some h = hist.getLast?

/-- `hist[-2p:-p] == hist[-p:]`, and the block is not one action only. -/
def oscila (hist : List Hash) (p : Nat) : Bool :=
  decide ((hist.drop (hist.length - 2 * p)).take p = hist.drop (hist.length - p)) &&
    decide (1 < (hist.drop (hist.length - p)).dedup.length)

/-- The shortest period of two or more under which the history oscillates. -/
def periodo (hist : List Hash) : Option Nat :=
  (List.range' 2 (hist.length / 2 - 1)).find? (oscila hist)

def check (g : Guardrail) (toolName : String) (hist : List Hash) :
    List Hash × Option CircuitBreakerTripped :=
  if repite g hist then
    ([], some (trip toolName "repeticiones idénticas consecutivas" g.maxRepeats))
  else
    match periodo hist with
    | some p => ([], some (trip toolName ("ciclo oscilante de período " ++ toString p) (2 * p)))
    | none => (hist, none)

end

section
variable {Hash Args : Type} [DecidableEq Hash] (dumps : Args → String) (sha256 : String → Hash)

def actionHash (a : Accion Args) : Hash := sha256 (a.toolName ++ "|" ++ dumps a.toolArgs)

/-- The history it leaves, and what it raises. -/
def registerAndCheck (g : Guardrail) (history : List Hash) (a : Accion Args) :
    List Hash × Option CircuitBreakerTripped :=
  check g a.toolName (append g history (actionHash dumps sha256 a))

variable (g : Guardrail) (f : Nat → Accion Args)

/-- The history after the first `n` actions of a sequence. A finite sequence is
the beginning of an infinite one. -/
def historia : Nat → List Hash
  | 0 => []
  | n + 1 => (registerAndCheck dumps sha256 g (historia n) (f n)).1

def disparo (n : Nat) : Option CircuitBreakerTripped :=
  (registerAndCheck dumps sha256 g (historia dumps sha256 g f n) (f n)).2

/-- The history that the check of the action `n` looks at. -/
def registrada (n : Nat) : List Hash :=
  append g (historia dumps sha256 g f n) (actionHash dumps sha256 (f n))

end

/-! The two patterns, as what the history ends with. -/

section
variable {Hash : Type}

theorem append_suffix (g : Guardrail) (history : List Hash) (h : Hash) :
    append g history h <:+ history ++ [h] :=
  List.drop_suffix _ _

theorem append_ends (g : Guardrail) {history ending : List Hash} (h : Hash)
    (ends : ending <:+ history) (fits : ending.length + 1 ≤ g.windowSize) :
    ending ++ [h] <:+ append g history h := by
  have whole : ending ++ [h] <:+ history ++ [h] := by
    obtain ⟨before, rfl⟩ := ends
    exact ⟨before, by rw [List.append_assoc]⟩
  apply List.suffix_of_suffix_length_le whole (append_suffix g history h)
  have shorter := ends.length_le
  simp only [append, List.length_drop, List.length_append, List.length_singleton]
  omega

variable [DecidableEq Hash]

theorem repite_iff (g : Guardrail) (hist : List Hash) :
    repite g hist = true ↔ ∃ h, List.replicate g.maxRepeats h <:+ hist := by
  have some_repeats := g.repeats
  simp only [repite, Bool.and_eq_true, decide_eq_true_eq, List.all_eq_true]
  constructor
  · intro found
    obtain ⟨long, same⟩ := found
    cases last : hist.getLast? with
    | none =>
      rw [List.getLast?_eq_none_iff] at last
      subst last
      simp only [List.length_nil] at long
      omega
    | some h =>
      use h
      have constant : hist.drop (hist.length - g.maxRepeats) = List.replicate g.maxRepeats h := by
        rw [List.eq_replicate_iff]
        constructor
        · rw [List.length_drop]
          omega
        · intro x mem
          have equal := same x mem
          rw [last] at equal
          exact Option.some.inj equal
      rw [← constant]
      exact List.drop_suffix _ _
  · intro found
    obtain ⟨h, ends⟩ := found
    have long := ends.length_le
    rw [List.length_replicate] at long
    have ending := List.suffix_iff_eq_drop.mp ends
    rw [List.length_replicate] at ending
    obtain ⟨before, rfl⟩ := ends
    refine ⟨long, ?_⟩
    intro x mem
    rw [← ending] at mem
    have last : (before ++ List.replicate g.maxRepeats h).getLast? = some h := by
      rw [List.getLast?_append, List.getLast?_replicate, if_neg (by omega), Option.some_or]
    rw [last, List.eq_of_mem_replicate mem]

theorem oscila_ends {hist : List Hash} {p : Nat} (fits : 2 * p ≤ hist.length)
    (found : oscila hist p = true) : ∃ w, w.length = p ∧ w ++ w <:+ hist := by
  simp only [oscila, Bool.and_eq_true, decide_eq_true_eq] at found
  refine ⟨hist.drop (hist.length - p), ?_, ?_⟩
  · rw [List.length_drop]
    omega
  · have halves : hist.drop (hist.length - 2 * p) =
        (hist.drop (hist.length - 2 * p)).take p ++ hist.drop (hist.length - p) := by
      conv_lhs => rw [← List.take_append_drop p (hist.drop (hist.length - 2 * p))]
      rw [List.drop_drop]
      congr 2
      omega
    rw [found.1] at halves
    rw [← halves]
    exact List.drop_suffix _ _

theorem oscila_of_ends {hist w : List Hash} (ends : w ++ w <:+ hist)
    (varied : 1 < w.dedup.length) : oscila hist w.length = true := by
  have second : w <:+ hist := (List.suffix_append w w).trans ends
  have both := List.suffix_iff_eq_drop.mp ends
  have last := List.suffix_iff_eq_drop.mp second
  rw [List.length_append, ← Nat.two_mul] at both
  simp only [oscila, Bool.and_eq_true, decide_eq_true_eq]
  rw [← last, ← both]
  exact ⟨List.take_left, varied⟩

theorem periodo_some {hist : List Hash} {p : Nat} (found : periodo hist = some p) :
    2 ≤ p ∧ 2 * p ≤ hist.length ∧ oscila hist p = true := by
  have inside := List.mem_of_find?_eq_some found
  rw [List.mem_range'_1] at inside
  refine ⟨inside.1, ?_, List.find?_some found⟩
  omega

theorem periodo_isSome {hist : List Hash} {p : Nat} (least : 2 ≤ p) (fits : 2 * p ≤ hist.length)
    (found : oscila hist p = true) : (periodo hist).isSome = true := by
  rw [periodo, List.find?_isSome]
  refine ⟨p, ?_, found⟩
  rw [List.mem_range'_1]
  omega

/-- A block that is not varied is one action all along. -/
theorem constant_of_dedup {w : List Hash} (few : ¬ 1 < w.dedup.length) {a b : Hash} (ha : a ∈ w)
    (hb : b ∈ w) : a = b := by
  have ha' := List.mem_dedup.mpr ha
  have hb' := List.mem_dedup.mpr hb
  cases shape : w.dedup with
  | nil =>
    rw [shape] at ha'
    cases ha'
  | cons c rest =>
    rw [shape, List.length_cons] at few
    have none_left : rest = [] := List.length_eq_zero_iff.mp (by omega)
    rw [shape, none_left, List.mem_singleton] at ha' hb'
    rw [ha', hb']

end

/-! Whole sequences. -/

/-- From a block of one action, back through the period. -/
theorem constant_back {Hash : Type} {k n p : Nat} {u : Nat → Hash} (least : 0 < p)
    (periodic : ∀ i, k ≤ i → i + p ≤ n → u (i + p) = u i)
    (block : ∀ i, n < i + p → i ≤ n → u i = u n) :
    ∀ i, k ≤ i → i ≤ n → u i = u n := by
  intro i
  induction distance : n - i using Nat.strongRecOn generalizing i with
  | ind d ih =>
    intro from_k upto
    by_cases near : n < i + p
    · exact block i near upto
    · rw [← periodic i from_k (by omega)]
      exact ih (n - (i + p)) (by omega) (i + p) rfl (by omega) (by omega)

/-- The values of a sequence at `m` places, from `i` on. -/
def tramo {Hash : Type} (u : Nat → Hash) (i m : Nat) : List Hash := (List.range' i m).map u

section
variable {Hash : Type} {u : Nat → Hash}

@[simp] theorem tramo_length (i m : Nat) : (tramo u i m).length = m := by
  rw [tramo, List.length_map, List.length_range']

theorem mem_tramo {i m : Nat} {h : Hash} : h ∈ tramo u i m ↔ ∃ j, (i ≤ j ∧ j < i + m) ∧ u j = h := by
  simp only [tramo, List.mem_map, List.mem_range'_1]

theorem tramo_succ (i m : Nat) : tramo u i (m + 1) = tramo u i m ++ [u (i + m)] := by
  rw [tramo, tramo, List.range'_1_concat, List.map_append, List.map_singleton]

theorem tramo_append (i m n : Nat) : tramo u i (m + n) = tramo u i m ++ tramo u (i + m) n := by
  rw [tramo, ← List.range'_append_1, List.map_append, tramo, tramo]

theorem tramo_shift {i p : Nat} (periodic : ∀ j, i ≤ j → j < i + p → u (j + p) = u j) :
    tramo u (i + p) p = tramo u i p := by
  apply List.ext_getElem
  · rw [tramo_length, tramo_length]
  · intro j inside _
    rw [tramo_length] at inside
    simp only [tramo, List.getElem_map, List.getElem_range', Nat.one_mul]
    have same := periodic (i + j) (by omega) (by omega)
    rw [← same]
    congr 1
    omega

theorem tramo_constant {i m : Nat} {h : Hash} (same : ∀ j, i ≤ j → j < i + m → u j = h) :
    tramo u i m = List.replicate m h := by
  rw [List.eq_replicate_iff]
  refine ⟨tramo_length i m, ?_⟩
  intro x mem
  obtain ⟨j, inside, rfl⟩ := mem_tramo.mp mem
  exact same j inside.1 inside.2

end

section
variable {Hash Args : Type} [DecidableEq Hash] {dumps : Args → String} {sha256 : String → Hash}
  {g : Guardrail} {f : Nat → Accion Args}

/-- The fingerprint of the action `n`. -/
def huella (dumps : Args → String) (sha256 : String → Hash) (f : Nat → Accion Args) (n : Nat) : Hash :=
  actionHash dumps sha256 (f n)

theorem check_isSome_iff (toolName : String) (hist : List Hash) :
    (check g toolName hist).2.isSome = true ↔
      repite g hist = true ∨ (periodo hist).isSome = true := by
  unfold check
  cases repite g hist with
  | true => simp
  | false => cases periodo hist <;> simp

theorem check_quiet {toolName : String} {hist : List Hash}
    (quiet : ¬ (check g toolName hist).2.isSome = true) : (check g toolName hist).1 = hist := by
  rw [check_isSome_iff, not_or] at quiet
  obtain ⟨no_repeat, no_cycle⟩ := quiet
  unfold check
  rw [if_neg no_repeat]
  cases found : periodo hist with
  | some p =>
    rw [found] at no_cycle
    exact absurd rfl no_cycle
  | none => rfl

theorem check_trip {toolName : String} {hist : List Hash}
    (tripped : (check g toolName hist).2.isSome = true) : (check g toolName hist).1 = [] := by
  unfold check
  cases (check_isSome_iff toolName hist).mp tripped with
  | inl repeated => rw [if_pos repeated]
  | inr cycle =>
    obtain ⟨p, found⟩ := Option.isSome_iff_exists.mp cycle
    rw [found]
    split <;> rfl

theorem registrada_suffix_of {n : Nat}
    (before : historia dumps sha256 g f n <:+ tramo (huella dumps sha256 f) 0 n) :
    registrada dumps sha256 g f n <:+ tramo (huella dumps sha256 f) 0 (n + 1) := by
  apply (append_suffix g _ _).trans
  rw [tramo_succ, Nat.zero_add]
  obtain ⟨older, whole⟩ := before
  exact ⟨older, by rw [← List.append_assoc, whole]; rfl⟩

theorem disparo_isSome_iff (n : Nat) : (disparo dumps sha256 g f n).isSome = true ↔
    repite g (registrada dumps sha256 g f n) = true ∨
      (periodo (registrada dumps sha256 g f n)).isSome = true :=
  check_isSome_iff _ _

theorem historia_succ {n : Nat} (quiet : ¬ (disparo dumps sha256 g f n).isSome = true) :
    historia dumps sha256 g f (n + 1) = registrada dumps sha256 g f n :=
  check_quiet quiet

/-- Without a trip since the action `k`, the history ends with what was
registered since, as far as the window reaches. -/
theorem historia_ends {k j : Nat} (quiet : ∀ i, k ≤ i → i < k + j →
      ¬ (disparo dumps sha256 g f i).isSome = true) {m : Nat} (since : m ≤ j)
    (fits : m ≤ g.windowSize) :
    tramo (huella dumps sha256 f) (k + j - m) m <:+ historia dumps sha256 g f (k + j) := by
  induction j generalizing m with
  | zero =>
    have empty : m = 0 := by omega
    subst empty
    exact List.nil_suffix
  | succ j ih =>
    rw [← Nat.add_assoc, historia_succ (quiet (k + j) (by omega) (by omega))]
    cases m with
    | zero => exact List.nil_suffix
    | succ m =>
      have start : k + j + 1 - (m + 1) = k + j - m := by omega
      have next : k + j - m + m = k + j := by omega
      rw [start, tramo_succ, next]
      apply append_ends
      · exact ih (fun i from_k before => quiet i from_k (by omega)) (by omega) (by omega)
      · rw [tramo_length]
        exact fits

theorem registrada_ends {k n : Nat} (quiet : ∀ i, k ≤ i → i < n →
      ¬ (disparo dumps sha256 g f i).isSome = true) (from_k : k ≤ n) {m : Nat}
    (since : k + m ≤ n + 1) (fits : m ≤ g.windowSize) :
    tramo (huella dumps sha256 f) (n + 1 - m) m <:+ registrada dumps sha256 g f n := by
  cases m with
  | zero => exact List.nil_suffix
  | succ m =>
    have start : n + 1 - (m + 1) = k + (n - k) - m := by omega
    have next : k + (n - k) - m + m = n := by omega
    have here : k + (n - k) = n := by omega
    rw [start, tramo_succ, next]
    apply append_ends
    · have until_n : ∀ i, k ≤ i → i < k + (n - k) → ¬ (disparo dumps sha256 g f i).isSome = true :=
        fun i low high => quiet i low (by omega)
      have ends := historia_ends until_n (m := m) (by omega) (by omega)
      rw [here] at ends ⊢
      exact ends
    · rw [tramo_length]
      exact fits

/-- The last `maxRepeats` actions are one. -/
theorem disparo_of_constant {k n : Nat} (quiet : ∀ i, k ≤ i → i < n →
      ¬ (disparo dumps sha256 g f i).isSome = true) (long : k + g.maxRepeats ≤ n + 1) {h : Hash}
    (same : ∀ j, k ≤ j → j ≤ n → huella dumps sha256 f j = h) :
    (disparo dumps sha256 g f n).isSome = true := by
  have some_repeats := g.repeats
  rw [disparo_isSome_iff, repite_iff]
  left
  use h
  have ends := registrada_ends quiet (by omega) long g.window
  rw [tramo_constant (h := h)] at ends
  · exact ends
  · intro j low high
    exact same j (by omega) (by omega)

theorem disparo_of_periodic {k n p : Nat} (quiet : ∀ i, k ≤ i → i < n →
      ¬ (disparo dumps sha256 g f i).isSome = true) (least : 2 ≤ p) (fits : 2 * p ≤ g.windowSize)
    (twice : k + 2 * p ≤ n + 1) (long : k + g.maxRepeats ≤ n + 1)
    (periodic : ∀ i, k ≤ i → i + p ≤ n →
      huella dumps sha256 f (i + p) = huella dumps sha256 f i) :
    (disparo dumps sha256 g f n).isSome = true := by
  have ends := registrada_ends quiet (by omega) twice fits
  have halves : tramo (huella dumps sha256 f) (n + 1 - 2 * p) (2 * p) =
      tramo (huella dumps sha256 f) (n + 1 - p) p ++ tramo (huella dumps sha256 f) (n + 1 - p) p := by
    have middle : n + 1 - 2 * p + p = n + 1 - p := by omega
    rw [Nat.two_mul, tramo_append, ← Nat.two_mul, middle, ← middle, tramo_shift]
    intro i low high
    exact periodic i (by omega) (by omega)
  rw [halves] at ends
  by_cases varied : 1 < (tramo (huella dumps sha256 f) (n + 1 - p) p).dedup.length
  · rw [disparo_isSome_iff]
    right
    have found := oscila_of_ends ends varied
    have room := ends.length_le
    rw [List.length_append, tramo_length] at room
    rw [tramo_length] at found
    exact periodo_isSome least (by omega) found
  · have block : ∀ i, n < i + p → i ≤ n → huella dumps sha256 f i = huella dumps sha256 f n := by
      intro i near upto
      apply constant_of_dedup varied
      · exact mem_tramo.mpr ⟨i, by omega, rfl⟩
      · exact mem_tramo.mpr ⟨n, by omega, rfl⟩
    apply disparo_of_constant quiet long (h := huella dumps sha256 f n)
    exact constant_back (by omega) periodic block

variable (dumps sha256 g f)

/-- The history holds nothing but the last actions registered. -/
theorem historia_suffix (n : Nat) :
    historia dumps sha256 g f n <:+ tramo (huella dumps sha256 f) 0 n := by
  induction n with
  | zero => exact List.suffix_rfl
  | succ n ih =>
    by_cases tripped : (disparo dumps sha256 g f n).isSome = true
    · have cleared : historia dumps sha256 g f (n + 1) = [] := check_trip tripped
      rw [cleared]
      exact List.nil_suffix
    · rw [historia_succ tripped]
      exact registrada_suffix_of ih

/-- Every loop trips the guardrail, and what trips it is a loop. -/
theorem bucles_detectados :
    (∀ k p, 2 ≤ p → 2 * p ≤ g.windowSize →
      (∀ i, k ≤ i → i + p < k + max (2 * p) g.maxRepeats →
        huella dumps sha256 f (i + p) = huella dumps sha256 f i) →
      ∃ n, k ≤ n ∧ n < k + max (2 * p) g.maxRepeats ∧
        (disparo dumps sha256 g f n).isSome = true) ∧
    (∀ k, (∀ i, k ≤ i → i < k + g.maxRepeats →
        huella dumps sha256 f i = huella dumps sha256 f k) →
      ∃ n, k ≤ n ∧ n < k + g.maxRepeats ∧ (disparo dumps sha256 g f n).isSome = true) ∧
    ∀ n, (disparo dumps sha256 g f n).isSome = true →
      registrada dumps sha256 g f n <:+ tramo (huella dumps sha256 f) 0 (n + 1) ∧
      ((∃ h, List.replicate g.maxRepeats h <:+ registrada dumps sha256 g f n) ∨
        ∃ w, w ≠ [] ∧ w ++ w <:+ registrada dumps sha256 g f n) := by
  have some_repeats := g.repeats
  refine ⟨?_, ?_, ?_⟩
  · intro k p least fits periodic
    by_contra never
    push Not at never
    have last := disparo_of_periodic (n := k + max (2 * p) g.maxRepeats - 1) (k := k)
      (fun i low high => never i low (by omega)) least fits (by omega) (by omega)
      (fun i low high => periodic i low (by omega))
    exact never _ (by omega) (by omega) last
  · intro k same
    by_contra never
    push Not at never
    have last := disparo_of_constant (n := k + g.maxRepeats - 1) (k := k)
      (fun i low high => never i low (by omega)) (by omega)
      (fun i low high => same i low (by omega))
    exact never _ (by omega) (by omega) last
  · intro n tripped
    refine ⟨registrada_suffix_of (historia_suffix dumps sha256 g f n), ?_⟩
    cases (disparo_isSome_iff n).mp tripped with
    | inl repeated => exact .inl ((repite_iff g _).mp repeated)
    | inr cycle =>
      right
      obtain ⟨p, found⟩ := Option.isSome_iff_exists.mp cycle
      obtain ⟨least, fits, oscillates⟩ := periodo_some found
      obtain ⟨w, long, ends⟩ := oscila_ends fits oscillates
      refine ⟨w, ?_, ends⟩
      intro empty
      rw [empty, List.length_nil] at long
      omega

end

def alterna (n : Nat) : Accion Unit := ⟨if n % 2 = 0 then "leer" else "escribir", ()⟩

theorem bucles_detectados_alterna :
    ∃ n, 0 ≤ n ∧ n < 0 + max (2 * 2) 3 ∧
      (disparo (fun _ => "\x7b\x7d") id ⟨3, 6, by decide, by decide⟩ alterna n).isSome = true :=
  (bucles_detectados (fun _ => "\x7b\x7d") id ⟨3, 6, by decide, by decide⟩ alterna).1 0 2 (by decide)
    (by decide) (by
      intro i _ _
      rw [huella, huella, alterna, alterna, Nat.add_mod_right])

end LoopGuardrail
