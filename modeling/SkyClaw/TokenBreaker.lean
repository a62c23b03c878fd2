import Mathlib.Data.Rat.Defs
import Mathlib.Algebra.Order.Ring.Rat
import Mathlib.Logic.Function.Basic
import Mathlib.Tactic.Linarith
import SkyClaw.TransitionRuns

set_option linter.all false

/-!
The token circuit breaker under any number of concurrent chat rounds. A round
asks the breaker, calls the provider and reports back on some of its exits:
an answer that is not a dict, one that cannot be serialised and an exit before
the call leave the breaker without a report.
-/
namespace TokenBreaker
open TransitionRuns

structure TokenCircuitBreakerConfig where
  spikeThresholdTokens : Int := 50000
  windowBudgetTokens : Int := 200000
  windowDurationSeconds : Int := 300
  recoveryTimeoutSeconds : Int := 60

inductive BreakerState where
  | closed
  | opened
  | halfOpen
  deriving DecidableEq

structure TokenCircuitBreaker where
  state : BreakerState
  openedAt : ℚ
  windowStart : ℚ
  windowConsumed : Int
  halfOpenUsed : Bool

/-- The readings of the monotonic clock that one call can take, in order. -/
structure Lecturas where
  estado : ℚ
  ventana : ℚ
  corte : ℚ
  registro : ℚ

def Lecturas.Ordenadas (desde : ℚ) (r : Lecturas) : Prop :=
  desde ≤ r.estado ∧ r.estado ≤ r.ventana ∧ r.ventana ≤ r.corte ∧ r.corte ≤ r.registro

instance (desde : ℚ) (r : Lecturas) : Decidable (r.Ordenadas desde) := by
  unfold Lecturas.Ordenadas; infer_instance

variable (cfg : TokenCircuitBreakerConfig)

def TokenCircuitBreaker.nuevo (t : ℚ) : TokenCircuitBreaker :=
  { state := .closed, openedAt := 0, windowStart := t, windowConsumed := 0, halfOpenUsed := false }

/-- The `state` property: reading it is what leaves OPEN. -/
def leerState (t : ℚ) (b : TokenCircuitBreaker) : TokenCircuitBreaker :=
  match b.state with
  | .opened =>
    if (cfg.recoveryTimeoutSeconds : ℚ) ≤ t - b.openedAt then
      { b with state := .halfOpen, halfOpenUsed := false }
    else b
  | _ => b

def trip (t : ℚ) (b : TokenCircuitBreaker) : TokenCircuitBreaker :=
  { b with state := .opened, openedAt := t }

def maybeResetWindow (elapsed start : ℚ) (b : TokenCircuitBreaker) : TokenCircuitBreaker :=
  if (cfg.windowDurationSeconds : ℚ) ≤ elapsed - b.windowStart then
    { b with windowConsumed := 0, windowStart := start }
  else b

def checkRequest (estimatedTokens : Int) (r : Lecturas) (b : TokenCircuitBreaker) :
    Bool × TokenCircuitBreaker :=
  let b := leerState cfg r.estado b
  match b.state with
  | .closed =>
    if cfg.spikeThresholdTokens < estimatedTokens then (false, trip r.corte b)
    else
      let b := maybeResetWindow cfg r.estado r.ventana b
      if cfg.windowBudgetTokens < b.windowConsumed + estimatedTokens then (false, trip r.corte b)
      else (true, b)
  | .halfOpen => if b.halfOpenUsed then (false, b) else (true, { b with halfOpenUsed := true })
  | .opened => (false, b)

def recordResponse (tokensUsed : Int) (t : ℚ) (b : TokenCircuitBreaker) : TokenCircuitBreaker :=
  let b := { b with windowConsumed := b.windowConsumed + tokensUsed }
  match b.state with
  | .halfOpen =>
    if tokensUsed ≤ cfg.spikeThresholdTokens then { b with state := .closed, halfOpenUsed := false }
    else trip t b
  | _ => b

def recordFailure (t : ℚ) (b : TokenCircuitBreaker) : TokenCircuitBreaker :=
  match b.state with
  | .halfOpen => trip t b
  | _ => b

/-- How a round that was let through ends, up to its report to the breaker. -/
inductive Desenlace where
  /-- Cancelled at the provider lock, no provider, or an exception before the call. -/
  | sinLlamada
  /-- The provider call raised, timed out or was cancelled. -/
  | falla
  /-- The provider returned `None` or something that is not a dict. -/
  | noEsDict
  /-- A dict whose content `json.dumps` does not accept. -/
  | noSerializable
  | datos (responseTokens : Nat)
  deriving DecidableEq

def Desenlace.avisa : Desenlace → Bool
  | .falla | .datos _ => true
  | .sinLlamada | .noEsDict | .noSerializable => false

/-- What the round reports: `record_response`, `record_failure` or nothing. -/
def avisaAlBreaker (preCallTokens : Int) (t : ℚ) (b : TokenCircuitBreaker) :
    Desenlace → TokenCircuitBreaker
  | .datos n => recordResponse cfg (preCallTokens + n) t b
  | .falla => recordFailure t b
  | .sinLlamada | .noEsDict | .noSerializable => b

/-- A request that was let through and has not ended; `sonda` is the number of
    the HALF_OPEN period that admitted it, if one did. -/
structure Solicitud where
  preCallTokens : Int
  sonda : Option Nat
  deriving DecidableEq

/-- `periodo` counts the transitions to HALF_OPEN and `admitidas` the requests
    let through in the last one. -/
structure Estado where
  breaker : TokenCircuitBreaker
  ahora : ℚ
  vuelo : Nat → Option Solicitud
  periodo : Nat
  admitidas : Nat

inductive Evento where
  | pide (i : Nat) (preCallTokens : Int) (r : Lecturas)
  | acaba (i : Nat) (fin : Desenlace) (t : ℚ)

def Estado.inicial (t : ℚ) : Estado :=
  { breaker := .nuevo t, ahora := t, vuelo := fun _ => none, periodo := 0, admitidas := 0 }

/-- Whether going from `b` to `b'` has entered HALF_OPEN. -/
def entra (b b' : TokenCircuitBreaker) : Bool :=
  b.state != .halfOpen && b'.state == .halfOpen

def step (s : Estado) : Evento → Option Estado
  | .pide i n r =>
    if s.vuelo i = none ∧ r.Ordenadas s.ahora then
      match checkRequest cfg n r s.breaker with
      | (true, b) =>
        let periodo := if entra s.breaker b then s.periodo + 1 else s.periodo
        let antes := if entra s.breaker b then 0 else s.admitidas
        let sonda := b.state == .halfOpen
        some { breaker := b
               ahora := r.registro
               vuelo := Function.update s.vuelo i
                 (some ⟨n, if sonda then some periodo else none⟩)
               periodo := periodo
               admitidas := if sonda then antes + 1 else antes }
      | (false, b) =>
        -- the warning of the rejection reads the `state` property once more
        let b := leerState cfg r.registro b
        some { s with
          breaker := b
          ahora := r.registro
          periodo := if entra s.breaker b then s.periodo + 1 else s.periodo
          admitidas := if entra s.breaker b then 0 else s.admitidas }
    else none
  | .acaba i fin t =>
    match s.vuelo i with
    | some solicitud =>
      if s.ahora ≤ t then
        some { s with
          breaker := avisaAlBreaker cfg solicitud.preCallTokens t s.breaker fin
          ahora := t
          vuelo := Function.update s.vuelo i none }
      else none
    | none => none

/-- The request in flight that is the probe of the present HALF_OPEN. -/
def Estado.esSonda (s : Estado) (i : Nat) : Prop :=
  ∃ solicitud, s.vuelo i = some solicitud ∧ solicitud.sonda = some s.periodo

instance (s : Estado) (i : Nat) : Decidable (s.esSonda i) :=
  decidable_of_iff ((s.vuelo i).any (·.sonda == some s.periodo) = true) (by
    simp [Estado.esSonda, Option.any_eq_true])

/-- A report that arrives in HALF_OPEN is the probe's, and the probe reports. -/
def permitido (s : Estado) : Evento → Prop
  | .pide _ _ _ => True
  | .acaba i fin _ => s.breaker.state = .halfOpen → (fin.avisa = true ↔ s.esSonda i)

instance (s : Estado) (e : Evento) : Decidable (permitido s e) := by
  cases e <;> unfold permitido <;> infer_instance

/-- Some later request is let through: the next one, or else every request
    after some instant. -/
def AcabaAdmitiendo (s : Estado) : Prop :=
  ∀ i n r, s.vuelo i = none → r.Ordenadas s.ahora → ∃ t, step cfg s (.pide i n r) = some t ∧
    (t.vuelo i ≠ none ∨ ∃ plazo, ∀ i' n' r', t.vuelo i' = none → r'.Ordenadas t.ahora →
      plazo ≤ r'.estado → ∃ u, step cfg t (.pide i' n' r') = some u ∧ u.vuelo i' ≠ none)

structure SinAtasco (s : Estado) : Prop where
  unica : s.breaker.state = .halfOpen → s.admitidas ≤ 1
  libre : (∀ i, s.vuelo i = none) → ¬ (s.breaker.state = .halfOpen ∧ s.breaker.halfOpenUsed = true)
  admite : (∀ i, s.vuelo i = none) → AcabaAdmitiendo cfg s

/-- Only the probe's own outcome moves the breaker out of HALF_OPEN. -/
def SaleLaSonda (s : Estado) (e : Evento) (t : Estado) : Prop :=
  s.breaker.state = .halfOpen → t.breaker.state ≠ .halfOpen →
    ∃ i fin reloj, e = .acaba i fin reloj ∧ s.esSonda i

section Breaker
variable {cfg} {b : TokenCircuitBreaker} {t : ℚ} {r : Lecturas} {n : Int}

theorem leerState_cases (cfg : TokenCircuitBreakerConfig) (t : ℚ) (b : TokenCircuitBreaker) :
    leerState cfg t b = b ∨ b.state = .opened ∧ (cfg.recoveryTimeoutSeconds : ℚ) ≤ t - b.openedAt ∧
      leerState cfg t b = { b with state := .halfOpen, halfOpenUsed := false } := by
  unfold leerState
  split
  · next opened =>
    split
    · next elapsed => exact .inr ⟨opened, elapsed, rfl⟩
    · exact .inl rfl
  · exact .inl rfl

theorem leerState_opened (opened : b.state = .opened)
    (elapsed : (cfg.recoveryTimeoutSeconds : ℚ) ≤ t - b.openedAt) :
    leerState cfg t b = { b with state := .halfOpen, halfOpenUsed := false } := by
  simp [leerState, opened, elapsed]

theorem maybeResetWindow_state (elapsed start : ℚ) :
    (maybeResetWindow cfg elapsed start b).state = b.state := by
  unfold maybeResetWindow
  split <;> rfl

/-- A request is let through from CLOSED, or as the probe of HALF_OPEN. -/
theorem checkRequest_true (admitted : (checkRequest cfg n r b).1 = true) :
    (b.state = .closed ∧ (checkRequest cfg n r b).2.state = .closed) ∨
    ((leerState cfg r.estado b).state = .halfOpen ∧
      (leerState cfg r.estado b).halfOpenUsed = false ∧
      (checkRequest cfg n r b).2 = { leerState cfg r.estado b with halfOpenUsed := true }) := by
  unfold checkRequest at admitted ⊢
  cases leerState_cases cfg r.estado b with
  | inl same =>
    simp only [same] at admitted ⊢
    cases state : b.state with
    | closed =>
      left
      simp only [state] at admitted ⊢
      split at admitted
      · cases admitted
      · next within =>
        rw [if_neg within]
        split at admitted
        · cases admitted
        · next affordable =>
          rw [if_neg affordable]
          exact ⟨trivial, (maybeResetWindow_state _ _).trans state⟩
    | opened => simp [state] at admitted
    | halfOpen =>
      right
      simp only [state] at admitted ⊢
      split at admitted
      · cases admitted
      · next unused => exact ⟨trivial, by simpa using unused, by simp [unused]⟩
  | inr moved =>
    right
    obtain ⟨_, _, now_half⟩ := moved
    simp [now_half]

/-- A rejected request leaves the breaker as reading `state` left it, or trips it. -/
theorem checkRequest_false (rejected : (checkRequest cfg n r b).1 = false) :
    (b.state = .closed ∧ (checkRequest cfg n r b).2.state = .opened) ∨
    (b.state = .opened ∧ (checkRequest cfg n r b).2 = b) ∨
    (b.state = .halfOpen ∧ b.halfOpenUsed = true ∧ (checkRequest cfg n r b).2 = b) := by
  unfold checkRequest at rejected ⊢
  cases leerState_cases cfg r.estado b with
  | inl same =>
    simp only [same] at rejected ⊢
    cases state : b.state with
    | closed =>
      left
      simp only [state] at rejected ⊢
      refine ⟨trivial, ?_⟩
      split
      · rfl
      · next within =>
        rw [if_neg within] at rejected
        split
        · rfl
        · next affordable => simp [affordable] at rejected
    | opened => right; left; simp
    | halfOpen =>
      right; right
      simp only [state] at rejected ⊢
      split at rejected
      · next used => simp [used]
      · cases rejected
  | inr moved =>
    obtain ⟨_, _, now_half⟩ := moved
    simp [now_half] at rejected

/-- OPEN after its recovery timeout, and HALF_OPEN unspent, let any request through. -/
theorem checkRequest_recovered
    (ready : b.state = .opened ∧ b.openedAt + cfg.recoveryTimeoutSeconds ≤ r.estado ∨
      b.state = .halfOpen ∧ b.halfOpenUsed = false) : (checkRequest cfg n r b).1 = true := by
  cases ready with
  | inl waited =>
    have elapsed : (cfg.recoveryTimeoutSeconds : ℚ) ≤ r.estado - b.openedAt := by linarith [waited.2]
    simp [checkRequest, leerState_opened waited.1 elapsed]
  | inr unspent => simp [checkRequest, leerState, unspent.1, unspent.2]

theorem recordResponse_state (not_half : b.state ≠ .halfOpen) :
    (recordResponse cfg n t b).state = b.state := by
  cases state : b.state with
  | halfOpen => exact absurd state not_half
  | closed => simp [recordResponse, state]
  | opened => simp [recordResponse, state]

theorem recordFailure_state (not_half : b.state ≠ .halfOpen) : recordFailure t b = b := by
  unfold recordFailure
  split
  · next half => exact absurd half not_half
  · rfl

theorem avisaAlBreaker_silent {fin : Desenlace} (silent : fin.avisa = false) :
    avisaAlBreaker cfg n t b fin = b := by
  cases fin with
  | sinLlamada => rfl
  | noEsDict => rfl
  | noSerializable => rfl
  | falla => cases silent
  | datos _ => cases silent

/-- Every report that arrives in HALF_OPEN leaves it. -/
theorem avisaAlBreaker_leaves {fin : Desenlace} (half : b.state = .halfOpen)
    (reports : fin.avisa = true) : (avisaAlBreaker cfg n t b fin).state ≠ .halfOpen := by
  cases fin with
  | sinLlamada => cases reports
  | noEsDict => cases reports
  | noSerializable => cases reports
  | falla => simp [avisaAlBreaker, recordFailure, half, trip]
  | datos m =>
    simp only [avisaAlBreaker, recordResponse, half]
    split <;> simp [trip]

/-- No report enters HALF_OPEN. -/
theorem avisaAlBreaker_not_half {fin : Desenlace} (not_half : b.state ≠ .halfOpen) :
    (avisaAlBreaker cfg n t b fin).state ≠ .halfOpen := by
  cases fin with
  | sinLlamada => exact not_half
  | noEsDict => exact not_half
  | noSerializable => exact not_half
  | falla =>
    have same : avisaAlBreaker cfg n t b .falla = b := recordFailure_state not_half
    rw [same]
    exact not_half
  | datos m =>
    have same : (avisaAlBreaker cfg n t b (.datos m)).state = b.state := recordResponse_state not_half
    rw [same]
    exact not_half

end Breaker

section Rondas
variable {cfg} {s t : Estado} {e : Evento}

/-- The two ways a request can go. -/
theorem step_pide {i : Nat} {n : Int} {r : Lecturas} (moved : step cfg s (.pide i n r) = some t) :
    s.vuelo i = none ∧ r.Ordenadas s.ahora ∧
    (((checkRequest cfg n r s.breaker).1 = true ∧ ∃ b, b = (checkRequest cfg n r s.breaker).2 ∧
        t.breaker = b ∧
        t.periodo = (if entra s.breaker b then s.periodo + 1 else s.periodo) ∧
        t.vuelo = Function.update s.vuelo i
          (some ⟨n, if b.state = .halfOpen then some t.periodo else none⟩) ∧
        t.admitidas = (if entra s.breaker b then 0 else s.admitidas)
          + (if b.state = .halfOpen then 1 else 0)) ∨
     ((checkRequest cfg n r s.breaker).1 = false ∧
        ∃ b, b = leerState cfg r.registro (checkRequest cfg n r s.breaker).2 ∧
        t.breaker = b ∧ t.ahora = r.registro ∧
        t.periodo = (if entra s.breaker b then s.periodo + 1 else s.periodo) ∧
        t.vuelo = s.vuelo ∧
        t.admitidas = (if entra s.breaker b then 0 else s.admitidas))) := by
  simp only [step] at moved
  split at moved
  · next enabled =>
    refine ⟨enabled.1, enabled.2, ?_⟩
    generalize checked : checkRequest cfg n r s.breaker = answer at moved ⊢
    obtain ⟨ok, b⟩ := answer
    cases ok with
    | true =>
      left
      simp only [Option.some.injEq] at moved
      refine ⟨rfl, b, rfl, ?_⟩
      subst moved
      refine ⟨rfl, rfl, ?_, ?_⟩
      · simp
      · by_cases half : b.state = .halfOpen <;> simp [half]
    | false =>
      right
      simp only [Option.some.injEq] at moved
      refine ⟨rfl, _, rfl, ?_⟩
      subst moved
      exact ⟨rfl, rfl, rfl, rfl, rfl⟩
  · cases moved

theorem step_acaba {i : Nat} {fin : Desenlace} {reloj : ℚ}
    (moved : step cfg s (.acaba i fin reloj) = some t) :
    ∃ solicitud, s.vuelo i = some solicitud ∧ s.ahora ≤ reloj ∧
      t = { s with
        breaker := avisaAlBreaker cfg solicitud.preCallTokens reloj s.breaker fin
        ahora := reloj
        vuelo := Function.update s.vuelo i none } := by
  simp only [step] at moved
  split at moved
  · next solicitud flying =>
    split at moved
    · next later => exact ⟨solicitud, flying, later, (Option.some.inj moved).symm⟩
    · cases moved
  · cases moved

/-- The invariant: while HALF_OPEN is unspent nobody holds its probe, while it is
    spent exactly one request in flight does, and outside HALF_OPEN nobody does. -/
structure Coherente (s : Estado) : Prop where
  pasadas : ∀ i solicitud n, s.vuelo i = some solicitud → solicitud.sonda = some n → n ≤ s.periodo
  fuera : s.breaker.state ≠ .halfOpen → ∀ i, ¬ s.esSonda i
  entera : s.breaker.state = .halfOpen → s.breaker.halfOpenUsed = false →
    s.admitidas = 0 ∧ ∀ i, ¬ s.esSonda i
  gastada : s.breaker.state = .halfOpen → s.breaker.halfOpenUsed = true →
    s.admitidas = 1 ∧ ∃ i, s.esSonda i ∧ ∀ j, s.esSonda j → j = i

theorem coherente_inicial (t : ℚ) : Coherente (.inicial t) where
  pasadas i solicitud n flying := by cases flying
  fuera _ i sonda := by
    obtain ⟨_, flying, _⟩ := sonda
    cases flying
  entera half := by cases half
  gastada half := by cases half

/-- Requests admitted before the breaker enters HALF_OPEN are not its probe. -/
theorem Coherente.no_sonda_nueva (co : Coherente s) {i : Nat} {solicitud : Solicitud}
    (flying : s.vuelo i = some solicitud) : solicitud.sonda ≠ some (s.periodo + 1) := by
  intro future
  have := co.pasadas i solicitud _ flying future
  omega

/-- A rejection keeps everybody in flight and can only enter an unspent HALF_OPEN. -/
theorem Coherente.rechaza (co : Coherente s) {b : TokenCircuitBreaker}
    (which : b.state ≠ .halfOpen ∧ s.breaker.state ≠ .halfOpen ∨
      (b.state = .halfOpen ∧ b.halfOpenUsed = false ∧ s.breaker.state ≠ .halfOpen) ∨
      (b = s.breaker ∧ s.breaker.state = .halfOpen))
    (breaker : t.breaker = b)
    (periodo : t.periodo = (if entra s.breaker b then s.periodo + 1 else s.periodo))
    (vuelo : t.vuelo = s.vuelo)
    (admitidas : t.admitidas = (if entra s.breaker b then 0 else s.admitidas)) : Coherente t := by
  obtain ⟨out, was_out⟩ | ⟨half, unused, was_out⟩ | ⟨rfl, half⟩ := which
  · have stays : entra s.breaker b = false := by simp [entra, out]
    simp only [stays, Bool.false_eq_true, if_false] at periodo admitidas
    have same : ∀ i, t.esSonda i ↔ s.esSonda i := by
      intro i
      simp [Estado.esSonda, vuelo, periodo]
    refine ⟨?_, ?_, ?_, ?_⟩
    · rw [vuelo, periodo]
      exact co.pasadas
    · intro _ i sonda
      exact co.fuera was_out i ((same i).mp sonda)
    · intro now_half
      exact absurd (breaker ▸ now_half) out
    · intro now_half
      exact absurd (breaker ▸ now_half) out
  · have enters : entra s.breaker b = true := by simp [entra, half, was_out]
    simp only [enters, if_true] at periodo admitidas
    have none_yet : ∀ i, ¬ t.esSonda i := by
      intro i sonda
      obtain ⟨solicitud, flying, now⟩ := sonda
      rw [vuelo] at flying
      rw [periodo] at now
      exact co.no_sonda_nueva flying now
    refine ⟨?_, fun _ => none_yet, fun _ _ => ⟨admitidas, none_yet⟩, ?_⟩
    · intro i solicitud n flying sonda
      rw [vuelo] at flying
      have := co.pasadas i solicitud n flying sonda
      omega
    · intro _ used
      rw [breaker, unused] at used
      cases used
  · have stays : entra s.breaker s.breaker = false := by simp [entra, half]
    simp only [stays, Bool.false_eq_true, if_false] at periodo admitidas
    have same : ∀ i, t.esSonda i ↔ s.esSonda i := by
      intro i
      simp [Estado.esSonda, vuelo, periodo]
    refine ⟨?_, ?_, ?_, ?_⟩
    · rw [vuelo, periodo]
      exact co.pasadas
    · rw [breaker]
      intro out
      exact absurd half out
    · simpa only [breaker, admitidas, same] using co.entera
    · simpa only [breaker, admitidas, same] using co.gastada

theorem Coherente.admite_cerrado (co : Coherente s) {i : Nat} {solicitud : Solicitud}
    (out : t.breaker.state ≠ .halfOpen) (was_out : s.breaker.state ≠ .halfOpen)
    (suelta : solicitud.sonda = none) (periodo : t.periodo = s.periodo)
    (vuelo : t.vuelo = Function.update s.vuelo i (some solicitud)) : Coherente t := by
  have old : ∀ j other, t.vuelo j = some other → other = solicitud ∨ s.vuelo j = some other := by
    intro j other flying
    rw [vuelo, Function.update_apply] at flying
    split at flying
    · exact .inl (Option.some.inj flying).symm
    · exact .inr flying
  refine ⟨?_, ?_, fun half => absurd half out, fun half => absurd half out⟩
  · intro j other n flying sonda
    cases old j other flying with
    | inl new =>
      rw [new, suelta] at sonda
      cases sonda
    | inr before => exact periodo ▸ co.pasadas j other n before sonda
  · intro _ j sonda
    obtain ⟨other, flying, now⟩ := sonda
    cases old j other flying with
    | inl new =>
      rw [new, suelta] at now
      cases now
    | inr before => exact co.fuera was_out j ⟨other, before, periodo ▸ now⟩

/-- Letting the probe through spends HALF_OPEN: before it nobody was the probe. -/
theorem Coherente.admite_sonda (co : Coherente s) {i : Nat} {solicitud : Solicitud}
    (half : t.breaker.state = .halfOpen) (used : t.breaker.halfOpenUsed = true)
    (sonda : solicitud.sonda = some t.periodo) (later : s.periodo ≤ t.periodo)
    (nobody : ∀ j other, s.vuelo j = some other → other.sonda ≠ some t.periodo)
    (admitidas : t.admitidas = 1)
    (vuelo : t.vuelo = Function.update s.vuelo i (some solicitud)) : Coherente t := by
  have old : ∀ j other, t.vuelo j = some other → j = i ∧ other = solicitud ∨ s.vuelo j = some other := by
    intro j other flying
    rw [vuelo, Function.update_apply] at flying
    split at flying
    · next same => exact .inl ⟨same, (Option.some.inj flying).symm⟩
    · exact .inr flying
  refine ⟨?_, fun out => absurd half out, ?_, ?_⟩
  · intro j other n flying when_in
    cases old j other flying with
    | inl new =>
      rw [new.2, sonda] at when_in
      exact (Option.some.inj when_in).ge
    | inr before => exact (co.pasadas j other n before when_in).trans later
  · intro _ unused
    rw [used] at unused
    cases unused
  · intro _ _
    refine ⟨admitidas, i, ⟨solicitud, ?_, sonda⟩, ?_⟩
    · rw [vuelo, Function.update_self]
    · intro j now
      obtain ⟨other, flying, is_probe⟩ := now
      cases old j other flying with
      | inl new => exact new.1
      | inr before => exact absurd is_probe (nobody j other before)

theorem Coherente.pide (co : Coherente s) {i : Nat} {n : Int} {r : Lecturas}
    (moved : step cfg s (.pide i n r) = some t) : Coherente t := by
  obtain ⟨_, _, admitted | rejected⟩ := step_pide moved
  · obtain ⟨ok, b, same_b, breaker, periodo, vuelo, admitidas⟩ := admitted
    obtain ⟨was_closed, closed⟩ | ⟨half, unused, spent⟩ := checkRequest_true ok
    · rw [← same_b] at closed
      have stays : entra s.breaker b = false := by simp [entra, closed]
      simp only [stays, closed, Bool.false_eq_true, if_false, reduceCtorEq] at periodo vuelo
      exact co.admite_cerrado (by simp [breaker, closed]) (by simp [was_closed]) rfl periodo vuelo
    · rw [← same_b] at spent
      have now_half : b.state = .halfOpen := by rw [spent]; exact half
      simp only [now_half, if_true] at vuelo admitidas
      have used : t.breaker.halfOpenUsed = true := by rw [breaker, spent]
      have in_half : t.breaker.state = .halfOpen := by rw [breaker, now_half]
      cases leerState_cases cfg r.estado s.breaker with
      | inl same =>
        rw [same] at half unused
        have stays : entra s.breaker b = false := by simp [entra, half]
        simp only [stays, Bool.false_eq_true, if_false] at periodo admitidas
        obtain ⟨none_yet, nobody⟩ := co.entera half unused
        refine co.admite_sonda in_half used rfl periodo.ge ?_ (by omega) vuelo
        intro j other flying is_probe
        exact nobody j ⟨other, flying, periodo ▸ is_probe⟩
      | inr waited =>
        obtain ⟨was_opened, _, _⟩ := waited
        have enters : entra s.breaker b = true := by simp [entra, now_half, was_opened]
        simp only [enters, if_true] at periodo admitidas
        refine co.admite_sonda in_half used rfl (by omega) ?_ admitidas vuelo
        intro j other flying
        rw [periodo]
        exact co.no_sonda_nueva flying
  · obtain ⟨no, b, same_b, breaker, _, periodo, vuelo, admitidas⟩ := rejected
    refine co.rechaza ?_ breaker periodo vuelo admitidas
    have reading := leerState_cases cfg r.registro (checkRequest cfg n r s.breaker).2
    rw [← same_b] at reading
    obtain ⟨was_closed, tripped⟩ | ⟨was_opened, same⟩ | ⟨half, _, same⟩ := checkRequest_false no
    · cases reading with
      | inl unchanged => exact .inl ⟨by simp [unchanged, tripped], by simp [was_closed]⟩
      | inr waited => exact .inr (.inl ⟨by simp [waited.2.2], by simp [waited.2.2], by simp [was_closed]⟩)
    · cases reading with
      | inl unchanged => exact .inl ⟨by simp [unchanged, same, was_opened], by simp [was_opened]⟩
      | inr waited => exact .inr (.inl ⟨by simp [waited.2.2], by simp [waited.2.2], by simp [was_opened]⟩)
    · cases reading with
      | inl unchanged => exact .inr (.inr ⟨unchanged.trans same, half⟩)
      | inr waited =>
        rw [same, half] at waited
        cases waited.1

theorem Coherente.acaba (co : Coherente s) {i : Nat} {fin : Desenlace} {reloj : ℚ}
    (ok : permitido s (.acaba i fin reloj)) (moved : step cfg s (.acaba i fin reloj) = some t) :
    Coherente t := by
  obtain ⟨solicitud, flying, _, rfl⟩ := step_acaba moved
  have old : ∀ j other, Function.update s.vuelo i none j = some other → j ≠ i ∧ s.vuelo j = some other := by
    intro j other found
    rw [Function.update_apply] at found
    split at found
    · cases found
    · next different => exact ⟨different, found⟩
  have pasadas : ∀ j other n, Function.update s.vuelo i none j = some other → other.sonda = some n →
      n ≤ s.periodo := by
    intro j other n found sonda
    exact co.pasadas j other n (old j other found).2 sonda
  by_cases half : s.breaker.state = .halfOpen
  · cases reports : fin.avisa with
    | true =>
      -- the probe's own report: nobody else holds the probe afterwards
      have leaves := @avisaAlBreaker_leaves cfg s.breaker reloj solicitud.preCallTokens fin half reports
      refine ⟨pasadas, ?_, fun again => absurd again leaves, fun again => absurd again leaves⟩
      intro _ j sonda
      obtain ⟨other, found, is_probe⟩ := sonda
      obtain ⟨different, before⟩ := old j other found
      have sonda_i : s.esSonda i := (ok half).mp reports
      have used : s.breaker.halfOpenUsed = true := by
        by_contra unused
        exact (co.entera half (by simpa using unused)).2 i sonda_i
      obtain ⟨_, k, _, only⟩ := co.gastada half used
      exact different ((only j ⟨other, before, is_probe⟩).trans (only i sonda_i).symm)
    | false =>
      have not_probe : ¬ s.esSonda i := by
        intro sonda
        have := (ok half).mpr sonda
        rw [reports] at this
        cases this
      simp only [avisaAlBreaker_silent reports]
      have other_probe : ∀ j, (∃ other, Function.update s.vuelo i none j = some other ∧
          other.sonda = some s.periodo) ↔ s.esSonda j := by
        intro j
        constructor
        · intro sonda
          obtain ⟨other, found, is_probe⟩ := sonda
          exact ⟨other, (old j other found).2, is_probe⟩
        · intro sonda
          obtain ⟨other, found, is_probe⟩ := sonda
          refine ⟨other, ?_, is_probe⟩
          rw [Function.update_apply, if_neg, found]
          intro same
          exact not_probe (same ▸ ⟨other, found, is_probe⟩)
      refine ⟨pasadas, fun out => absurd half out, ?_, ?_⟩
      · simpa only [Estado.esSonda, other_probe] using co.entera
      · simpa only [Estado.esSonda, other_probe] using co.gastada
  · have out := @avisaAlBreaker_not_half cfg s.breaker reloj solicitud.preCallTokens fin half
    refine ⟨pasadas, ?_, fun again => absurd again out, fun again => absurd again out⟩
    intro _ j sonda
    obtain ⟨other, found, is_probe⟩ := sonda
    exact co.fuera half j ⟨other, (old j other found).2, is_probe⟩

theorem Coherente.step (co : Coherente s) (ok : permitido s e) (moved : step cfg s e = some t) :
    Coherente t := by
  cases e with
  | pide i n r => exact co.pide moved
  | acaba i fin reloj => exact co.acaba ok moved

theorem step_pide_admite {i : Nat} {n : Int} {r : Lecturas} (idle : s.vuelo i = none)
    (later : r.Ordenadas s.ahora) (admitted : (checkRequest cfg n r s.breaker).1 = true) :
    ∃ u, step cfg s (.pide i n r) = some u ∧ u.vuelo i ≠ none := by
  simp only [step, idle, later, and_self, if_true]
  generalize checkRequest cfg n r s.breaker = answer at admitted ⊢
  obtain ⟨ok, b⟩ := answer
  cases admitted
  exact ⟨_, rfl, by simp⟩

theorem step_pide_rechaza {i : Nat} {n : Int} {r : Lecturas} (idle : s.vuelo i = none)
    (later : r.Ordenadas s.ahora) (rejected : (checkRequest cfg n r s.breaker).1 = false) :
    ∃ u, step cfg s (.pide i n r) = some u ∧
      u.breaker = leerState cfg r.registro (checkRequest cfg n r s.breaker).2 := by
  simp only [step, idle, later, and_self, if_true]
  generalize checkRequest cfg n r s.breaker = answer at rejected ⊢
  obtain ⟨ok, b⟩ := answer
  cases rejected
  exact ⟨_, rfl, rfl⟩

/-- A breaker whose HALF_OPEN is not spent lets the next request through, or is
    left in a state that recovers by itself. -/
theorem acabaAdmitiendo (fresh : ¬ (s.breaker.state = .halfOpen ∧ s.breaker.halfOpenUsed = true)) :
    AcabaAdmitiendo cfg s := by
  intro i n r idle later
  cases admitted : (checkRequest cfg n r s.breaker).1 with
  | true =>
    obtain ⟨u, moved, flying⟩ := step_pide_admite idle later admitted
    exact ⟨u, moved, .inl flying⟩
  | false =>
    obtain ⟨u, moved, breaker⟩ := step_pide_rechaza idle later admitted
    refine ⟨u, moved, .inr ?_⟩
    have opened : (checkRequest cfg n r s.breaker).2.state = .opened := by
      obtain ⟨_, tripped⟩ | ⟨was_opened, same⟩ | spent := checkRequest_false admitted
      · exact tripped
      · rw [same, was_opened]
      · exact absurd ⟨spent.1, spent.2.1⟩ fresh
    refine ⟨(checkRequest cfg n r s.breaker).2.openedAt + cfg.recoveryTimeoutSeconds, ?_⟩
    intro j m r' idle' later' waited
    refine step_pide_admite idle' later' (checkRequest_recovered ?_)
    rw [breaker]
    obtain same | ⟨_, _, now_half⟩ :=
      leerState_cases cfg r.registro (checkRequest cfg n r s.breaker).2
    · rw [same]
      exact .inl ⟨opened, waited⟩
    · rw [now_half]
      exact .inr ⟨rfl, rfl⟩

theorem Coherente.sinAtasco (co : Coherente s) : SinAtasco cfg s := by
  have libre : (∀ i, s.vuelo i = none) →
      ¬ (s.breaker.state = .halfOpen ∧ s.breaker.halfOpenUsed = true) := by
    intro idle spent
    obtain ⟨_, i, sonda, _⟩ := co.gastada spent.1 spent.2
    obtain ⟨solicitud, flying, _⟩ := sonda
    rw [idle i] at flying
    cases flying
  refine ⟨?_, libre, fun idle => acabaAdmitiendo (libre idle)⟩
  intro half
  cases used : s.breaker.halfOpenUsed with
  | false => exact (co.entera half used).1.le.trans (by omega)
  | true => exact (co.gastada half used).1.le

/-- A request never leaves HALF_OPEN, and the only report allowed there is the probe's. -/
theorem sale_la_sonda (ok : permitido s e) (moved : step cfg s e = some t) : SaleLaSonda s e t := by
  intro half left_it
  cases e with
  | pide i n r =>
    obtain ⟨_, _, admitted | rejected⟩ := step_pide moved
    · obtain ⟨ok', b, same_b, breaker, _⟩ := admitted
      obtain ⟨was_closed, _⟩ | ⟨still, _, spent⟩ := checkRequest_true ok'
      · simp [was_closed] at half
      · rw [← same_b] at spent
        exact absurd (by rw [breaker, spent]; exact still) left_it
    · obtain ⟨no, b, same_b, breaker, _⟩ := rejected
      obtain ⟨was_closed, _⟩ | ⟨was_opened, _⟩ | ⟨_, _, same⟩ := checkRequest_false no
      · simp [was_closed] at half
      · simp [was_opened] at half
      · rw [same] at same_b
        have unchanged : b = s.breaker := by
          rw [same_b]
          simp [leerState, half]
        exact absurd (by rw [breaker, unchanged]; exact half) left_it
  | acaba i fin reloj =>
    refine ⟨i, fin, reloj, rfl, ?_⟩
    obtain ⟨solicitud, _, _, rfl⟩ := step_acaba moved
    cases reports : fin.avisa with
    | true => exact (ok half).mp reports
    | false =>
      rw [avisaAlBreaker_silent reports] at left_it
      exact absurd half left_it

end Rondas

/-- In every run whose steps all meet `permitido`. -/
theorem sonda_unica (cfg : TokenCircuitBreakerConfig) {s : Estado}
    (reached : Reaches (step cfg) (fun s => ∃ t, s = .inicial t) permitido s) :
    SinAtasco cfg s ∧
      ∀ e t, permitido s e → step cfg s e = some t → SaleLaSonda s e t := by
  have co : Coherente s := by
    refine reached.invariant ?_ ?_
    · intro u first
      obtain ⟨t, rfl⟩ := first
      exact coherente_inicial t
    · intro u e t before ok moved
      exact before.step ok moved
  exact ⟨co.sinAtasco, fun e t ok moved => sale_la_sonda ok moved⟩

def fijas (t : ℚ) : Lecturas := ⟨t, t, t, t⟩

/-- A spike trips the breaker; after the timeout a probe answers and closes it. -/
def rondaSana : List Evento :=
  [.pide 0 60000 (fijas 1), .pide 1 100 (fijas 100), .acaba 1 (.datos 10) 101, .pide 2 5 (fijas 102)]

theorem ronda_sana :
    ∃ s, run (restricted (step {}) fun s e => permitido s e) (.inicial 0) rondaSana = some s ∧
      SinAtasco {} s ∧ s.breaker.state = .closed ∧ s.vuelo 2 = some ⟨5, none⟩ := by
  have ran : (run (restricted (step {}) fun s e => permitido s e) (.inicial 0) rondaSana).isSome = true := by
    decide +kernel
  obtain ⟨s, done⟩ := Option.isSome_iff_exists.mp ran
  have looks : (run (restricted (step {}) fun s e => permitido s e) (.inicial 0) rondaSana).map
      (fun s => (s.breaker.state, s.vuelo 2)) = some (.closed, some ⟨5, none⟩) := by
    decide +kernel
  rw [done, Option.map_some, Option.some.injEq, Prod.mk.injEq] at looks
  have reached : Reaches (step {}) (fun s => ∃ t, s = .inicial t) permitido s :=
    (Reaches.of_restricted_run (.start ⟨0, rfl⟩) done).mono fun _ _ ok => of_decide_eq_true ok
  exact ⟨s, done, (sonda_unica {} reached).1, looks⟩

/-- The probe's answer is `None`. -/
def sondaMuda : List Evento :=
  [.pide 0 60000 (fijas 1), .pide 1 100 (fijas 100), .acaba 1 .noEsDict 101]

/-- Request 0 is admitted, request 1 trips the breaker, request 2 is the probe
    and the answer to request 0 arrives. -/
def respuestaTardia : List Evento :=
  [.pide 0 100 (fijas 1), .pide 1 60000 (fijas 2), .pide 2 100 (fijas 100), .acaba 0 (.datos 10) 101]

/-- A round touches no flight but its own. -/
theorem vuelo_ajeno {cfg : TokenCircuitBreakerConfig} {s t : Estado} {es : List Evento} {i : Nat}
    (others : ∀ e ∈ es, match e with | .pide j _ _ => j ≠ i | .acaba j _ _ => j ≠ i)
    (ran : run (step cfg) s es = some t) : t.vuelo i = s.vuelo i := by
  induction es generalizing s with
  | nil =>
    cases ran
    rfl
  | cons e es ih =>
    rw [List.forall_mem_cons] at others
    obtain ⟨u, moved, rest⟩ := Option.bind_eq_some_iff.mp ran
    rw [ih others.2 rest]
    cases e with
    | pide j n r =>
      have different : i ≠ j := Ne.symm others.1
      obtain ⟨_, _, admitted | rejected⟩ := step_pide moved
      · obtain ⟨_, _, _, _, _, vuelo, _⟩ := admitted
        rw [vuelo, Function.update_of_ne different]
      · obtain ⟨_, _, _, _, _, _, vuelo, _⟩ := rejected
        rw [vuelo]
    | acaba j fin reloj =>
      have different : i ≠ j := Ne.symm others.1
      obtain ⟨_, _, _, rfl⟩ := step_acaba moved
      exact Function.update_of_ne different _ _

/-- (1) With nothing in flight the breaker stays HALF_OPEN with its probe spent.
    (2) The answer to a request admitted before the trip closes the breaker
    while the probe is still waiting. -/
theorem sonda_atascada :
    (∃ s, run (step {}) (.inicial 0) sondaMuda = some s ∧ (∀ i, s.vuelo i = none) ∧
      s.breaker.state = .halfOpen ∧ s.breaker.halfOpenUsed = true) ∧
    (run (step {}) (.inicial 0) (respuestaTardia.take 3)).map
        (fun s => (s.breaker.state, decide (s.esSonda 0), decide (s.esSonda 2))) =
      some (.halfOpen, false, true) ∧
    (run (step {}) (.inicial 0) respuestaTardia).map
        (fun s => (s.breaker.state, decide (s.esSonda 2))) = some (.closed, true) := by
  refine ⟨?_, by decide +kernel, by decide +kernel⟩
  have looks : (run (step {}) (.inicial 0) sondaMuda).map
      (fun s => (s.breaker.state, s.breaker.halfOpenUsed, s.vuelo 0, s.vuelo 1)) =
        some (.halfOpen, true, none, none) := by
    decide +kernel
  obtain ⟨s, done, same⟩ := Option.map_eq_some_iff.mp looks
  simp only [Prod.mk.injEq] at same
  obtain ⟨half, used, first, second⟩ := same
  refine ⟨s, done, ?_, half, used⟩
  intro i
  by_cases zero : i = 0
  · exact zero ▸ first
  by_cases one : i = 1
  · exact one ▸ second
  rw [vuelo_ajeno (i := i) ?_ done]
  · rfl
  · simp only [sondaMuda, List.forall_mem_cons]
    exact ⟨Ne.symm zero, Ne.symm one, Ne.symm one, nofun⟩

end TokenBreaker
