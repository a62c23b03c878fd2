import SkyClaw.VfsSessions

set_option linter.all false

/-!
The veto on rollback along a session. Which exceptions a step may mark or link,
what holds of the futures and of the tasks, and what no step takes back once
the driver is done.
-/
namespace VfsSession
open ExceptionChains TransitionRuns

variable {h k : Heap Datos} {i j : Nat} {s t : Estado}

/-! Exceptions that a step may mark or link -/

/-- From `h` to `k` only the objects in `toca` are marked or get a link. -/
def Fuera (toca : Nat → Prop) (h k : Heap Datos) : Prop :=
  ∀ (i : Nat) (x : Excepcion Datos), h[i]? = some x → ∃ y : Excepcion Datos, k[i]? = some y ∧
    y.carga.clase = x.carga.clase ∧ y.carga.mensaje = x.carga.mensaje ∧
    (x.carga.veta = true → y.carga.veta = true) ∧
    (¬ toca i → y.carga = x.carga ∧ (x.siguiente = none → y.siguiente = none))

theorem Fuera.refl (toca : Nat → Prop) (h : Heap Datos) : Fuera toca h h :=
  fun _ x at_ => ⟨x, at_, rfl, rfl, fun v => v, fun _ => ⟨rfl, fun n => n⟩⟩

theorem Fuera.trans {a b : Nat → Prop} {l : Heap Datos} (first : Fuera a h k) (second : Fuera b k l) :
    Fuera (fun i => a i ∨ b i) h l := by
  intro i x at_
  obtain ⟨y, at_y, clase, mensaje, veta, fuera⟩ := first i x at_
  obtain ⟨z, at_z, clase', mensaje', veta', fuera'⟩ := second i y at_y
  refine ⟨z, at_z, clase'.trans clase, mensaje'.trans mensaje, fun v => veta' (veta v), fun out => ?_⟩
  obtain ⟨same, next⟩ := fuera fun mem => out (.inl mem)
  obtain ⟨same', next'⟩ := fuera' fun mem => out (.inr mem)
  exact ⟨same'.trans same, fun n => next' (next n)⟩

theorem Fuera.mono {a b : Nat → Prop} (sub : ∀ i, a i → b i) (f : Fuera a h k) : Fuera b h k := by
  intro i x at_
  obtain ⟨y, at_y, clase, mensaje, veta, fuera⟩ := f i x at_
  exact ⟨y, at_y, clase, mensaje, veta, fun out => fuera fun mem => out (sub i mem)⟩

theorem Fuera.append (h new : Heap Datos) : Fuera (fun _ => False) h (h ++ new) := by
  intro i x at_
  refine ⟨x, ?_, rfl, rfl, fun v => v, fun _ => ⟨rfl, fun n => n⟩⟩
  rw [List.getElem?_append_left (List.getElem?_eq_some_iff.mp at_).1, at_]

theorem Fuera.modify {f : Excepcion Datos → Excepcion Datos}
    (clase : ∀ x, (f x).carga.clase = x.carga.clase) (mensaje : ∀ x, (f x).carga.mensaje = x.carga.mensaje)
    (veta : ∀ x, x.carga.veta = true → (f x).carga.veta = true) (i : Nat) (h : Heap Datos) :
    Fuera (· = i) h (h.modify i f) := by
  intro j x at_
  by_cases eq : i = j
  · subst eq
    refine ⟨f x, ?_, clase x, mensaje x, veta x, fun out => absurd rfl out⟩
    rw [List.getElem?_modify_eq, at_]
    rfl
  · exact ⟨x, by rw [List.getElem?_modify_ne _ _ eq, at_], rfl, rfl, fun v => v,
      fun _ => ⟨rfl, fun n => n⟩⟩

theorem veta_mark (e : Option Nat) (d : Datos) : (markUnknownTerminality e d).veta = true := by
  simp [Datos.veta, markUnknownTerminality]

theorem Fuera.marca (e : Option Nat) (i : Nat) (h : Heap Datos) :
    Fuera (· = i) h (marca (markUnknownTerminality e) i h) := by
  apply Fuera.modify <;> intro x
  · rfl
  · rfl
  · exact fun _ => veta_mark e x.carga

theorem Fuera.conCausa (cause : Option Nat) (i : Nat) (h : Heap Datos) :
    Fuera (· = i) h (conCausa i cause h) := by
  apply Fuera.modify <;> intro x
  · rfl
  · rfl
  · exact fun v => v

theorem Fuera.lanza (i : Nat) (handled : Option Nat) (h : Heap Datos) :
    Fuera (· = i) h (lanza i handled h) := by
  intro j x at_
  obtain ⟨y, at_y, same⟩ := Crece.lanza (r := Eq) (fun _ => rfl) (fun _ _ _ => Eq.trans) i handled h j x at_
  refine ⟨y, at_y, by rw [same], by rw [same], fun v => same ▸ v, fun out => ⟨same.symm, fun last => ?_⟩⟩
  obtain ⟨z, at_z, _, causes, contexts⟩ := lanza_at (Ne.symm out) at_y
  rw [at_, Option.some.injEq] at at_z
  subst at_z
  obtain ⟨no_cause, no_context⟩ : x.cause = none ∧ x.context = none := by
    simpa [Excepcion.siguiente] using last
  rcases contexts with kept | dropped
  · simp [Excepcion.siguiente, causes, kept, no_cause, no_context]
  · simp [Excepcion.siguiente, causes, dropped, no_cause]

theorem Fuera.marcarYEncadenar (i : Nat) (unknown : Bool) (e : Option Nat) (h : Heap Datos) :
    Fuera (· = i) h (marcarYEncadenar i unknown e h) := by
  have marked : Fuera (· = i) h (if unknown || e.isSome then
      ExceptionChains.marca (markUnknownTerminality e) i h else h) := by
    split
    · exact .marca e i h
    · exact .refl _ h
  rw [VfsSession.marcarYEncadenar]
  split
  · exact (marked.trans (.conCausa e i _)).mono (by simp)
  · exact marked

/-- `raise p from None` while `e` is handled; when it is `e` itself nothing is linked. -/
theorem Fuera.relanza (p e : Nat) (h : Heap Datos) :
    Fuera (fun i => i = p ∧ p ≠ e) h (ExceptionChains.conCausa p none (ExceptionChains.lanza p (some e) h)) := by
  by_cases same : e = p
  · subst same
    intro j x at_
    simp only [ExceptionChains.lanza, if_true, ExceptionChains.conCausa]
    by_cases eq : e = j
    · subst eq
      refine ⟨{ x with cause := none }, ?_, rfl, rfl, fun v => v, fun _ => ⟨rfl, fun last => ?_⟩⟩
      · rw [List.getElem?_modify_eq, at_]
        rfl
      · obtain ⟨-, no_context⟩ : x.cause = none ∧ x.context = none := by
          simpa [Excepcion.siguiente] using last
        simp [Excepcion.siguiente, no_context]
    · exact ⟨x, by rw [List.getElem?_modify_ne _ _ eq, at_], rfl, rfl, fun v => v,
        fun _ => ⟨rfl, fun n => n⟩⟩
  · refine ((Fuera.lanza p (some e) h).trans (.conCausa none p _)).mono ?_
    intro i mem
    exact ⟨mem.elim (fun m => m) (fun m => m), Ne.symm same⟩

def Vetada (h : Heap Datos) (i : Nat) : Prop := ∃ x : Excepcion Datos, h[i]? = some x ∧ x.carga.veta = true

/-- An exception that is not a cancellation, and that forbids rollback only by itself. -/
def Limpia (h : Heap Datos) (i : Nat) : Prop :=
  ∃ x : Excepcion Datos, h[i]? = some x ∧ x.carga.clase ≠ .cancelledError ∧
    (x.carga.veta = false → x.siguiente = none)

def EsCancelacion (h : Heap Datos) (i : Nat) : Prop :=
  ∃ x : Excepcion Datos, h[i]? = some x ∧ x.carga.clase = .cancelledError

theorem Vetada.mono {toca : Nat → Prop} (v : Vetada h i) (f : Fuera toca h k) : Vetada k i := by
  obtain ⟨x, at_, veta⟩ := v
  obtain ⟨y, at_y, _, _, kept, _⟩ := f i x at_
  exact ⟨y, at_y, kept veta⟩

theorem EsCancelacion.mono {toca : Nat → Prop} (c : EsCancelacion h i) (f : Fuera toca h k) :
    EsCancelacion k i := by
  obtain ⟨x, at_, clase⟩ := c
  obtain ⟨y, at_y, same, _⟩ := f i x at_
  exact ⟨y, at_y, same.trans clase⟩

/-- A clean exception stays so unless it is touched, and then it has to forbid rollback. -/
theorem Limpia.mono {toca : Nat → Prop} (l : Limpia h i) (f : Fuera toca h k)
    (free : toca i → Vetada k i) : Limpia k i := by
  obtain ⟨x, at_, clase, last⟩ := l
  obtain ⟨y, at_y, same, _, _, fuera⟩ := f i x at_
  refine ⟨y, at_y, fun is => clase (same ▸ is), fun calm => ?_⟩
  by_cases mem : toca i
  · obtain ⟨z, at_z, veta⟩ := free mem
    rw [at_y, Option.some.injEq] at at_z
    subst at_z
    rw [veta] at calm
    cases calm
  · obtain ⟨carga, next⟩ := fuera mem
    exact next (last (carga ▸ calm))

theorem Vetada.of_fuera {toca : Nat → Prop} (l : Limpia h i) (f : Fuera toca h k) (out : ¬ toca i)
    (v : Vetada k i) : Vetada h i := by
  obtain ⟨x, at_, _⟩ := l
  obtain ⟨y, at_y, _, _, _, fuera⟩ := f i x at_
  obtain ⟨z, at_z, veta⟩ := v
  rw [at_y, Option.some.injEq] at at_z
  subst at_z
  exact ⟨x, at_, (fuera out).1 ▸ veta⟩

theorem forbids_of_vetada (v : Vetada h i) : exceptionForbidsRollback h i = true := by
  obtain ⟨x, at_, veta⟩ := v
  exact alguna_of_self at_ veta

theorem forbids_iff_vetada (l : Limpia h i) : exceptionForbidsRollback h i = true ↔ Vetada h i := by
  refine ⟨fun forbids => ?_, forbids_of_vetada⟩
  obtain ⟨x, at_, _, last⟩ := l
  cases veta : x.carga.veta with
  | true => exact ⟨x, at_, veta⟩
  | false =>
    have none_of : exceptionForbidsRollback h i = false := by
      refine alguna_eq_false (S := (· = i)) ?_ 32 [] i rfl
      rintro j y rfl at_y
      rw [at_, Option.some.injEq] at at_y
      subst at_y
      exact ⟨veta, by simp [last veta]⟩
    rw [none_of] at forbids
    cases forbids

/-- An exception raised while a vetoed one is handled, with no cause of its own. -/
theorem forbids_of_relanza {p e : Nat} {x : Excepcion Datos} (at_p : h[p]? = some x) (v : Vetada h e) :
    exceptionForbidsRollback (conCausa p none (lanza p (some e) h)) p = true := by
  by_cases same : e = p
  · subst same
    exact forbids_of_vetada (v.mono (.relanza e e h))
  · obtain ⟨y, at_y, _, _, context⟩ := lanza_self same at_p
    obtain ⟨z, at_z, veta⟩ := v.mono (.relanza p e h)
    refine alguna_of_next (x := { y with cause := none }) (j := e) 30 ?_ ?_ at_z veta
    · simp only [conCausa, List.getElem?_modify_eq, at_y, Option.map_eq_map, Option.map_some]
    · simp [Excepcion.siguiente, context]

/-! What holds of the futures and of the tasks -/

/-- The exceptions that can become the driver's outcome. -/
def Estado.enMano (s : Estado) (e : Nat) : Prop :=
  (s.driver = .espera ∧ s.resultado = .error e) ∨ s.driver = .falla e ∨ s.driver.decidido = some (.error e)

structure Firme (s : Estado) : Prop where
  salida : ∀ e, s.salida = .error e → Vetada s.heap e ∧ Limpia s.heap e
  terminada : s.terminacion = .hecha → ∃ c, s.salida = .valor c
  fallida : ∀ e, s.terminacion = .fallida e → s.salida = .error e
  sinTracking : ∀ e, s.terminacion = .sinTracking e → s.registrado = false
  registrado : s.registrado = false → ∃ d, s.driver.decidido = some d
  asentado : ∀ d, s.driver.decidido = some d → (∃ c, s.salida = .valor c) ∨
    ∃ t e, s.salida = .error t ∧ d = .error e ∧ Vetada s.heap e
  enMano : ∀ e, s.enMano e → Limpia s.heap e
  cancelada : ∀ e, s.cancelacion = .hecha (some e) → (∃ t, s.salida = .error t) ∧ s.teardownError.isSome = true
  teardown : ∀ e, s.teardownError = some e → Vetada s.heap e ∧ s.terminalityUnknown = true
  unknown : s.terminalityUnknown = true → (∃ t, s.salida = .error t) ∨
    ∃ e, s.driver = .hecho (.error e) ∧ Vetada s.heap e
  confirmada : s.confirmedTerminal = true → (∃ c, s.salida = .valor c) ∧
    ∀ e, s.driver = .falla e ∨ s.driver.decidido = some (.error e) → ¬ Vetada s.heap e
  llamadas : ∀ m c b, ⟨m, .fence (some c) b⟩ ∈ s.llamadas → EsCancelacion s.heap c

theorem Firme.abierta : Firme Estado.abierta where
  salida := nofun
  terminada := nofun
  fallida := nofun
  sinTracking := nofun
  registrado := nofun
  asentado := nofun
  enMano := by
    rintro e (⟨_, h⟩ | h | h) <;> cases h
  cancelada := nofun
  teardown := nofun
  unknown := nofun
  confirmada := nofun
  llamadas := nofun

/-- A step that leaves the termination and the driver as they are, and the exit once it is known. -/
theorem Firme.futuros {toca : Nat → Prop} (f : Firme s) (heap : Fuera toca s.heap t.heap)
    (free : ∀ e, s.enMano e → toca e → Vetada s.heap e)
    (salida : s.salida ≠ .pendiente → t.salida = s.salida)
    (failed : ∀ e, t.salida = .error e → s.salida = .error e ∨ Vetada t.heap e ∧ Limpia t.heap e)
    (terminacion : t.terminacion = s.terminacion) (registrado : t.registrado = s.registrado)
    (driver : t.driver = s.driver)
    (resultado : t.resultado = s.resultado ∨ ∀ e, t.resultado = .error e → Limpia t.heap e)
    (cancelacion : t.cancelacion = s.cancelacion ∨ t.cancelacion = .empieza)
    (teardown : t.teardownError = s.teardownError ∧ t.terminalityUnknown = s.terminalityUnknown ∨
      ∃ e, t.teardownError = some e ∧ t.terminalityUnknown = true ∧ s.driver = .hecho (.error e) ∧ Vetada s.heap e)
    (confirmada : t.confirmedTerminal = true → s.confirmedTerminal = true ∨ ∃ r, s.driver = .hecho (.valor r))
    (llamadas : ∀ m c b, ⟨m, .fence (some c) b⟩ ∈ t.llamadas → EsCancelacion t.heap c) : Firme t := by
  have stays_ok : ∀ c, s.salida = .valor c → t.salida = .valor c := by
    intro c ok
    rw [salida (by rw [ok]; nofun), ok]
  have stays_failed : ∀ e, s.salida = .error e → t.salida = .error e := by
    intro e bad
    rw [salida (by rw [bad]; nofun), bad]
  constructor
  · intro e bad
    rcases failed e bad with before | veta
    · obtain ⟨veta, limpia⟩ := f.salida e before
      exact ⟨veta.mono heap, limpia.mono heap fun _ => veta.mono heap⟩
    · exact veta
  · rw [terminacion]
    intro ended
    obtain ⟨c, ok⟩ := f.terminada ended
    exact ⟨c, stays_ok c ok⟩
  · rw [terminacion]
    exact fun e ended => stays_failed e (f.fallida e ended)
  · rw [terminacion, registrado]
    exact f.sinTracking
  · rw [registrado, driver]
    exact f.registrado
  · rw [driver]
    intro d decided
    rcases f.asentado d decided with ⟨c, ok⟩ | ⟨x, e, bad, rfl, veta⟩
    · exact .inl ⟨c, stays_ok c ok⟩
    · exact .inr ⟨x, e, stays_failed x bad, rfl, veta.mono heap⟩
  · intro e mem
    by_cases before : s.enMano e
    · exact (f.enMano e before).mono heap fun tocada => (free e before tocada).mono heap
    · rw [Estado.enMano, driver] at mem
      rcases resultado with same | limpia
      · rw [same] at mem
        exact absurd mem before
      · rcases mem with ⟨_, this⟩ | mem
        · exact limpia e this
        · exact absurd (.inr mem) before
  · intro e ended
    rcases cancelacion with same | begins
    · rw [same] at ended
      obtain ⟨⟨x, bad⟩, has⟩ := f.cancelada e ended
      refine ⟨⟨x, stays_failed x bad⟩, ?_⟩
      rcases teardown with ⟨kept, _⟩ | ⟨x, is, _⟩
      · rw [kept, has]
      · rw [is]
        rfl
    · rw [begins] at ended
      cases ended
  · intro e is
    rcases teardown with ⟨kept, flag⟩ | ⟨x, this, flag, _, veta⟩
    · rw [flag]
      exact ⟨(f.teardown e (kept ▸ is)).1.mono heap, (f.teardown e (kept ▸ is)).2⟩
    · rw [this, Option.some.injEq] at is
      exact ⟨is ▸ veta.mono heap, flag⟩
  · rw [driver]
    intro flag
    rcases teardown with ⟨_, kept⟩ | ⟨x, _, _, at_, veta⟩
    · rcases f.unknown (kept ▸ flag) with ⟨x, bad⟩ | ⟨e, at_, veta⟩
      · exact .inl ⟨x, stays_failed x bad⟩
      · exact .inr ⟨e, at_, veta.mono heap⟩
    · exact .inr ⟨x, at_, veta.mono heap⟩
  · rw [driver]
    intro flag
    rcases confirmada flag with before | ⟨r, at_⟩
    · obtain ⟨⟨c, ok⟩, none_vetoed⟩ := f.confirmada before
      refine ⟨⟨c, stays_ok c ok⟩, fun e mem veta => none_vetoed e mem ?_⟩
      by_cases tocada : toca e
      · exact free e (.inr mem) tocada
      · exact .of_fuera (f.enMano e (.inr mem)) heap tocada veta
    · rw [at_]
      refine ⟨?_, by rintro e (h | h) <;> cases h⟩
      rcases f.asentado (.valor r) (by rw [at_]; rfl) with ⟨c, ok⟩ | ⟨_, _, _, bad, _⟩
      · exact ⟨c, stays_ok c ok⟩
      · cases bad
  · exact llamadas

/-- A step that leaves the exit as it is too. -/
theorem Firme.quieta {toca : Nat → Prop} (f : Firme s) (heap : Fuera toca s.heap t.heap)
    (free : ∀ e, s.enMano e → toca e → Vetada s.heap e)
    (salida : t.salida = s.salida) (terminacion : t.terminacion = s.terminacion)
    (registrado : t.registrado = s.registrado) (driver : t.driver = s.driver)
    (resultado : t.resultado = s.resultado ∨ ∃ e, t.resultado = .error e ∧ Limpia t.heap e)
    (cancelacion : t.cancelacion = s.cancelacion ∨ t.cancelacion = .empieza)
    (teardown : t.teardownError = s.teardownError ∧ t.terminalityUnknown = s.terminalityUnknown ∨
      ∃ e, t.teardownError = some e ∧ t.terminalityUnknown = true ∧ s.driver = .hecho (.error e) ∧ Vetada s.heap e)
    (confirmada : t.confirmedTerminal = true → s.confirmedTerminal = true ∨ ∃ r, s.driver = .hecho (.valor r))
    (llamadas : ∀ m c b, ⟨m, .fence (some c) b⟩ ∈ t.llamadas → EsCancelacion t.heap c) : Firme t := by
  refine f.futuros heap free (fun _ => salida) ?_ terminacion registrado driver ?_ cancelacion teardown confirmada
    llamadas
  · rw [salida]
    exact fun e bad => .inl bad
  · refine resultado.imp_right ?_
    rintro ⟨x, is, limpia⟩ e this
    rw [is, Futuro.error.injEq] at this
    exact this ▸ limpia

theorem Firme.conHeap {toca : Nat → Prop} (f : Firme s) (heap : Fuera toca s.heap k)
    (free : ∀ e, s.enMano e → toca e → Vetada s.heap e) : Firme { s with heap := k } :=
  f.quieta heap free rfl rfl rfl rfl (.inl rfl) (.inl rfl) (.inl ⟨rfl, rfl⟩) .inl
    fun m c b mem => (f.llamadas m c b mem).mono heap

theorem Firme.nace (f : Firme s) (d : Datos) (context : Option Nat) : Firme (s.nace d context) :=
  f.conHeap (.append _ _) fun _ _ tocada => tocada.elim

/-! The stream of events -/

/-- What the events that have been applied leave in the session. -/
inductive Leido : Option Nat → Option Int → List VfsSessionEvent → Prop where
  | nada : Leido none none []
  | empezado (pid : Nat) : Leido (some pid) none [.toolStarted pid]
  | terminado (pid : Nat) (code : Int) : Leido (some pid) (some code) [.toolStarted pid, .toolExit code]

theorem aplicar_ok {e : VfsSessionEvent} (ok : aplicarEvento e s = .ok t) :
    (∃ p, e = .toolStarted p ∧ s.pid = none ∧ t = { s with pid := some p }) ∨
      ∃ c, e = .toolExit c ∧ s.pid ≠ none ∧ s.exitCode = none ∧ t = { s with exitCode := some c } := by
  cases e with
  | toolStarted p =>
    rw [aplicarEvento] at ok
    split at ok
    · cases ok
    · rename_i unset
      simp only [Except.ok.injEq] at ok
      exact .inl ⟨p, rfl, by simpa using unset, ok.symm⟩
  | toolExit c =>
    rw [aplicarEvento] at ok
    split at ok
    · cases ok
    · split at ok
      · cases ok
      · rename_i started unset
        simp only [Except.ok.injEq] at ok
        exact .inr ⟨c, rfl, by simpa using started, by simpa using unset, ok.symm⟩

theorem Leido.aplicar {e : VfsSessionEvent} {leidos : List VfsSessionEvent} (ok : aplicarEvento e s = .ok t)
    (l : Leido s.pid s.exitCode leidos) : Leido t.pid t.exitCode (leidos ++ [e]) := by
  rcases aplicar_ok ok with ⟨p, rfl, unset, rfl⟩ | ⟨c, rfl, set, unset, rfl⟩
  · rw [unset] at l
    generalize s.exitCode = code at l ⊢
    cases l
    exact .empezado p
  · rw [unset] at l
    generalize s.pid = pid at l set ⊢
    cases l with
    | nada => exact absurd rfl set
    | empezado p => exact .terminado p c

/-- What applying events, and registering the first that breaks the protocol, can change. -/
structure Calmo (s t : Estado) : Prop where
  heap : Fuera (fun _ => False) s.heap t.heap
  salida : t.salida = s.salida
  terminacion : t.terminacion = s.terminacion
  registrado : t.registrado = s.registrado
  driver : t.driver = s.driver
  teardownError : t.teardownError = s.teardownError
  terminalityUnknown : t.terminalityUnknown = s.terminalityUnknown
  confirmedTerminal : t.confirmedTerminal = s.confirmedTerminal
  llamadas : t.llamadas = s.llamadas
  suscrito : t.suscrito = s.suscrito
  recibidos : t.recibidos = s.recibidos
  colector : t.colector = s.colector
  resultado : t.resultado = s.resultado ∨ ∃ e, t.resultado = .error e ∧ Limpia t.heap e
  cancelacion : t.cancelacion = s.cancelacion ∨ t.cancelacion = .empieza ∧ s.cancelacion = .no
  pid : ∀ p, s.pid = some p → t.pid = some p
  protocolo : ∀ p, s.protocolError = some p → t.protocolError = some p
  existe : (∀ p, s.protocolError = some p → ∃ x, s.heap[p]? = some x) →
    ∀ p, t.protocolError = some p → ∃ x, t.heap[p]? = some x

theorem Calmo.of_eventos {eventos : List VfsSessionEvent} : Calmo s { s with eventos := eventos } :=
  ⟨.refl _ _, rfl, rfl, rfl, rfl, rfl, rfl, rfl, rfl, rfl, rfl, rfl, .inl rfl, .inl rfl,
    fun _ p => p, fun _ p => p, fun h => h⟩

theorem Calmo.trans {u : Estado} (a : Calmo s t) (b : Calmo t u) : Calmo s u where
  heap := (a.heap.trans b.heap).mono (by simp)
  salida := b.salida.trans a.salida
  terminacion := b.terminacion.trans a.terminacion
  registrado := b.registrado.trans a.registrado
  driver := b.driver.trans a.driver
  teardownError := b.teardownError.trans a.teardownError
  terminalityUnknown := b.terminalityUnknown.trans a.terminalityUnknown
  confirmedTerminal := b.confirmedTerminal.trans a.confirmedTerminal
  llamadas := b.llamadas.trans a.llamadas
  suscrito := b.suscrito.trans a.suscrito
  recibidos := b.recibidos.trans a.recibidos
  colector := b.colector.trans a.colector
  resultado := by
    rcases b.resultado with same | failed
    · rw [same]
      rcases a.resultado with before | ⟨e, failed, limpia⟩
      · exact .inl before
      · exact .inr ⟨e, failed, limpia.mono b.heap nofun⟩
    · exact .inr failed
  cancelacion := by
    rcases b.cancelacion with same | ⟨begins, no⟩
    · rw [same]
      exact a.cancelacion
    · rcases a.cancelacion with before | ⟨begun, _⟩
      · exact .inr ⟨begins, before ▸ no⟩
      · rw [begun] at no
        cases no
  pid p h := b.pid p (a.pid p h)
  protocolo p h := b.protocolo p (a.protocolo p h)
  existe h := b.existe (a.existe h)

theorem Calmo.aplicar {e : VfsSessionEvent} (ok : aplicarEvento e s = .ok t) : Calmo s t := by
  rcases aplicar_ok ok with ⟨p, _, unset, rfl⟩ | ⟨c, _, _, _, rfl⟩
  · exact ⟨.refl _ _, rfl, rfl, rfl, rfl, rfl, rfl, rfl, rfl, rfl, rfl, rfl, .inl rfl, .inl rfl,
      fun q set => absurd (unset.symm.trans set) nofun, fun _ p => p, fun h => h⟩
  · exact ⟨.refl _ _, rfl, rfl, rfl, rfl, rfl, rfl, rfl, rfl, rfl, rfl, rfl, .inl rfl, .inl rfl,
      fun _ p => p, fun _ p => p, fun h => h⟩

theorem getElem?_nace (h : Heap Datos) (x : Excepcion Datos) : (h ++ [x])[h.length]? = some x := by
  simp

theorem limpia_nace {d : Datos} (h : Heap Datos) (clase : d.clase ≠ .cancelledError) :
    Limpia (h ++ [⟨d, none, none⟩]) h.length :=
  ⟨⟨d, none, none⟩, getElem?_nace h _, clase, fun _ => rfl⟩

theorem Futuro.falla_of_done {α : Type} {f : Futuro α} (e : Nat) (done : f ≠ .pendiente) : f.falla e = f := by
  cases f with
  | pendiente => exact absurd rfl done
  | _ => rfl

/-- A pending result only fails here by an error that was not raised while another was handled. -/
theorem Calmo.registrar (m : Mensaje) {handled : Option Nat}
    (calm : handled = none ∨ s.resultado ≠ .pendiente) : Calmo s (registrarErrorDeProtocolo m handled s) := by
  have cancelacion : ∀ u : Estado, u.cancelacion = s.cancelacion →
      (iniciarCancelacion u).cancelacion = s.cancelacion ∨
        (iniciarCancelacion u).cancelacion = .empieza ∧ s.cancelacion = .no := by
    intro u same
    rw [iniciarCancelacion]
    split
    · rename_i no
      exact .inr ⟨rfl, same ▸ no⟩
    · exact .inl same
  have resultado : s.resultado.falla s.heap.length = s.resultado ∨
      ∃ e, s.resultado.falla s.heap.length = .error e ∧
        Limpia (s.heap ++ [⟨.de .sessionProtocolError m, none, handled⟩]) e := by
    by_cases pending : s.resultado = .pendiente
    · obtain rfl := calm.resolve_right (fun not => not pending)
      rw [pending]
      exact .inr ⟨_, rfl, limpia_nace _ nofun⟩
    · exact .inl (Futuro.falla_of_done _ pending)
  have begun : ∀ u : Estado, ∃ c, iniciarCancelacion u = { u with cancelacion := c } := by
    intro u
    rw [iniciarCancelacion]
    split
    · exact ⟨_, rfl⟩
    · exact ⟨u.cancelacion, rfl⟩
  have existe : (∀ p, s.protocolError = some p → ∃ x, s.heap[p]? = some x) →
      ∀ p, (s.protocolError <|> some s.heap.length) = some p →
        ∃ x, (s.heap ++ [⟨.de .sessionProtocolError m, none, handled⟩])[p]? = some x := by
    intro before p set
    cases had : s.protocolError with
    | none =>
      rw [had] at set
      change some s.heap.length = some p at set
      rw [Option.some.injEq] at set
      exact set ▸ ⟨_, getElem?_nace _ _⟩
    | some q =>
      rw [had] at set
      change some q = some p at set
      rw [Option.some.injEq] at set
      obtain ⟨x, at_⟩ := before q had
      exact set ▸ ⟨x, by rw [List.getElem?_append_left (List.getElem?_eq_some_iff.mp at_).1, at_]⟩
  have which := cancelacion
    { s.nace (.de .sessionProtocolError m) handled with
      protocolError := s.protocolError <|> some s.heap.length
      resultado := s.resultado.falla s.heap.length } rfl
  obtain ⟨c, shape⟩ := begun
    { s.nace (.de .sessionProtocolError m) handled with
      protocolError := s.protocolError <|> some s.heap.length
      resultado := s.resultado.falla s.heap.length }
  rw [shape] at which
  rw [show registrarErrorDeProtocolo m handled s = _ from shape]
  exact ⟨.append _ _, rfl, rfl, rfl, rfl, rfl, rfl, rfl, rfl, rfl, rfl, rfl, resultado, which,
    fun _ p => p, fun p set => by simp [set], existe⟩

theorem registrar_protocolo (m : Mensaje) (handled : Option Nat) (s : Estado) :
    ∃ p, (registrarErrorDeProtocolo m handled s).protocolError = some p := by
  have same : ∀ u : Estado, (iniciarCancelacion u).protocolError = u.protocolError := by
    intro u
    rw [iniciarCancelacion]
    split <;> rfl
  simp only [registrarErrorDeProtocolo, same, Estado.nace]
  cases s.protocolError with
  | none => exact ⟨_, rfl⟩
  | some p => exact ⟨p, rfl⟩

theorem Calmo.drenar {handled : Option Nat} (l : List VfsSessionEvent)
    (calm : handled = none ∨ s.resultado ≠ .pendiente) : Calmo s (drenar handled l s) := by
  induction l generalizing s with
  | nil => exact .of_eventos
  | cons e rest ih =>
    rw [VfsSession.drenar]
    cases applied : aplicarEvento e s with
    | ok t =>
      have first : Calmo s t := .aplicar applied
      refine first.trans (ih (calm.imp_right fun done => ?_))
      rcases aplicar_ok applied with ⟨_, _, _, rfl⟩ | ⟨_, _, _, _, rfl⟩ <;> exact done
    | error m => exact Calmo.of_eventos.trans (.registrar m calm)

theorem drenar_leidos (handled : Option Nat) {leidos : List VfsSessionEvent} (l : List VfsSessionEvent)
    (right : s.protocolError = none) (read : Leido s.pid s.exitCode leidos) :
    (∃ p, (drenar handled l s).protocolError = some p) ∨
      ((drenar handled l s).protocolError = none ∧ (drenar handled l s).eventos = [] ∧
        Leido (drenar handled l s).pid (drenar handled l s).exitCode (leidos ++ l)) := by
  induction l generalizing s leidos with
  | nil => exact .inr ⟨right, rfl, by rw [List.append_nil]; exact read⟩
  | cons e rest ih =>
    rw [VfsSession.drenar]
    cases applied : aplicarEvento e s with
    | ok t =>
      have same : t.protocolError = none := by
        rcases aplicar_ok applied with ⟨_, _, _, rfl⟩ | ⟨_, _, _, _, rfl⟩ <;> exact right
      simpa only [List.append_assoc, List.cons_append, List.nil_append] using ih same (read.aplicar applied)
    | error m => exact .inl (registrar_protocolo m handled _)

theorem Firme.calmo (f : Firme s) (c : Calmo s t) : Firme t := by
  refine f.quieta c.heap (fun _ _ tocada => tocada.elim) c.salida c.terminacion c.registrado c.driver
    c.resultado (c.cancelacion.imp_right And.left) (.inl ⟨c.teardownError, c.terminalityUnknown⟩) ?_ ?_
  · rw [c.confirmedTerminal]
    exact .inl
  · rw [c.llamadas]
    exact fun m x b mem => (f.llamadas m x b mem).mono c.heap

/-! What the calls leave -/

theorem Limpia.not_cancelacion (l : Limpia h i) : ¬ EsCancelacion h i := by
  obtain ⟨x, at_, clase, _⟩ := l
  rintro ⟨y, at_y, is⟩
  rw [at_, Option.some.injEq] at at_y
  exact clase (at_y ▸ is)

/-- With an outcome of unknown terminality the driver failed, with an error that forbids rollback. -/
theorem Firme.vetada_of_desconocida {d : Desenlace} (f : Firme s) (at_ : s.driver = .hecho d)
    (unknown : s.desconocida = true) : ∃ e, d = .error e ∧ Vetada s.heap e := by
  rw [Estado.desconocida, Bool.or_eq_true] at unknown
  rcases unknown with driver | cancelacion
  · rw [at_] at driver
    cases d with
    | valor r => cases driver
    | error e => exact ⟨e, rfl, (forbids_iff_vetada (f.enMano e (.inr (.inr (by rw [at_]; rfl))))).mp driver⟩
  · have ended : ∃ e, s.cancelacion = .hecha (some e) := by
      revert cancelacion
      cases s.cancelacion with
      | hecha fallo =>
        cases fallo with
        | none => nofun
        | some e => exact fun _ => ⟨e, rfl⟩
      | _ => nofun
    obtain ⟨e, ended⟩ := ended
    obtain ⟨⟨x, failed⟩, _⟩ := f.cancelada e ended
    rcases f.asentado d (by rw [at_]; rfl) with ⟨c, ok⟩ | ⟨_, e, _, is, veta⟩
    · rw [failed] at ok
      cases ok
    · exact ⟨e, is, veta⟩

/-- What no step takes back once the driver is done. -/
structure Persiste (s t : Estado) : Prop where
  heap : ∃ toca, Fuera toca s.heap t.heap
  pid : ∀ p, s.pid = some p → t.pid = some p
  protocolo : ∀ p, s.protocolError = some p → t.protocolError = some p
  hecho : ∀ d, s.driver = .hecho d → t.driver = .hecho d
  quieto : ∀ d, s.driver = .hecho d → s.eventos = [] → s.protocolError = none →
    t.eventos = [] ∧ t.protocolError = none ∧ t.exitCode = s.exitCode

theorem Persiste.trans {u : Estado} (a : Persiste s t) (b : Persiste t u) : Persiste s u where
  heap := by
    obtain ⟨x, first⟩ := a.heap
    obtain ⟨y, second⟩ := b.heap
    exact ⟨_, first.trans second⟩
  pid p h := b.pid p (a.pid p h)
  protocolo p h := b.protocolo p (a.protocolo p h)
  hecho d h := b.hecho d (a.hecho d h)
  quieto d at_ empty right := by
    obtain ⟨empty', right', same⟩ := a.quieto d at_ empty right
    obtain ⟨empty'', right'', same'⟩ := b.quieto d (a.hecho d at_) empty' right'
    exact ⟨empty'', right'', same'.trans same⟩

/-- A step away from the stream of events. -/
theorem Persiste.of_eq {toca : Nat → Prop} (heap : Fuera toca s.heap t.heap) (pid : t.pid = s.pid)
    (protocolo : t.protocolError = s.protocolError) (exit : t.exitCode = s.exitCode)
    (eventos : t.eventos = s.eventos) (hecho : ∀ d, s.driver = .hecho d → t.driver = .hecho d) : Persiste s t where
  heap := ⟨toca, heap⟩
  pid _ h := pid.trans h
  protocolo _ h := protocolo.trans h
  hecho := hecho
  quieto _ _ empty right := ⟨eventos.trans empty, protocolo.trans right, exit⟩

theorem Persiste.conHeap {toca : Nat → Prop} (heap : Fuera toca s.heap k) : Persiste s { s with heap := k } :=
  .of_eq heap rfl rfl rfl rfl fun _ at_ => at_

theorem Persiste.nace (d : Datos) (context : Option Nat) : Persiste s (s.nace d context) :=
  .conHeap (.append _ _)

theorem Persiste.drenar {handled : Option Nat} (calm : handled = none ∨ s.resultado ≠ .pendiente) :
    Persiste s (drenarEventosPendientes handled s) := by
  have c : Calmo s (drenarEventosPendientes handled s) := .drenar _ calm
  refine ⟨⟨_, c.heap⟩, c.pid, c.protocolo, fun d at_ => c.driver.trans at_, ?_⟩
  intro d _ empty right
  rw [drenarEventosPendientes, empty, VfsSession.drenar]
  exact ⟨rfl, right, rfl⟩

/-- What a call of `result` that was not cancelled ended with, in a session as `s`. -/
def Acorde (s : Estado) : Respuesta → Prop
  | .resultado r => s.protocolError = none ∧ s.eventos = [] ∧ s.driver = .hecho (.valor r) ∧
      ∀ a b, s.exitCode = some a → r.exitCode = some b → a = b
  | .lanza x => (∃ d, s.driver = .hecho d) ∧ (s.protocolError = some x ∨
      s.protocolError = none ∧ s.eventos = [] ∧ (s.driver = .hecho (.error x) ∨
        ∃ r a b, s.driver = .hecho (.valor r) ∧ s.exitCode = some a ∧ r.exitCode = some b ∧ a ≠ b ∧
          ∃ y : Excepcion Datos, s.heap[x]? = some y ∧ y.carga.clase = .sessionProtocolError ∧
            y.carga.mensaje = .incoherente a b))
  | .cancelada _ => True
  | .codigo _ | .nada => False

theorem Acorde.persiste {r : Respuesta} (a : Acorde s r) (p : Persiste s t) : Acorde t r := by
  cases r with
  | resultado r =>
    obtain ⟨right, empty, at_, codes⟩ := a
    obtain ⟨empty', right', same⟩ := p.quieto _ at_ empty right
    exact ⟨right', empty', p.hecho _ at_, same ▸ codes⟩
  | lanza x =>
    obtain ⟨⟨d, at_⟩, cause⟩ := a
    refine ⟨⟨d, p.hecho d at_⟩, ?_⟩
    rcases cause with wrong | ⟨right, empty, why⟩
    · exact .inl (p.protocolo x wrong)
    · obtain ⟨empty', right', same⟩ := p.quieto d at_ empty right
      refine .inr ⟨right', empty', ?_⟩
      rcases why with failed | ⟨r, a, b, ok, exit, code, differ, y, at_y, clase, mensaje⟩
      · exact .inl (p.hecho _ failed)
      · obtain ⟨_, f⟩ := p.heap
        obtain ⟨z, at_z, clase', mensaje', _⟩ := f x y at_y
        exact .inr ⟨r, a, b, p.hecho _ ok, same.trans exit, code, differ, z, at_z, clase'.trans clase,
          mensaje'.trans mensaje⟩
  | cancelada x => trivial
  | codigo c => exact a
  | nada => exact a

/-- The same outcome: the same result, or the same exception but for its identity. -/
def Mismo (h : Heap Datos) : Respuesta → Respuesta → Prop
  | .resultado r, .resultado q => r = q
  | .lanza x, .lanza y => x = y ∨ ∃ u v : Excepcion Datos, h[x]? = some u ∧ h[y]? = some v ∧
      u.carga.clase = v.carga.clase ∧ u.carga.mensaje = v.carga.mensaje
  | _, _ => False

theorem Acorde.mismo {r q : Respuesta} (a : Acorde s r) (b : Acorde s q) (hr : ∀ e, r ≠ .cancelada e)
    (hq : ∀ e, q ≠ .cancelada e) : Mismo s.heap r q := by
  cases r with
  | resultado r =>
    obtain ⟨right, empty, at_, codes⟩ := a
    cases q with
    | resultado q =>
      have := at_.symm.trans b.2.2.1
      simpa [Mismo] using this
    | lanza y =>
      obtain ⟨_, wrong | ⟨_, _, failed | ⟨q, a, b, ok, exit, code, differ, _⟩⟩⟩ := b
      · rw [right] at wrong
        cases wrong
      · rw [at_] at failed
        cases failed
      · have same := at_.symm.trans ok
        simp only [Driver.hecho.injEq, Desenlace.valor.injEq] at same
        exact absurd (codes a b exit (same ▸ code)) differ
    | cancelada e => exact absurd rfl (hq e)
    | codigo c => exact b
    | nada => exact b
  | lanza x =>
    obtain ⟨_, cause⟩ := a
    cases q with
    | resultado q =>
      obtain ⟨right, empty, at_, codes⟩ := b
      rcases cause with wrong | ⟨_, _, failed | ⟨r, a, b, ok, exit, code, differ, _⟩⟩
      · rw [right] at wrong
        cases wrong
      · rw [at_] at failed
        cases failed
      · have same := at_.symm.trans ok
        simp only [Driver.hecho.injEq, Desenlace.valor.injEq] at same
        exact absurd (codes a b exit (same ▸ code)) differ
    | lanza y =>
      obtain ⟨_, cause'⟩ := b
      rcases cause with wrong | ⟨right, _, why⟩
      · rcases cause' with wrong' | ⟨right', _⟩
        · have := wrong.symm.trans wrong'
          exact .inl (by simpa using this)
        · rw [wrong] at right'
          cases right'
      · rcases cause' with wrong' | ⟨_, _, why'⟩
        · rw [right] at wrong'
          cases wrong'
        · rcases why with failed | ⟨r, a, b, ok, exit, code, _, u, at_u, clase, mensaje⟩
          · rcases why' with failed' | ⟨r, _, _, ok, _⟩
            · have := failed.symm.trans failed'
              exact .inl (by simpa using this)
            · rw [failed] at ok
              cases ok
          · rcases why' with failed' | ⟨q, a', b', ok', exit', code', _, v, at_v, clase', mensaje'⟩
            · rw [ok] at failed'
              cases failed'
            · refine .inr ⟨u, v, at_u, at_v, clase.trans clase'.symm, ?_⟩
              have same := ok.symm.trans ok'
              simp only [Driver.hecho.injEq, Desenlace.valor.injEq] at same
              subst same
              rw [mensaje, mensaje', Option.some.inj (exit.symm.trans exit'),
                Option.some.inj (code.symm.trans code')]
    | cancelada e => exact absurd rfl (hq e)
    | codigo c => exact b
    | nada => exact b
  | cancelada e => exact absurd rfl (hr e)
  | codigo c => exact a
  | nada => exact a

end VfsSession
