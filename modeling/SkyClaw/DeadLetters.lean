import Mathlib
import SkyClaw.TransitionRuns

set_option linter.all false

/-!
The dead letter queue: one table, any number of retry workers. Each step of a
worker is one transaction or one wait; a transaction takes effect or not, and
apart from that the worker goes on, gets an exception or is gone.
-/
namespace DeadLetters
open TransitionRuns

inductive Status where
  | pending
  | inProgress
  | dead
  deriving DecidableEq

structure DLQRow where
  id : Nat
  topic : String
  payload : String
  source : String
  eventTsMs : Int
  handlerName : String
  errorType : String
  errorMessage : String
  attempts : Nat
  nextRetryAt : Int
  status : Status
  enqueuedAt : Int
  updatedAt : Int
  deriving DecidableEq

structure Config where
  maxAttempts : Int := 5
  baseBackoffS : Int := 2
  batchSize : Nat := 50

/-- `dead_letter_events`; `AUTOINCREMENT` never gives an id again. -/
structure Tabla where
  filas : Nat → Option DLQRow
  proximo : Nat

def computeNextRetryAt (nowMs : Int) (attempt : Nat) (baseBackoffS : Int) : Int :=
  nowMs + baseBackoffS ^ attempt * 1000

/-- The failed event that `enqueue` is called with. -/
structure Fallo where
  topic : String
  payload : String
  source : String
  eventTsMs : Int
  handlerName : String
  errorType : String
  errorMessage : String

variable (cfg : Config)

def insertSql (now : Int) (f : Fallo) (t : Tabla) : Tabla :=
  { filas := Function.update t.filas t.proximo (some {
      id := t.proximo
      topic := f.topic
      payload := f.payload
      source := f.source
      eventTsMs := f.eventTsMs
      handlerName := f.handlerName
      errorType := f.errorType
      errorMessage := f.errorMessage
      attempts := 0
      nextRetryAt := computeNextRetryAt now 1 cfg.baseBackoffS
      status := .pending
      enqueuedAt := now
      updatedAt := now })
    proximo := t.proximo + 1 }

/-- Applies `f` to the row with this id, if there is one. -/
def Tabla.cambia (t : Tabla) (id : Nat) (f : DLQRow → DLQRow) : Tabla :=
  { t with filas := Function.update t.filas id ((t.filas id).map f) }

/-- `_recover_stale_rows`. -/
def recoverSql (now : Int) (t : Tabla) : Tabla :=
  { t with filas := fun id => (t.filas id).map fun r =>
      if r.status = .inProgress ∧ r.updatedAt + 60000 < now then
        { r with status := .pending, updatedAt := now }
      else r }

/-- The claim: `none` when `changes()` is zero. -/
def claimSql (now : Int) (id : Nat) (t : Tabla) : Option Tabla :=
  match t.filas id with
  | some r =>
    if r.status = .pending then
      some (t.cambia id fun r => { r with status := .inProgress, updatedAt := now })
    else none
  | none => none

def noResueltoSql (now : Int) (id : Nat) (t : Tabla) : Tabla :=
  t.cambia id fun r => { r with status := .pending, nextRetryAt := now + 60000, updatedAt := now }

/-- A failed execution: one more attempt, and then dead or pending. -/
def fracasoSql (now : Int) (errorType errorMessage : String) (id : Nat) (t : Tabla) : Tabla :=
  match t.filas id with
  | some r =>
    if r.status = .inProgress then
      t.cambia id fun r =>
        let r := { r with
          attempts := r.attempts + 1
          errorType := errorType
          errorMessage := errorMessage
          updatedAt := now }
        if cfg.maxAttempts ≤ r.attempts then { r with status := .dead }
        else { r with
          status := .pending
          nextRetryAt := computeNextRetryAt now r.attempts cfg.baseBackoffS }
    else t
  | none => t

def deleteSql (id : Nat) (t : Tabla) : Tabla := { t with filas := Function.update t.filas id none }

/-- A batch: pending rows that are due, the most overdue first, all of them if
    they are fewer than the limit. -/
structure LoteDue (t : Tabla) (now : Int) (limit : Nat) (lote : List DLQRow) : Prop where
  pocas : lote.length ≤ limit
  distintas : (lote.map (·.id)).Nodup
  vencidas : ∀ r ∈ lote, t.filas r.id = some r ∧ r.status = .pending ∧ r.nextRetryAt ≤ now
  orden : lote.Pairwise fun a b => a.nextRetryAt ≤ b.nextRetryAt
  todas : lote.length < limit → ∀ id < t.proximo, (t.filas id).all (fun r =>
    !(r.status = .pending && r.nextRetryAt ≤ now) || lote.contains r) = true

instance (t : Tabla) (now : Int) (limit : Nat) (lote : List DLQRow) :
    Decidable (LoteDue t now limit lote) :=
  decidable_of_iff (lote.length ≤ limit ∧ (lote.map (·.id)).Nodup ∧
      (∀ r ∈ lote, t.filas r.id = some r ∧ r.status = .pending ∧ r.nextRetryAt ≤ now) ∧
      lote.Pairwise (fun a b => a.nextRetryAt ≤ b.nextRetryAt) ∧
      (lote.length < limit → ∀ id < t.proximo, (t.filas id).all (fun r =>
        !(r.status = .pending && r.nextRetryAt ≤ now) || lote.contains r) = true))
    ⟨fun h => ⟨h.1, h.2.1, h.2.2.1, h.2.2.2.1, h.2.2.2.2⟩,
      fun h => ⟨h.pocas, h.distintas, h.vencidas, h.orden, h.todas⟩⟩

/-- The execution of a claimed row, from its claim to its last transaction. -/
inductive Fase where
  | reclamada
  | ejecuta
  | exito
  | fracaso (errorType errorMessage : String)
  | noResuelto
  deriving DecidableEq

/-- A retry task. `terminado` is a task that ended by itself: `start` ignores it. -/
inductive Trabajador where
  | parado
  | arranca
  | terminado
  | lote (filas : List DLQRow)
  | procesa (fila : DLQRow) (fase : Fase) (resto : List DLQRow)
  deriving DecidableEq

/-- `filas` and the ghosts: which ids were returned by `enqueue`, how often the
    handler of a row succeeded and failed, the last step in which somebody was
    executing it and the step of each worker's recovery. -/
structure Estado where
  tabla : Tabla
  trabajadores : Nat → Trabajador
  reloj : Nat
  devueltas : Nat → Bool
  exitos : Nat → Nat
  fracasos : Nat → Nat
  visto : Nat → Nat
  inicio : Nat → Nat

def Estado.inicial : Estado :=
  { tabla := ⟨fun _ => none, 0⟩, trabajadores := fun _ => .parado, reloj := 0
    devueltas := fun _ => false, exitos := fun _ => 0, fracasos := fun _ => 0
    visto := fun _ => 0, inicio := fun _ => 0 }

/-- What becomes of the caller of a transaction. -/
inductive Sigue where
  | continua
  /-- An exception: the worker's loop catches it. -/
  | excepcion
  /-- Cancellation or the crash of the process. -/
  | corta
  deriving DecidableEq

/-- Whether a transaction took effect and how its caller goes on; one that goes on
    normally has committed. -/
structure Desenlace where
  efecto : Bool
  sigue : Sigue
  ok : sigue = .continua → efecto = true

inductive Resolucion where
  | handler
  | noRegistrado
  | excepcion
  deriving DecidableEq

inductive Ejecucion where
  | vuelve
  | lanza (errorType errorMessage : String)
  deriving DecidableEq

inductive Evento where
  | enqueue (now : Int) (f : Fallo) (fin : Desenlace)
  | start (w : Nat)
  | recupera (w : Nat) (now : Int) (fin : Desenlace)
  | sondea (w : Nat) (now : Int) (lote : Option (List DLQRow))
  | reclama (w : Nat) (now : Int) (fin : Desenlace)
  | resuelve (w : Nat) (que : Resolucion)
  | handler (w : Nat) (que : Ejecucion)
  | cierra (w : Nat) (now : Int) (fin : Desenlace)
  /-- `stop`, a cancellation or a crash at any wait. -/
  | para (w : Nat)

/-- Where the worker goes after a transaction: on, to the next poll, or nowhere. -/
def trasTransaccion (fin : Desenlace) (sigue : Trabajador) : Trabajador :=
  match fin.sigue with
  | .continua => sigue
  | .excepcion => .lote []
  | .corta => .parado

def Estado.pone (s : Estado) (w : Nat) (tr : Trabajador) : Estado :=
  { s with trabajadores := Function.update s.trabajadores w tr, reloj := s.reloj + 1 }

def Estado.marca (s : Estado) (id : Nat) : Estado :=
  { s with visto := Function.update s.visto id s.reloj }

/-- How much a closing transaction may add to the attempts. -/
def Fase.coste : Fase → Nat
  | .fracaso _ _ => 1
  | _ => 0

def cierreSql (now : Int) (fase : Fase) (id : Nat) (t : Tabla) : Option Tabla :=
  match fase with
  | .exito => some (deleteSql id t)
  | .fracaso errorType errorMessage => some (fracasoSql cfg now errorType errorMessage id t)
  | .noResuelto => some (noResueltoSql now id t)
  | .reclamada | .ejecuta => none

def step (s : Estado) : Evento → Option Estado
  | .enqueue now f fin =>
    let tabla := if fin.efecto then insertSql cfg now f s.tabla else s.tabla
    some { s with
      tabla := tabla
      reloj := s.reloj + 1
      devueltas := if fin.sigue = .continua then Function.update s.devueltas s.tabla.proximo true
        else s.devueltas }
  | .start w =>
    match s.trabajadores w with
    | .parado => some (s.pone w .arranca)
    | _ => some s
  | .recupera w now fin =>
    match s.trabajadores w with
    | .arranca =>
      let s := { s with tabla := if fin.efecto then recoverSql now s.tabla else s.tabla }
      -- an exception here is outside the loop's try and ends the task
      match fin.sigue with
      | .continua => some ({ s with inicio := Function.update s.inicio w s.reloj }.pone w (.lote []))
      | .excepcion => some (s.pone w .terminado)
      | .corta => some (s.pone w .parado)
    | _ => none
  | .sondea w now lote =>
    match s.trabajadores w, lote with
    | .lote [], some filas =>
      if LoteDue s.tabla now cfg.batchSize filas then some (s.pone w (.lote filas)) else none
    | .lote [], none => some (s.pone w (.lote []))
    | _, _ => none
  | .reclama w now fin =>
    match s.trabajadores w with
    | .lote (fila :: resto) =>
      match claimSql now fila.id s.tabla with
      | some tabla =>
        if fin.efecto then
          some (({ s with tabla := tabla }.marca fila.id).pone w
            (trasTransaccion fin (.procesa fila .reclamada resto)))
        else some (s.pone w (trasTransaccion fin (.lote resto)))
      | none => some (s.pone w (trasTransaccion fin (.lote resto)))
    | _ => none
  | .resuelve w que =>
    match s.trabajadores w with
    | .procesa fila .reclamada resto =>
      match que with
      | .handler => some (s.pone w (.procesa fila .ejecuta resto))
      | .noRegistrado => some (s.pone w (.procesa fila .noResuelto resto))
      | .excepcion => some ((s.marca fila.id).pone w (.lote []))
    | _ => none
  | .handler w que =>
    match s.trabajadores w with
    | .procesa fila .ejecuta resto =>
      match que with
      | .vuelve => some ({ s with
          exitos := Function.update s.exitos fila.id (s.exitos fila.id + 1) }.pone w
            (.procesa fila .exito resto))
      | .lanza errorType errorMessage => some ({ s with
          fracasos := Function.update s.fracasos fila.id (s.fracasos fila.id + 1) }.pone w
            (.procesa fila (.fracaso errorType errorMessage) resto))
    | _ => none
  | .cierra w now fin =>
    match s.trabajadores w with
    | .procesa fila fase resto =>
      match cierreSql cfg now fase fila.id s.tabla with
      | some tabla =>
        some (({ s with tabla := if fin.efecto then tabla else s.tabla }.marca fila.id).pone w
          (trasTransaccion fin (.lote resto)))
      | none => none
    | _ => none
  | .para w =>
    match s.trabajadores w with
    | .procesa fila _ _ => some ((s.marca fila.id).pone w .parado)
    | _ => some (s.pone w .parado)

/-! What is claimed -/

def Trabajador.ejecutaFila (id : Nat) : Trabajador → Bool
  | .procesa fila _ _ => fila.id == id
  | _ => false

def Trabajador.corre : Trabajador → Bool
  | .lote _ | .procesa _ _ _ => true
  | _ => false

def Estado.ejecutandose (s : Estado) (id : Nat) : Prop :=
  ∃ w, (s.trabajadores w).ejecutaFila id = true

/-- A row in progress that nobody is executing. -/
def Estado.huerfana (s : Estado) (id : Nat) : Prop :=
  (∃ r, s.tabla.filas id = some r ∧ r.status = .inProgress) ∧ ¬ s.ejecutandose id

/-- A worker's start finds no orphan touched in the last minute. -/
def permitido (s : Estado) : Evento → Prop
  | .recupera _ now _ => ∀ id r, s.tabla.filas id = some r → s.huerfana id → r.updatedAt + 60000 < now
  | _ => True

structure EntregaSegura (s : Estado) : Prop where
  conservada : ∀ id, s.devueltas id = true → s.tabla.filas id ≠ none ∨ 0 < s.exitos id
  agotada : ∀ id r, s.tabla.filas id = some r → r.status = .dead → cfg.maxAttempts ≤ s.fracasos id
  /-- An orphan of now was still being executed after every running worker's start. -/
  sinAtasco : ∀ w id, (s.trabajadores w).corre = true → s.huerfana id → s.inicio w < s.visto id

/-- The next start makes every orphan pending again. -/
def RecuperaTodo (s : Estado) : Prop :=
  ∀ w now fin t, permitido s (.recupera w now fin) → fin.sigue = .continua →
    step cfg s (.recupera w now fin) = some t →
    ∀ id, s.huerfana id → ∃ r, t.tabla.filas id = some r ∧ r.status = .pending

/-! The statements -/

section Sql
variable {cfg} {t t' : Tabla} {id j : Nat} {now : Int} {r : DLQRow}

@[simp] theorem filas_cambia (t : Tabla) (id : Nat) (f : DLQRow → DLQRow) (j : Nat) :
    (t.cambia id f).filas j = if j = id then (t.filas id).map f else t.filas j := by
  simp [Tabla.cambia, Function.update_apply]

theorem filas_insert (cfg : Config) (now : Int) (f : Fallo) (t : Tabla) : (∃ r, (insertSql cfg now f t).filas t.proximo = some r ∧
      r.status = .pending ∧ r.attempts = 0) ∧
    ∀ j, j ≠ t.proximo → (insertSql cfg now f t).filas j = t.filas j := by
  constructor
  · exact ⟨_, Function.update_self .., rfl, rfl⟩
  · intro j other
    exact Function.update_of_ne other _ _

/-- How a statement may change a row: it keeps the attempts or adds one, and the
    row is dead afterwards only if it was or has used up its attempts. -/
structure Sobre (cfg : Config) (extra : Nat) (r r' : DLQRow) : Prop where
  attempts : r'.attempts ≤ r.attempts + extra
  dead : r'.status = .dead → r.status = .dead ∧ r'.attempts = r.attempts ∨ cfg.maxAttempts ≤ r'.attempts

theorem Sobre.refl (cfg : Config) (extra : Nat) (r : DLQRow) : Sobre cfg extra r r :=
  ⟨by omega, fun dead => .inl ⟨dead, rfl⟩⟩

/-- A statement about one row: the others stay and this one is changed or gone. -/
structure Toca (cfg : Config) (extra : Nat) (borra : Bool) (id : Nat) (t t' : Tabla) : Prop where
  proximo : t'.proximo = t.proximo
  otras : ∀ j, j ≠ id → t'.filas j = t.filas j
  fila : ∀ r', t'.filas id = some r' → ∃ r, t.filas id = some r ∧ Sobre cfg extra r r'
  queda : borra = false → t.filas id ≠ none → t'.filas id ≠ none

theorem Toca.refl (cfg : Config) (extra : Nat) (borra : Bool) (id : Nat) (t : Tabla) :
    Toca cfg extra borra id t t :=
  ⟨rfl, fun _ _ => rfl, fun r here => ⟨r, here, .refl cfg extra r⟩, fun _ some_ => some_⟩

theorem toca_cambia {extra : Nat} {f : DLQRow → DLQRow} (sobre : ∀ r, t.filas id = some r →
    Sobre cfg extra r (f r)) : Toca cfg extra false id t (t.cambia id f) := by
  refine ⟨rfl, ?_, ?_, ?_⟩
  · intro j other
    simp [other]
  · intro r' here
    simp only [filas_cambia, if_true, Option.map_eq_some_iff] at here
    obtain ⟨r, there, rfl⟩ := here
    exact ⟨r, there, sobre r there⟩
  · intro _ some_
    simpa using some_

theorem claimSql_spec (claimed : claimSql now id t = some t') :
    Toca cfg 0 false id t t' ∧ ∃ r, t.filas id = some r ∧ r.status = .pending := by
  unfold claimSql at claimed
  split at claimed
  · next r here =>
    split at claimed
    · next pending =>
      cases claimed
      refine ⟨toca_cambia fun r _ => ⟨by simp, fun dead => ?_⟩, r, here, pending⟩
      cases dead
    · cases claimed
  · cases claimed

theorem fracasoSql_spec (errorType errorMessage : String) :
    Toca cfg 1 false id t (fracasoSql cfg now errorType errorMessage id t) := by
  unfold fracasoSql
  split
  · split
    · refine toca_cambia fun r _ => ⟨?_, ?_⟩
      · simp only
        split <;> simp
      · intro dead
        simp only at dead ⊢
        split at dead
        · next enough =>
          right
          rw [if_pos enough]
          exact enough
        · cases dead
    · exact .refl cfg 1 _ id t
  · exact .refl cfg 1 _ id t

theorem cierreSql_spec {fase : Fase} (closed : cierreSql cfg now fase id t = some t') :
    Toca cfg fase.coste (fase == .exito) id t t' := by
  cases fase with
  | reclamada => cases closed
  | ejecuta => cases closed
  | exito =>
    cases closed
    refine ⟨rfl, fun j other => Function.update_of_ne other _ _, ?_, ?_⟩
    · intro r' here
      simp [deleteSql] at here
    · intro no
      cases no
  | noResuelto =>
    cases closed
    refine toca_cambia fun r _ => ⟨by simp, fun dead => ?_⟩
    cases dead
  | fracaso errorType errorMessage =>
    cases closed
    exact fracasoSql_spec errorType errorMessage

/-- The recovery changes no attempts and makes no row dead. -/
theorem recoverSql_spec (cfg : Config) (r' : DLQRow) (here : (recoverSql now t).filas id = some r') :
    ∃ r, t.filas id = some r ∧ Sobre cfg 0 r r' ∧
      (r'.status = .inProgress → r' = r ∧ ¬ r.updatedAt + 60000 < now) := by
  simp only [recoverSql, Option.map_eq_some_iff] at here
  obtain ⟨r, there, same⟩ := here
  refine ⟨r, there, ?_⟩
  split at same
  · next stale =>
    subst same
    refine ⟨⟨by simp, fun dead => ?_⟩, fun progress => ?_⟩
    · cases dead
    · cases progress
  · next fresh =>
    subst same
    exact ⟨.refl cfg 0 r, fun progress => ⟨rfl, fun old => fresh ⟨progress, old⟩⟩⟩

end Sql

/-! The invariants -/

/-- What `enqueue` returned is there or its handler succeeded; a worker about to
    delete has seen the success. -/
structure Conserva (s : Estado) : Prop where
  devuelta : ∀ id, s.devueltas id = true → s.tabla.filas id ≠ none ∨ 0 < s.exitos id
  nueva : ∀ id, s.tabla.proximo ≤ id → s.tabla.filas id = none ∧ s.devueltas id = false
  exito : ∀ w fila resto, s.trabajadores w = .procesa fila .exito resto → 0 < s.exitos fila.id

def Trabajador.fracasando (id : Nat) : Trabajador → Bool
  | .procesa fila (.fracaso _ _) _ => fila.id == id
  | _ => false

def intentos (t : Tabla) (id : Nat) : Nat := (t.filas id).elim 0 (·.attempts)

/-- The attempts of a row and the failures still to be counted are failures. -/
structure Cuenta (s : Estado) : Prop where
  cuenta : ∀ id, ∃ pendientes : List Nat, pendientes.Nodup ∧
    (∀ w, (s.trabajadores w).fracasando id = true ↔ w ∈ pendientes) ∧
    intentos s.tabla id + pendientes.length ≤ s.fracasos id
  dead : ∀ id r, s.tabla.filas id = some r → r.status = .dead → cfg.maxAttempts ≤ r.attempts

structure AlDia (s : Estado) : Prop where
  antes : ∀ w, (s.trabajadores w).corre = true → s.inicio w < s.reloj
  vista : ∀ id r, s.tabla.filas id = some r → r.status = .inProgress →
    s.ejecutandose id ∨ ∀ w, (s.trabajadores w).corre = true → s.inicio w < s.visto id

section Pasos
variable {cfg} {s t : Estado} {e : Evento}

theorem trabajador_pone (s : Estado) (w : Nat) (tr : Trabajador) (v : Nat) :
    (s.pone w tr).trabajadores v = if v = w then tr else s.trabajadores v :=
  Function.update_apply ..

theorem exito_pone {w : Nat} {tr : Trabajador} {exitos : Nat → Nat}
    (before : ∀ v fila resto, s.trabajadores v = .procesa fila .exito resto → 0 < exitos fila.id)
    (mine : ∀ fila resto, tr = .procesa fila .exito resto → 0 < exitos fila.id) :
    ∀ v fila resto, (s.pone w tr).trabajadores v = .procesa fila .exito resto → 0 < exitos fila.id := by
  intro v fila resto there
  rw [trabajador_pone] at there
  split at there
  · exact mine fila resto there
  · exact before v fila resto there

/-- A worker that moves without a row failing in its hands, or leaves such a row. -/
theorem pendientes_quita {w id : Nat} {tr : Trabajador} {pendientes : List Nat} (nodup : pendientes.Nodup)
    (members : ∀ v, (s.trabajadores v).fracasando id = true ↔ v ∈ pendientes)
    (mine : tr.fracasando id = false) :
    ∃ resto : List Nat, resto.Nodup ∧ (∀ v, ((s.pone w tr).trabajadores v).fracasando id = true ↔ v ∈ resto) ∧
      resto.length + (if (s.trabajadores w).fracasando id then 1 else 0) = pendientes.length := by
  refine ⟨pendientes.erase w, nodup.erase w, ?_, ?_⟩
  · intro v
    rw [trabajador_pone, nodup.mem_erase_iff]
    split
    · next same =>
      subst same
      simp [mine]
    · next other => rw [members v, and_iff_right other]
  · by_cases failing : (s.trabajadores w).fracasando id = true
    · have inside := (members w).mp failing
      rw [if_pos failing, List.length_erase_of_mem inside]
      have := List.length_pos_of_mem inside
      omega
    · rw [if_neg failing, List.erase_of_not_mem fun inside => failing ((members w).mpr inside)]
      rfl

/-- Every move of a worker but the handler's failure keeps the count. -/
theorem Cuenta.mueve (cu : Cuenta cfg s) {w : Nat} {tr : Trabajador} (extra : Nat → Nat)
    (filas : ∀ j r', t.tabla.filas j = some r' → ∃ r, s.tabla.filas j = some r ∧ Sobre cfg (extra j) r r')
    (mine : ∀ j, tr.fracasando j = false) (movida : t.trabajadores = (s.pone w tr).trabajadores)
    (pagado : ∀ j, extra j ≤ if (s.trabajadores w).fracasando j then 1 else 0)
    (fracasos : t.fracasos = s.fracasos) : Cuenta cfg t := by
  constructor
  · intro j
    obtain ⟨pendientes, nodup, members, total⟩ := cu.cuenta j
    obtain ⟨resto, nodup', members', length⟩ := pendientes_quita (w := w) nodup members (mine j)
    refine ⟨resto, nodup', by rw [movida]; exact members', ?_⟩
    rw [fracasos]
    have less : intentos t.tabla j ≤ intentos s.tabla j + extra j := by
      unfold intentos
      cases here : t.tabla.filas j with
      | none => exact Nat.zero_le _
      | some r' =>
        obtain ⟨r, there, sobre⟩ := filas j r' here
        rw [there]
        exact sobre.attempts
    have := pagado j
    omega
  · intro j r' here dead
    obtain ⟨r, there, sobre⟩ := filas j r' here
    cases sobre.dead dead with
    | inl was =>
      rw [was.2]
      exact cu.dead j r there was.1
    | inr enough => exact enough

/-- A worker moves: it runs only if it did, and a row it drops is marked. -/
theorem AlDia.mueve (al : AlDia s) {w : Nat} {tr : Trabajador}
    (movida : t.trabajadores = (s.pone w tr).trabajadores) (inicio : t.inicio = s.inicio)
    (reloj : t.reloj = s.reloj + 1) (corre : tr.corre = true → (s.trabajadores w).corre = true)
    (filas : ∀ j r', t.tabla.filas j = some r' → r'.status = .inProgress →
      (∃ r, s.tabla.filas j = some r ∧ r.status = .inProgress) ∨ t.visto j = s.reloj)
    (visto : ∀ j, t.visto j = s.visto j ∨ t.visto j = s.reloj)
    (suelta : ∀ j, (s.trabajadores w).ejecutaFila j = true →
      tr.ejecutaFila j = true ∨ t.visto j = s.reloj) : AlDia t := by
  have ran : ∀ v, (t.trabajadores v).corre = true → (s.trabajadores v).corre = true := by
    intro v runs
    rw [movida, trabajador_pone] at runs
    split at runs
    · next same => exact same ▸ corre runs
    · exact runs
  have now_seen : ∀ j, t.visto j = s.reloj → ∀ v, (t.trabajadores v).corre = true → t.inicio v < t.visto j := by
    intro j seen v runs
    rw [seen, inicio]
    exact al.antes v (ran v runs)
  constructor
  · intro v runs
    have := al.antes v (ran v runs)
    rw [inicio, reloj]
    omega
  · intro j r' here progress
    cases filas j r' here progress with
    | inr seen => exact .inr (now_seen j seen)
    | inl before =>
      obtain ⟨r, there, was⟩ := before
      cases al.vista j r there was with
      | inl executing =>
        obtain ⟨v, executes⟩ := executing
        by_cases same : v = w
        · subst same
          cases suelta j executes with
          | inl still => exact .inl ⟨v, by rw [movida, trabajador_pone, if_pos rfl]; exact still⟩
          | inr seen => exact .inr (now_seen j seen)
        · exact .inl ⟨v, by rw [movida, trabajador_pone, if_neg same]; exact executes⟩
      | inr earlier =>
        right
        cases visto j with
        | inr seen => exact now_seen j seen
        | inl kept =>
          intro v runs
          rw [inicio, kept]
          exact earlier v (ran v runs)

/-- What a step of one worker does: it moves, at most one row is touched, and a row
    that leaves its hands, or that it touches, is marked as seen now. -/
structure Movimiento (cfg : Config) (s t : Estado) (w : Nat) (tr : Trabajador) (extra : Nat)
    (borra : Bool) (id : Nat) : Prop where
  movida : t.trabajadores = (s.pone w tr).trabajadores
  inicio : t.inicio = s.inicio
  reloj : t.reloj = s.reloj + 1
  fracasos : t.fracasos = s.fracasos
  devueltas : t.devueltas = s.devueltas
  exitos : ∀ j, s.exitos j ≤ t.exitos j
  toca : Toca cfg extra borra id s.tabla t.tabla
  pagado : extra ≤ if (s.trabajadores w).fracasando id then 1 else 0
  limpio : ∀ j, tr.fracasando j = false
  corre : tr.corre = true → (s.trabajadores w).corre = true
  borrado : borra = true → ∃ fila resto, s.trabajadores w = .procesa fila .exito resto ∧ fila.id = id
  mio : ∀ fila resto, tr = .procesa fila .exito resto → 0 < t.exitos fila.id
  visto : (t.visto = s.visto ∧ t.tabla = s.tabla ∧
      ∀ j, (s.trabajadores w).ejecutaFila j = true → tr.ejecutaFila j = true) ∨
    (t.visto = Function.update s.visto id s.reloj ∧
      ∀ j, (s.trabajadores w).ejecutaFila j = true → j = id)

theorem Movimiento.alDia {w extra id : Nat} {tr : Trabajador} {borra : Bool}
    (m : Movimiento cfg s t w tr extra borra id) (al : AlDia s) : AlDia t := by
  refine al.mueve m.movida m.inicio m.reloj m.corre ?_ ?_ ?_
  · intro j r' here progress
    obtain ⟨_, same, _⟩ | ⟨seen, _⟩ := m.visto
    · exact .inl ⟨r', same ▸ here, progress⟩
    · by_cases mine : j = id
      · right
        rw [seen, mine, Function.update_self]
      · exact .inl ⟨r', (m.toca.otras j mine) ▸ here, progress⟩
  · intro j
    obtain ⟨same, _⟩ | ⟨seen, _⟩ := m.visto
    · exact .inl (by rw [same])
    · by_cases mine : j = id
      · right
        rw [seen, mine, Function.update_self]
      · left
        rw [seen, Function.update_of_ne mine]
  · intro j executes
    obtain ⟨_, _, still⟩ | ⟨seen, only⟩ := m.visto
    · exact .inl (still j executes)
    · right
      rw [seen, only j executes, Function.update_self]

theorem Movimiento.conserva {w extra id : Nat} {tr : Trabajador} {borra : Bool}
    (m : Movimiento cfg s t w tr extra borra id) (co : Conserva s) : Conserva t := by
  constructor
  · intro j given
    rw [m.devueltas] at given
    cases co.devuelta j given with
    | inr succeeded => exact .inr (Nat.lt_of_lt_of_le succeeded (m.exitos j))
    | inl there =>
      by_cases same : j = id
      · subst same
        cases erased : borra with
        | true =>
          obtain ⟨fila, resto, doing, same⟩ := m.borrado erased
          have succeeded := co.exito w fila resto doing
          rw [same] at succeeded
          exact .inr (Nat.lt_of_lt_of_le succeeded (m.exitos j))
        | false => exact .inl (m.toca.queda erased there)
      · exact .inl (m.toca.otras j same ▸ there)
  · intro j late
    rw [m.toca.proximo] at late
    rw [m.devueltas]
    refine ⟨?_, (co.nueva j late).2⟩
    by_cases same : j = id
    · subst same
      cases here : t.tabla.filas j with
      | none => rfl
      | some r' =>
        obtain ⟨r, there, _⟩ := m.toca.fila r' here
        rw [(co.nueva j late).1] at there
        cases there
    · rw [m.toca.otras j same]
      exact (co.nueva j late).1
  · rw [m.movida]
    exact exito_pone (fun v fila resto there => Nat.lt_of_lt_of_le (co.exito v fila resto there) (m.exitos _)) m.mio

theorem Movimiento.cuenta {w extra id : Nat} {tr : Trabajador} {borra : Bool}
    (m : Movimiento cfg s t w tr extra borra id) (cu : Cuenta cfg s) : Cuenta cfg t := by
  refine cu.mueve (fun j => if j = id then extra else 0) ?_ m.limpio m.movida ?_ m.fracasos
  · intro j r' here
    split
    · next same =>
      subst same
      exact m.toca.fila r' here
    · next other =>
      rw [m.toca.otras j other] at here
      exact ⟨r', here, .refl cfg 0 r'⟩
  · intro j
    split
    · next same => exact same ▸ m.pagado
    · exact Nat.zero_le _

theorem tras_lote (fin : Desenlace) (resto : List DLQRow) :
    (∀ j, (trasTransaccion fin (.lote resto)).fracasando j = false) ∧
    (∀ fila resto', trasTransaccion fin (.lote resto) ≠ .procesa fila .exito resto') := by
  unfold trasTransaccion
  cases fin.sigue
  · exact ⟨fun _ => rfl, nofun⟩
  · exact ⟨fun _ => rfl, nofun⟩
  · exact ⟨fun _ => rfl, nofun⟩

/-- A worker that holds no row moves without touching the table. -/
theorem Movimiento.sinFila {w : Nat} {tr : Trabajador} (idle : ∀ j, (s.trabajadores w).ejecutaFila j = false)
    (limpio : ∀ j, tr.fracasando j = false) (corre : tr.corre = true → (s.trabajadores w).corre = true)
    (mio : ∀ fila resto, tr ≠ .procesa fila .exito resto) :
    Movimiento cfg s (s.pone w tr) w tr 0 false 0 := by
  refine ⟨rfl, rfl, rfl, rfl, rfl, fun _ => Nat.le_refl _, .refl cfg 0 false 0 _, Nat.zero_le _, limpio, corre,
    nofun, fun fila resto same => absurd same (mio fila resto), .inl ⟨rfl, rfl, ?_⟩⟩
  intro j executes
  rw [idle j] at executes
  cases executes

/-- A worker drops its row without a statement. -/
theorem Movimiento.suelta {w : Nat} {fila : DLQRow} {fase : Fase} {resto : List DLQRow} {tr : Trabajador}
    (doing : s.trabajadores w = .procesa fila fase resto) (limpio : ∀ j, tr.fracasando j = false)
    (mio : ∀ fila resto, tr ≠ .procesa fila .exito resto) :
    Movimiento cfg s ((s.marca fila.id).pone w tr) w tr 0 false fila.id := by
  refine ⟨rfl, rfl, rfl, rfl, rfl, fun _ => Nat.le_refl _, .refl cfg 0 false fila.id _, Nat.zero_le _, limpio, ?_,
    nofun, fun fila' resto' same => absurd same (mio fila' resto'), .inr ⟨rfl, ?_⟩⟩
  · intro _
    rw [doing]
    rfl
  · intro j executes
    rw [doing] at executes
    exact (beq_iff_eq.mp executes).symm

/-- Every step is a move of one worker, an `enqueue`, a recovery, a handler's failure
    or a `start` that does nothing. -/
theorem step_cases (moved : step cfg s e = some t) :
    (∃ w tr extra borra id, Movimiento cfg s t w tr extra borra id) ∨
    (∃ now f fin, e = .enqueue now f fin) ∨
    (∃ w now fin, e = .recupera w now fin) ∨
    (∃ w fila resto errorType errorMessage, s.trabajadores w = .procesa fila .ejecuta resto ∧
      t = { s with fracasos := Function.update s.fracasos fila.id (s.fracasos fila.id + 1) }.pone w
        (.procesa fila (.fracaso errorType errorMessage) resto)) ∨
    t = s := by
  cases e with
  | enqueue now f fin => exact .inr (.inl ⟨now, f, fin, rfl⟩)
  | recupera w now fin => exact .inr (.inr (.inl ⟨w, now, fin, rfl⟩))
  | start w =>
    simp only [step] at moved
    split at moved
    · next idle =>
      cases moved
      left
      exact ⟨w, _, _, _, _, .sinFila (by simp [idle, Trabajador.ejecutaFila]) (fun _ => rfl) nofun nofun⟩
    · cases moved
      exact .inr (.inr (.inr (.inr rfl)))
  | sondea w now lote =>
    left
    simp only [step] at moved
    split at moved
    · next idle =>
      split at moved
      · cases moved
        exact ⟨w, _, _, _, _, .sinFila (by simp [idle, Trabajador.ejecutaFila]) (fun _ => rfl)
          (fun _ => by rw [idle]; rfl) nofun⟩
      · cases moved
    · next idle =>
      cases moved
      exact ⟨w, _, _, _, _, .sinFila (by simp [idle, Trabajador.ejecutaFila]) (fun _ => rfl)
        (fun _ => by rw [idle]; rfl) nofun⟩
    · cases moved
  | reclama w now fin =>
    left
    simp only [step] at moved
    split at moved
    · next fila resto idle =>
      have no_row : ∀ j, (s.trabajadores w).ejecutaFila j = false := by
        intro j
        rw [idle]
        rfl
      have runs : (s.trabajadores w).corre = true := by
        rw [idle]
        rfl
      have skip : ∃ w' tr extra borra id, Movimiento cfg s
          (s.pone w (trasTransaccion fin (.lote resto))) w' tr extra borra id :=
        ⟨w, _, _, _, _, .sinFila no_row (tras_lote fin resto).1 (fun _ => runs) (tras_lote fin resto).2⟩
      split at moved
      · next tabla claimed =>
        split at moved
        · cases moved
          refine ⟨w, _, 0, false, fila.id, rfl, rfl, rfl, rfl, rfl, fun _ => Nat.le_refl _,
            (claimSql_spec claimed).1, Nat.zero_le _, ?_, fun _ => runs, nofun, ?_, .inr ⟨rfl, ?_⟩⟩
          · intro j
            unfold trasTransaccion
            cases fin.sigue <;> rfl
          · intro fila' resto' same
            unfold trasTransaccion at same
            cases sigue : fin.sigue <;> rw [sigue] at same <;> cases same
          · intro j executes
            rw [no_row j] at executes
            cases executes
        · cases moved
          exact skip
      · cases moved
        exact skip
    · cases moved
  | resuelve w que =>
    left
    simp only [step] at moved
    split at moved
    · next fila resto doing =>
      have holds : ∀ fase, (∀ j, (Trabajador.procesa fila fase resto).fracasando j = false) →
          fase ≠ .exito → ∃ w' tr extra borra id, Movimiento cfg s
            (s.pone w (.procesa fila fase resto)) w' tr extra borra id := by
        intro fase limpio other
        refine ⟨w, _, 0, false, 0, rfl, rfl, rfl, rfl, rfl, fun _ => Nat.le_refl _, .refl cfg 0 false 0 _,
          Nat.zero_le _, limpio, ?_, nofun, ?_, .inl ⟨rfl, rfl, ?_⟩⟩
        · intro _
          rw [doing]
          rfl
        · intro fila' resto' same
          cases same
          exact absurd rfl other
        · intro j executes
          rw [doing] at executes
          exact executes
      cases que with
      | handler =>
        cases moved
        exact holds .ejecuta (fun _ => rfl) nofun
      | noRegistrado =>
        cases moved
        exact holds .noResuelto (fun _ => rfl) nofun
      | excepcion =>
        cases moved
        exact ⟨w, _, _, _, _, .suelta doing (fun _ => rfl) nofun⟩
    · cases moved
  | handler w que =>
    simp only [step] at moved
    split at moved
    · next fila resto doing =>
      cases que with
      | lanza errorType errorMessage =>
        cases moved
        exact .inr (.inr (.inr (.inl ⟨w, fila, resto, errorType, errorMessage, doing, rfl⟩)))
      | vuelve =>
        cases moved
        left
        refine ⟨w, _, 0, false, 0, rfl, rfl, rfl, rfl, rfl, ?_, .refl cfg 0 false 0 _, Nat.zero_le _,
          fun _ => rfl, ?_, nofun, ?_, .inl ⟨rfl, rfl, ?_⟩⟩
        · intro j
          simp only [Estado.pone, Function.update_apply]
          split
          · next same => rw [same]; omega
          · omega
        · intro _
          rw [doing]
          rfl
        · intro fila' resto' same
          cases same
          simp [Estado.pone]
        · intro j executes
          rw [doing] at executes
          exact executes
    · cases moved
  | cierra w now fin =>
    left
    simp only [step] at moved
    split at moved
    · next fila fase resto doing =>
      split at moved
      · next tabla closed =>
        cases moved
        have spec := cierreSql_spec closed
        refine ⟨w, trasTransaccion fin (.lote resto), fase.coste, fase == .exito,
          fila.id, rfl, rfl, rfl, rfl, rfl, fun _ => Nat.le_refl _, ?_, ?_, (tras_lote fin resto).1,
          ?_, ?_, fun fila' resto' same => absurd same ((tras_lote fin resto).2 fila' resto'), .inr ⟨rfl, ?_⟩⟩
        · cases effect : fin.efecto
          · exact .refl cfg _ _ _ _
          · exact spec
        · rw [doing]
          cases fase <;> simp [Trabajador.fracasando, Fase.coste]
        · intro _
          rw [doing]
          rfl
        · intro erased
          have phase : fase = .exito := beq_iff_eq.mp erased
          exact ⟨fila, resto, phase ▸ doing, rfl⟩
        · intro j executes
          rw [doing] at executes
          exact (beq_iff_eq.mp executes).symm
      · cases moved
    · cases moved
  | para w =>
    left
    simp only [step] at moved
    split at moved
    · next fila fase resto doing =>
      cases moved
      exact ⟨w, _, _, _, _, .suelta doing (fun _ => rfl) nofun⟩
    · next free =>
      cases moved
      refine ⟨w, _, _, _, _, .sinFila ?_ (fun _ => rfl) nofun nofun⟩
      intro j
      cases doing : s.trabajadores w with
      | procesa fila fase resto => exact absurd doing (free fila fase resto)
      | parado => rfl
      | arranca => rfl
      | terminado => rfl
      | lote filas => rfl

/-! The steps that are not moves -/

section Enqueue
variable {now : Int} {f : Fallo} {fin : Desenlace}

theorem enqueue_fila {id : Nat} {r : DLQRow} (moved : step cfg s (.enqueue now f fin) = some t)
    (here : t.tabla.filas id = some r) :
    s.tabla.filas id = some r ∨ id = s.tabla.proximo ∧ r.status = .pending ∧ r.attempts = 0 := by
  cases moved
  simp only at here
  split at here
  · by_cases same : id = s.tabla.proximo
    · obtain ⟨⟨r', there, pending, zero⟩, _⟩ := filas_insert cfg now f s.tabla
      rw [same, there] at here
      cases here
      exact .inr ⟨same, pending, zero⟩
    · rw [(filas_insert cfg now f s.tabla).2 id same] at here
      exact .inl here
  · exact .inl here

theorem enqueue_conserva (moved : step cfg s (.enqueue now f fin) = some t) (co : Conserva s) :
    Conserva t := by
  cases moved
  obtain ⟨⟨r, inserted, _⟩, others⟩ := filas_insert cfg now f s.tabla
  constructor
  · intro id given
    simp only at given ⊢
    by_cases same : id = s.tabla.proximo
    · split at given
      · next returned =>
        left
        rw [if_pos (fin.ok returned), same, inserted]
        nofun
      · rw [same, (co.nueva _ (Nat.le_refl _)).2] at given
        cases given
    · have before : s.devueltas id = true := by
        split at given
        · rw [Function.update_of_ne same] at given
          exact given
        · exact given
      cases co.devuelta id before with
      | inr succeeded => exact .inr succeeded
      | inl there =>
        left
        split
        · rw [others id same]
          exact there
        · exact there
  · intro id late
    simp only at late ⊢
    cases effect : fin.efecto with
    | true =>
      rw [if_pos effect] at late
      have later : s.tabla.proximo + 1 ≤ id := late
      have other : id ≠ s.tabla.proximo := by omega
      have before := co.nueva id (by omega)
      rw [if_pos rfl, others id other]
      refine ⟨before.1, ?_⟩
      split
      · rw [Function.update_of_ne other]
        exact before.2
      · exact before.2
    | false =>
      rw [effect] at late
      have before := co.nueva id late
      have raised : fin.sigue ≠ .continua := by
        intro returned
        rw [fin.ok returned] at effect
        cases effect
      rw [if_neg raised]
      exact before
  · exact co.exito

theorem enqueue_cuenta (moved : step cfg s (.enqueue now f fin) = some t) (cu : Cuenta cfg s) :
    Cuenta cfg t := by
  have workers : t.trabajadores = s.trabajadores := by
    cases moved
    rfl
  have failures : t.fracasos = s.fracasos := by
    cases moved
    rfl
  constructor
  · intro id
    obtain ⟨pendientes, nodup, members, total⟩ := cu.cuenta id
    rw [workers, failures]
    refine ⟨pendientes, nodup, members, Nat.le_trans (Nat.add_le_add_right ?_ _) total⟩
    unfold intentos
    cases here : t.tabla.filas id with
    | none => exact Nat.zero_le _
    | some r =>
      cases enqueue_fila moved here with
      | inl before => exact Nat.le_of_eq (by rw [before])
      | inr new =>
        have zero : r.attempts = 0 := new.2.2
        simp [zero]
  · intro id r here dead
    cases enqueue_fila moved here with
    | inl before => exact cu.dead id r before dead
    | inr new =>
      rw [new.2.1] at dead
      cases dead

theorem enqueue_alDia (moved : step cfg s (.enqueue now f fin) = some t) (al : AlDia s) : AlDia t := by
  have rows : ∀ id r, t.tabla.filas id = some r →
      s.tabla.filas id = some r ∨ id = s.tabla.proximo ∧ r.status = .pending ∧ r.attempts = 0 :=
    fun _ _ => enqueue_fila moved
  cases moved
  constructor
  · intro w runs
    exact Nat.lt_succ_of_lt (al.antes w runs)
  · intro id r here progress
    cases rows id r here with
    | inl before => exact al.vista id r before progress
    | inr new =>
      rw [new.2.1] at progress
      cases progress

end Enqueue

section Recupera
variable {w : Nat} {now : Int} {fin : Desenlace}

/-- The recovery of a starting worker: it runs afterwards only if nothing failed. -/
theorem recupera_spec (moved : step cfg s (.recupera w now fin) = some t) :
    s.trabajadores w = .arranca ∧
    t.tabla = (if fin.efecto then recoverSql now s.tabla else s.tabla) ∧
    t.reloj = s.reloj + 1 ∧ t.devueltas = s.devueltas ∧ t.exitos = s.exitos ∧
    t.fracasos = s.fracasos ∧ t.visto = s.visto ∧
    ((fin.sigue = .continua ∧ t.inicio = Function.update s.inicio w s.reloj ∧
        t.trabajadores = (s.pone w (.lote [])).trabajadores) ∨
      ∃ tr, tr.corre = false ∧ (∀ j, tr.fracasando j = false) ∧
        (∀ fila resto, tr ≠ .procesa fila .exito resto) ∧ t.inicio = s.inicio ∧
        t.trabajadores = (s.pone w tr).trabajadores) := by
  simp only [step] at moved
  split at moved
  · next starting =>
    split at moved <;> cases moved
    · next sigue => exact ⟨starting, rfl, rfl, rfl, rfl, rfl, rfl, .inl ⟨sigue, rfl, rfl⟩⟩
    · exact ⟨starting, rfl, rfl, rfl, rfl, rfl, rfl, .inr ⟨.terminado, rfl, fun _ => rfl, nofun, rfl, rfl⟩⟩
    · exact ⟨starting, rfl, rfl, rfl, rfl, rfl, rfl, .inr ⟨.parado, rfl, fun _ => rfl, nofun, rfl, rfl⟩⟩
  · cases moved

theorem recupera_fila {id : Nat} {r' : DLQRow} (moved : step cfg s (.recupera w now fin) = some t)
    (here : t.tabla.filas id = some r') :
    ∃ r, s.tabla.filas id = some r ∧ Sobre cfg 0 r r' ∧
      (r'.status = .inProgress → r' = r ∧ (fin.efecto = true → ¬ r.updatedAt + 60000 < now)) := by
  rw [(recupera_spec moved).2.1] at here
  cases effect : fin.efecto with
  | true =>
    rw [effect, if_pos rfl] at here
    obtain ⟨r, there, sobre, fresh⟩ := recoverSql_spec cfg r' here
    exact ⟨r, there, sobre, fun progress => ⟨(fresh progress).1, fun _ => (fresh progress).2⟩⟩
  | false =>
    rw [effect] at here
    exact ⟨r', here, .refl cfg 0 r', fun _ => ⟨rfl, nofun⟩⟩

theorem recupera_conserva (moved : step cfg s (.recupera w now fin) = some t) (co : Conserva s) :
    Conserva t := by
  obtain ⟨_, tabla, _, devueltas, exitos, _, _, fin⟩ := recupera_spec moved
  have present : ∀ id, t.tabla.filas id = none ↔ s.tabla.filas id = none := by
    intro id
    rw [tabla]
    split
    · exact Option.map_eq_none_iff
    · exact .rfl
  have proximo : t.tabla.proximo = s.tabla.proximo := by
    rw [tabla]
    split <;> rfl
  constructor
  · intro id given
    rw [devueltas] at given
    rw [exitos, ne_eq, present id]
    exact co.devuelta id given
  · intro id late
    rw [proximo] at late
    rw [devueltas, present id]
    exact co.nueva id late
  · rw [exitos]
    obtain ⟨_, _, workers⟩ | ⟨tr, _, _, mio, _, workers⟩ := fin
    · rw [workers]
      exact exito_pone co.exito nofun
    · rw [workers]
      exact exito_pone co.exito fun fila resto same => absurd same (mio fila resto)

theorem recupera_cuenta (moved : step cfg s (.recupera w now fin) = some t) (cu : Cuenta cfg s) :
    Cuenta cfg t := by
  obtain ⟨_, _, _, _, _, fracasos, _, fin⟩ := recupera_spec moved
  have rows : ∀ id r', t.tabla.filas id = some r' → ∃ r, s.tabla.filas id = some r ∧ Sobre cfg 0 r r' := by
    intro id r' here
    obtain ⟨r, there, sobre, _⟩ := recupera_fila moved here
    exact ⟨r, there, sobre⟩
  obtain ⟨_, _, workers⟩ | ⟨tr, _, limpio, _, _, workers⟩ := fin
  · exact cu.mueve (fun _ => 0) rows (fun _ => rfl) workers (fun _ => Nat.zero_le _) fracasos
  · exact cu.mueve (fun _ => 0) rows limpio workers (fun _ => Nat.zero_le _) fracasos

/-- The condition is used here: no orphan is left when the worker runs. -/
theorem recupera_alDia (moved : step cfg s (.recupera w now fin) = some t)
    (ok : permitido s (.recupera w now fin)) (al : AlDia s) : AlDia t := by
  obtain ⟨starting, _, reloj, _, _, _, visto, ending⟩ := recupera_spec moved
  have not_mine : ∀ j, (s.trabajadores w).ejecutaFila j = false := by
    intro j
    rw [starting]
    rfl
  have before : ∀ id r', t.tabla.filas id = some r' → r'.status = .inProgress →
      ∃ r, s.tabla.filas id = some r ∧ r.status = .inProgress := by
    intro id r' here progress
    obtain ⟨r, there, _, same⟩ := recupera_fila moved here
    exact ⟨r, there, (same progress).1 ▸ progress⟩
  obtain ⟨goes_on, inicio, workers⟩ | ⟨tr, idle, _, _, inicio, workers⟩ := ending
  · constructor
    · intro v runs
      rw [workers, trabajador_pone] at runs
      rw [inicio, reloj, Function.update_apply]
      split
      · omega
      · next other =>
        rw [if_neg other] at runs
        exact Nat.lt_succ_of_lt (al.antes v runs)
    · intro id r' here progress
      left
      obtain ⟨r, there, _, same⟩ := recupera_fila moved here
      obtain ⟨rfl, fresh⟩ := same progress
      by_cases executing : s.ejecutandose id
      · obtain ⟨v, executes⟩ := executing
        refine ⟨v, ?_⟩
        rw [workers, trabajador_pone]
        split
        · next same =>
          rw [same, not_mine] at executes
          cases executes
        · exact executes
      · have stale := ok id r' there ⟨⟨r', there, progress⟩, executing⟩
        exact absurd stale (fresh (fin.ok goes_on))
  · refine al.mueve workers inicio reloj ?_ ?_ (fun j => .inl (by rw [visto])) ?_
    · intro runs
      rw [idle] at runs
      cases runs
    · intro j r' here progress
      exact .inl (before j r' here progress)
    · intro j executes
      rw [not_mine j] at executes
      cases executes

/-- The next start makes every orphan pending again. -/
theorem recupera_todo (s : Estado) : RecuperaTodo cfg s := by
  intro w now fin t ok goes_on moved id orphan
  obtain ⟨r, there, progress⟩ := orphan.1
  have stale := ok id r there orphan
  refine ⟨{ r with status := .pending, updatedAt := now }, ?_, rfl⟩
  rw [(recupera_spec moved).2.1, if_pos (fin.ok goes_on)]
  simp only [recoverSql, there, Option.map_some]
  rw [if_pos ⟨progress, stale⟩]

end Recupera

section Handler
variable {w : Nat} {fila : DLQRow} {resto : List DLQRow} {errorType errorMessage : String}

/-- The handler failed: its failure counts now and its attempt in the next transaction. -/
theorem Cuenta.falla (cu : Cuenta cfg s) (doing : s.trabajadores w = .procesa fila .ejecuta resto) :
    Cuenta cfg ({ s with fracasos := Function.update s.fracasos fila.id (s.fracasos fila.id + 1) }.pone w
      (.procesa fila (.fracaso errorType errorMessage) resto)) := by
  refine ⟨fun id => ?_, cu.dead⟩
  obtain ⟨pendientes, nodup, members, total⟩ := cu.cuenta id
  have not_mine : (s.trabajadores w).fracasando id = false := by
    rw [doing]
    rfl
  have outside : w ∉ pendientes := by
    intro inside
    rw [(members w).mpr inside] at not_mine
    cases not_mine
  by_cases same : fila.id = id
  · refine ⟨w :: pendientes, List.nodup_cons.mpr ⟨outside, nodup⟩, ?_, ?_⟩
    · intro v
      rw [trabajador_pone, List.mem_cons]
      split
      · next mine => simp [mine, Trabajador.fracasando, same]
      · next other => simpa [other] using members v
    · subst same
      simp only [Estado.pone, Function.update_self, List.length_cons]
      omega
  · refine ⟨pendientes, nodup, ?_, ?_⟩
    · intro v
      rw [trabajador_pone]
      split
      · next mine => simp [mine, Trabajador.fracasando, same, outside]
      · exact members v
    · simp only [Estado.pone]
      rw [Function.update_of_ne (Ne.symm same)]
      exact total

theorem AlDia.falla (al : AlDia s) (doing : s.trabajadores w = .procesa fila .ejecuta resto) :
    AlDia ({ s with fracasos := Function.update s.fracasos fila.id (s.fracasos fila.id + 1) }.pone w
      (.procesa fila (.fracaso errorType errorMessage) resto)) := by
  refine al.mueve rfl rfl rfl ?_ ?_ (fun _ => .inl rfl) ?_
  · intro _
    rw [doing]
    rfl
  · intro j r' here progress
    exact .inl ⟨r', here, progress⟩
  · intro j executes
    rw [doing] at executes
    exact .inl executes

theorem Conserva.falla (co : Conserva s) :
    Conserva ({ s with fracasos := Function.update s.fracasos fila.id (s.fracasos fila.id + 1) }.pone w
      (.procesa fila (.fracaso errorType errorMessage) resto)) :=
  ⟨co.devuelta, co.nueva, exito_pone co.exito nofun⟩

end Handler

theorem Conserva.paso (co : Conserva s) (moved : step cfg s e = some t) : Conserva t := by
  cases step_cases moved with
  | inl move =>
    obtain ⟨w, tr, extra, borra, id, m⟩ := move
    exact m.conserva co
  | inr rest =>
    obtain ⟨now, f, fin, rfl⟩ | ⟨w, now, fin, rfl⟩ | ⟨w, fila, resto, errorType, errorMessage, doing, rfl⟩ |
      rfl := rest
    · exact enqueue_conserva moved co
    · exact recupera_conserva moved co
    · exact co.falla
    · exact co

theorem Cuenta.paso (cu : Cuenta cfg s) (moved : step cfg s e = some t) : Cuenta cfg t := by
  cases step_cases moved with
  | inl move =>
    obtain ⟨w, tr, extra, borra, id, m⟩ := move
    exact m.cuenta cu
  | inr rest =>
    obtain ⟨now, f, fin, rfl⟩ | ⟨w, now, fin, rfl⟩ | ⟨w, fila, resto, errorType, errorMessage, doing, rfl⟩ |
      rfl := rest
    · exact enqueue_cuenta moved cu
    · exact recupera_cuenta moved cu
    · exact cu.falla doing
    · exact cu

theorem AlDia.paso (al : AlDia s) (ok : permitido s e) (moved : step cfg s e = some t) : AlDia t := by
  cases step_cases moved with
  | inl move =>
    obtain ⟨w, tr, extra, borra, id, m⟩ := move
    exact m.alDia al
  | inr rest =>
    obtain ⟨now, f, fin, rfl⟩ | ⟨w, now, fin, rfl⟩ | ⟨w, fila, resto, errorType, errorMessage, doing, rfl⟩ |
      rfl := rest
    · exact enqueue_alDia moved al
    · exact recupera_alDia moved ok al
    · exact al.falla doing
    · exact al

theorem Conserva.inicial : Conserva .inicial := ⟨nofun, fun _ _ => ⟨rfl, rfl⟩, nofun⟩

theorem Cuenta.inicial : Cuenta cfg .inicial := by
  refine ⟨?_, nofun⟩
  intro id
  refine ⟨[], .nil, fun w => ?_, Nat.le_refl _⟩
  simp [Estado.inicial, Trabajador.fracasando]

theorem AlDia.inicial : AlDia .inicial := ⟨nofun, nofun⟩

theorem Cuenta.agotada (cu : Cuenta cfg s) (id : Nat) (r : DLQRow) (here : s.tabla.filas id = some r)
    (dead : r.status = .dead) : cfg.maxAttempts ≤ s.fracasos id := by
  obtain ⟨pendientes, _, _, total⟩ := cu.cuenta id
  have enough := cu.dead id r here dead
  have attempts : intentos s.tabla id = r.attempts := by
    simp [intentos, here]
  omega

theorem AlDia.sinAtasco (al : AlDia s) (w id : Nat) (runs : (s.trabajadores w).corre = true)
    (orphan : s.huerfana id) : s.inicio w < s.visto id := by
  obtain ⟨⟨r, here, progress⟩, idle⟩ := orphan
  cases al.vista id r here progress with
  | inl executing => exact absurd executing idle
  | inr seen => exact seen w runs

end Pasos

section Ejecuciones
variable {cfg} {s : Estado}

theorem Conserva.reached {allowed : Estado → Evento → Prop}
    (reached : Reaches (step cfg) (· = .inicial) allowed s) : Conserva s :=
  reached.invariant (fun _ first => first ▸ .inicial) fun _ _ _ co _ moved => co.paso moved

theorem Cuenta.reached {allowed : Estado → Evento → Prop}
    (reached : Reaches (step cfg) (· = .inicial) allowed s) : Cuenta cfg s :=
  reached.invariant (fun _ first => first ▸ .inicial) fun _ _ _ cu _ moved => cu.paso moved

theorem AlDia.reached (reached : Reaches (step cfg) (· = .inicial) permitido s) : AlDia s :=
  reached.invariant (fun _ first => first ▸ .inicial) fun _ _ _ al ok moved => al.paso ok moved

/-- Whenever the workers start, nothing is lost and nothing is given up early. -/
theorem conservada_y_agotada {allowed : Estado → Evento → Prop}
    (reached : Reaches (step cfg) (· = .inicial) allowed s) :
    (∀ id, s.devueltas id = true → s.tabla.filas id ≠ none ∨ 0 < s.exitos id) ∧
    ∀ id r, s.tabla.filas id = some r → r.status = .dead → cfg.maxAttempts ≤ s.fracasos id :=
  ⟨(Conserva.reached reached).devuelta, (Cuenta.reached reached).agotada⟩

/-- If every start finds the orphans untouched for a minute, every row is delivered
    at least once and none stays in progress for a whole worker run. -/
theorem entrega_al_menos_una (reached : Reaches (step cfg) (· = .inicial) permitido s) :
    EntregaSegura cfg s ∧ RecuperaTodo cfg s := by
  have keeps := conservada_y_agotada reached
  exact ⟨⟨keeps.1, keeps.2, (AlDia.reached reached).sinAtasco⟩, recupera_todo s⟩

end Ejecuciones

/-! Two runs -/

/-- Enough for a step to be permitted, and computable. -/
def sinRecientes (s : Estado) : Evento → Bool
  | .recupera _ now _ => (List.range s.tabla.proximo).all fun id =>
      (s.tabla.filas id).all fun r => r.status ≠ .inProgress || r.updatedAt + 60000 < now
  | _ => true

theorem permitido_of_sinRecientes {s : Estado} {e : Evento} (co : Conserva s)
    (check : sinRecientes s e = true) : permitido s e := by
  cases e with
  | recupera w now fin =>
    intro id r here orphan
    obtain ⟨⟨r', there, progress⟩, _⟩ := orphan
    have same : r' = r := Option.some.inj (there.symm.trans here)
    have inside : id < s.tabla.proximo := by
      by_contra late
      rw [(co.nueva id (by omega)).1] at here
      cases here
    have found := List.all_eq_true.mp check id (List.mem_range.mpr inside)
    simpa [here, ← same, progress] using found
  | _ => trivial

theorem reaches_of_sinRecientes {cfg : Config} {s : Estado}
    (reached : Reaches (step cfg) (· = .inicial) (sinRecientes · ·) s) :
    Reaches (step cfg) (· = .inicial) permitido s := by
  induction reached with
  | start first => exact .start first
  | next before ok moved ih => exact .next ih (permitido_of_sinRecientes (Conserva.reached ih) ok) moved

/-- The worker whose step this is. -/
def Evento.de : Evento → Option Nat
  | .enqueue _ _ _ => none
  | .start w | .recupera w _ _ | .sondea w _ _ | .reclama w _ _ | .resuelve w _ | .handler w _
  | .cierra w _ _ | .para w => some w

theorem step_ajeno {cfg : Config} {s t : Estado} {e : Evento} {v : Nat} (other : e.de ≠ some v)
    (moved : step cfg s e = some t) : t.trabajadores v = s.trabajadores v := by
  have stays : ∀ w tr, some w ≠ some v → Function.update s.trabajadores w tr v = s.trabajadores v := by
    intro w tr other
    exact Function.update_of_ne (fun same => other (congrArg some same.symm)) tr s.trabajadores
  cases e with
  | enqueue now f fin =>
    cases moved
    rfl
  | _ =>
    simp only [step] at moved
    repeat' split at moved
    all_goals first
      | cases moved; done
      | cases moved; rfl
      | cases moved; exact stays _ _ other

theorem run_ajeno {cfg : Config} {s t : Estado} {es : List Evento} {v : Nat}
    (others : ∀ e ∈ es, e.de ≠ some v) (ran : run (step cfg) s es = some t) :
    t.trabajadores v = s.trabajadores v := by
  induction es generalizing s with
  | nil =>
    cases ran
    rfl
  | cons e es ih =>
    rw [List.forall_mem_cons] at others
    obtain ⟨u, moved, rest⟩ := Option.bind_eq_some_iff.mp ran
    rw [ih others.2 rest]
    exact step_ajeno others.1 moved

def fallo : Fallo := ⟨"t", "\x7b\x7d", "s", 0, "h", "E", ""⟩

def encolada (status : Status) (nextRetryAt updatedAt : Int) : DLQRow :=
  ⟨0, "t", "\x7b\x7d", "s", 0, "h", "E", "", 0, nextRetryAt, status, 0, updatedAt⟩

def bien : Desenlace := ⟨true, .continua, fun _ => rfl⟩

/-- A worker takes the row, the process crashes and starts again at `otra`. -/
def caida (otra : Int) : List Evento :=
  [.enqueue 0 fallo bien, .start 0, .recupera 0 1000 bien,
    .sondea 0 2000 (some [encolada .pending 2000 0]), .reclama 0 2000 bien, .resuelve 0 .handler,
    .para 0, .start 0, .recupera 0 otra bien]

/-- Restarted after a minute, the row is pending again. -/
theorem entrega_tras_minuto :
    ∃ s, run (restricted (step {}) sinRecientes) .inicial (caida 62001) = some s ∧
      s.tabla.filas 0 = some (encolada .pending 2000 62001) ∧
      EntregaSegura {} s ∧ RecuperaTodo {} s := by
  have looks : (run (restricted (step {}) sinRecientes) .inicial (caida 62001)).map (·.tabla.filas 0) =
      some (some (encolada .pending 2000 62001)) := by
    decide +kernel
  obtain ⟨s, done, row⟩ := Option.map_eq_some_iff.mp looks
  have reached := reaches_of_sinRecientes (.of_restricted_run (.start rfl) done)
  exact ⟨s, done, row, entrega_al_menos_una reached⟩

/-- Restarted after half a minute, the new worker runs and nobody executes the row. -/
theorem fila_atascada :
    ∃ s, run (step {}) .inicial (caida 30000) = some s ∧ ¬ EntregaSegura {} s := by
  have looks : (run (step {}) .inicial (caida 30000)).map (fun s =>
      (s.tabla.filas 0, s.trabajadores 0, decide (s.inicio 0 < s.visto 0))) =
        some (some (encolada .inProgress 2000 2000), .lote [], false) := by
    decide +kernel
  obtain ⟨s, done, same⟩ := Option.map_eq_some_iff.mp looks
  simp only [Prod.mk.injEq, decide_eq_false_iff_not] at same
  obtain ⟨row, worker, seen⟩ := same
  refine ⟨s, done, fun safe => ?_⟩
  refine seen (safe.sinAtasco 0 0 (by rw [worker]; rfl) ⟨⟨_, row, rfl⟩, ?_⟩)
  rintro ⟨v, executes⟩
  by_cases zero : v = 0
  · rw [zero, worker] at executes
    cases executes
  · have others : ∀ e ∈ caida 30000, e.de = none ∨ e.de = some 0 := by
      simp [caida, Evento.de]
    rw [run_ajeno (v := v) ?_ done] at executes
    · cases executes
    · intro e inside same
      cases others e inside with
      | inl nobody => rw [nobody] at same; cases same
      | inr first => exact zero (Option.some.inj (same.symm.trans first))

end DeadLetters
