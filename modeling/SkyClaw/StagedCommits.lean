import SkyClaw.TransactionOutcomes

set_option linter.all false

/-!
What `StagingJournal` owes to the transactions begun through it. It holds one
transaction and one flag, so it owes nothing to a transaction that a second
`begin_transaction` makes it forget.
-/
namespace OperationJournal
open KeyedRows ImplicitTransaction Relation

variable {clave : String → String}

/-- A call that nothing interrupts. -/
def Corrutina.ejecuta (clave : String → String) (now : Int) (averia : Averia) (j : Journal)
    (s : Staging) : Corrutina → Except Fallo Respuesta × Journal × Staging
  | .fin resultado => (resultado, j, s)
  | .espera op anota sigue =>
    (sigue (op.corre clave now averia j).1).ejecuta clave now averia (op.corre clave now averia j).2
      (anota (op.corre clave now averia j).1 s)

/-- `abiertas` were begun through the `StagingJournal`. `pedidas` are those of
    them whose commit was requested and that have not been rolled back since. -/
structure Sandbox where
  journal : Journal
  staging : Staging
  abiertas : List Nat
  pedidas : List Nat

def abierta : Operacion → Except Fallo Respuesta → List Nat
  | .beginTransaction .., .ok (.id id) => [id]
  | _, _ => []

def pedida (abiertas : List Nat) : Operacion → Except Fallo Respuesta → List Nat
  | .commitTransaction id, .ok _ => if id ∈ abiertas then [id] else []
  | _, _ => []

/-- The transaction was not `ROLLED_BACK` and now is. -/
def seRevierte (j j' : Journal) (id : Nat) : Bool :=
  j.estado id ≠ some .rolledBack ∧ j'.estado id = some .rolledBack

def Operacion.deStaging : Operacion → Bool
  | .beginTransaction .. | .commitTransaction _ | .rollbackTransaction _
  | .markTransactionRolledBack _ | .crearHandoffDeDeployment .. => true
  | _ => false

def Sandbox.tras (s : Sandbox) (op : Operacion)
    (salida : Except Fallo Respuesta × Journal × Staging) : Sandbox where
  journal := salida.2.1
  staging := salida.2.2
  abiertas := s.abiertas ++ abierta op salida.1
  pedidas := (s.pedidas ++ pedida s.abiertas op salida.1).filter fun id =>
    !seRevierte s.journal salida.2.1 id

def Sandbox.llama (clave : String → String) (s : Sandbox) :
    Operacion × Int × Averia → Option Sandbox
  | (op, now, averia) =>
    if op.deStaging then
      (s.staging.empieza op).map fun (staging, c) =>
        s.tras op (c.ejecuta clave now averia s.journal staging)
    else none

/-- No transaction is begun while an earlier one is `PENDING`, the staged one is
    committed only while it is, none of them gets a handoff, and no mark that
    withdraws a request meets an SQLite error. -/
def Sandbox.Admite (s : Sandbox) : Operacion × Int × Averia → Prop
  | (.beginTransaction .., _) => ∀ id ∈ s.abiertas, s.journal.estado id ≠ some .pending
  | (.commitTransaction id, _) =>
    s.staging.stagedTxId = some id → s.journal.estado id = some .pending
  | (.crearHandoffDeDeployment id .., _) => id ∈ s.abiertas → s.journal.estado id ≠ some .pending
  | (.markTransactionRolledBack id, _, averia) =>
    s.staging = ⟨some id, true⟩ → ¬ EnPaso 0 averia ∧ ¬ EnPaso 1 averia
  | _ => True

/-- A fresh `StagingJournal` over a journal in any state. -/
def Sandbox.Nuevo (s : Sandbox) : Prop := s.staging = ⟨none, false⟩ ∧ s.abiertas = [] ∧ s.pedidas = []

structure Diferidas (clave : String → String) (s : Sandbox) : Prop where
  antes : ∀ id ∈ s.abiertas, s.journal.estado id ≠ some .committed
  trasCommit : ∀ now averia r j staging,
    s.staging.commitStaged.ejecuta clave now averia s.journal s.staging = (.ok r, j, staging) →
      ∀ id ∈ s.pedidas, j.estado id = some .committed
  trasRollback : ∀ now averia r j staging,
    s.staging.rollbackStaged.ejecuta clave now averia s.journal s.staging = (.ok r, j, staging) →
      ∀ id ∈ s.abiertas, j.estado id ≠ some .committed ∧ j.estado id ≠ some .pending

/-! One transaction, in one copy of the database -/

def Estado (id : Nat) (status : TransactionStatus → Prop) (db : JournalDB) : Prop :=
  ∃ t, db.transactions.find id = some t ∧ status t.status

def SinConfirmar (id : Nat) : JournalDB → Prop := Estado id (· ≠ .committed)

def Revertida (id : Nat) : JournalDB → Prop := Estado id (· = .rolledBack)

section
variable {id : Nat} {db db' : JournalDB} {now : Int} {op : Operacion}

theorem estado_update {status : TransactionStatus → Prop} {p : Transaction → Bool}
    {f : Transaction → Transaction} {keeps : ∀ t, (f t).transactionId = t.transactionId}
    (held : Estado id status db)
    (moved : ∀ t, t.transactionId = id → status t.status → p t = true → status (f t).status) :
    Estado id status { db with transactions := db.transactions.updateWhere p f keeps } := by
  obtain ⟨t, found, holds⟩ := held
  have after := AutoTable.find_updateWhere db.transactions p f keeps id
  rw [found, Option.map_some] at after
  refine ⟨_, after, ?_⟩
  split
  · rename_i selected
    exact moved t (Table.key_of_find found) holds selected
  · exact holds

theorem estado_cambio {status : TransactionStatus → Prop} (held : Estado id status db)
    (closed : op.cierra = some id → status .pending → status op.desenlace)
    (reverted : status .pending → status .rolledBack)
    (marked : op = .markTransactionRolledBack id → status .rolledBack)
    (change : Cambio clave now op db db') : Estado id status db' := by
  cases change with
  | alta begins =>
    obtain ⟨t, found, holds⟩ := held
    exact ⟨t, AutoTable.find_insertNext_old found, holds⟩
  | cierre closes f keeps ends =>
    refine estado_update held fun t here holds selected => ?_
    simp only [esPendiente, decide_eq_true_eq] at selected
    obtain ⟨same, pending⟩ := selected
    rw [ends]
    exact closed (here ▸ same ▸ closes) (pending ▸ holds)
  | marca marks =>
    refine estado_update held fun t here holds selected => ?_
    have same := of_decide_eq_true selected
    exact marked (here ▸ same ▸ marks)
  | barrido sweeps =>
    refine estado_update held fun t here holds selected => ?_
    simp only [esStale, decide_eq_true_eq] at selected
    exact reverted (selected.1 ▸ holds)
  | entradas | handoffs | recibo | receipts | resolucion => exact held

theorem revertida_cambios (held : Revertida id db) (changes : Cambios clave now op db db') :
    Revertida id db' := by
  induction changes with
  | refl => exact held
  | tail _ change ih =>
    exact estado_cambio ih (fun _ => by simp) (by simp) (fun _ => rfl) change

theorem sinConfirmar_cambios (uncommitting : op.cierra = some id → op.desenlace = .rolledBack)
    (held : SinConfirmar id db) (changes : Cambios clave now op db db') : SinConfirmar id db' := by
  induction changes with
  | refl => exact held
  | tail _ change ih =>
    refine estado_cambio ih (fun closes _ => ?_) (by simp) (fun _ => by simp) change
    simp [uncommitting closes]

end

section
variable {j : Journal} {id : Nat}

theorem estado_iff {status : TransactionStatus} :
    j.estado id = some status ↔ Estado id (· = status) j.conn.durable := by
  simp only [Journal.estado, JournalDB.estado, Option.map_eq_some_iff, Estado]

theorem estado_revertida : j.estado id = some .rolledBack ↔ Revertida id j.conn.durable := estado_iff

/-- What holds on the connection of a transaction begun through a sandbox. -/
structure Abierta (j : Journal) (id : Nat) : Prop where
  durable : SinConfirmar id j.conn.durable
  working : SinConfirmar id j.conn.working
  coherente : Revertida id j.conn.durable → Revertida id j.conn.working

theorem Abierta.estado (opened : Abierta j id) :
    j.estado id = some .pending ∨ j.estado id = some .rolledBack := by
  obtain ⟨t, found, uncommitted⟩ := opened.durable
  simp only [Journal.estado, JournalDB.estado, found, Option.map_some, Option.some.injEq]
  cases status : t.status with
  | pending => exact .inl rfl
  | rolledBack => exact .inr rfl
  | committed => exact absurd status uncommitted

theorem Abierta.sinConfirmar (opened : Abierta j id) : j.estado id ≠ some .committed := by
  rcases opened.estado with pending | reverted
  · simp [pending]
  · simp [reverted]

theorem corre_abierta {op : Operacion} {now : Int} {averia : Averia} (opened : Abierta j id)
    (uncommitting : op.cierra = some id →
      op.desenlace = .rolledBack ∨ Revertida id j.conn.durable) :
    Abierta (op.corre clave now averia j).2 id ∧
      (Revertida id j.conn.durable → Revertida id (op.corre clave now averia j).2.conn.durable) := by
  have changed {w : JournalDB} (changes : Cambios clave now op j.conn.working w) :
      SinConfirmar id w := by
    by_cases reverted : Revertida id j.conn.durable
    · obtain ⟨t, found, status⟩ := revertida_cambios (opened.coherente reverted) changes
      exact ⟨t, found, by simp [status]⟩
    · refine sinConfirmar_cambios (fun closes => ?_) opened.working changes
      exact (uncommitting closes).resolve_right reverted
  have after := @corre_transforma clave op now averia j
  dsimp only at after
  rcases after with ⟨durable, reset | transformed⟩ | ⟨durable, transformed⟩
  · rw [durable]
    refine ⟨⟨?_, ?_, ?_⟩, fun held => held⟩
    · rw [durable]
      exact opened.durable
    · rw [reset]
      exact opened.durable
    · rw [durable, reset]
      exact fun held => held
  · rw [durable]
    refine ⟨⟨?_, changed transformed.cambios, ?_⟩, fun held => held⟩
    · rw [durable]
      exact opened.durable
    · rw [durable]
      exact fun reverted => revertida_cambios (opened.coherente reverted) transformed.cambios
  · rw [durable]
    refine ⟨⟨?_, changed transformed.cambios, ?_⟩, fun reverted => ?_⟩
    · rw [durable]
      exact changed transformed.cambios
    · rw [durable]
      exact fun held => held
    · exact revertida_cambios (opened.coherente reverted) transformed.cambios

theorem begin_ok {description : String} {modId : Option Int} {now : Int} {averia : Averia}
    {r : Respuesta} (returned : ((Operacion.beginTransaction description modId).corre clave now
      averia j).1 = .ok r) :
    ∃ txId, r = .id txId ∧
      Abierta ((Operacion.beginTransaction description modId).corre clave now averia j).2 txId := by
  simp only [Operacion.corre, responde] at returned ⊢
  rcases written : beginTransaction description modId now averia j with ⟨result, j'⟩
  rw [written] at returned
  cases result with
  | error e => simp [Except.map] at returned
  | ok txId =>
    simp only [Except.map, Except.ok.injEq] at returned
    obtain ⟨id, db, rest, ran, after⟩ := escribe_ok written
    simp only [Prod.mk.injEq] at after
    obtain ⟨rfl, rfl⟩ := after
    have inserted := statement_ok ran
    simp only [insertTransaction, Except.ok.injEq, Prod.mk.injEq] at inserted
    obtain ⟨rfl, rfl⟩ := inserted
    have here := AutoTable.find_insertNext j.conn.working.transactions
      (fun k => ⟨k, modId, description, .pending, now, none, none⟩) (fun _ => rfl)
      (j.conn.working.transactions.seq + 1)
    rw [if_pos rfl] at here
    refine ⟨_, returned.symm, ?_⟩
    exact ⟨⟨_, here, by simp⟩, ⟨_, here, by simp⟩, fun held => held⟩

theorem mark_ok {now : Int} {averia : Averia} {r : Respuesta} (opened : Abierta j id)
    (returned : ((Operacion.markTransactionRolledBack id).corre clave now averia j).1 = .ok r) :
    Revertida id ((Operacion.markTransactionRolledBack id).corre clave now averia j).2.conn.durable := by
  obtain ⟨t, found, -⟩ := opened.working
  simp only [Operacion.corre, responde] at returned ⊢
  rcases written : markTransactionRolledBack id now averia j with ⟨result, j'⟩
  rw [written] at returned
  cases result with
  | error e => simp [Except.map] at returned
  | ok u =>
    obtain ⟨n, db, rest, ran, after⟩ := escribe_ok written
    simp only [devuelveNada, Prod.mk.injEq, true_and] at after
    subst after
    obtain ⟨-, rfl⟩ := updateTransactions_ok (statement_ok ran)
    have marked := AutoTable.find_updateWhere j.conn.working.transactions
      (fun t => decide (t.transactionId = id)) (Transaction.revertida now) (fun _ => rfl) id
    rw [found, Option.map_some, if_pos (decide_eq_true (Table.key_of_find found))] at marked
    exact ⟨_, marked, rfl⟩

theorem mark_devuelve {now : Int} {averia : Averia} (quiet : ¬ EnPaso 0 averia ∧ ¬ EnPaso 1 averia) :
    ∃ r, ((Operacion.markTransactionRolledBack id).corre clave now averia j).1 = .ok r := by
  match averia with
  | none => exact ⟨.nada, rfl⟩
  | some (0, e) => exact absurd ⟨e, rfl⟩ quiet.1
  | some (1, e) => exact absurd ⟨e, rfl⟩ quiet.2
  | some (n + 2, e) => exact ⟨.nada, rfl⟩

theorem commit_ok {now : Int} {averia : Averia} {r : Respuesta}
    (returned : ((Operacion.commitTransaction id).corre clave now averia j).1 = .ok r) :
    ((Operacion.commitTransaction id).corre clave now averia j).2.estado id = some .committed := by
  simp only [Operacion.corre, responde] at returned ⊢
  rcases written : commitTransaction id now averia j with ⟨result, j'⟩
  rw [written] at returned
  cases result with
  | error e => simp [Except.map] at returned
  | ok u =>
    obtain ⟨some_rows, durable⟩ := cierra_ok written
    have found_row := mt Table.count_eq_zero.mpr some_rows
    simp only [not_forall, Bool.not_eq_false] at found_row
    obtain ⟨t, member, selected⟩ := found_row
    have here : t.transactionId = id := (of_decide_eq_true selected).1
    have committed := AutoTable.find_updateWhere j.conn.working.transactions (esPendiente id)
      (Transaction.committed now) (fun _ => rfl) id
    rw [Table.find_eq_some.mpr ⟨member, here⟩, Option.map_some, if_pos selected] at committed
    simp only [Journal.estado, JournalDB.estado, durable]
    exact congrArg (Option.map (·.status)) committed

end

/-! The contract of the sandbox -/

structure Contrato (s : Sandbox) : Prop where
  abiertas : ∀ id ∈ s.abiertas, Abierta s.journal id
  olvidadas : ∀ id ∈ s.abiertas, s.staging.stagedTxId ≠ some id →
    Revertida id s.journal.conn.durable
  diferida : ∀ id, s.staging.stagedTxId = some id → id ∈ s.abiertas
  pedidas : ∀ id ∈ s.pedidas, s.staging = ⟨some id, true⟩ ∧ s.journal.estado id = some .pending

section
variable {s : Sandbox} {op : Operacion} {now : Int} {averia : Averia}

/-- A call that goes straight to the journal keeps the contract, if it commits
    none of the begun transactions and requests nothing. -/
theorem contrato_delegada (contract : Contrato s)
    (uncommitting : ∀ id ∈ s.abiertas, op.cierra = some id →
      op.desenlace = .rolledBack ∨ Revertida id s.journal.conn.durable)
    (begins : abierta op (op.corre clave now averia s.journal).1 = [])
    (requests : pedida s.abiertas op (op.corre clave now averia s.journal).1 = []) :
    Contrato (s.tras op ((op.corre clave now averia s.journal).1,
      (op.corre clave now averia s.journal).2, s.staging)) := by
  have kept (id : Nat) (opened : id ∈ s.abiertas) :=
    @corre_abierta clave s.journal id op now averia (contract.abiertas id opened)
      (uncommitting id opened)
  have same : (s.tras op ((op.corre clave now averia s.journal).1,
      (op.corre clave now averia s.journal).2, s.staging)).abiertas = s.abiertas := by
    simp [Sandbox.tras, begins]
  refine ⟨?_, ?_, ?_, ?_⟩
  · intro id opened
    exact (kept id (same ▸ opened)).1
  · intro id opened forgotten
    exact (kept id (same ▸ opened)).2 (contract.olvidadas id (same ▸ opened) forgotten)
  · intro id staged
    exact same ▸ contract.diferida id staged
  · intro id requested
    simp only [Sandbox.tras, requests, List.append_nil, List.mem_filter] at requested
    obtain ⟨before, unreverted⟩ := requested
    obtain ⟨staged, pending⟩ := contract.pedidas id before
    have opened := contract.diferida id (by rw [staged])
    refine ⟨staged, ?_⟩
    rcases (kept id opened).1.estado with still | reverted
    · exact still
    · simp [seRevierte, pending, reverted] at unreverted

theorem contrato_begin {description : String} {modId : Option Int} (contract : Contrato s)
    (closed : ∀ id ∈ s.abiertas, s.journal.estado id ≠ some .pending) :
    let op := Operacion.beginTransaction description modId
    let salida := op.corre clave now averia s.journal
    Contrato (s.tras op (salida.1, salida.2, anotaBegin salida.1 s.staging)) := by
  intro op salida
  have none_requested : s.pedidas = [] := by
    refine List.eq_nil_iff_forall_not_mem.mpr fun id requested => ?_
    obtain ⟨staged, pending⟩ := contract.pedidas id requested
    exact closed id (contract.diferida id (by rw [staged])) pending
  have kept (id : Nat) (opened : id ∈ s.abiertas) :
      Abierta salida.2 id ∧ Revertida id salida.2.conn.durable := by
    have opened' := contract.abiertas id opened
    have reverted := opened'.estado.resolve_left (closed id opened)
    obtain ⟨after, still⟩ := @corre_abierta clave s.journal id op now averia opened'
      fun closes => by cases closes
    exact ⟨after, still (estado_revertida.mp reverted)⟩
  have requests : (s.tras op (salida.1, salida.2, anotaBegin salida.1 s.staging)).pedidas = [] := by
    simp [Sandbox.tras, none_requested, pedida, op]
  cases outcome : salida.1 with
  | error e =>
    have same : (s.tras op (salida.1, salida.2, anotaBegin salida.1 s.staging)).abiertas =
        s.abiertas := by simp [Sandbox.tras, outcome, abierta, op]
    rw [outcome] at same requests
    refine ⟨?_, ?_, ?_, ?_⟩
    · exact fun id opened => (kept id (same ▸ opened)).1
    · exact fun id opened _ => (kept id (same ▸ opened)).2
    · exact fun id staged => same ▸ contract.diferida id staged
    · simp [requests]
  | ok r =>
    obtain ⟨txId, rfl, fresh⟩ := begin_ok outcome
    have grown : (s.tras op (salida.1, salida.2, anotaBegin salida.1 s.staging)).abiertas =
        s.abiertas ++ [txId] := by simp [Sandbox.tras, outcome, abierta, op]
    rw [outcome] at grown requests
    refine ⟨?_, ?_, ?_, ?_⟩
    · intro id opened
      rw [grown, List.mem_append, List.mem_singleton] at opened
      rcases opened with older | rfl
      · exact (kept id older).1
      · exact fresh
    · intro id opened forgotten
      rw [grown, List.mem_append, List.mem_singleton] at opened
      rcases opened with older | rfl
      · exact (kept id older).2
      · exact absurd rfl forgotten
    · intro id staged
      simp only [Sandbox.tras, anotaBegin, Option.some.injEq] at staged
      rw [grown]
      simp [staged]
    · simp [requests]

/-- Requesting the commit of the staged transaction writes nothing. -/
theorem contrato_pide {id : Nat} (contract : Contrato s) (staged : s.staging.stagedTxId = some id)
    (pending : s.journal.estado id = some .pending) :
    Contrato (s.tras (.commitTransaction id)
      (.ok .nada, s.journal, { s.staging with stagedCommit := true })) := by
  have same : (s.tras (.commitTransaction id)
      (.ok .nada, s.journal, { s.staging with stagedCommit := true })).abiertas = s.abiertas := by
    simp [Sandbox.tras, abierta]
  refine ⟨?_, ?_, ?_, ?_⟩
  · exact fun id' opened => contract.abiertas id' (same ▸ opened)
  · exact fun id' opened forgotten => contract.olvidadas id' (same ▸ opened) forgotten
  · exact fun id' here => same ▸ contract.diferida id' here
  · intro id' requested
    simp only [Sandbox.tras, List.mem_filter, List.mem_append] at requested
    rcases requested.1 with before | now_requested
    · obtain ⟨here, still⟩ := contract.pedidas id' before
      exact ⟨by simp [Sandbox.tras, here], still⟩
    · simp only [pedida] at now_requested
      split at now_requested
      · obtain rfl := List.mem_singleton.mp now_requested
        exact ⟨by simp [Sandbox.tras, ← staged], pending⟩
      · simp at now_requested

theorem contrato_mark {id : Nat} (contract : Contrato s)
    (quiet : s.staging = ⟨some id, true⟩ → ¬ EnPaso 0 averia ∧ ¬ EnPaso 1 averia)
    (staged : s.staging.stagedTxId = some id) :
    let salida := (Operacion.markTransactionRolledBack id).corre clave now averia s.journal
    Contrato (s.tras (.markTransactionRolledBack id)
      (salida.1, salida.2, { s.staging with stagedCommit := false })) := by
  intro salida
  have kept (id' : Nat) (opened : id' ∈ s.abiertas) :=
    @corre_abierta clave s.journal id' (.markTransactionRolledBack id) now averia
      (contract.abiertas id' opened) fun closes => by cases closes
  have same : (s.tras (.markTransactionRolledBack id)
      (salida.1, salida.2, { s.staging with stagedCommit := false })).abiertas = s.abiertas := by
    simp [Sandbox.tras, abierta]
  refine ⟨?_, ?_, ?_, ?_⟩
  · exact fun id' opened => (kept id' (same ▸ opened)).1
  · exact fun id' opened forgotten =>
      (kept id' (same ▸ opened)).2 (contract.olvidadas id' (same ▸ opened) forgotten)
  · exact fun id' here => same ▸ contract.diferida id' here
  · intro id' requested
    -- a request of the staged transaction is withdrawn, so none is left
    simp only [Sandbox.tras, pedida, List.append_nil, List.mem_filter] at requested
    obtain ⟨before, unreverted⟩ := requested
    obtain ⟨here, pending⟩ := contract.pedidas id' before
    have same_id : id' = id := by simpa [here] using staged
    subst same_id
    obtain ⟨r, returned⟩ := @mark_devuelve clave s.journal id' now averia (quiet here)
    have opened := contract.abiertas id' (contract.diferida id' staged)
    have reverted := estado_revertida.mpr (mark_ok opened returned)
    simp [seRevierte, pending, reverted, salida] at unreverted

end

/-- A begun transaction that is not the staged one is closed, so its commit is refused. -/
theorem contrato_commit {s : Sandbox} {now : Int} {averia : Averia} {id : Nat}
    (contract : Contrato s) (forgotten : s.staging.stagedTxId ≠ some id) :
    let salida := (Operacion.commitTransaction id).corre clave now averia s.journal
    Contrato (s.tras (.commitTransaction id) (salida.1, salida.2, s.staging)) := by
  have closed (opened : id ∈ s.abiertas) := contract.olvidadas id opened forgotten
  refine contrato_delegada contract (fun id' opened closes => ?_) ?_ ?_
  · cases closes
    exact .inr (closed opened)
  · simp [abierta]
  · cases outcome : ((Operacion.commitTransaction id).corre clave now averia s.journal).1 with
    | error e => rfl
    | ok r =>
      simp only [pedida, ite_eq_right_iff]
      intro opened
      obtain ⟨t, found, status⟩ := (contract.abiertas id opened).coherente (closed opened)
      have refused : Rechazo s.journal ((Operacion.commitTransaction id).corre clave now averia
          s.journal) := cierre_rechazado rfl fun t' found' pending => by
        rw [found, Option.some.injEq] at found'
        subst found'
        simp [status] at pending
      obtain ⟨e, raised⟩ := refused.raised
      rw [outcome] at raised
      cases raised

theorem contrato_llama {s t : Sandbox} {e : Operacion × Int × Averia} (contract : Contrato s)
    (admitted : s.Admite e) (moved : s.llama clave e = some t) : Contrato t := by
  obtain ⟨op, now, averia⟩ := e
  simp only [Sandbox.llama] at moved
  cases op with
  | beginTransaction description modId =>
    cases moved
    exact contrato_begin contract admitted
  | commitTransaction id =>
    simp only [Operacion.deStaging, if_true, Staging.empieza] at moved
    by_cases staged : some id = s.staging.stagedTxId
    · rw [if_pos staged] at moved
      cases moved
      exact contrato_pide contract staged.symm (admitted staged.symm)
    · rw [if_neg staged] at moved
      cases moved
      exact contrato_commit contract (Ne.symm staged)
  | rollbackTransaction id =>
    cases moved
    refine contrato_delegada contract (fun _ _ _ => .inl rfl) ?_ ?_
    · simp [abierta]
    · simp [pedida]
  | markTransactionRolledBack id =>
    simp only [Operacion.deStaging, if_true, Staging.empieza] at moved
    by_cases staged : some id = s.staging.stagedTxId
    · rw [if_pos staged] at moved
      cases moved
      exact contrato_mark contract admitted staged.symm
    · rw [if_neg staged] at moved
      cases moved
      refine contrato_delegada contract (fun _ _ closes => by cases closes) ?_ ?_
      · simp [abierta]
      · simp [pedida]
  | crearHandoffDeDeployment id descripcion registro viejo =>
    cases moved
    refine contrato_delegada contract (fun id' opened closes => ?_) ?_ ?_
    · cases closes
      have closed := (contract.abiertas id opened).estado.resolve_left (admitted opened)
      exact .inr (estado_revertida.mp closed)
    · simp [abierta]
    · simp [pedida]
  | _ => cases moved

theorem contrato_nuevo {s : Sandbox} (fresh : s.Nuevo) : Contrato s := by
  obtain ⟨staging, opened, requested⟩ := fresh
  refine ⟨?_, ?_, ?_, ?_⟩
  · simp [opened]
  · simp [opened]
  · simp [staging]
  · simp [requested]

/-! The last call -/

theorem contrato_commitStaged {s : Sandbox} {now : Int} {averia : Averia} {r : Respuesta}
    {j : Journal} {staging : Staging} {id : Nat} (contract : Contrato s) (requested : id ∈ s.pedidas)
    (returned : s.staging.commitStaged.ejecuta clave now averia s.journal s.staging =
      (.ok r, j, staging)) : j.estado id = some .committed := by
  obtain ⟨staged, -⟩ := contract.pedidas id requested
  rw [staged] at returned
  simp only [Staging.commitStaged, Corrutina.ejecuta, Prod.mk.injEq] at returned
  obtain ⟨answered, rfl, -⟩ := returned
  exact commit_ok answered

theorem contrato_rollbackStaged {s : Sandbox} {now : Int} {averia : Averia} {r : Respuesta}
    {j : Journal} {staging : Staging} {id : Nat} (contract : Contrato s) (opened : id ∈ s.abiertas)
    (returned : s.staging.rollbackStaged.ejecuta clave now averia s.journal s.staging =
      (.ok r, j, staging)) : Revertida id j.conn.durable := by
  cases staged : s.staging.stagedTxId with
  | none =>
    simp only [Staging.rollbackStaged, staged, Corrutina.ejecuta, Prod.mk.injEq] at returned
    obtain ⟨-, rfl, -⟩ := returned
    exact contract.olvidadas id opened (by simp [staged])
  | some id' =>
    simp only [Staging.rollbackStaged, staged, Corrutina.ejecuta, Prod.mk.injEq] at returned
    obtain ⟨answered, rfl, -⟩ := returned
    by_cases same : id' = id
    · subst same
      exact mark_ok (contract.abiertas id' opened) answered
    · have forgotten : s.staging.stagedTxId ≠ some id := by simpa [staged] using same
      exact (corre_abierta (contract.abiertas id opened) fun closes => by cases closes).2
        (contract.olvidadas id opened forgotten)

theorem confirmaciones_diferidas {clave : String → String} {s : Sandbox}
    (reached : TransitionRuns.Reaches (Sandbox.llama clave) Sandbox.Nuevo Sandbox.Admite s) :
    Diferidas clave s := by
  have contract : Contrato s := TransitionRuns.Reaches.invariant (fun _ => contrato_nuevo)
    (fun _ _ _ => contrato_llama) reached
  refine ⟨?_, ?_, ?_⟩
  · exact fun id opened => (contract.abiertas id opened).sinConfirmar
  · exact fun now averia r j staging returned id requested =>
      contrato_commitStaged contract requested returned
  · intro now averia r j staging returned id opened
    have reverted := estado_revertida.mpr (contrato_rollbackStaged contract opened returned)
    simp [reverted]

def sandboxNuevo : Sandbox := ⟨⟨true, ⟨.empty, .empty⟩, none⟩, ⟨none, false⟩, [], []⟩

def dosTransacciones : List (Operacion × Int × Averia) :=
  [(.beginTransaction "bash" none, 0, none), (.commitTransaction 1, 1, none),
    (.beginTransaction "sort" none, 2, none), (.commitTransaction 2, 3, none)]

/-- The second transaction makes the sandbox forget the commit of the first. -/
theorem commit_olvidado :
    ∃ s, TransitionRuns.run (Sandbox.llama id) sandboxNuevo dosTransacciones = some s ∧
      1 ∈ s.pedidas ∧ ¬ Diferidas id s := by
  refine ⟨_, rfl, by decide, fun deferred => ?_⟩
  have committed := deferred.trasCommit 4 none _ _ _ rfl 1 (by decide)
  cases committed

def unaTransaccion : List (Operacion × Int × Averia) :=
  [(.beginTransaction "bash" none, 0, none), (.rollbackTransaction 1, 1, none),
    (.beginTransaction "sort" none, 2, none), (.commitTransaction 2, 3, none)]

theorem confirmaciones_tras_revertir :
    ∃ s, TransitionRuns.run (Sandbox.llama id) sandboxNuevo unaTransaccion = some s ∧
      s.pedidas = [2] ∧ Diferidas id s := by
  refine ⟨_, rfl, rfl, confirmaciones_diferidas ?_⟩
  have opened : sandboxNuevo.Nuevo := ⟨rfl, rfl, rfl⟩
  have admitted : TransitionRuns.Permitted (Sandbox.llama id) Sandbox.Admite sandboxNuevo
      unaTransaccion := by
    refine ⟨?_, trivial, ?_, fun _ => rfl, trivial⟩
    · intro id opened
      cases opened
    · intro id opened
      obtain rfl : id = 1 := List.mem_singleton.mp opened
      decide
  exact .of_permitted_run (.start opened) admitted rfl

end OperationJournal
