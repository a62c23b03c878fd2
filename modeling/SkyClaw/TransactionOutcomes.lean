import SkyClaw.JournalCalls

set_option linter.all false

/-!
The status of a transaction once it is no longer `PENDING`. Every writer looks
at the status except `mark_transaction_rolled_back`.
-/
namespace OperationJournal
open KeyedRows ImplicitTransaction Relation

variable {clave : String → String}

/-- What `base` has closed is closed the same way in `db`. -/
def Respeta (base db : JournalDB) : Prop :=
  ∀ id t, base.transactions.find id = some t → t.status ≠ .pending →
    ∃ t', db.transactions.find id = some t' ∧ t'.status = t.status

theorem Respeta.refl (db : JournalDB) : Respeta db db := fun _ t found _ => ⟨t, found, rfl⟩

theorem Respeta.trans {a b c : JournalDB} (first : Respeta a b) (second : Respeta b c) :
    Respeta a c := by
  intro id t found closed
  obtain ⟨t', found', same⟩ := first id t found closed
  obtain ⟨t'', found'', same'⟩ := second id t' found' (same ▸ closed)
  exact ⟨t'', found'', same'.trans same⟩

def JournalDB.estado (db : JournalDB) (id : Nat) : Option TransactionStatus :=
  (db.transactions.find id).map (·.status)

def Journal.estado (j : Journal) (id : Nat) : Option TransactionStatus := j.conn.durable.estado id

/-- The transaction is not `COMMITTED` in the durable copy. -/
def NoConfirmada (db : JournalDB) (id : Nat) : Prop :=
  ∀ t, db.transactions.find id = some t → t.status ≠ .committed

def Operacion.Permitida (db : JournalDB) : Operacion → Prop
  | .markTransactionRolledBack id => NoConfirmada db id
  | _ => True

section
variable {base db db' : JournalDB}

theorem respeta_update {p : Transaction → Bool} {f : Transaction → Transaction}
    {keeps : ∀ t, (f t).transactionId = t.transactionId} (kept : Respeta base db)
    (untouched : ∀ id t t', base.transactions.find id = some t → t.status ≠ .pending →
      db.transactions.find id = some t' → t'.status = t.status → p t' = true →
        (f t').status = t.status) :
    Respeta base { db with transactions := db.transactions.updateWhere p f keeps } := by
  intro id t found closed
  obtain ⟨t', found', same⟩ := kept id t found closed
  have after := AutoTable.find_updateWhere db.transactions p f keeps id
  rw [found', Option.map_some] at after
  refine ⟨_, after, ?_⟩
  split
  · rename_i selected
    exact untouched id t t' found closed found' same selected
  · exact same

/-- Writers that select `PENDING` rows leave the closed ones alone. -/
theorem respeta_pendientes {p : Transaction → Bool} {f : Transaction → Transaction}
    {keeps : ∀ t, (f t).transactionId = t.transactionId} (kept : Respeta base db)
    (only : ∀ t, p t = true → t.status = .pending) :
    Respeta base { db with transactions := db.transactions.updateWhere p f keeps } := by
  refine respeta_update kept fun id t t' found closed found' same selected => ?_
  exact absurd (same.symm.trans (only t' selected)) closed

theorem respeta_cambio {now : Int} {op : Operacion} (allowed : op.Permitida base)
    (kept : Respeta base db) (change : Cambio clave now op db db') : Respeta base db' := by
  cases change with
  | alta begins =>
    intro id t found closed
    obtain ⟨t', found', same⟩ := kept id t found closed
    exact ⟨t', AutoTable.find_insertNext_old found', same⟩
  | cierre closes f keeps ends =>
    refine respeta_pendientes kept fun t selected => ?_
    simp only [esPendiente, decide_eq_true_eq] at selected
    exact selected.2
  | barrido sweeps =>
    refine respeta_pendientes kept fun t selected => ?_
    simp only [esStale, decide_eq_true_eq] at selected
    exact selected.1
  | marca marks =>
    subst marks
    refine respeta_update kept fun id t t' found closed found' same selected => ?_
    have here := (Table.key_of_find found').symm.trans (of_decide_eq_true selected)
    subst here
    have uncommitted := allowed t found
    cases status : t.status with
    | pending => exact absurd status closed
    | committed => exact absurd status uncommitted
    | rolledBack => rfl
  | entradas | handoffs | recibo | receipts | resolucion => exact kept

theorem respeta_cambios {now : Int} {op : Operacion} (allowed : op.Permitida base)
    (kept : Respeta base db) (changes : Cambios clave now op db db') : Respeta base db' := by
  induction changes with
  | refl => exact kept
  | tail _ change ih => exact respeta_cambio allowed ih change

end

theorem reglaRespeta (clave : String → String) :
    Regla clave Respeta fun db op => op.Permitida db where
  refl := .refl
  trans := .trans
  barre := fun _ _ => trivial
  transforma := fun allowed kept transformed => respeta_cambios allowed kept transformed.cambios

/-! Writers that close a transaction, on one that is closed -/

section
variable {db : JournalDB} {id : Nat}

theorem cuenta_cerrada (closed : ∀ t, db.transactions.find id = some t → t.status ≠ .pending) :
    db.transactions.count (esPendiente id) = 0 := by
  rw [Table.count_eq_zero]
  intro t member
  apply decide_eq_false
  rintro ⟨same, pending⟩
  exact closed t (Table.find_eq_some.mpr ⟨member, same⟩) pending

theorem cierre_de_cerrada {f : Transaction → Transaction}
    {keeps : ∀ t, (f t).transactionId = t.transactionId}
    (closed : ∀ t, db.transactions.find id = some t → t.status ≠ .pending) :
    updateTransactions (esPendiente id) f keeps db = .ok (0, db) := by
  have zero := cuenta_cerrada closed
  simp only [updateTransactions, zero, AutoTable.updateWhere_none keeps zero]

/-- A body that closes the transaction first, and goes no further when no row
    was touched, raises before it writes anything. -/
theorem exige_pendiente {α : Type} {f : Transaction → Transaction}
    {keeps : ∀ t, (f t).transactionId = t.transactionId} {sigue : Nat → Sql α} {fault : Fault Fallo}
    (stops : ∀ s, ∃ e, sigue 0 s = (.error e, s))
    (closed : ∀ t, db.transactions.find id = some t → t.status ≠ .pending) :
    ∃ e left, (Body.statement (updateTransactions (esPendiente id) f keeps) >>= sigue) (db, fault) =
      (.error e, (db, left)) := by
  have updated : updateTransactions (esPendiente id) f keeps db = .ok (0, db) :=
    cierre_de_cerrada closed
  simp only [bind, Body.andThen, Body.statement, updated]
  cases tick fault with
  | error e => exact ⟨e, none, rfl⟩
  | ok left =>
    obtain ⟨e, stopped⟩ := stops (db, left)
    exact ⟨e, left, stopped⟩

end

/-- The operation raises, and the most it makes durable is what an earlier
    failure had left on the connection. -/
structure Rechazo (j : Journal) (salida : Except Fallo Respuesta × Journal) : Prop where
  raised : ∃ e, salida.1 = .error e
  durable : salida.2.conn.durable = j.conn.durable ∨ salida.2.conn.durable = j.conn.working

section
variable {j : Journal} {now : Int} {averia : Averia} {id : Nat}

theorem rechazo_de_escribe {α β : Type} {revierte : Bool} {body : Sql α}
    {despues : α → Journal → β × Journal} {alFallar : Fallo → Fallo} {r : β → Respuesta}
    (raises : ∃ e left, body (j.conn.working, averia.fault) = (.error e, (j.conn.working, left))) :
    Rechazo j (responde r (j.escribe revierte body averia despues alFallar)) := by
  obtain ⟨e, left, ran⟩ := raises
  have raised : (j.escribe revierte body averia despues alFallar).1 = .error (alFallar e) := by
    simp [Journal.escribe, boundary, ran]
  exact ⟨⟨alFallar e, by simp [responde, raised, Except.map]⟩, .inl (escribe_error_durable raised)⟩

theorem rechazo_de_cierre {f : Transaction → Transaction}
    {keeps : ∀ t, (f t).transactionId = t.transactionId} {mensaje : String} {r : Unit → Respuesta}
    (closed : ∀ t, j.conn.working.transactions.find id = some t → t.status ≠ .pending) :
    Rechazo j (responde r (cierraTransaccion f keeps mensaje id averia j)) := by
  simp only [cierraTransaccion]
  split
  · exact rechazo_de_escribe (exige_pendiente (fun _ => ⟨noPendiente id, rfl⟩) closed)
  · have updated : updateTransactions (esPendiente id) f keeps j.conn.working =
        .ok (0, j.conn.working) := cierre_de_cerrada closed
    split
    · rename_i j' ran
      refine ⟨⟨_, rfl⟩, .inr ?_⟩
      obtain ⟨n, db, rest, body_ran, after⟩ := escribe_ok ran
      have same := statement_ok body_ran
      rw [updated, Except.ok.injEq, Prod.mk.injEq] at same
      simp only [devuelve, Prod.mk.injEq] at after
      obtain ⟨-, rfl⟩ := after
      exact same.2.symm
    · rename_i n j' some_rows ran
      obtain ⟨n', db, rest, body_ran, after⟩ := escribe_ok ran
      have same := statement_ok body_ran
      rw [updated, Except.ok.injEq, Prod.mk.injEq] at same
      simp only [devuelve, Prod.mk.injEq] at after
      exact absurd (after.1.symm.trans same.1.symm) some_rows
    · rename_i e j' ran
      have durable := escribe_error_durable (congrArg Prod.fst ran)
      rw [ran] at durable
      exact ⟨⟨e, rfl⟩, .inl durable⟩

theorem cierre_rechazado {op : Operacion} (closes : op.cierra = some id)
    (closed : ∀ t, j.conn.working.transactions.find id = some t → t.status ≠ .pending) :
    Rechazo j (op.corre clave now averia j) := by
  cases op with
  | commitTransaction id' | rollbackTransaction id' =>
    cases closes
    exact rechazo_de_cierre closed
  | crearHandoffDeDeployment id' descripcion registro viejo =>
    cases closes
    exact rechazo_de_escribe (exige_pendiente (fun _ => ⟨noPendiente id, rfl⟩) closed)
  | completarHandoffDeResume id' handoffId =>
    cases closes
    exact rechazo_de_escribe (exige_pendiente (fun _ => ⟨noPendiente id, rfl⟩) closed)
  | _ => cases closes

end

/-! Runs -/

/-- No `mark_transaction_rolled_back` runs on a transaction that is durably `COMMITTED`. -/
abbrev MarcaPermitida : Sistema → Evento → Prop := Permite fun db op => op.Permitida db

/-- What holds in `t` of the transactions that were closed in `s`. -/
structure Terminales (clave : String → String) (s t : Sistema) : Prop where
  estables : Respeta s.journal.conn.durable t.journal.conn.durable
  rechazos : ∀ (op : Operacion) id tx, op.cierra = some id →
    s.journal.conn.durable.transactions.find id = some tx → tx.status ≠ .pending →
      ∀ now averia, Rechazo t.journal (op.corre clave now averia t.journal)

theorem desenlaces_terminales {clave : String → String} {s t : Sistema}
    (reached : TransitionRuns.Reaches (paso clave) Inicial MarcaPermitida s)
    (later : TransitionRuns.Reaches (paso clave) (· = s) MarcaPermitida t) :
    Terminales clave s t := by
  have rule := reglaRespeta clave
  obtain ⟨kept, coherent⟩ := rule.alcanza (rule.coherente reached) later
  refine ⟨kept, fun op id tx closes found closed now averia => ?_⟩
  obtain ⟨t', at_work, same⟩ := (kept.trans coherent) id tx found closed
  refine cierre_rechazado closes fun t'' found' pending => ?_
  rw [at_work, Option.some.injEq] at found'
  subst found'
  exact closed (same.symm.trans pending)

def sistemaNuevo : Sistema := ⟨⟨true, ⟨.empty, .empty⟩, none⟩, ⟨none, false⟩, []⟩

/-- A transaction that is begun and then closed by `cierre`. -/
def abreYCierra (cierre : Operacion) : List Evento :=
  [.llama (.operacion (.beginTransaction "patch" none)), .avanza 0 0 none,
    .llama (.operacion cierre), .avanza 1 1 none]

def marca : List Evento := [.llama (.operacion (.markTransactionRolledBack 1)), .avanza 2 2 none]

/-- A committed transaction that is marked as rolled back. -/
theorem confirmada_y_revertida :
    ∃ s t, TransitionRuns.run (paso id) sistemaNuevo (abreYCierra (.commitTransaction 1)) = some s ∧
      TransitionRuns.run (paso id) s marca = some t ∧
      s.journal.estado 1 = some .committed ∧ t.journal.estado 1 = some .rolledBack :=
  ⟨_, _, rfl, rfl, rfl, rfl⟩

def trasRevertir : Sistema :=
  (TransitionRuns.run (paso id) sistemaNuevo (abreYCierra (.rollbackTransaction 1))).getD
    sistemaNuevo

theorem revertida_y_marcada :
    ∃ s t, TransitionRuns.run (paso id) sistemaNuevo (abreYCierra (.rollbackTransaction 1)) = some s ∧
      TransitionRuns.run (paso id) s marca = some t ∧ s.journal.estado 1 = some .rolledBack ∧
      Terminales id s t := by
  refine ⟨trasRevertir, _, rfl, rfl, rfl, desenlaces_terminales ?_ ?_⟩
  · have opened : Inicial sistemaNuevo := ⟨rfl, rfl, rfl⟩
    have allowed : TransitionRuns.Permitted (paso id) MarcaPermitida sistemaNuevo
        (abreYCierra (.rollbackTransaction 1)) := ⟨trivial, trivial, trivial, trivial, trivial⟩
    exact .of_permitted_run (.start opened) allowed rfl
  · have marked : NoConfirmada (trasRevertir.journal.conn.durable) 1 := by
      rintro tx ⟨⟩
      decide
    have allowed : TransitionRuns.Permitted (paso id) MarcaPermitida trasRevertir marca :=
      ⟨trivial, marked, trivial⟩
    exact .of_permitted_run (.start rfl) allowed rfl

end OperationJournal
