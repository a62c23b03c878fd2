import SkyClaw.JournalBoundaries

set_option linter.all false

/-!
What an operation that raises leaves for the later ones, on a connection of its
own. A writer that does not roll back leaves its statements to whoever commits
next.
-/
namespace OperationJournal
open KeyedRows ImplicitTransaction

variable {clave : String → String}

/-- Operations that all return, one after another. -/
def sucesion (clave : String → String) :
    List (Operacion × Int × Averia) → Journal → Option Journal
  | [], j => some j
  | (op, now, averia) :: rest, j =>
    match op.corre clave now averia j with
    | (.ok _, j') => sucesion clave rest j'
    | (.error _, _) => none

/-- Whatever returns after `j'` would have returned after `j`, and leaves the same database. -/
def SinRastro (clave : String → String) (j' j : Journal) : Prop :=
  ∀ despues k, sucesion clave despues j' = some k →
    ∃ k₀, sucesion clave despues j = some k₀ ∧ k.conn.durable = k₀.conn.durable

/-- The operation leaves nothing behind. -/
def TodoONada (clave : String → String) (op : Operacion) (now : Int) (averia : Averia)
    (j : Journal) : Prop := SinRastro clave (op.corre clave now averia j).2 j

theorem con_self {j : Journal} {w : JournalDB} (clean : j.conn.Clean)
    (same : w = j.conn.durable) : j.con ⟨j.conn.durable, w⟩ = j := by
  obtain ⟨lifecycle, ⟨durable, working⟩, current⟩ := j
  simp only [Connection.Clean] at clean
  simp only [Journal.con, same, clean]

theorem journalEntries_self {db : JournalDB}
    {tabla : AutoTable JournalEntry JournalEntry.id} :
    ({ db with journalEntries := tabla } : JournalDB) = db ↔ tabla = db.journalEntries := by
  obtain ⟨transactions, entries, handoffs, receipts, resolutions⟩ := db
  simp

theorem transactions_self {db : JournalDB}
    {tabla : AutoTable Transaction Transaction.transactionId} :
    ({ db with transactions := tabla } : JournalDB) = db ↔ tabla = db.transactions := by
  obtain ⟨transactions, entries, handoffs, receipts, resolutions⟩ := db
  simp

theorem updateEntry_ausente {db : JournalDB} {entryId : Nat} {f : JournalEntry → JournalEntry}
    {keeps : ∀ e, (f e).id = e.id} (absent : db.journalEntries.find entryId = none) :
    updateEntry entryId f keeps db = .ok (0, db) := by
  have zero : db.journalEntries.count (fun e => e.id = entryId) = 0 := by
    rw [Table.count_eq_zero]
    intro e member
    exact decide_eq_false (Table.find_eq_none.mp absent e member)
  have unchanged : ∀ e, db.journalEntries.find entryId = some e → f e = e := by simp [absent]
  simp only [updateEntry, zero, Except.ok.injEq, Prod.mk.injEq, true_and]
  exact journalEntries_self.mpr ((AutoTable.updateWhere_key_eq_self keeps).mpr unchanged)

/-- Completing an entry that does not exist commits what the connection holds. -/
theorem completar_ausente (j : Journal) (d w : JournalDB) (entryId : Nat)
    (absent : w.journalEntries.find entryId = none) :
    sucesion clave [(.completeOperation entryId, 0, none)] (j.con ⟨d, w⟩) =
      some (j.con ⟨w, w⟩) := by
  simp [sucesion, Operacion.corre, completeOperation, updateStatus, Journal.escribe, boundary,
    Body.statement, updateEntry_ausente absent, Averia.fault, tick, Journal.con, responde,
    Except.map, devuelveNada]

theorem sinRastro_iff {j : Journal} {w : JournalDB} (clean : j.conn.Clean) :
    SinRastro clave (j.con ⟨j.conn.durable, w⟩) j ↔ w = j.conn.durable := by
  constructor
  · intro traceless
    let entryId := max w.journalEntries.seq j.conn.durable.journalEntries.seq + 1
    have absent {db : JournalDB} (le : db.journalEntries.seq < entryId) :
        db.journalEntries.find entryId = none := by
      refine Table.find_eq_none.mpr fun e member same => ?_
      have bounded := db.journalEntries.bounded e member
      omega
    have done := @completar_ausente clave j j.conn.durable w entryId
      (absent (by simp only [entryId]; omega))
    have alone := @completar_ausente clave j j.conn.durable j.conn.durable entryId
      (absent (by simp only [entryId]; omega))
    obtain ⟨k₀, ran, same⟩ := traceless _ _ done
    rw [con_self clean rfl] at alone
    rw [alone, Option.some.injEq] at ran
    subst ran
    exact same
  · intro same despues k ran
    rw [con_self clean same] at ran
    exact ⟨k, ran, rfl⟩

/-! Error paths -/

/-- A writer that rolls back leaves a clean connection as it was. -/
theorem escribe_revierte {α β : Type} {j : Journal} {body : Sql α} {averia : Averia}
    {despues : α → Journal → β × Journal} {alFallar : Fallo → Fallo} {e : Fallo}
    (clean : j.conn.Clean) (raised : (j.escribe true body averia despues alFallar).1 = .error e) :
    (j.escribe true body averia despues alFallar).2 = j := by
  obtain ⟨e₀, failed, after⟩ := escribe_error raised
  simp only [Bool.or_true] at failed after
  rw [after, boundary_revert_error failed]
  exact con_self clean rfl

/-- A writer of one statement that does not roll back leaves what the statement
    did when it is the commit that raises. -/
theorem escribe_desnuda {α β : Type} {j : Journal} {sql : JournalDB → Except Fallo (α × JournalDB)}
    {averia : Averia} {despues : α → Journal → β × Journal} {alFallar : Fallo → Fallo} {e : Fallo}
    (standalone : j.lifecycle = false)
    (raised : (j.escribe false (Body.statement sql) averia despues alFallar).1 = .error e) :
    ∃ w, (j.escribe false (Body.statement sql) averia despues alFallar).2 =
        j.con ⟨j.conn.durable, w⟩ ∧
      (w = j.conn.working ↔ ∀ e a db', averia = some (1, e) → sql j.conn.working = .ok (a, db') →
        db' = j.conn.working) := by
  obtain ⟨e₀, failed, after⟩ := escribe_error raised
  simp only [standalone, Bool.or_false] at failed after
  have left := boundary_statement_error failed
  generalize (boundary false (Body.statement sql) j.conn averia.fault).2 = conn at after left
  obtain ⟨durable, working⟩ := conn
  obtain ⟨rfl, left⟩ := left
  refine ⟨working, after, ?_⟩
  have at_commit : ∀ e, averia = some (1, e) → averia.fault = some (1, .sqlite e) := by
    rintro e rfl
    rfl
  rcases left with ⟨e', a, db, commit, ran, rfl⟩ | ⟨quiet, rfl⟩
  · constructor
    · rintro same e'' a' db' - ran'
      rw [ran, Except.ok.injEq, Prod.mk.injEq] at ran'
      exact ran'.2.symm.trans same
    · intro fixed
      match averia, commit with
      | some (1, e''), _ => exact fixed e'' a _ rfl ran
  · simp only [true_iff]
    intro e'' a db' commit ran
    exact absurd ran (quiet _ a db' (at_commit e'' commit))

/-- When an operation that raises leaves nothing: it rolls back, or what ran
    before the error changed no row. -/
def Operacion.conserva (now : Int) (averia : Averia) (j : Journal) : Operacion → Prop
  | .beginTransaction .. => ¬ EnPaso 1 averia
  | .commitTransaction id | .rollbackTransaction id => EnPaso 1 averia →
    ∀ t, j.conn.durable.transactions.find id = some t → t.status ≠ .pending
  | .markTransactionRolledBack id => EnPaso 1 averia →
    ∀ t, j.conn.durable.transactions.find id = some t → t.revertida now = t
  | .beginOperation op => EnPaso 1 averia →
    ∀ tx, transaccionDe op.transactionId j.currentTransaction = some tx →
      j.conn.durable.transactions.find tx = none
  | .completeOperation id => EnPaso 1 averia →
    ∀ e, j.conn.durable.journalEntries.find id = some e → e.status = .completed
  | .markRolledBack id details => ¬ EnPaso 0 averia →
    ∀ e, j.conn.durable.journalEntries.find id = some e →
      e.status = .rolledBack ∧ e.rolledBack = true ∧
        (details ≠ "" → EnPaso 2 averia →
          ∀ m, conRollbackDetails details e.metadata = .ok m → m = e.metadata)
  | _ => True

/-- The journal after an operation that raised: the durable copy is as it was,
    and the working copy is too exactly when `condicion`. -/
def Deja (j' j : Journal) (condicion : Prop) : Prop :=
  ∃ w, j' = j.con ⟨j.conn.durable, w⟩ ∧ (w = j.conn.durable ↔ condicion)

theorem deja_igual {j : Journal} {condicion : Prop} (clean : j.conn.Clean) (holds : condicion) :
    Deja j j condicion :=
  ⟨j.conn.durable, (con_self clean rfl).symm, by simp [holds]⟩

section
variable {j : Journal} {averia : Averia} {now : Int} {e : Fallo}

theorem deja_revierte {α β : Type} {body : Sql α} {despues : α → Journal → β × Journal}
    {alFallar : Fallo → Fallo} (clean : j.conn.Clean)
    (raised : (j.escribe true body averia despues alFallar).1 = .error e) :
    Deja (j.escribe true body averia despues alFallar).2 j True := by
  rw [escribe_revierte clean raised]
  exact deja_igual clean trivial

theorem deja_desnuda {α β : Type} {sql : JournalDB → Except Fallo (α × JournalDB)}
    {despues : α → Journal → β × Journal} {alFallar : Fallo → Fallo} {condicion : Prop}
    (standalone : j.lifecycle = false) (clean : j.conn.Clean)
    (raised : (j.escribe false (Body.statement sql) averia despues alFallar).1 = .error e)
    (translated : (EnPaso 1 averia → ∀ a db', sql j.conn.durable = .ok (a, db') →
      db' = j.conn.durable) ↔ condicion) :
    Deja (j.escribe false (Body.statement sql) averia despues alFallar).2 j condicion := by
  obtain ⟨w, after, left⟩ := escribe_desnuda standalone raised
  refine ⟨w, after, ?_⟩
  rw [← translated, ← clean, left]
  constructor
  · rintro fixed ⟨e', commit⟩ a db' ran
    exact fixed e' a db' commit ran
  · intro fixed e' a db' commit ran
    exact fixed ⟨e', commit⟩ a db' ran

theorem insertTransaction_cambia {modId : Option Int} {description : String} {db db' : JournalDB}
    {id : Nat} (ran : insertTransaction modId description now db = .ok (id, db')) : db' ≠ db := by
  simp only [insertTransaction, Except.ok.injEq, Prod.mk.injEq] at ran
  obtain ⟨-, rfl⟩ := ran
  intro same
  have seq := congrArg AutoTable.seq (transactions_self.mp same)
  simp at seq

theorem insertEntry_cambia {fila : Nat → JournalEntry} {keyed : ∀ k, (fila k).id = k} {tx id : Nat}
    {db db' : JournalDB} (ran : insertEntry fila keyed tx db = .ok (id, db')) : db' ≠ db := by
  simp only [insertEntry] at ran
  split at ran
  · simp at ran
  · simp only [Except.ok.injEq, Prod.mk.injEq] at ran
    obtain ⟨-, rfl⟩ := ran
    intro same
    have seq := congrArg AutoTable.seq (journalEntries_self.mp same)
    simp at seq

theorem updateTransactions_fija (p : Transaction → Bool) (f : Transaction → Transaction)
    (keeps : ∀ t, (f t).transactionId = t.transactionId) (db : JournalDB) :
    (∀ a db', updateTransactions p f keeps db = .ok (a, db') → db' = db) ↔
      ∀ t ∈ db.transactions.rows, p t = true → f t = t := by
  rw [← AutoTable.updateWhere_eq_self keeps, ← transactions_self]
  simp [updateTransactions]

theorem updateEntry_fija (id : Nat) (f : JournalEntry → JournalEntry)
    (keeps : ∀ e, (f e).id = e.id) (db : JournalDB) :
    (∀ a db', updateEntry id f keeps db = .ok (a, db') → db' = db) ↔
      ∀ e, db.journalEntries.find id = some e → f e = e := by
  rw [← AutoTable.updateWhere_key_eq_self keeps, ← journalEntries_self]
  simp [updateEntry]

theorem pendiente_fija {cierra : Transaction → Transaction} (id : Nat) (db : JournalDB)
    (closes : ∀ t, (cierra t).status ≠ .pending) :
    (∀ t ∈ db.transactions.rows, esPendiente id t = true → cierra t = t) ↔
      ∀ t, db.transactions.find id = some t → t.status ≠ .pending := by
  constructor
  · intro fixed t found pending
    have same := fixed t (Table.mem_of_find found) (by
      simp [esPendiente, Table.key_of_find found, pending])
    exact closes t (by rw [same]; exact pending)
  · intro closed t member selected
    simp only [esPendiente, decide_eq_true_eq] at selected
    exact absurd selected.2 (closed t (Table.find_eq_some.mpr ⟨member, selected.1⟩))

/-- Not found or not pending: nothing was updated, so the commit changed nothing. -/
theorem cierra_ninguna {cierra : Transaction → Transaction} {id : Nat} {db : JournalDB}
    {keeps : ∀ t, (cierra t).transactionId = t.transactionId}
    (zero : db.transactions.count (esPendiente id) = 0) :
    updateTransactions (esPendiente id) cierra keeps db = .ok (0, db) := by
  simp only [updateTransactions, zero, Except.ok.injEq, Prod.mk.injEq, true_and]
  exact transactions_self.mpr (AutoTable.updateWhere_none keeps zero)

theorem deja_cierra {cierra : Transaction → Transaction} {mensaje : String} {id : Nat}
    {keeps : ∀ t, (cierra t).transactionId = t.transactionId} (standalone : j.lifecycle = false)
    (clean : j.conn.Clean) (closes : ∀ t, (cierra t).status ≠ .pending)
    (raised : (cierraTransaccion cierra keeps mensaje id averia j).1 = .error e) :
    Deja (cierraTransaccion cierra keeps mensaje id averia j).2 j (EnPaso 1 averia →
      ∀ t, j.conn.durable.transactions.find id = some t → t.status ≠ .pending) := by
  simp only [cierraTransaccion, standalone, Bool.false_eq_true, if_false] at raised ⊢
  split at raised
  · rename_i j' ran
    obtain ⟨count, db, rest, body_ran, after⟩ := escribe_ok ran
    simp only [devuelve, Prod.mk.injEq] at after
    obtain ⟨rfl, rfl⟩ := after
    have updated := statement_ok body_ran
    have zero : j.conn.working.transactions.count (esPendiente id) = 0 := by
      simp only [updateTransactions, Except.ok.injEq, Prod.mk.injEq] at updated
      exact updated.1
    rw [cierra_ninguna zero, Except.ok.injEq, Prod.mk.injEq] at updated
    obtain ⟨-, rfl⟩ := updated
    rw [clean]
    refine ⟨j.conn.durable, rfl, iff_of_true rfl fun _ => ?_⟩
    rw [← pendiente_fija id _ closes, ← clean]
    intro t member selected
    have none := Table.count_eq_zero.mp zero t member
    exact absurd selected (by simp [none])
  · simp at raised
  · rename_i e' j' ran
    simp only [Except.error.injEq] at raised
    subst raised
    have translated := imp_congr_right fun _ : EnPaso 1 averia =>
      (updateTransactions_fija (esPendiente id) cierra keeps j.conn.durable).trans
        (pendiente_fija id j.conn.durable closes)
    have left := deja_desnuda standalone clean (congrArg Prod.fst ran) translated
    rwa [ran] at left

theorem deja_begin {description : String} {modId : Option Int} (standalone : j.lifecycle = false)
    (clean : j.conn.Clean)
    (raised : (beginTransaction description modId now averia j).1 = .error e) :
    Deja (beginTransaction description modId now averia j).2 j (¬ EnPaso 1 averia) := by
  refine deja_desnuda standalone clean raised ⟨fun fixed commit => ?_, fun free commit => ?_⟩
  · exact insertTransaction_cambia rfl (fixed commit _ _ rfl)
  · exact absurd commit free

theorem deja_mark {id : Nat} (standalone : j.lifecycle = false) (clean : j.conn.Clean)
    (raised : (markTransactionRolledBack id now averia j).1 = .error e) :
    Deja (markTransactionRolledBack id now averia j).2 j (EnPaso 1 averia →
      ∀ t, j.conn.durable.transactions.find id = some t → t.revertida now = t) := by
  refine deja_desnuda standalone clean raised (imp_congr_right fun _ => ?_)
  refine (updateTransactions_fija _ _ _ _).trans ?_
  have keeps : ∀ t, (Transaction.revertida now t).transactionId = t.transactionId := fun _ => rfl
  exact (AutoTable.updateWhere_eq_self keeps).symm.trans
    (AutoTable.updateWhere_key_eq_self keeps)

theorem deja_beginOperation {op : Operation} (standalone : j.lifecycle = false)
    (clean : j.conn.Clean) (raised : (beginOperation op now averia j).1 = .error e) :
    Deja (beginOperation op now averia j).2 j (EnPaso 1 averia →
      ∀ tx, transaccionDe op.transactionId j.currentTransaction = some tx →
        j.conn.durable.transactions.find tx = none) := by
  simp only [beginOperation] at raised ⊢
  split at raised
  · rename_i absent
    exact deja_igual clean (by simp [absent])
  · rename_i tx active
    simp only [active]
    refine deja_desnuda standalone clean raised (imp_congr_right fun _ => ?_)
    cases found : j.conn.durable.transactions.find tx with
    | none => simp [insertEntry, found]
    | some t =>
      constructor
      · intro fixed
        have ran : ∃ a db', insertEntry (op.fila tx now) (fun _ => rfl) tx j.conn.durable =
            .ok (a, db') := by simp [insertEntry, found]
        obtain ⟨a, db', ran⟩ := ran
        exact absurd (fixed a db' ran) (insertEntry_cambia ran)
      · intro absent
        simpa [found] using absent tx rfl

theorem deja_complete {entryId : Nat} (standalone : j.lifecycle = false) (clean : j.conn.Clean)
    (raised : (completeOperation entryId averia j).1 = .error e) :
    Deja (completeOperation entryId averia j).2 j (EnPaso 1 averia →
      ∀ e, j.conn.durable.journalEntries.find entryId = some e → e.status = .completed) := by
  refine deja_desnuda standalone clean raised (imp_congr_right fun _ => ?_)
  rw [updateEntry_fija]
  refine forall₂_congr fun entry _ => ?_
  constructor
  · intro same
    exact same ▸ rfl
  · intro done
    simp [← done]

def marcada (entry : JournalEntry) : JournalEntry :=
  { entry with status := .rolledBack, rolledBack := true }

theorem marcada_id (entry : JournalEntry) : (marcada entry).id = entry.id := rfl

def JournalDB.conMarca (db : JournalDB) (entryId : Nat) : JournalDB :=
  { db with
    journalEntries := db.journalEntries.updateWhere (fun e => e.id = entryId) marcada marcada_id }

theorem marcada_eq_self {entry : JournalEntry} :
    marcada entry = entry ↔ entry.status = .rolledBack ∧ entry.rolledBack = true := by
  obtain ⟨id, tx, timestamp, agent, type, path, status, snapshot, checksum, metadata, flag⟩ := entry
  simp only [marcada, JournalEntry.mk.injEq, true_and]
  exact ⟨fun same => ⟨same.1.symm, same.2.symm⟩, fun same => ⟨same.1.symm, same.2.symm⟩⟩

theorem conMarca_eq_self {db : JournalDB} {entryId : Nat} :
    db.conMarca entryId = db ↔
      ∀ entry, db.journalEntries.find entryId = some entry → marcada entry = entry :=
  journalEntries_self.trans (AutoTable.updateWhere_key_eq_self marcada_id)

theorem find_conMarca (db : JournalDB) (entryId : Nat) :
    (db.conMarca entryId).journalEntries.find entryId =
      (db.journalEntries.find entryId).map marcada := by
  have found_in := AutoTable.find_updateWhere db.journalEntries (fun e => decide (e.id = entryId))
    marcada marcada_id entryId
  refine found_in.trans ?_
  cases found : db.journalEntries.find entryId with
  | none => rfl
  | some entry => simp [Table.key_of_find found]

/-- What the second statement of a mark does to the working copy. -/
theorem updateRollbackDetails_fija {db db' : JournalDB} {entryId count : Nat} {details : String}
    (ran : updateRollbackDetails entryId details (db.conMarca entryId) = .ok (count, db')) :
    db' = db ↔ ∀ entry, db.journalEntries.find entryId = some entry → marcada entry = entry ∧
      ∀ m, conRollbackDetails details entry.metadata = .ok m → m = entry.metadata := by
  simp only [updateRollbackDetails, find_conMarca] at ran
  cases found : db.journalEntries.find entryId with
  | none =>
    simp only [found, Option.map_none, Except.ok.injEq, Prod.mk.injEq] at ran
    obtain ⟨-, rfl⟩ := ran
    simp [conMarca_eq_self, found]
  | some entry =>
    simp only [found, Option.map_some, marcada] at ran
    cases written : conRollbackDetails details entry.metadata with
    | error e => simp [written, bind, Except.bind] at ran
    | ok metadata =>
      simp only [written, bind, Except.bind, updateEntry, Except.ok.injEq, Prod.mk.injEq] at ran
      obtain ⟨-, rfl⟩ := ran
      simp only [JournalDB.conMarca, AutoTable.updateWhere_key_comp]
      rw [journalEntries_self, AutoTable.updateWhere_key_eq_self]
      simp only [found, Option.some.injEq, forall_eq', written, Except.ok.injEq, marcada_eq_self]
      obtain ⟨id, tx, timestamp, agent, type, path, status, snapshot, checksum, old, flag⟩ := entry
      simp only [Function.comp, marcada, JournalEntry.mk.injEq, true_and]
      constructor
      · rintro ⟨same_status, same_metadata, same_flag⟩
        exact ⟨⟨same_status.symm, same_flag.symm⟩, same_metadata⟩
      · rintro ⟨⟨same_status, same_flag⟩, same_metadata⟩
        exact ⟨same_status.symm, same_metadata, same_flag.symm⟩

/-- What a mark that raised leaves: nothing, its first statement or both. -/
inductive MarcaDeja (db : JournalDB) (entryId : Nat) (details : String) (averia : Averia) :
    JournalDB → Prop where
  | nada (at_first : EnPaso 0 averia) : MarcaDeja db entryId details averia db
  | marca (past : ¬ EnPaso 0 averia) (stopped : details ≠ "" → EnPaso 2 averia →
        ∃ e, updateRollbackDetails entryId details (db.conMarca entryId) = .error e) :
      MarcaDeja db entryId details averia (db.conMarca entryId)
  | todo {count : Nat} {db' : JournalDB} (at_commit : EnPaso 2 averia) (with_details : details ≠ "")
      (ran : updateRollbackDetails entryId details (db.conMarca entryId) = .ok (count, db')) :
      MarcaDeja db entryId details averia db'

theorem escribirMarca_deja {c : Connection JournalDB} {entryId : Nat} {details : String}
    (raised : (boundary false (escribirMarca entryId details) c averia.fault).1 = .error e) :
    ∃ w, (boundary false (escribirMarca entryId details) c averia.fault).2 = ⟨c.durable, w⟩ ∧
      MarcaDeja c.working entryId details averia w := by
  have enPaso (n m : Nat) (e : SqliteError) : EnPaso n (some (m, e)) ↔ n = m := by
    simp [EnPaso, eq_comm]
  have first : updateEntry entryId (fun e => { e with status := .rolledBack, rolledBack := true })
      (fun _ => rfl) c.working =
        .ok (c.working.journalEntries.count fun e => e.id = entryId, c.working.conMarca entryId) :=
    rfl
  by_cases plain : details = ""
  · subst plain
    obtain _ | ⟨_ | _ | n, e'⟩ := averia
    · simp [boundary, escribirMarca, bind, Body.andThen, Body.statement, updateEntry, Averia.fault,
        tick, pure, Body.ret] at raised
    · exact ⟨c.working, rfl, .nada ⟨e', rfl⟩⟩
    · refine ⟨c.working.conMarca entryId, rfl, .marca ?_ ?_⟩
      · simp [enPaso]
      · simp
    · simp [boundary, escribirMarca, bind, Body.andThen, Body.statement, updateEntry, Averia.fault,
        tick, pure, Body.ret] at raised
  · obtain _ | ⟨_ | _ | n, e'⟩ := averia
    rotate_left
    · exact ⟨c.working, rfl, .nada ⟨e', rfl⟩⟩
    · refine ⟨c.working.conMarca entryId, ?_, .marca ?_ ?_⟩
      · simp [boundary, escribirMarca, bind, Body.andThen, Body.statement, updateEntry,
          Averia.fault, tick, plain]
        rfl
      · simp [enPaso]
      · simp [enPaso]
    rotate_left
    · cases second : updateRollbackDetails entryId details (c.working.conMarca entryId) with
      | error e' =>
        refine ⟨c.working.conMarca entryId, ?_, .marca (by simp [EnPaso]) fun _ _ => ⟨e', second⟩⟩
        simp [boundary, escribirMarca, bind, Body.andThen, Body.statement, first, second,
          Averia.fault, tick, plain]
      | ok salida =>
        simp [boundary, escribirMarca, bind, Body.andThen, Body.statement, first, second,
          Averia.fault, tick, plain, pure, Body.ret] at raised
    · cases second : updateRollbackDetails entryId details (c.working.conMarca entryId) with
      | error e' =>
        refine ⟨c.working.conMarca entryId, ?_, .marca (by simp [enPaso]) fun _ _ => ⟨e', second⟩⟩
        simp [boundary, escribirMarca, bind, Body.andThen, Body.statement, first, second,
          Averia.fault, tick, plain]
      | ok salida =>
        cases n with
        | zero =>
          refine ⟨salida.2, ?_, .todo ⟨e', rfl⟩ plain second⟩
          simp [boundary, escribirMarca, bind, Body.andThen, Body.statement, first, second,
            Averia.fault, tick, plain, pure, Body.ret]
        | succ n =>
          simp [boundary, escribirMarca, bind, Body.andThen, Body.statement, first, second,
            Averia.fault, tick, plain, pure, Body.ret] at raised

theorem updateRollbackDetails_error {db : JournalDB} {entryId : Nat} {details : String}
    {entry : JournalEntry} {m : Option Metadata} (found : db.journalEntries.find entryId = some entry)
    (written : conRollbackDetails details entry.metadata = .ok m) :
    updateRollbackDetails entryId details (db.conMarca entryId) ≠ .error e := by
  intro failed
  simp only [updateRollbackDetails, find_conMarca, found, Option.map_some, marcada] at failed
  simp [written, bind, Except.bind, updateEntry] at failed

theorem deja_markRolledBack {entryId : Nat} {details : String} (standalone : j.lifecycle = false)
    (clean : j.conn.Clean) (raised : (markRolledBack entryId details averia j).1 = .error e) :
    Deja (markRolledBack entryId details averia j).2 j (¬ EnPaso 0 averia →
      ∀ e, j.conn.durable.journalEntries.find entryId = some e →
        e.status = .rolledBack ∧ e.rolledBack = true ∧
          (details ≠ "" → EnPaso 2 averia →
            ∀ m, conRollbackDetails details e.metadata = .ok m → m = e.metadata)) := by
  obtain ⟨e₀, failed, after⟩ := escribe_error raised
  simp only [standalone, Bool.or_false] at failed after
  obtain ⟨w, left, remains⟩ := escribirMarca_deja failed
  rw [left] at after
  refine ⟨w, after, ?_⟩
  rw [clean] at remains
  cases remains with
  | nada at_first => exact iff_of_true rfl fun past => absurd at_first past
  | marca past stopped =>
    rw [conMarca_eq_self]
    constructor
    · intro fixed _ entry found
      obtain ⟨status, flag⟩ := marcada_eq_self.mp (fixed entry found)
      refine ⟨status, flag, fun with_details at_commit m written => ?_⟩
      obtain ⟨e', failed'⟩ := stopped with_details at_commit
      exact absurd failed' (updateRollbackDetails_error found written)
    · intro fixed entry found
      obtain ⟨status, flag, -⟩ := fixed past entry found
      exact marcada_eq_self.mpr ⟨status, flag⟩
  | todo at_commit with_details ran =>
    rw [updateRollbackDetails_fija ran]
    have past : ¬ EnPaso 0 averia := by
      rintro ⟨e', rfl⟩
      simp [EnPaso] at at_commit
    constructor
    · intro fixed _ entry found
      obtain ⟨same, kept⟩ := fixed entry found
      obtain ⟨status, flag⟩ := marcada_eq_self.mp same
      exact ⟨status, flag, fun _ _ => kept⟩
    · intro fixed entry found
      obtain ⟨status, flag, kept⟩ := fixed past entry found
      exact ⟨marcada_eq_self.mpr ⟨status, flag⟩, kept with_details at_commit⟩

/-! The writers that roll back -/

theorem deja_transicionar {handoffId : Nat} {desde hacia : HandoffState}
    {campos : List CampoTransicion} (clean : j.conn.Clean)
    (raised : (transicionarHandoff handoffId desde hacia campos now averia j).1 = .error e) :
    Deja (transicionarHandoff handoffId desde hacia campos now averia j).2 j True := by
  simp only [transicionarHandoff] at raised ⊢
  split at raised
  · exact deja_igual clean trivial
  · exact deja_revierte clean raised

theorem deja_registrarHandoff {registro : DeploymentHandoff} {consumir : List Nat}
    {absorber : Option (List Nat)} (clean : j.conn.Clean)
    (raised : (registrarHandoffIndeterminado clave registro consumir absorber now averia j).1 =
      .error e) :
    Deja (registrarHandoffIndeterminado clave registro consumir absorber now averia j).2 j True := by
  simp only [registrarHandoffIndeterminado] at raised ⊢
  split at raised
  · simp at raised
  · simp at raised
  · rename_i e' j' other ran
    have reverted := deja_revierte clean (congrArg Prod.fst ran)
    rwa [ran] at reverted

theorem deja_resolver {artifactPath : String} {txIds : List Nat} (clean : j.conn.Clean)
    (raised : (resolverEvidenciaComoNoArtifact clave artifactPath txIds now averia j).1 =
      .error e) :
    Deja (resolverEvidenciaComoNoArtifact clave artifactPath txIds now averia j).2 j True := by
  simp only [resolverEvidenciaComoNoArtifact] at raised ⊢
  by_cases empty : txIds = []
  · simp [empty] at raised
  · rw [if_neg empty] at raised ⊢
    exact deja_revierte clean raised

theorem deja_cerrar {txIds : List Nat} (clean : j.conn.Clean)
    (raised : (cerrarReceiptsComoNoArtifact txIds now averia j).1 = .error e) :
    Deja (cerrarReceiptsComoNoArtifact txIds now averia j).2 j True := by
  simp only [cerrarReceiptsComoNoArtifact] at raised ⊢
  by_cases empty : txIds = []
  · simp [empty] at raised
  · rw [if_neg empty] at raised ⊢
    exact deja_revierte clean raised

theorem corre_deja {op : Operacion} (standalone : j.lifecycle = false) (clean : j.conn.Clean)
    (raised : (op.corre clave now averia j).1 = .error e) :
    Deja (op.corre clave now averia j).2 j (op.conserva now averia j) := by
  cases op with
  | beginTransaction => exact deja_begin standalone clean (responde_error raised)
  | commitTransaction | rollbackTransaction =>
    exact deja_cierra standalone clean (by simp [Transaction.committed, Transaction.revertida])
      (responde_error raised)
  | markTransactionRolledBack => exact deja_mark standalone clean (responde_error raised)
  | beginOperation => exact deja_beginOperation standalone clean (responde_error raised)
  | completeOperation => exact deja_complete standalone clean (responde_error raised)
  | markRolledBack => exact deja_markRolledBack standalone clean (responde_error raised)
  | transicionarHandoff => exact deja_transicionar clean (responde_error raised)
  | registrarHandoffIndeterminado => exact deja_registrarHandoff clean (responde_error raised)
  | resolverEvidenciaComoNoArtifact => exact deja_resolver clean (responde_error raised)
  | cerrarReceiptsComoNoArtifact => exact deja_cerrar clean (responde_error raised)
  | sweepStalePending | failOperation | crearHandoffDeDeployment | completarHandoffDeResume
  | registrarResolucionDeRestauracionDeArtifact => exact deja_revierte clean (responde_error raised)

end

/-- Operations one after another, whatever each of them answers. -/
def corrida (clave : String → String) : List (Operacion × Int × Averia) → Journal → Journal
  | [], j => j
  | (op, now, averia) :: rest, j => corrida clave rest (op.corre clave now averia j).2

/-- Every operation of the run that raised left nothing. -/
def TodasConservan (clave : String → String) :
    List (Operacion × Int × Averia) → Journal → Prop
  | [], _ => True
  | (op, now, averia) :: rest, j =>
    (∀ e, (op.corre clave now averia j).1 = .error e → op.conserva now averia j) ∧
      TodasConservan clave rest (op.corre clave now averia j).2

theorem corre_limpia {op : Operacion} {now : Int} {averia : Averia} {j : Journal}
    (standalone : j.lifecycle = false) (clean : j.conn.Clean)
    (kept : ∀ e, (op.corre clave now averia j).1 = .error e → op.conserva now averia j) :
    (op.corre clave now averia j).2.conn.Clean := by
  cases outcome : (op.corre clave now averia j).1 with
  | ok r => exact (corre_corrida op now averia j).clean ⟨r, outcome⟩ clean
  | error e =>
    obtain ⟨w, after, left⟩ := corre_deja standalone clean outcome
    rw [after]
    exact left.mpr (kept e outcome)

theorem corrida_limpia {pasos : List (Operacion × Int × Averia)} {j : Journal}
    (standalone : j.lifecycle = false) (clean : j.conn.Clean)
    (kept : TodasConservan clave pasos j) :
    (corrida clave pasos j).lifecycle = false ∧ (corrida clave pasos j).conn.Clean := by
  induction pasos generalizing j with
  | nil => exact ⟨standalone, clean⟩
  | cons paso pasos ih =>
    obtain ⟨op, now, averia⟩ := paso
    obtain ⟨first, rest⟩ := kept
    have same := (@corre_corrida clave op now averia j).lifecycle
    exact ih (same.trans standalone) (corre_limpia standalone clean first) rest

/-- After any run whose failures left nothing, the next one leaves nothing
    exactly when `conserva` holds of it. -/
theorem todo_o_nada (clave : String → String) (antes : List (Operacion × Int × Averia))
    (op : Operacion) (now : Int) (averia : Averia) (j : Journal) (e : Fallo)
    (standalone : j.lifecycle = false) (opened : j.conn.Clean)
    (kept : TodasConservan clave antes j)
    (raised : (op.corre clave now averia (corrida clave antes j)).1 = .error e) :
    TodoONada clave op now averia (corrida clave antes j) ↔
      op.conserva now averia (corrida clave antes j) := by
  obtain ⟨standalone, clean⟩ := corrida_limpia standalone opened kept
  obtain ⟨w, after, left⟩ := corre_deja standalone clean raised
  rw [TodoONada, after, sinRastro_iff clean, left]

def recienAbierto : Journal := ⟨false, ⟨.empty, .empty⟩, none⟩

def bloqueada (n : Nat) : Averia := some (n, .operational "database is locked")

/-- The transaction whose `begin_transaction` raised at its commit is made
    durable by the next writer that commits. -/
theorem inicio_deja_rastro :
    ((Operacion.beginTransaction "patch" none).corre id 0 (bloqueada 1) recienAbierto).1 =
        .error (.journalTransaction "Failed to begin transaction: database is locked" none) ∧
      ¬ TodoONada id (.beginTransaction "patch" none) 0 (bloqueada 1) recienAbierto := by
  refine ⟨rfl, ?_⟩
  have opened : recienAbierto.conn.Clean := rfl
  have leaves : Deja ((Operacion.beginTransaction "patch" none).corre id 0 (bloqueada 1)
      recienAbierto).2 recienAbierto (¬ EnPaso 1 (bloqueada 1)) := deja_begin rfl opened rfl
  obtain ⟨w, raised, left⟩ := leaves
  rw [TodoONada, raised, sinRastro_iff opened, left]
  exact fun free => free ⟨_, rfl⟩

theorem todo_o_nada_barrido :
    TodoONada id (.sweepStalePending 0) 9 (bloqueada 1) (corrida id
      [(.beginTransaction "patch" none, 0, none), (.completeOperation 1, 0, bloqueada 0)]
      recienAbierto) := by
  refine (todo_o_nada id _ (.sweepStalePending 0) 9 (bloqueada 1) recienAbierto _ rfl rfl ?_
    rfl).mpr trivial
  refine ⟨fun e raised => ?_, fun e raised commit => ?_, trivial⟩
  · have returned : ((Operacion.beginTransaction "patch" none).corre id 0 none
        recienAbierto).1 = .ok (.id 1) := rfl
    rw [returned] at raised
    cases raised
  · obtain ⟨e', same⟩ := commit
    simp [bloqueada] at same

end OperationJournal
