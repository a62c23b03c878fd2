import Mathlib.Logic.Relation
import SkyClaw.JournalBoundaries

set_option linter.all false

/-!
What one statement of each operation may do to the database, and from it what a
whole operation may leave, raised or not.
-/
namespace OperationJournal
open KeyedRows ImplicitTransaction Relation

/-- The transaction that an operation takes out of `PENDING`. -/
def Operacion.cierra : Operacion → Option Nat
  | .commitTransaction id | .rollbackTransaction id | .crearHandoffDeDeployment id ..
  | .completarHandoffDeResume id _ => some id
  | _ => none

/-- The status in which it leaves that transaction. -/
def Operacion.desenlace : Operacion → TransactionStatus
  | .rollbackTransaction _ => .rolledBack
  | _ => .committed

def Operacion.escribeEntradas : Operacion → Bool
  | .beginOperation .. | .completeOperation .. | .failOperation .. | .markRolledBack .. => true
  | _ => false

def Operacion.escribeHandoffs : Operacion → Bool
  | .crearHandoffDeDeployment .. | .completarHandoffDeResume .. | .transicionarHandoff ..
  | .registrarHandoffIndeterminado .. => true
  | _ => false

/-- The artifact whose evidence an operation may resolve. -/
def Operacion.Nombra (op : Operacion) (db : JournalDB) (artifactPath : String) : Prop :=
  match op with
  | .crearHandoffDeDeployment _ _ registro _ | .registrarHandoffIndeterminado registro .. =>
    artifactPath = registro.artifactPath
  | .completarHandoffDeResume _ handoffId =>
    ∃ h, db.deploymentHandoffs.find handoffId = some h ∧ h.artifactPath = artifactPath
  | .resolverEvidenciaComoNoArtifact path _ | .registrarResolucionDeRestauracionDeArtifact _ path =>
    artifactPath = path
  | _ => False

inductive Cambio (clave : String → String) (now : Int) (op : Operacion) (db : JournalDB) :
    JournalDB → Prop where
  | alta {description : String} {modId : Option Int} (begins : op = .beginTransaction description modId) :
      Cambio clave now op db { db with
        transactions := db.transactions.insertNext
          (fun k => ⟨k, modId, description, .pending, now, none, none⟩) fun _ => rfl }
  | cierre {id : Nat} (closes : op.cierra = some id) (f : Transaction → Transaction)
      (keeps : ∀ t, (f t).transactionId = t.transactionId)
      (ends : ∀ t, (f t).status = op.desenlace) :
      Cambio clave now op db { db with
        transactions := db.transactions.updateWhere (esPendiente id) f keeps }
  | marca {id : Nat} (marks : op = .markTransactionRolledBack id) :
      Cambio clave now op db { db with
        transactions := db.transactions.updateWhere (fun t => t.transactionId = id)
          (Transaction.revertida now) fun _ => rfl }
  | barrido {maxAge : Int} (sweeps : op = .sweepStalePending maxAge) :
      Cambio clave now op db { db with
        transactions := db.transactions.updateWhere (esStale (now - maxAge))
          (Transaction.revertida now) fun _ => rfl }
  | entradas (writes : op.escribeEntradas = true)
      (tabla : AutoTable JournalEntry JournalEntry.id) :
      Cambio clave now op db { db with journalEntries := tabla }
  | handoffs (writes : op.escribeHandoffs = true) (tabla : HandoffTable)
      (kept : ∀ k h, db.deploymentHandoffs.find k = some h →
        ∃ h', tabla.find k = some h' ∧ h'.artifactPath = h.artifactPath) :
      Cambio clave now op db { db with deploymentHandoffs := tabla }
  | recibo {maxAge : Int} (sweeps : op = .sweepStalePending maxAge) (tabla : ReceiptTable) :
      Cambio clave now op db { db with sweepReceipts := tabla }
  | receipts {txIds : List Nat} (closes : op = .cerrarReceiptsComoNoArtifact txIds)
      (tabla : ReceiptTable)
      (same : tabla.rows.map (·.transactionId) = db.sweepReceipts.rows.map (·.transactionId)) :
      Cambio clave now op db { db with sweepReceipts := tabla }
  | resolucion {artifactPath : String} (names : op.Nombra db artifactPath) (tabla : ResolutionTable)
      (id : Nat) (kind : ArtifactResolutionKind) (handoffId : Option Nat)
      (rows : tabla.rows = db.artifactResolutions.rows ++ [⟨db.artifactResolutions.seq + 1, id,
        clave (clave artifactPath), kind, handoffId, now⟩]) :
      Cambio clave now op db { db with artifactResolutions := tabla }

/-! Statements -/

section
variable {db db' : JournalDB} {n : Nat}

theorem updateTransactions_ok {p : Transaction → Bool} {f : Transaction → Transaction}
    {keeps : ∀ t, (f t).transactionId = t.transactionId}
    (ran : updateTransactions p f keeps db = .ok (n, db')) :
    n = db.transactions.count p ∧
      db' = { db with transactions := db.transactions.updateWhere p f keeps } := by
  simp only [updateTransactions, Except.ok.injEq, Prod.mk.injEq] at ran
  exact ⟨ran.1.symm, ran.2.symm⟩

theorem exigeFilas_ok {rechazo : Fallo} {s t : JournalDB × Fault Fallo} {u : Unit}
    (ran : exigeFilas rechazo n s = (.ok u, t)) : n ≠ 0 ∧ t = s := by
  unfold exigeFilas at ran
  split at ran
  · simp [Body.raise] at ran
  · rename_i some_rows
    simp only [pure, Body.ret, Prod.mk.injEq, true_and] at ran
    exact ⟨some_rows, ran.symm⟩

/-- A closing that returned updated the row, and nothing else. -/
theorem cierra_ok {cierra : Transaction → Transaction}
    {keeps : ∀ t, (cierra t).transactionId = t.transactionId} {mensaje : String} {id : Nat}
    {averia : Averia} {j j' : Journal} {u : Unit}
    (returned : cierraTransaccion cierra keeps mensaje id averia j = (.ok u, j')) :
    j.conn.working.transactions.count (esPendiente id) ≠ 0 ∧
      j'.conn.durable = { j.conn.working with
        transactions := j.conn.working.transactions.updateWhere (esPendiente id) cierra keeps } := by
  simp only [cierraTransaccion] at returned
  split at returned
  · obtain ⟨u', db', rest, ran, after⟩ := escribe_ok returned
    obtain ⟨n, s, updated, checked⟩ := bind_ok ran
    obtain ⟨some_rows, same⟩ := exigeFilas_ok checked
    obtain ⟨rfl, same_db⟩ := updateTransactions_ok (statement_ok updated)
    simp only [Prod.mk.injEq] at after
    obtain ⟨-, rfl⟩ := after
    refine ⟨some_rows, ?_⟩
    rw [olvida_conn, ← same_db, ← same]
    rfl
  · split at returned
    · simp at returned
    · rename_i n k some_rows ran
      obtain ⟨n', db', rest, body_ran, after⟩ := escribe_ok ran
      obtain ⟨rfl, rfl⟩ := updateTransactions_ok (statement_ok body_ran)
      simp only [devuelve, Prod.mk.injEq] at after
      obtain ⟨rfl, rfl⟩ := after
      simp only [Prod.mk.injEq, true_and] at returned
      subst returned
      refine ⟨fun zero => some_rows zero, ?_⟩
      rw [olvida_conn]
      rfl
    · simp at returned

theorem updateEntry_ok {id : Nat} {f : JournalEntry → JournalEntry}
    {keeps : ∀ e, (f e).id = e.id} (ran : updateEntry id f keeps db = .ok (n, db')) :
    ∃ tabla, db' = { db with journalEntries := tabla } := by
  simp only [updateEntry, Except.ok.injEq, Prod.mk.injEq] at ran
  exact ⟨_, ran.2.symm⟩

theorem insertEntry_ok {fila : Nat → JournalEntry} {keyed : ∀ k, (fila k).id = k} {tx : Nat}
    (ran : insertEntry fila keyed tx db = .ok (n, db')) :
    ∃ tabla, db' = { db with journalEntries := tabla } := by
  simp only [insertEntry] at ran
  split at ran
  · simp at ran
  · simp only [Except.ok.injEq, Prod.mk.injEq] at ran
    exact ⟨_, ran.2.symm⟩

theorem updateRollbackDetails_ok {entryId : Nat} {details : String}
    (ran : updateRollbackDetails entryId details db = .ok (n, db')) :
    ∃ tabla, db' = { db with journalEntries := tabla } := by
  simp only [updateRollbackDetails] at ran
  split at ran
  · simp only [Except.ok.injEq, Prod.mk.injEq] at ran
    exact ⟨db.journalEntries, ran.2.symm⟩
  · rename_i row _
    cases written : conRollbackDetails details row.metadata with
    | error e => simp [written, bind, Except.bind] at ran
    | ok m =>
      simp only [written, bind, Except.bind] at ran
      exact updateEntry_ok ran

theorem insertHandoff_ok {registro : DeploymentHandoff} {now : Int}
    (ran : insertHandoff registro now db = .ok (n, db')) :
    ∃ tabla : HandoffTable, db' = { db with deploymentHandoffs := tabla } ∧
      n = db.deploymentHandoffs.seq + 1 ∧
      ∀ k h, db.deploymentHandoffs.find k = some h → tabla.find k = some h := by
  simp only [insertHandoff] at ran
  split at ran
  · split at ran
    · split at ran
      · simp at ran
      · simp only [Except.ok.injEq, Prod.mk.injEq] at ran
        refine ⟨_, ran.2.symm, ran.1.symm, fun k h found => ?_⟩
        exact AutoTable.find_insertNext_old found
    · simp at ran
  · simp at ran

theorem updateHandoffs_ok {p : DeploymentHandoff → Bool}
    {f : DeploymentHandoff → DeploymentHandoff} {keeps : ∀ h, (f h).handoffId = h.handoffId}
    (ran : updateHandoffs p f keeps db = .ok (n, db')) :
    ∃ tabla : HandoffTable, db' = { db with deploymentHandoffs := tabla } ∧
      n = db.deploymentHandoffs.count p ∧
      ∀ k, tabla.find k = (db.deploymentHandoffs.find k).map fun h => if p h then f h else h := by
  simp only [updateHandoffs] at ran
  split at ran
  · split at ran
    · simp only [Except.ok.injEq, Prod.mk.injEq] at ran
      refine ⟨_, ran.2.symm, ran.1.symm, fun k => ?_⟩
      exact AutoTable.find_updateWhere db.deploymentHandoffs.toAutoTable p f keeps k
    · simp at ran
  · simp at ran

theorem insertReceipt_ok {tx : Nat} {now : Int} (ran : insertReceipt tx now db = .ok (n, db')) :
    ∃ tabla : ReceiptTable, db' = { db with sweepReceipts := tabla } ∧
      tabla.rows = db.sweepReceipts.rows ++
        [⟨db.sweepReceipts.seq + 1, tx, .unresolved, now, none⟩] := by
  simp only [insertReceipt] at ran
  split at ran
  · split at ran
    · simp at ran
    · simp only [Except.ok.injEq, Prod.mk.injEq] at ran
      exact ⟨_, ran.2.symm, rfl⟩
  · simp at ran

theorem updateReceipt_ok {tx : Nat} {state : SweepReceiptState} {now : Int}
    (ran : updateReceipt tx state now db = .ok (n, db')) :
    ∃ tabla : ReceiptTable, db' = { db with sweepReceipts := tabla } ∧
      tabla.rows.map (·.transactionId) = db.sweepReceipts.rows.map (·.transactionId) := by
  simp only [updateReceipt, Except.ok.injEq, Prod.mk.injEq] at ran
  refine ⟨_, ran.2.symm, ?_⟩
  simp only [AutoTable.updateWhere, Table.updateWhere, List.map_map]
  refine List.map_congr_left fun r _ => ?_
  simp only [Function.comp]
  split <;> rfl

theorem insertResolucion_ok {id : Nat} {path : String} {kind : ArtifactResolutionKind}
    {handoffId : Option Nat} {now : Int}
    (ran : insertResolucion id path kind handoffId now db = .ok (n, db')) :
    db' = db ∨ ∃ tabla : ResolutionTable, db' = { db with artifactResolutions := tabla } ∧
      tabla.rows = db.artifactResolutions.rows ++
        [⟨db.artifactResolutions.seq + 1, id, path, kind, handoffId, now⟩] := by
  simp only [insertResolucion] at ran
  split at ran
  · simp at ran
  · split at ran
    · split at ran
      · simp at ran
      · simp only [Except.ok.injEq, Prod.mk.injEq] at ran
        exact .inr ⟨_, ran.2.symm, rfl⟩
    · simp only [Except.ok.injEq, Prod.mk.injEq] at ran
      exact .inl ran.2.symm

end

/-! Bodies -/

section
variable {clave : String → String} {now : Int} {op : Operacion} {α β : Type}

abbrev Cambios (clave : String → String) (now : Int) (op : Operacion) :
    JournalDB → JournalDB → Prop := ReflTransGen (Cambio clave now op)

abbrev Cambia (clave : String → String) (now : Int) (op : Operacion) (body : Sql α) : Prop :=
  Preserves (Cambios clave now op) body

theorem cambia_pure (a : α) : Cambia clave now op (pure a : Sql α) :=
  preserves_pure (fun _ => .refl) a

theorem cambia_raise (e : Fallo) : Cambia clave now op (Body.raise e : Sql α) :=
  preserves_raise (fun _ => .refl) e

theorem cambia_bind {x : Sql α} {f : α → Sql β} (first : Cambia clave now op x)
    (second : ∀ a, Cambia clave now op (f a)) : Cambia clave now op (x >>= f) :=
  preserves_bind (fun _ _ _ => .trans) first second

theorem cambia_void {x : Sql α} (inner : Cambia clave now op x) : Cambia clave now op x.void :=
  cambia_bind inner fun _ => cambia_pure ()

theorem cambia_statement {sql : JournalDB → Except Fallo (α × JournalDB)}
    (effect : ∀ db a db', sql db = .ok (a, db') → Cambios clave now op db db') :
    Cambia clave now op (Body.statement sql) := preserves_statement (fun _ => .refl) effect

theorem cambia_query (sql : JournalDB → α) : Cambia clave now op (Body.query sql) :=
  preserves_query (fun _ => .refl) sql

theorem cambia_each {body : β → Sql Unit} (items : List β)
    (one : ∀ a, Cambia clave now op (body a)) : Cambia clave now op (Body.each items body) :=
  preserves_each (fun _ => .refl) (fun _ _ _ => .trans) items one

theorem cambia_exigeFilas (rechazo : Fallo) (n : Nat) :
    Cambia clave now op (exigeFilas rechazo n) := by
  unfold exigeFilas
  split
  · exact cambia_raise rechazo
  · exact cambia_pure ()

theorem cambia_entrada {sql : Sentencia} (writes : op.escribeEntradas = true)
    (effect : ∀ db n db', sql db = .ok (n, db') →
      ∃ tabla, db' = { db with journalEntries := tabla }) :
    Cambia clave now op (Body.statement sql) := by
  refine cambia_statement fun db n db' ran => ?_
  obtain ⟨tabla, rfl⟩ := effect db n db' ran
  exact .single (.entradas writes tabla)

theorem cambia_updateHandoffs {p : DeploymentHandoff → Bool}
    {f : DeploymentHandoff → DeploymentHandoff} {keeps : ∀ h, (f h).handoffId = h.handoffId}
    (writes : op.escribeHandoffs = true) (same : ∀ h, (f h).artifactPath = h.artifactPath) :
    Cambia clave now op (Body.statement (updateHandoffs p f keeps)) := by
  refine cambia_statement fun db n db' ran => ?_
  obtain ⟨tabla, rfl, -, rows⟩ := updateHandoffs_ok ran
  refine .single (.handoffs writes tabla fun k h found => ?_)
  rw [rows, found]
  refine ⟨_, rfl, ?_⟩
  dsimp only
  split
  · exact same h
  · rfl

theorem cambia_insertHandoff {registro : DeploymentHandoff} (writes : op.escribeHandoffs = true) :
    Cambia clave now op (Body.statement (insertHandoff registro now)) := by
  refine cambia_statement fun db n db' ran => ?_
  obtain ⟨tabla, rfl, -, kept⟩ := insertHandoff_ok ran
  exact .single (.handoffs writes tabla fun k h found => ⟨h, kept k h found, rfl⟩)

theorem cambia_cierre {id : Nat} {f : Transaction → Transaction}
    {keeps : ∀ t, (f t).transactionId = t.transactionId} (closes : op.cierra = some id)
    (ends : ∀ t, (f t).status = op.desenlace) :
    Cambia clave now op (Body.statement (updateTransactions (esPendiente id) f keeps)) := by
  refine cambia_statement fun db n db' ran => ?_
  obtain ⟨-, rfl⟩ := updateTransactions_ok ran
  exact .single (.cierre closes f keeps ends)

theorem cambia_cuerpoDeCierre {lifecycle : Bool} {id : Nat} {f : Transaction → Transaction}
    {keeps : ∀ t, (f t).transactionId = t.transactionId} (closes : op.cierra = some id)
    (ends : ∀ t, (f t).status = op.desenlace) :
    Cambia clave now op (cuerpoDeCierre lifecycle f keeps id) := by
  simp only [cuerpoDeCierre]
  split
  · exact cambia_void (cambia_bind (cambia_cierre closes ends) fun n => cambia_exigeFilas _ n)
  · exact cambia_void (cambia_cierre closes ends)

theorem nombra_congr {db db' : JournalDB} {artifactPath : String}
    (same : db'.deploymentHandoffs = db.deploymentHandoffs) (names : op.Nombra db artifactPath) :
    op.Nombra db' artifactPath := by
  unfold Operacion.Nombra at names ⊢
  rwa [same]

/-- Where the operation names the artifact, it still does and what ran is one of its changes. -/
def Nombrando (clave : String → String) (now : Int) (op : Operacion) (artifactPath : String)
    (db db' : JournalDB) : Prop :=
  op.Nombra db artifactPath → op.Nombra db' artifactPath ∧ Cambios clave now op db db'

section
variable {artifactPath : String}

theorem nombrando_refl (db : JournalDB) : Nombrando clave now op artifactPath db db :=
  fun names => ⟨names, .refl⟩

theorem nombrando_trans (a b c : JournalDB) (first : Nombrando clave now op artifactPath a b)
    (second : Nombrando clave now op artifactPath b c) : Nombrando clave now op artifactPath a c := by
  intro names
  obtain ⟨names, before⟩ := first names
  obtain ⟨names, after⟩ := second names
  exact ⟨names, before.trans after⟩

theorem cambia_de_nombrando {body : Sql α} (always : ∀ db, op.Nombra db artifactPath)
    (kept : Preserves (Nombrando clave now op artifactPath) body) : Cambia clave now op body :=
  fun s => (kept s (always s.1)).2

theorem nombrando_registrar (kind : ArtifactResolutionKind) (handoffId : Option Nat)
    (ids : List Nat) :
    Preserves (Nombrando clave now op artifactPath)
      (registrarResolucionesDeArtifactEnConn clave ids (clave artifactPath) kind handoffId now) := by
  refine preserves_each nombrando_refl nombrando_trans _ fun id => ?_
  refine preserves_bind nombrando_trans
    (preserves_statement nombrando_refl fun db n db' ran names => ?_) fun _ => ?_
  · rcases insertResolucion_ok ran with rfl | ⟨tabla, rfl, rows⟩
    · exact ⟨names, .refl⟩
    · exact ⟨nombra_congr rfl names, .single (.resolucion names tabla id kind handoffId rows)⟩
  · refine preserves_bind nombrando_trans (preserves_query nombrando_refl _) fun fila => ?_
    cases fila with
    | none => exact preserves_raise nombrando_refl _
    | some r =>
      dsimp only
      split
      · exact preserves_pure nombrando_refl ()
      · exact preserves_raise nombrando_refl _

theorem nombrando_filtrar (ids : List Nat) :
    Preserves (Nombrando clave now op artifactPath) (filtrarResolublesHistoricasEnConn ids) := by
  unfold filtrarResolublesHistoricasEnConn
  split
  · exact preserves_pure nombrando_refl _
  · exact preserves_query nombrando_refl _

theorem nombrando_candidatas (objetivo pref : String) :
    Preserves (Nombrando clave now op artifactPath) (candidatasOrphanEnConn clave objetivo pref) :=
  preserves_bind nombrando_trans (preserves_query nombrando_refl _) fun _ =>
    preserves_bind nombrando_trans (preserves_query nombrando_refl _) fun _ =>
      preserves_pure nombrando_refl _

theorem nombrando_sellar (pref : String) (handoffId : Nat) (kind : ArtifactResolutionKind)
    (excluir : Nat) (soloHistoricas : Bool) :
    Preserves (Nombrando clave now op artifactPath) (sellarEvidenciaDeArtifact clave
      (clave artifactPath) pref handoffId kind excluir soloHistoricas now) := by
  refine preserves_bind nombrando_trans (nombrando_candidatas _ _) fun candidatas => ?_
  cases soloHistoricas with
  | true =>
    exact preserves_bind nombrando_trans (nombrando_filtrar _) fun ids =>
      nombrando_registrar kind (some handoffId) ids
  | false =>
    exact preserves_bind nombrando_trans (preserves_pure nombrando_refl _) fun ids =>
      nombrando_registrar kind (some handoffId) ids

end

theorem cambia_escribirFallo {entryId : Nat} {evidencia : JsonObject}
    (writes : op.escribeEntradas = true) :
    Cambia clave now op (escribirFallo entryId evidencia) := by
  refine cambia_bind (cambia_entrada writes fun _ _ _ => updateEntry_ok) fun _ => ?_
  split
  · exact cambia_pure ()
  · refine cambia_bind (cambia_query _) fun fila => ?_
    cases fila with
    | none => exact cambia_pure ()
    | some row =>
      exact cambia_bind (cambia_entrada writes fun _ _ _ => updateEntry_ok) fun _ => cambia_pure ()

theorem cambia_escribirMarca {entryId : Nat} {details : String}
    (writes : op.escribeEntradas = true) :
    Cambia clave now op (escribirMarca entryId details) := by
  refine cambia_bind (cambia_entrada writes fun _ _ _ => updateEntry_ok) fun _ => ?_
  split
  · exact cambia_pure ()
  · exact cambia_bind (cambia_entrada writes fun _ _ _ => updateRollbackDetails_ok) fun _ =>
      cambia_pure ()

theorem cambia_sweep (maxAge : Int) :
    Cambia clave now (.sweepStalePending maxAge) (escribirSweep (now - maxAge) now) := by
  refine cambia_bind (cambia_statement fun db ids db' ran => ?_) fun ids =>
    cambia_bind (cambia_each ids fun id => ?_) fun _ => cambia_pure _
  · simp only [bind, Except.bind, updateTransactions, pure, Except.pure, Except.ok.injEq,
      Prod.mk.injEq] at ran
    obtain ⟨-, rfl⟩ := ran
    exact .single (.barrido rfl)
  · refine cambia_bind (cambia_statement fun db n db' ran => ?_) fun _ => cambia_pure ()
    obtain ⟨tabla, rfl, -⟩ := insertReceipt_ok ran
    exact .single (.recibo rfl tabla)

theorem cambia_handoff {id : Nat} {descripcion : Option String} {registro : DeploymentHandoff}
    {viejo : Option Nat} :
    Cambia clave now (.crearHandoffDeDeployment id descripcion registro viejo)
      (escribirHandoffDeDeployment clave id descripcion registro viejo now) := by
  refine cambia_bind (cambia_cierre rfl fun _ => rfl) fun n =>
    cambia_bind (cambia_exigeFilas _ n) fun _ => ?_
  have seals (pref : String) (handoffId : Nat) (kind : ArtifactResolutionKind) (historicas : Bool) :
      Cambia clave now (.crearHandoffDeDeployment id descripcion registro viejo)
        (sellarEvidenciaDeArtifact clave (clave registro.artifactPath) pref handoffId kind id
          historicas now) :=
    cambia_de_nombrando (fun _ => rfl) (nombrando_sellar pref handoffId kind id historicas)
  cases viejo with
  | some viejo =>
    refine cambia_bind (cambia_updateHandoffs rfl fun _ => rfl) fun tocadas =>
      cambia_bind (cambia_exigeFilas _ tocadas) fun _ =>
        cambia_bind (cambia_insertHandoff rfl) fun nuevo =>
          cambia_bind (cambia_updateHandoffs rfl fun _ => rfl) fun _ => ?_
    exact cambia_bind (seals _ viejo _ false) fun _ => cambia_pure nuevo
  | none =>
    refine cambia_bind (cambia_insertHandoff rfl) fun nuevo => ?_
    exact cambia_bind (seals _ nuevo _ true) fun _ => cambia_pure nuevo

theorem cambia_resume {id handoffId : Nat} :
    Cambia clave now (.completarHandoffDeResume id handoffId)
      (escribirResumeCompletado clave id handoffId now) := by
  refine cambia_bind (cambia_cierre rfl fun _ => rfl) fun n =>
    cambia_bind (cambia_exigeFilas _ n) fun _ => cambia_bind (cambia_updateHandoffs rfl fun _ => rfl) fun tocadas =>
      cambia_bind (cambia_exigeFilas _ tocadas) fun _ => ?_
  refine preserves_query_bind (fun _ => .refl) fun db rest => ?_
  cases found : db.deploymentHandoffs.find handoffId with
  | none => exact .refl
  | some h =>
    have names : (Operacion.completarHandoffDeResume id handoffId).Nombra db h.artifactPath :=
      ⟨h, found, rfl⟩
    exact (nombrando_sellar _ handoffId .absorbedByHandoff id false (db, rest) names).2

theorem cambia_indeterminado {registro : DeploymentHandoff} {consumir absorciones : List Nat}
    {absorber : Option (List Nat)} :
    Cambia clave now (.registrarHandoffIndeterminado registro consumir absorber)
      (escribirHandoffIndeterminado clave registro absorciones now) :=
  cambia_bind (cambia_insertHandoff rfl) fun nuevo =>
    cambia_bind (cambia_de_nombrando (fun _ => rfl) (nombrando_registrar _ _ absorciones)) fun _ =>
      cambia_pure nuevo

theorem cambia_noArtifact {artifactPath : String} {txIds ids : List Nat} :
    Cambia clave now (.resolverEvidenciaComoNoArtifact artifactPath txIds)
      (escribirNoArtifact clave (clave artifactPath) ids now) := by
  refine cambia_de_nombrando (fun _ => rfl) ?_
  exact preserves_bind nombrando_trans (nombrando_filtrar ids) fun resolubles =>
    nombrando_registrar _ _ resolubles

theorem cambia_cierreDeReceipts {txIds ids : List Nat} :
    Cambia clave now (.cerrarReceiptsComoNoArtifact txIds) (escribirCierreDeReceipts ids now) := by
  refine cambia_each ids fun id => cambia_bind (cambia_statement fun db n db' ran => ?_) fun _ =>
    cambia_pure ()
  obtain ⟨tabla, rfl, same⟩ := updateReceipt_ok ran
  exact .single (.receipts rfl tabla same)

theorem cuerpo_cambia {j : Journal} {body : Sql Unit} (ran : op.cuerpo clave now j = some body) :
    Cambia clave now op body := by
  cases op with
  | beginTransaction description modId =>
    cases ran
    refine cambia_void (cambia_statement fun db n db' inserted => ?_)
    simp only [insertTransaction, Except.ok.injEq, Prod.mk.injEq] at inserted
    exact inserted.2 ▸ .single (.alta rfl)
  | commitTransaction id | rollbackTransaction id =>
    cases ran
    exact cambia_cuerpoDeCierre rfl fun _ => rfl
  | markTransactionRolledBack id =>
    cases ran
    refine cambia_void (cambia_statement fun db n db' updated => ?_)
    obtain ⟨-, rfl⟩ := updateTransactions_ok updated
    exact .single (.marca rfl)
  | sweepStalePending maxAge =>
    cases ran
    exact cambia_void (cambia_sweep maxAge)
  | beginOperation op =>
    obtain ⟨tx, -, rfl⟩ := Option.map_eq_some_iff.mp ran
    exact cambia_void (cambia_entrada rfl fun _ _ _ => insertEntry_ok)
  | completeOperation entryId =>
    cases ran
    exact cambia_void (cambia_entrada rfl fun _ _ _ => updateEntry_ok)
  | failOperation entryId error metadata =>
    cases ran
    exact cambia_void (cambia_escribirFallo rfl)
  | markRolledBack entryId details =>
    cases ran
    exact cambia_void (cambia_escribirMarca rfl)
  | crearHandoffDeDeployment id descripcion registro viejo =>
    cases ran
    exact cambia_void cambia_handoff
  | completarHandoffDeResume id handoffId =>
    cases ran
    exact cambia_void cambia_resume
  | transicionarHandoff handoffId desde hacia campos =>
    simp only [Operacion.cuerpo] at ran
    split at ran
    · cases ran
    · cases ran
      exact cambia_void (cambia_updateHandoffs rfl (transicion_artifactPath hacia campos now))
  | registrarHandoffIndeterminado registro consumir absorber =>
    cases ran
    exact cambia_void cambia_indeterminado
  | resolverEvidenciaComoNoArtifact artifactPath txIds =>
    simp only [Operacion.cuerpo] at ran
    split at ran
    · cases ran
    · cases ran
      exact cambia_void cambia_noArtifact
  | registrarResolucionDeRestauracionDeArtifact id artifactPath =>
    cases ran
    exact cambia_void (cambia_de_nombrando (fun _ => rfl) (nombrando_registrar _ _ [id]))
  | cerrarReceiptsComoNoArtifact txIds =>
    simp only [Operacion.cuerpo] at ran
    split at ran
    · cases ran
    · cases ran
      exact cambia_void cambia_cierreDeReceipts

/-- What a whole operation does to the working copy: a sweep everything or
    nothing, the others any number of their changes. -/
def Transforma (clave : String → String) (now : Int) (op : Operacion) (db db' : JournalDB) : Prop :=
  match op with
  | .sweepStalePending maxAge => ∃ fault n rest,
    escribirSweep (now - maxAge) now (db, fault) = (.ok n, (db', rest))
  | _ => Cambios clave now op db db'

theorem Transforma.cambios {op : Operacion} {db db' : JournalDB}
    (transformed : Transforma clave now op db db') : Cambios clave now op db db' := by
  cases op with
  | sweepStalePending maxAge =>
    obtain ⟨fault, n, rest, ran⟩ := transformed
    have changed := @cambia_sweep clave now maxAge (db, fault)
    rw [ran] at changed
    exact changed
  | _ => exact transformed

/-- What an operation leaves, whatever it answers: the durable copy as it was,
    or made of the working copy. -/
theorem corre_transforma (op : Operacion) (now : Int) (averia : Averia) (j : Journal) :
    let c := (op.corre clave now averia j).2.conn
    (c.durable = j.conn.durable ∧
        (c.working = j.conn.durable ∨ Transforma clave now op j.conn.working c.working)) ∨
      (c.durable = c.working ∧ Transforma clave now op j.conn.working c.working) := by
  have conn := (@corre_corrida clave op now averia j).conn
  dsimp only
  rw [conn]
  cases op with
  | sweepStalePending maxAge =>
    simp only [Operacion.cuerpo, Operacion.revierte, Bool.or_true, boundary_void]
    cases outcome : (boundary true (escribirSweep (now - maxAge) now) j.conn averia.fault).1 with
    | error e =>
      rw [boundary_revert_error outcome]
      exact .inl ⟨rfl, .inl rfl⟩
    | ok n =>
      obtain ⟨rest, ran, clean⟩ := boundary_ok outcome
      exact .inr ⟨clean.symm, averia.fault, n, rest, ran⟩
  | _ =>
    cases ran : Operacion.cuerpo clave now j _ with
    | none => exact .inl ⟨rfl, .inr .refl⟩
    | some body => exact preserves_boundary (cuerpo_cambia ran) _ j.conn averia.fault

end

end OperationJournal
