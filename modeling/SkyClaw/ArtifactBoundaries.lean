import SkyClaw.OrphanEvidence

set_option linter.all false

/-!
Operations that end an artifact's ownership. They resolve the evidence that the
artifact had in the same boundary.
-/
namespace OperationJournal
open KeyedRows ImplicitTransaction Relation

variable {clave : String → String}

/-- What a boundary raises before its error path: one of its own refusals, or SQLite. -/
def FalloDeFrontera (rechazos : List Fallo) (e : Fallo) : Prop := e ∈ rechazos ∨ ∃ e', e = .sqlite e'

/-! Statements -/

section
variable {rechazos : List Fallo} {db : JournalDB} {now : Int}

theorem meets_exigeFilas {rechazo : Fallo} {n : Nat} (known : rechazo ∈ rechazos) :
    Meets (FalloDeFrontera rechazos) (exigeFilas rechazo n) db fun _ db' => n ≠ 0 ∧ db' = db := by
  unfold exigeFilas
  split
  · exact meets_raise (.inl known)
  · rename_i some_rows
    exact meets_pure ⟨some_rows, rfl⟩

theorem meets_updateTransactions {p : Transaction → Bool} {f : Transaction → Transaction}
    {keeps : ∀ t, (f t).transactionId = t.transactionId} :
    Meets (FalloDeFrontera rechazos) (Body.statement (updateTransactions p f keeps)) db fun n db' =>
      n = db.transactions.count p ∧
        db' = { db with transactions := db.transactions.updateWhere p f keeps } :=
  meets_statement (fun _ _ ran => updateTransactions_ok ran) fun e ran => by
    cases ran

theorem meets_updateHandoffs {p : DeploymentHandoff → Bool}
    {f : DeploymentHandoff → DeploymentHandoff} {keeps : ∀ h, (f h).handoffId = h.handoffId} :
    Meets (FalloDeFrontera rechazos) (Body.statement (updateHandoffs p f keeps)) db fun n db' =>
      ∃ tabla : HandoffTable, db' = { db with deploymentHandoffs := tabla } ∧
        n = db.deploymentHandoffs.count p ∧
        ∀ k, tabla.find k = (db.deploymentHandoffs.find k).map fun h => if p h then f h else h := by
  refine meets_statement (fun _ _ ran => updateHandoffs_ok ran) fun e ran => .inr ?_
  simp only [updateHandoffs] at ran
  split at ran
  · split at ran
    · cases ran
    · exact ⟨_, (Except.error.inj ran).symm⟩
  · exact ⟨_, (Except.error.inj ran).symm⟩

theorem meets_insertHandoff {registro : DeploymentHandoff} :
    Meets (FalloDeFrontera rechazos) (Body.statement (insertHandoff registro now)) db fun _ db' =>
      ∃ tabla : HandoffTable, db' = { db with deploymentHandoffs := tabla } := by
  refine meets_statement (fun n db' ran => ?_) fun e ran => .inr ?_
  · obtain ⟨tabla, same, -⟩ := insertHandoff_ok ran
    exact ⟨tabla, same⟩
  · simp only [insertHandoff] at ran
    split at ran
    · split at ran
      · split at ran
        · exact ⟨_, (Except.error.inj ran).symm⟩
        · cases ran
      · exact ⟨_, (Except.error.inj ran).symm⟩
    · exact ⟨_, (Except.error.inj ran).symm⟩

/-! Seals -/

/-- The transactions `ids` are resolved for the artifact, and nothing else changed
    that it sees. -/
structure Sellada (objetivoFisico : String) (ids : List Nat) (db db' : JournalDB) : Prop where
  transacciones : db'.transactions = db.transactions
  entradas : db'.journalEntries = db.journalEntries
  receipts : db'.sweepReceipts = db.sweepReceipts
  resueltas : ∀ id, id ∈ db'.resueltas objetivoFisico ↔ id ∈ db.resueltas objetivoFisico ∨ id ∈ ids

theorem Sellada.candidatas {A : String} {ids : List Nat} {db' : JournalDB}
    (sealed : Sellada (clave A) ids db db') :
    db'.candidatas clave A = (db.candidatas clave A).filter fun id => id ∉ ids := by
  apply List.Pairwise.eq_of_mem_iff (candidatas_ordenadas A db')
    ((candidatas_ordenadas A db).filter _)
  intro id
  have causal : db'.esCausal id = true ↔ db.esCausal id = true := by
    rw [esCausal_iff, esCausal_iff]
    simp only [JournalDB.estado, JournalDB.Barrida, sealed.transacciones, sealed.receipts]
  have names : db'.Nombrada clave A id ↔ db.Nombrada clave A id := by
    simp only [JournalDB.Nombrada, sealed.entradas]
  rw [List.mem_filter, mem_candidatas, mem_candidatas, causal, names, sealed.resueltas]
  simp only [not_or, decide_eq_true_eq, and_assoc]

/-- A pair that was not resolved is inserted. -/
theorem insertResolucion_nueva {id n : Nat} {path : String} {kind : ArtifactResolutionKind}
    {handoffId : Option Nat} {db' : JournalDB} (fresh : id ∉ db.resueltas path)
    (ran : insertResolucion id path kind handoffId now db = .ok (n, db')) :
    ∃ tabla : ResolutionTable, db' = { db with artifactResolutions := tabla } ∧
      tabla.rows = db.artifactResolutions.rows ++
        [⟨db.artifactResolutions.seq + 1, id, path, kind, handoffId, now⟩] := by
  have unique : ((db.artifactResolutions.insertNext
      (fun k => ⟨k, id, path, kind, handoffId, now⟩) fun _ => rfl).rows.map
        fun r => (r.transactionId, r.artifactPath)).Nodup := by
    have rows : (db.artifactResolutions.insertNext
        (fun k => ⟨k, id, path, kind, handoffId, now⟩) fun _ => rfl).rows =
        db.artifactResolutions.rows ++
          [⟨db.artifactResolutions.seq + 1, id, path, kind, handoffId, now⟩] := rfl
    rw [rows, List.map_append, List.nodup_append]
    refine ⟨db.artifactResolutions.uniqueTxArtifact, List.nodup_singleton _, ?_⟩
    intro pair old pair' new same
    obtain ⟨r, member, rfl⟩ := List.mem_map.mp old
    simp only [List.map_cons, List.map_nil, List.mem_singleton] at new
    rw [new, Prod.mk.injEq] at same
    obtain ⟨same_id, same_path⟩ := same
    refine fresh (List.mem_map.mpr ⟨r, List.mem_filter.mpr ⟨member, ?_⟩, same_id⟩)
    exact decide_eq_true same_path
  simp only [insertResolucion] at ran
  split at ran
  · cases ran
  · split at ran
    · cases ran
    · simp only [Except.ok.injEq, Prod.mk.injEq] at ran
      exact ⟨_, ran.2.symm, rfl⟩

theorem meets_registrarResolucion {id : Nat} {path : String} {kind : ArtifactResolutionKind}
    {handoffId : Option Nat} (fresh : id ∉ db.resueltas path) :
    Meets (FalloDeFrontera rechazos) (registrarResolucion path kind handoffId now id) db
      fun _ db' => Sellada path [id] db db' := by
  refine meets_bind (meets_statement (fun n db' ran => insertResolucion_nueva fresh ran)
    fun e ran => .inr ?_) fun n db' inserted => ?_
  · simp only [insertResolucion] at ran
    split at ran
    · exact ⟨_, (Except.error.inj ran).symm⟩
    · split at ran
      · split at ran
        · exact ⟨_, (Except.error.inj ran).symm⟩
        · cases ran
      · cases ran
  · obtain ⟨tabla, rfl, rows⟩ := inserted
    have absent : db.artifactResolutions.rows.find?
        (fun r => r.transactionId = id ∧ r.artifactPath = path) = none := by
      rw [List.find?_eq_none]
      intro r member found
      obtain ⟨same_id, same_path⟩ := of_decide_eq_true found
      exact fresh (List.mem_map.mpr ⟨r, List.mem_filter.mpr ⟨member, decide_eq_true same_path⟩,
        same_id⟩)
    have read : JournalDB.resolucion { db with artifactResolutions := tabla } id path =
        some ⟨db.artifactResolutions.seq + 1, id, path, kind, handoffId, now⟩ := by
      simp only [JournalDB.resolucion, rows, List.find?_append, absent]
      simp
    have sealed : Sellada path [id] db { db with artifactResolutions := tabla } := by
      refine ⟨rfl, rfl, rfl, fun x => ?_⟩
      simp only [JournalDB.resueltas, rows, List.filter_append, List.map_append, List.mem_append]
      simp
    refine meets_bind (meets_query (Q := fun fila db' =>
      fila = some ⟨db.artifactResolutions.seq + 1, id, path, kind, handoffId, now⟩ ∧
        db' = { db with artifactResolutions := tabla }) ⟨read, rfl⟩) ?_
    rintro _ _ ⟨rfl, rfl⟩
    simp only [and_self, if_true]
    exact meets_pure sealed

theorem Sellada.cons {path : String} {id : Nat} {ids : List Nat} {db' db'' : JournalDB}
    (first : Sellada path [id] db db') (rest : Sellada path ids db' db'') :
    Sellada path (id :: ids) db db'' where
  transacciones := rest.transacciones.trans first.transacciones
  entradas := rest.entradas.trans first.entradas
  receipts := rest.receipts.trans first.receipts
  resueltas := by
    intro x
    rw [rest.resueltas, first.resueltas, List.mem_singleton, List.mem_cons, or_assoc]

theorem meets_registrarTodas {path : String} {kind : ArtifactResolutionKind} {handoffId : Option Nat}
    {ids : List Nat} (distinct : ids.Nodup) (fresh : ∀ id ∈ ids, id ∉ db.resueltas path) :
    Meets (FalloDeFrontera rechazos)
      (Body.each ids (registrarResolucion path kind handoffId now)) db
      fun _ db' => Sellada path ids db db' := by
  induction ids generalizing db with
  | nil => exact meets_pure ⟨rfl, rfl, rfl, fun id => by simp⟩
  | cons id ids ih =>
    rw [Body.each_cons]
    obtain ⟨absent, distinct⟩ := List.nodup_cons.mp distinct
    refine meets_bind (meets_registrarResolucion (fresh id (.head _))) fun _ db' first => ?_
    have fresh' : ∀ x ∈ ids, x ∉ db'.resueltas path := by
      intro x member
      rw [first.resueltas, List.mem_singleton]
      rintro (resolved | rfl)
      · exact fresh x (.tail _ member) resolved
      · exact absent member
    exact (ih distinct fresh').mono fun _ db'' rest => first.cons rest

theorem meets_candidatas {A : String} :
    Meets (FalloDeFrontera rechazos) (candidatasOrphanEnConn clave (canonicaYPrefijo clave A).1
      (canonicaYPrefijo clave A).2) db fun ids db' => ids = db.candidatas clave A ∧ db' = db := by
  refine meets_bind (meets_query (Q := fun ids db' =>
    ids = db.coincidencias clave (canonicaYPrefijo clave A).1 (canonicaYPrefijo clave A).2 ∧
      db' = db) ⟨rfl, rfl⟩) ?_
  rintro _ _ ⟨rfl, same⟩
  rw [same]
  refine meets_bind (meets_query (Q := fun ids db' =>
    ids = db.resueltas (canonicaYPrefijo clave A).1 ∧ db' = db) ⟨rfl, rfl⟩) ?_
  rintro _ _ ⟨rfl, same⟩
  rw [same]
  exact meets_pure ⟨rfl, rfl⟩

theorem meets_filtrar {ids : List Nat} :
    Meets (FalloDeFrontera rechazos) (filtrarResolublesHistoricasEnConn ids) db fun ids' db' =>
      (∀ id, id ∈ ids' ↔ id ∈ ids ∧ db.esResolubleHistorica id = true) ∧ db' = db := by
  unfold filtrarResolublesHistoricasEnConn
  split
  · rename_i empty
    refine meets_pure ⟨fun id => ?_, rfl⟩
    have none : id ∉ ids := by
      rw [← mem_conjunto, empty]
      exact List.not_mem_nil
    simp [none]
  · refine meets_query ⟨fun id => ?_, rfl⟩
    rw [List.mem_filter, mem_conjunto]

/-- What a seal leaves is the transaction of the boundary and, when it takes only
    the swept ones, those that are still `PENDING`. -/
def quedaSinSellar (db : JournalDB) (excluir : Nat) (soloHistoricas : Bool) (id : Nat) : Bool :=
  id = excluir ∨ (soloHistoricas = true ∧ db.esResolubleHistorica id = false)

theorem meets_sellar {A : String} {handoffId excluir : Nat} {kind : ArtifactResolutionKind}
    {soloHistoricas : Bool} (idempotent : clave (clave A) = clave A) :
    Meets (FalloDeFrontera rechazos) (sellarEvidenciaDeArtifact clave (canonicaYPrefijo clave A).1
      (canonicaYPrefijo clave A).2 handoffId kind excluir soloHistoricas now) db fun _ db' =>
        db'.candidatas clave A =
          (db.candidatas clave A).filter (quedaSinSellar db excluir soloHistoricas) := by
  refine meets_bind meets_candidatas ?_
  rintro _ _ ⟨rfl, same⟩
  rw [same]
  have seals (ids : List Nat) (chosen : ∀ id, id ∈ ids ↔ id ∈ db.candidatas clave A ∧
      ¬ quedaSinSellar db excluir soloHistoricas id = true) :
      Meets (FalloDeFrontera rechazos) (registrarResolucionesDeArtifactEnConn clave ids
        (canonicaYPrefijo clave A).1 kind (some handoffId) now) db fun _ db' =>
          db'.candidatas clave A =
            (db.candidatas clave A).filter (quedaSinSellar db excluir soloHistoricas) := by
    unfold registrarResolucionesDeArtifactEnConn canonicaYPrefijo
    dsimp only
    rw [idempotent]
    have distinct : (conjunto ids).Nodup :=
      (conjunto_ordenado ids).imp fun lt => Nat.ne_of_lt lt
    refine (meets_registrarTodas distinct fun id member => ?_).mono fun _ db' sealed => ?_
    · rw [mem_conjunto, chosen] at member
      exact (mem_candidatas.mp member.1).2.2
    · rw [sealed.candidatas]
      refine List.filter_congr fun id member => ?_
      rw [Bool.eq_iff_iff, decide_eq_true_eq, mem_conjunto, chosen, not_and_not_right]
      exact ⟨fun kept => kept member, fun kept _ => kept⟩
  cases soloHistoricas with
  | false =>
    refine meets_bind (meets_pure ⟨rfl, rfl⟩ : Meets (FalloDeFrontera rechazos) _ db fun ids db' =>
      ids = (db.candidatas clave A).filter (· ≠ excluir) ∧ db' = db) ?_
    rintro _ _ ⟨rfl, same⟩
    rw [same]
    refine seals _ fun id => ?_
    simp [List.mem_filter, quedaSinSellar]
  | true =>
    refine meets_bind meets_filtrar ?_
    rintro ids _ ⟨chosen, same⟩
    rw [same]
    refine seals ids fun id => ?_
    rw [chosen, List.mem_filter]
    simp [quedaSinSellar, and_assoc]

/-! Boundaries -/

/-- The transaction of the boundary was committed, and only handoffs changed besides. -/
structure Confirma (tx : Nat) (db db' : JournalDB) : Prop where
  salvo : ∀ objetivoFisico, SalvoPropia objetivoFisico (some tx) db db'
  confirmada : db'.estado tx = some .committed

theorem confirma_de_cierre {tx : Nat} {f : Transaction → Transaction}
    {keeps : ∀ t, (f t).transactionId = t.transactionId} (commits : ∀ t, (f t).status = .committed)
    (some_rows : db.transactions.count (esPendiente tx) ≠ 0) (tabla : HandoffTable) :
    Confirma tx db { db with
      transactions := db.transactions.updateWhere (esPendiente tx) f keeps
      deploymentHandoffs := tabla } := by
  have status (id : Nat) : JournalDB.estado { db with
      transactions := db.transactions.updateWhere (esPendiente tx) f keeps
      deploymentHandoffs := tabla } id =
        (db.transactions.find id).map fun t => if esPendiente tx t then (f t).status else t.status :=
    estado_updateWhere
  constructor
  · refine fun _ => ⟨rfl, rfl, fun _ => Iff.rfl, fun id => ?_⟩
    rw [status, JournalDB.estado]
    cases found : db.transactions.find id with
    | none => exact .inl rfl
    | some t =>
      simp only [Option.map_some, Option.some.injEq]
      split
      · rename_i selected
        obtain ⟨same, pending⟩ := of_decide_eq_true selected
        exact .inr ⟨same.symm.trans (Table.key_of_find found), pending, commits t⟩
      · exact .inl rfl
  · have pending : ∃ t ∈ db.transactions.rows, esPendiente tx t = true := by
      by_contra none
      refine some_rows (Table.count_eq_zero.mpr fun t member => ?_)
      exact Bool.eq_false_iff.mpr fun selected => none ⟨t, member, selected⟩
    obtain ⟨t, member, selected⟩ := pending
    have found : db.transactions.find tx = some t :=
      Table.find_eq_some.mpr ⟨member, (of_decide_eq_true selected).1⟩
    rw [status, found, Option.map_some, if_pos selected, commits]

theorem Confirma.candidatas {tx : Nat} {A : String} {db' : JournalDB} (closed : Confirma tx db db') :
    db'.candidatas clave A = (db.candidatas clave A).filter (· ≠ tx) := by
  rcases (closed.salvo (clave A)).candidatas with same | ⟨id, mine, filtered⟩
  · have out : tx ∉ db'.candidatas clave A := by
      rw [mem_candidatas, esCausal_iff, closed.confirmada]
      simp
    rw [same] at out ⊢
    refine (List.filter_eq_self.mpr fun id member => decide_eq_true ?_).symm
    rintro rfl
    exact out member
  · cases mine
    exact filtered

theorem esResolubleHistorica_iff {id : Nat} :
    db.esResolubleHistorica id = true ↔ db.estado id = some .rolledBack ∧ db.Barrida id := by
  simp only [JournalDB.esResolubleHistorica, JournalDB.estado, ← receiptDe_isSome]
  cases db.transactions.find id with
  | none => simp
  | some t => simp

def quedaPendiente (db : JournalDB) (tx id : Nat) : Bool := db.estado id = some .pending ∧ id ≠ tx

/-- After the commit a seal of the swept transactions leaves the `PENDING` ones. -/
theorem Confirma.pendientes {tx : Nat} {A : String} {db' : JournalDB} (closed : Confirma tx db db') :
    ((db.candidatas clave A).filter (· ≠ tx)).filter (quedaSinSellar db' tx true) =
      (db.candidatas clave A).filter (quedaPendiente db tx) := by
  rw [List.filter_filter]
  refine List.filter_congr fun id member => ?_
  rw [Bool.eq_iff_iff]
  simp only [Bool.and_eq_true, decide_eq_true_eq, quedaSinSellar, quedaPendiente, true_and]
  have causal := esCausal_iff.mp (mem_candidatas.mp member).1
  have swept : db'.Barrida id ↔ db.Barrida id := by
    simp only [JournalDB.Barrida, (closed.salvo "").receipts]
  by_cases own : id = tx
  · simp [own]
  · have still : db'.estado id = db.estado id := by
      refine ((closed.salvo "").estados id).resolve_right ?_
      rintro ⟨mine, -⟩
      exact own (Option.some.inj mine).symm
    simp only [own, false_or, ← Bool.not_eq_true, esResolubleHistorica_iff, still, swept, not_false_eq_true,
      and_true, ne_eq]
    rcases causal with pending | ⟨reverted, receipt⟩
    · simp [pending]
    · simp [reverted, receipt]

theorem meets_handoff {tx : Nat} {descripcion : Option String} {registro : DeploymentHandoff}
    {viejo : Option Nat} (idempotent : ∀ r, clave (clave r) = clave r) :
    Meets (FalloDeFrontera (noPendiente tx :: (viejo.map fun v => yaNoActivo v tx).toList))
      (escribirHandoffDeDeployment clave tx descripcion registro viejo now) db fun _ db' =>
        db'.candidatas clave registro.artifactPath =
          (db.candidatas clave registro.artifactPath).filter fun id =>
            viejo = none ∧ quedaPendiente db tx id := by
  refine meets_bind meets_updateTransactions ?_
  rintro n _ ⟨count, same⟩
  refine meets_bind (meets_exigeFilas (.head _)) ?_
  rintro _ _ ⟨some_rows, same'⟩
  rw [same', same]
  have closed := @confirma_de_cierre db tx
    (fun t => { t.committed now with description := descripcion.getD t.description })
    (fun _ => rfl) (fun _ => rfl) (count ▸ some_rows)
  cases viejo with
  | some viejo =>
    refine meets_bind meets_updateHandoffs ?_
    rintro tocadas _ ⟨tabla, rfl, -⟩
    refine meets_bind (meets_exigeFilas (.tail _ (.head _))) ?_
    rintro _ _ ⟨-, same⟩
    rw [same]
    refine meets_bind meets_insertHandoff ?_
    rintro nuevo _ ⟨tabla, rfl⟩
    refine meets_bind meets_updateHandoffs ?_
    rintro _ _ ⟨tabla, rfl, -⟩
    refine meets_bind (meets_sellar (idempotent _)) fun _ db' sealed => meets_pure ?_
    rw [sealed, (closed tabla).candidatas, List.filter_filter]
    refine List.filter_congr fun id _ => ?_
    simp [quedaSinSellar]
  | none =>
    refine meets_bind meets_insertHandoff ?_
    rintro nuevo _ ⟨tabla, rfl⟩
    refine meets_bind (meets_sellar (idempotent _)) fun _ db' sealed => meets_pure ?_
    rw [sealed, (closed tabla).candidatas, (closed tabla).pendientes]
    simp

theorem meets_resume {tx handoffId : Nat} (idempotent : ∀ r, clave (clave r) = clave r) :
    Meets (FalloDeFrontera [noPendiente tx, noEsperaDeployment handoffId tx])
      (escribirResumeCompletado clave tx handoffId now) db fun _ db' =>
        ∀ h, db.deploymentHandoffs.find handoffId = some h →
          db'.candidatas clave h.artifactPath = [] := by
  refine meets_bind meets_updateTransactions ?_
  rintro n _ ⟨count, same⟩
  refine meets_bind (meets_exigeFilas (.head _)) ?_
  rintro _ _ ⟨some_rows, same'⟩
  rw [same', same]
  have closed := @confirma_de_cierre db tx (Transaction.committed now) (fun _ => rfl) (fun _ => rfl)
    (count ▸ some_rows)
  refine meets_bind meets_updateHandoffs ?_
  rintro tocadas _ ⟨tabla, rfl, touched, rows⟩
  refine meets_bind (meets_exigeFilas (.tail _ (.head _))) ?_
  rintro _ _ ⟨some_handoffs, same⟩
  rw [same]
  -- the handoff that was completed is the one whose path is read
  have read : ∃ h h', db.deploymentHandoffs.find handoffId = some h ∧
      tabla.find handoffId = some h' ∧ h'.artifactPath = h.artifactPath := by
    cases found : db.deploymentHandoffs.find handoffId with
    | none =>
      have none_there : db.deploymentHandoffs.count
          (fun h => h.handoffId = handoffId ∧ h.state = .awaitingDeployment) = 0 := by
        rw [Table.count_eq_zero]
        intro h member
        apply decide_eq_false
        rintro ⟨here, -⟩
        exact Table.find_eq_none.mp found h member here
      exact absurd (touched.trans none_there) some_handoffs
    | some h =>
      refine ⟨h, _, rfl, (rows handoffId).trans (by rw [found]; rfl), ?_⟩
      dsimp only
      split <;> rfl
  obtain ⟨h, h', found, found', path⟩ := read
  refine meets_bind (meets_query (Q := fun fila db' => fila = some h' ∧ db' = _) ⟨found', rfl⟩) ?_
  rintro _ _ ⟨rfl, same⟩
  rw [same]
  dsimp only
  refine (meets_sellar (idempotent _)).mono fun _ db' sealed => ?_
  intro k found_k
  rw [found, Option.some.injEq] at found_k
  rw [← found_k, ← path, sealed, (closed tabla).candidatas, List.filter_filter,
    List.filter_eq_nil_iff]
  intro id _
  simp [quedaSinSellar]

end

/-! Operations -/

section
variable {j : Journal} {now : Int} {averia : Averia}

theorem averia_sqlite (rechazos : List Fallo) (averia : Averia) :
    Fault.Within (FalloDeFrontera rechazos) averia.fault := by
  rintro n e fault
  obtain ⟨⟨n, e'⟩, -, same⟩ := Option.map_eq_some_iff.mp fault
  cases same
  exact .inr ⟨e', rfl⟩

theorem escribe_fallo {α β : Type} {revierte : Bool} {body : Sql α}
    {despues : α → Journal → β × Journal} {alFallar : Fallo → Fallo} {rechazos : List Fallo}
    {post : α → JournalDB → Prop} {e : Fallo}
    (met : Meets (FalloDeFrontera rechazos) body j.conn.working post)
    (raised : (j.escribe revierte body averia despues alFallar).1 = .error e) :
    ∃ e₀, FalloDeFrontera rechazos e₀ ∧ e = alFallar e₀ := by
  simp only [Journal.escribe] at raised
  split at raised
  · cases raised
  · rename_i e₀ conn ran
    cases raised
    refine ⟨e₀, ?_, rfl⟩
    simp only [boundary] at ran
    split at ran
    · rename_i failed
      cases ran
      exact met.raises (averia_sqlite rechazos averia) failed
    · rename_i returned
      split at ran
      · rename_i ticked
        cases ran
        exact tick_error (met.returns (averia_sqlite rechazos averia) returned).2 ticked
      · cases ran

/-- What an operation answers `ok` leaves on both copies. -/
theorem escribe_cumple {α β : Type} {revierte : Bool} {body : Sql α}
    {despues : α → Journal → β × Journal} {alFallar : Fallo → Fallo} {rechazos : List Fallo}
    {post : JournalDB → Prop} {b : β} (keeps : ∀ a k, (despues a k).2.conn = k.conn)
    (met : Meets (FalloDeFrontera rechazos) body j.conn.working fun _ db => post db)
    (returned : (j.escribe revierte body averia despues alFallar).1 = .ok b) :
    let c := (j.escribe revierte body averia despues alFallar).2.conn
    c.Clean ∧ post c.working := by
  obtain ⟨a, db, rest, ran, after⟩ := escribe_ok (Prod.ext returned rfl)
  have conn := keeps a (j.con ⟨db, db⟩)
  rw [after] at conn
  dsimp only at conn ⊢
  rw [conn]
  exact ⟨rfl, (met.returns (averia_sqlite rechazos averia) ran).1⟩

end

/-! Later states -/

/-- A receipt is of a transaction that was swept. -/
def Coherente (db : JournalDB) : Prop := ∀ id, db.Barrida id → db.estado id = some .rolledBack

/-- What a database may have become: resolutions stay, and a transaction gets
    neither back to `PENDING` nor a receipt unless it was `PENDING`. -/
structure Sucede (base db : JournalDB) : Prop where
  conserva : Conserva base db
  existe : ∀ id, base.estado id ≠ none → db.estado id ≠ none
  pendiente : ∀ id, base.estado id ≠ none → db.estado id = some .pending →
    base.estado id = some .pending
  barrida : ∀ id, base.estado id ≠ none → db.Barrida id →
    base.Barrida id ∨ base.estado id = some .pending
  coherente : Coherente base → Coherente db

theorem Sucede.refl (db : JournalDB) : Sucede db db :=
  ⟨fun _ member => member, fun _ here => here, fun _ _ here => here, fun _ _ here => .inl here,
    fun here => here⟩

theorem Sucede.trans {a b c : JournalDB} (first : Sucede a b) (second : Sucede b c) : Sucede a c where
  conserva := fun r member => second.conserva r (first.conserva r member)
  existe := fun id here => second.existe id (first.existe id here)
  pendiente := fun id here pending =>
    first.pendiente id here (second.pendiente id (first.existe id here) pending)
  barrida := by
    intro id here swept
    rcases second.barrida id (first.existe id here) swept with swept | pending
    · exact first.barrida id here swept
    · exact .inr (first.pendiente id here pending)
  coherente := fun here => second.coherente (first.coherente here)

section
variable {db db' : JournalDB} {now : Int} {op : Operacion}

theorem barrida_existe (here : Coherente db) {id : Nat} (swept : db.Barrida id) :
    db.estado id ≠ none := by
  rw [here id swept]
  simp

/-- An `UPDATE` that takes transactions out of `PENDING` and reverts none that is not. -/
theorem sucede_update {p : Transaction → Bool} {f : Transaction → Transaction}
    {keeps : ∀ t, (f t).transactionId = t.transactionId}
    (closes : ∀ t, p t = true → (f t).status ≠ .pending)
    (kept : ∀ t, p t = true → t.status = .rolledBack → (f t).status = .rolledBack) :
    Sucede db { db with transactions := db.transactions.updateWhere p f keeps } := by
  have status (id : Nat) := @estado_updateWhere db id p f keeps
  refine ⟨fun _ member => member, fun id here => ?_, fun id here pending => ?_,
    fun id here swept => .inl swept, fun coherent id swept => ?_⟩
  · rw [status]
    simp only [JournalDB.estado, ne_eq, Option.map_eq_none_iff] at here ⊢
    exact here
  · rw [status, Option.map_eq_some_iff] at pending
    obtain ⟨t, found, after⟩ := pending
    split at after
    · rename_i selected
      exact absurd after (closes t selected)
    · rw [JournalDB.estado, found, Option.map_some, after]
  · have before := coherent id swept
    rw [JournalDB.estado, Option.map_eq_some_iff] at before
    obtain ⟨t, found, reverted⟩ := before
    rw [status, found, Option.map_some]
    split
    · rename_i selected
      rw [kept t selected reverted]
    · rw [reverted]

theorem sucede_cambio (quiet : ∀ maxAge, op ≠ .sweepStalePending maxAge)
    (change : Cambio clave now op db db') : Sucede db db' := by
  cases change with
  | @alta description modId begins =>
    have same (id : Nat) (here : db.estado id ≠ none) : JournalDB.estado { db with
        transactions := db.transactions.insertNext
          (fun k => Transaction.mk k modId description .pending now none none) fun _ => rfl } id =
          db.estado id := by
      simp only [JournalDB.estado] at here ⊢
      cases found : db.transactions.find id with
      | none => simp [found] at here
      | some t => rw [AutoTable.find_insertNext_old found]
    refine ⟨fun _ member => member, fun id here => ?_, fun id here pending => ?_,
      fun id here swept => .inl swept, fun coherent id swept => ?_⟩
    · rw [same id here]
      exact here
    · exact (same id here).symm.trans pending
    · rw [same id (barrida_existe coherent swept)]
      exact coherent id swept
  | cierre closes f keeps ends =>
    have closed : op.desenlace ≠ .pending := by
      cases op <;> simp [Operacion.desenlace]
    refine sucede_update (fun t _ => ends t ▸ closed) fun t selected reverted => ?_
    have pending := (of_decide_eq_true selected).2
    rw [reverted] at pending
    cases pending
  | marca marks =>
    exact sucede_update (fun _ _ => by simp [Transaction.revertida]) fun _ _ _ => rfl
  | barrido sweeps | recibo sweeps => exact absurd sweeps (quiet _)
  | entradas | handoffs =>
    exact ⟨fun _ member => member, fun _ here => here, fun _ _ here => here,
      fun _ _ here => .inl here, fun here => here⟩
  | receipts closes tabla same =>
    have swept (id : Nat) : JournalDB.Barrida { db with sweepReceipts := tabla } id ↔ db.Barrida id := by
      simp only [JournalDB.Barrida, same]
    exact ⟨fun _ member => member, fun _ here => here, fun _ _ here => here,
      fun id _ here => .inl ((swept id).mp here), fun coherent id here =>
        coherent id ((swept id).mp here)⟩
  | resolucion names tabla id kind handoffId rows =>
    refine ⟨fun r member => ?_, fun _ here => here, fun _ _ here => here,
      fun _ _ here => .inl here, fun here => here⟩
    change r ∈ tabla.rows
    rw [rows]
    exact List.mem_append_left _ member

theorem sucede_cambios (quiet : ∀ maxAge, op ≠ .sweepStalePending maxAge)
    (changes : Cambios clave now op db db') : Sucede db db' := by
  induction changes with
  | refl => exact .refl db
  | tail _ change ih => exact ih.trans (sucede_cambio quiet change)

/-- A sweep gives its receipts to the transactions that it reverts. -/
theorem sucede_sweep {limite : Int} {s t : JournalDB × Fault Fallo} {n : Nat}
    (ran : escribirSweep limite now s = (.ok n, t)) : Sucede s.1 t.1 := by
  have swept := sweep_barrida ran
  have status := sweep_estado ran
  refine ⟨fun r member => ?_, fun id here => ?_, fun id here pending => ?_, fun id here receipt => ?_,
    fun coherent id receipt => ?_⟩
  · obtain ⟨tabla, db, -⟩ := sweep_ok ran
    rw [db]
    exact member
  · rw [status]
    simpa [JournalDB.estado] using here
  · rw [status, Option.map_eq_some_iff] at pending
    obtain ⟨tx, found, after⟩ := pending
    split at after
    · cases after
    · rw [JournalDB.estado, found, Option.map_some, after]
  · refine ((swept id).mp receipt).imp_right ?_
    rintro ⟨tx, found, stale⟩
    rw [JournalDB.estado, found, Option.map_some, (of_decide_eq_true stale).1]
  · rw [status]
    rcases (swept id).mp receipt with before | ⟨tx, found, stale⟩
    · have reverted := coherent id before
      rw [JournalDB.estado, Option.map_eq_some_iff] at reverted
      obtain ⟨tx, found, reverted⟩ := reverted
      rw [found, Option.map_some, reverted, ite_self]
    · rw [found, Option.map_some, if_pos stale]

theorem sucede_transforma (transformed : Transforma clave now op db db') : Sucede db db' := by
  cases op with
  | sweepStalePending maxAge =>
    obtain ⟨fault, n, rest, ran⟩ := transformed
    exact sucede_sweep ran
  | _ => exact sucede_cambios (fun _ => by simp) transformed

end

theorem reglaSucede (clave : String → String) : Regla clave Sucede fun _ _ => True where
  refl := .refl
  trans := .trans
  barre := fun _ _ => trivial
  transforma := fun _ kept transformed => kept.trans (sucede_transforma transformed)

end OperationJournal
