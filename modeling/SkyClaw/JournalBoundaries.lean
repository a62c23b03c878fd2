import SkyClaw.JournalWriters

set_option linter.all false

/-!
An operation as the SQL it runs: one body in one boundary, unless it returns
before it reaches the database.
-/
namespace OperationJournal
open KeyedRows ImplicitTransaction

section
variable {α β : Type} {j : Journal} {revierte : Bool} {body : Sql α} {averia : Averia}
  {despues : α → Journal → β × Journal} {alFallar : Fallo → Fallo}

theorem escribe_error {e : Fallo}
    (raised : (j.escribe revierte body averia despues alFallar).1 = .error e) :
    ∃ e₀, (boundary (j.lifecycle || revierte) body j.conn averia.fault).1 = .error e₀ ∧
      (j.escribe revierte body averia despues alFallar).2 =
        j.con (boundary (j.lifecycle || revierte) body j.conn averia.fault).2 := by
  simp only [Journal.escribe] at raised ⊢
  split
  · rename_i ran
    simp [ran] at raised
  · rename_i e₀ conn ran
    exact ⟨e₀, by rw [ran], by rw [ran]⟩

theorem escribe_error_durable {e : Fallo}
    (raised : (j.escribe revierte body averia despues alFallar).1 = .error e) :
    (j.escribe revierte body averia despues alFallar).2.conn.durable = j.conn.durable := by
  obtain ⟨e₀, failed, after⟩ := escribe_error raised
  rw [after]
  exact boundary_error_durable failed

theorem escribe_ok {j' : Journal} {b : β}
    (returned : j.escribe revierte body averia despues alFallar = (.ok b, j')) :
    ∃ a db rest, body (j.conn.working, averia.fault) = (.ok a, (db, rest)) ∧
      despues a (j.con ⟨db, db⟩) = (b, j') := by
  simp only [Journal.escribe] at returned
  split at returned
  · rename_i a conn ran
    obtain ⟨rest, body_ran, clean⟩ := boundary_ok (congrArg Prod.fst ran)
    rw [ran] at body_ran clean
    obtain ⟨durable, working⟩ := conn
    simp only [Connection.Clean] at clean
    subst clean
    simp only [Prod.mk.injEq, Except.ok.injEq] at returned
    exact ⟨a, working, rest, body_ran, Prod.ext returned.1 returned.2⟩
  · simp at returned

theorem escribe_committed {b : β}
    (returned : (j.escribe revierte body averia despues alFallar).1 = .ok b) :
    ∃ a, (boundary (j.lifecycle || revierte) body j.conn averia.fault).1 = .ok a := by
  simp only [Journal.escribe] at returned
  split at returned
  · rename_i a conn ran
    exact ⟨a, by rw [ran]⟩
  · simp at returned

/-- The Python code after the commit does not touch the connection. -/
theorem escribe_conn (keeps : ∀ a k, (despues a k).2.conn = k.conn) :
    (j.escribe revierte body averia despues alFallar).2.conn =
      (boundary (j.lifecycle || revierte) body j.conn averia.fault).2 := by
  simp only [Journal.escribe]
  split
  · rename_i a conn ran
    rw [keeps, ran]
    rfl
  · rename_i e conn ran
    rw [ran]
    rfl

theorem escribe_lifecycle (keeps : ∀ a k, (despues a k).2.lifecycle = k.lifecycle) :
    (j.escribe revierte body averia despues alFallar).2.lifecycle = j.lifecycle := by
  simp only [Journal.escribe]
  split
  · rw [keeps]
    rfl
  · rfl

end

@[simp] theorem olvida_conn (j : Journal) (id : Nat) : (j.olvida id).conn = j.conn := by
  unfold Journal.olvida
  split <;> rfl

@[simp] theorem olvida_lifecycle (j : Journal) (id : Nat) :
    (j.olvida id).lifecycle = j.lifecycle := by
  unfold Journal.olvida
  split <;> rfl

/-- The writers whose standalone branch rolls back on error. -/
def Operacion.revierte : Operacion → Bool
  | .beginTransaction .. | .commitTransaction .. | .rollbackTransaction ..
  | .markTransactionRolledBack .. | .beginOperation .. | .completeOperation .. | .markRolledBack ..
    => false
  | _ => true

def cuerpoDeCierre (lifecycle : Bool) (cierra : Transaction → Transaction)
    (keeps : ∀ t, (cierra t).transactionId = t.transactionId) (id : Nat) : Sql Unit :=
  let update : Sql Nat := Body.statement (updateTransactions (esPendiente id) cierra keeps)
  if lifecycle then Body.void do
    let rowcount ← update
    exigeFilas (noPendiente id) rowcount
  else update.void

theorem committed_id (now : Int) : ∀ t, (Transaction.committed now t).transactionId = t.transactionId :=
  fun _ => rfl

theorem revertida_id (now : Int) : ∀ t, (Transaction.revertida now t).transactionId = t.transactionId :=
  fun _ => rfl

def Operacion.cuerpo (clave : String → String) (now : Int) (j : Journal) :
    Operacion → Option (Sql Unit)
  | .beginTransaction description modId =>
    some (Body.statement (insertTransaction modId description now)).void
  | .commitTransaction id =>
    some (cuerpoDeCierre j.lifecycle (Transaction.committed now) (committed_id now) id)
  | .rollbackTransaction id =>
    some (cuerpoDeCierre j.lifecycle (Transaction.revertida now) (revertida_id now) id)
  | .markTransactionRolledBack id =>
    some (Body.statement (updateTransactions (fun t => t.transactionId = id)
      (Transaction.revertida now) (revertida_id now))).void
  | .sweepStalePending maxAge => some (escribirSweep (now - maxAge) now).void
  | .beginOperation op => (transaccionDe op.transactionId j.currentTransaction).map fun tx =>
    (Body.statement (insertEntry (op.fila tx now) (fun _ => rfl) tx)).void
  | .completeOperation entryId => some (Body.statement (updateEntry entryId
      (fun e => { e with status := .completed }) fun _ => rfl)).void
  | .failOperation entryId error metadata =>
    some (escribirFallo entryId (evidenciaDeFallo error metadata)).void
  | .markRolledBack entryId details => some (escribirMarca entryId details).void
  | .crearHandoffDeDeployment id descripcion registro viejo =>
    some (escribirHandoffDeDeployment clave id descripcion registro viejo now).void
  | .completarHandoffDeResume id handoffId =>
    some (escribirResumeCompletado clave id handoffId now).void
  | .transicionarHandoff handoffId desde hacia campos =>
    match campos.findSome? CampoTransicion.nombreAjeno with
    | some _ => none
    | none => some (Body.statement (updateHandoffs
        (fun h => h.handoffId = handoffId ∧ h.state = desde) (transicion hacia campos now)
        (transicion_handoffId hacia campos now))).void
  | .registrarHandoffIndeterminado registro consumir absorber =>
    some (escribirHandoffIndeterminado clave registro (conjunto (absorber.getD consumir)) now).void
  | .resolverEvidenciaComoNoArtifact artifactPath txIds =>
    if txIds = [] then none
    else some (escribirNoArtifact clave (clave artifactPath) (conjunto txIds) now).void
  | .registrarResolucionDeRestauracionDeArtifact id artifactPath =>
    some (registrarResolucionesDeArtifactEnConn clave [id] (clave artifactPath)
      .restoredByteExact none now).void
  | .cerrarReceiptsComoNoArtifact txIds =>
    if txIds = [] then none else some (escribirCierreDeReceipts (conjunto txIds) now).void

/-- The operation answers that it did what it was asked; a handoff that was not
    registered is answered with `None`. -/
def Efectuada (salida : Except Fallo Respuesta × Journal) : Prop :=
  ∃ r, salida.1 = .ok r ∧ r ≠ .talVez none

/-- What an operation leaves: an untouched journal, or its boundary on the
    connection. It returns only after a commit or a rollback. -/
structure Corrida (clave : String → String) (op : Operacion) (now : Int) (averia : Averia)
    (j : Journal) (salida : Except Fallo Respuesta × Journal) : Prop where
  lifecycle : salida.2.lifecycle = j.lifecycle
  conn : salida.2.conn = match op.cuerpo clave now j with
    | none => j.conn
    | some body => (boundary (j.lifecycle || op.revierte) body j.conn averia.fault).2
  clean : (∃ r, salida.1 = .ok r) → j.conn.Clean → salida.2.conn.Clean
  committed : Efectuada salida → ∀ body, op.cuerpo clave now j = some body →
    ∃ u, (boundary (j.lifecycle || op.revierte) body j.conn averia.fault).1 = .ok u

section
variable {α β : Type} {clave : String → String} {now : Int} {averia : Averia} {j : Journal}

/-- An operation that looks at the result of its boundary before it answers. -/
theorem corrida_tras_escribir {op : Operacion} {revierte : Bool} {body : Sql α}
    (despues : α → Journal → β × Journal) (alFallar : Fallo → Fallo)
    {salida : Except Fallo Respuesta × Journal} (ran : op.cuerpo clave now j = some body.void)
    (reverts : (j.lifecycle || revierte) = (j.lifecycle || op.revierte))
    (conn : ∀ a k, (despues a k).2.conn = k.conn)
    (lifecycle : ∀ a k, (despues a k).2.lifecycle = k.lifecycle)
    (same_conn : salida.2.conn = (j.escribe revierte body averia despues alFallar).2.conn)
    (same_lifecycle :
      salida.2.lifecycle = (j.escribe revierte body averia despues alFallar).2.lifecycle)
    (returned : (∃ r, salida.1 = .ok r) →
      (∃ b, (j.escribe revierte body averia despues alFallar).1 = .ok b) ∨ revierte = true)
    (done : Efectuada salida →
      ∃ b, (j.escribe revierte body averia despues alFallar).1 = .ok b) :
    Corrida clave op now averia j salida where
  lifecycle := same_lifecycle.trans (escribe_lifecycle lifecycle)
  conn := by
    rw [ran]
    dsimp only
    rw [boundary_void, same_conn, ← reverts]
    exact escribe_conn conn
  clean := by
    intro answered _
    rw [same_conn, escribe_conn conn]
    cases outcome : (boundary (j.lifecycle || revierte) body j.conn averia.fault).1 with
    | ok a => exact (boundary_ok outcome).choose_spec.2
    | error e =>
      rcases returned answered with ⟨b, written⟩ | reverting
      · rcases whole : boundary (j.lifecycle || revierte) body j.conn averia.fault with ⟨res, c⟩
        rw [whole] at outcome
        simp only at outcome
        subst outcome
        simp [Journal.escribe, whole] at written
      · simp only [reverting, Bool.or_true] at outcome ⊢
        rw [boundary_revert_error outcome]
        rfl
  committed := by
    intro answered body' same
    rw [ran, Option.some.injEq] at same
    subst same
    obtain ⟨b, written⟩ := done answered
    obtain ⟨a, ok⟩ := escribe_committed written
    rw [boundary_void, ← reverts]
    exact ⟨(), by rw [ok]; rfl⟩

theorem responde_ok {r : β → Respuesta} {resultado : Except Fallo β × Journal} {answer : Respuesta}
    (returned : (responde r resultado).1 = .ok answer) : ∃ b, resultado.1 = .ok b := by
  simp only [responde] at returned
  cases result : resultado.1 with
  | ok b => exact ⟨b, rfl⟩
  | error e => simp [result, Except.map] at returned

theorem responde_error {r : β → Respuesta} {resultado : Except Fallo β × Journal} {e : Fallo}
    (raised : (responde r resultado).1 = .error e) : resultado.1 = .error e := by
  simp only [responde] at raised
  cases result : resultado.1 with
  | ok b => simp [result, Except.map] at raised
  | error e' =>
    simp only [result, Except.map, Except.error.injEq] at raised
    rw [raised]

theorem corrida_escribe (op : Operacion) {body : Sql α} {despues : α → Journal → β × Journal}
    {alFallar : Fallo → Fallo} {r : β → Respuesta}
    (ran : op.cuerpo clave now j = some body.void)
    (conn : ∀ a k, (despues a k).2.conn = k.conn)
    (lifecycle : ∀ a k, (despues a k).2.lifecycle = k.lifecycle) :
    Corrida clave op now averia j
      (responde r (j.escribe op.revierte body averia despues alFallar)) := by
  refine corrida_tras_escribir despues alFallar ran rfl conn lifecycle rfl rfl ?_ ?_
  · rintro ⟨answer, returned⟩
    exact .inl (responde_ok returned)
  · rintro ⟨answer, returned, -⟩
    exact responde_ok returned

theorem corrida_sin_sql {op : Operacion} {resultado : Except Fallo Respuesta}
    (nothing : op.cuerpo clave now j = none) : Corrida clave op now averia j (resultado, j) where
  lifecycle := rfl
  conn := by rw [nothing]
  clean := fun _ clean => clean
  committed := by simp [nothing]

theorem cierre_respondido {r : Unit → Respuesta} {id : Nat} {salida : Except Fallo Nat × Journal} :
    (∃ r', (responde r (match salida with
      | (.ok 0, j') => (.error (noPendiente id), j')
      | (.ok _, j') => (.ok (), j'.olvida id)
      | (.error e, j') => (.error e, j'))).1 = .ok r') → ∃ b, salida.1 = .ok b := by
  rintro ⟨r', answered⟩
  split at answered
  · simp [responde, Except.map] at answered
  · rename_i a j' _
    exact ⟨a, rfl⟩
  · simp [responde, Except.map] at answered

theorem corrida_cierre {op : Operacion} {cierra : Transaction → Transaction}
    {keeps : ∀ t, (cierra t).transactionId = t.transactionId} {id : Nat} {mensaje : String}
    {r : Unit → Respuesta} (plain : op.revierte = false)
    (ran : op.cuerpo clave now j = some (cuerpoDeCierre j.lifecycle cierra keeps id)) :
    Corrida clave op now averia j (responde r (cierraTransaccion cierra keeps mensaje id averia j)) := by
  simp only [cuerpoDeCierre] at ran
  simp only [cierraTransaccion]
  split at ran
  · rename_i owned
    simp only [owned, if_true]
    refine corrida_tras_escribir (fun _ j => ((), j.olvida id)) (envuelve mensaje (some id)) ran
      (by simp [owned]) (fun _ _ => olvida_conn _ _) (fun _ _ => olvida_lifecycle _ _) rfl rfl
      (fun _ => .inr rfl) ?_
    rintro ⟨answer, returned, -⟩
    exact responde_ok returned
  · rename_i standalone
    rw [if_neg standalone]
    have answered_ok := @cierre_respondido r id (j.escribe false
      (Body.statement (updateTransactions (esPendiente id) cierra keeps)) averia devuelve
      (envuelve mensaje (some id)))
    refine corrida_tras_escribir devuelve (envuelve mensaje (some id)) ran (by rw [plain])
      (fun _ _ => rfl) (fun _ _ => rfl) ?_ ?_ (fun answered => .inl (answered_ok answered)) ?_
    · split <;> rename_i result <;> simp [responde, result]
    · split <;> rename_i result <;> simp [responde, result]
    · rintro ⟨r', answered, -⟩
      exact answered_ok ⟨r', answered⟩

theorem corre_corrida (op : Operacion) (now : Int) (averia : Averia) (j : Journal) :
    Corrida clave op now averia j (op.corre clave now averia j) := by
  cases op with
  | commitTransaction | rollbackTransaction => exact corrida_cierre rfl rfl
  | beginOperation op =>
    simp only [Operacion.corre, beginOperation]
    split
    · rename_i absent
      exact corrida_sin_sql (by simp [Operacion.cuerpo, absent])
    · rename_i tx active
      exact corrida_escribe (.beginOperation op) (by simp [Operacion.cuerpo, active])
        (fun _ _ => rfl) fun _ _ => rfl
  | transicionarHandoff handoffId desde hacia campos =>
    simp only [Operacion.corre, transicionarHandoff]
    split
    · rename_i nombre ajena
      exact corrida_sin_sql (by simp [Operacion.cuerpo, ajena])
    · rename_i known
      exact corrida_escribe (.transicionarHandoff handoffId desde hacia campos)
        (by simp [Operacion.cuerpo, known]) (fun _ _ => rfl) fun _ _ => rfl
  | registrarHandoffIndeterminado registro consumir absorber =>
    simp only [Operacion.corre, registrarHandoffIndeterminado]
    refine corrida_tras_escribir devuelve id rfl rfl (fun _ _ => rfl) (fun _ _ => rfl) ?_ ?_
      (fun _ => .inr rfl) ?_
    · split <;> rename_i result <;> exact congrArg (·.2.conn) result.symm
    · split <;> rename_i result <;> exact congrArg (·.2.lifecycle) result.symm
    · rintro ⟨r, answered, given⟩
      split at answered
      · rename_i nuevo j' result
        exact ⟨nuevo, congrArg Prod.fst result⟩
      · cases answered
        exact absurd rfl given
      · cases answered
  | resolverEvidenciaComoNoArtifact artifactPath txIds =>
    simp only [Operacion.corre, resolverEvidenciaComoNoArtifact]
    split
    · rename_i empty
      exact corrida_sin_sql (by simp [Operacion.cuerpo, empty])
    · rename_i given
      exact corrida_escribe (.resolverEvidenciaComoNoArtifact artifactPath txIds)
        (by simp [Operacion.cuerpo, given]) (fun _ _ => rfl) fun _ _ => rfl
  | cerrarReceiptsComoNoArtifact txIds =>
    simp only [Operacion.corre, cerrarReceiptsComoNoArtifact]
    split
    · rename_i empty
      exact corrida_sin_sql (by simp [Operacion.cuerpo, empty])
    · rename_i given
      exact corrida_escribe (.cerrarReceiptsComoNoArtifact txIds)
        (by simp [Operacion.cuerpo, given]) (fun _ _ => rfl) fun _ _ => rfl
  | crearHandoffDeDeployment | completarHandoffDeResume =>
    exact corrida_escribe _ rfl (fun _ _ => olvida_conn _ _) fun _ _ => olvida_lifecycle _ _
  | beginTransaction | markTransactionRolledBack | sweepStalePending | completeOperation
  | failOperation | markRolledBack | registrarResolucionDeRestauracionDeArtifact =>
    exact corrida_escribe _ rfl (fun _ _ => rfl) fun _ _ => rfl

end

end OperationJournal
