import SkyClaw.TransactionOutcomes

set_option linter.all false

/-!
The transactions that are evidence of an interrupted run on an artifact. They
are a join of four tables, and each artifact has its own.
-/
namespace OperationJournal
open KeyedRows ImplicitTransaction Relation

/-! Sets of ids -/

section
variable {ids : List Nat} {x : Nat}

theorem mem_conjunto : x ∈ conjunto ids ↔ x ∈ ids := by
  simp [conjunto, List.mem_insertionSort]

theorem conjunto_ordenado (ids : List Nat) : (conjunto ids).Pairwise (· < ·) := by
  have ordered := List.pairwise_insertionSort (· ≤ ·) ids.dedup
  have distinct : (conjunto ids).Nodup :=
    (List.perm_insertionSort (· ≤ ·) ids.dedup).nodup_iff.mpr (List.nodup_dedup ids)
  refine (ordered.and distinct).imp ?_
  rintro a b ⟨le, ne⟩
  omega

end

/-! Candidates -/

/-- `transacciones_que_nombran`, without its boundary. -/
def JournalDB.candidatas (clave : String → String) (objetivo : String) (db : JournalDB) : List Nat :=
  let (objetivoFisico, pref) := canonicaYPrefijo clave objetivo
  conjunto ((db.coincidencias clave objetivoFisico pref).filter fun id =>
    id ∉ db.resueltas objetivoFisico)

def transaccionesQueNombran (clave : String → String) (objetivo : String) (averia : Averia)
    (j : Journal) : Except Fallo (List Nat) :=
  let (objetivoFisico, pref) := canonicaYPrefijo clave objetivo
  (candidatasOrphanEnConn clave objetivoFisico pref (j.conn.working, averia.fault)).1

def Journal.candidatas (clave : String → String) (objetivo : String) (j : Journal) : List Nat :=
  j.conn.working.candidatas clave objetivo

variable {clave : String → String}

theorem candidatasEnConn_ok {objetivo : String} {s t : JournalDB × Fault Fallo} {ids : List Nat}
    (ran : candidatasOrphanEnConn clave (canonicaYPrefijo clave objetivo).1
      (canonicaYPrefijo clave objetivo).2 s = (.ok ids, t)) :
    ids = s.1.candidatas clave objetivo ∧ t.1 = s.1 := by
  obtain ⟨coincidencias, u, read, ran⟩ := bind_ok ran
  obtain ⟨resueltas, v, read', ran⟩ := bind_ok ran
  obtain ⟨rfl, same⟩ := query_ok read
  obtain ⟨rfl, same'⟩ := query_ok read'
  simp only [pure, Body.ret, Prod.mk.injEq, Except.ok.injEq] at ran
  obtain ⟨rfl, rfl⟩ := ran
  rw [same', same]
  exact ⟨rfl, rfl⟩

/-- The read answers the candidates of what the connection sees, unless it raises. -/
theorem transaccionesQueNombran_ok {objetivo : String} {averia : Averia} {j : Journal}
    {ids : List Nat} (answered : transaccionesQueNombran clave objetivo averia j = .ok ids) :
    ids = j.candidatas clave objetivo := by
  have ran : candidatasOrphanEnConn clave (canonicaYPrefijo clave objetivo).1
      (canonicaYPrefijo clave objetivo).2 (j.conn.working, averia.fault) = (.ok ids, _) :=
    Prod.ext answered rfl
  exact (candidatasEnConn_ok ran).1

/-- Some entry of the transaction names the artifact or a path below it. -/
def JournalDB.Nombrada (clave : String → String) (objetivo : String) (db : JournalDB) (id : Nat) :
    Prop :=
  ∃ e ∈ db.journalEntries.rows, e.transactionId = id ∧ ∃ ruta ∈ rutasDeMetadata e.metadata,
    nombraObjetivo clave ruta (canonicaYPrefijo clave objetivo).1
      (canonicaYPrefijo clave objetivo).2 = true

theorem mem_candidatas {objetivo : String} {db : JournalDB} {id : Nat} :
    id ∈ db.candidatas clave objetivo ↔
      db.esCausal id = true ∧ db.Nombrada clave objetivo id ∧ id ∉ db.resueltas (clave objetivo) := by
  simp only [JournalDB.candidatas, mem_conjunto, List.mem_filter, JournalDB.coincidencias,
    List.mem_map, decide_eq_true_eq, JournalDB.Nombrada, List.any_eq_true]
  constructor
  · rintro ⟨⟨e, ⟨member, causal, ruta, read, names⟩, rfl⟩, unresolved⟩
    exact ⟨causal, ⟨e, member, rfl, ruta, read, names⟩, unresolved⟩
  · rintro ⟨causal, ⟨e, member, rfl, ruta, read, names⟩, unresolved⟩
    exact ⟨⟨e, ⟨member, causal, ruta, read, names⟩, rfl⟩, unresolved⟩

theorem candidatas_ordenadas (objetivo : String) (db : JournalDB) :
    (db.candidatas clave objetivo).Pairwise (· < ·) := conjunto_ordenado _

/-- Two databases in which the same transactions are candidates. -/
theorem candidatas_congr {objetivo : String} {db db' : JournalDB}
    (same : ∀ id, id ∈ db.candidatas clave objetivo ↔ id ∈ db'.candidatas clave objetivo) :
    db.candidatas clave objetivo = db'.candidatas clave objetivo :=
  List.Pairwise.eq_of_mem_iff (candidatas_ordenadas _ _) (candidatas_ordenadas _ _) same

/-! What another artifact sees of an operation -/

section
variable {db db' : JournalDB} {id : Nat}

def JournalDB.Barrida (db : JournalDB) (id : Nat) : Prop :=
  id ∈ db.sweepReceipts.rows.map (·.transactionId)

theorem receiptDe_isSome : (db.receiptDe id).isSome = true ↔ db.Barrida id := by
  simp [JournalDB.receiptDe, JournalDB.Barrida, List.find?_isSome]

theorem esCausal_iff : db.esCausal id = true ↔
    db.estado id = some .pending ∨ (db.estado id = some .rolledBack ∧ db.Barrida id) := by
  simp only [JournalDB.esCausal, JournalDB.estado, ← receiptDe_isSome]
  cases db.transactions.find id with
  | none => simp
  | some t => simp

/-- The statuses after an `UPDATE` of transactions. -/
theorem estado_updateWhere {p : Transaction → Bool} {f : Transaction → Transaction}
    {keeps : ∀ t, (f t).transactionId = t.transactionId} :
    JournalDB.estado { db with transactions := db.transactions.updateWhere p f keeps } id =
      (db.transactions.find id).map fun t => if p t then (f t).status else t.status := by
  have found := AutoTable.find_updateWhere db.transactions p f keeps id
  simp only [JournalDB.estado]
  rw [found, Option.map_map]
  congr 1
  funext t
  simp only [Function.comp]
  split <;> rfl

/-- For the artifact `objetivoFisico` nothing changed but that `propia` was committed. -/
structure SalvoPropia (objetivoFisico : String) (propia : Option Nat) (db db' : JournalDB) : Prop where
  entradas : db'.journalEntries = db.journalEntries
  receipts : db'.sweepReceipts = db.sweepReceipts
  resueltas : ∀ id, id ∈ db'.resueltas objetivoFisico ↔ id ∈ db.resueltas objetivoFisico
  estados : ∀ id, db'.estado id = db.estado id ∨
    (propia = some id ∧ db.estado id = some .pending ∧ db'.estado id = some .committed)

theorem SalvoPropia.refl {f : String} {tx : Option Nat} (db : JournalDB) : SalvoPropia f tx db db :=
  ⟨rfl, rfl, fun _ => Iff.rfl, fun _ => .inl rfl⟩

theorem SalvoPropia.trans {f : String} {tx : Option Nat} {a b c : JournalDB}
    (first : SalvoPropia f tx a b) (second : SalvoPropia f tx b c) : SalvoPropia f tx a c := by
  refine ⟨second.entradas.trans first.entradas, second.receipts.trans first.receipts,
    fun id => (second.resueltas id).trans (first.resueltas id), fun id => ?_⟩
  rcases first.estados id with same | ⟨own, pending, committed⟩
  · rcases second.estados id with same' | ⟨own, pending, committed⟩
    · exact .inl (same'.trans same)
    · exact .inr ⟨own, same ▸ pending, committed⟩
  · rcases second.estados id with same' | ⟨_, pending', _⟩
    · exact .inr ⟨own, pending, same'.trans committed⟩
    · rw [committed] at pending'
      cases pending'

/-- What an operation that commits `propia` may do to the candidates of an artifact. -/
def SoloQuita (propia : Option Nat) (antes despues : List Nat) : Prop :=
  despues = antes ∨ ∃ id, propia = some id ∧ despues = antes.filter (· ≠ id)

theorem SalvoPropia.candidatas {objetivo : String} {tx : Option Nat}
    (kept : SalvoPropia (clave objetivo) tx db db') :
    SoloQuita tx (db.candidatas clave objetivo) (db'.candidatas clave objetivo) := by
  have names (id : Nat) : db'.Nombrada clave objetivo id ↔ db.Nombrada clave objetivo id := by
    simp only [JournalDB.Nombrada, kept.entradas]
  have swept (id : Nat) : db'.Barrida id ↔ db.Barrida id := by
    simp only [JournalDB.Barrida, kept.receipts]
  by_cases changed : ∃ id, tx = some id ∧ db.estado id = some .pending ∧
      db'.estado id = some .committed
  · obtain ⟨own, mine, -, committed⟩ := changed
    right
    refine ⟨own, mine, ?_⟩
    apply List.Pairwise.eq_of_mem_iff (candidatas_ordenadas objetivo db')
      ((candidatas_ordenadas objetivo db).filter _)
    intro id
    rw [List.mem_filter]
    simp only [decide_eq_true_eq]
    rw [mem_candidatas, mem_candidatas, esCausal_iff, esCausal_iff, names, swept, kept.resueltas]
    by_cases same : id = own
    · subst same
      simp [committed]
    · have still : db'.estado id = db.estado id := by
        refine (kept.estados id).resolve_right ?_
        rintro ⟨mine', -⟩
        exact same (Option.some.inj (mine'.symm.trans mine))
      simp [still, same]
  · left
    refine candidatas_congr fun id => ?_
    have still : db'.estado id = db.estado id :=
      (kept.estados id).resolve_right fun own => changed ⟨id, own⟩
    rw [mem_candidatas, mem_candidatas, esCausal_iff, esCausal_iff, names, swept, kept.resueltas,
      still]

end

section
variable {now : Int} {op : Operacion} {db db' : JournalDB} {A : String}

theorem nombra_unico {A' : String} (names : op.Nombra db A) (names' : op.Nombra db A') : A' = A := by
  cases op with
  | completarHandoffDeResume id handoffId =>
    obtain ⟨h, found, path⟩ := names
    obtain ⟨h', found', path'⟩ := names'
    rw [found, Option.some.injEq] at found'
    subst found'
    exact path'.symm.trans path
  | crearHandoffDeDeployment | registrarHandoffIndeterminado | resolverEvidenciaComoNoArtifact
  | registrarResolucionDeRestauracionDeArtifact => exact names'.trans names.symm
  | _ => cases names

theorem nombra_cambio (names : op.Nombra db A) (change : Cambio clave now op db db') :
    op.Nombra db' A := by
  cases change with
  | handoffs writes tabla kept =>
    cases op with
    | completarHandoffDeResume id handoffId =>
      obtain ⟨h, found, path⟩ := names
      obtain ⟨h', found', same⟩ := kept handoffId h found
      exact ⟨h', found', same.trans path⟩
    | _ => exact names
  | _ => exact nombra_congr rfl names

theorem desenlace_de_artifact (names : op.Nombra db A) : op.desenlace = .committed := by
  cases op with
  | rollbackTransaction => cases names
  | _ => rfl

/-- A change of an operation on `A` is nothing to an artifact with another key. -/
theorem cambio_ajeno {f : String} (idempotent : ∀ r, clave (clave r) = clave r)
    (names : op.Nombra db A) (other : clave A ≠ f) (change : Cambio clave now op db db') :
    SalvoPropia f op.cierra db db' := by
  cases change with
  | alta begins | marca begins | barrido begins | recibo begins | receipts begins =>
    subst begins
    cases names
  | entradas writes tabla =>
    cases op with
    | beginOperation | completeOperation | failOperation | markRolledBack => cases names
    | _ => cases writes
  | handoffs writes tabla kept => exact ⟨rfl, rfl, fun _ => Iff.rfl, fun _ => .inl rfl⟩
  | cierre closes g keeps ends =>
    refine ⟨rfl, rfl, fun _ => Iff.rfl, fun id => ?_⟩
    rw [estado_updateWhere, JournalDB.estado]
    cases found : db.transactions.find id with
    | none => exact .inl rfl
    | some t =>
      simp only [Option.map_some, Option.some.injEq]
      split
      · rename_i selected
        obtain ⟨same, pending⟩ := of_decide_eq_true selected
        have here := (Table.key_of_find found).symm.trans same
        refine .inr ⟨here ▸ closes, pending, ?_⟩
        rw [ends, desenlace_de_artifact names]
      · exact .inl rfl
  | resolucion names' tabla id kind handoffId rows =>
    refine ⟨rfl, rfl, fun id' => ?_, fun _ => .inl rfl⟩
    have same := nombra_unico names names'
    subst same
    simp only [JournalDB.resueltas, rows, List.filter_append, List.map_append, List.mem_append]
    simp [idempotent, other]

end

/-! The sweep -/

theorem inserta_receipts {ids : List Nat} {now : Int} {s t : JournalDB × Fault Fallo} {u : Unit}
    (ran : Body.each ids (fun id => do
      let _ ← Body.statement (insertReceipt id now)
      pure ()) s = (.ok u, t)) :
    ∃ tabla : ReceiptTable, t.1 = { s.1 with sweepReceipts := tabla } ∧
      tabla.rows.map (·.transactionId) = s.1.sweepReceipts.rows.map (·.transactionId) ++ ids := by
  induction ids generalizing s with
  | nil =>
    simp only [Body.each, Body.ret, Prod.mk.injEq, true_and] at ran
    subst ran
    exact ⟨s.1.sweepReceipts, rfl, by simp⟩
  | cons id ids ih =>
    rw [Body.each_cons] at ran
    obtain ⟨_, s', first, rest⟩ := bind_ok ran
    obtain ⟨n, s'', inserted, done⟩ := bind_ok first
    simp only [pure, Body.ret, Prod.mk.injEq, true_and] at done
    subst done
    obtain ⟨tabla, db, rows⟩ := insertReceipt_ok (statement_ok inserted)
    obtain ⟨tabla', db', rows'⟩ := ih rest
    refine ⟨tabla', by rw [db', db], ?_⟩
    rw [rows', db, rows]
    simp

/-- A sweep that returned took its transactions out of `PENDING` with a receipt each. -/
theorem sweep_ok {limite now : Int} {s t : JournalDB × Fault Fallo} {n : Nat}
    (ran : escribirSweep limite now s = (.ok n, t)) :
    ∃ tabla : ReceiptTable, t.1 = { s.1 with
        transactions := s.1.transactions.updateWhere (esStale limite) (Transaction.revertida now)
          fun _ => rfl
        sweepReceipts := tabla } ∧
      tabla.rows.map (·.transactionId) = s.1.sweepReceipts.rows.map (·.transactionId) ++
        (s.1.transactions.rows.filter (esStale limite)).map (·.transactionId) := by
  obtain ⟨ids, s', updated, ran⟩ := bind_ok ran
  obtain ⟨_, s'', inserted, done⟩ := bind_ok ran
  simp only [pure, Body.ret, Prod.mk.injEq] at done
  obtain ⟨-, rfl⟩ := done
  have swept := statement_ok updated
  simp only [bind, Except.bind, updateTransactions, pure, Except.pure, Except.ok.injEq,
    Prod.mk.injEq] at swept
  obtain ⟨rfl, db⟩ := swept
  obtain ⟨tabla, db', rows⟩ := inserta_receipts inserted
  exact ⟨tabla, by rw [db', ← db], by rw [rows, ← db]⟩

section
variable {limite now : Int} {s t : JournalDB × Fault Fallo} {n : Nat}

theorem sweep_barrida (ran : escribirSweep limite now s = (.ok n, t)) (id : Nat) :
    t.1.Barrida id ↔ s.1.Barrida id ∨
      ∃ tx, s.1.transactions.find id = some tx ∧ esStale limite tx = true := by
  obtain ⟨tabla, db, rows⟩ := sweep_ok ran
  simp only [JournalDB.Barrida, db, rows, List.mem_append, List.mem_map, List.mem_filter]
  refine or_congr_right ⟨?_, ?_⟩
  · rintro ⟨tx, ⟨member, stale⟩, here⟩
    exact ⟨tx, Table.find_eq_some.mpr ⟨member, here⟩, stale⟩
  · rintro ⟨tx, found, stale⟩
    exact ⟨tx, ⟨Table.mem_of_find found, stale⟩, Table.key_of_find found⟩

theorem sweep_estado (ran : escribirSweep limite now s = (.ok n, t)) (id : Nat) :
    t.1.estado id = (s.1.transactions.find id).map fun tx =>
      if esStale limite tx then .rolledBack else tx.status := by
  obtain ⟨tabla, db, -⟩ := sweep_ok ran
  rw [db]
  exact estado_updateWhere

theorem sweep_candidatas (ran : escribirSweep limite now s = (.ok n, t)) (objetivo : String) :
    t.1.candidatas clave objetivo = s.1.candidatas clave objetivo := by
  refine candidatas_congr fun id => ?_
  have causal : t.1.esCausal id = true ↔ s.1.esCausal id = true := by
    rw [esCausal_iff, esCausal_iff, sweep_barrida ran, sweep_estado ran, JournalDB.estado]
    cases found : s.1.transactions.find id with
    | none => simp
    | some tx =>
      cases stale : esStale limite tx with
      | true =>
        have pending : tx.status = .pending := (of_decide_eq_true stale).1
        simp [stale, pending]
      | false => simp [stale]
  obtain ⟨tabla, db, -⟩ := sweep_ok ran
  have same_entries : t.1.journalEntries = s.1.journalEntries := by rw [db]
  have same_resolutions : t.1.artifactResolutions = s.1.artifactResolutions := by rw [db]
  rw [mem_candidatas, mem_candidatas, causal]
  simp only [JournalDB.Nombrada, same_entries, JournalDB.resueltas, same_resolutions]

end

/-! Resolutions are never touched again -/

def Conserva (db db' : JournalDB) : Prop :=
  ∀ r ∈ db.artifactResolutions.rows, r ∈ db'.artifactResolutions.rows

theorem conserva_cambios {now : Int} {op : Operacion} {db db' : JournalDB}
    (changes : Cambios clave now op db db') : Conserva db db' := by
  induction changes with
  | refl => exact fun _ member => member
  | tail _ change ih =>
    intro r member
    cases change with
    | resolucion names tabla id kind handoffId rows =>
      change r ∈ tabla.rows
      rw [rows]
      exact List.mem_append_left _ (ih r member)
    | _ => exact ih r member

theorem reglaConserva (clave : String → String) : Regla clave Conserva fun _ _ => True where
  refl := fun _ _ member => member
  trans := fun first second r member => second r (first r member)
  barre := fun _ _ => trivial
  transforma := fun _ kept transformed r member =>
    conserva_cambios transformed.cambios r (kept r member)

/-! Locality -/

theorem ajeno_cambios {now : Int} {op : Operacion} {db db' : JournalDB} {A f : String}
    (idempotent : ∀ r, clave (clave r) = clave r) (names : op.Nombra db A) (other : clave A ≠ f)
    (changes : Cambios clave now op db db') :
    op.Nombra db' A ∧ SalvoPropia f op.cierra db db' := by
  induction changes with
  | refl => exact ⟨names, .refl _⟩
  | tail _ change ih =>
    obtain ⟨names, kept⟩ := ih
    exact ⟨nombra_cambio names change, kept.trans (cambio_ajeno idempotent names other change)⟩

/-- An operation on an artifact leaves the evidence of the others, and a sweep
    leaves everybody's. -/
structure Localidad (clave : String → String) (j : Journal) : Prop where
  barrido : ∀ maxAge now averia X,
    ((Operacion.sweepStalePending maxAge).corre clave now averia j).2.candidatas clave X =
      j.candidatas clave X
  ajena : ∀ (op : Operacion) now averia A B, op.Nombra j.conn.working A → clave A ≠ clave B →
    SoloQuita op.cierra (j.candidatas clave B)
      ((op.corre clave now averia j).2.candidatas clave B)

/-- What a failed operation left on the connection is no evidence and hides none. -/
def SinRestos (clave : String → String) (j : Journal) : Prop :=
  ∀ X, j.conn.durable.candidatas clave X = j.candidatas clave X

/-- A sweep that fails at its first statement rolls back what the connection held. -/
theorem barrido_fallido (maxAge now : Int) (e : SqliteError) (j : Journal) :
    ((Operacion.sweepStalePending maxAge).corre clave now (some (0, e)) j).2.conn =
      j.conn.rollback := by
  simp only [Operacion.corre, responde, sweepStalePending]
  rw [escribe_conn fun _ _ => rfl, Bool.or_true]
  rfl

theorem localidad_iff (idempotent : ∀ r, clave (clave r) = clave r) (j : Journal) :
    Localidad clave j ↔ SinRestos clave j := by
  constructor
  · intro here X
    have swept := here.barrido 0 0 (some (0, .operational "disk I/O error")) X
    rw [Journal.candidatas, barrido_fallido] at swept
    exact swept
  · intro clean
    constructor
    · intro maxAge now averia X
      have after := @corre_transforma clave (.sweepStalePending maxAge) now averia j
      dsimp only at after
      have sweeps {w : JournalDB} (transformed : Transforma clave now (.sweepStalePending maxAge)
          j.conn.working w) : w.candidatas clave X = j.candidatas clave X := by
        obtain ⟨fault, n, rest, ran⟩ := transformed
        exact sweep_candidatas ran X
      rcases after with ⟨-, reverted | transformed⟩ | ⟨-, transformed⟩
      · rw [Journal.candidatas, reverted]
        exact clean X
      · exact sweeps transformed
      · exact sweeps transformed
    · intro op now averia A B names other
      have after := @corre_transforma clave op now averia j
      dsimp only at after
      have changes {w : JournalDB} (transformed : Transforma clave now op j.conn.working w) :
          SoloQuita op.cierra (j.candidatas clave B) (w.candidatas clave B) :=
        (ajeno_cambios idempotent names other transformed.cambios).2.candidatas
      rcases after with ⟨-, reverted | transformed⟩ | ⟨-, transformed⟩
      · left
        rw [Journal.candidatas, reverted]
        exact clean B
      · exact changes transformed
      · exact changes transformed

/-- Runs of any operations. -/
abbrev Cualquiera : Sistema → Evento → Prop := Permite fun _ _ => True

theorem cualquiera (s : Sistema) (e : Evento) : Cualquiera s e := by
  cases e with
  | avanza k now averia =>
    simp only [Permite]
    split <;> trivial
  | llama | reabre => trivial

theorem evidencia_local {clave : String → String} {s : Sistema}
    (idempotent : ∀ r, clave (clave r) = clave r)
    (reached : TransitionRuns.Reaches (paso clave) Inicial Cualquiera s) :
    (Localidad clave s.journal ↔ SinRestos clave s.journal) ∧
      ∀ t, TransitionRuns.Reaches (paso clave) (· = s) Cualquiera t →
        Conserva s.journal.conn.durable t.journal.conn.durable := by
  have rule := reglaConserva clave
  refine ⟨localidad_iff idempotent s.journal, fun t later => ?_⟩
  exact (rule.alcanza (rule.coherente reached) later).1

def copia : Operation :=
  ⟨"patcher", .fileCreate, "Data", some 1, none, none,
    some [("files_touched", .arr [.str "mods/patch.esp"])]⟩

/-- A transaction whose entry names a file, with `averia` in the entry. -/
def nombraArchivo (averia : Averia) : List Evento :=
  [.llama (.operacion (.beginTransaction "patch" none)), .avanza 0 0 none,
    .llama (.operacion (.beginOperation copia)), .avanza 1 1 averia]

def sistemaSuelto : Sistema := ⟨⟨false, ⟨.empty, .empty⟩, none⟩, ⟨none, false⟩, []⟩

/-- A sweep that fails drops an entry that was left on the connection, and with
    it the evidence. -/
theorem evidencia_perdida :
    ∃ s, TransitionRuns.run (paso id) sistemaSuelto
        (nombraArchivo (some (1, .operational "database is locked"))) = some s ∧
      s.journal.candidatas id "mods/patch.esp" = [1] ∧ ¬ Localidad id s.journal := by
  refine ⟨_, rfl, by decide, fun here => ?_⟩
  have swept := here.barrido 0 0 (some (0, .operational "disk I/O error")) "mods/patch.esp"
  revert swept
  decide

theorem evidencia_conservada :
    ∃ s, TransitionRuns.run (paso id) sistemaSuelto (nombraArchivo none) = some s ∧
      s.journal.candidatas id "mods/patch.esp" = [1] ∧ Localidad id s.journal := by
  refine ⟨_, rfl, by decide, ?_⟩
  have opened : Inicial sistemaSuelto := ⟨rfl, rfl, rfl⟩
  have named : TransitionRuns.run (paso id) sistemaSuelto (nombraArchivo none) = some _ := rfl
  exact (evidencia_local (fun _ => rfl) (.of_run (.start opened) cualquiera named)).1.mpr
    fun _ => rfl

end OperationJournal
