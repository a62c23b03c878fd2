import Mathlib.Data.List.Induction
import SkyClaw.JournalChanges

set_option linter.all false

/-!
`undo_last_operation`, in `rollback_manager.py`. The last operation is a row
with the greatest `timestamp`, in seconds; of several such rows SQLite takes
any, which is the choice of the model.
-/
namespace OperationJournal
open KeyedRows ImplicitTransaction

/-! The query -/

def JournalDB.operacionesDe (db : JournalDB) (agentId : String) (statuses : List OperationStatus) :
    List JournalEntry :=
  db.journalEntries.rows.filter fun e => decide (e.agentId = agentId ∧ e.status ∈ statuses)

/-- The rows that `ORDER BY timestamp DESC` may put first. -/
def primeras (filas : List JournalEntry) : List JournalEntry :=
  filas.filter fun e => filas.all fun f => decide (f.timestamp ≤ e.timestamp)

/-- `fila` is the choice of SQLite. -/
def getLastOperation (agentId : String) (statuses : List OperationStatus) (fila : Nat) (j : Journal) :
    Option JournalEntry :=
  let ultimas := primeras (j.conn.working.operacionesDe agentId statuses)
  ultimas[fila % ultimas.length]?

/-! Undo -/

/-- `restore_snapshot` returns, raises an `OSError` or a `JournalSnapshotError`, or something else. -/
inductive Restauracion where
  | hecha
  | error (texto : String)
  | otra

structure RollbackResult where
  success : Bool
  transactionId : Option Nat
  entriesRestored : Nat
  filesDeleted : Nat
  errors : List String

/-- `str(exc)`. -/
def Fallo.texto : Fallo → String
  | .sqlite e => e.text
  | .journalTransaction message _ => message

def Restauracion.escapa : Restauracion → Bool
  | .otra => true
  | _ => false

def JournalEntry.conSnapshot (entry : JournalEntry) : Bool := entry.snapshotPath.any (· ≠ "")

def restored (entry : JournalEntry) (restore : Restauracion) : Nat :=
  match restore with
  | .hecha => if entry.conSnapshot then 1 else 0
  | _ => 0

def partialErrors (entry : JournalEntry) (restore : Restauracion) : List String :=
  match restore with
  | .error texto => if entry.conSnapshot then ["snapshot_restore: " ++ texto] else []
  | _ => []

/-- What one undo does: the entry it takes, whether it marks it, and its result unless it raises. -/
structure Deshecho where
  procesada : Option Nat
  marcada : Bool
  resultado : Option RollbackResult

def restoreEntry (entry : JournalEntry) (restore : Restauracion) (averia : Averia) (j : Journal) :
    Deshecho × Journal :=
  if entry.conSnapshot && restore.escapa then (⟨some entry.id, false, none⟩, j)
  else
    let marked := markRolledBack entry.id "" averia j
    let errors := partialErrors entry restore ++ match marked.1 with
      | .ok _ => []
      | .error e => ["mark_rolled_back: " ++ e.texto]
    (⟨some entry.id, marked.1.isOk, some {
        success := errors.isEmpty
        transactionId := some entry.id
        entriesRestored := restored entry restore
        filesDeleted := if entry.operationType ∈ [.fileCreate, .modInstall] then 1 else 0
        errors := errors }⟩, marked.2)

structure Undo where
  fila : Nat
  restore : Restauracion
  averia : Averia

def undoLastOperation (agentId : String) (u : Undo) (j : Journal) : Deshecho × Journal :=
  match getLastOperation agentId [.completed, .failed] u.fila j with
  | none => (⟨none, false, some {
      success := false
      transactionId := none
      entriesRestored := 0
      filesDeleted := 0
      errors := ["No completed or failed operation found for agent"] }⟩, j)
  | some entry => restoreEntry entry u.restore u.averia j

def deshace (agentId : String) : List Undo → Journal → List Deshecho
  | [], _ => []
  | u :: us, j => (undoLastOperation agentId u j).1 :: deshace agentId us (undoLastOperation agentId u j).2

/-! Calls of the journal -/

structure Llamado where
  op : Operacion
  now : Int
  averia : Averia

/-- The journal after the calls, whatever they answer. -/
def corren (clave : String → String) : List Llamado → Journal → Journal
  | [], j => j
  | c :: cs, j => corren clave cs (c.op.corre clave c.now c.averia j).2

/-- No entries, and nothing pending on the connection. -/
def SinEntradas (j : Journal) : Prop := j.conn.Clean ∧ j.conn.durable.journalEntries.rows = []

def revertibles (agentId : String) (j : Journal) : List JournalEntry :=
  j.conn.working.operacionesDe agentId [.completed, .failed]

/-- The entries that may be undone, the last one first. -/
def pila (agentId : String) (j : Journal) : List Nat := ((revertibles agentId j).map JournalEntry.id).reverse

def EnOrden (hechos : List Deshecho) : Prop :=
  hechos.Pairwise fun a b => ∀ i, a.procesada = some i → ∀ k, b.procesada = some k →
    k ≤ i ∧ (a.marcada = true → k < i)

/-- The entries go in decreasing order of their ids, each once if it is marked; and while they are
marked, none is passed over. -/
structure Lifo (pila : List Nat) (hechos : List Deshecho) : Prop where
  orden : EnOrden hechos
  completas : (∀ d ∈ hechos, d.procesada.isSome = true → d.marcada = true) →
    hechos.filterMap Deshecho.procesada = pila.take hechos.length

/-- The entries of the agent that may be undone have different timestamps. -/
def Distintas (agentId : String) (j : Journal) : Prop :=
  (revertibles agentId j).Pairwise fun e f => e.timestamp ≠ f.timestamp

/-! Chronological entries -/

structure Cronologica (now : Int) (db : JournalDB) : Prop where
  orden : db.journalEntries.rows.Pairwise fun e f => e.id < f.id ∧ e.timestamp ≤ f.timestamp
  hasta : ∀ e ∈ db.journalEntries.rows, e.timestamp ≤ now

theorem Cronologica.mono {now later : Int} {db : JournalDB} (chrono : Cronologica now db) (le : now ≤ later) :
    Cronologica later db where
  orden := chrono.orden
  hasta e mem := Int.le_trans (chrono.hasta e mem) le

theorem Cronologica.congr {now : Int} {db db' : JournalDB} (chrono : Cronologica now db)
    (same : db'.journalEntries = db.journalEntries) : Cronologica now db' where
  orden := same ▸ chrono.orden
  hasta := same ▸ chrono.hasta

def Cronica (now : Int) (db db' : JournalDB) : Prop := Cronologica now db → Cronologica now db'

theorem cronica_refl (now : Int) (db : JournalDB) : Cronica now db db := id

theorem cronica_trans (now : Int) (a b c : JournalDB) (first : Cronica now a b) (second : Cronica now b c) :
    Cronica now a c := fun chrono => second (first chrono)

section
variable {now : Int} {clave : String → String}

theorem cronica_updateEntry {id n : Nat} {f : JournalEntry → JournalEntry} {keeps : ∀ e, (f e).id = e.id}
    {db db' : JournalDB} (ran : updateEntry id f keeps db = .ok (n, db'))
    (times : ∀ e, (f e).timestamp = e.timestamp) : Cronica now db db' := by
  intro chrono
  simp only [updateEntry, Except.ok.injEq, Prod.mk.injEq] at ran
  obtain ⟨-, rfl⟩ := ran
  have id_kept : ∀ e : JournalEntry, (if decide (e.id = id) = true then f e else e).id = e.id := by
    intro e
    split
    · exact keeps e
    · rfl
  have time_kept : ∀ e : JournalEntry,
      (if decide (e.id = id) = true then f e else e).timestamp = e.timestamp := by
    intro e
    split
    · exact times e
    · rfl
  constructor
  · refine List.pairwise_map.mpr (chrono.orden.imp fun {e g} ordered => ?_)
    simp only [id_kept, time_kept]
    exact ordered
  · intro e mem
    obtain ⟨g, older, rfl⟩ := AutoTable.mem_updateWhere.mp mem
    rw [time_kept]
    exact chrono.hasta g older

theorem cronica_insertEntry {fila : Nat → JournalEntry} {keyed : ∀ k, (fila k).id = k} {tx n : Nat}
    {db db' : JournalDB} (ran : insertEntry fila keyed tx db = .ok (n, db'))
    (times : ∀ k, (fila k).timestamp = now) : Cronica now db db' := by
  intro chrono
  simp only [insertEntry] at ran
  split at ran
  · cases ran
  · simp only [Except.ok.injEq, Prod.mk.injEq] at ran
    obtain ⟨-, rfl⟩ := ran
    constructor
    · refine List.pairwise_append.mpr ⟨chrono.orden, List.pairwise_singleton _ _, ?_⟩
      intro e older f newest
      obtain rfl := List.mem_singleton.mp newest
      have bounded := db.journalEntries.bounded e older
      constructor
      · change e.id < (fila (db.journalEntries.seq + 1)).id
        rw [keyed]
        omega
      · change e.timestamp ≤ (fila (db.journalEntries.seq + 1)).timestamp
        rw [times]
        exact chrono.hasta e older
    · intro e mem
      rcases AutoTable.mem_insertNext.mp mem with older | rfl
      · exact chrono.hasta e older
      · exact Int.le_of_eq (times _)

theorem cronica_escribirFallo (entryId : Nat) (evidencia : JsonObject) :
    Preserves (Cronica now) (escribirFallo entryId evidencia) := by
  refine preserves_bind (cronica_trans now) (preserves_statement (cronica_refl now) fun _ _ _ ran =>
    cronica_updateEntry ran fun _ => rfl) fun _ => ?_
  split
  · exact preserves_pure (cronica_refl now) ()
  · refine preserves_bind (cronica_trans now) (preserves_query (cronica_refl now) _) fun fila => ?_
    cases fila with
    | none => exact preserves_pure (cronica_refl now) ()
    | some row =>
      refine preserves_bind (cronica_trans now) (preserves_statement (cronica_refl now) fun _ _ _ ran =>
        cronica_updateEntry ran fun _ => rfl) fun _ => ?_
      exact preserves_pure (cronica_refl now) ()

theorem cronica_rollbackDetails (entryId : Nat) (details : String) {n : Nat} {db db' : JournalDB}
    (ran : updateRollbackDetails entryId details db = .ok (n, db')) : Cronica now db db' := by
  simp only [updateRollbackDetails] at ran
  split at ran
  · cases ran
    exact cronica_refl now _
  · simp only [bind, Except.bind] at ran
    split at ran
    · cases ran
    · exact cronica_updateEntry ran fun _ => rfl

theorem cronica_escribirMarca (entryId : Nat) (details : String) :
    Preserves (Cronica now) (escribirMarca entryId details) := by
  refine preserves_bind (cronica_trans now) (preserves_statement (cronica_refl now) fun _ _ _ ran =>
    cronica_updateEntry ran fun _ => rfl) fun _ => ?_
  split
  · exact preserves_pure (cronica_refl now) ()
  · refine preserves_bind (cronica_trans now) (preserves_statement (cronica_refl now) fun _ _ _ ran =>
      cronica_rollbackDetails entryId details ran) fun _ => ?_
    exact preserves_pure (cronica_refl now) ()

theorem preserves_void {R : JournalDB → JournalDB → Prop} {α : Type} {body : Sql α}
    (refl : ∀ db, R db db) (trans : ∀ a b c, R a b → R b c → R a c) (kept : Preserves R body) :
    Preserves R body.void :=
  preserves_bind trans kept fun _ => preserves_pure refl ()

theorem Cambio.entradas_igual {op : Operacion} {db db' : JournalDB} (change : Cambio clave now op db db')
    (other : op.escribeEntradas = false) : db'.journalEntries = db.journalEntries := by
  cases change with
  | entradas writes tabla =>
    rw [other] at writes
    cases writes
  | _ => rfl

theorem Cambios.entradas_igual {op : Operacion} {db db' : JournalDB} (change : Cambios clave now op db db')
    (other : op.escribeEntradas = false) : db'.journalEntries = db.journalEntries := by
  induction change with
  | refl => rfl
  | tail before last ih => exact (last.entradas_igual other).trans ih

theorem cronica_cuerpo {op : Operacion} {j : Journal} {body : Sql Unit}
    (ran : op.cuerpo clave now j = some body) : Preserves (Cronica now) body := by
  have ajeno (other : op.escribeEntradas = false) : Preserves (Cronica now) body := by
    intro s chrono
    exact chrono.congr ((cuerpo_cambia ran s).entradas_igual other)
  cases op with
  | beginOperation op =>
    obtain ⟨tx, -, rfl⟩ := Option.map_eq_some_iff.mp ran
    exact preserves_void (cronica_refl now) (cronica_trans now) (preserves_statement (cronica_refl now)
      fun _ _ _ inserted => cronica_insertEntry inserted fun _ => rfl)
  | completeOperation entryId =>
    cases ran
    exact preserves_void (cronica_refl now) (cronica_trans now) (preserves_statement (cronica_refl now)
      fun _ _ _ updated => cronica_updateEntry updated fun _ => rfl)
  | failOperation entryId error metadata =>
    cases ran
    exact preserves_void (cronica_refl now) (cronica_trans now) (cronica_escribirFallo entryId _)
  | markRolledBack entryId details =>
    cases ran
    exact preserves_void (cronica_refl now) (cronica_trans now) (cronica_escribirMarca entryId details)
  | _ => exact ajeno rfl

end

/-- The clock has not passed any entry, durable or not; a lifecycle leaves nothing pending. -/
structure EnHora (now : Int) (j : Journal) : Prop where
  durable : Cronologica now j.conn.durable
  working : Cronologica now j.conn.working
  clean : j.lifecycle = true → j.conn.Clean

theorem boundary_true_clean {α : Type} {body : Sql α} (c : Connection JournalDB) (fault : Fault Fallo) :
    (boundary true body c fault).2.Clean := by
  cases outcome : (boundary true body c fault).1 with
  | ok a => exact (boundary_ok outcome).choose_spec.2
  | error e =>
    rw [boundary_revert_error outcome]
    rfl

theorem EnHora.corre {clave : String → String} {before now : Int} {j : Journal} (enHora : EnHora before j)
    (le : before ≤ now) (op : Operacion) (averia : Averia) :
    EnHora now (op.corre clave now averia j).2 := by
  have whole := @corre_corrida clave op now averia j
  have durable := enHora.durable.mono le
  have working := enHora.working.mono le
  cases ran : op.cuerpo clave now j with
  | none =>
    have same := whole.conn
    rw [ran] at same
    constructor
    · rw [same]
      exact durable
    · rw [same]
      exact working
    · rw [whole.lifecycle, same]
      exact enHora.clean
  | some body =>
    have same := whole.conn
    rw [ran] at same
    dsimp only at same
    have left := preserves_boundary (cronica_cuerpo ran) (j.lifecycle || op.revierte) j.conn averia.fault
    dsimp only at left
    rw [← same] at left
    constructor
    · rcases left with ⟨kept, -⟩ | ⟨made, from_⟩
      · rw [kept]
        exact durable
      · rw [made]
        exact from_ working
    · rcases left with ⟨-, back | from_⟩ | ⟨-, from_⟩
      · rw [back]
        exact durable
      · exact from_ working
      · exact from_ working
    · intro lifecycle
      rw [whole.lifecycle] at lifecycle
      rw [same, lifecycle]
      exact boundary_true_clean j.conn averia.fault

theorem EnHora.corren {clave : String → String} {calls : List Llamado} {before : Int} {j : Journal}
    (enHora : EnHora before j) (first : ∀ c ∈ calls, before ≤ c.now)
    (clock : calls.Pairwise fun a b => a.now ≤ b.now) :
    ∃ now, EnHora now (corren clave calls j) := by
  induction calls generalizing before j with
  | nil => exact ⟨before, enHora⟩
  | cons c cs ih =>
    obtain ⟨later, clock⟩ := List.pairwise_cons.mp clock
    exact ih (enHora.corre (first c List.mem_cons_self) c.op c.averia) later clock

theorem SinEntradas.enHora {j : Journal} (empty : SinEntradas j) (now : Int) : EnHora now j := by
  have durable : Cronologica now j.conn.durable := by
    constructor
    · rw [empty.2]
      exact List.Pairwise.nil
    · rw [empty.2]
      simp
  exact ⟨durable, empty.1 ▸ durable, fun _ => empty.1⟩

/-! What one undo leaves -/

theorem marcada_sinMover (e : JournalEntry) :
    ({ e with status := .rolledBack, rolledBack := true } : JournalEntry).id = e.id := rfl

def JournalDB.marcada (db : JournalDB) (entryId : Nat) : JournalDB :=
  { db with
    journalEntries := db.journalEntries.updateWhere (fun e => e.id = entryId)
      (fun e => { e with status := .rolledBack, rolledBack := true }) (marcada_sinMover) }

theorem markRolledBack_cases (entryId : Nat) (averia : Averia) {j : Journal}
    (clean : j.lifecycle = true → j.conn.Clean) :
    let out := markRolledBack entryId "" averia j
    (out.2.lifecycle = true → out.2.conn.Clean) ∧
      (out.2.conn.working = j.conn.working.marcada entryId ∨
        out.2.conn.working = j.conn.working ∧ out.1.isOk = false) := by
  obtain ⟨lifecycle, ⟨durable, working⟩, current⟩ := j
  have same : lifecycle = true → durable = working := fun l => (clean l).symm
  simp only [markRolledBack, Journal.escribe, escribirMarca, boundary, bind, Body.andThen, Body.statement,
    updateEntry, pure, Body.ret, if_true, Bool.or_false]
  obtain _ | ⟨_ | _ | n, e⟩ := averia
  · exact ⟨fun _ => rfl, .inl rfl⟩
  · cases lifecycle with
    | true => exact ⟨fun _ => rfl, .inr ⟨same rfl, rfl⟩⟩
    | false => exact ⟨fun on => (Bool.false_ne_true on).elim, .inr ⟨rfl, rfl⟩⟩
  · cases lifecycle with
    | true => exact ⟨fun _ => rfl, .inr ⟨same rfl, rfl⟩⟩
    | false => exact ⟨fun on => (Bool.false_ne_true on).elim, .inl rfl⟩
  · exact ⟨fun _ => rfl, .inl rfl⟩

theorem operacionesDe_marcada (db : JournalDB) (agentId : String) (entryId : Nat) :
    (db.marcada entryId).operacionesDe agentId [.completed, .failed] =
      (db.operacionesDe agentId [.completed, .failed]).filter fun e => decide (e.id ≠ entryId) := by
  simp only [JournalDB.marcada, JournalDB.operacionesDe, AutoTable.updateWhere, Table.updateWhere, List.filter_filter]
  induction db.journalEntries.rows with
  | nil => rfl
  | cons e rows ih =>
    rw [List.map_cons, List.filter_cons, List.filter_cons, ih]
    by_cases same : e.id = entryId
    · simp [same]
    · simp [same]

theorem exists_primera {filas : List JournalEntry} (some_ : filas ≠ []) :
    ∃ e ∈ filas, ∀ f ∈ filas, f.timestamp ≤ e.timestamp := by
  induction filas with
  | nil => exact absurd rfl some_
  | cons e filas ih =>
    by_cases rest : filas = []
    · exact ⟨e, List.mem_cons_self, by simp [rest]⟩
    · obtain ⟨g, mem, greatest⟩ := ih rest
      by_cases later : g.timestamp ≤ e.timestamp
      · refine ⟨e, List.mem_cons_self, ?_⟩
        intro f inside
        rcases List.mem_cons.mp inside with rfl | inside
        · exact Int.le_refl _
        · exact Int.le_trans (greatest f inside) later
      · refine ⟨g, List.mem_cons_of_mem _ mem, ?_⟩
        intro f inside
        rcases List.mem_cons.mp inside with rfl | inside
        · omega
        · exact greatest f inside

theorem mem_primeras {filas : List JournalEntry} {e : JournalEntry} :
    e ∈ primeras filas ↔ e ∈ filas ∧ ∀ f ∈ filas, f.timestamp ≤ e.timestamp := by
  simp [primeras]

/-- The state of an undo: what may be undone, and whether a rollback would keep it. -/
structure Quedan (agentId : String) (j : Journal) (filas : List JournalEntry) : Prop where
  clean : j.lifecycle = true → j.conn.Clean
  revertibles : revertibles agentId j = filas

theorem undo_vacio {agentId : String} {j : Journal} (u : Undo) (left : Quedan agentId j []) :
    (undoLastOperation agentId u j).1.procesada = none ∧ Quedan agentId (undoLastOperation agentId u j).2 [] := by
  have nothing : getLastOperation agentId [.completed, .failed] u.fila j = none := by
    have none_left : j.conn.working.operacionesDe agentId [.completed, .failed] = [] := left.revertibles
    rw [getLastOperation, none_left]
    rfl
  rw [undoLastOperation, nothing]
  exact ⟨rfl, left⟩

theorem restoreEntry_cases {agentId : String} {j : Journal} {filas : List JournalEntry}
    (left : Quedan agentId j filas) (entry : JournalEntry) (restore : Restauracion) (averia : Averia) :
    let out := restoreEntry entry restore averia j
    out.1.procesada = some entry.id ∧
      (Quedan agentId out.2 (filas.filter fun e => decide (e.id ≠ entry.id)) ∨
        Quedan agentId out.2 filas ∧ out.1.marcada = false) := by
  dsimp only
  by_cases escapes : (entry.conSnapshot && restore.escapa) = true
  · rw [restoreEntry, if_pos escapes]
    exact ⟨rfl, .inr ⟨left, rfl⟩⟩
  · rw [restoreEntry, if_neg escapes]
    refine ⟨rfl, ?_⟩
    obtain ⟨clean, marked | ⟨kept, failed⟩⟩ := markRolledBack_cases entry.id averia left.clean
    · refine .inl ⟨clean, ?_⟩
      rw [revertibles, marked, operacionesDe_marcada]
      exact congrArg _ left.revertibles
    · refine .inr ⟨⟨clean, ?_⟩, failed⟩
      rw [revertibles, kept]
      exact left.revertibles

theorem undo_cases {agentId : String} {j : Journal} {filas : List JournalEntry} (u : Undo)
    (left : Quedan agentId j filas) (some_ : filas ≠ []) :
    ∃ e ∈ primeras filas, (undoLastOperation agentId u j).1.procesada = some e.id ∧
      (Quedan agentId (undoLastOperation agentId u j).2 (filas.filter fun f => decide (f.id ≠ e.id)) ∨
        Quedan agentId (undoLastOperation agentId u j).2 filas ∧
          (undoLastOperation agentId u j).1.marcada = false) := by
  have given : j.conn.working.operacionesDe agentId [.completed, .failed] = filas := left.revertibles
  obtain ⟨e, mem, greatest⟩ := exists_primera some_
  have positive : 0 < (primeras filas).length := List.length_pos_of_mem (mem_primeras.mpr ⟨mem, greatest⟩)
  have bound := Nat.mod_lt u.fila positive
  have taken : getLastOperation agentId [.completed, .failed] u.fila j =
      some ((primeras filas).get ⟨u.fila % (primeras filas).length, bound⟩) := by
    rw [getLastOperation, given]
    exact List.getElem?_eq_getElem bound
  rw [undoLastOperation, taken]
  exact ⟨_, List.get_mem _ _, restoreEntry_cases left _ u.restore u.averia⟩

/-- SQLite may take any of the rows that tie, and nothing else needs to fail. -/
theorem exists_undo {agentId : String} {j : Journal} {filas : List JournalEntry} {e : JournalEntry}
    (left : Quedan agentId j filas) (first : e ∈ primeras filas) :
    ∃ u, (undoLastOperation agentId u j).1.procesada = some e.id ∧
      (undoLastOperation agentId u j).1.marcada = true ∧
      Quedan agentId (undoLastOperation agentId u j).2 (filas.filter fun f => decide (f.id ≠ e.id)) := by
  have given : j.conn.working.operacionesDe agentId [.completed, .failed] = filas := left.revertibles
  obtain ⟨n, bound, at_n⟩ := List.getElem_of_mem first
  have taken : getLastOperation agentId [.completed, .failed] n j = some e := by
    rw [getLastOperation, given, Nat.mod_eq_of_lt bound, List.getElem?_eq_getElem bound, at_n]
  refine ⟨⟨n, .hecha, none⟩, ?_⟩
  obtain ⟨which, moved⟩ := restoreEntry_cases left e .hecha none
  have marked : (restoreEntry e .hecha none j).1.marcada = true := by
    rw [restoreEntry, if_neg (by simp [Restauracion.escapa])]
    rfl
  simp only [undoLastOperation, taken]
  refine ⟨which, marked, ?_⟩
  rcases moved with gone | ⟨-, unmarked⟩
  · exact gone
  · rw [marked] at unmarked
    cases unmarked

/-! Last in, first out -/

theorem filter_ultima {init : List JournalEntry} {e : JournalEntry} (older : ∀ f ∈ init, f.id < e.id) :
    ((init ++ [e]).filter fun f => decide (f.id ≠ e.id)) = init := by
  rw [List.filter_append, List.filter_eq_self.mpr]
  · simp
  · intro f mem
    have less := older f mem
    exact decide_eq_true (by omega)

/-- With different timestamps the query takes the last row. -/
theorem primera_ultima {init : List JournalEntry} {last e : JournalEntry}
    (earlier : ∀ f ∈ init, f.timestamp < last.timestamp) (first : e ∈ primeras (init ++ [last])) : e = last := by
  obtain ⟨mem, greatest⟩ := mem_primeras.mp first
  rcases List.mem_append.mp mem with before | is
  · have less := earlier e before
    have le := greatest last (List.mem_append_right _ List.mem_cons_self)
    omega
  · exact List.mem_singleton.mp is

def Dentro (filas : List JournalEntry) (hechos : List Deshecho) : Prop :=
  ∀ d ∈ hechos, ∀ i, d.procesada = some i → i ∈ filas.map JournalEntry.id

section
variable {d : Deshecho} {hechos : List Deshecho} {i : Nat} {ids : List Nat}

theorem Lifo.cons_nada (nothing : d.procesada = none) (lifo : Lifo [] hechos) : Lifo [] (d :: hechos) where
  orden := by
    refine List.pairwise_cons.mpr ⟨fun e _ i took => ?_, lifo.orden⟩
    rw [nothing] at took
    cases took
  completas marked := by
    have rest := lifo.completas fun e mem => marked e (List.mem_cons_of_mem _ mem)
    rw [List.filterMap_cons_none nothing, rest]
    simp

theorem Lifo.cons_marcada (took : d.procesada = some i)
    (below : ∀ e ∈ hechos, ∀ k, e.procesada = some k → k < i) (lifo : Lifo ids hechos) :
    Lifo (i :: ids) (d :: hechos) where
  orden := by
    refine List.pairwise_cons.mpr ⟨fun e mem i' took' k took_k => ?_, lifo.orden⟩
    rw [took, Option.some.injEq] at took'
    have less := below e mem k took_k
    omega
  completas marked := by
    have rest := lifo.completas fun e mem => marked e (List.mem_cons_of_mem _ mem)
    rw [List.filterMap_cons_some took, rest]
    rfl

theorem Lifo.cons_sin_marca (took : d.procesada = some i) (unmarked : d.marcada = false)
    (upTo : ∀ e ∈ hechos, ∀ k, e.procesada = some k → k ≤ i) (lifo : Lifo ids hechos) :
    Lifo ids (d :: hechos) where
  orden := by
    refine List.pairwise_cons.mpr ⟨fun e mem i' took' k took_k => ?_, lifo.orden⟩
    rw [took, Option.some.injEq] at took'
    have le := upTo e mem k took_k
    refine ⟨by omega, fun marked => ?_⟩
    rw [unmarked] at marked
    cases marked
  completas marked := by
    have yes := marked d List.mem_cons_self (by rw [took]; rfl)
    rw [unmarked] at yes
    cases yes

theorem Dentro.cons {filas : List JournalEntry} (inside : Dentro filas hechos)
    (first : ∀ i, d.procesada = some i → i ∈ filas.map JournalEntry.id) : Dentro filas (d :: hechos) := by
  intro e mem i took
  rcases List.mem_cons.mp mem with rfl | later
  · exact first i took
  · exact inside e later i took

end

theorem deshace_lifo {agentId : String} (us : List Undo) {j : Journal} {filas : List JournalEntry}
    (left : Quedan agentId j filas)
    (strict : filas.Pairwise fun e f => e.id < f.id ∧ e.timestamp < f.timestamp) :
    Dentro filas (deshace agentId us j) ∧
      Lifo (filas.map JournalEntry.id).reverse (deshace agentId us j) := by
  induction us generalizing j filas with
  | nil => exact ⟨nofun, List.Pairwise.nil, fun _ => by simp [deshace]⟩
  | cons u us ih =>
    rcases List.eq_nil_or_concat' filas with rfl | ⟨init, last, rfl⟩
    · obtain ⟨nothing, after⟩ := undo_vacio u left
      obtain ⟨inside, lifo⟩ := ih after List.Pairwise.nil
      refine ⟨inside.cons fun i took => ?_, lifo.cons_nada nothing⟩
      rw [nothing] at took
      cases took
    · obtain ⟨ordered, -, across⟩ := List.pairwise_append.mp strict
      have older : ∀ f ∈ init, f.id < last.id ∧ f.timestamp < last.timestamp :=
        fun f mem => across f mem last List.mem_cons_self
      obtain ⟨e, first, took, moved⟩ := undo_cases u left (by simp)
      obtain rfl := primera_ultima (fun f mem => (older f mem).2) first
      rw [filter_ultima fun f mem => (older f mem).1] at moved
      have head : ∀ i, (undoLastOperation agentId u j).1.procesada = some i →
          i ∈ (init ++ [e]).map JournalEntry.id := by
        intro i is
        rw [took, Option.some.injEq] at is
        simp [← is]
      rcases moved with gone | ⟨kept, unmarked⟩
      · obtain ⟨inside, lifo⟩ := ih gone ordered
        have wider : Dentro (init ++ [e]) (deshace agentId us (undoLastOperation agentId u j).2) := by
          intro d mem k took_k
          rw [List.map_append]
          exact List.mem_append_left _ (inside d mem k took_k)
        refine ⟨wider.cons head, ?_⟩
        rw [List.map_append, List.reverse_append]
        refine lifo.cons_marcada took fun d mem k took_k => ?_
        obtain ⟨f, before, rfl⟩ := List.mem_map.mp (inside d mem k took_k)
        exact (older f before).1
      · obtain ⟨inside, lifo⟩ := ih kept strict
        refine ⟨inside.cons head, lifo.cons_sin_marca took unmarked fun d mem k took_k => ?_⟩
        obtain ⟨f, within, rfl⟩ := List.mem_map.mp (inside d mem k took_k)
        rcases List.mem_append.mp within with before | is
        · exact Nat.le_of_lt (older f before).1
        · exact Nat.le_of_eq (congrArg JournalEntry.id (List.mem_singleton.mp is))

/-- Of two rows that tie, the older one may go first. -/
theorem empate_desordena {agentId : String} {filas : List JournalEntry} {j : Journal} (left : Quedan agentId j filas)
    (ordered : filas.Pairwise fun e f => e.id < f.id ∧ e.timestamp ≤ f.timestamp)
    (tie : ¬ filas.Pairwise fun e f => e.timestamp ≠ f.timestamp) :
    ∃ us, ¬ EnOrden (deshace agentId us j) := by
  induction filas using List.reverseRecOn generalizing j with
  | nil => exact absurd List.Pairwise.nil tie
  | append_singleton init last ih =>
    obtain ⟨before, -, across⟩ := List.pairwise_append.mp ordered
    have older : ∀ f ∈ init, f.id < last.id ∧ f.timestamp ≤ last.timestamp :=
      fun f mem => across f mem last List.mem_cons_self
    have top : ∀ f ∈ init ++ [last], f.timestamp ≤ last.timestamp := by
      intro f mem
      rcases List.mem_append.mp mem with inside | is
      · exact (older f inside).2
      · exact Int.le_of_eq (congrArg JournalEntry.timestamp (List.mem_singleton.mp is))
    have last_in : last ∈ init ++ [last] := List.mem_append_right _ List.mem_cons_self
    by_cases ties : ∃ f ∈ init, f.timestamp = last.timestamp
    · obtain ⟨f, inside, same⟩ := ties
      have less := (older f inside).1
      obtain ⟨u, took, _, after⟩ := exists_undo left
        (mem_primeras.mpr ⟨List.mem_append_left _ inside, fun g mem => same ▸ top g mem⟩)
      have still : last ∈ primeras ((init ++ [last]).filter fun g => decide (g.id ≠ f.id)) := by
        refine mem_primeras.mpr ⟨List.mem_filter.mpr ⟨last_in, decide_eq_true (by omega)⟩, ?_⟩
        intro g mem
        exact top g (List.mem_filter.mp mem).1
      obtain ⟨v, took_last, _, _⟩ := exists_undo after still
      refine ⟨[u, v], fun inOrder => ?_⟩
      have pair := (List.pairwise_cons.mp inOrder).1 _ List.mem_cons_self f.id took last.id took_last
      omega
    · have untied : ¬ init.Pairwise fun e f => e.timestamp ≠ f.timestamp := by
        intro apart
        refine tie (List.pairwise_append.mpr ⟨apart, List.pairwise_singleton _ _, ?_⟩)
        intro f inside g is same
        obtain rfl := List.mem_singleton.mp is
        exact ties ⟨f, inside, same⟩
      obtain ⟨u, took, _, after⟩ := exists_undo left (mem_primeras.mpr ⟨last_in, top⟩)
      rw [filter_ultima fun f mem => (older f mem).1] at after
      obtain ⟨us, disorder⟩ := ih after before untied
      exact ⟨u :: us, fun inOrder => disorder (List.pairwise_cons.mp inOrder).2⟩

theorem EnHora.revertibles_ordenadas {now : Int} {j : Journal} (enHora : EnHora now j) (agentId : String) :
    (revertibles agentId j).Pairwise fun e f => e.id < f.id ∧ e.timestamp ≤ f.timestamp :=
  enHora.working.orden.sublist List.filter_sublist

theorem deshace_en_orden (clave : String → String) (agentId : String) (calls : List Llamado) (j : Journal)
    (empty : SinEntradas j) (clock : calls.Pairwise fun a b => a.now ≤ b.now) :
    (∀ us, Lifo (pila agentId (corren clave calls j)) (deshace agentId us (corren clave calls j))) ↔
      Distintas agentId (corren clave calls j) := by
  have reached : ∃ now, EnHora now (corren clave calls j) := by
    cases calls with
    | nil => exact ⟨0, empty.enHora 0⟩
    | cons c cs =>
      refine (empty.enHora c.now).corren ?_ clock
      intro d mem
      rcases List.mem_cons.mp mem with rfl | later
      · exact Int.le_refl _
      · exact (List.pairwise_cons.mp clock).1 d later
  obtain ⟨now, enHora⟩ := reached
  have ordered := enHora.revertibles_ordenadas agentId
  have left : Quedan agentId (corren clave calls j) (revertibles agentId (corren clave calls j)) :=
    ⟨enHora.clean, rfl⟩
  constructor
  · intro lifo
    by_contra tie
    obtain ⟨us, disorder⟩ := empate_desordena left ordered tie
    exact disorder (lifo us).orden
  · intro apart us
    refine (deshace_lifo us left ?_).2
    refine ordered.and apart |>.imp fun {e f} both => ⟨both.1.1, ?_⟩
    have le := both.1.2
    have ne := both.2
    omega

def journalNuevo : Journal := ⟨true, ⟨.empty, .empty⟩, none⟩

def edita (snapshotPath : String) : Operacion :=
  .beginOperation ⟨"agente", .fileModify, "mods/a.esp", none, some snapshotPath, none, none⟩

/-- Two edits of one file, the second begun at `segunda`. -/
def dosEdiciones (segunda : Int) : List Llamado :=
  [⟨.beginTransaction "edits" none, 0, none⟩, ⟨edita "s1", 0, none⟩, ⟨.completeOperation 1, 0, none⟩,
    ⟨edita "s2", segunda, none⟩, ⟨.completeOperation 2, segunda, none⟩]

theorem deshace_dos_segundos :
    Lifo (pila "agente" (corren id (dosEdiciones 1) journalNuevo))
      (deshace "agente" [⟨0, .hecha, none⟩, ⟨0, .hecha, none⟩] (corren id (dosEdiciones 1) journalNuevo)) := by
  refine (deshace_en_orden id "agente" (dosEdiciones 1) journalNuevo ⟨rfl, rfl⟩ (by decide)).mpr ?_ _
  have times : (revertibles "agente" (corren id (dosEdiciones 1) journalNuevo)).map JournalEntry.timestamp =
      [0, 1] := by
    decide
  have apart : ((revertibles "agente" (corren id (dosEdiciones 1) journalNuevo)).map
      JournalEntry.timestamp).Pairwise (· ≠ ·) := times ▸ by decide
  exact List.pairwise_map.mp apart

theorem deshace_mismo_segundo :
    ¬ Lifo (pila "agente" (corren id (dosEdiciones 0) journalNuevo))
      (deshace "agente" [⟨0, .hecha, none⟩, ⟨0, .hecha, none⟩] (corren id (dosEdiciones 0) journalNuevo)) := by
  intro lifo
  have taken := lifo.completas (by decide)
  revert taken
  decide

end OperationJournal
