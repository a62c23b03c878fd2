/-!
`SnapshotTransactionLock`, in `locks.py`: the snapshots of `__aenter__`, the
rollback of `__aexit__` and the report it leaves.
-/
namespace SnapshotRollback

/-- What `restore_snapshot` does: it returns, raises an `Exception`, or raises a
`CancelledError` or another `BaseException`. -/
inductive Restauracion where
  | hecha
  | falla
  | aborta
  deriving DecidableEq

structure SnapshotInfo where
  originalPath : String
  restauracion : Restauracion
  deriving DecidableEq

/-- A target file: whether it is there, and the restore of its snapshot if it is created. -/
structure Target where
  filePath : String
  existe : Bool
  creado : Bool
  restauracion : Restauracion

/-- The snapshots that are created, and whether the context is entered. -/
def aenter : List Target → List SnapshotInfo × Bool
  | [] => ([], true)
  | t :: ts =>
    if !t.existe then aenter ts
    else if !t.creado then ([], false)
    else (⟨t.filePath, t.restauracion⟩ :: (aenter ts).1, (aenter ts).2)

/-- The locals of the loop, with the snapshots that it does not restore. -/
structure Avance where
  failures : List String
  restored : List String
  noRestaurados : List SnapshotInfo

def Avance.restaura (a : Avance) (snap : SnapshotInfo) : Avance :=
  { a with restored := snap.originalPath :: a.restored }

def Avance.falla (a : Avance) (snap : SnapshotInfo) : Avance :=
  { a with
    failures := a.failures ++ [snap.originalPath]
    noRestaurados := a.noRestaurados ++ [snap] }

/-- The loop, and whether it ends. -/
def bucle : List SnapshotInfo → Avance → Avance × Bool
  | [], a => (a, true)
  | snap :: rest, a =>
    match snap.restauracion with
    | .hecha => bucle rest (a.restaura snap)
    | .falla => bucle rest (a.falla snap)
    | .aborta => ({ a with noRestaurados := a.noRestaurados ++ snap :: rest }, false)

inductive Salida where
  | vuelve
  | aborta
  | snapshotRollbackError
  deriving DecidableEq

structure Informe where
  rollbackAttempted : Bool
  rollbackFailures : List String
  vetoedUnknownTerminality : Bool
  noRestaurados : List SnapshotInfo

/-- The `finally` of `_rollback_snapshots`. -/
def interrumpidos (snapshots : List SnapshotInfo) (a : Avance) : List String :=
  (snapshots.reverse.map SnapshotInfo.originalPath).filter fun path =>
    decide (path ∉ a.restored ∧ path ∉ a.failures)

/-- The failures, the snapshots that are not restored and how it ends; `conExcepcion` is `exc_val`. -/
def rollbackSnapshots (snapshots : List SnapshotInfo) (conExcepcion : Bool) :
    List String × List SnapshotInfo × Salida :=
  let (a, ended) := bucle snapshots.reverse ⟨[], [], []⟩
  let failures := a.failures ++ interrumpidos snapshots a
  (failures, a.noRestaurados,
    if !ended then .aborta
    else if !failures.isEmpty && !conExcepcion then .snapshotRollbackError
    else .vuelve)

/-- The exception of the body: whether it is a `LockLeaseLostError`, and whether it forbids a rollback. -/
structure Excepcion where
  leaseLost : Bool
  forbidsRollback : Bool

def shouldRollback (forceRollback leaseLost : Bool) (exc : Option Excepcion) : Bool :=
  !exc.any Excepcion.forbidsRollback &&
    (forceRollback || exc.isSome && !(leaseLost || exc.any Excepcion.leaseLost))

/-- `leaseLost` is the flag of the heartbeat once it has stopped. -/
def aexit (forceRollback leaseLost : Bool) (exc : Option Excepcion) (snapshots : List SnapshotInfo) : Informe :=
  let should := shouldRollback forceRollback leaseLost exc
  let (failures, left, _) := rollbackSnapshots snapshots exc.isSome
  { rollbackAttempted := should
    rollbackFailures := if should then failures else []
    vetoedUnknownTerminality := exc.any Excepcion.forbidsRollback
    noRestaurados := if should then left else snapshots }

/-- A context from its targets on. When it is not entered there is no exit. -/
def transaccion (targets : List Target) (forceRollback leaseLost : Bool) (exc : Option Excepcion) : Informe :=
  let (snapshots, entered) := aenter targets
  if entered then aexit forceRollback leaseLost exc snapshots
  else ⟨false, [], false, snapshots⟩

def Informe.rollbackCompleted (r : Informe) (snapshots : List SnapshotInfo) : Bool :=
  r.rollbackAttempted && !snapshots.isEmpty && r.rollbackFailures.isEmpty

/-- The report says that the rollback is complete only if it is, and names what it leaves. -/
structure Veraz (snapshots : List SnapshotInfo) (r : Informe) : Prop where
  completo : r.rollbackCompleted snapshots = true → r.rollbackAttempted = true ∧ r.noRestaurados = []
  listados : r.rollbackAttempted = true → ∀ snap ∈ r.noRestaurados, snap.originalPath ∈ r.rollbackFailures

/-- Where a restore aborts, a snapshot that is left has the path of a restored one only if the
restore of another one with that path has failed. -/
def Destapados (snapshots : List SnapshotInfo) : Prop :=
  ∀ antes snap resto, snapshots.reverse = antes ++ snap :: resto →
    (∀ s ∈ antes, s.restauracion ≠ .aborta) → snap.restauracion = .aborta →
    ∀ q ∈ snap :: resto, (∃ s ∈ antes, s.originalPath = q.originalPath ∧ s.restauracion = .hecha) →
      ∃ s ∈ antes, s.originalPath = q.originalPath ∧ s.restauracion = .falla

/-! The loop -/

/-- What the loop has restored, what has failed and what is left of it. -/
structure Recorrido (a b : Avance) (antes resto : List SnapshotInfo) : Prop where
  restored : ∀ path, path ∈ b.restored ↔
    path ∈ a.restored ∨ ∃ s ∈ antes, s.originalPath = path ∧ s.restauracion = .hecha
  failures : ∀ path, path ∈ b.failures ↔
    path ∈ a.failures ∨ ∃ s ∈ antes, s.originalPath = path ∧ s.restauracion = .falla
  noRestaurados : ∀ s, s ∈ b.noRestaurados ↔
    s ∈ a.noRestaurados ∨ (s ∈ antes ∧ s.restauracion = .falla) ∨ s ∈ resto
  sinAbortar : ∀ s ∈ antes, s.restauracion ≠ .aborta
  aborta : ∀ s rest, resto = s :: rest → s.restauracion = .aborta

theorem bucle_recorrido (snaps : List SnapshotInfo) (a : Avance) :
    ∃ antes resto, snaps = antes ++ resto ∧ Recorrido a (bucle snaps a).1 antes resto := by
  induction snaps generalizing a with
  | nil => exact ⟨[], [], rfl, by simp [bucle], by simp [bucle], by simp [bucle], nofun, nofun⟩
  | cons snap rest ih =>
    cases outcome : snap.restauracion with
    | hecha =>
      obtain ⟨antes, resto, split_, went⟩ := ih (a.restaura snap)
      refine ⟨snap :: antes, resto, by rw [split_, List.cons_append], ?_⟩
      simp only [bucle, outcome]
      constructor
      · intro path
        rw [went.restored path]
        simp [Avance.restaura, outcome]
        grind -ring -linarith
      · intro path
        rw [went.failures path]
        simp [Avance.restaura, outcome]
      · intro s
        rw [went.noRestaurados s]
        simp [Avance.restaura]
        grind -ring -linarith
      · intro s mem
        rcases List.mem_cons.mp mem with rfl | later
        · rw [outcome]
          decide
        · exact went.sinAbortar s later
      · exact went.aborta
    | falla =>
      obtain ⟨antes, resto, split_, went⟩ := ih (a.falla snap)
      refine ⟨snap :: antes, resto, by rw [split_, List.cons_append], ?_⟩
      simp only [bucle, outcome]
      constructor
      · intro path
        rw [went.restored path]
        simp [Avance.falla, outcome]
      · intro path
        rw [went.failures path]
        simp [Avance.falla, outcome]
        grind -ring -linarith
      · intro s
        rw [went.noRestaurados s]
        simp [Avance.falla]
        grind -ring -linarith
      · intro s mem
        rcases List.mem_cons.mp mem with rfl | later
        · rw [outcome]
          decide
        · exact went.sinAbortar s later
      · exact went.aborta
    | aborta =>
      refine ⟨[], snap :: rest, rfl, ?_⟩
      simp only [bucle, outcome]
      constructor
      · simp
      · simp
      · simp
      · exact nofun
      · intro s rest' same
        simp only [List.cons.injEq] at same
        exact same.1 ▸ outcome

/-! The report -/

variable {snapshots : List SnapshotInfo} {forceRollback leaseLost : Bool} {exc : Option Excepcion}

theorem mem_rollbackFailures {a : Avance} {path : String} :
    path ∈ a.failures ++ interrumpidos snapshots a ↔
      path ∈ a.failures ∨ path ∉ a.restored ∧ ∃ s ∈ snapshots, s.originalPath = path := by
  rw [List.mem_append, interrumpidos, List.mem_filter, List.mem_map]
  simp only [List.mem_reverse, decide_eq_true_iff]
  grind -ring -linarith

variable (snapshots) in
/-- What the exit leaves of an attempted rollback. -/
theorem aexit_attempted (should : shouldRollback forceRollback leaseLost exc = true) :
    ∃ a antes resto, snapshots.reverse = antes ++ resto ∧ Recorrido ⟨[], [], []⟩ a antes resto ∧
      (aexit forceRollback leaseLost exc snapshots).rollbackFailures = a.failures ++ interrumpidos snapshots a ∧
      (aexit forceRollback leaseLost exc snapshots).noRestaurados = a.noRestaurados := by
  obtain ⟨antes, resto, split_, went⟩ := bucle_recorrido snapshots.reverse ⟨[], [], []⟩
  refine ⟨_, antes, resto, split_, went, ?_, ?_⟩
  · simp [aexit, should, rollbackSnapshots]
  · simp [aexit, should, rollbackSnapshots]

/-- A restore that failed is in the list; one that was cut short, unless the path was restored. -/
theorem listados_iff {a : Avance} {antes resto : List SnapshotInfo}
    (went : Recorrido ⟨[], [], []⟩ a antes resto) (split_ : snapshots.reverse = antes ++ resto) :
    (∀ s ∈ a.noRestaurados, s.originalPath ∈ a.failures ++ interrumpidos snapshots a) ↔
      ∀ q ∈ resto, (∃ s ∈ antes, s.originalPath = q.originalPath ∧ s.restauracion = .hecha) →
        ∃ s ∈ antes, s.originalPath = q.originalPath ∧ s.restauracion = .falla := by
  have restored : ∀ path, path ∈ a.restored ↔
      ∃ s ∈ antes, s.originalPath = path ∧ s.restauracion = .hecha := by
    intro path
    simpa using went.restored path
  have failures : ∀ path, path ∈ a.failures ↔
      ∃ s ∈ antes, s.originalPath = path ∧ s.restauracion = .falla := by
    intro path
    simpa using went.failures path
  have left : ∀ s, s ∈ a.noRestaurados ↔ (s ∈ antes ∧ s.restauracion = .falla) ∨ s ∈ resto := by
    intro s
    simpa using went.noRestaurados s
  constructor
  · intro listed q mem covered
    have inside := mem_rollbackFailures.mp (listed q ((left q).mpr (.inr mem)))
    rcases inside with failed | ⟨unrestored, _⟩
    · exact (failures _).mp failed
    · exact absurd ((restored _).mpr covered) unrestored
  · intro uncovered s mem
    rcases (left s).mp mem with ⟨tried, failed⟩ | rest
    · exact mem_rollbackFailures.mpr (.inl ((failures _).mpr ⟨s, tried, rfl, failed⟩))
    · by_cases covered : ∃ r ∈ antes, r.originalPath = s.originalPath ∧ r.restauracion = .hecha
      · exact mem_rollbackFailures.mpr (.inl ((failures _).mpr (uncovered s rest covered)))
      · refine mem_rollbackFailures.mpr (.inr ⟨fun is => covered ((restored _).mp is), s, ?_, rfl⟩)
        rw [← List.mem_reverse, split_]
        exact List.mem_append_right _ rest

/-- The loop splits where the first restore aborts. -/
theorem destapados_iff {a : Avance} {antes resto : List SnapshotInfo}
    (went : Recorrido ⟨[], [], []⟩ a antes resto) (split_ : snapshots.reverse = antes ++ resto) :
    Destapados snapshots ↔
      ∀ q ∈ resto, (∃ s ∈ antes, s.originalPath = q.originalPath ∧ s.restauracion = .hecha) →
        ∃ s ∈ antes, s.originalPath = q.originalPath ∧ s.restauracion = .falla := by
  constructor
  · intro uncovered
    cases resto with
    | nil => exact nofun
    | cons snap rest => exact uncovered antes snap rest split_ went.sinAbortar (went.aborta snap rest rfl)
  · intro uncovered antes' snap rest split' quiet aborts
    have same : antes = antes' ∧ resto = snap :: rest := by
      rw [split_] at split'
      rcases List.append_eq_append_iff.mp split' with ⟨more, before, after⟩ | ⟨more, before, after⟩
      · cases more with
        | nil => exact ⟨by simpa using before.symm, by simpa using after⟩
        | cons s more =>
          have first := went.aborta s (more ++ snap :: rest) after
          exact absurd first (quiet s (before ▸ List.mem_append_right _ List.mem_cons_self))
      · cases more with
        | nil => exact ⟨by simpa using before, by simpa using after.symm⟩
        | cons s more =>
          simp only [List.cons_append, List.cons.injEq] at after
          have is : s.restauracion = .aborta := after.1 ▸ aborts
          exact absurd is (went.sinAbortar s (before ▸ List.mem_append_right _ List.mem_cons_self))
    obtain ⟨rfl, rfl⟩ := same
    exact uncovered

theorem aexit_veraz : Veraz snapshots (aexit forceRollback leaseLost exc snapshots) ↔
    (shouldRollback forceRollback leaseLost exc = true → Destapados snapshots) := by
  constructor
  · intro truthful should
    obtain ⟨a, antes, resto, split_, went, failures, left⟩ :=
      aexit_attempted snapshots should
    refine (destapados_iff went split_).mpr ((listados_iff went split_).mp ?_)
    have listed := truthful.listados should
    rw [failures, left] at listed
    exact listed
  · intro uncovered
    have listed : shouldRollback forceRollback leaseLost exc = true →
        ∀ snap ∈ (aexit forceRollback leaseLost exc snapshots).noRestaurados,
          snap.originalPath ∈ (aexit forceRollback leaseLost exc snapshots).rollbackFailures := by
      intro should
      obtain ⟨a, antes, resto, split_, went, failures, left⟩ :=
        aexit_attempted snapshots should
      rw [failures, left]
      exact (listados_iff went split_).mpr ((destapados_iff went split_).mp (uncovered should))
    refine ⟨fun completed => ?_, listed⟩
    simp only [Informe.rollbackCompleted, Bool.and_eq_true, List.isEmpty_iff] at completed
    refine ⟨completed.1.1, ?_⟩
    refine List.eq_nil_iff_forall_not_mem.mpr fun snap mem => ?_
    have inside := listed completed.1.1 snap mem
    rw [completed.2] at inside
    cases inside

theorem rollback_veraz (targets : List Target) (forceRollback leaseLost : Bool) (exc : Option Excepcion) :
    Veraz (aenter targets).1 (transaccion targets forceRollback leaseLost exc) ↔
      ((aenter targets).2 = true → shouldRollback forceRollback leaseLost exc = true →
        Destapados (aenter targets).1) := by
  cases entered : (aenter targets).2 with
  | true =>
    simp only [transaccion, entered, if_true, true_imp_iff]
    exact aexit_veraz
  | false =>
    simp only [transaccion, entered, Bool.false_eq_true, if_false, false_imp_iff, iff_true]
    exact ⟨nofun, nofun⟩

/-- One path twice: the later snapshot is restored and a cancellation cuts the earlier one short. -/
theorem rollback_tapado :
    let targets : List Target := [⟨"a.esp", true, true, .aborta⟩, ⟨"a.esp", true, true, .hecha⟩]
    let report := transaccion targets false false (some ⟨false, false⟩)
    report.rollbackCompleted (aenter targets).1 = true ∧ report.noRestaurados.length = 1 ∧
      ¬ Veraz (aenter targets).1 report := by
  refine ⟨by decide, by decide, fun truthful => ?_⟩
  have left := (truthful.completo (by decide)).2
  revert left
  decide

end SnapshotRollback
