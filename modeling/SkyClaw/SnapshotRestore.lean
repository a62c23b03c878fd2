import SkyClaw.JsonText

set_option linter.all false

/-!
`FileSnapshotManager.restore_snapshot`, in `snapshot_manager.py`, over the four
files it touches: the target, its temporary backup, the snapshot and the sidecar
of the snapshot. Any step may fail; a copy that fails leaves anything behind.
-/
namespace SnapshotRestore
open JsonText

abbrev Bytes := List UInt8

/-- The text of a sidecar: not JSON in UTF-8, too deep for `json.loads`, or a value. -/
inductive Sidecar where
  | ilegible
  | profundo
  | json (value : Json)

structure Disco where
  target : Option Bytes
  backup : Option Bytes
  snapshot : Option Bytes
  sidecar : Option Sidecar

inductive Copia where
  | completa
  | falla (queda : Option Bytes)
  deriving DecidableEq

/-- What raises an `OSError`. -/
structure Averias where
  snapshotExists : Bool
  mkdir : Bool
  targetExists : Bool
  copiaBackup : Copia
  copiaSnapshot : Copia
  metaExists : Bool
  metaRead : Bool
  calculateChecksum : Bool
  backupExists : Bool
  copiaVuelta : Copia
  unlink : Bool

/-- A `JournalSnapshotError`, of three kinds, an `OSError` or a `TypeError` and the like. -/
inductive Fallo where
  | snapshotMissing
  | verificationFailed (expected actual : Text)
  | restoreFailed
  | osError
  | otro

section
variable (int16 : Text → Bool) (sha256 : Bytes → Text)

/-- `int16` is whether `int(checksum, 16)` takes the text; what is not a text may raise. -/
def validateChecksumFormat : Json → Except Fallo Bool
  | .str t => .ok (decide (t.length = 64) && int16 t)
  | .arr items => if items.length ≠ 64 then .ok false else .error .otro
  | .obj members => if members.length ≠ 64 then .ok false else .error .otro
  | _ => .error .otro

/-- `data.get("checksum", "")`. -/
def getChecksum : Json → Except Fallo Json
  | .obj members => .ok (((members.find? fun m => m.1 == lit "checksum").map (·.2)).getD (.str []))
  | _ => .error .otro

def textoDe : Json → Option Text
  | .str t => some t
  | _ => none

/-- The checksum, when it is a text of the right format. -/
def checksumValido (value : Json) : Except Fallo (Option Text) :=
  match validateChecksumFormat int16 value with
  | .error e => .error e
  | .ok valid => .ok (if valid then textoDe value else none)

def extractChecksumFromMeta (a : Averias) (d : Disco) : Except Fallo (Option Text) :=
  if a.metaExists then .error .restoreFailed
  else
    match d.sidecar with
    | none => .ok none
    | some sidecar =>
      if a.metaRead then .ok none
      else
        match sidecar with
        | .ilegible => .ok none
        | .profundo => .error .otro
        | .json value =>
          match getChecksum value with
          | .error e => .error e
          | .ok checksum => checksumValido int16 checksum

abbrev Resultado := Except Fallo Bool × Disco

/-- The end: the temporary backup goes. -/
def limpia (a : Averias) (conBackup : Bool) (d : Disco) : Resultado :=
  if !conBackup then (.ok true, d)
  else if a.backupExists then (.error .restoreFailed, d)
  else if d.backup.isNone then (.ok true, d)
  else if a.unlink then (.error .restoreFailed, d)
  else (.ok true, { d with backup := none })

/-- The target does not have the checksum of the sidecar. -/
def rechaza (a : Averias) (conBackup : Bool) (expected actual : Text) (d : Disco) : Resultado :=
  let fallo := Fallo.verificationFailed (expected.take 16) (actual.take 16)
  if !conBackup then (.error fallo, d)
  else if a.backupExists then (.error .restoreFailed, d)
  else if d.backup.isNone then (.error fallo, d)
  else
    match a.copiaVuelta with
    | .falla queda => (.error .restoreFailed, { d with target := queda })
    | .completa =>
      if a.unlink then (.error .restoreFailed, { d with target := d.backup })
      else (.error fallo, { d with target := d.backup, backup := none })

def verifica (a : Averias) (conBackup : Bool) (d : Disco) : Resultado :=
  match extractChecksumFromMeta int16 a d with
  | .error e => (.error e, d)
  | .ok none => limpia a conBackup d
  | .ok (some expected) =>
    if a.calculateChecksum then (.error .restoreFailed, d)
    else
      let actual := sha256 (d.target.getD [])
      if actual ≠ expected then rechaza a conBackup expected actual d else limpia a conBackup d

def sobrescribe (verifyChecksum : Bool) (a : Averias) (conBackup : Bool) (d : Disco) : Resultado :=
  match a.copiaSnapshot with
  | .falla queda => (.error .restoreFailed, { d with target := queda })
  | .completa =>
    let d := { d with target := d.snapshot }
    if verifyChecksum then verifica int16 sha256 a conBackup d else limpia a conBackup d

def restoreSnapshot (verifyChecksum : Bool) (a : Averias) (d : Disco) : Resultado :=
  if a.snapshotExists then (.error .osError, d)
  else if d.snapshot.isNone then (.error .snapshotMissing, d)
  else if a.mkdir || a.targetExists then (.error .restoreFailed, d)
  else if d.target.isNone then sobrescribe int16 sha256 verifyChecksum a false d
  else
    match a.copiaBackup with
    | .falla queda => (.error .restoreFailed, { d with backup := queda })
    | .completa => sobrescribe int16 sha256 verifyChecksum a true { d with backup := d.target }

end

/-- The checksum that the sidecar records, whatever its format. -/
def Disco.recorded (d : Disco) : Option Text :=
  match d.sidecar with
  | some (.json value) => (getChecksum value).toOption.bind textoDe
  | _ => none

section
variable (int16 : Text → Bool) (sha256 : Bytes → Text) (verifyChecksum : Bool) (a : Averias) (d : Disco)

/-- A restore that raises leaves the target as it was, and one that verifies leaves what was recorded. -/
structure Fiel : Prop where
  intacto : ∀ e, (restoreSnapshot int16 sha256 verifyChecksum a d).1 = .error e →
    (restoreSnapshot int16 sha256 verifyChecksum a d).2.target = d.target
  verificado : (restoreSnapshot int16 sha256 verifyChecksum a d).1 = .ok true → verifyChecksum = true →
    ∀ checksum, d.recorded = some checksum →
      ∃ bytes, (restoreSnapshot int16 sha256 verifyChecksum a d).2.target = some bytes ∧ sha256 bytes = checksum

/-- Nothing fails before the snapshot is copied over the target. -/
def Empieza : Prop :=
  a.snapshotExists = false ∧ d.snapshot.isSome = true ∧ a.mkdir = false ∧ a.targetExists = false ∧
    (d.target.isSome = true → a.copiaBackup = .completa)

/-- The snapshot does not have the checksum of its sidecar, and this is found out. -/
def NoCoincide : Prop :=
  verifyChecksum = true ∧ a.calculateChecksum = false ∧
    ∃ checksum, extractChecksumFromMeta int16 a d = .ok (some checksum) ∧
      d.snapshot.map sha256 ≠ some checksum

/-- The backup cannot be found or removed at the end. -/
def QuedaBackup : Prop := d.target.isSome = true ∧ (a.backupExists = true ∨ a.unlink = true)

/-- Something fails once the snapshot is over the target, the copy of the backup apart. -/
def FallaDespues : Prop :=
  (verifyChecksum = true ∧ ((∃ e, extractChecksumFromMeta int16 a d = .error e) ∨
    a.calculateChecksum = true ∧ ∃ checksum, extractChecksumFromMeta int16 a d = .ok (some checksum))) ∨
  (NoCoincide int16 sha256 verifyChecksum a d ∧ (d.target.isNone = true ∨ a.backupExists = true)) ∨
  (¬ NoCoincide int16 sha256 verifyChecksum a d ∧ QuedaBackup a d)

structure Sana : Prop where
  copia : ∀ queda, a.copiaSnapshot = .falla queda → queda = d.target
  despues : a.copiaSnapshot = .completa → FallaDespues int16 sha256 verifyChecksum a d → d.snapshot = d.target
  vuelta : a.copiaSnapshot = .completa → NoCoincide int16 sha256 verifyChecksum a d → a.backupExists = false →
    d.target.isSome = true → ∀ queda, a.copiaVuelta = .falla queda → queda = d.target
  formato : a.copiaSnapshot = .completa → verifyChecksum = true → extractChecksumFromMeta int16 a d = .ok none →
    ¬ QuedaBackup a d → ∀ checksum, d.recorded = some checksum → d.snapshot.map sha256 = some checksum

end

section
variable {int16 : Text → Bool} {sha256 : Bytes → Text} {verifyChecksum conBackup : Bool} {a : Averias} {d : Disco}

theorem extract_congr {d d' : Disco} (same : d'.sidecar = d.sidecar) :
    extractChecksumFromMeta int16 a d' = extractChecksumFromMeta int16 a d := by
  rw [extractChecksumFromMeta, extractChecksumFromMeta, same]

theorem extract_recorded {checksum : Text}
    (read : extractChecksumFromMeta int16 a d = .ok (some checksum)) : d.recorded = some checksum := by
  rw [extractChecksumFromMeta] at read
  split at read
  · cases read
  · split at read
    · cases read
    · rename_i sidecar present
      split at read
      · cases read
      · split at read
        · cases read
        · cases read
        · rename_i value
          split at read
          · cases read
          · rename_i checksum' got
            rw [checksumValido] at read
            split at read
            · cases read
            · rename_i valid _
              cases valid with
              | true =>
                simp only [if_true, Except.ok.injEq] at read
                simp [Disco.recorded, present, got, Except.toOption, read]
              | false => cases read

/-- The files once the target is overwritten: the backup is there if there was a target. -/
structure Copiado (conBackup : Bool) (d d' : Disco) : Prop where
  target : d'.target = d.snapshot
  sidecar : d'.sidecar = d.sidecar
  backup : conBackup = true → d'.backup = d.target
  habia : d.target.isSome = conBackup

theorem limpia_falla {d' : Disco} (copied : Copiado conBackup d d') (stays : QuedaBackup a d) :
    (∃ e, (limpia a conBackup d').1 = .error e) ∧ (limpia a conBackup d').2.target = d.snapshot := by
  have yes : conBackup = true := copied.habia ▸ stays.1
  subst yes
  have backup := copied.backup rfl
  have there : d'.backup.isNone = false := by simpa [backup] using stays.1
  simp only [limpia, there]
  rcases stays.2 with lost | kept
  · simp [lost, copied.target]
  · cases a.backupExists <;> simp [kept, copied.target]

theorem limpia_va {d' : Disco} (copied : Copiado conBackup d d') (gone : ¬ QuedaBackup a d) :
    (limpia a conBackup d').1 = .ok true ∧ (limpia a conBackup d').2.target = d.snapshot := by
  cases conBackup with
  | false => simp [limpia, copied.target]
  | true =>
    have backup := copied.backup rfl
    have quiet : a.backupExists = false ∧ a.unlink = false := by
      simpa [QuedaBackup, copied.habia] using gone
    have there : d'.backup.isNone = false := by simpa [backup] using copied.habia
    simp [limpia, there, quiet, copied.target]

theorem rechaza_sin_vuelta {expected actual : Text} {d' : Disco} (copied : Copiado conBackup d d')
    (stuck : d.target.isNone = true ∨ a.backupExists = true) :
    (∃ e, (rechaza a conBackup expected actual d').1 = .error e) ∧
      (rechaza a conBackup expected actual d').2.target = d.snapshot := by
  cases conBackup with
  | false => simp [rechaza, copied.target]
  | true =>
    have lost : a.backupExists = true := by
      rcases stuck with absent | lost
      · exact absurd copied.habia (by simp [Option.isNone_iff_eq_none.mp absent])
      · exact lost
    simp [rechaza, lost, copied.target]

theorem rechaza_vuelta {expected actual : Text} {d' : Disco} (copied : Copiado true d d')
    (found : a.backupExists = false) :
    (∃ e, (rechaza a true expected actual d').1 = .error e) ∧
      (rechaza a true expected actual d').2.target = match a.copiaVuelta with
        | .completa => d.target
        | .falla queda => queda := by
  have there : d'.backup.isNone = false := by simpa [copied.backup rfl] using copied.habia
  simp only [rechaza, there, found]
  cases a.copiaVuelta with
  | falla queda => simp
  | completa => cases a.unlink <;> simp [copied.backup rfl]

/-- The target once the snapshot is over it, by what then happens. -/
structure Acaba (int16 : Text → Bool) (sha256 : Bytes → Text) (verifyChecksum : Bool) (a : Averias) (d : Disco)
    (r : Resultado) : Prop where
  despues : FallaDespues int16 sha256 verifyChecksum a d → (∃ e, r.1 = .error e) ∧ r.2.target = d.snapshot
  vuelta : NoCoincide int16 sha256 verifyChecksum a d → a.backupExists = false → d.target.isSome = true →
    (∃ e, r.1 = .error e) ∧ r.2.target = match a.copiaVuelta with
      | .completa => d.target
      | .falla queda => queda
  termina : ¬ FallaDespues int16 sha256 verifyChecksum a d → ¬ NoCoincide int16 sha256 verifyChecksum a d →
    r.1 = .ok true ∧ r.2.target = d.snapshot

theorem limpia_acaba {d' : Disco} (copied : Copiado conBackup d d')
    (matches_ : ¬ NoCoincide int16 sha256 verifyChecksum a d)
    (quiet : FallaDespues int16 sha256 verifyChecksum a d → QuedaBackup a d) :
    Acaba int16 sha256 verifyChecksum a d (limpia a conBackup d') where
  despues failed := limpia_falla copied (quiet failed)
  vuelta differs := absurd differs matches_
  termina clean _ := limpia_va copied fun stays => clean (.inr (.inr ⟨matches_, stays⟩))

theorem rechaza_acaba {expected actual : Text} {d' : Disco} (copied : Copiado conBackup d d')
    (differs : NoCoincide int16 sha256 verifyChecksum a d) :
    Acaba int16 sha256 verifyChecksum a d (rechaza a conBackup expected actual d') where
  despues failed := by
    refine rechaza_sin_vuelta copied ?_
    obtain ⟨_, sound, checksum, read, _⟩ := id differs
    rcases failed with ⟨_, ⟨e, bad⟩ | ⟨bad, _⟩⟩ | ⟨_, stuck⟩ | ⟨matches_, _⟩
    · rw [read] at bad
      cases bad
    · rw [sound] at bad
      cases bad
    · exact stuck
    · exact absurd differs matches_
  vuelta _ found target := by
    have yes : conBackup = true := copied.habia ▸ target
    subst yes
    exact rechaza_vuelta copied found
  termina _ matches_ := absurd differs matches_

theorem error_acaba {e : Fallo} {d' : Disco} (copied : Copiado conBackup d d')
    (failed : FallaDespues int16 sha256 verifyChecksum a d)
    (matches_ : ¬ NoCoincide int16 sha256 verifyChecksum a d) :
    Acaba int16 sha256 verifyChecksum a d (.error e, d') where
  despues _ := ⟨⟨e, rfl⟩, copied.target⟩
  vuelta differs := absurd differs matches_
  termina clean := absurd failed clean

theorem verifica_acaba {d' : Disco} {bytes : Bytes} (copied : Copiado conBackup d d')
    (there : d.snapshot = some bytes) :
    Acaba int16 sha256 true a d (verifica int16 sha256 a conBackup d') := by
  have same : extractChecksumFromMeta int16 a d' = extractChecksumFromMeta int16 a d :=
    extract_congr copied.sidecar
  have target : d'.target = some bytes := copied.target.trans there
  rw [verifica, same]
  cases read : extractChecksumFromMeta int16 a d with
  | error e =>
    refine error_acaba copied (.inl ⟨rfl, .inl ⟨e, read⟩⟩) ?_
    rintro ⟨_, _, checksum, other, _⟩
    rw [read] at other
    cases other
  | ok found =>
    cases found with
    | none =>
      have matches_ : ¬ NoCoincide int16 sha256 true a d := by
        rintro ⟨_, _, checksum, other, _⟩
        rw [read] at other
        cases other
      refine limpia_acaba copied matches_ fun failed => ?_
      rcases failed with ⟨_, ⟨e, bad⟩ | ⟨_, checksum, bad⟩⟩ | ⟨differs, _⟩ | ⟨_, stays⟩
      · rw [read] at bad
        cases bad
      · rw [read] at bad
        cases bad
      · exact absurd differs matches_
      · exact stays
    | some expected =>
      cases sound : a.calculateChecksum with
      | true =>
        refine error_acaba copied (.inl ⟨rfl, .inr ⟨sound, expected, read⟩⟩) ?_
        rintro ⟨_, fine, _⟩
        rw [sound] at fine
        cases fine
      | false =>
        simp only [target, Option.getD_some, Bool.false_eq_true, if_false]
        by_cases same : sha256 bytes = expected
        · rw [if_neg (not_not_intro same)]
          have matches_ : ¬ NoCoincide int16 sha256 true a d := by
            rintro ⟨_, _, checksum, other, differs⟩
            rw [read, Except.ok.injEq, Option.some.injEq] at other
            exact differs (by rw [there, ← other, ← same]; rfl)
          refine limpia_acaba copied matches_ fun failed => ?_
          rcases failed with ⟨_, ⟨e, bad⟩ | ⟨bad, _⟩⟩ | ⟨differs, _⟩ | ⟨_, stays⟩
          · rw [read] at bad
            cases bad
          · rw [sound] at bad
            cases bad
          · exact absurd differs matches_
          · exact stays
        · rw [if_pos same]
          refine rechaza_acaba copied ⟨rfl, sound, expected, read, ?_⟩
          rw [there]
          simpa using same

theorem sobrescribe_acaba {d' : Disco} {bytes : Bytes}
    (copied : Copiado conBackup d { d' with target := d'.snapshot }) (there : d.snapshot = some bytes)
    (whole : a.copiaSnapshot = .completa) :
    Acaba int16 sha256 verifyChecksum a d (sobrescribe int16 sha256 verifyChecksum a conBackup d') := by
  rw [sobrescribe, whole]
  cases verifyChecksum with
  | true => exact verifica_acaba copied there
  | false =>
    refine limpia_acaba copied (fun differs => by cases differs.1) fun failed => ?_
    rcases failed with ⟨bad, _⟩ | ⟨⟨bad, _⟩, _⟩ | ⟨_, stays⟩
    · cases bad
    · cases bad
    · exact stays

/-- The restore once the snapshot is copied, whole or not. -/
theorem restoreSnapshot_empieza (starts : Empieza a d) :
    (∃ queda, a.copiaSnapshot = .falla queda ∧
        (∃ e, (restoreSnapshot int16 sha256 verifyChecksum a d).1 = .error e) ∧
        (restoreSnapshot int16 sha256 verifyChecksum a d).2.target = queda) ∨
      (a.copiaSnapshot = .completa ∧
        Acaba int16 sha256 verifyChecksum a d (restoreSnapshot int16 sha256 verifyChecksum a d)) := by
  obtain ⟨exists_, present, mkdir, target, backup⟩ := starts
  obtain ⟨bytes, there⟩ := Option.isSome_iff_exists.mp present
  have reduced : ∃ conBackup d', restoreSnapshot int16 sha256 verifyChecksum a d =
      sobrescribe int16 sha256 verifyChecksum a conBackup d' ∧
      Copiado conBackup d { d' with target := d'.snapshot } := by
    cases had : d.target with
    | none =>
      refine ⟨false, d, by simp [restoreSnapshot, exists_, there, mkdir, target, had], rfl, rfl, nofun, ?_⟩
      rw [had]
      rfl
    | some before =>
      have first := backup (by rw [had]; rfl)
      refine ⟨true, { d with backup := d.target }, ?_, rfl, rfl, fun _ => rfl, ?_⟩
      · simp [restoreSnapshot, exists_, there, mkdir, target, had, first]
      · rw [had]
        rfl
  obtain ⟨conBackup, d', is, copied⟩ := reduced
  rw [is]
  cases whole : a.copiaSnapshot with
  | falla queda => exact .inl ⟨queda, rfl, by simp [sobrescribe, whole], by simp [sobrescribe, whole]⟩
  | completa => exact .inr ⟨rfl, sobrescribe_acaba copied there whole⟩

variable (int16 sha256 verifyChecksum) in
theorem restoreSnapshot_no_empieza (never : ¬ Empieza a d) :
    (∃ e, (restoreSnapshot int16 sha256 verifyChecksum a d).1 = .error e) ∧
      (restoreSnapshot int16 sha256 verifyChecksum a d).2.target = d.target := by
  rw [restoreSnapshot]
  split
  · exact ⟨⟨_, rfl⟩, rfl⟩
  · split
    · exact ⟨⟨_, rfl⟩, rfl⟩
    · split
      · exact ⟨⟨_, rfl⟩, rfl⟩
      · rename_i exists_ present dirs
        simp only [Bool.or_eq_true, not_or, Bool.not_eq_true] at dirs
        have snapshot : d.snapshot.isSome = true := by simpa [Option.isSome_iff_ne_none] using present
        have exists_' : a.snapshotExists = false := by simpa using exists_
        split
        · rename_i absent
          refine absurd ⟨exists_', snapshot, dirs.1, dirs.2, fun had => ?_⟩ never
          simp [Option.isNone_iff_eq_none.mp absent] at had
        · split
          · exact ⟨⟨_, rfl⟩, rfl⟩
          · rename_i first
            exact absurd ⟨exists_', snapshot, dirs.1, dirs.2, fun _ => first⟩ never

theorem fiel_despues (ends : Acaba int16 sha256 verifyChecksum a d (restoreSnapshot int16 sha256 verifyChecksum a d))
    (whole : a.copiaSnapshot = .completa) (failed : FallaDespues int16 sha256 verifyChecksum a d) :
    Fiel int16 sha256 verifyChecksum a d ↔ Sana int16 sha256 verifyChecksum a d := by
  obtain ⟨⟨e, raised⟩, left⟩ := ends.despues failed
  constructor
  · intro faithful
    have same : d.snapshot = d.target := left.symm.trans (faithful.intacto e raised)
    refine ⟨fun queda bad => ?_, fun _ _ => same, fun _ differs found had queda back => ?_,
      fun _ verify read gone => ?_⟩
    · rw [whole] at bad
      cases bad
    · have kept := faithful.intacto e raised
      rw [(ends.vuelta differs found had).2, back] at kept
      exact kept
    · rcases failed with ⟨_, ⟨e, bad⟩ | ⟨_, checksum, bad⟩⟩ | ⟨⟨_, _, checksum, bad, _⟩, _⟩ | ⟨_, stays⟩
      · rw [read] at bad
        cases bad
      · rw [read] at bad
        cases bad
      · rw [read] at bad
        cases bad
      · exact absurd stays gone
  · intro sound
    refine ⟨fun _ _ => left.trans (sound.despues whole failed), fun returned => ?_⟩
    rw [raised] at returned
    cases returned

theorem fiel_vuelta (ends : Acaba int16 sha256 verifyChecksum a d (restoreSnapshot int16 sha256 verifyChecksum a d))
    (whole : a.copiaSnapshot = .completa) (clean : ¬ FallaDespues int16 sha256 verifyChecksum a d)
    (differs : NoCoincide int16 sha256 verifyChecksum a d) :
    Fiel int16 sha256 verifyChecksum a d ↔ Sana int16 sha256 verifyChecksum a d := by
  have had : d.target.isSome = true := by
    cases target : d.target with
    | none => exact absurd (.inr (.inl ⟨differs, .inl (by rw [target]; rfl)⟩)) clean
    | some before => rfl
  have found : a.backupExists = false :=
    Bool.eq_false_iff.mpr fun lost => clean (.inr (.inl ⟨differs, .inr lost⟩))
  obtain ⟨⟨e, raised⟩, left⟩ := ends.vuelta differs found had
  constructor
  · intro faithful
    have kept := faithful.intacto e raised
    refine ⟨fun queda bad => ?_, fun _ bad => absurd bad clean, fun _ _ _ _ queda is => ?_, fun _ _ read => ?_⟩
    · rw [whole] at bad
      cases bad
    · rw [left, is] at kept
      exact kept
    · obtain ⟨_, _, checksum, other, _⟩ := differs
      rw [read] at other
      cases other
  · intro sound
    refine ⟨fun _ _ => ?_, fun returned => ?_⟩
    · rw [left]
      cases is : a.copiaVuelta with
      | completa => rfl
      | falla queda => exact sound.vuelta whole differs found had queda is
    · rw [raised] at returned
      cases returned

theorem fiel_termina (ends : Acaba int16 sha256 verifyChecksum a d (restoreSnapshot int16 sha256 verifyChecksum a d))
    (whole : a.copiaSnapshot = .completa) (clean : ¬ FallaDespues int16 sha256 verifyChecksum a d)
    (matches_ : ¬ NoCoincide int16 sha256 verifyChecksum a d) {bytes : Bytes} (there : d.snapshot = some bytes) :
    Fiel int16 sha256 verifyChecksum a d ↔ Sana int16 sha256 verifyChecksum a d := by
  obtain ⟨returned, left⟩ := ends.termina clean matches_
  constructor
  · intro faithful
    refine ⟨fun queda bad => ?_, fun _ bad => absurd bad clean, fun _ bad => absurd bad matches_, ?_⟩
    · rw [whole] at bad
      cases bad
    · intro _ verify _ _ checksum recorded
      obtain ⟨bytes', is, hash⟩ := faithful.verificado returned verify checksum recorded
      rw [← left, is, Option.map_some, hash]
  · intro sound
    refine ⟨fun e raised => ?_, fun _ verify checksum recorded => ⟨bytes, left.trans there, ?_⟩⟩
    · rw [returned] at raised
      cases raised
    · cases read : extractChecksumFromMeta int16 a d with
      | error e => exact absurd (.inl ⟨verify, .inl ⟨e, read⟩⟩) clean
      | ok found =>
        cases found with
        | none =>
          have gone : ¬ QuedaBackup a d := fun stays => clean (.inr (.inr ⟨matches_, stays⟩))
          have hash := sound.formato whole verify read gone checksum recorded
          simpa [there] using hash
        | some expected =>
          have same := extract_recorded read
          rw [recorded, Option.some.injEq] at same
          have fine : a.calculateChecksum = false :=
            Bool.eq_false_iff.mpr fun bad => clean (.inl ⟨verify, .inr ⟨bad, expected, read⟩⟩)
          by_contra other
          refine matches_ ⟨verify, fine, expected, read, ?_⟩
          rw [there, ← same]
          simpa using other

theorem acaba_fiel (starts : Empieza a d) (whole : a.copiaSnapshot = .completa)
    (ends : Acaba int16 sha256 verifyChecksum a d (restoreSnapshot int16 sha256 verifyChecksum a d)) :
    Fiel int16 sha256 verifyChecksum a d ↔ Sana int16 sha256 verifyChecksum a d := by
  obtain ⟨bytes, there⟩ := Option.isSome_iff_exists.mp starts.2.1
  by_cases failed : FallaDespues int16 sha256 verifyChecksum a d
  · exact fiel_despues ends whole failed
  · by_cases differs : NoCoincide int16 sha256 verifyChecksum a d
    · exact fiel_vuelta ends whole failed differs
    · exact fiel_termina ends whole failed differs there

end

theorem restore_fiel (int16 : Text → Bool) (sha256 : Bytes → Text) (verifyChecksum : Bool) (a : Averias) (d : Disco) :
    Fiel int16 sha256 verifyChecksum a d ↔ (Empieza a d → Sana int16 sha256 verifyChecksum a d) := by
  by_cases starts : Empieza a d
  · rw [forall_prop_of_true starts]
    rcases restoreSnapshot_empieza starts with ⟨queda, part, ⟨e, raised⟩, left⟩ | ⟨whole, ends⟩
    · constructor
      · intro faithful
        have kept := left.symm.trans (faithful.intacto e raised)
        constructor
        · intro other is
          rw [part, Copia.falla.injEq] at is
          exact is ▸ kept
        all_goals
          intro whole
          rw [part] at whole
          cases whole
      · intro sound
        refine ⟨fun _ _ => left.trans (sound.copia queda part), fun returned => ?_⟩
        rw [raised] at returned
        cases returned
    · exact acaba_fiel starts whole ends
  · obtain ⟨⟨e, raised⟩, left⟩ := restoreSnapshot_no_empieza int16 sha256 verifyChecksum starts
    refine iff_of_true ⟨fun _ _ => left, fun returned => ?_⟩ fun is => absurd is starts
    rw [raised] at returned
    cases returned

def sinAverias : Averias := ⟨false, false, false, .completa, .completa, false, false, false, false, .completa, false⟩

/-- The disk is full after the first byte of the snapshot. -/
theorem restore_a_medias :
    ¬ Fiel (fun _ => true) (fun _ => []) true { sinAverias with copiaSnapshot := .falla (some [2]) }
      ⟨some [1], none, some [2, 3], none⟩ := by
  intro faithful
  have kept := faithful.intacto _ rfl
  revert kept
  decide

end SnapshotRestore
