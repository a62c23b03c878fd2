import SkyClaw.TransitionRuns

set_option linter.all false

/-!
`DirectoryRollback`, in `_dir_rollback.py`: a directory that a tool regenerates is
renamed aside, and restored or discarded when the block ends. Each file system call,
each answer of a callback and each cancellation is a step.
-/
namespace DirectoryRollback

/-- What a path holds. The content of a real directory is the list of its entries. -/
inductive Cosa (E : Type) where
  | arbol (hijos : List E)
  | enlace
  | archivo
  deriving DecidableEq

/-- How a `rename` or a `rmdir` ends. It can change the disk and still raise. -/
inductive Desenlace where
  | ok
  | falla
  | mutaYFalla
  deriving DecidableEq

/-- How a `rmtree_link_aware` ends. One that raises can leave anything behind. -/
inductive Borrado (E : Type) where
  | ok
  | falla (queda : Option (Cosa E))
  deriving DecidableEq

/-- What a callback of the caller does. `interrumpe` is an exception that
`except Exception` does not catch. -/
inductive Respuesta where
  | si
  | no
  | lanza
  | interrumpe
  deriving DecidableEq

inductive Fase where
  | preflight (intento : Nat)
  | moviendo (intento : Nat) (cancelado : Bool)
  | movido (exito : Bool)
  | deshacerMiraBackup (protegido : Bool)
  | deshacerMiraTarget (protegido backupPresente : Bool)
  | deshacerRenombra (protegido : Bool) (intento : Nat)
  | deshacerVuelveABackup (protegido : Bool)
  | deshacerVuelveATarget (protegido backupPresente : Bool)
  | hiloSuelto
  | cuerpo
  | commitMira
  | commitInspecciona (intento : Nat)
  | commitBorra (intento : Nat)
  | salidaVeto
  | restauraMira
  | restauraBorra (intento : Nat)
  | restauraMiraBackup
  | restauraRenombra (intento : Nat)
  | salidaValida
  | descarteMira
  | descarteInspecciona (intento : Nat)
  | descarteSinRegenerar
  | vacioEnlace (intento : Nat)
  | vacioVeto (intento : Nat)
  | vacioRmdir (intento : Nat)
  | vacioRenombra (intento : Nat)
  | descarteVeto
  | descarteBorra (intento : Nat)
  | terminado
  deriving DecidableEq

/-- `mira` is an inspection that succeeds and `falla` one that raises `OSError`. The
answer of an inspection is what the disk holds. `acaba` is the end of the block, with
whether its exception forbids the rollback. -/
inductive Evento (E : Type) where
  | mira
  | falla
  | rename (d : Desenlace)
  | rmdir (d : Desenlace)
  | borra (b : Borrado E)
  | responde (r : Respuesta)
  | cancela
  | sigue
  | deja (x : Option (Cosa E))
  | commit
  | acaba (excepcion : Option Bool)
  deriving DecidableEq

/-- The last five fields are ghost state: what the target held at the beginning, and
what the block and the callbacks did. -/
structure Estado (E : Type) where
  target : Option (Cosa E)
  backup : Option (Cosa E)
  tieneBackup : Bool
  enabled : Bool
  rollbackCompleted : Bool
  finalizationCompleted : Bool
  cleanupError : Bool
  fase : Fase
  previo : Option (Cosa E)
  confirmado : Bool
  limpia : Bool
  validada : Bool
  concedida : Bool
  deriving DecidableEq

variable {E : Type}

def Estado.inicial (target : Option (Cosa E)) : Estado E where
  target := target
  backup := none
  tieneBackup := false
  enabled := true
  rollbackCompleted := true
  finalizationCompleted := true
  cleanupError := false
  fase := .preflight 0
  previo := target
  confirmado := false
  limpia := false
  validada := false
  concedida := false

def fsRetries : Nat := 5

/-- A rename onto something, or of nothing, raises and changes nothing. -/
def renombrar (origen destino : Option (Cosa E)) (d : Desenlace) :
    Option (Cosa E) × Option (Cosa E) × Bool :=
  match origen, destino, d with
  | some x, none, .ok => (none, some x, true)
  | some x, none, .mutaYFalla => (none, some x, false)
  | _, _, _ => (origen, destino, false)

/-- `rmdir` removes an empty directory and nothing else. -/
def quitarVacio (x : Option (Cosa E)) (d : Desenlace) : Option (Cosa E) × Bool :=
  match x, d with
  | some (.arbol []), .ok => (none, true)
  | some (.arbol []), .mutaYFalla => (none, false)
  | _, _ => (x, false)

def Estado.va (s : Estado E) (fase : Fase) : Estado E := { s with fase }

/-- `__aexit__` keeps the `OSError` of the cleanup and does not raise it. -/
def Estado.error (s : Estado E) : Estado E := { s with cleanupError := true, fase := .terminado }

/-- One more attempt of `_fs_op_with_retry`, or what its last `OSError` leads to. -/
def Estado.reintenta (s : Estado E) (intento : Nat) (otra : Nat → Fase) (rendido : Estado E) :
    Estado E :=
  if intento + 1 < fsRetries then s.va (otra (intento + 1)) else rendido

def preflight (s : Estado E) (intento : Nat) : Evento E → Option (Estado E)
  | .cancela => some (s.va .terminado)
  | .falla => some (s.reintenta intento .preflight (s.va .terminado))
  | .mira =>
    match s.target with
    | some .enlace => some (s.va .terminado)
    | some .archivo => some (s.va .terminado)
    | none => some { s with
        rollbackCompleted := false
        finalizationCompleted := false
        fase := .cuerpo }
    | some (.arbol _) => some { s with
        tieneBackup := true
        rollbackCompleted := false
        finalizationCompleted := false
        fase := .moviendo 0 false }
  | _ => none

/-- The task of the rename, and who waits for it: `__aenter__`, or after a
cancellation `_deshacer_rename_cancelado`. -/
def moviendo (s : Estado E) (intento : Nat) (cancelado : Bool) : Evento E → Option (Estado E)
  | .cancela => some (s.va (.moviendo intento true))
  | .rename d =>
    let (target, backup, exito) := renombrar s.target s.backup d
    let s := { s with target, backup }
    let fin := s.va (if cancelado then .deshacerMiraBackup true else .movido exito)
    if exito then some fin else some (s.reintenta intento (.moviendo · cancelado) fin)
  | _ => none

/-- The rename ended and `__aenter__` has not run yet. -/
def movido (s : Estado E) (exito : Bool) : Evento E → Option (Estado E)
  | .cancela => some (s.va (.deshacerMiraBackup true))
  | .sigue => some (s.va (if exito then .cuerpo else .deshacerMiraBackup false))
  | _ => none

/-- The result of `_deshacer_rename_cancelado`, after which `__aenter__` raises. -/
def Estado.deshecho (s : Estado E) (confirmado : Bool) : Estado E :=
  { s with
    rollbackCompleted := confirmado
    finalizationCompleted := confirmado
    fase := .terminado }

/-- A shielded undo takes no cancellation. An unshielded one ends there. -/
def Estado.cancelaDeshacer (s : Estado E) (protegido : Bool) : Estado E :=
  if protegido then s else s.va .terminado

def deshacerMiraBackup (s : Estado E) (protegido : Bool) : Evento E → Option (Estado E)
  | .mira => some (s.va (.deshacerMiraTarget protegido s.backup.isSome))
  | .falla => some (s.va .terminado)
  | .cancela => some (s.cancelaDeshacer protegido)
  | _ => none

def deshacerMiraTarget (s : Estado E) (protegido backupPresente : Bool) :
    Evento E → Option (Estado E)
  | .mira =>
    let targetPresente := s.target.isSome
    if targetPresente && !backupPresente then some (s.deshecho true)
    else if backupPresente && !targetPresente then some (s.va (.deshacerRenombra protegido 0))
    else some (s.deshecho false)
  | .falla => some (s.va .terminado)
  | .cancela => some (s.cancelaDeshacer protegido)
  | _ => none

/-- A cancellation leaves the thread of the rename running. -/
def deshacerRenombra (s : Estado E) (protegido : Bool) (intento : Nat) :
    Evento E → Option (Estado E)
  | .rename d =>
    let (backup, target, exito) := renombrar s.backup s.target d
    let s := { s with target, backup }
    if exito then some (s.va (.deshacerVuelveABackup protegido))
    else some (s.reintenta intento (.deshacerRenombra protegido) (s.deshecho false))
  | .cancela => some (if protegido then s else s.va .hiloSuelto)
  | _ => none

def deshacerVuelveABackup (s : Estado E) (protegido : Bool) : Evento E → Option (Estado E)
  | .mira => some (s.va (.deshacerVuelveATarget protegido s.backup.isSome))
  | .falla => some (s.va .terminado)
  | .cancela => some (s.cancelaDeshacer protegido)
  | _ => none

def deshacerVuelveATarget (s : Estado E) (protegido backupPresente : Bool) :
    Evento E → Option (Estado E)
  | .mira => some (s.deshecho (s.target.isSome && !backupPresente))
  | .falla => some (s.va .terminado)
  | .cancela => some (s.cancelaDeshacer protegido)
  | _ => none

def hiloSuelto (s : Estado E) : Evento E → Option (Estado E)
  | .rename d =>
    let (backup, target, _) := renombrar s.backup s.target d
    some { s with target, backup, fase := .terminado }
  | .sigue => some (s.va .terminado)
  | _ => none

/-- The block. `commit` seals the context before it discards anything. -/
def cuerpo (s : Estado E) : Evento E → Option (Estado E)
  | .deja x => some { s with target := x }
  | .commit =>
    if s.enabled then some { s with
      enabled := false
      finalizationCompleted := false
      confirmado := true
      fase := .commitMira }
    else some s
  | .acaba excepcion =>
    if ¬ s.enabled then some (s.va .terminado)
    else match excepcion with
      | none => some { s with limpia := true, fase := .salidaValida }
      | some true => some (s.va .terminado)
      | some false => some (s.va .salidaVeto)
  | _ => none

def commitMira (s : Estado E) : Evento E → Option (Estado E)
  | .mira =>
    if s.tieneBackup && s.backup.isSome then some (s.va (.commitInspecciona 0))
    else some { s with finalizationCompleted := true, tieneBackup := false, fase := .cuerpo }
  | .falla => some (s.va .cuerpo)
  | .cancela => some s
  | _ => none

def commitInspecciona (s : Estado E) (intento : Nat) : Evento E → Option (Estado E)
  | .mira => some (s.va (.commitBorra 0))
  | .falla => some (s.reintenta intento .commitInspecciona (s.va .cuerpo))
  | .cancela => some s
  | _ => none

def commitBorra (s : Estado E) (intento : Nat) : Evento E → Option (Estado E)
  | .borra .ok => some { s with
      backup := none
      finalizationCompleted := true
      tieneBackup := false
      fase := .cuerpo }
  | .borra (.falla queda) =>
    let s := { s with backup := queda }
    some (s.reintenta intento .commitBorra (s.va .cuerpo))
  | .cancela => some s
  | _ => none

/-- `_veto_permite_restaurar` after an exception of the block. -/
def salidaVeto (s : Estado E) : Evento E → Option (Estado E)
  | .responde .si => some (s.va .restauraMira)
  | .responde _ => some (s.va .terminado)
  | .cancela => some s
  | _ => none

def restauraMira (s : Estado E) : Evento E → Option (Estado E)
  | .mira => some (s.va (if s.target.isSome then .restauraBorra 0 else .restauraMiraBackup))
  | .falla => some s.error
  | .cancela => some s
  | _ => none

def restauraBorra (s : Estado E) (intento : Nat) : Evento E → Option (Estado E)
  | .borra .ok => some { s with target := none, fase := .restauraMiraBackup }
  | .borra (.falla queda) =>
    let s := { s with target := queda }
    some (s.reintenta intento .restauraBorra s.error)
  | .cancela => some s
  | _ => none

def Estado.restaurado (s : Estado E) : Estado E :=
  { s with rollbackCompleted := true, finalizationCompleted := true, fase := .terminado }

def restauraMiraBackup (s : Estado E) : Evento E → Option (Estado E)
  | .mira =>
    if s.tieneBackup && s.backup.isSome then some (s.va (.restauraRenombra 0))
    else some s.restaurado
  | .falla => some s.error
  | .cancela => some s
  | _ => none

def restauraRenombra (s : Estado E) (intento : Nat) : Evento E → Option (Estado E)
  | .rename d =>
    let (backup, target, exito) := renombrar s.backup s.target d
    let s := { s with target, backup }
    if exito then some s.restaurado
    else some (s.reintenta intento .restauraRenombra s.error)
  | .cancela => some s
  | _ => none

def salidaValida (s : Estado E) : Evento E → Option (Estado E)
  | .responde .si => some { s with validada := true, fase := .descarteMira }
  | .responde _ => some (s.va .terminado)
  | .cancela => some s
  | _ => none

def descarteMira (s : Estado E) : Evento E → Option (Estado E)
  | .mira =>
    if s.tieneBackup && s.backup.isSome then some (s.va (.descarteInspecciona 0))
    else some { s with finalizationCompleted := true, fase := .terminado }
  | .falla => some s.error
  | .cancela => some s
  | _ => none

def descarteInspecciona (s : Estado E) (intento : Nat) : Evento E → Option (Estado E)
  | .mira => some (s.va .descarteSinRegenerar)
  | .falla => some (s.reintenta intento .descarteInspecciona s.error)
  | .cancela => some s
  | _ => none

/-- A link, an absent target and an empty one were not generated. Listing a file raises. -/
def descarteSinRegenerar (s : Estado E) : Evento E → Option (Estado E)
  | .mira =>
    match s.target with
    | none => some (s.va (.vacioEnlace 0))
    | some .enlace => some (s.va (.vacioEnlace 0))
    | some (.arbol []) => some (s.va (.vacioEnlace 0))
    | some (.arbol (_ :: _)) => some (s.va .descarteVeto)
    | some .archivo => some s.error
  | .falla => some s.error
  | .cancela => some s
  | _ => none

/-- `_restaurar_target_vacio_sync`, which is retried as a whole. -/
def vacioEnlace (s : Estado E) (intento : Nat) : Evento E → Option (Estado E)
  | .mira =>
    match s.target with
    | some .enlace => some { s with finalizationCompleted := false, fase := .terminado }
    | _ => some (s.va (.vacioVeto intento))
  | .falla => some (s.reintenta intento .vacioEnlace s.error)
  | .cancela => some s
  | _ => none

def vacioVeto (s : Estado E) (intento : Nat) : Evento E → Option (Estado E)
  | .responde .si =>
    some (s.va (if s.target.isSome then .vacioRmdir intento else .vacioRenombra intento))
  | .responde .interrumpe => some (s.va .terminado)
  | .responde _ => some { s with finalizationCompleted := false, fase := .terminado }
  | .cancela => some s
  | _ => none

def vacioRmdir (s : Estado E) (intento : Nat) : Evento E → Option (Estado E)
  | .rmdir d =>
    let (target, exito) := quitarVacio s.target d
    let s := { s with target }
    if exito then some (s.va (.vacioRenombra intento))
    else some (s.reintenta intento .vacioEnlace s.error)
  | .falla => some (s.reintenta intento .vacioEnlace s.error)
  | .cancela => some s
  | _ => none

def vacioRenombra (s : Estado E) (intento : Nat) : Evento E → Option (Estado E)
  | .rename d =>
    let (backup, target, exito) := renombrar s.backup s.target d
    let s := { s with target, backup }
    if exito then some { s with finalizationCompleted := true, fase := .terminado }
    else some (s.reintenta intento .vacioEnlace s.error)
  | .cancela => some s
  | _ => none

/-- `_descartar_backup_sync`: the veto is asked once, and then the backup is deleted. -/
def descarteVeto (s : Estado E) : Evento E → Option (Estado E)
  | .responde .si => some { s with concedida := true, fase := .descarteBorra 0 }
  | .responde .interrumpe => some (s.va .terminado)
  | .responde _ => some { s with finalizationCompleted := false, fase := .terminado }
  | .cancela => some s
  | _ => none

def descarteBorra (s : Estado E) (intento : Nat) : Evento E → Option (Estado E)
  | .borra .ok => some { s with backup := none, finalizationCompleted := true, fase := .terminado }
  | .borra (.falla queda) =>
    let s := { s with backup := queda }
    some (s.reintenta intento .descarteBorra s.error)
  | .cancela => some s
  | _ => none

def paso (s : Estado E) (e : Evento E) : Option (Estado E) :=
  match s.fase with
  | .preflight i => preflight s i e
  | .moviendo i c => moviendo s i c e
  | .movido x => movido s x e
  | .deshacerMiraBackup p => deshacerMiraBackup s p e
  | .deshacerMiraTarget p b => deshacerMiraTarget s p b e
  | .deshacerRenombra p i => deshacerRenombra s p i e
  | .deshacerVuelveABackup p => deshacerVuelveABackup s p e
  | .deshacerVuelveATarget p b => deshacerVuelveATarget s p b e
  | .hiloSuelto => hiloSuelto s e
  | .cuerpo => cuerpo s e
  | .commitMira => commitMira s e
  | .commitInspecciona i => commitInspecciona s i e
  | .commitBorra i => commitBorra s i e
  | .salidaVeto => salidaVeto s e
  | .restauraMira => restauraMira s e
  | .restauraBorra i => restauraBorra s i e
  | .restauraMiraBackup => restauraMiraBackup s e
  | .restauraRenombra i => restauraRenombra s i e
  | .salidaValida => salidaValida s e
  | .descarteMira => descarteMira s e
  | .descarteInspecciona i => descarteInspecciona s i e
  | .descarteSinRegenerar => descarteSinRegenerar s e
  | .vacioEnlace i => vacioEnlace s i e
  | .vacioVeto i => vacioVeto s i e
  | .vacioRmdir i => vacioRmdir s i e
  | .vacioRenombra i => vacioRenombra s i e
  | .descarteVeto => descarteVeto s e
  | .descarteBorra i => descarteBorra s i e
  | .terminado => none

end DirectoryRollback
