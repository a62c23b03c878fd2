import SkyClaw.CanonicalPaths
import SkyClaw.Effects

set_option linter.all false

/-!
`copiar_arbol_independiente`: the copy of a sealed tree. No other program changes
the disk meanwhile, and every call to the system may fail.
-/
namespace IndependentCopy
open SealedBatches (Texto barra Conflicto validarCoherenciaDelLote)
open CanonicalPaths (Tipo Rechazo punto canonicalizarRelpathDeScope)
open Effects

local instance lawfulBEq_parte : LawfulBEq (List Nat) := inferInstance

/-- An absolute `pathlib.Path`: its anchor and its components. -/
structure Ruta where
  ancla : Texto
  partes : List Texto
  deriving DecidableEq

def sube : Texto := [punto, punto]

namespace Ruta

def parent (r : Ruta) : Ruta := { r with partes := r.partes.dropLast }

/-- `r / c1 / c2 ...` -/
def une (r : Ruta) (cs : List Texto) : Ruta := { r with partes := r.partes ++ cs }

/-- The path and its parents, up to the anchor. -/
def cadena (r : Ruta) : List Ruta :=
  ((List.range (r.partes.length + 1)).reverse).map fun n => { r with partes := r.partes.take n }

end Ruta

def colapsa : List Texto → List Texto → List Texto
  | hechas, [] => hechas
  | hechas, c :: resto => if c = sube then colapsa hechas.dropLast resto else colapsa (hechas ++ [c]) resto

/-- `os.path.abspath` of an absolute path. -/
def abspath (r : Ruta) : Ruta := { r with partes := colapsa [] r.partes }

inductive Nodo where
  | dir
  | archivo (bytes : List UInt8)
  | enlace
  deriving DecidableEq

/-- What a call to the system meets: nothing, an `OSError`, an answer that denies what
is there, or an `OSError` after so many bytes. -/
inductive Suerte where
  | bien
  | falla
  | ciega
  | corta (escritos : Nat)

/-- The objects of the disk by their place, and what the next calls meet. -/
structure Estado (K : Type) where
  nodos : List K → Option Nodo
  suertes : List Suerte

inductive Motivo where
  | solapamiento
  | relpath (tipo : Tipo) (rechazo : Rechazo)
  | lote (conflicto : Conflicto)
  | fueraDelContenedor
  | sinCrear
  | yaExiste
  | enlace
  | sinInspeccion
  | desaparecido
  | sinIdentidad
  | sinCopiar
  deriving DecidableEq

/-- `CandidateCopyError`, `FrozenRuntimeStorageError`, `ContencionFisicaVioladaError`
and any other `OSError`. -/
inductive Fallo where
  | copia (motivo : Motivo)
  | almacen
  | violada
  | sistema
  deriving DecidableEq

/-- How the machine reads a path: the key of a name, the place of the entry that the path
names, and the place of what is behind its links. -/
structure Plano (K : Type) where
  clave : Texto → K
  lugar : Ruta → List K
  real : Ruta → List K
  lugar_une : ∀ r c, c ≠ sube → lugar (r.une [c]) = real r ++ [clave c]

abbrev Efecto (K α : Type) := Effect (Estado K) Fallo α

variable {K : Type} (d : Plano K)

/-! Calls to the system -/

def siguiente : Efecto K Suerte := fun s =>
  (.ok (s.suertes.headD .bien), { s with suertes := s.suertes.tail })

/-- `link_kind_and_identity_or_raise`: nothing, or the object with its kind. -/
def lstat (r : Ruta) : Efecto K (Option Nodo) := do
  match ← siguiente with
  | .falla => stop .sistema
  | _ => look fun s => s.nodos (d.lugar r)

def existe (r : Ruta) : Efecto K Bool := do
  match ← siguiente with
  | .falla => stop .sistema
  | .ciega => pure false
  | _ => look fun s => match s.nodos (d.real r) with
    | some .dir | some (.archivo _) => true
    | _ => false

def isDir (r : Ruta) : Efecto K Bool := do
  match ← siguiente with
  | .falla => stop .sistema
  | .ciega => pure false
  | _ => look fun s => decide (s.nodos (d.real r) = some .dir)

/-- `same_file_identity` of two looks at one object: not where the file system gives
no identities. -/
def sameFileIdentity : Efecto K Bool := do
  match ← siguiente with
  | .bien => pure true
  | _ => pure false

/-- The last component can name a new entry, the entry is not there and the place it
would be in is a directory. -/
def Libre (nodos : List K → Option Nodo) (r : Ruta) : Prop :=
  r.partes ≠ [] ∧ r.partes.getLast? ≠ some sube ∧ nodos (d.lugar r) = none ∧
    nodos (d.real r.parent) = some .dir

instance [DecidableEq K] (nodos : List K → Option Nodo) (r : Ruta) : Decidable (Libre d nodos r) :=
  inferInstanceAs (Decidable (_ ∧ _ ∧ _ ∧ _))

section
variable [DecidableEq K]

def pon (r : Ruta) (nodo : Nodo) : Efecto K Unit := fun s =>
  (.ok (), { s with nodos := Function.update s.nodos (d.lugar r) (some nodo) })

/-- `Path.mkdir(parents=False, exist_ok=False)` -/
def mkdir (r : Ruta) : Efecto K Unit := do
  match ← siguiente with
  | .bien =>
    if ← look fun s => decide (Libre d s.nodos r) then pon d r .dir else stop .sistema
  | _ => stop .sistema

/-- `open(r, "xb")` and the writes. -/
def escribe (r : Ruta) (bytes : List UInt8) : Efecto K Unit := do
  match ← siguiente with
  | .bien =>
    if ← look fun s => decide (Libre d s.nodos r) then pon d r (.archivo bytes) else stop .sistema
  | .corta n =>
    if ← look fun s => decide (Libre d s.nodos r) then
      pon d r (.archivo (bytes.take n))
      stop .sistema
    else stop .sistema
  | _ => stop .sistema

end

/-- `open(r, "rb")` and what there is to read. -/
def lee (r : Ruta) : Efecto K (List UInt8) := do
  match ← siguiente with
  | .bien =>
    match ← look fun s => s.nodos (d.real r) with
    | some (.archivo bytes) => pure bytes
    | _ => stop .sistema
  | _ => stop .sistema

/-! Links -/

variable (normcase : Texto → Texto)

/-- The loop down the components, with the ones that it captures. -/
def recorreCadena (exigirExistencia : Bool) : Bool → List Ruta → Efecto K (List Ruta)
  | _, [] => pure []
  | esRaiz, actual :: resto => do
    match ← lstat d actual with
    | none => if esRaiz || exigirExistencia then stop .violada else pure []
    | some .dir => do
      let capturadas ← recorreCadena exigirExistencia false resto
      pure (actual :: capturadas)
    | _ => stop .violada

/-- The second look at the captured components. -/
def revalida : List Ruta → Efecto K Unit
  | [] => pure ()
  | ruta :: resto => do
    let _ ← lstat d ruta
    if ← sameFileIdentity then revalida resto else stop .violada

def exigirContencionFisica (raiz candidato : Ruta) (permitirRaiz exigirExistencia : Bool) :
    Efecto K Ruta := do
  let partesRaiz := abspath raiz
  let partesCand := abspath candidato
  if sube ∈ partesRaiz.partes ∨ sube ∈ partesCand.partes then stop .violada
  else if normcase partesRaiz.ancla ≠ normcase partesCand.ancla then stop .violada
  else if partesCand.partes.length < partesRaiz.partes.length then stop .violada
  else if (partesCand.partes.take partesRaiz.partes.length).map normcase ≠ partesRaiz.partes.map normcase then
    stop .violada
  else if partesCand.partes.length = partesRaiz.partes.length then
    if permitirRaiz then pure partesCand else stop .violada
  else
    let capturadas ← recorreCadena d exigirExistencia true
      (partesCand.cadena.reverse.drop partesRaiz.partes.length)
    revalida d capturadas.reverse
    pure partesCand

/-- `descripcion_de_enlace`: whether a component is a link or cannot be looked at. -/
def descripcionDeEnlace : List Ruta → Efecto K Bool
  | [] => pure false
  | actual :: resto => do
    match ← attempt (lstat d actual) with
    | .error _ => pure true
    | .ok (some .enlace) => pure true
    | .ok _ => descripcionDeEnlace resto

def exigirNamespaceEscribible (path : Ruta) : Efecto K Unit := do
  if ← descripcionDeEnlace d path.cadena then stop .almacen
  else if ← isDir d path then pure ()
  else stop .almacen

def rechazarSiEsEnlace (ruta : Ruta) : Efecto K Unit := do
  match ← attempt (lstat d ruta) with
  | .error _ => stop (.copia .sinInspeccion)
  | .ok (some .enlace) => stop (.copia .enlace)
  | .ok _ => pure ()

/-! The copy -/

/-- `except ContencionFisicaVioladaError` -/
def siCuelga (m : Efecto K Ruta) : Efecto K Unit := do
  match ← attempt m with
  | .ok _ => pure ()
  | .error .violada => stop (.copia .fueraDelContenedor)
  | .error e => stop e

/-- `except OSError` -/
def siPuede (motivo : Motivo) {α : Type} (m : Efecto K α) : Efecto K α := do
  match ← attempt m with
  | .ok a => pure a
  | .error .violada => stop (.copia motivo)
  | .error .sistema => stop (.copia motivo)
  | .error e => stop e

def exigirPayloadVacio (destino : Ruta) : Efecto K Unit := do
  if ← existe d destino then stop (.copia .yaExiste)
  else if ← isDir d destino.parent then pure ()
  else stop .almacen

def rechazarSolapamientoOrigenDestino (raizOrigen raizDestino : Ruta) : Efecto K Unit := do
  match ← attempt (exigirContencionFisica d normcase raizOrigen raizDestino true false) with
  | .ok _ => stop (.copia .solapamiento)
  | .error .violada =>
    match ← attempt (exigirContencionFisica d normcase raizDestino raizOrigen true false) with
    | .ok _ => stop (.copia .solapamiento)
    | .error .violada => pure ()
    | .error e => stop e
  | .error e => stop e

def exigirContencionDestino (contenedor ruta : Ruta) : Efecto K Unit :=
  siCuelga (exigirContencionFisica d normcase contenedor ruta false true)

def exigirAncestrosDelSource (raizOrigen archivo : Ruta) : Efecto K Unit := do
  rechazarSiEsEnlace d raizOrigen
  siCuelga (exigirContencionFisica d normcase raizOrigen archivo.parent true true)

def canonicalizarLote (casefold : Texto → Texto) (tipo : Tipo) : List Texto → Except Fallo (List Texto)
  | [] => .ok []
  | entrada :: resto =>
    match canonicalizarRelpathDeScope casefold entrada tipo with
    | .error e => .error (.copia (.relpath tipo e))
    | .ok c => (canonicalizarLote casefold tipo resto).map (c :: ·)

/-- The copy uses no other field. -/
structure FileIdentity where
  relPath : Texto

/-- `sorted(files, key=lambda f: f.rel_path)` -/
def archivosOrdenados (files : List FileIdentity) : List FileIdentity :=
  files.insertionSort fun f g => f.relPath ≤ g.relPath

/-- The canonical paths of the whole batch, of the directories and of the files. -/
def validarLote (casefold : Texto → Texto) (files : List FileIdentity) (directories : List Texto) :
    Except Fallo (List Texto × List Texto) := do
  let canonicosDirectorios ← canonicalizarLote casefold .directorio directories
  let canonicosArchivos ← canonicalizarLote casefold .archivo ((archivosOrdenados files).map (·.relPath))
  match validarCoherenciaDelLote casefold canonicosDirectorios canonicosArchivos with
  | .error e => .error (.copia (.lote e))
  | .ok () => .ok (canonicosDirectorios, canonicosArchivos)

/-- `PurePosixPath(c).parts` of a canonical path. -/
def partes (c : Texto) : List Texto := c.splitOn barra

variable [DecidableEq K]

/-- `if not hijo.is_dir(): hijo.mkdir()` -/
def asegurarDirectorio (hijo : Ruta) : Efecto K Unit := do
  if ← isDir d hijo then pure ()
  else siPuede .sinCrear (mkdir d hijo)

/-- The loop of `_materializar_directorio_del_destino`. -/
def materializa (contenedor : Ruta) : Ruta → List Texto → Efecto K Ruta
  | actual, [] => pure actual
  | actual, componente :: resto => do
    exigirContencionDestino d normcase contenedor actual
    asegurarDirectorio d (actual.une [componente])
    exigirContencionDestino d normcase contenedor (actual.une [componente])
    materializa contenedor (actual.une [componente]) resto

def materializarDirectorioDelDestino (contenedor raizDestino : Ruta) (relDir : List Texto) : Efecto K Ruta := do
  exigirContencionDestino d normcase contenedor raizDestino
  materializa d normcase contenedor raizDestino relDir

def copiarArchivo (origen destino : Ruta) : Efecto K Nat := do
  match ← attempt (lstat d origen) with
  | .error _ => stop (.copia .sinInspeccion)
  | .ok (some .enlace) => stop (.copia .enlace)
  | .ok none => stop (.copia .desaparecido)
  | .ok _ => siPuede .sinCopiar do
    let bytes ← lee d origen
    if ← sameFileIdentity then
      escribe d destino bytes
      pure bytes.length
    else stop (.copia .sinIdentidad)

def copiaDirectorios (contenedor raizDestino : Ruta) : List Texto → Efecto K Unit
  | [] => pure ()
  | directorio :: resto => do
    let _ ← materializarDirectorioDelDestino d normcase contenedor raizDestino (partes directorio)
    copiaDirectorios contenedor raizDestino resto

def copiaArchivos (contenedor raizOrigen raizDestino : Ruta) : Nat → List Texto → Efecto K Nat
  | copiados, [] => pure copiados
  | copiados, relPath :: resto => do
    let _ ← materializarDirectorioDelDestino d normcase contenedor raizDestino (partes relPath).dropLast
    exigirAncestrosDelSource d normcase raizOrigen (raizOrigen.une (partes relPath))
    let _ ← copiarArchivo d (raizOrigen.une (partes relPath)) (raizDestino.une (partes relPath))
    copiaArchivos contenedor raizOrigen raizDestino (copiados + 1) resto

/-- Creates the parent of the destination where there is none. -/
def crearPadre (contenedor padre : Ruta) : Efecto K Unit := do
  if ← existe d padre then pure ()
  else
    exigirNamespaceEscribible d padre.parent
    siPuede .sinCrear (mkdir d padre)
    siCuelga (exigirContencionFisica d normcase contenedor padre true true)

/-- The checks of the parent, and the empty payload. -/
def crearPayload (contenedor origen destino : Ruta) : Efecto K Unit := do
  let exige ← existe d destino.parent
  siCuelga (exigirContencionFisica d normcase contenedor destino.parent true exige)
  crearPadre d normcase contenedor destino.parent
  exigirNamespaceEscribible d destino.parent
  exigirPayloadVacio d destino
  rechazarSiEsEnlace d origen
  siPuede .sinCrear (mkdir d destino)
  siCuelga (exigirContencionFisica d normcase contenedor destino false true)

def copiarArbolIndependiente (casefold : Texto → Texto) (contenedor origen destino : Ruta)
    (files : List FileIdentity) (directories : List Texto) : Efecto K Nat := do
  rechazarSolapamientoOrigenDestino d normcase origen destino
  let lote ← ofExcept (validarLote casefold files directories)
  crearPayload d normcase contenedor origen destino
  siPuede .sinCopiar do
    copiaDirectorios d normcase contenedor destino lote.1
    copiaArchivos d normcase contenedor origen destino 0 lote.2

end IndependentCopy
