import SkyClaw.JsonText
import SkyClaw.TrimmedText

set_option linter.all false

/-!
`state/active.json`: the two schemas, the strict reader and the writers. A write is cut
where the new document takes the place of the old one.
-/
namespace FrozenState
open Utf8Text JsonText

abbrev Bytes := List UInt8

/-- The families of exceptions; `valor` stands for those of the language. -/
inductive Error where
  | lock
  | storage
  | stateCas
  | stateCorrupt
  | stateSchema
  | invalidGenerationId
  | invalidCloneId
  | valor
  deriving DecidableEq

/-! Identifiers -/

variable (casefold : Text → Text)

def isspace : CodePoint → Bool
  | .scalar c => TrimmedText.isspace c
  | .surrogate _ => false

def enClase (clase : Char → Bool) : CodePoint → Bool
  | .scalar c => clase c
  | .surrogate _ => false

/-- `[a-z0-9]` -/
def esAlnum : CodePoint → Bool := enClase fun c => ('a' ≤ c && c ≤ 'z') || ('0' ≤ c && c ≤ '9')

/-- `[0-9a-f]` -/
def esHex : CodePoint → Bool := enClase fun c => ('a' ≤ c && c ≤ 'f') || ('0' ≤ c && c ≤ '9')

/-- `[a-z0-9]+(?:\.[a-z0-9]+)*`, after a letter or digit or not. -/
def esDisplay : Bool → Text → Bool
  | tras, [] => tras
  | tras, p :: t =>
    if esAlnum p then esDisplay true t else tras && p = .scalar '.' && esDisplay false t

/-- `GENERATION_ID_PATTERN` -/
def generationIdPattern (t : Text) : Bool :=
  let display := t.take (t.length - 14)
  let digest := t.drop (t.length - 14)
  14 ≤ t.length && esDisplay false display && digest.take 2 = lit "__" && (digest.drop 2).all esHex

def reservadosWindows : List Text :=
  ["con", "prn", "aux", "nul", "com1", "com2", "com3", "com4", "com5", "com6", "com7", "com8", "com9",
    "lpt1", "lpt2", "lpt3", "lpt4", "lpt5", "lpt6", "lpt7", "lpt8", "lpt9"].map lit

/-- Whether what stands before the first separator is a reserved name. -/
def tokenReservado (separadores : List Char) (t : Text) : Bool :=
  reservadosWindows.contains (t.takeWhile fun p => !enClase (separadores.contains ·) p)

def validarGenerationId (generationId : Text) : Except Error Text :=
  if generationId = [] then .error .invalidGenerationId
  else if generationId ≠ TrimmedText.strip isspace generationId then .error .invalidGenerationId
  else
    let normalized := casefold generationId
    if !generationIdPattern normalized then .error .invalidGenerationId
    else if tokenReservado ['.', '_'] normalized then .error .invalidGenerationId
    else .ok normalized

/-- `CLONE_ID_PATTERN` -/
def cloneIdPattern (t : Text) : Bool :=
  t.all (fun p => esAlnum p || enClase ['.', '_', '-'].contains p) && t.head?.any esAlnum &&
    t.getLast?.any esAlnum

def validarCloneId (cloneId : Text) : Except Error Text :=
  if cloneId = [] then .error .invalidCloneId
  else if cloneId ≠ TrimmedText.strip isspace cloneId then .error .invalidCloneId
  else if 128 < cloneId.length then .error .invalidCloneId
  else if cloneId.tails.any (lit "..").isPrefixOf || cloneId.any (enClase ['/', '\\', ':'].contains) then
    .error .invalidCloneId
  else
    let normalized := casefold cloneId
    if !cloneIdPattern normalized then .error .invalidCloneId
    else if tokenReservado ['.', '_', '-'] normalized then .error .invalidCloneId
    else .ok normalized

/-! The state -/

structure FrozenRuntimeState where
  schemaVersion : Int
  desiredActiveGeneration : Option Text
  updatedAtNs : Int
  desiredCloneId : Option Text
  deriving DecidableEq

def schemaVersionsSoportados : List Int := [1, 2]

/-- An identifier that may be null. -/
def idONull (valida : Text → Except Error Text) : Json → Except Error (Option Text)
  | .null => .ok none
  | .str t => (valida t).map some
  | _ => .error .stateSchema

def parsearV1 (data : Json) (actualizado : Int) : Except Error FrozenRuntimeState :=
  match data.get "desired_active_generation" with
  | none => .error .stateSchema
  | some deseado =>
    if (data.get "desired_clone_id").isSome then .error .stateSchema
    else (idONull (validarGenerationId casefold) deseado).map fun g => ⟨1, g, actualizado, none⟩

def esNull : Json → Bool
  | .null => true
  | _ => false

def parsearV2 (data : Json) (actualizado : Int) : Except Error FrozenRuntimeState :=
  match data.get "desired_generation_id", data.get "desired_clone_id" with
  | some genIdRaw, some cloneIdRaw =>
    if (data.get "desired_active_generation").isSome then .error .stateSchema
    else if esNull genIdRaw ≠ esNull cloneIdRaw then .error .stateSchema
    else
      (idONull (validarGenerationId casefold) genIdRaw).bind fun g =>
        (idONull (validarCloneId casefold) cloneIdRaw).map fun c => ⟨2, g, actualizado, c⟩
  | _, _ => .error .stateSchema

/-- `_parsear_estado` after `json.loads`. -/
def parsearEstado (data : Json) : Except Error FrozenRuntimeState :=
  match data with
  | .obj _ =>
    match data.get "schema_version" with
    | some (.int schema) =>
      if schema ∉ schemaVersionsSoportados then .error .stateSchema
      else match data.get "updated_at_ns" with
        | some (.int actualizado) =>
          if actualizado < 0 then .error .stateSchema
          else if schema = 1 then parsearV1 casefold data actualizado
          else parsearV2 casefold data actualizado
        | _ => .error .stateSchema
    | _ => .error .stateSchema
  | _ => .error .stateCorrupt

/-- The document of a file that is there: not UTF-8, empty, malformed and what the parser rejects. -/
def cargar (raw : Bytes) : Except Error FrozenRuntimeState :=
  match loads raw with
  | none => .error .stateCorrupt
  | some data => parsearEstado casefold data

/-! Writing -/

mutual
/-- No integer has more digits than are converted. -/
def cabe : Json → Bool
  | .int n => (Nat.toDigits 10 n.natAbs).length ≤ maxDigits
  | .arr items => cabenItems items
  | .obj members => cabenMembers members
  | _ => true

def cabenItems : List Json → Bool
  | [] => true
  | v :: items => cabe v && cabenItems items

def cabenMembers : List (Text × Json) → Bool
  | [] => true
  | (_, v) :: members => cabe v && cabenMembers members
end

/-- `_parsear_estado(json.dumps(payload))`. Two surrogates that make one character come
back as it, but no field of a state admits either. -/
def validarForma (payload : Json) : Except Error FrozenRuntimeState :=
  if cabe payload then parsearEstado casefold payload else .error .valor

/-- Where a call can fail by itself. `carga` and `recarga` are the inspection and the
second reading of the file, `suelta` the release of the lock. -/
inductive Paso where
  | candado
  | lectura
  | carga
  | espacio
  | temporal
  | escritura
  | reemplazo
  | relectura
  | recarga
  | suelta
  deriving DecidableEq

/-- How floats are written, and the layout of `indent=2` on the platform. -/
structure Escritor where
  flotante : List Char → Bool
  formato : Layout

/-- `write_json_atomic` up to `os.replace`: the document that it publishes. -/
def writeJsonAtomic (w : Escritor) (falla : Paso → Bool) (payload : Json) : Except Error Bytes :=
  if falla .espacio then .error .storage
  else if falla .temporal then .error .storage
  else match dumpsWith w.flotante w.formato payload with
    | none => .error .valor
    | some raw => if falla .escritura || falla .reemplazo then .error .valor else .ok raw

structure EstadoPrevioObservado (Hash : Type) where
  ausente : Bool
  sha256 : Option Hash
  generationId : Option Text
  cloneId : Option Text
  deriving DecidableEq

variable {Hash : Type} (sha256 : Bytes → Hash)

/-- The second half of `observar_estado_previo`: the bytes read before and the file now. -/
def terminaObservacion (fallaCarga : Bool) (crudo actual : Option Bytes) :
    Except Error (EstadoPrevioObservado Hash) :=
  match crudo with
  | none => .ok ⟨true, none, none, none⟩
  | some raw =>
    if fallaCarga then .error .stateCorrupt
    else match actual with
      | none => .ok ⟨false, some (sha256 raw), none, none⟩
      | some ahora => (cargar casefold ahora).map fun estado =>
          ⟨false, some (sha256 raw), estado.desiredActiveGeneration, estado.desiredCloneId⟩

def observarEstadoPrevio (fallaLectura fallaCarga : Bool) (doc : Option Bytes) :
    Except Error (EstadoPrevioObservado Hash) :=
  if fallaLectura then .error .storage else terminaObservacion casefold sha256 fallaCarga doc doc

/-- The fields of a state in a payload. -/
def payloadDe (state : FrozenRuntimeState) : Json :=
  let idJson (t : Option Text) : Json := (t.map Json.str).getD .null
  if state.schemaVersion = 2 then
    record [("schema_version", .int 2), ("desired_generation_id", idJson state.desiredActiveGeneration),
      ("desired_clone_id", idJson state.desiredCloneId), ("updated_at_ns", .int state.updatedAtNs)]
  else
    record [("schema_version", .int 1),
      ("desired_active_generation", idJson state.desiredActiveGeneration),
      ("updated_at_ns", .int state.updatedAtNs)]

/-- `save_frozen_runtime_state`: its result and the document after it. -/
def saveFrozenRuntimeState (w : Escritor) (falla : Paso → Bool) (doc : Option Bytes)
    (state : FrozenRuntimeState) : Except Error Unit × Option Bytes :=
  if falla .candado then (.error .lock, doc)
  else if state.schemaVersion ∉ schemaVersionsSoportados then (.error .stateSchema, doc)
  else if state.schemaVersion = 1 ∧ state.desiredCloneId ≠ none then (.error .stateSchema, doc)
  else match validarForma casefold (payloadDe state) with
    | .error e => (.error e, doc)
    | .ok _ =>
      match writeJsonAtomic w falla (payloadDe state) with
      | .error e => (.error e, doc)
      | .ok raw => (if falla .suelta then .error .lock else .ok (), some raw)

/-- Whether an identifier is the value of a field, `None` for a null one. -/
def coincide (t : Option Text) : Json → Bool
  | .null => t = none
  | .str u => t = some u
  | _ => false

def generacionNueva (payload : Json) : Json :=
  (payload.get "desired_generation_id").getD ((payload.get "desired_active_generation").getD .null)

def cloneNuevo (payload : Json) : Json := (payload.get "desired_clone_id").getD .null

variable [DecidableEq Hash]

/-- `_escribir_estado_activo_cas_locked` up to `os.replace`. -/
def casAntes (w : Escritor) (falla : Paso → Bool) (doc : Option Bytes) (payload : Json)
    (esperado : EstadoPrevioObservado Hash) : Except Error Bytes :=
  match validarForma casefold payload with
  | .error e => .error e
  | .ok _ =>
    match observarEstadoPrevio casefold sha256 (falla .lectura) (falla .carga) doc with
    | .error e => .error e
    | .ok actual =>
      if actual.ausente ≠ esperado.ausente then .error .stateCas
      else if actual.sha256 ≠ esperado.sha256 then .error .stateCas
      else if actual.generationId ≠ esperado.generationId ∨ actual.cloneId ≠ esperado.cloneId then
        .error .stateCas
      else writeJsonAtomic w falla payload

/-- And after it: what is written is read again. -/
def casDespues (falla : Paso → Bool) (raw : Bytes) (payload : Json) :
    Except Error (EstadoPrevioObservado Hash) :=
  match observarEstadoPrevio casefold sha256 (falla .relectura) (falla .recarga) (some raw) with
  | .error e => .error e
  | .ok despues =>
    if coincide despues.generationId (generacionNueva payload) &&
        coincide despues.cloneId (cloneNuevo payload) then .ok despues
    else .error .storage

/-- `escribir_estado_activo_cas`: its result and the document after it. -/
def escribirEstadoActivoCas (w : Escritor) (falla : Paso → Bool) (doc : Option Bytes) (payload : Json)
    (esperado : EstadoPrevioObservado Hash) : Except Error (EstadoPrevioObservado Hash) × Option Bytes :=
  if falla .candado then (.error .lock, doc)
  else match casAntes casefold sha256 w falla doc payload esperado with
    | .error e => (.error e, doc)
    | .ok raw =>
      (if falla .suelta then .error .lock else casDespues casefold sha256 falla raw payload, some raw)

end FrozenState
