import Mathlib.Logic.Function.Basic
import SkyClaw.ConfigValues
import SkyClaw.TransitionRuns

set_option linter.all false

/-!
Any number of `Config` objects over one `config.toml`. A save holds the path's lock
from its read of the file to its end; everything else (assignments, also to the
object being saved, and constructions) happens in between. An exception that
leaves `save` is a step of its own.
-/
namespace ConfigStore
open TransitionRuns

/-- `_DatosConfig`. -/
structure Datos where
  valores : Diccionario
  secuencia : Nat
  generaciones : Clave → Option Nat

def Datos.marcarMutacion (d : Datos) (key : Clave) : Datos :=
  { d with
    secuencia := d.secuencia + 1
    generaciones := Function.update d.generaciones key (some (d.secuencia + 1)) }

def Datos.setItem (d : Datos) (key : Clave) (v : Valor) : Datos :=
  { d with valores := d.valores.insert key v }.marcarMutacion key

def Datos.delItem (d : Datos) (key : Clave) : Datos :=
  { d with valores := d.valores.erase key }.marcarMutacion key

def Datos.update (d : Datos) (nuevos : Diccionario) : Datos :=
  nuevos.keys.foldl Datos.marcarMutacion { d with valores := nuevos ∪ d.valores }

/-- Every mutator is some of these under the lock; a value changed in place marks nothing. -/
inductive Cambio where
  | pone (key : Clave) (v : Valor)
  | quita (key : Clave)
  | dentro (key : Clave) (v : Valor)

/-- Where a construction stands: `hidrata` walks the sensitive keys, `planta` is about to
    store one, `friega` saves to take the stored ones out of the file. -/
inductive Vida where
  | hidrata (resto : List Clave) (migrado : Bool)
  | planta (key : Clave) (plaintext : Valor) (fallo : Bool) (resto : List Clave) (migrado : Bool)
  | friega
  | listo

/-- A `Config`; the ghosts: the keys assigned or deleted since the snapshot of the last
    successful save, those since the snapshot of the save going on, and those whose last
    assignment or deletion never took effect. -/
structure Objeto where
  data : Datos
  baseline : Datos
  secretosPendientes : Clave → Bool
  vida : Vida
  desde : Clave → Bool
  nuevas : Clave → Bool
  viva : Clave → Bool

inductive Archivo where
  | ausente
  | ilegible
  | tabla (d : Diccionario)

/-- What `save` reads: nothing where there is no file, an exception where it cannot be parsed. -/
def Archivo.fresco : Archivo → Option Diccionario
  | .ausente => some ∅
  | .ilegible => none
  | .tabla d => some (plano d)

/-- A save after its snapshot; the ghosts: `desde` and `viva` at the snapshot and the keys
    whose keyring operation failed. -/
structure Guardado where
  fresco : Diccionario
  snapshot : Datos
  clavesMutadas : Clave → Bool
  saveData : Diccionario
  resto : List Clave
  intentadas : Clave → Bool
  vivas : Clave → Bool
  fallidas : Clave → Bool

inductive Fase where
  | leido (fresco : Diccionario)
  | claves (g : Guardado)
  | migra (g : Guardado) (key : Clave) (valArchivo : Valor)

structure Estado where
  archivo : Archivo
  keyring : Clave → Option String
  objetos : Nat → Option Objeto
  cerrojo : Option (Nat × Fase)

inductive Evento where
  | construye (o : Nat) (leyo : Bool)
  | obtiene (o : Nat) (ok : Bool)
  | planta (o : Nat) (ok : Bool)
  | hidratado (o : Nat)
  | muta (o : Nat) (cambios : List Cambio)
  | toma (o : Nat) (leyo : Bool)
  | foto (o : Nat)
  | clave (o : Nat) (ok : Bool)
  | migra (o : Nat) (ok : Bool)
  | reemplaza (o : Nat) (ok : Bool)
  | aborta (o : Nat)

def ninguna : Clave → Bool := fun _ => false

def marcada (m : Clave → Bool) (key : Clave) : Clave → Bool := Function.update m key true

def Objeto.intenta (obj : Objeto) (key : Clave) (d : Datos) : Objeto :=
  { obj with
    data := d
    desde := marcada obj.desde key
    nuevas := marcada obj.nuevas key
    viva := marcada obj.viva key }

def Objeto.cambia (obj : Objeto) : Cambio → Objeto
  | .pone key v => obj.intenta key (obj.data.setItem key v)
  | .quita key =>
    match obj.data.valores.lookup key with
    | some _ => obj.intenta key (obj.data.delItem key)
    | none => obj
  | .dentro key v =>
    match obj.data.valores.lookup key with
    | some _ => { obj with data := { obj.data with valores := obj.data.valores.insert key v } }
    | none => obj

variable (py : Entorno)

def loadDefaults : Diccionario :=
  List.toAList [⟨"mo2_root", .texto ""⟩, ⟨"install_dir", .texto py.moddingRoot⟩, ⟨"loot_exe", .texto ""⟩,
    ⟨"xedit_exe", .texto ""⟩, ⟨"pandora_exe", .texto ""⟩, ⟨"bodyslide_exe", .texto ""⟩,
    ⟨"wrye_bash_exe", .texto ""⟩, ⟨"skyrim_path", .texto ""⟩, ⟨"external_work_root", .texto ""⟩,
    ⟨"llm_provider", .texto "deepseek"⟩, ⟨"llm_model", .texto ""⟩, ⟨"anthropic_model", .texto ""⟩,
    ⟨"deepseek_model", .texto ""⟩, ⟨"openai_model", .texto ""⟩, ⟨"ollama_model", .texto ""⟩,
    ⟨"llm_api_key", .texto ""⟩, ⟨"openai_api_key", .texto ""⟩, ⟨"anthropic_api_key", .texto ""⟩,
    ⟨"deepseek_api_key", .texto ""⟩, ⟨"nexus_api_key", .texto ""⟩, ⟨"search_api_key", .texto ""⟩,
    ⟨"telegram_bot_token", .texto ""⟩, ⟨"telegram_chat_id", .texto ""⟩, ⟨"first_run", .logico true⟩]

/-- `d.get(key)`, kept only if it is true. -/
def Diccionario.cierta (d : Diccionario) (key : Clave) : Option Valor :=
  (d.lookup key).filter Valor.cierto

def migrateLlmModel (d : Datos) : Datos :=
  match d.valores.cierta "llm_model" with
  | none => d
  | some legacy =>
    let provider := py.lower (((d.valores.cierta "llm_provider").map (Valor.str py)).getD "")
    let slot := provider ++ "_model"
    match d.valores.lookup slot with
    | some v => if v.cierto then d else d.setItem slot legacy
    | none => d

/-- `__init__` up to the hydration from the keyring. -/
def construido (leido : Option Diccionario) : Objeto :=
  let d : Datos := ⟨loadDefaults py, 0, fun _ => none⟩
  let d := match leido with
    | some nuevos => d.update nuevos
    | none => d
  let d := migrateLlmModel py d
  { data := d, baseline := d, secretosPendientes := ninguna, vida := .hidrata clavesSensibles false
    desde := ninguna, nuevas := ninguna, viva := ninguna }

/-- The end of `__init__`. -/
def Objeto.alFin (obj : Objeto) : Objeto :=
  { obj with
    baseline := obj.data, vida := .listo, desde := ninguna, nuevas := ninguna, viva := ninguna }

/-- A constructor whose own save ended, one way or the other, goes on to its end. -/
def Objeto.trasGuardar (obj : Objeto) : Objeto :=
  match obj.vida with
  | .friega => obj.alFin
  | _ => obj

def Objeto.guardable (obj : Objeto) : Bool :=
  match obj.vida with
  | .friega | .listo => true
  | _ => false

/-! `save` -/

def clavesMutadas (baseline snapshot : Datos) (key : Clave) : Bool :=
  match snapshot.generaciones key with
  | some g => baseline.generaciones key ≠ some g
  | none => false

/-- `{**fresco, **diff}` without the deleted keys. -/
def mezcla (fresco : Diccionario) (baseline snapshot : Datos) : Diccionario :=
  let mutadas := clavesMutadas baseline snapshot
  let diff := snapshot.valores.filtra mutadas
  let borrada (key : Clave) : Bool :=
    ((baseline.valores.lookup key).isSome || mutadas key) && (snapshot.valores.lookup key).isNone
  Diccionario.filtra (diff ∪ fresco) fun key => !borrada key

def empieza (fresco : Diccionario) (obj : Objeto) : Guardado :=
  { fresco := fresco
    snapshot := obj.data
    clavesMutadas := clavesMutadas obj.baseline obj.data
    saveData := mezcla fresco obj.baseline obj.data
    resto := clavesSensibles
    intentadas := obj.desde
    vivas := obj.viva
    fallidas := ninguna }

def Guardado.guarda (g : Guardado) (key : Clave) : Option Valor → Guardado
  | some v => { g with saveData := g.saveData.insert key v }
  | none => g

def Guardado.falla (g : Guardado) (key : Clave) : Guardado :=
  { g with fallidas := marcada g.fallidas key }

/-- The turn of `key` begins. -/
def Guardado.salta (g : Guardado) (key : Clave) (resto : List Clave) : Guardado :=
  { g with saveData := g.saveData.erase key, resto := resto }

/-- The keyring's entry, if it is not empty. -/
def Estado.vivo (s : Estado) (key : Clave) : Option String := (s.keyring key).filter (· ≠ "")

def Estado.pone (s : Estado) (o : Nat) (obj : Objeto) : Estado :=
  { s with objetos := Function.update s.objetos o (some obj) }

/-- What becomes of one sensitive key: the keyring, the object's pending intents, the save. -/
structure Tramite where
  keyring : Clave → Option String
  pendientes : Clave → Bool
  fase : Fase

/-- One turn of the loop over the sensitive keys, up to its first keyring operation. -/
def tramita (s : Estado) (obj : Objeto) (g : Guardado) (key : Clave) (resto : List Clave) (ok : Bool) :
    Tramite :=
  let valArchivo := g.fresco.cierta key
  if g.clavesMutadas key || obj.secretosPendientes key then
    match g.snapshot.valores.cierta key, ok with
    | some v, true => { keyring := Function.update s.keyring key (some (v.str py))
                        pendientes := Function.update obj.secretosPendientes key false
                        fase := .claves (g.salta key resto) }
    | some _, false => { keyring := s.keyring
                         pendientes := Function.update obj.secretosPendientes key true
                         fase := .claves (((g.salta key resto).falla key).guarda key valArchivo) }
    | none, true => { keyring := Function.update s.keyring key none
                      pendientes := Function.update obj.secretosPendientes key false
                      fase := .claves (g.salta key resto) }
    | none, false => { keyring := s.keyring
                       pendientes := Function.update obj.secretosPendientes key true
                       fase := .claves ((g.salta key resto).falla key) }
  else
    { keyring := s.keyring
      pendientes := obj.secretosPendientes
      fase :=
        if (g.snapshot.valores.cierta key).isNone && valArchivo.isNone then .claves (g.salta key resto)
        else if ok then
          match s.vivo key, valArchivo with
          | none, some v => .migra (g.salta key resto) key v
          | _, _ => .claves (g.salta key resto)
        else .claves (((g.salta key resto).falla key).guarda key valArchivo) }

/-! The effective secret -/

def Archivo.plaintext (a : Archivo) (key : Clave) : Option Valor := a.fresco.bind (·.cierta key)

/-- What the keyring has, if it is not empty, and otherwise the plaintext in the file. -/
def Estado.efectivo (s : Estado) (key : Clave) : Option String :=
  (s.vivo key).or ((s.archivo.plaintext key).map (Valor.str py))

/-- What the object wants the secret to be. -/
def Guardado.querido (g : Guardado) (key : Clave) : Option String :=
  (g.snapshot.valores.cierta key).map (Valor.str py)

/-- The object after a save that took its snapshot; `efectivo` as the save leaves it. -/
def Objeto.cierra (obj : Objeto) (g : Guardado) (efectivo : Clave → Option String) : Objeto :=
  { obj with viva := fun key => obj.nuevas key || g.vivas key && decide (efectivo key ≠ g.querido py key) }

def Fase.guardado : Fase → Option Guardado
  | .leido _ => none
  | .claves g | .migra g _ _ => some g

/-- The end of a save by an exception. -/
def Estado.suelta (s : Estado) (o : Nat) (obj : Objeto) (fase : Fase) : Estado :=
  let obj := match fase.guardado with
    | some g => obj.cierra py g (s.efectivo py)
    | none => obj
  { s.pone o obj.trasGuardar with cerrojo := none }

def step (s : Estado) : Evento → Option Estado
  | .construye o leyo =>
    match s.objetos o with
    | some _ => none
    | none =>
      let leido := match s.archivo with
        | .tabla d => if leyo then some (plano d) else none
        | _ => none
      some (s.pone o (construido py leido))
  | .obtiene o ok =>
    match s.objetos o with
    | some obj =>
      match obj.vida with
      | .hidrata (key :: resto) migrado =>
        let plaintext := obj.data.valores.cierta key
        match if ok then s.vivo key else none, plaintext with
        | some stored, _ => some (s.pone o { obj with
            data := obj.data.setItem key (.texto stored)
            vida := .hidrata resto (migrado || plaintext.any (·.esTexto stored)) })
        | none, some v => some (s.pone o { obj with vida := .planta key v (!ok) resto migrado })
        | none, none => some (s.pone o { obj with vida := .hidrata resto migrado })
      | _ => none
    | none => none
  | .planta o ok =>
    match s.objetos o with
    | some obj =>
      match obj.vida with
      | .planta key v _ resto migrado =>
        let t := s.pone o { obj with vida := .hidrata resto (migrado || ok) }
        some (if ok then { t with keyring := Function.update s.keyring key (some (v.str py)) } else t)
      | _ => none
    | none => none
  | .hidratado o =>
    match s.objetos o with
    | some obj =>
      match obj.vida with
      | .hidrata [] true => some (s.pone o { obj.alFin with vida := .friega })
      | .hidrata [] false => some (s.pone o obj.alFin)
      | _ => none
    | none => none
  | .muta o cambios =>
    match s.objetos o with
    | some obj =>
      match obj.vida with
      | .listo => some (s.pone o (cambios.foldl Objeto.cambia obj))
      | _ => none
    | none => none
  | .toma o leyo =>
    match s.cerrojo, s.objetos o with
    | none, some obj =>
      if obj.guardable then
        match if leyo then s.archivo.fresco else none with
        | some fresco => some { s with cerrojo := some (o, .leido fresco) }
        | none => some (s.pone o obj.trasGuardar)
      else none
    | _, _ => none
  | .foto o =>
    match s.cerrojo, s.objetos o with
    | some (p, .leido fresco), some obj =>
      if p = o then
        some { s.pone o { obj with nuevas := ninguna } with
          cerrojo := some (o, .claves (empieza fresco obj)) }
      else none
    | _, _ => none
  | .clave o ok =>
    match s.cerrojo, s.objetos o with
    | some (p, .claves g), some obj =>
      match g.resto with
      | key :: resto =>
        if p = o then
          let hecho := tramita py s obj g key resto ok
          some { s.pone o { obj with secretosPendientes := hecho.pendientes } with
            keyring := hecho.keyring
            cerrojo := some (o, hecho.fase) }
        else none
      | [] => none
    | _, _ => none
  | .migra o ok =>
    match s.cerrojo with
    | some (p, .migra g key v) =>
      if p = o then
        if ok then some { s with
          keyring := Function.update s.keyring key (some (v.str py))
          cerrojo := some (o, .claves g) }
        else some { s with cerrojo := some (o, .claves ((g.falla key).guarda key (some v))) }
      else none
    | _ => none
  | .reemplaza o ok =>
    match s.cerrojo, s.objetos o with
    | some (p, .claves g), some obj =>
      match g.resto with
      | [] =>
        if p = o then
          if ok then
            let s := { s with archivo := .tabla g.saveData }
            let obj := { obj.cierra py g (s.efectivo py) with baseline := g.snapshot, desde := obj.nuevas }
            some { s.pone o obj.trasGuardar with cerrojo := none }
          else some (s.suelta py o obj (.claves g))
        else none
      | _ :: _ => none
    | _, _ => none
  | .aborta o =>
    match s.cerrojo, s.objetos o with
    | some (p, fase), some obj => if p = o then some (s.suelta py o obj fase) else none
    | _, _ => none

/-- Any file and any keyring, and no object yet. -/
structure Inicial (s : Estado) : Prop where
  objetos : ∀ o, s.objetos o = none
  cerrojo : s.cerrojo = none

end ConfigStore
