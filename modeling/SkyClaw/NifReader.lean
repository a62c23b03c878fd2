import Mathlib
import SkyClaw.ByteCursors
import SkyClaw.Checks

set_option linter.all false

/-!
The reader of the materials of a NIF, `local/assets/nif_materiales.py`: each block
is read in the zone that the table of sizes gives it, from bytes nobody vouches for.
-/
namespace NifMateriales
open ByteCursors Checks

local instance lawfulBEq_nombre : LawfulBEq (List Char) := inferInstance

abbrev Texto := List Char

/-- `decode("latin-1")` -/
def latin1 (bruto : Bytes) : Texto := bruto.map fun b => Char.ofNat b.toNat

/-- The messages of `NifError`. -/
inductive NifError where
  | datosInsuficientes (contexto : Texto)
  | textoDeLongitudInvalida (contexto : Texto) (longitud : Nat)
  | noEsUnNif
  | version
  | endian
  | bloques (cantidad : Nat)
  | bethesda (versionBs : Nat)
  | tipo (indice cantidad : Nat)
  | bloquesSePasan
  | referencia (valor : Int) (cantidad : Nat)
  | texto (indice : Int) (cantidad : Nat)
  | ranuras (contexto : Texto) (cantidad : Nat)
  | alfaApuntaA (tipo : Texto)
  | juegoApuntaA (tipo : Texto)
  deriving DecidableEq

structure FormaDeNif where
  tipoDeBloque : Texto
  nombre : Texto
  propiedadDeShader : Option Texto
  tipoDeShader : Option Nat
  flags1 : Option Nat
  flags2 : Option Nat
  tienePropiedadDeAlfa : Bool
  texturas : Option (List Texto)
  deriving DecidableEq

structure LecturaDeNif where
  versionBs : Nat
  formas : List FormaDeNif
  formasNoSoportadas : List Texto
  juegosDeLasFormasNoSoportadas : Option (List (List Texto))
  deriving DecidableEq

def TOPE_DE_BLOQUES : Nat := 100000

def TOPE_DE_RANURAS_DE_TEXTURAS : Nat := 16

def LONGITUD_MAXIMA_DE_TEXTO : Nat := 4096

/-- `Gamebryo File Format, Version 20.2.0.7` and the line end. -/
def CABECERA : Bytes :=
  [0x47, 0x61, 0x6d, 0x65, 0x62, 0x72, 0x79, 0x6f, 0x20, 0x46, 0x69, 0x6c, 0x65, 0x20, 0x46, 0x6f, 0x72,
    0x6d, 0x61, 0x74, 0x2c, 0x20, 0x56, 0x65, 0x72, 0x73, 0x69, 0x6f, 0x6e, 0x20, 0x32, 0x30, 0x2e, 0x32,
    0x2e, 0x30, 0x2e, 0x37, 0x0a]

def VERSION : Nat := 0x14020007

def VERSIONES_DE_BETHESDA : List Nat := [83, 100]

def FORMAS_BS : List Texto :=
  ["BSTriShape".toList, "BSSubIndexTriShape".toList, "BSDynamicTriShape".toList]

def FORMAS_NI : List Texto :=
  ["NiTriShape".toList, "NiTriStrips".toList, "BSLODTriShape".toList, "BSSegmentedTriShape".toList]

def SHADER_DE_ILUMINACION : Texto := "BSLightingShaderProperty".toList

def JUEGO_DE_TEXTURAS : Texto := "BSShaderTextureSet".toList

def PROPIEDAD_DE_ALFA : Texto := "NiAlphaProperty".toList

def GEOMETRIA_NO_SOPORTADA_DE_LA_ESPECIFICACION : List Texto :=
  ["BSMeshLODTriShape".toList, "BSStripParticleSystem".toList, "NiAutoNormalParticles".toList,
    "NiClod".toList, "NiLines".toList, "NiMeshParticleSystem".toList, "NiParticleMeshes".toList,
    "NiParticleSystem".toList, "NiParticles".toList, "NiRotatingParticles".toList,
    "NiScreenElements".toList]

def PREFIJOS_DE_GEOMETRIA_NO_SOPORTADA : List Texto := ["NiParticle".toList, "BSStripParticle".toList]

def SUFIJOS_DE_GEOMETRIA_NO_SOPORTADA : List Texto := ["TriShape".toList, "TriStrips".toList]

/-! `_Lector`; its context is a parameter -/

abbrev Lector (α : Type) := Reader NifError α

section
variable (contexto : Texto)

def u8 : Lector Nat := number 1 (.datosInsuficientes contexto)

def u16 : Lector Nat := number 2 (.datosInsuficientes contexto)

def u32 : Lector Nat := number 4 (.datosInsuficientes contexto)

/-- The number of the two's complement of 32 bits. -/
def conSigno (n : Nat) : Int := if n < 2 ^ 31 then n else (n : Int) - 2 ^ 32

def i32 : Lector Int := do
  let n ← number 4 (.datosInsuficientes contexto)
  return conSigno n

def saltar (cantidad : Nat) : Lector Unit := pass cantidad (.datosInsuficientes contexto)

def texto (longitud : Nat) : Lector Texto := do
  let bruto ← piece longitud LONGITUD_MAXIMA_DE_TEXTO (.textoDeLongitudInvalida contexto longitud)
  return latin1 bruto

/-- `lector.texto(lector.u32())` -/
def textoContado : Lector Texto := do
  let longitud ← u32 contexto
  texto contexto longitud

/-! The blocks -/

def saltarNiavobject : Lector Int := do
  let nombre ← i32 contexto
  let extra ← u32 contexto
  saltar contexto (extra * 4)
  saltar contexto 4
  saltar contexto (4 + 12 + 36 + 4 + 4)
  return nombre

/-- The name, the shader and the alpha property of a shape. -/
def leerFormaBs : Lector (Int × Int × Int) := do
  let nombre ← saltarNiavobject contexto
  saltar contexto (16 + 4)
  let shader ← i32 contexto
  let alfa ← i32 contexto
  return (nombre, shader, alfa)

def leerFormaNi : Lector (Int × Int × Int) := do
  let nombre ← saltarNiavobject contexto
  saltar contexto (4 + 4)
  let materiales ← u32 contexto
  saltar contexto (materiales * 8)
  saltar contexto (4 + 1)
  let shader ← i32 contexto
  let alfa ← i32 contexto
  return (nombre, shader, alfa)

structure Iluminacion where
  tipo : Nat
  flags1 : Nat
  flags2 : Nat
  juego : Int
  deriving DecidableEq

def leerShaderDeIluminacion : Lector Iluminacion := do
  let tipo ← u32 contexto
  saltar contexto 4
  let extra ← u32 contexto
  saltar contexto (extra * 4)
  saltar contexto 4
  let flags1 ← u32 contexto
  let flags2 ← u32 contexto
  saltar contexto (8 + 8)
  let juego ← i32 contexto
  return ⟨tipo, flags1, flags2, juego⟩

def leerJuegoDeTexturas : Lector (List Texto) := do
  let cantidad ← u32 contexto
  check (cantidad ≤ TOPE_DE_RANURAS_DE_TEXTURAS) (.ranuras contexto cantidad)
  times cantidad (textoContado contexto)

end

/-! The header -/

structure Campos where
  versionBs : Nat
  tipos : List Texto
  tamanos : List Nat
  textos : List Texto
  deriving DecidableEq

def contextoDeCabecera : Texto := "cabecera".toList

/-- The type of one block; the high bit marks the blocks of PhysX. -/
def tipoDeBloque (nombresDeTipos : List Texto) : Lector Texto := do
  let n ← u16 contextoDeCabecera
  let indice := n &&& 0x7FFF
  match nombresDeTipos[indice]? with
  | some t => pure t
  | none => fail (.tipo indice nombresDeTipos.length)

/-- The fields between the first line and the blocks. -/
def camposDeCabecera : Lector Campos := do
  let version ← u32 contextoDeCabecera
  check (version = VERSION) .version
  let endian ← u8 contextoDeCabecera
  check (endian = 1) .endian
  let _usuario ← u32 contextoDeCabecera
  let cantidadDeBloques ← u32 contextoDeCabecera
  check (cantidadDeBloques ≤ TOPE_DE_BLOQUES) (.bloques cantidadDeBloques)
  let versionBs ← u32 contextoDeCabecera
  check (versionBs ∈ VERSIONES_DE_BETHESDA) (.bethesda versionBs)
  let _exportacion ← times 3 (do
    let n ← u8 contextoDeCabecera
    saltar contextoDeCabecera n)
  let cantidadDeTipos ← u16 contextoDeCabecera
  let nombresDeTipos ← times cantidadDeTipos (textoContado contextoDeCabecera)
  let tipos ← times cantidadDeBloques (tipoDeBloque nombresDeTipos)
  let tamanos ← times cantidadDeBloques (u32 contextoDeCabecera)
  let cantidadDeTextos ← u32 contextoDeCabecera
  let _longitudMaxima ← u32 contextoDeCabecera
  let textos ← times cantidadDeTextos (textoContado contextoDeCabecera)
  let grupos ← u32 contextoDeCabecera
  let _grupos ← times grupos (u32 contextoDeCabecera)
  return ⟨versionBs, tipos, tamanos, textos⟩

abbrev Hecho (α : Type) := Except (Fault NifError) α

/-- The fields, and where the blocks start. -/
def leerCabecera (datos : Bytes) : Hecho (Campos × Nat) := do
  require (CABECERA <+: datos) (.declared .noEsUnNif)
  let (campos, lector) ← camposDeCabecera ⟨datos, CABECERA.length, datos.length⟩
  let inicioDeBloques := datos.length - (lector.stop - lector.position)
  require (campos.tamanos.sum ≤ datos.length - inicioDeBloques) (.declared .bloquesSePasan)
  return (campos, inicioDeBloques)

/-! The materials -/

/-- `l[i]`, an `IndexError` when there is none. -/
def indexar {α : Type} (l : List α) (i : Nat) : Hecho α := present .foreign l[i]?

def referencia (valor : Int) (cantidadDeBloques : Nat) : Hecho (Option Nat) :=
  if valor = -1 then .ok none
  else if 0 ≤ valor ∧ valor < cantidadDeBloques then .ok (some valor.toNat)
  else .error (.declared (.referencia valor cantidadDeBloques))

def textoDeLaTabla (indice : Int) (textos : List Texto) : Hecho Texto :=
  if indice = -1 then .ok []
  else if 0 ≤ indice ∧ indice < textos.length then indexar textos indice.toNat
  else .error (.declared (.texto indice textos.length))

def esGeometriaNoSoportada (tipo : Texto) : Bool :=
  tipo ∉ FORMAS_BS && tipo ∉ FORMAS_NI &&
    (tipo ∈ GEOMETRIA_NO_SOPORTADA_DE_LA_ESPECIFICACION ||
      SUFIJOS_DE_GEOMETRIA_NO_SOPORTADA.any (·.isSuffixOf tipo) ||
      PREFIJOS_DE_GEOMETRIA_NO_SOPORTADA.any (·.isPrefixOf tipo))

/-- The zones of the blocks, one after the other. -/
def zonas : Nat → List Nat → List (Nat × Nat)
  | _, [] => []
  | posicion, tamano :: tamanos => (posicion, posicion + tamano) :: zonas (posicion + tamano) tamanos

/-- `lector_de` -/
abbrev Apertura := Nat → Hecho Cursor

def lectorDe (datos : Bytes) (zonas : List (Nat × Nat)) : Apertura := fun indice => do
  let (desde, hasta) ← indexar zonas indice
  return ⟨datos, desde, hasta⟩

/-- What a reader gives at the start of a block. -/
def enBloque {α : Type} (lectorDe : Apertura) (indice : Nat) (lee : Lector α) : Hecho α := do
  let lector ← lectorDe indice
  let (a, _) ← lee lector
  return a

section
variable (tipos textos : List Texto) (lectorDe : Apertura)

def shaderDe : Option Nat → Hecho (Option Texto × Option Iluminacion)
  | none => .ok (none, none)
  | some r => do
    let tipo ← indexar tipos r
    if tipo ≠ SHADER_DE_ILUMINACION then return (some tipo, none)
    let iluminacion ← enBloque lectorDe r (leerShaderDeIluminacion tipo)
    return (some tipo, some iluminacion)

/-- The texture set that a lighting property names. -/
def texturasDe (iluminacion : Iluminacion) : Hecho (Option (List Texto)) := do
  match ← referencia iluminacion.juego tipos.length with
  | none => return none
  | some j =>
    let tipo ← indexar tipos j
    require (tipo = JUEGO_DE_TEXTURAS) (.declared (.juegoApuntaA tipo))
    let texturas ← enBloque lectorDe j (leerJuegoDeTexturas tipo)
    return some texturas

/-- Only a property of alpha may be named as one. -/
def exigeAlfa : Option Nat → Hecho Unit
  | none => .ok ()
  | some a => do
    let tipo ← indexar tipos a
    require (tipo = PROPIEDAD_DE_ALFA) (.declared (.alfaApuntaA tipo))

def iluminada : Option Iluminacion → Hecho (Option (List Texto))
  | none => .ok none
  | some i => texturasDe tipos lectorDe i

/-- The shape that a block with these fields is. -/
def formaCon (tipo : Texto) (campos : Int × Int × Int) : Hecho FormaDeNif := do
  let referenciaDeShader ← referencia campos.2.1 tipos.length
  let referenciaDeAlfa ← referencia campos.2.2 tipos.length
  exigeAlfa tipos referenciaDeAlfa
  let (propiedad, iluminacion) ← shaderDe tipos lectorDe referenciaDeShader
  let texturas ← iluminada tipos lectorDe iluminacion
  let nombre ← textoDeLaTabla campos.1 textos
  return {
    tipoDeBloque := tipo
    nombre
    propiedadDeShader := propiedad
    tipoDeShader := iluminacion.map (·.tipo)
    flags1 := iluminacion.map (·.flags1)
    flags2 := iluminacion.map (·.flags2)
    tienePropiedadDeAlfa := referenciaDeAlfa.isSome
    texturas }

/-- One round of the loop over the blocks; most are no shapes. -/
def formaDe (bloque : Texto × Nat) : Hecho (Option FormaDeNif) := do
  if bloque.1 ∈ FORMAS_BS then
    let campos ← enBloque lectorDe bloque.2 (leerFormaBs bloque.1)
    let forma ← formaCon tipos textos lectorDe bloque.1 campos
    return some forma
  else if bloque.1 ∈ FORMAS_NI then
    let campos ← enBloque lectorDe bloque.2 (leerFormaNi bloque.1)
    let forma ← formaCon tipos textos lectorDe bloque.1 campos
    return some forma
  else return none

/-- `_juegos_de_texturas_del_archivo`: nothing when one of them cannot be read. -/
def juegosDeTexturasDelArchivo : Hecho (Option (List (List Texto))) :=
  match (tipos.zipIdx.filter (·.1 = JUEGO_DE_TEXTURAS)).mapM fun b =>
      enBloque lectorDe b.2 (leerJuegoDeTexturas b.1) with
  | .ok juegos => .ok (some juegos)
  | .error (.declared _) => .ok none
  | .error .foreign => .error .foreign

/-- `sorted` of the set of the types. -/
def noSoportadas : List Texto := (tipos.filter esGeometriaNoSoportada).dedup.mergeSort (· ≤ ·)

/-- `_juegos_de_texturas_del_archivo(tipos, lector_de) if no_soportadas else ()` -/
def juegosDeLasNoSoportadas : Hecho (Option (List (List Texto))) :=
  if noSoportadas tipos ≠ [] then juegosDeTexturasDelArchivo tipos lectorDe else .ok (some [])

/-- `leer_materiales` after the header. -/
def materiales (versionBs : Nat) : Hecho LecturaDeNif := do
  let formas ← tipos.zipIdx.mapM (formaDe tipos textos lectorDe)
  let juegos ← juegosDeLasNoSoportadas tipos lectorDe
  return {
    versionBs
    formas := formas.filterMap id
    formasNoSoportadas := noSoportadas tipos
    juegosDeLasFormasNoSoportadas := juegos }

end

def leerMateriales (datos : Bytes) : Hecho LecturaDeNif := do
  let (campos, inicio) ← leerCabecera datos
  materiales campos.tipos campos.textos (lectorDe datos (zonas inicio campos.tamanos)) campos.versionBs

/-! Each reader keeps to its zone -/

section
variable (contexto : Texto)

theorem local_i32 : Local (i32 contexto) := (Local.number _ _).bind fun _ => .pure _

theorem local_textoContado : Local (textoContado contexto) :=
  (Local.number _ _).bind fun _ => (Local.piece _ _ _).bind fun _ => .pure _

theorem local_saltarNiavobject : Local (saltarNiavobject contexto) :=
  (local_i32 contexto).bind fun _ => (Local.number _ _).bind fun _ => (Local.pass _ _).bind fun _ =>
    (Local.pass _ _).bind fun _ => (Local.pass _ _).bind fun _ => .pure _

theorem local_leerFormaBs : Local (leerFormaBs contexto) :=
  (local_saltarNiavobject contexto).bind fun _ => (Local.pass _ _).bind fun _ =>
    (local_i32 contexto).bind fun _ => (local_i32 contexto).bind fun _ => .pure _

theorem local_leerFormaNi : Local (leerFormaNi contexto) :=
  (local_saltarNiavobject contexto).bind fun _ => (Local.pass _ _).bind fun _ =>
    (Local.number _ _).bind fun _ => (Local.pass _ _).bind fun _ => (Local.pass _ _).bind fun _ =>
    (local_i32 contexto).bind fun _ => (local_i32 contexto).bind fun _ => .pure _

theorem local_leerShaderDeIluminacion : Local (leerShaderDeIluminacion contexto) :=
  (Local.number _ _).bind fun _ => (Local.pass _ _).bind fun _ => (Local.number _ _).bind fun _ =>
    (Local.pass _ _).bind fun _ => (Local.pass _ _).bind fun _ => (Local.number _ _).bind fun _ =>
    (Local.number _ _).bind fun _ => (Local.pass _ _).bind fun _ =>
    (local_i32 contexto).bind fun _ => .pure _

theorem local_leerJuegoDeTexturas : Local (leerJuegoDeTexturas contexto) :=
  (Local.number _ _).bind fun _ => (Local.check _ _).bind fun _ =>
    (local_textoContado contexto).times _

end

theorem local_tipoDeBloque (nombresDeTipos : List Texto) : Local (tipoDeBloque nombresDeTipos) := by
  refine (Local.number _ _).bind fun n => ?_
  simp only
  split
  · exact .pure _
  · exact .fail _

theorem local_camposDeCabecera : Local camposDeCabecera :=
  (Local.number _ _).bind fun _ => (Local.check _ _).bind fun _ => (Local.number _ _).bind fun _ =>
    (Local.check _ _).bind fun _ => (Local.number _ _).bind fun _ => (Local.number _ _).bind fun _ =>
    (Local.check _ _).bind fun _ => (Local.number _ _).bind fun _ => (Local.check _ _).bind fun _ =>
    (((Local.number _ _).bind fun _ => .pass _ _).times 3).bind fun _ =>
    (Local.number _ _).bind fun _ => ((local_textoContado _).times _).bind fun nombres =>
    ((local_tipoDeBloque nombres).times _).bind fun _ => ((Local.number _ _).times _).bind fun _ =>
    (Local.number _ _).bind fun _ => (Local.number _ _).bind fun _ =>
    ((local_textoContado _).times _).bind fun _ => (Local.number _ _).bind fun _ =>
    ((Local.number _ _).times _).bind fun _ => .pure _

/-- There is one size for each type. -/
theorem gives_camposDeCabecera :
    Gives camposDeCabecera fun campos => campos.tipos.length = campos.tamanos.length :=
  .after fun _ => .after fun _ => .after fun _ => .after fun _ => .after fun _ => .after fun _ =>
    .after fun _ => .after fun _ => .after fun _ => .after fun _ => .after fun _ => .after fun _ =>
    (gives_times _ _).bind fun _ types => (gives_times _ _).bind fun _ sizes =>
    .after fun _ => .after fun _ => .after fun _ => .after fun _ => .after fun _ =>
    .pure (types.trans sizes.symm)

/-! Every exception is a `NifError` -/

def Declarada {α : Type} (x : Hecho α) : Prop := x ≠ .error .foreign

namespace Declarada
variable {α β : Type}

theorem ok (a : α) : Declarada (.ok a : Hecho α) := nofun

theorem declared (e : NifError) : Declarada (.error (.declared e) : Hecho α) := nofun

theorem bind {x : Hecho α} {f : α → Hecho β} (first : Declarada x)
    (later : ∀ a, x = .ok a → Declarada (f a)) : Declarada (x >>= f) := by
  cases x with
  | error e =>
    intro raised
    cases raised
    exact first rfl
  | ok a => exact later a rfl

theorem map {x : Hecho α} (safe : Declarada x) (f : α → β) : Declarada (x.map f) := by
  cases x with
  | error e =>
    intro raised
    cases raised
    exact safe rfl
  | ok a => exact ok (f a)

theorem require {p : Prop} [Decidable p] (e : NifError) :
    Declarada (Checks.require p (Fault.declared e)) := by
  unfold Checks.require
  split
  · exact ok ()
  · exact declared e

theorem mapM {f : α → Hecho β} {l : List α} (each : ∀ a ∈ l, Declarada (f a)) :
    Declarada (l.mapM f) := by
  induction l with
  | nil => exact ok []
  | cons a l ih =>
    rw [List.mapM_cons]
    refine bind (each a List.mem_cons_self) fun b _ => ?_
    refine bind (ih fun c mem => each c (List.mem_cons_of_mem _ mem)) fun bs _ => ?_
    exact ok _

end Declarada

theorem declarada_indexar {α : Type} {l : List α} {i : Nat} (bound : i < l.length) :
    Declarada (indexar l i) := by
  rw [indexar, List.getElem?_eq_getElem bound]
  exact .ok _

/-- A reference that is accepted names a block. -/
theorem referencia_ok {valor : Int} {cantidad : Nat} {r : Option Nat}
    (done : referencia valor cantidad = .ok r) : ∀ i, r = some i → i < cantidad := by
  unfold referencia at done
  split at done
  · cases done
    exact nofun
  · split at done
    · cases done
      intro i same
      cases same
      omega
    · cases done

theorem declarada_referencia (valor : Int) (cantidad : Nat) : Declarada (referencia valor cantidad) := by
  unfold referencia
  split
  · exact .ok _
  · split
    · exact .ok _
    · exact .declared _

theorem declarada_textoDeLaTabla (indice : Int) (textos : List Texto) :
    Declarada (textoDeLaTabla indice textos) := by
  unfold textoDeLaTabla
  split
  · exact .ok _
  · split
    · exact declarada_indexar (by omega)
    · exact .declared _

/-- The first `cantidad` blocks can be opened, and a reader that keeps to its zone fails there
    only as declared. -/
def Segura (lectorDe : Apertura) (cantidad : Nat) : Prop :=
  ∀ (α : Type) (indice : Nat) (lee : Lector α), indice < cantidad → Local lee →
    Declarada (enBloque lectorDe indice lee)

section
variable {tipos textos : List Texto} {lectorDe : Apertura}

theorem declarada_shaderDe (safe : Segura lectorDe tipos.length) {r : Option Nat}
    (bound : ∀ i, r = some i → i < tipos.length) : Declarada (shaderDe tipos lectorDe r) := by
  cases r with
  | none => exact .ok _
  | some i =>
    have inside := bound i rfl
    refine .bind (declarada_indexar inside) fun tipo _ => ?_
    split
    · exact .ok _
    · exact .bind (safe _ i _ inside (local_leerShaderDeIluminacion tipo)) fun _ _ => .ok _

theorem declarada_iluminada (safe : Segura lectorDe tipos.length) (iluminacion : Option Iluminacion) :
    Declarada (iluminada tipos lectorDe iluminacion) := by
  cases iluminacion with
  | none => exact .ok _
  | some l =>
    refine .bind (declarada_referencia _ _) fun r found => ?_
    cases r with
    | none => exact .ok _
    | some j =>
      have inside := referencia_ok found j rfl
      refine .bind (declarada_indexar inside) fun tipo _ => .bind (.require _) fun _ _ => ?_
      exact .bind (safe _ j _ inside (local_leerJuegoDeTexturas tipo)) fun _ _ => .ok _

theorem declarada_formaCon (safe : Segura lectorDe tipos.length) (tipo : Texto)
    (campos : Int × Int × Int) : Declarada (formaCon tipos textos lectorDe tipo campos) := by
  refine .bind (declarada_referencia _ _) fun shader named => ?_
  refine .bind (declarada_referencia _ _) fun alfa named' => ?_
  refine .bind ?_ fun _ _ => ?_
  · cases alfa with
    | none => exact .ok _
    | some a =>
      exact .bind (declarada_indexar (referencia_ok named' a rfl)) fun _ _ => .require _
  · refine .bind (declarada_shaderDe safe (referencia_ok named)) fun s _ => ?_
    refine .bind (declarada_iluminada safe s.2) fun texturas _ => ?_
    exact .bind (declarada_textoDeLaTabla _ _) fun _ _ => .ok _

theorem declarada_formaDe (safe : Segura lectorDe tipos.length) {bloque : Texto × Nat}
    (inside : bloque.2 < tipos.length) : Declarada (formaDe tipos textos lectorDe bloque) := by
  unfold formaDe
  split
  · exact .bind (safe _ _ _ inside (local_leerFormaBs _)) fun campos _ =>
      .bind (declarada_formaCon safe _ campos) fun _ _ => .ok _
  · split
    · exact .bind (safe _ _ _ inside (local_leerFormaNi _)) fun campos _ =>
        .bind (declarada_formaCon safe _ campos) fun _ _ => .ok _
    · exact .ok _

theorem zipIdx_inside {bloque : Texto × Nat} (mem : bloque ∈ tipos.zipIdx) :
    bloque.2 < tipos.length :=
  (List.getElem?_eq_some_iff.mp (List.mem_zipIdx_iff_getElem?.mp mem)).1

theorem declarada_juegos (safe : Segura lectorDe tipos.length) :
    Declarada (juegosDeTexturasDelArchivo tipos lectorDe) := by
  have each : Declarada ((tipos.zipIdx.filter (·.1 = JUEGO_DE_TEXTURAS)).mapM fun b =>
      enBloque lectorDe b.2 (leerJuegoDeTexturas b.1)) :=
    .mapM fun b mem => safe _ _ _ (zipIdx_inside (List.mem_of_mem_filter mem)) (local_leerJuegoDeTexturas _)
  unfold juegosDeTexturasDelArchivo
  split
  · exact .ok _
  · exact .ok _
  · next raised => exact absurd raised each

theorem declarada_materiales (safe : Segura lectorDe tipos.length) (versionBs : Nat) :
    Declarada (materiales tipos textos lectorDe versionBs) := by
  refine .bind (.mapM fun b mem => declarada_formaDe safe (zipIdx_inside mem)) fun formas _ => ?_
  refine .bind ?_ fun _ _ => .ok _
  unfold juegosDeLasNoSoportadas
  split
  · exact declarada_juegos safe
  · exact .ok _

end

/-! Each block from its own bytes -/

/-- The bytes of the zones. -/
def bloquesDe (datos : Bytes) (zonas : List (Nat × Nat)) : List Bytes :=
  zonas.map fun z => (datos.take z.2).drop z.1

/-- A block opened alone, as if there were no other bytes. -/
def lectorPropio (bloques : List Bytes) : Apertura := fun indice => do
  let bloque ← indexar bloques indice
  return ⟨bloque, 0, bloque.length⟩

/-- No reader that keeps to its zone can tell the two apart. -/
def Iguales (una otra : Apertura) : Prop :=
  ∀ (α : Type) (indice : Nat) (lee : Lector α), Local lee →
    enBloque una indice lee = enBloque otra indice lee

theorem materiales_congr {una otra : Apertura} (same : Iguales una otra) (tipos textos : List Texto)
    (versionBs : Nat) : materiales tipos textos una versionBs = materiales tipos textos otra versionBs := by
  have shaders : shaderDe tipos una = shaderDe tipos otra := by
    funext r
    cases r with
    | none => rfl
    | some r => simp only [shaderDe, same _ _ _ (local_leerShaderDeIluminacion _)]
  have sets : texturasDe tipos una = texturasDe tipos otra := by
    funext i
    simp only [texturasDe, same _ _ _ (local_leerJuegoDeTexturas _)]
  have lit : iluminada tipos una = iluminada tipos otra := by
    funext i
    cases i with
    | none => rfl
    | some i => exact congrFun sets i
  have shapes : formaDe tipos textos una = formaDe tipos textos otra := by
    funext b
    simp only [formaDe, formaCon, shaders, lit, same _ _ _ (local_leerFormaBs _),
      same _ _ _ (local_leerFormaNi _)]
  simp only [materiales, juegosDeLasNoSoportadas, juegosDeTexturasDelArchivo, shapes,
    same _ _ _ (local_leerJuegoDeTexturas _)]

theorem enBloque_map {α : Type} (lectorDe : Apertura) (indice : Nat) (lee : Lector α) :
    enBloque lectorDe indice lee = (lectorDe indice).bind fun c => (lee c).map Prod.fst := by
  unfold enBloque
  cases lectorDe indice with
  | error e => rfl
  | ok c =>
    show (lee c).bind _ = (lee c).map Prod.fst
    cases lee c <;> rfl

theorem length_zonas (posicion : Nat) (tamanos : List Nat) :
    (zonas posicion tamanos).length = tamanos.length := by
  induction tamanos generalizing posicion with
  | nil => rfl
  | cons t tamanos ih => rw [zonas, List.length_cons, List.length_cons, ih]

theorem zonas_dentro {posicion : Nat} {tamanos : List Nat} {z : Nat × Nat}
    (mem : z ∈ zonas posicion tamanos) : z.1 ≤ z.2 ∧ z.2 ≤ posicion + tamanos.sum := by
  induction tamanos generalizing posicion with
  | nil => cases mem
  | cons t tamanos ih =>
    rw [List.sum_cons]
    cases List.mem_cons.mp mem with
    | inl first =>
      subst first
      simp only
      omega
    | inr later =>
      have bounds := ih later
      omega

section
variable {datos : Bytes} {zs : List (Nat × Nat)} (dentro : ∀ z ∈ zs, z.1 ≤ z.2 ∧ z.2 ≤ datos.length)
include dentro

/-- A zone read in place is read as its bytes alone. -/
theorem iguales_lectorPropio : Iguales (lectorDe datos zs) (lectorPropio (bloquesDe datos zs)) := by
  intro α indice lee keeps
  rw [enBloque_map, enBloque_map]
  unfold lectorDe lectorPropio indexar bloquesDe
  rw [List.getElem?_map]
  cases found : zs[indice]? with
  | none => rfl
  | some z =>
    have bounds := dentro z (List.mem_of_getElem? found)
    have here : (⟨datos, z.1, z.2⟩ : Cursor).Inside := bounds
    let own : Bytes := (datos.take z.2).drop z.1
    have alone : (⟨own, 0, own.length⟩ : Cursor).Inside := ⟨Nat.zero_le _, Nat.le_refl _⟩
    have zone : (⟨datos, z.1, z.2⟩ : Cursor).zone = (⟨own, 0, own.length⟩ : Cursor).zone := by
      simp [Cursor.zone, own]
    exact keeps.congr here alone zone

theorem segura_lectorDe : Segura (lectorDe datos zs) zs.length := by
  intro α indice lee bound keeps
  rw [enBloque_map]
  unfold lectorDe indexar
  rw [List.getElem?_eq_getElem bound]
  have here : (⟨datos, zs[indice].1, zs[indice].2⟩ : Cursor).Inside := dentro _ (List.getElem_mem bound)
  have safe : Declarada (lee ⟨datos, zs[indice].1, zs[indice].2⟩) := keeps.not_foreign here
  exact safe.map Prod.fst

end

/-- What `leer_cabecera` promises about the sizes it gives. -/
theorem cabecera_dentro {datos : Bytes} {campos : Campos} {inicio : Nat}
    (done : leerCabecera datos = .ok (campos, inicio)) :
    campos.tipos.length = campos.tamanos.length ∧
      ∀ z ∈ zonas inicio campos.tamanos, z.1 ≤ z.2 ∧ z.2 ≤ datos.length := by
  obtain ⟨_, _, done⟩ := bind_ok.mp done
  obtain ⟨⟨campos', lector⟩, read, done⟩ := bind_ok.mp done
  obtain ⟨_, fits, done⟩ := bind_ok.mp done
  cases done
  rw [require_ok] at fits
  refine ⟨gives_camposDeCabecera _ _ _ read, fun z mem => ?_⟩
  have bounds := zonas_dentro mem
  omega

theorem declarada_leerCabecera (datos : Bytes) : Declarada (leerCabecera datos) := by
  refine .bind (.require _) fun _ first => .bind ?_ fun _ _ => .bind (.require _) fun _ _ => .ok _
  refine local_camposDeCabecera.not_foreign ⟨?_, Nat.le_refl _⟩
  exact (require_ok.mp first).length_le

/-- Whatever the bytes are, they are read or refused by a `NifError`. -/
theorem declarada_leerMateriales (datos : Bytes) : Declarada (leerMateriales datos) := by
  refine .bind (declarada_leerCabecera datos) fun h done => ?_
  obtain ⟨campos, inicio⟩ := h
  obtain ⟨size, inside⟩ := cabecera_dentro done
  have safe := segura_lectorDe inside
  rw [length_zonas, ← size] at safe
  exact declarada_materiales safe _

/-- The blocks one by one, each cut out of the file. -/
def leerPorBloques (datos : Bytes) : Hecho LecturaDeNif := do
  let (campos, inicio) ← leerCabecera datos
  materiales campos.tipos campos.textos
    (lectorPropio (bloquesDe datos (zonas inicio campos.tamanos))) campos.versionBs

theorem leerMateriales_eq_porBloques (datos : Bytes) : leerMateriales datos = leerPorBloques datos := by
  unfold leerMateriales leerPorBloques
  cases done : leerCabecera datos with
  | error e => rfl
  | ok h => exact materiales_congr (iguales_lectorPropio (cabecera_dentro done).2) _ _ _

end NifMateriales
