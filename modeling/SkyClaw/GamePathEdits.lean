import Mathlib
import SkyClaw.QtByteArrays

set_option linter.all false

/-!
`gamePath` in `modorganizer.ini`: the edit of one line by `mo2_ini_escritura.py`, and the
reader of `effective_runtime/mo2_ini.py`, which has its own rules for lines, headers and keys.
-/
namespace GamePathEdits
open Utf8Text QtByteArrays
open IniEditor (Bytes Texto strip blank BOM partes)

def general : Texto := plano ['G', 'e', 'n', 'e', 'r', 'a', 'l']

def claveGamePath : Texto := plano ['g', 'a', 'm', 'e', 'P', 'a', 't', 'h']

def letrasGamepath : Texto := plano ['g', 'a', 'm', 'e', 'p', 'a', 't', 'h']

def gamepathIgual : Texto := letrasGamepath ++ [.scalar '=']

/-! The format -/

def bomNoAdmitidos : List Bytes :=
  [[0xFF, 0xFE], [0xFE, 0xFF], [0xFF, 0xFE, 0, 0], [0, 0, 0xFE, 0xFF]]

inductive Salto where
  | crlf
  | lf
  | cr
  deriving DecidableEq

/-- `FormatoIniNoAdmitidoError` and `EscrituraIniNoVerificadaError`, with what they report. -/
inductive EscrituraError where
  | bomNoAdmitido (bom : Bytes)
  | bytesNul
  | noReencodea
  | retornoDeCarro
  | saltosMezclados (clases : List Salto)
  | nadaTocado
  | otrasTocadas (tocadas distintas : List Nat)
  | noEsGamePath (indice : Nat)
  | lineasAjenas (antes despues : Nat) (tocadas : List Nat)
  | noEsGamePathNiGeneral (indice : Nat) (linea : Texto)
  | noCodificable
  deriving DecidableEq

structure FormatoIni where
  tieneBom : Bool
  crlf : Bool
  deriving DecidableEq

/-- `_clases_de_salto`, in order and with repetitions. -/
def clasesDeSalto : Texto → List Salto
  | [] => []
  | p :: t =>
    if p = .scalar '\r' then
      match t with
      | [] => [.cr]
      | q :: u => if q = .scalar '\n' then .crlf :: clasesDeSalto u else .cr :: clasesDeSalto (q :: u)
    else if p = .scalar '\n' then .lf :: clasesDeSalto t
    else clasesDeSalto t

/-- The bytes after the mark. -/
def cuerpoDe (contenido : Bytes) : Bytes :=
  if BOM.isPrefixOf contenido then contenido.drop BOM.length else contenido

def admitirFormatoIni (contenido : Bytes) : Except EscrituraError FormatoIni :=
  match bomNoAdmitidos.find? fun bom => bom.isPrefixOf contenido with
  | some bom => .error (.bomNoAdmitido bom)
  | none =>
    if 0 ∈ contenido then .error .bytesNul
    else
      let texto := decode (cuerpoDe contenido)
      if encode texto ≠ some (cuerpoDe contenido) then .error .noReencodea
      else
        let clases := (clasesDeSalto texto).dedup
        if .cr ∈ clases then .error .retornoDeCarro
        else if 1 < clases.length then .error (.saltosMezclados clases)
        else .ok ⟨BOM.isPrefixOf contenido, clases = [.crlf]⟩

/-! Lines -/

def terminadorDe (linea : Texto) : Texto :=
  if linea.getLast? = some (.scalar '\r') then [.scalar '\r'] else []

def conTerminador (linea : Texto) (formato : FormatoIni) : Texto :=
  if formato.crlf ∧ linea.getLast? ≠ some (.scalar '\r') then linea ++ [.scalar '\r'] else linea

/-- What stands between the brackets of a stripped line, where it is a header. -/
def nombreDeSeccion (limpia : Texto) : Option Texto :=
  if limpia.head? = some (.scalar '[') ∧ limpia.getLast? = some (.scalar ']') then
    some (strip (limpia.drop 1).dropLast)
  else none

def esEncabezado (linea : Texto) : Option Texto := nombreDeSeccion (strip linea)

/-- `str.lower` on the letters of ASCII. No other character becomes one of `gamepath=`. -/
def minuscula : CodePoint → CodePoint
  | .scalar c => .scalar c.toLower
  | p => p

def esGamePath (linea : Texto) : Bool := gamepathIgual.isPrefixOf ((strip linea).map minuscula)

/-- A line with an `=` keeps what stands up to it, and its ending. -/
def reemplazarValor (linea valor : Texto) : Texto :=
  (partes linea).1 ++ .scalar '=' :: (valor ++ terminadorDe linea)

def lineaDe (valor : Texto) : Texto := claveGamePath ++ .scalar '=' :: valor

def lineaGeneral : Texto := .scalar '[' :: (general ++ [.scalar ']'])

/-- The variables of the loop of `_construir_lineas`. -/
structure Bucle where
  enGeneral : Bool
  seccionGeneralVista : Bool
  tocadas : List Nat
  salida : List Texto
  deriving DecidableEq

def Bucle.agrega (s : Bucle) (linea : Texto) : Bucle := { s with salida := s.salida ++ [linea] }

def Bucle.toca (s : Bucle) (linea : Texto) : Bucle :=
  { s with tocadas := s.tocadas ++ [s.salida.length], salida := s.salida ++ [linea] }

section
variable (valor : Texto) (formato : FormatoIni)

def vuelta (s : Bucle) (linea : Texto) : Bucle :=
  match esEncabezado linea with
  | some nombre =>
    if nombre = general then
      { s with enGeneral := true, seccionGeneralVista := true }.agrega linea
    else
      let s := if s.enGeneral ∧ s.tocadas = [] then s.toca (conTerminador (lineaDe valor) formato) else s
      { s with enGeneral := false }.agrega linea
  | none =>
    if s.enGeneral ∧ s.tocadas = [] ∧ esGamePath linea then s.toca (reemplazarValor linea valor)
    else s.agrega linea

def construirLineas (lineas : List Texto) : List Texto × List Nat :=
  let s := lineas.foldl (vuelta valor formato) ⟨false, false, [], []⟩
  if !s.seccionGeneralVista then
    (conTerminador lineaGeneral formato :: conTerminador (lineaDe valor) formato :: s.salida, [0, 1])
  else if s.enGeneral ∧ s.tocadas = [] then
    if s.salida.getLast? = some [] then
      (s.salida.dropLast ++ [conTerminador (lineaDe valor) formato, []], [s.salida.length - 1])
    else
      (s.salida.dropLast ++ s.salida.getLast?.toList.map (conTerminador · formato) ++
        [lineaDe valor], [s.salida.length])
  else (s.salida, s.tocadas)

end

def lineaEn (lineas : List Texto) (indice : Nat) : Texto := lineas[indice]?.getD []

def verificarPreservacion (antes despues : List Texto) (tocadas : List Nat) :
    Except EscrituraError Unit :=
  if tocadas = [] then .error .nadaTocado
  else if despues.length = antes.length then
    if despues = antes then .ok ()
    else
      let distintas := (List.range antes.length).filter fun i => lineaEn antes i ≠ lineaEn despues i
      if distintas ≠ tocadas then .error (.otrasTocadas tocadas distintas)
      else match tocadas.find? fun i =>
          !esGamePath (lineaEn antes i) || !esGamePath (lineaEn despues i) with
        | some i => .error (.noEsGamePath i)
        | none => .ok ()
  else
    let resto := (despues.zipIdx.filter fun l => l.2 ∉ tocadas).map Prod.fst
    if resto ≠ antes then .error (.lineasAjenas antes.length despues.length tocadas)
    else match tocadas.find? fun i =>
        !esGamePath (lineaEn despues i) && esEncabezado (lineaEn despues i) ≠ some general with
      | some i => .error (.noEsGamePathNiGeneral i (lineaEn despues i))
      | none => .ok ()

def lineasDe (contenido : Bytes) : List Texto := (decode (cuerpoDe contenido)).splitOn (.scalar '\n')

def unir (lineas : List Texto) : Texto := [.scalar '\n'].intercalate lineas

def valorDe (ruta : Texto) : Texto := plano (codificarQtByteArray ruta)

def preverBytes (contenido : Bytes) (ruta : Texto) : Except EscrituraError Bytes := do
  let formato ← admitirFormatoIni contenido
  let (despues, tocadas) := construirLineas (valorDe ruta) formato (lineasDe contenido)
  verificarPreservacion (lineasDe contenido) despues tocadas
  match encode (unir despues) with
  | none => .error .noCodificable
  | some cuerpo => return if formato.tieneBom then BOM ++ cuerpo else cuerpo

/-! The reader -/

/-- Where `str.splitlines` ends a line. -/
def esSalto : CodePoint → Bool
  | .scalar c => (0x0A ≤ c.toNat && c.toNat ≤ 0x0D) || (0x1C ≤ c.toNat && c.toNat ≤ 0x1E) ||
      c.toNat = 0x85 || c.toNat = 0x2028 || c.toNat = 0x2029
  | .surrogate _ => false

def splitlines : Texto → List Texto
  | [] => []
  | p :: t =>
    if p = .scalar '\r' then
      match t with
      | [] => [[]]
      | q :: u => if q = .scalar '\n' then [] :: splitlines u else [] :: splitlines (q :: u)
    else if esSalto p then [] :: splitlines t
    else match splitlines t with
      | [] => [[p]]
      | l :: ls => (p :: l) :: ls

/-- A line without blanks and marks around it. -/
def limpiar (bruta : Texto) : Texto := strip ((strip bruta).dropWhile (· = .scalar '\uFEFF'))

def seIgnora (linea : Texto) : Bool :=
  linea = [] ∨ linea.head? = some (.scalar ';') ∨ linea.head? = some (.scalar '#')

/-- `_leer_seccion`: the assignments to the dictionary, in order. `dentro` says that the
section is the one wanted; `break` ends the list. -/
def leerSeccion (seccion : Texto) : Bool → List Texto → List (Texto × Texto)
  | _, [] => []
  | dentro, bruta :: brutas =>
    let linea := limpiar bruta
    if seIgnora linea then leerSeccion seccion dentro brutas
    else match nombreDeSeccion linea with
      | some nombre =>
        if nombre = seccion then leerSeccion seccion true brutas
        else if dentro then []
        else leerSeccion seccion dentro brutas
      | none =>
        if !dentro ∨ .scalar '=' ∉ linea then leerSeccion seccion dentro brutas
        else (strip (partes linea).1, (partes linea).2) :: leerSeccion seccion dentro brutas

/-- The value that a key has after the assignments. -/
def ultimo (clave : Texto) (pares : List (Texto × Texto)) : Option Texto :=
  pares.reverse.lookup clave

/-- `_seccion_que_declara`. -/
def seccionQueDeclara (clave : Texto) : Option Texto → List Texto → Option Texto
  | _, [] => none
  | actual, bruta :: brutas =>
    let linea := limpiar bruta
    if seIgnora linea then seccionQueDeclara clave actual brutas
    else match nombreDeSeccion linea with
      | some nombre => seccionQueDeclara clave (some nombre) brutas
      | none =>
        if .scalar '=' ∈ linea ∧ strip (partes linea).1 = clave ∧ actual ≠ none then actual
        else seccionQueDeclara clave actual brutas

inductive ObservationState where
  | observed
  | absent
  | unreadable
  deriving DecidableEq

inductive Motivo where
  | noExiste
  | noSePudoLeer
  deriving DecidableEq

/-- The `detail` of the evidence. -/
inductive Detalle where
  | ninguno
  | sinTexto (motivo : Motivo)
  | enOtraSeccion (seccion : Texto)
  | noDeclara
  | malformado
  | angostado (e : Irrecuperable)
  | vacio
  deriving DecidableEq

structure Mo2GamePathEvidence where
  state : ObservationState
  raw : Option Texto
  path : Option Texto
  detail : Detalle
  deriving DecidableEq

def evidenciaDeRuta (crudo ruta : Texto) : Mo2GamePathEvidence :=
  if strip ruta = [] then ⟨.absent, some crudo, none, .vacio⟩
  else ⟨.observed, some crudo, some ruta, .ninguno⟩

/-- What `leer_game_path_de_mo2` makes of the raw value. -/
def evidenciaDe (crudo : Texto) : Mo2GamePathEvidence :=
  if prefijoByteArray.isPrefixOf (strip crudo) then
    match interiorDelByteArray crudo with
    | none => ⟨.unreadable, some crudo, none, .malformado⟩
    | some interior =>
      match desescaparBytes interior with
      | .error e => ⟨.unreadable, some crudo, none, .angostado e⟩
      | .ok bytes => evidenciaDeRuta crudo (decode bytes)
  else evidenciaDeRuta crudo crudo

def leerGamePathDeMo2 (leido : Except Motivo Bytes) : Mo2GamePathEvidence :=
  match leido with
  | .error motivo => ⟨.absent, none, none, .sinTexto motivo⟩
  | .ok crudo =>
    let brutas := splitlines (decode crudo)
    match ultimo claveGamePath (leerSeccion general false brutas) with
    | some crudo => evidenciaDe crudo
    | none =>
      match seccionQueDeclara claveGamePath none brutas with
      | some otra => ⟨.absent, none, none, .enOtraSeccion otra⟩
      | none => ⟨.absent, none, none, .noDeclara⟩

/-! Lines of `gamePath` -/

theorem minuscula_cases (p : CodePoint) : minuscula p = p ∨
    ∃ c d, p = .scalar c ∧ minuscula p = .scalar d ∧ 65 ≤ c.toNat ∧ c.toNat ≤ 90 ∧
      d.toNat = c.toNat + 32 := by
  cases p with
  | surrogate n => exact .inl rfl
  | scalar c =>
    by_cases upper : c.val ≥ 'A'.val ∧ c.val ≤ 'Z'.val
    · right
      have low := UInt32.le_iff_toNat_le.mp upper.1
      have high := UInt32.le_iff_toNat_le.mp upper.2
      refine ⟨c, c.toLower, rfl, rfl, low, high, ?_⟩
      have shift : ('a'.val - 'A'.val).toNat = 32 := rfl
      have last : 'Z'.val.toNat = 90 := rfl
      rw [Char.toLower, dif_pos upper]
      simp only [Char.toNat, UInt32.toNat_add]
      omega
    · left
      simp only [minuscula, Char.toLower, dif_neg upper]

theorem blank_letra {c : Char} (low : 65 ≤ c.toNat) (high : c.toNat ≤ 122) :
    blank (.scalar c) = false := by
  simp only [blank, TrimmedText.isspace, Bool.or_eq_false_iff, Bool.and_eq_false_iff,
    decide_eq_false_iff_not]
  omega

theorem blank_minuscula (p : CodePoint) : blank (minuscula p) = blank p := by
  rcases minuscula_cases p with same | ⟨c, d, rfl, lower, low, high, shifted⟩
  · rw [same]
  · rw [lower, blank_letra (by omega) (by omega), blank_letra low (by omega)]

theorem igual_minuscula {p : CodePoint} : minuscula p = .scalar '=' ↔ p = .scalar '=' := by
  rcases minuscula_cases p with same | ⟨c, d, rfl, lower, low, high, shifted⟩
  · rw [same]
  · rw [lower]
    have not_c : c ≠ '=' := by
      rintro rfl
      exact absurd low (by decide)
    have not_d : d ≠ '=' := by
      rintro rfl
      have sum : ('=' : Char).toNat = 61 := rfl
      omega
    simp [not_c, not_d]

/-- The key of a line of `gamePath`, in any case. -/
def EsClave (k : Texto) : Prop := k.map minuscula = letrasGamepath

theorem EsClave.solida {k : Texto} (clave : EsClave k) : ∀ p ∈ k, blank p = false := by
  intro p mem
  have lower : minuscula p ∈ letrasGamepath := clave ▸ List.mem_map_of_mem mem
  have letters : ∀ q ∈ letrasGamepath, blank q = false := by decide
  rw [← blank_minuscula]
  exact letters _ lower

theorem EsClave.sinIgual {k : Texto} (clave : EsClave k) : .scalar '=' ∉ k := by
  intro mem
  have lower : minuscula (.scalar '=') ∈ letrasGamepath := clave ▸ List.mem_map_of_mem mem
  revert lower
  decide

theorem EsClave.ne_nil {k : Texto} (clave : EsClave k) : k ≠ [] := by
  rintro rfl
  cases clave

theorem EsClave.strip_eq {k : Texto} (clave : EsClave k) : strip k = k := by
  have trimmed := TrimmedText.strip_solid_append clave.solida clave.ne_nil []
  rwa [List.append_nil, List.rdropWhile_nil, List.append_nil] at trimmed

theorem esClave_claveGamePath : EsClave claveGamePath := by
  unfold EsClave
  decide

theorem strip_clave {w k : Texto} (white : ∀ p ∈ w, blank p = true) (clave : EsClave k)
    (rest : Texto) : strip (w ++ (k ++ CodePoint.scalar '=' :: rest)) =
      k ++ CodePoint.scalar '=' :: rest.rdropWhile blank := by
  have solid : ∀ p ∈ k ++ [CodePoint.scalar '='], blank p = false := by
    intro p mem
    rcases List.mem_append.mp mem with key | equal
    · exact clave.solida p key
    · obtain rfl := List.mem_singleton.mp equal
      decide
  have split : k ++ CodePoint.scalar '=' :: rest = (k ++ [CodePoint.scalar '=']) ++ rest := by simp
  rw [strip, TrimmedText.strip_blank_append white, split,
    TrimmedText.strip_solid_append solid (by simp)]
  simp

theorem esGamePath_iff {l : Texto} : esGamePath l = true ↔
    ∃ w k rest, l = w ++ (k ++ CodePoint.scalar '=' :: rest) ∧ (∀ p ∈ w, blank p = true) ∧ EsClave k := by
  constructor
  · intro found
    obtain ⟨t, same⟩ := List.isPrefixOf_iff_prefix.mp found
    rw [gamepathIgual, List.append_assoc] at same
    obtain ⟨k, r, split, clave, after⟩ := List.map_eq_append_iff.mp same.symm
    obtain ⟨e, r, rfl, equal, _⟩ := List.map_eq_cons_iff.mp after
    obtain ⟨w, w', parts, white, _⟩ := IniEditor.strip_parts l
    refine ⟨w, k, r ++ w', ?_, white, clave⟩
    rw [igual_minuscula.mp equal] at split
    rw [split] at parts
    simpa using parts
  · rintro ⟨w, k, rest, rfl, white, clave⟩
    rw [esGamePath, strip_clave white clave]
    refine List.isPrefixOf_iff_prefix.mpr ⟨(rest.rdropWhile blank).map minuscula, ?_⟩
    have letters : k.map minuscula = letrasGamepath := clave
    simp [gamepathIgual, letters, igual_minuscula.mpr]

theorem partes_clave {w k : Texto} (white : ∀ p ∈ w, blank p = true) (clave : EsClave k)
    (rest : Texto) : partes (w ++ (k ++ CodePoint.scalar '=' :: rest)) = (w ++ k, rest) := by
  rw [← List.append_assoc]
  apply IniEditor.partes_igual
  intro mem
  rcases List.mem_append.mp mem with left | right
  · have solid : blank (.scalar '=') = false := by decide
    rw [white _ left] at solid
    cases solid
  · exact clave.sinIgual right

theorem reemplazar_clave {w k : Texto} (white : ∀ p ∈ w, blank p = true) (clave : EsClave k)
    (rest valor : Texto) : reemplazarValor (w ++ (k ++ CodePoint.scalar '=' :: rest)) valor =
      w ++ (k ++ CodePoint.scalar '=' ::
        (valor ++ terminadorDe (w ++ (k ++ CodePoint.scalar '=' :: rest)))) := by
  rw [reemplazarValor, partes_clave white clave]
  simp

theorem esGamePath_lineaDe (valor : Texto) : esGamePath (lineaDe valor) = true :=
  esGamePath_iff.mpr ⟨[], claveGamePath, valor, rfl, nofun, esClave_claveGamePath⟩

theorem conTerminador_cases (linea : Texto) (formato : FormatoIni) :
    conTerminador linea formato = linea ∨ conTerminador linea formato = linea ++ [CodePoint.scalar '\r'] := by
  unfold conTerminador
  split
  · exact .inr rfl
  · exact .inl rfl

theorem esGamePath_append {l : Texto} (found : esGamePath l = true) (t : Texto) :
    esGamePath (l ++ t) = true := by
  obtain ⟨w, k, rest, rfl, white, clave⟩ := esGamePath_iff.mp found
  exact esGamePath_iff.mpr ⟨w, k, rest ++ t, by simp, white, clave⟩

theorem esGamePath_conTerminador {l : Texto} (found : esGamePath l = true) (formato : FormatoIni) :
    esGamePath (conTerminador l formato) = true := by
  rcases conTerminador_cases l formato with same | ended
  · rwa [same]
  · rw [ended]
    exact esGamePath_append found _

theorem esGamePath_reemplazar {l : Texto} (found : esGamePath l = true) (valor : Texto) :
    esGamePath (reemplazarValor l valor) = true := by
  obtain ⟨w, k, rest, rfl, white, clave⟩ := esGamePath_iff.mp found
  rw [reemplazar_clave white clave]
  exact esGamePath_iff.mpr ⟨w, k, _, rfl, white, clave⟩

/-! Where the line of `gamePath` stands or is added -/

structure Sitio where
  antes : List Texto
  linea : Option Texto
  despues : List Texto
  deriving DecidableEq

def esGeneral (linea : Texto) : Bool := esEncabezado linea = some general

def esOtroEncabezado (linea : Texto) : Bool := (esEncabezado linea).isSome && !esGeneral linea

/-- The place in what follows the header of the section: the first line of `gamePath`, or the
end of the section, before the empty line that ends the file. -/
def sitioEnGeneral : List Texto → Sitio
  | [] => ⟨[], none, []⟩
  | l :: ls =>
    if esOtroEncabezado l then ⟨[], none, l :: ls⟩
    else if esGamePath l then ⟨[], some l, ls⟩
    else if l = [] ∧ ls = [] then ⟨[], none, [[]]⟩
    else { sitioEnGeneral ls with antes := l :: (sitioEnGeneral ls).antes }

/-- A file without the section gets its header first. -/
def sitio (formato : FormatoIni) (lineas : List Texto) : Sitio :=
  match lineas.dropWhile fun l => !esGeneral l with
  | [] => ⟨[conTerminador lineaGeneral formato], none, lineas⟩
  | cabecera :: ls =>
    { sitioEnGeneral ls with
      antes := (lineas.takeWhile fun l => !esGeneral l) ++ cabecera :: (sitioEnGeneral ls).antes }

/-- These lines end inside the section, and no line of `gamePath` was met. -/
def Abre (lineas : List Texto) : Prop :=
  ∀ valor formato, lineas.foldl (vuelta valor formato) ⟨false, false, [], []⟩ =
    ⟨true, true, [], lineas⟩

inductive Lugar (formato : FormatoIni) : List Texto → Sitio → Prop where
  | sinGeneral {lineas : List Texto} (none_general : ∀ l ∈ lineas, esGeneral l = false) :
      Lugar formato lineas ⟨[conTerminador lineaGeneral formato], none, lineas⟩
  | linea {a b : List Texto} {l : Texto} (abre : Abre a) (found : esGamePath l = true) :
      Lugar formato (a ++ l :: b) ⟨a, some l, b⟩
  | seccion {a b : List Texto} {l : Texto} (abre : Abre a) (other : esOtroEncabezado l = true) :
      Lugar formato (a ++ l :: b) ⟨a, none, l :: b⟩
  | salto {a : List Texto} (abre : Abre a) : Lugar formato (a ++ [[]]) ⟨a, none, [[]]⟩
  | final {a : List Texto} (abre : Abre a) (full : a.getLast? ≠ some []) :
      Lugar formato a ⟨a, none, []⟩

theorem esEncabezado_eq_some {linea nombre : Texto} (header : esEncabezado linea = some nombre) :
    (strip linea).head? = some (.scalar '[') := by
  unfold esEncabezado nombreDeSeccion at header
  split at header
  · next brackets => exact brackets.1
  · cases header

theorem esEncabezado_of_esGamePath {linea : Texto} (found : esGamePath linea = true) :
    esEncabezado linea = none := by
  cases header : esEncabezado linea with
  | none => rfl
  | some nombre =>
    have first := esEncabezado_eq_some header
    obtain ⟨rest, same⟩ := List.head?_eq_some_iff.mp first
    rw [esGamePath, same] at found
    simp [gamepathIgual, letrasGamepath, plano, minuscula] at found

theorem vuelta_general {valor : Texto} {formato : FormatoIni} {s : Bucle} {linea : Texto}
    (header : esGeneral linea = true) : vuelta valor formato s linea =
      { s with enGeneral := true, seccionGeneralVista := true }.agrega linea := by
  have found : esEncabezado linea = some general := by simpa [esGeneral] using header
  simp [vuelta, found]

theorem vuelta_otro {valor : Texto} {formato : FormatoIni} {s : Bucle} {linea : Texto}
    (header : esOtroEncabezado linea = true) : vuelta valor formato s linea =
      { (if s.enGeneral ∧ s.tocadas = [] then s.toca (conTerminador (lineaDe valor) formato)
          else s) with enGeneral := false }.agrega linea := by
  cases found : esEncabezado linea with
  | none => simp [esOtroEncabezado, found] at header
  | some nombre =>
    have other : nombre ≠ general := by simpa [esOtroEncabezado, esGeneral, found] using header
    simp [vuelta, found, other]

theorem vuelta_gamePath {valor : Texto} {formato : FormatoIni} {s : Bucle} {linea : Texto}
    (found : esGamePath linea = true) (inside : s.enGeneral = true) (none_yet : s.tocadas = []) :
    vuelta valor formato s linea = s.toca (reemplazarValor linea valor) := by
  simp [vuelta, esEncabezado_of_esGamePath found, found, inside, none_yet]

theorem vuelta_ajena {valor : Texto} {formato : FormatoIni} {s : Bucle} {linea : Texto}
    (plain : esEncabezado linea = none) (other : esGamePath linea = false) :
    vuelta valor formato s linea = s.agrega linea := by
  simp [vuelta, plain, other]

/-- Outside of the section lines are only copied. -/
theorem foldl_fuera {valor : Texto} {formato : FormatoIni} {lineas : List Texto}
    (outside : ∀ l ∈ lineas, esGeneral l = false) (salida : List Texto) :
    lineas.foldl (vuelta valor formato) ⟨false, false, [], salida⟩ =
      ⟨false, false, [], salida ++ lineas⟩ := by
  induction lineas generalizing salida with
  | nil => simp
  | cons l lineas ih =>
    obtain ⟨first, rest⟩ := List.forall_mem_cons.mp outside
    have copied : vuelta valor formato ⟨false, false, [], salida⟩ l =
        ⟨false, false, [], salida ++ [l]⟩ := by
      cases header : esEncabezado l with
      | none => simp [vuelta, header, Bucle.agrega]
      | some nombre =>
        have other : nombre ≠ general := by simpa [esGeneral, header] using first
        simp [vuelta, header, other, Bucle.agrega]
    rw [List.foldl_cons, copied, ih rest, List.append_assoc]
    rfl

/-- So are all lines once one was touched. -/
theorem foldl_tocado {valor : Texto} {formato : FormatoIni} (lineas : List Texto) {s : Bucle}
    (seen : s.seccionGeneralVista = true) (touched : s.tocadas ≠ []) :
    ∃ enGeneral, lineas.foldl (vuelta valor formato) s =
      ⟨enGeneral, true, s.tocadas, s.salida ++ lineas⟩ := by
  induction lineas generalizing s with
  | nil =>
    refine ⟨s.enGeneral, ?_⟩
    rw [← seen]
    simp
  | cons l lineas ih =>
    have copied : ∃ enGeneral, vuelta valor formato s l =
        ⟨enGeneral, true, s.tocadas, s.salida ++ [l]⟩ := by
      unfold vuelta
      split
      · split
        · exact ⟨true, rfl⟩
        · exact ⟨false, by simp [touched, Bucle.agrega, seen]⟩
      · exact ⟨s.enGeneral, by simp [touched, Bucle.agrega, seen]⟩
    obtain ⟨enGeneral, same⟩ := copied
    obtain ⟨last, done⟩ := @ih ⟨enGeneral, true, s.tocadas, s.salida ++ [l]⟩ rfl touched
    refine ⟨last, ?_⟩
    rw [List.foldl_cons, same, done, List.append_assoc]
    rfl

theorem Abre.sigue {a : List Texto} (abre : Abre a) {l : Texto} (not_other : esOtroEncabezado l = false)
    (other : esGamePath l = false) : Abre (a ++ [l]) := by
  intro valor formato
  rw [List.foldl_append, abre]
  cases header : esEncabezado l with
  | none => simp [vuelta_ajena header other, Bucle.agrega]
  | some nombre =>
    have is_general : esGeneral l = true := by
      simpa [esOtroEncabezado, header] using not_other
    simp [vuelta_general is_general, Bucle.agrega]

theorem abre_cabecera {pre : List Texto} (outside : ∀ l ∈ pre, esGeneral l = false) {cabecera : Texto}
    (header : esGeneral cabecera = true) : Abre (pre ++ [cabecera]) := by
  intro valor formato
  rw [List.foldl_append, foldl_fuera outside]
  simp [vuelta_general header, Bucle.agrega]

theorem lugar_enGeneral (formato : FormatoIni) {a : List Texto} (abre : Abre a)
    (lineas : List Texto) (full : lineas = [] → a.getLast? ≠ some []) :
    Lugar formato (a ++ lineas)
      { sitioEnGeneral lineas with antes := a ++ (sitioEnGeneral lineas).antes } := by
  induction lineas generalizing a with
  | nil => simpa [sitioEnGeneral] using Lugar.final abre (full rfl)
  | cons l lineas ih =>
    rw [sitioEnGeneral]
    split
    · next other => simpa using Lugar.seccion abre other
    · next not_other =>
      split
      · next found => simpa using Lugar.linea abre found
      · next other =>
        split
        · next last =>
          obtain ⟨rfl, rfl⟩ := last
          simpa using Lugar.salto abre
        · next more =>
          have rest := ih (abre.sigue (Bool.eq_false_of_not_eq_true not_other)
            (Bool.eq_false_of_not_eq_true other)) (by
              intro last
              simpa [last] using more)
          simpa using rest

theorem lugar_sitio (formato : FormatoIni) (lineas : List Texto) :
    Lugar formato lineas (sitio formato lineas) := by
  have split := List.takeWhile_append_dropWhile (p := fun l => !esGeneral l) (l := lineas)
  unfold sitio
  cases rest : lineas.dropWhile fun l => !esGeneral l with
  | nil =>
    apply Lugar.sinGeneral
    simpa using List.dropWhile_eq_nil_iff.mp rest
  | cons cabecera ls =>
    have outside : ∀ l ∈ lineas.takeWhile fun l => !esGeneral l, esGeneral l = false := by
      intro l mem
      simpa using List.mem_takeWhile_imp mem
    have header : esGeneral cabecera = true := by
      have first := List.head_dropWhile_not (p := fun l => !esGeneral l) (l := lineas) (by simp [rest])
      simpa [rest] using first
    have full : cabecera ≠ [] := by
      rintro rfl
      revert header
      decide
    have place := lugar_enGeneral formato (abre_cabecera outside header) ls (by simp [full])
    rw [List.append_assoc] at place
    rw [rest] at split
    simpa [split] using place

/-! What the edit makes of a place -/

/-- The line of `gamePath` after the edit. It is not terminated where it ends the file. -/
def Sitio.nueva (s : Sitio) (valor : Texto) (formato : FormatoIni) : Texto :=
  match s.linea with
  | some l => reemplazarValor l valor
  | none => if s.despues = [] then lineaDe valor else conTerminador (lineaDe valor) formato

def Sitio.hecho (s : Sitio) (valor : Texto) (formato : FormatoIni) : List Texto :=
  s.antes ++ s.nueva valor formato :: s.despues

/-- The line is added after a last line that a CRLF file does not terminate. -/
def Sitio.sinTerminar (s : Sitio) (formato : FormatoIni) : Bool :=
  formato.crlf && s.linea = none && s.despues = []

theorem map_fst_filter_zipIdx {lineas : List Texto} {tocadas : List Nat} {k : Nat}
    (apart : ∀ i ∈ tocadas, i < k ∨ k + lineas.length ≤ i) :
    ((lineas.zipIdx k).filter fun l => l.2 ∉ tocadas).map Prod.fst = lineas := by
  rw [List.filter_eq_self.mpr, List.zipIdx_map_fst]
  intro l mem
  have bounds := List.mem_zipIdx mem
  simp only [decide_eq_true_eq]
  intro touched
  have outside := apart l.2 touched
  omega

theorem lineaEn_otra {a b : List Texto} (l m : Texto) {i : Nat} (other : i ≠ a.length) :
    lineaEn (a ++ l :: b) i = lineaEn (a ++ m :: b) i := by
  unfold lineaEn
  rcases Nat.lt_or_gt_of_ne other with before | after
  · rw [List.getElem?_append_left before, List.getElem?_append_left before]
  · obtain ⟨k, rfl⟩ := Nat.exists_eq_add_of_lt after
    have position : a.length + k + 1 - a.length = k + 1 := by omega
    rw [List.getElem?_append_right (by omega), List.getElem?_append_right (by omega), position]
    rfl

theorem verificar_reemplazo {a b : List Texto} {l l' : Texto} (before : esGamePath l = true)
    (after : esGamePath l' = true) :
    verificarPreservacion (a ++ l :: b) (a ++ l' :: b) [a.length] = .ok () := by
  unfold verificarPreservacion
  rw [if_neg (by simp), if_pos (by simp)]
  split
  · rfl
  · next changed =>
    have differ : l ≠ l' := by
      rintro rfl
      exact changed rfl
    have only : ((List.range (a ++ l :: b).length).filter fun i =>
        lineaEn (a ++ l :: b) i ≠ lineaEn (a ++ l' :: b) i) = [a.length] := by
      have here : ∀ i ∈ List.range (a ++ l :: b).length,
          decide (lineaEn (a ++ l :: b) i ≠ lineaEn (a ++ l' :: b) i) = (i == a.length) := by
        intro i _
        by_cases same : i = a.length
        · subst same
          simp [lineaEn, differ]
        · simp [lineaEn_otra l l' same, same]
      rw [List.filter_congr here, List.filter_beq, List.nodup_range.count, if_pos (by simp)]
      rfl
    dsimp only
    rw [only, if_neg (by simp)]
    simp [lineaEn, before, after]

theorem verificar_insercion {a b : List Texto} {g : Texto} (added : esGamePath g = true) :
    verificarPreservacion (a ++ b) (a ++ g :: b) [a.length] = .ok () := by
  have rest : (((a ++ g :: b).zipIdx.filter fun l => l.2 ∉ [a.length]).map Prod.fst) = a ++ b := by
    rw [List.zipIdx_append, List.zipIdx_cons, List.filter_append, List.filter_cons_of_neg (by simp),
      List.map_append, map_fst_filter_zipIdx (by simp), map_fst_filter_zipIdx (by simp)]
  unfold verificarPreservacion
  rw [if_neg (by simp), if_neg (by simp)]
  dsimp only
  rw [rest, if_neg (by simp)]
  simp [lineaEn, added]

theorem verificar_seccion {lineas : List Texto} {h g : Texto} (header : esEncabezado h = some general)
    (added : esGamePath g = true) :
    verificarPreservacion lineas (h :: g :: lineas) [0, 1] = .ok () := by
  have rest : (((h :: g :: lineas).zipIdx.filter fun l => l.2 ∉ [0, 1]).map Prod.fst) = lineas := by
    rw [List.zipIdx_cons, List.zipIdx_cons, List.filter_cons_of_neg (by simp),
      List.filter_cons_of_neg (by simp), map_fst_filter_zipIdx (by simp)]
  have longer : (h :: g :: lineas).length ≠ lineas.length := by
    simp only [List.length_cons]
    omega
  unfold verificarPreservacion
  rw [if_neg (by simp), if_neg longer]
  dsimp only
  rw [rest, if_neg (by simp)]
  simp [lineaEn, header, added]

theorem esEncabezado_lineaGeneral (formato : FormatoIni) :
    esEncabezado (conTerminador lineaGeneral formato) = some general := by
  rcases conTerminador_cases lineaGeneral formato with same | ended
  · rw [same]
    decide
  · rw [ended]
    decide

/-- The edit of a place is the one line, and it is verified. -/
theorem construir_lugar {formato : FormatoIni} {lineas : List Texto} {s : Sitio}
    (lugar : Lugar formato lineas s) (nonempty : lineas ≠ [])
    (terminated : s.sinTerminar formato = false) (valor : Texto) :
    ∃ tocadas, construirLineas valor formato lineas = (s.hecho valor formato, tocadas) ∧
      verificarPreservacion lineas (s.hecho valor formato) tocadas = .ok () := by
  have added := esGamePath_conTerminador (esGamePath_lineaDe valor) formato
  unfold construirLineas
  cases lugar with
  | sinGeneral outside =>
    refine ⟨[0, 1], ?_, ?_⟩
    · rw [foldl_fuera outside]
      simp [Sitio.hecho, Sitio.nueva, nonempty]
    · have place : Sitio.hecho ⟨[conTerminador lineaGeneral formato], none, lineas⟩ valor formato =
          conTerminador lineaGeneral formato :: conTerminador (lineaDe valor) formato :: lineas := by
        simp [Sitio.hecho, Sitio.nueva, nonempty]
      rw [place]
      exact verificar_seccion (esEncabezado_lineaGeneral formato) added
  | @linea a b l abre found =>
    refine ⟨[a.length], ?_, verificar_reemplazo found (esGamePath_reemplazar found valor)⟩
    rw [List.foldl_append, abre, List.foldl_cons, vuelta_gamePath found rfl rfl]
    obtain ⟨enGeneral, rest⟩ := @foldl_tocado valor formato b
      (Bucle.toca ⟨true, true, [], a⟩ (reemplazarValor l valor)) rfl (by simp [Bucle.toca])
    rw [rest]
    simp [Bucle.toca, Sitio.hecho, Sitio.nueva]
  | @seccion a b l abre other =>
    have place : Sitio.hecho ⟨a, none, l :: b⟩ valor formato =
        a ++ conTerminador (lineaDe valor) formato :: l :: b := by
      simp [Sitio.hecho, Sitio.nueva]
    refine ⟨[a.length], ?_, place ▸ verificar_insercion added⟩
    rw [List.foldl_append, abre, List.foldl_cons, vuelta_otro other]
    obtain ⟨enGeneral, rest⟩ := @foldl_tocado valor formato b
      (Bucle.agrega { (Bucle.toca ⟨true, true, [], a⟩ (conTerminador (lineaDe valor) formato))
        with enGeneral := false } l) rfl (by simp [Bucle.toca, Bucle.agrega])
    simp only [and_self, if_true]
    rw [rest, place]
    simp [Bucle.toca, Bucle.agrega]
  | @salto a abre =>
    have place : Sitio.hecho ⟨a, none, [[]]⟩ valor formato =
        a ++ conTerminador (lineaDe valor) formato :: [[]] := by
      simp [Sitio.hecho, Sitio.nueva]
    refine ⟨[a.length], ?_, place ▸ verificar_insercion added⟩
    have plain : vuelta valor formato ⟨true, true, [], a⟩ [] = ⟨true, true, [], a ++ [[]]⟩ :=
      vuelta_ajena (by decide) (by decide)
    rw [List.foldl_append, abre, List.foldl_cons, plain, place]
    simp
  | final abre full =>
    have lf : formato.crlf = false := by simpa [Sitio.sinTerminar] using terminated
    have place : Sitio.hecho ⟨lineas, none, []⟩ valor formato = lineas ++ [lineaDe valor] := by
      simp [Sitio.hecho, Sitio.nueva]
    have whole : lineas.dropLast ++ lineas.getLast?.toList.map (conTerminador · formato) = lineas := by
      rw [List.getLast?_eq_getLast_of_ne_nil nonempty]
      simp [conTerminador, lf, List.dropLast_append_getLast]
    refine ⟨[lineas.length], ?_, ?_⟩
    · rw [abre, place]
      simp [full, whole]
    · have inserted := verificar_insercion (a := lineas) (b := []) (esGamePath_lineaDe valor)
      rw [List.append_nil] at inserted
      rwa [place]

/-- The last line gets an ending that the verification does not expect. -/
theorem construir_sinTerminar {formato : FormatoIni} {lineas : List Texto} {s : Sitio}
    (lugar : Lugar formato lineas s) (nonempty : lineas ≠ [])
    (open_line : ∀ l ∈ lineas.getLast?, l.getLast? ≠ some (.scalar '\r'))
    (unterminated : s.sinTerminar formato = true) (valor : Texto) :
    ∃ r e, construirLineas valor formato lineas = r ∧
      verificarPreservacion lineas r.1 r.2 = .error e := by
  cases lugar with
  | sinGeneral outside => simp [Sitio.sinTerminar, nonempty] at unterminated
  | linea abre found => simp [Sitio.sinTerminar] at unterminated
  | seccion abre other => simp [Sitio.sinTerminar] at unterminated
  | salto abre => simp [Sitio.sinTerminar] at unterminated
  | final abre full =>
    have crlf : formato.crlf = true := by simpa [Sitio.sinTerminar] using unterminated
    obtain ⟨pre, l, rfl⟩ := (List.eq_nil_or_concat' lineas).resolve_left nonempty
    have not_ended := open_line l List.getLast?_concat
    have some_text : l ≠ [] := by simpa using full
    have built : construirLineas valor formato (pre ++ [l]) =
        (pre ++ [l ++ [CodePoint.scalar '\r']] ++ [lineaDe valor], [(pre ++ [l]).length]) := by
      unfold construirLineas
      rw [abre]
      simp [conTerminador, crlf, not_ended, some_text]
    have rest : ((List.zipIdx (pre ++ [l ++ [CodePoint.scalar '\r']] ++ [lineaDe valor])).filter
        fun k => k.2 ∉ [(pre ++ [l]).length]).map Prod.fst =
          pre ++ [l ++ [CodePoint.scalar '\r']] := by
      rw [List.zipIdx_append, List.filter_append, List.map_append,
        map_fst_filter_zipIdx (by simp)]
      simp
    refine ⟨_, .lineasAjenas (pre ++ [l]).length ((pre ++ [l]).length + 1) [(pre ++ [l]).length],
      built, ?_⟩
    unfold verificarPreservacion
    dsimp only
    rw [if_neg (by simp), if_neg (by simp), rest, if_pos (by simp)]
    simp

end GamePathEdits
