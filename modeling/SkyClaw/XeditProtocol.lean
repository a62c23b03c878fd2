import Mathlib
import SkyClaw.ConflictReports

set_option linter.all false

/-!
The conflict protocol from end to end: the lines that `list_all_conflicts.pas`
writes for a set of records, the log they travel in and what the analyzer reads
from it. A text is `Legible` when it can be a field of a line.
-/
namespace XeditConflicts
open TrimmedText TextLines

/-! The script -/

def validoEnNombre (c : Char) : Bool := 31 < c.toNat && !"/\\:*?\"<>|".toList.contains c

/-- The name of a plugin file on Windows. -/
structure NombrePlugin where
  texto : Texto
  noVacio : texto ≠ []
  valido : ∀ c ∈ texto, validoEnNombre c = true

inductive ConflictAll where
  | caUnknown
  | caOnlyOne
  | caNoConflict
  | caConflictBenign
  | caOverride
  | caConflict
  | caConflictCritical
  deriving DecidableEq

def ConflictAll.ord : ConflictAll → Nat
  | .caUnknown => 0
  | .caOnlyOne => 1
  | .caNoConflict => 2
  | .caConflictBenign => 3
  | .caOverride => 4
  | .caConflict => 5
  | .caConflictCritical => 6

/-- A version of a record: its plugin and the native value of `SPIT\Flags`, if
    the element exists. -/
structure Version where
  file : NombrePlugin
  spitFlags : Option Nat

/-- A record as `Process` gets it. -/
structure MainRecord where
  formId : UInt32
  editorId : Texto
  signature : Texto
  isMaster : Bool
  conflictAll : ConflictAll
  version : Version
  overrides : List Version
  winningOverride : Version

def hexMayus (d : Nat) : Char := if d < 10 then Char.ofNat (48 + d) else Char.ofNat (55 + d)

/-- `IntToHex(n, 8)`. -/
def intToHex (n : UInt32) : Texto :=
  [7, 6, 5, 4, 3, 2, 1, 0].map fun k => hexMayus (n.toNat / 16 ^ k % 16)

def isCriticalType (sig : Texto) : Bool :=
  (textos ["NPC_", "QUST", "SCEN", "INFO", "PERK", "SPEL", "MGEF", "FACT", "DIAL", "PACK"]).contains sig

def isWarningType (sig : Texto) : Bool :=
  (textos ["CELL", "WRLD", "REFR", "ACHR", "NAVM", "LAND", "WEAP", "ARMO", "AMMO", "BOOK", "INGR",
    "ALCH", "MISC", "CONT", "DOOR", "LIGH", "STAT", "FLOR", "FURN", "LVLI", "LVLN", "LVSP", "ENCH",
    "OTFT", "RACE", "COBJ", "KYWD"]).contains sig

def barra : Texto := ['|']

def manualCostCalc : Texto := "Manual Cost Calc".toList

def emitSpellFlagState (fid : Texto) (rec : Version) : List Texto :=
  match rec.spitFlags with
  | none => []
  | some flags =>
    let flagValue := if flags &&& 1 ≠ 0 then ['1'] else ['0']
    [marcaFlag ++ fid ++ barra ++ rec.file.texto ++ barra ++ manualCostCalc ++ barra ++ flagValue]

def emitSpellFlagStates (e : MainRecord) (fid : Texto) : List Texto :=
  emitSpellFlagState fid e.version ++ e.overrides.flatMap (emitSpellFlagState fid)

/-- One turn of the loop over the losers. -/
def agregaPerdedor (winner loserList : Texto) (v : Version) : Texto :=
  if v.file.texto ≠ winner then
    (if loserList ≠ [] then loserList ++ [','] else loserList) ++ v.file.texto
  else loserList

structure Contadores where
  totalConflicts : Nat
  criticalCount : Nat
  minorCount : Nat
  deriving DecidableEq

def process (s : Contadores × List Texto) (e : MainRecord) : Contadores × List Texto :=
  if e.overrides.length < 1 then s
  else if !e.isMaster then s
  else if e.conflictAll.ord < ConflictAll.caOverride.ord then s
  else
    let sig := e.signature
    let fid := intToHex e.formId
    let winner := e.winningOverride.file.texto
    let loserList := agregaPerdedor winner (e.overrides.foldl (agregaPerdedor winner) []) e.version
    if loserList = [] then s
    else
      let linea := marcaConflict ++ fid ++ barra ++ e.editorId ++ barra ++ sig ++ barra ++ winner ++
        barra ++ loserList
      let flags := if sig = "SPEL".toList then emitSpellFlagStates e fid else []
      ({ totalConflicts := s.1.totalConflicts + 1
         criticalCount := if isCriticalType sig then s.1.criticalCount + 1 else s.1.criticalCount
         minorCount :=
          if !isCriticalType sig && !isWarningType sig then s.1.minorCount + 1 else s.1.minorCount },
        s.2 ++ linea :: flags)

def finalize (s : Contadores × List Texto) : List Texto :=
  s.2 ++ [marcaSummary ++ "total_conflicts=".toList ++ decimal s.1.totalConflicts ++
    "|critical=".toList ++ decimal s.1.criticalCount ++ "|minor=".toList ++ decimal s.1.minorCount]

/-- The messages of a whole run of the script. -/
def listAllConflicts (records : List MainRecord) : List Texto :=
  finalize (records.foldl process (⟨0, 0, 0⟩, []))

/-! The log -/

def trasCaracter (c : Char) : Texto → Option Texto
  | [] => none
  | d :: t => if d = c then some t else none

def esDigito (c : Char) : Bool := (digito c).isSome

/-- What follows a run of at least `desde` and at most `hasta` digits. -/
def trasDigitos (desde hasta : Nat) (t : Texto) : Option Texto :=
  let run := t.takeWhile esDigito
  if desde ≤ run.length ∧ run.length ≤ hasta then some (t.dropWhile esDigito) else none

def esMayuscula (c : Char) : Bool := 'A' ≤ c && c ≤ 'Z'

/-- `[A-Z][A-Z_]*\|` at the start. -/
def esProtocolo : Texto → Bool
  | [] => false
  | c :: t => esMayuscula c && (t.dropWhile fun d => esMayuscula d || d = '_').head? == some '|'

/-- What `_PROTOCOL_TIMESTAMP_RE` leaves behind it, if it matches. -/
def trasMarca (linea : Texto) : Option Texto := do
  let t ← trasCaracter '[' linea
  let t ← trasDigitos 1 2 t
  let t ← trasCaracter ':' t
  let t ← trasDigitos 2 2 t
  let t := ((trasCaracter ':' t).bind (trasDigitos 2 2)).getD t
  let t ← trasCaracter ']' t
  if t.takeWhile isspace = [] then none
  else if esProtocolo (t.dropWhile isspace) then some (t.dropWhile isspace)
  else none

def quitaMarca (linea : Texto) : Texto := (trasMarca linea).getD linea

def mergeProtocolOutput (stdoutText logText : Texto) : Texto :=
  let fuente := if strip isspace logText ≠ [] then logText else stdoutText
  ['\n'].intercalate ((splitlines fuente).map fun l => quitaMarca (l.rdropWhile (· = '\r')))

/-- The `[HH:MM]` or `[HH:MM:SS]` that xEdit puts before a line of its log. -/
structure Marca where
  hora : Texto
  minuto : Texto
  segundo : Option Texto
  espacios : Nat
  horaCorta : hora.length = 1 ∨ hora.length = 2
  minutoDoble : minuto.length = 2
  segundoDoble : ∀ s ∈ segundo, s.length = 2
  digitos : ∀ c ∈ hora ++ minuto ++ segundo.getD [], c.isDigit = true

def Marca.texto (m : Marca) : Texto :=
  ['['] ++ m.hora ++ [':'] ++ m.minuto ++
    (match m.segundo with | some s => ':' :: s | none => []) ++
    [']'] ++ List.replicate (m.espacios + 1) ' '

/-- A line of the log: with or without time, ended by LF or CR LF. -/
structure Renglon where
  marca : Option Marca
  crlf : Bool
  linea : Texto

def Renglon.cuerpo (r : Renglon) : Texto := (r.marca.map Marca.texto).getD [] ++ r.linea

def textoDe (registro : List Renglon) : Texto :=
  registro.flatMap fun r => r.cuerpo ++ if r.crlf then ['\r', '\n'] else ['\n']

/-! What the analyzer should read -/

def MainRecord.versiones (e : MainRecord) : List Version := e.version :: e.overrides

def MainRecord.ganador (e : MainRecord) : Texto := e.winningOverride.file.texto

/-- The plugins of the overrides and of the master, in that order, but the winner's. -/
def MainRecord.perdedores (e : MainRecord) : List Texto :=
  ((e.overrides ++ [e.version]).map (·.file.texto)).filter (· ≠ e.ganador)

def MainRecord.seEmite (e : MainRecord) : Bool :=
  1 ≤ e.overrides.length && e.isMaster && ConflictAll.caOverride.ord ≤ e.conflictAll.ord &&
    e.perdedores ≠ []

def Version.estado (v : Version) : Option OverrideFlagState :=
  v.spitFlags.map fun flags => ⟨v.file.texto, manualCostCalc, decide (flags &&& 1 ≠ 0)⟩

def MainRecord.estados (e : MainRecord) : List OverrideFlagState :=
  if e.signature = "SPEL".toList then e.versiones.filterMap Version.estado else []

def MainRecord.conflicto (e : MainRecord) : RecordConflict :=
  { formId := intToHex e.formId
    editorId := e.editorId
    recordType := e.signature
    winner := e.ganador
    losers := e.perdedores
    severity := .info
    flagStates := e.estados }

def emitidos (records : List MainRecord) : List MainRecord := records.filter MainRecord.seEmite

def esperados (records : List MainRecord) : List RecordConflict :=
  (emitidos records).map MainRecord.conflicto

/-- A line whose loss must be noticed. -/
def esencial (l : Texto) : Bool := marcaConflict.isPrefixOf l || marcaSummary.isPrefixOf l

/-- The log is read back exactly, and losing an essential line makes `analyze` raise. -/
structure ProtocoloExacto (records : List MainRecord) : Prop where
  leido : ∀ registro, registro.map Renglon.linea = listAllConflicts records →
    (∀ stdout, parseConflictLines (mergeProtocolOutput stdout (textoDe registro)) = esperados records) ∧
    ((∀ r ∈ registro, r.marca = none) → parseConflictLines (textoDe registro) = esperados records)
  truncado : ∀ k l registro, (listAllConflicts records)[k]? = some l → esencial l = true →
    registro.map Renglon.linea = (listAllConflicts records).eraseIdx k →
    ∀ (self : ConflictAnalyzer) success,
      (∃ e, self.analyze ⟨success, mergeProtocolOutput [] (textoDe registro)⟩ = .error e) ∧
      ((∀ r ∈ registro, r.marca = none) →
        ∃ e, self.analyze ⟨success, textoDe registro⟩ = .error e)

/-- A text that can be a field: no separator, no line break, no blanks around. -/
structure Legible (t : Texto) : Prop where
  barra : '|' ∉ t
  entero : ∀ c ∈ t, esSalto c = false
  recortado : Trimmed isspace t

/-- Every field is legible and no loser has a comma. -/
structure CamposLegibles (records : List MainRecord) : Prop where
  editor : ∀ e ∈ emitidos records, Legible e.editorId
  firma : ∀ e ∈ emitidos records, Legible e.signature
  ganador : ∀ e ∈ emitidos records, Legible e.ganador
  perdedores : ∀ e ∈ emitidos records, ∀ l ∈ e.perdedores, Legible l ∧ ',' ∉ l
  estados : ∀ e ∈ emitidos records, ∀ f ∈ e.estados, Legible f.plugin

/-- And FLAG lines can be told apart by their form id. -/
structure Transcribible (records : List MainRecord) : Prop extends CamposLegibles records where
  separados : (emitidos records).Pairwise fun a b =>
    a.formId = b.formId → a.estados = [] ∧ b.estados = []

end XeditConflicts
