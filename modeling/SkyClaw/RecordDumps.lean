import Mathlib
import SkyClaw.OrderedDicts
import SkyClaw.XeditProtocol

set_option linter.all false

/-!
The dump of a record: the lines that `dump_record_detail.pas` writes for it, what
`parse_dump_output` makes of a log and which elements `differing_elements` lists.
-/
namespace RecordDumps
open TrimmedText TextLines OrderedDicts
open XeditConflicts (NombrePlugin Renglon intToHex isCriticalType barra textoDe)

/-! The script -/

def MAX_ELEMENTS : Nat := 40
def MAX_VALUE_CHARS : Nat := 200

/-- The UTF-16 units that `Length` counts in a character. -/
def unidades (c : Char) : Nat := if c.toNat < 0x10000 then 1 else 2

def length (s : Texto) : Nat := (s.map unidades).sum

/-- `Copy(s, 1, n)`, without the first half of a character that does not fit. -/
def copy : Nat → Texto → Texto
  | _, [] => []
  | n, c :: t => if unidades c ≤ n then c :: copy (n - unidades c) t else []

def stringReplace (s : Texto) (viejo nuevo : Char) : Texto :=
  s.map fun c => if c = viejo then nuevo else c

def sanitizeValue (s : Texto) : Texto :=
  let result := stringReplace (stringReplace (stringReplace s '|' '/') '\r' ' ') '\n' ' '
  if length result > MAX_VALUE_CHARS then copy MAX_VALUE_CHARS result else result

/-- An element at the top of a record, as `Name` and `GetEditValue` show it. -/
structure Elemento where
  name : Texto
  value : Texto
  deriving DecidableEq

structure Version where
  file : NombrePlugin
  elements : List Elemento

structure MainRecord where
  formId : UInt32
  editorId : Texto
  signature : Texto
  isMaster : Bool
  version : Version
  overrides : List Version
  winningOverride : NombrePlugin

def MainRecord.versiones (e : MainRecord) : List Version := e.version :: e.overrides

def marcaBegin : Texto := "DUMP_BEGIN|".toList
def marcaVersion : Texto := "VERSION|".toList
def marcaElement : Texto := "ELEMENT|".toList
def marcaEnd : Texto := "DUMP_END|".toList

def lineaElement (fid plugin name value : Texto) : Texto :=
  marcaElement ++ fid ++ barra ++ plugin ++ barra ++ name ++ barra ++ value

/-- The loop over the elements; `emitted` counts those that have been written. -/
def emitVersionElements (fid plugin : Texto) : Nat → List Elemento → List Texto
  | _, [] => []
  | emitted, el :: els =>
    if emitted ≥ MAX_ELEMENTS then [lineaElement fid plugin "(truncated)".toList "...".toList]
    else if el.value = [] then emitVersionElements fid plugin emitted els
    else lineaElement fid plugin (sanitizeValue el.name) (sanitizeValue el.value) ::
      emitVersionElements fid plugin (emitted + 1) els

def emitVersion (fid winner : Texto) (rec : Version) : List Texto :=
  let plugin := rec.file.texto
  let isWinner := if plugin = winner then ['1'] else ['0']
  (marcaVersion ++ fid ++ barra ++ plugin ++ barra ++ isWinner) ::
    emitVersionElements fid plugin 0 rec.elements

def process (e : MainRecord) : List Texto :=
  if e.overrides.length < 1 then []
  else if !e.isMaster then []
  else
    let sig := e.signature
    if !isCriticalType sig then []
    else
      let fid := intToHex e.formId
      let winner := e.winningOverride.texto
      (marcaBegin ++ fid ++ barra ++ e.editorId ++ barra ++ sig) ::
        (emitVersion fid winner e.version ++ e.overrides.flatMap (emitVersion fid winner) ++
          [marcaEnd ++ fid])

/-! The parser -/

/-- `replace("0x", "")` -/
def sin0x : Texto → Texto
  | [] => []
  | '0' :: 'x' :: t => sin0x t
  | c :: t => c :: sin0x t

/-- `str.lower` of Python -/
abbrev Lower := Texto → Texto

def normalizeFormId (lower : Lower) (formId : Texto) : Texto :=
  sin0x ((lower (strip isspace formId)).filter (· ≠ ':'))

structure RecordVersion where
  plugin : Texto
  isWinner : Bool
  elements : List (Texto × Texto)
  deriving DecidableEq

structure RecordDump where
  formId : Texto
  editorId : Texto
  recordType : Texto
  versions : List RecordVersion
  deriving DecidableEq

/-- What follows the first `"] "`. -/
def trasCorchete : Texto → Option Texto
  | [] => none
  | ']' :: ' ' :: t => some t
  | _ :: t => trasCorchete t

def limpia (rawLine : Texto) : Texto :=
  let line := strip isspace rawLine
  if line.head? = some '[' then (trasCorchete line).getD line else line

/-- `split("|", n)` -/
def splitMax : Nat → Texto → List Texto
  | 0, t => [t]
  | n + 1, t =>
    if '|' ∈ t then t.takeWhile (· ≠ '|') :: splitMax n (t.dropWhile (· ≠ '|')).tail else [t]

/-- The pair goes to the first version of the plugin. -/
def agrega (plugin : Texto) (par : Texto × Texto) : List RecordVersion → List RecordVersion
  | [] => []
  | v :: vs =>
    if v.plugin = plugin then { v with elements := v.elements ++ [par] } :: vs
    else v :: agrega plugin par vs

/-- The parser between two lines: the dump that is open and those that have ended. -/
structure Lectura where
  abierto : Option RecordDump
  dumps : List RecordDump
  deriving DecidableEq

def leeBegin (lower : Lower) (s : Lectura) (line : Texto) : Lectura :=
  match line.splitOn '|' with
  | _ :: fid :: editor :: tipo :: _ =>
    { s with abierto := some ⟨normalizeFormId lower fid, editor, tipo, []⟩ }
  | _ => { s with abierto := none }

def leeVersion (lower : Lower) (s : Lectura) (d : RecordDump) (line : Texto) : Lectura :=
  match line.splitOn '|' with
  | _ :: fid :: plugin :: gana :: _ =>
    if normalizeFormId lower fid ≠ d.formId then s
    else { s with abierto := some { d with versions := d.versions ++ [⟨plugin, gana = ['1'], []⟩] } }
  | _ => s

def leeElement (lower : Lower) (s : Lectura) (d : RecordDump) (line : Texto) : Lectura :=
  match splitMax 4 line with
  | [_, fid, plugin, path, value] =>
    if normalizeFormId lower fid ≠ d.formId then s
    else { s with abierto := some { d with versions := agrega plugin (path, value) d.versions } }
  | _ => s

def leeEnd (lower : Lower) (s : Lectura) (d : RecordDump) (line : Texto) : Lectura :=
  match line.splitOn '|' with
  | _ :: fid :: _ =>
    if normalizeFormId lower fid ≠ d.formId then { s with abierto := none }
    else ⟨none, s.dumps ++ [d]⟩
  | _ => { s with abierto := none }

/-- One turn of the loop over the lines. -/
def paso (lower : Lower) (s : Lectura) (rawLine : Texto) : Lectura :=
  let line := limpia rawLine
  if marcaBegin.isPrefixOf line then leeBegin lower s line
  else match s.abierto with
    | none => s
    | some d =>
      if marcaVersion.isPrefixOf line then leeVersion lower s d line
      else if marcaElement.isPrefixOf line then leeElement lower s d line
      else if marcaEnd.isPrefixOf line then leeEnd lower s d line
      else s

def parseDumpOutput (lower : Lower) (stdout : Texto) : List RecordDump :=
  ((splitlines stdout).foldl (paso lower) ⟨none, []⟩).dumps

/-- The assignments of the two loops of `differing_elements`. -/
def byPath (versions : List RecordVersion) : OrderedDict Texto (OrderedDict Texto Texto) :=
  versions.foldl (fun d version =>
    version.elements.foldl (fun d par => d.assign par.1 version.plugin par.2) d) .empty

def RecordDump.differingElements (self : RecordDump) : List (Texto × OrderedDict Texto Texto) :=
  (byPath self.versions).entries.filter fun p => 1 < (p.2.entries.map Prod.snd).dedup.length

/-! What the dump should keep -/

/-- A text that takes part in a line as it is. -/
structure Cabe (t : Texto) : Prop where
  barra : '|' ∉ t
  entero : ∀ c ∈ t, esSalto c = false
  corto : length t ≤ MAX_VALUE_CHARS

/-- A record that the script dumps, within the limits of the protocol. -/
structure Volcado extends MainRecord where
  conOverrides : 1 ≤ overrides.length
  maestro : isMaster = true
  critico : isCriticalType signature = true
  editorEntero : ∀ c ∈ editorId, esSalto c = false
  archivosEnteros : ∀ v ∈ toMainRecord.versiones, ∀ c ∈ v.file.texto, esSalto c = false
  /-- Each version comes from a file of its own. -/
  archivosDistintos : (toMainRecord.versiones.map (·.file.texto)).Nodup
  pocos : ∀ v ∈ toMainRecord.versiones, v.elements.length ≤ MAX_ELEMENTS
  caben : ∀ v ∈ toMainRecord.versiones, ∀ el ∈ v.elements, Cabe el.name ∧ Cabe el.value
  conValor : ∀ v ∈ toMainRecord.versiones, ∀ el ∈ v.elements, el.value ≠ []

def esRuido (rawLine : Texto) : Bool :=
  [marcaBegin, marcaVersion, marcaElement, marcaEnd].all fun m => !m.isPrefixOf (limpia rawLine)

/-- A log with these lines, each with or without `[HH:MM]`, and with noise between them. -/
inductive EnElLog : List Texto → List Renglon → Prop where
  | fin : EnElLog [] []
  | linea {ls : List Texto} {rs : List Renglon} (r : Renglon)
      (unEspacio : ∀ m ∈ r.marca, m.espacios = 0) (resto : EnElLog ls rs) :
      EnElLog (r.linea :: ls) (r :: rs)
  | ruido {ls : List Texto} {rs : List Renglon} (r : Renglon) (ajeno : esRuido r.cuerpo = true)
      (entero : ∀ c ∈ r.linea, esSalto c = false) (resto : EnElLog ls rs) : EnElLog ls (r :: rs)

def Version.leida (winner : Texto) (v : Version) : RecordVersion :=
  ⟨v.file.texto, v.file.texto = winner, v.elements.map fun el => (el.name, el.value)⟩

/-- The values that a version gives to a name. -/
def Version.valores (v : Version) (name : Texto) : List Texto :=
  (v.elements.filter (·.name = name)).map (·.value)

/-- Two versions define the name and give it different lists of values. -/
def DifierenEn (e : MainRecord) (name : Texto) : Prop :=
  ∃ v ∈ e.versiones, ∃ w ∈ e.versiones, v.valores name ≠ [] ∧ w.valores name ≠ [] ∧
    v.valores name ≠ w.valores name

/-- The dump keeps every difference of the record. -/
structure GuardaDiferencias (lower : Lower) (e : MainRecord) : Prop where
  leido : ∀ registro, EnElLog (process e) registro →
    ∃ d, parseDumpOutput lower (textoDe registro) = [d] ∧
      d.formId = normalizeFormId lower (intToHex e.formId) ∧
      d.versions = e.versiones.map (Version.leida e.winningOverride.texto)
  /-- Before the last line there is no dump, wherever the log ends. -/
  cortado : ∀ registro, EnElLog (process e).dropLast registro → ∀ corte, corte <+: textoDe registro →
    parseDumpOutput lower corte = []
  listado : ∀ registro, EnElLog (process e) registro →
    ∀ d ∈ parseDumpOutput lower (textoDe registro), ∀ name, DifierenEn e name →
      name ∈ d.differingElements.map Prod.fst

/-- No value ends in white space, which `strip` takes from the line. -/
def SinBlancosFinales (e : MainRecord) : Prop :=
  ∀ v ∈ e.versiones, ∀ el ∈ v.elements, ∀ c ∈ el.value.getLast?, isspace c = false

/-- A name with different lists of values also has two versions whose last values differ. -/
def DifierenAlFinal (e : MainRecord) : Prop :=
  ∀ name, DifierenEn e name → ∃ v ∈ e.versiones, ∃ w ∈ e.versiones,
    v.valores name ≠ [] ∧ w.valores name ≠ [] ∧ (v.valores name).getLast? ≠ (w.valores name).getLast?

end RecordDumps
