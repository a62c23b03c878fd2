import Mathlib.Data.List.Sort
import SkyClaw.TextLines

set_option linter.all false

/-!
The conflict report of xEdit: what the analyzer reads from the lines of the
script, how it classifies it and how it groups it by pair of plugins.
-/
namespace XeditConflicts
open TrimmedText TextLines

local instance lawfulBEq_tipo : LawfulBEq (List Char) := inferInstance

structure OverrideFlagState where
  plugin : Texto
  flag : Texto
  value : Bool
  deriving DecidableEq

structure FlagAlert where
  formId : Texto
  editorId : Texto
  recordType : Texto
  flag : Texto
  winner : Texto
  definedBy : List Texto
  explanation : Texto
  severity : Texto
  deriving DecidableEq

inductive Severity where
  | critical
  | warning
  | info
  deriving DecidableEq

structure RecordConflict where
  formId : Texto
  editorId : Texto
  recordType : Texto
  winner : Texto
  losers : List Texto
  severity : Severity
  flagStates : List OverrideFlagState := []
  flagAlerts : List FlagAlert := []
  deriving DecidableEq

structure PluginConflictPair where
  pluginA : Texto
  pluginB : Texto
  conflicts : List RecordConflict
  deriving DecidableEq

structure ConflictReport where
  totalConflicts : Nat
  criticalConflicts : Nat
  pluginPairs : List PluginConflictPair
  deriving DecidableEq

/-! The lines of the protocol -/

/-- `_FORMID_RE`. -/
def esFormId (t : Texto) : Bool :=
  t.length = 8 && t.all fun c => c.isDigit || ('A' ≤ c && c ≤ 'F') || ('a' ≤ c && c ≤ 'f')

def marcaFlag : Texto := "FLAG|".toList
def marcaConflict : Texto := "CONFLICT|".toList
def marcaSummary : Texto := "SUMMARY|".toList

/-- What `parse_flag_lines` makes of a stripped line: a form id and a state. -/
def leerFlag (linea : Texto) : Option (Texto × OverrideFlagState) :=
  if marcaFlag.isPrefixOf linea then
    match linea.splitOn '|' with
    | [_, id, plugin, flag, valor] =>
      let formId := strip isspace id
      if !esFormId formId then none
      else if strip isspace valor = ['1'] then
        some (formId, ⟨strip isspace plugin, strip isspace flag, true⟩)
      else if strip isspace valor = ['0'] then
        some (formId, ⟨strip isspace plugin, strip isspace flag, false⟩)
      else none
    | _ => none
  else none

/-- `parse_flag_lines`: the assignments to the dictionary, in order. -/
def parseFlagLines (stdout : Texto) : List (Texto × OverrideFlagState) :=
  (splitlines stdout).filterMap fun l => leerFlag (strip isspace l)

def estadosDe (flags : List (Texto × OverrideFlagState)) (formId : Texto) : List OverrideFlagState :=
  (flags.filter (·.1 = formId)).map (·.2)

/-- The names between commas, without blanks and without the empty ones. -/
def leerPerdedores (campo : Texto) : List Texto :=
  ((campo.splitOn ',').map (strip isspace)).filter (· ≠ [])

def leerConflict (flags : List (Texto × OverrideFlagState)) (linea : Texto) : Option RecordConflict :=
  if marcaConflict.isPrefixOf linea then
    match linea.splitOn '|' with
    | _ :: id :: editor :: tipo :: ganador :: perdedores :: _ =>
      let formId := strip isspace id
      if !esFormId formId then none
      else some {
        formId := formId
        editorId := strip isspace editor
        recordType := strip isspace tipo
        winner := strip isspace ganador
        losers := leerPerdedores perdedores
        severity := .info
        flagStates := estadosDe flags formId }
    | _ => none
  else none

def parseConflictLines (stdout : Texto) : List RecordConflict :=
  (splitlines stdout).filterMap fun l => leerConflict (parseFlagLines stdout) (strip isspace l)

/-- `key=value` parts whose value is a number; the others are passed over. -/
def leerCuenta (parte : Texto) : Option (Texto × Int) :=
  if '=' ∈ parte then
    (int ((parte.dropWhile (· ≠ '=')).tail)).map fun n =>
      (strip isspace (parte.takeWhile (· ≠ '=')), n)
  else none

/-- `parse_summary_line`: the assignments of the first SUMMARY line. -/
def parseSummaryLine (stdout : Texto) : List (Texto × Int) :=
  match ((splitlines stdout).map (strip isspace)).find? fun l => marcaSummary.isPrefixOf l with
  | some linea => (linea.splitOn '|').tail.filterMap leerCuenta
  | none => []

/-! Rules and groups -/

structure FlagRule where
  signature : Texto
  flag : Texto
  explanation : Texto

def manualCostCalcRule : FlagRule :=
  { signature := "SPEL".toList
    flag := "Manual Cost Calc".toList
    explanation := ("sin este flag el motor recalcula el coste por duración → " ++
      "coste astronómico en mods de magia sostenida").toList }

def defaultFlagRules : List FlagRule := [manualCostCalcRule]

def evaluateFlagRule (conflict : RecordConflict) (rule : FlagRule) : Option FlagAlert :=
  if rule.signature ≠ conflict.recordType then none
  else
    match conflict.flagStates.find? fun f => f.plugin = conflict.winner && f.flag = rule.flag with
    | some ⟨_, _, false⟩ =>
      let definedBy := (conflict.flagStates.filter fun f =>
        f.flag = rule.flag && f.value && f.plugin ≠ conflict.winner).map (·.plugin)
      if definedBy = [] then none
      else some {
        formId := conflict.formId
        editorId := conflict.editorId
        recordType := conflict.recordType
        flag := rule.flag
        winner := conflict.winner
        definedBy := definedBy
        explanation := rule.explanation
        severity := "critical".toList }
    | _ => none

def evaluateFlagRules (conflict : RecordConflict) : List FlagAlert :=
  defaultFlagRules.filterMap (evaluateFlagRule conflict)

def textos (l : List String) : List Texto := l.map String.toList

def defaultCriticalTypes : List Texto :=
  textos ["NPC_", "QUST", "SCEN", "INFO", "PERK", "SPEL", "MGEF", "FACT", "DIAL", "PACK"]

def defaultWarningTypes : List Texto :=
  textos ["CELL", "WRLD", "REFR", "ACHR", "NAVM", "LAND", "WEAP", "ARMO", "AMMO", "BOOK", "INGR",
    "ALCH", "MISC", "CONT", "DOOR", "LIGH", "STAT", "FLOR", "FURN", "LVLI", "LVLN", "LVSP", "ENCH",
    "OTFT", "RACE", "COBJ", "KYWD"]

/-- An analyzer with its sets of types; `upper` is `str.upper`. -/
structure ConflictAnalyzer where
  upper : Texto → Texto
  critical : List Texto := defaultCriticalTypes
  warning : List Texto := defaultWarningTypes

def ConflictAnalyzer.classify (self : ConflictAnalyzer) (recordType : Texto) : Severity :=
  let sig := strip isspace (self.upper recordType)
  if sig ∈ self.critical then .critical
  else if sig ∈ self.warning then .warning
  else .info

/-- The key of a pair: `(A, B)` and `(B, A)` are the same. -/
def clavePar (winner loser : Texto) : Texto × Texto :=
  if winner < loser then (winner, loser) else (loser, winner)

abbrev PairMap := List ((Texto × Texto) × List RecordConflict)

/-- `pair_map[key].append(c)` on a `defaultdict`, which keeps the order of insertion. -/
def anota (c : RecordConflict) (clave : Texto × Texto) : PairMap → PairMap
  | [] => [(clave, [c])]
  | (otra, cs) :: resto =>
    if otra = clave then (otra, cs ++ [c]) :: resto else (otra, cs) :: anota c clave resto

def anotaTodos (pairMap : PairMap) (conflicts : List RecordConflict) : PairMap :=
  conflicts.foldl (fun m c => c.losers.foldl (fun m loser => anota c (clavePar c.winner loser) m) m)
    pairMap

/-- `sorted` by the number of conflicts, the largest first; it is stable. -/
def groupByPair (conflicts : List RecordConflict) : List PluginConflictPair :=
  ((anotaTodos [] conflicts).mergeSort fun x y => y.2.length ≤ x.2.length).map
    fun p => ⟨p.1.1, p.1.2, p.2⟩

def ConflictAnalyzer.classifyAll (self : ConflictAnalyzer) (raw : List RecordConflict) :
    List RecordConflict :=
  raw.map fun rc =>
    let rc := { rc with severity := self.classify rc.recordType }
    { rc with flagAlerts := evaluateFlagRules rc }

/-- The report over classified conflicts. -/
def construirReporte (classified : List RecordConflict) : ConflictReport :=
  { totalConflicts := classified.length
    criticalConflicts := classified.countP (·.severity = .critical)
    pluginPairs := groupByPair classified }

structure ScriptExecutionResult where
  success : Bool
  rawStdout : Texto

inductive AnalysisError where
  | fallo
  | sinSummary
  | inconsistente (declarados : Int) (parseados : Nat)
  deriving DecidableEq

def totalConflictsKey : Texto := "total_conflicts".toList

def ConflictAnalyzer.analyze (self : ConflictAnalyzer) (result : ScriptExecutionResult) :
    Except AnalysisError ConflictReport :=
  if !result.success then .error .fallo
  else
    let raw := parseConflictLines result.rawStdout
    match (parseSummaryLine result.rawStdout).reverse.lookup totalConflictsKey with
    | none => .error .sinSummary
    | some total =>
      if total ≠ raw.length then .error (.inconsistente total raw.length)
      else .ok (construirReporte (self.classifyAll raw))

end XeditConflicts
