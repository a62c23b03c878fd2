import SkyClaw.LiteralPatterns
import SkyClaw.XeditRoundTrip

set_option linter.all false

/-!
The errors of an xEdit run: `XEditOutputParser.parse` and `_parse_script_output` on
the text that `_merge_protocol_output` gives them.
-/
namespace XeditErrors
open TrimmedText TextLines LiteralPatterns
open XeditConflicts (mergeProtocolOutput quitaMarca trasCaracter trasDigitos esDigito Marca)

local instance lawfulBEq_mensaje : LawfulBEq (List Char) := inferInstance

/-! The patterns of `output_parser.py`. They are matched against lines, so `.` stands for
any character. -/

/-- `\s+`: what it can leave, the longest match first. -/
def trasBlancos (t : Texto) : List Texto :=
  let n := (t.takeWhile isspace).length
  ((List.range n).map fun k => t.drop (n - k))

/-- `\[\d{2}:\d{2}\]` -/
def trasHora (t : Texto) : Option Texto :=
  (trasCaracter '[' t).bind fun t => (trasDigitos 2 2 t).bind fun t => (trasCaracter ':' t).bind fun t =>
    (trasDigitos 2 2 t).bind (trasCaracter ']')

/-- `.+\.es[pmlt]` at the end of a text. -/
def terminaEnPlugin (g : Texto) : Bool :=
  5 ≤ g.length && ["p", "m", "l", "t"].any fun x =>
    trasLiteral (".es" ++ x).toList (g.drop (g.length - 4)) = some []

/-- `(.+\.es[pmlt])`: the group and what follows it, the longest group first. -/
def plugins (t : Texto) : List (Texto × Texto) :=
  ((List.range (t.length + 1)).reverse.map fun k => (t.take k, t.drop k)).filter
    fun g => terminaEnPlugin g.1

def processingLine (linea : Texto) : Option Texto :=
  (trasHora linea).bind fun t => (trasBlancos t).firstM fun t =>
    (trasLiteral "Processing:".toList t).bind fun t =>
      ((trasBlancos t).flatMap plugins).head?.map fun g => strip isspace g.1

structure XEditConflict where
  plugin : Texto
  record : Texto
  detail : Texto
  deriving DecidableEq

/-- `\s*->\s*([^:]+):\s*(.*)`: the record and the detail. -/
def recordYDetalle (t : Texto) : Option (Texto × Texto) :=
  (trasLiteral ['-', '>'] (t.dropWhile isspace)).bind fun t =>
    let record := t.takeWhile (· ≠ ':')
    if record = [] then none
    else (trasCaracter ':' (t.dropWhile (· ≠ ':'))).map fun t => (strip isspace record, strip isspace t)

def detailedConflict (linea : Texto) : Option XEditConflict :=
  (trasHora linea).bind fun t => ((trasBlancos t).flatMap plugins).firstM fun g =>
    (recordYDetalle g.2).map fun r => ⟨strip isspace g.1, r.1, r.2⟩

def conflictLine (linea : Texto) : Option Texto :=
  (trasLiteral "Conflict".toList linea).bind fun t =>
    if t.takeWhile isspace = [] then none
    else (trasLiteral "found:".toList (t.dropWhile isspace)).bind fun t =>
      if t.takeWhile isspace = [] ∨ t.length < 2 then none else some (strip isspace t)

def errorLine (linea : Texto) : Option Texto :=
  ((trasLiteral "Error".toList linea).or (trasLiteral "Fatal".toList linea)).bind fun t =>
    (trasCaracter ':' (t.dropWhile isspace)).bind fun t =>
      if t = [] then none else some (strip isspace t)

inductive Hallazgo where
  | plugin (nombre : Texto)
  | conflicto (c : XEditConflict)
  | error (mensaje : Texto)
  deriving DecidableEq

/-- One turn of the loop over the lines of stdout. -/
def hallazgo (linea : Texto) : Option Hallazgo :=
  let linea := strip isspace linea
  if linea = [] then none
  else
    ((processingLine linea).map .plugin).or <| ((detailedConflict linea).map .conflicto).or <|
      ((conflictLine linea).map fun d => .conflicto ⟨[], [], d⟩).or <| (errorLine linea).map .error

def Hallazgo.error? : Hallazgo → Option Texto
  | .error m => some m
  | _ => none

/-- One turn of the loop over the lines of stderr. -/
def errorDeStderr (linea : Texto) : Option Texto :=
  if strip isspace linea = [] then none else errorLine (strip isspace linea)

structure XEditResult where
  returnCode : Int
  processedPlugins : List Texto
  conflicts : List XEditConflict
  errors : List Texto
  deriving DecidableEq

def XEditResult.success (r : XEditResult) : Bool := r.returnCode = 0 && r.errors = []

def parse (stdout stderr : Texto) (returnCode : Int) : XEditResult :=
  let vistos := (splitlines stdout).filterMap hallazgo
  { returnCode
    processedPlugins := vistos.filterMap fun | .plugin p => some p | _ => none
    conflicts := vistos.filterMap fun | .conflicto c => some c | _ => none
    errors := vistos.filterMap Hallazgo.error? ++ (splitlines stderr).filterMap errorDeStderr }

/-! `_parse_script_output` -/

/-- `\s*(.+)`: the group without blanks around it and what follows it. When all that
follows is blank the group is blank too, or there is no match: nothing is left either way. -/
def mensaje (t : Texto) : Texto × Texto :=
  let u := t.dropWhile isspace
  (strip isspace (u.takeWhile (· ≠ '\n')), u.dropWhile (· ≠ '\n'))

/-- A head and its message, with the length of both. -/
def patron (cabeza t : Texto) : Option (Texto × Nat) :=
  (trasLiteral cabeza t).map fun r => ((mensaje r).1, t.length - (mensaje r).2.length)

def mensajes (cabeza t : Texto) : List Texto := (finditer (patron cabeza) t).filter (· ≠ [])

def agrega (vistos : List Texto) (m : Texto) : List Texto :=
  if m ∈ vistos then vistos else vistos ++ [m]

def cabezasDeError : List Texto :=
  ["ERROR:".toList, "Error:".toList, "Exception:".toList, "Failed to".toList]

def cabezasDeAviso : List Texto := ["WARNING:".toList, "Warning:".toList, "ADVERTENCIA:".toList]

def busca (cabezas : List Texto) (t : Texto) : List Texto :=
  (cabezas.flatMap fun h => mensajes h t).foldl agrega []

/-- `(\d+)`: the number and what follows it. `int` refuses more than 4300 digits, and
then the match does not count. -/
def numero (t : Texto) : Option (Option Int × Texto) :=
  let cifras := t.takeWhile esDigito
  if cifras = [] then none
  else some (if 4300 < cifras.length then none else int cifras, t.dropWhile esDigito)

def trasRecords (t : Texto) : Option Texto :=
  (trasLiteral "record".toList t).map fun t => (trasLiteral ['s'] t).getD t

/-- `Processed (\d+) records?` and `Merged (\d+) records?` -/
def cuenta (verbo t : Texto) : Option (Option Int × Texto) :=
  (trasLiteral verbo t).bind fun t => (numero t).bind fun n =>
    ((trasLiteral [' '] n.2).bind trasRecords).map fun t => (n.1, t)

/-- `records? processed:\s*(\d+)` -/
def procesados (t : Texto) : Option (Option Int × Texto) :=
  (trasRecords t).bind fun t => (trasLiteral " processed:".toList t).bind fun t =>
    numero (t.dropWhile isspace)

/-- `Complete\.\s*(?:Processed|Merged)\s*(\d+)` -/
def completo (t : Texto) : Option (Option Int × Texto) :=
  (trasLiteral "Complete.".toList t).bind fun t =>
    let t := t.dropWhile isspace
    ((trasLiteral "Processed".toList t).or (trasLiteral "Merged".toList t)).bind fun t =>
      numero (t.dropWhile isspace)

def patronesDeRecords : List (Texto → Option (Option Int × Texto)) :=
  [cuenta "Processed ".toList, procesados, cuenta "Merged ".toList, completo]

structure SalidaDeScript where
  recordsProcessed : Int
  errors : List Texto
  warnings : List Texto
  deriving DecidableEq

def parseScriptOutput (stdout stderr : Texto) : SalidaDeScript :=
  let combined := stdout ++ ['\n'] ++ stderr
  { recordsProcessed :=
      (patronesDeRecords.flatMap fun p => finditer (fun t => (p t).map fun n =>
        (n.1, t.length - n.2.length)) combined).foldl (fun m n => max m (n.getD 0)) 0
    errors := busca cabezasDeError combined
    warnings := busca cabezasDeAviso combined }

/-! The prefixes -/

def Marca.enCabeza (m : Option Marca) : Texto := (m.map Marca.texto).getD []

/-- The log with a prefix in front of the lines that `m` gives one. -/
def prefija (m : Nat → Option Marca) (log : Texto) : Texto :=
  textoDeRenglones (antepone (fun i => Marca.enCabeza (m i)) 0 (renglones log))

end XeditErrors
