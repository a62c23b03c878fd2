import Mathlib.Data.List.Perm.Subperm
import Mathlib.Data.List.TakeWhile
import Mathlib.Logic.Relation
import SkyClaw.Checks

set_option linter.all false

/-!
The settings that let LOOT close on its own, `local/loot/headless_settings.py`:
three keys of `settings.toml` are set by a textual edit, and the TOML before and
after it decides whether it is written.
-/
namespace LootSettings
open Checks

abbrev Texto := List Char

abbrev Bytes := List UInt8

/-- `raw.decode("utf-8")` -/
def decodeUtf8 (raw : Bytes) : Option Texto := raw.toByteArray.utf8Decode?.map Array.toList

/-- `texto.encode("utf-8")` -/
def encodeUtf8 (texto : Texto) : Bytes := texto.flatMap String.utf8EncodeChar

/-- A value that `tomllib` gives: the two types the managed keys have, and the others. -/
inductive Valor (V : Type) where
  | booleano (b : Bool)
  | cadena (s : Texto)
  | otro (v : V)

/-- The dict of a document. -/
structure Documento (V : Type) where
  entradas : List (Texto × Valor V)
  distintas : (entradas.map Prod.fst).Nodup

inductive ErrorToml where
  | decodeError
  /-- An exception that is no `TOMLDecodeError`. -/
  | ajeno
  deriving DecidableEq

/-- `tomllib.loads` and the `==` of Python on the values it gives. -/
structure Tomllib (V : Type) where
  loads : Texto → Except ErrorToml (Documento V)
  igualOtro : V → V → Bool
  igualBooleano : Bool → V → Bool

inductive Gestionado where
  | booleano (b : Bool)
  | cadena (s : Texto)
  deriving DecidableEq

def LOOT_NO_SORTING_CHANGES_DIALOG_KEY : Texto := "useNoSortingChangesDialog".toList

def LOOT_UPDATE_CHECK_KEY : Texto := "enableLootUpdateCheck".toList

def LOOT_LAST_VERSION_KEY : Texto := "lastVersion".toList

def MANAGED_LOOT_HEADLESS_SETTINGS : List (Texto × Gestionado) :=
  [(LOOT_NO_SORTING_CHANGES_DIALOG_KEY, .booleano false), (LOOT_UPDATE_CHECK_KEY, .booleano false)]

def MANAGED_LOOT_SETTINGS_KEYS : List Texto :=
  MANAGED_LOOT_HEADLESS_SETTINGS.map Prod.fst ++ [LOOT_LAST_VERSION_KEY]

/-- The messages of `LootHeadlessSettingsError`. -/
inductive LootHeadlessSettingsError where
  | versionMalFormada (version : Texto)
  | ilegible
  | noUtf8
  | tomlInvalido
  | noEditable (clave : Texto) (valor : Gestionado)
  | edicionInvalida
  | edicionDeMas
  | noEscribible
  deriving DecidableEq

/-- What a call raises: the error of the module, or what `tomllib` raised. -/
inductive Fallo where
  | settings (e : LootHeadlessSettingsError)
  | ajeno
  deriving DecidableEq

inductive Accion where
  | created
  | updated
  | unchanged
  deriving DecidableEq

/-! The version -/

def esDigito (c : Char) : Bool := '0' ≤ c && c ≤ '9'

/-- `0|[1-9][0-9]*` -/
def esComponente : Texto → Bool
  | [] => false
  | c :: t => (c = '0' && t.isEmpty) || ('1' ≤ c && c ≤ '9' && t.all esDigito)

/-- `_LOOT_VERSION.fullmatch` -/
def esVersion (version : Texto) : Bool :=
  (version.splitOn '.').length = 3 && (version.splitOn '.').all esComponente

def managedLootSettings (version : Texto) : Except Fallo (List (Texto × Gestionado)) :=
  if esVersion version then
    .ok (MANAGED_LOOT_HEADLESS_SETTINGS ++ [(LOOT_LAST_VERSION_KEY, .cadena version)])
  else .error (.settings (.versionMalFormada version))

def literalToml : Gestionado → Texto
  | .booleano true => "true".toList
  | .booleano false => "false".toList
  | .cadena s => '"' :: s ++ ['"']

/-! The lines of the file -/

def esBlanco (c : Char) : Bool := c = ' ' || c = '\t'

/-- `_TABLE_HEADER` -/
def esCabecera (linea : Texto) : Bool := (linea.dropWhile esBlanco).head? = some '['

def nombres (clave : Texto) : List Texto :=
  [clave, '"' :: clave ++ ['"'], '\'' :: clave ++ ['\'']]

/-- How long the basic string after its opening quote is. -/
def largoBasica : Texto → Option Nat
  | [] => none
  | '"' :: _ => some 1
  | '\\' :: _ :: t => (largoBasica t).map (· + 2)
  | c :: t => if c = '\\' || c = '\r' then none else (largoBasica t).map (· + 1)

/-- How long the literal string after its opening quote is. -/
def largoLiteral : Texto → Option Nat
  | [] => none
  | c :: t =>
    if c = '\'' then some 1 else if c = '\r' then none else (largoLiteral t).map (· + 1)

/-- How long the value is that the text starts with: `_VALOR_BOOLEANO`, `_VALOR_STRING`. -/
def largoValor : Gestionado → Texto → Option Nat
  | .booleano _, t =>
    if "true".toList.isPrefixOf t then some 4 else if "false".toList.isPrefixOf t then some 5 else none
  | .cadena _, '"' :: t => (largoBasica t).map (· + 1)
  | .cadena _, '\'' :: t => (largoLiteral t).map (· + 1)
  | .cadena _, _ => none

def esFin (t : Texto) : Bool := t = [] || t = ['\r']

/-- `[ \t]*(?:#[^\r\n]*)?\r?$` -/
def esSufijo (t : Texto) : Bool := match t.dropWhile esBlanco with
  | '#' :: comentario => esFin (comentario.dropWhile (· ≠ '\r'))
  | resto => esFin resto

structure Casada where
  prefijo : Texto
  valor : Texto
  sufijo : Texto
  deriving DecidableEq

/-- `_LINEA_GESTIONADA[clave]` on one line; the type of the value gives the pattern. -/
def casa (clave : Texto) (tipo : Gestionado) (linea : Texto) : Option Casada := do
  let sangria := (linea.takeWhile esBlanco).length
  let nombre ← (nombres clave).find? (·.isPrefixOf (linea.drop sangria))
  let igual := sangria + nombre.length +
    ((linea.drop (sangria + nombre.length)).takeWhile esBlanco).length
  if linea[igual]? = some '=' then
    let inicio := igual + 1 + ((linea.drop (igual + 1)).takeWhile esBlanco).length
    let largo ← largoValor tipo (linea.drop inicio)
    if esSufijo ((linea.drop inicio).drop largo) then
      some ⟨linea.take inicio, (linea.drop inicio).take largo, (linea.drop inicio).drop largo⟩
    else none
  else none

/-- The lines before the first header. -/
def raiz (lineas : List Texto) : List Texto := lineas.takeWhile (!esCabecera ·)

/-- The lines of a key in the root table, each with its place. -/
def coincidencias (clave : Texto) (tipo : Gestionado) (lineas : List Texto) : List (Casada × Nat) :=
  (raiz lineas).zipIdx.filterMap fun (linea, i) => (casa clave tipo linea).map (·, i)

def reemplazarValorTopLevel (cuerpo clave : Texto) (valor : Gestionado) : Except Fallo Texto :=
  let lineas := cuerpo.splitOn '\n'
  match coincidencias clave valor lineas with
  | [(c, i)] =>
    .ok (['\n'].intercalate (lineas.set i (c.prefijo ++ literalToml valor ++ c.sufijo)))
  | _ => .error (.settings (.noEditable clave valor))

/-- The line end of the file: that of its first line. -/
def salto (cuerpo : Texto) : Texto :=
  let primero := cuerpo.idxOf '\n'
  if primero < cuerpo.length ∧ 0 < primero ∧ cuerpo[primero - 1]? = some '\r' then ['\r', '\n']
  else ['\n']

def lineaNueva (fin : Texto) (p : Texto × Gestionado) : Texto :=
  p.1 ++ " = ".toList ++ literalToml p.2 ++ fin

/-! The documents -/

variable {V : Type}

def Documento.get (d : Documento V) (clave : Texto) : Option (Valor V) := d.entradas.lookup clave

/-- `_tiene_valor` -/
def tieneValor (d : Documento V) (clave : Texto) (valor : Gestionado) : Bool :=
  match d.get clave, valor with
  | some (.booleano a), .booleano b => a = b
  | some (.cadena a), .cadena b => a = b
  | _, _ => false

/-- `==` -/
def Tomllib.igual (T : Tomllib V) : Valor V → Valor V → Bool
  | .booleano a, .booleano b => a = b
  | .cadena a, .cadena b => a = b
  | .otro a, .otro b => T.igualOtro a b
  | .booleano a, .otro b => T.igualBooleano a b
  | .otro a, .booleano b => T.igualBooleano b a
  | _, _ => false

/-- The entries whose key is not managed. -/
def Documento.otras (d : Documento V) : List (Texto × Valor V) :=
  d.entradas.filter fun e => e.1 ∉ MANAGED_LOOT_SETTINGS_KEYS

/-- `==` on dicts -/
def Tomllib.iguales (T : Tomllib V) (a b : List (Texto × Valor V)) : Bool :=
  a.length = b.length && a.all fun e => (b.lookup e.1).any (T.igual e.2)

def vacio : Documento V := ⟨[], List.nodup_nil⟩

def parsearOFallar (T : Tomllib V) (cuerpo : Texto) (e : LootHeadlessSettingsError) :
    Except Fallo (Documento V) :=
  match T.loads cuerpo with
  | .ok d => .ok d
  | .error .decodeError => .error (.settings e)
  | .error .ajeno => .error .ajeno

def validarEdicion (T : Tomllib V) (nuevo : Texto) (antes : Documento V)
    (deseado : List (Texto × Gestionado)) : Except Fallo Unit := do
  let despues ← parsearOFallar T nuevo .edicionInvalida
  require (T.iguales despues.otras antes.otras ∧ ∀ p ∈ deseado, tieneValor despues p.1 p.2)
    (.settings .edicionDeMas)

/-! The call -/

def BOM : Char := '\ufeff'

def bomDe (texto : Texto) : Texto := if texto.head? = some BOM then [BOM] else []

/-- The keys that do not have the wanted value. -/
def pendientes (antes : Documento V) (deseado : List (Texto × Gestionado)) :
    List (Texto × Gestionado) := deseado.filter fun p => !tieneValor antes p.1 p.2

def presentes (antes : Documento V) (ps : List (Texto × Gestionado)) : List (Texto × Gestionado) :=
  ps.filter fun p => (antes.get p.1).isSome

def ausentes (antes : Documento V) (ps : List (Texto × Gestionado)) : List (Texto × Gestionado) :=
  ps.filter fun p => (antes.get p.1).isNone

/-- The text of the file after the edit, or nothing when it stays. -/
def edicion (T : Tomllib V) (deseado : List (Texto × Gestionado)) (raw : Bytes) :
    Except Fallo (Option Texto) := do
  let texto ← present (.settings .noUtf8) (decodeUtf8 raw)
  let bom := bomDe texto
  let cuerpo := texto.drop bom.length
  let antes ← parsearOFallar T cuerpo .tomlInvalido
  let ps := pendientes antes deseado
  if ps = [] then return none
  let editado ← (presentes antes ps).foldlM (fun t p => reemplazarValorTopLevel t p.1 p.2) cuerpo
  let nuevo := (ausentes antes ps).flatMap (lineaNueva (salto cuerpo)) ++ editado
  validarEdicion T nuevo antes deseado
  return some (bom ++ nuevo)

/-- The file, and what stands under the temporary name. -/
structure Disco where
  settings : Option Bytes
  temporal : Option Bytes

/-- How the operations of one call go; `parcial` is what a failed write leaves. -/
structure Sistema where
  lee : Bool
  abre : Bool
  parcial : Option Bytes
  reemplaza : Bool
  borra : Bool

/-- `temporal.unlink()`, its error suppressed. -/
def limpiar (s : Sistema) (d : Disco) : Disco := if s.borra then { d with temporal := none } else d

def escribirAtomico (s : Sistema) (contenido : Bytes) (d : Disco) : Except Fallo Unit × Disco :=
  if !s.abre then (.error (.settings .noEscribible), limpiar s d)
  else match s.parcial with
    | some parte => (.error (.settings .noEscribible), limpiar s { d with temporal := some parte })
    | none =>
      if s.reemplaza then (.ok (), ⟨some contenido, none⟩)
      else (.error (.settings .noEscribible), limpiar s { d with temporal := some contenido })

/-- `escribirAtomico` of a text, and what the call returns after it. -/
def escribir (s : Sistema) (texto : Texto) (accion : Accion) (d : Disco) :
    Except Fallo Accion × Disco :=
  match escribirAtomico s (encodeUtf8 texto) d with
  | (.ok (), d') => (.ok accion, d')
  | (.error e, d') => (.error e, d')

def ensureLootHeadlessSettings (T : Tomllib V) (s : Sistema) (version : Texto) (d : Disco) :
    Except Fallo Accion × Disco :=
  match managedLootSettings version with
  | .error e => (.error e, d)
  | .ok deseado =>
    if !s.lee then (.error (.settings .ilegible), d)
    else match d.settings with
      | none =>
        let contenido := deseado.flatMap (lineaNueva ['\n'])
        match validarEdicion T contenido vacio deseado with
        | .error e => (.error e, d)
        | .ok () => escribir s contenido .created d
      | some raw =>
        match edicion T deseado raw with
        | .error e => (.error e, d)
        | .ok none => (.ok .unchanged, d)
        | .ok (some texto) => escribir s texto .updated d

/-! The text -/

theorem decode_encode (texto : Texto) : decodeUtf8 (encodeUtf8 texto) = some texto := by
  have same : (encodeUtf8 texto).toByteArray = texto.utf8Encode := rfl
  rw [decodeUtf8, same, List.utf8Decode?_utf8Encode, Option.map_some]

theorem encode_decode {raw : Bytes} {texto : Texto} (decoded : decodeUtf8 raw = some texto) :
    raw = encodeUtf8 texto := by
  obtain ⟨letras, read, rfl⟩ := Option.map_eq_some_iff.mp decoded
  have valid : raw.toByteArray.utf8Decode?.isSome := by simp [read]
  have written := ByteArray.utf8Encode_get_utf8Decode? (h := valid)
  simp only [read, Option.get_some] at written
  simpa [encodeUtf8, List.utf8Encode] using congrArg (·.data.toList) written.symm

/-- Before a line stand the earlier lines with their ends, after it the rest. -/
theorem intercalate_mitad (lineas resto : List Texto) :
    ∃ previo posterior, ∀ l, ['\n'].intercalate (lineas ++ l :: resto) = previo ++ (l ++ posterior) := by
  induction lineas with
  | nil =>
    cases resto with
    | nil => exact ⟨[], [], fun l => by simp⟩
    | cons r rs =>
      exact ⟨[], '\n' :: ['\n'].intercalate (r :: rs), fun l => by
        simp [List.intercalate_cons_cons]⟩
  | cons a lineas ih =>
    obtain ⟨previo, posterior, joined⟩ := ih
    refine ⟨a ++ '\n' :: previo, posterior, fun l => ?_⟩
    rw [List.cons_append, List.intercalate_cons_of_ne_nil (by simp), joined l]
    simp

theorem bomDe_mas {bom cuerpo : Texto} (mark : bom = [BOM] ∨ bom = [] ∧ cuerpo.head? ≠ some BOM) :
    bomDe (bom ++ cuerpo) = bom := by
  cases mark with
  | inl marked => simp [bomDe, marked]
  | inr plain => simp [bomDe, plain.1, plain.2]

theorem bomDe_parte (texto : Texto) :
    ∃ cuerpo, texto = bomDe texto ++ cuerpo ∧ texto.drop (bomDe texto).length = cuerpo ∧
      (bomDe texto = [BOM] ∨ bomDe texto = [] ∧ cuerpo.head? ≠ some BOM) := by
  cases texto with
  | nil => exact ⟨[], rfl, rfl, .inr ⟨rfl, nofun⟩⟩
  | cons c t =>
    by_cases mark : c = BOM
    · exact ⟨t, by simp [bomDe, mark], by simp [bomDe, mark], .inl (by simp [bomDe, mark])⟩
    · exact ⟨c :: t, by simp [bomDe, mark], by simp [bomDe, mark], .inr (by simp [bomDe, mark])⟩

/-! One replaced value -/

/-- The value on a line of a wanted key is replaced by the wanted one. -/
inductive Sustituye (deseado : List (Texto × Gestionado)) : Texto → Texto → Prop where
  | linea {clave : Texto} {valor : Gestionado} {c : Casada} {antes resto : List Texto}
      (wanted : (clave, valor) ∈ deseado)
      (casada : casa clave valor (c.prefijo ++ c.valor ++ c.sufijo) = some c)
      (enRaiz : ∀ l ∈ antes, esCabecera l = false) :
      Sustituye deseado (['\n'].intercalate (antes ++ (c.prefijo ++ c.valor ++ c.sufijo) :: resto))
        (['\n'].intercalate (antes ++ (c.prefijo ++ literalToml valor ++ c.sufijo) :: resto))

theorem casa_partes {clave linea : Texto} {tipo : Gestionado} {c : Casada}
    (casada : casa clave tipo linea = some c) :
    linea = c.prefijo ++ c.valor ++ c.sufijo ∧ c.prefijo ≠ [] := by
  simp only [casa, Option.bind_eq_bind, Option.bind_eq_some_iff] at casada
  obtain ⟨nombre, -, rest⟩ := casada
  split at rest
  · next igual =>
    obtain ⟨largo, -, rest⟩ := Option.bind_eq_some_iff.mp rest
    split at rest
    · cases rest
      have inside := (List.getElem?_eq_some_iff.mp igual).1
      constructor
      · simp only [List.append_assoc, List.take_append_drop]
      · intro none_
        have short := congrArg List.length none_
        simp only [List.length_take, List.length_nil] at short
        omega
    · cases rest
  · cases rest

/-- A found line stands in the root table, at its place. -/
theorem mem_coincidencias {clave : Texto} {tipo : Gestionado} {lineas : List Texto} {c : Casada}
    {i : Nat} (mem : (c, i) ∈ coincidencias clave tipo lineas) :
    ∃ antes resto, lineas = antes ++ (c.prefijo ++ c.valor ++ c.sufijo) :: resto ∧
      antes.length = i ∧ (∀ l ∈ antes, esCabecera l = false) ∧
      casa clave tipo (c.prefijo ++ c.valor ++ c.sufijo) = some c := by
  obtain ⟨⟨linea, j⟩, at_, found⟩ := List.mem_filterMap.mp mem
  obtain ⟨c', casada, same⟩ := Option.map_eq_some_iff.mp found
  cases same
  obtain ⟨bound, place⟩ := List.getElem?_eq_some_iff.mp (List.mk_mem_zipIdx_iff_getElem?.mp at_)
  have cut : (raiz lineas).take i ++ linea :: (raiz lineas).drop (i + 1) = raiz lineas := by
    rw [← place, ← List.drop_eq_getElem_cons bound, List.take_append_drop]
  have whole : raiz lineas ++ lineas.dropWhile (!esCabecera ·) = lineas :=
    List.takeWhile_append_dropWhile
  rw [← (casa_partes casada).1]
  refine ⟨(raiz lineas).take i, (raiz lineas).drop (i + 1) ++ lineas.dropWhile (!esCabecera ·),
    ?_, List.length_take_of_le (Nat.le_of_lt bound), ?_, casada⟩
  · conv_lhs => rw [← whole, ← cut]
    rw [List.append_assoc, List.cons_append]
  · intro l before
    have inside : l ∈ raiz lineas := List.mem_of_mem_take before
    simpa using List.mem_takeWhile_imp inside

theorem reemplazar_sustituye {deseado : List (Texto × Gestionado)} {cuerpo clave nuevo : Texto}
    {valor : Gestionado} (wanted : (clave, valor) ∈ deseado)
    (done : reemplazarValorTopLevel cuerpo clave valor = .ok nuevo) :
    Sustituye deseado cuerpo nuevo := by
  simp only [reemplazarValorTopLevel] at done
  split at done
  · next c i found =>
    cases done
    have mem : (c, i) ∈ coincidencias clave valor (cuerpo.splitOn '\n') := by simp [found]
    obtain ⟨antes, resto, cut, size, enRaiz, casada⟩ := mem_coincidencias mem
    have written : cuerpo = ['\n'].intercalate (cuerpo.splitOn '\n') :=
      (List.intercalate_splitOn '\n').symm
    have set_ : (cuerpo.splitOn '\n').set i (c.prefijo ++ literalToml valor ++ c.sufijo) =
        antes ++ (c.prefijo ++ literalToml valor ++ c.sufijo) :: resto := by
      rw [cut, ← size, List.set_append_right _ _ (Nat.le_refl _), Nat.sub_self, List.set_cons_zero]
    rw [set_, written, cut]
    exact .linea wanted casada enRaiz
  · cases done

example : reemplazarValorTopLevel "lastVersion = '' # x\r\n[t]".toList LOOT_LAST_VERSION_KEY
    (.cadena "0.29.1".toList) = .ok "lastVersion = \"0.29.1\" # x\r\n[t]".toList := by decide

theorem Sustituye.head {deseado : List (Texto × Gestionado)} {cuerpo nuevo : Texto}
    (step : Sustituye deseado cuerpo nuevo) : nuevo.head? = cuerpo.head? := by
  cases step with
  | @linea clave valor c antes resto wanted casada enRaiz =>
    obtain ⟨previo, posterior, joined⟩ := intercalate_mitad antes resto
    obtain ⟨a, t, same⟩ := List.exists_cons_of_ne_nil (casa_partes casada).2
    rw [joined, joined, same]
    cases previo <;> rfl

theorem head_of_cadena {deseado : List (Texto × Gestionado)} {cuerpo nuevo : Texto}
    (steps : Relation.ReflTransGen (Sustituye deseado) cuerpo nuevo) : nuevo.head? = cuerpo.head? := by
  induction steps with
  | refl => rfl
  | tail _ step ih => rw [step.head, ih]

theorem editado_sustituye {deseado ps : List (Texto × Gestionado)} {cuerpo nuevo : Texto}
    (wanted : ps ⊆ deseado)
    (done : ps.foldlM (fun t p => reemplazarValorTopLevel t p.1 p.2) cuerpo = .ok nuevo) :
    Relation.ReflTransGen (Sustituye deseado) cuerpo nuevo := by
  induction ps generalizing cuerpo with
  | nil =>
    cases done
    exact .refl
  | cons p ps ih =>
    rw [List.foldlM_cons] at done
    obtain ⟨medio, first, later⟩ := bind_ok.mp done
    have step := reemplazar_sustituye (wanted List.mem_cons_self) first
    exact .head step (ih (fun q mem => wanted (List.mem_cons_of_mem _ mem)) later)

/-! The documents -/

theorem lookup_filter_clave {β : Type} (p : Texto → Bool) {k : Texto} (keep : p k = true)
    (l : List (Texto × β)) : (l.filter fun e => p e.1).lookup k = l.lookup k := by
  induction l with
  | nil => rfl
  | cons e l ih =>
    obtain ⟨a, v⟩ := e
    rw [List.lookup_cons, List.filter_cons]
    cases same : k == a with
    | true =>
      have kept : p a = true := by
        rw [← eq_of_beq same]
        exact keep
      simp [kept, List.lookup_cons, same]
    | false => split <;> simp [List.lookup_cons, same, ih]

theorem Documento.lookup_otras (d : Documento V) {k : Texto}
    (other : k ∉ MANAGED_LOOT_SETTINGS_KEYS) : d.otras.lookup k = d.get k := by
  have keep : decide (k ∉ MANAGED_LOOT_SETTINGS_KEYS) = true := by simpa using other
  exact lookup_filter_clave (fun a => decide (a ∉ MANAGED_LOOT_SETTINGS_KEYS)) keep d.entradas

theorem Documento.otras_distintas (d : Documento V) : (d.otras.map Prod.fst).Nodup :=
  d.distintas.sublist (List.filter_sublist.map Prod.fst)

/-- Both lack the key, or the two values are equal for Python. -/
def Tomllib.Coinciden (T : Tomllib V) : Option (Valor V) → Option (Valor V) → Prop
  | none, none => True
  | some a, some b => T.igual a b = true
  | _, _ => False

theorem coinciden_of_iguales {T : Tomllib V} {a b : List (Texto × Valor V)}
    (equal : T.iguales a b = true) (unique : (a.map Prod.fst).Nodup) (k : Texto) :
    T.Coinciden (a.lookup k) (b.lookup k) := by
  simp only [Tomllib.iguales, Bool.and_eq_true, decide_eq_true_eq, List.all_eq_true] at equal
  obtain ⟨size, each⟩ := equal
  have found : ∀ e ∈ a, ∃ v, b.lookup e.1 = some v ∧ T.igual e.2 v = true := by
    intro e mem
    simpa [Option.any_eq_true] using each e mem
  cases first : a.lookup k with
  | some x =>
    have mem : (k, x) ∈ a := by
      obtain ⟨l, r, split, -⟩ := List.lookup_eq_some_iff.mp first
      simp [split]
    obtain ⟨v, there, same⟩ := found _ mem
    rw [there]
    exact same
  | none =>
    -- the keys of `a` are keys of `b`, and there are as many
    have inside : a.map Prod.fst ⊆ b.map Prod.fst := by
      intro key mem
      obtain ⟨e, entry, rfl⟩ := List.mem_map.mp mem
      obtain ⟨v, there, -⟩ := found e entry
      obtain ⟨l, r, split, -⟩ := List.lookup_eq_some_iff.mp there
      simp [split]
    have order : (a.map Prod.fst).Perm (b.map Prod.fst) :=
      (List.subperm_of_subset unique inside).perm_of_length_le (by simp [size])
    have absent : k ∉ b.map Prod.fst := by
      rw [← order.mem_iff]
      intro mem
      obtain ⟨e, entry, rfl⟩ := List.mem_map.mp mem
      simpa using List.lookup_eq_none_iff.mp first e entry
    have second : b.lookup k = none := by
      rw [List.lookup_eq_none_iff]
      intro e mem
      rw [bne_iff_ne]
      intro same
      exact absent (List.mem_map.mpr ⟨e, mem, same.symm⟩)
    rw [second]
    trivial

/-- What the guard lets through: the wanted values, and all other keys as they were. -/
structure Fijado (T : Tomllib V) (deseado : List (Texto × Gestionado))
    (antes despues : Documento V) : Prop where
  fijadas : ∀ p ∈ deseado, tieneValor despues p.1 p.2 = true
  otras : ∀ k ∉ MANAGED_LOOT_SETTINGS_KEYS, T.Coinciden (despues.get k) (antes.get k)

theorem parsear_ok {T : Tomllib V} {cuerpo : Texto} {e : LootHeadlessSettingsError}
    {d : Documento V} (read : parsearOFallar T cuerpo e = .ok d) : T.loads cuerpo = .ok d := by
  unfold parsearOFallar at read
  split at read
  · next loaded =>
    cases read
    exact loaded
  all_goals cases read

theorem validar_ok {T : Tomllib V} {nuevo : Texto} {antes : Documento V}
    {deseado : List (Texto × Gestionado)} (valid : validarEdicion T nuevo antes deseado = .ok ()) :
    ∃ despues, T.loads nuevo = .ok despues ∧ Fijado T deseado antes despues := by
  obtain ⟨despues, read, checked⟩ := bind_ok.mp valid
  obtain ⟨equal, fixed⟩ := require_ok.mp checked
  refine ⟨despues, parsear_ok read, fixed, ?_⟩
  intro k other
  have same := coinciden_of_iguales equal despues.otras_distintas k
  rwa [despues.lookup_otras other, antes.lookup_otras other] at same

/-! The call -/

/-- What a call that returns has done to the file. -/
inductive Asentado (T : Tomllib V) (deseado : List (Texto × Gestionado)) :
    Accion → Option Bytes → Option Bytes → Prop where
  | unchanged {bom cuerpo : Texto} {d : Documento V} (mark : bom = [] ∨ bom = [BOM])
      (loaded : T.loads cuerpo = .ok d) (fijadas : ∀ p ∈ deseado, tieneValor d p.1 p.2 = true) :
      Asentado T deseado .unchanged (some (encodeUtf8 (bom ++ cuerpo)))
        (some (encodeUtf8 (bom ++ cuerpo)))
  | created {d : Documento V} (loaded : T.loads (deseado.flatMap (lineaNueva ['\n'])) = .ok d)
      (fijado : Fijado T deseado vacio d) :
      Asentado T deseado .created none (some (encodeUtf8 (deseado.flatMap (lineaNueva ['\n']))))
  | updated {bom cuerpo editado : Texto} {ps : List (Texto × Gestionado)}
      {antes despues : Documento V} (mark : bom = [] ∨ bom = [BOM])
      (loaded : T.loads cuerpo = .ok antes)
      (front : ps.Sublist deseado ∧ ∀ p ∈ ps, antes.get p.1 = none)
      (edited : Relation.ReflTransGen (Sustituye deseado) cuerpo editado)
      (reloaded : T.loads (ps.flatMap (lineaNueva (salto cuerpo)) ++ editado) = .ok despues)
      (fijado : Fijado T deseado antes despues) :
      Asentado T deseado .updated (some (encodeUtf8 (bom ++ cuerpo)))
        (some (encodeUtf8 (bom ++ (ps.flatMap (lineaNueva (salto cuerpo)) ++ editado))))

theorem managed_claves {version : Texto} {deseado : List (Texto × Gestionado)}
    (managed : managedLootSettings version = .ok deseado) :
    ∀ p ∈ deseado, ∃ c t, p.1 = c :: t ∧ c ≠ BOM := by
  unfold managedLootSettings at managed
  split at managed
  · cases managed
    intro p mem
    simp only [MANAGED_LOOT_HEADLESS_SETTINGS, List.cons_append, List.nil_append,
      List.mem_cons, List.not_mem_nil, or_false] at mem
    obtain rfl | rfl | rfl := mem
    · exact ⟨'u', _, rfl, by decide⟩
    · exact ⟨'e', _, rfl, by decide⟩
    · exact ⟨'l', _, rfl, by decide⟩
  · cases managed

/-- The lines in front hide no mark, and make none. -/
theorem head_frente {deseado ps : List (Texto × Gestionado)} {fin cuerpo : Texto}
    (claves : ∀ p ∈ deseado, ∃ c t, p.1 = c :: t ∧ c ≠ BOM) (part : ps ⊆ deseado)
    (plain : cuerpo.head? ≠ some BOM) : (ps.flatMap (lineaNueva fin) ++ cuerpo).head? ≠ some BOM := by
  cases ps with
  | nil => simpa using plain
  | cons p ps =>
    obtain ⟨c, t, same, other⟩ := claves p (part List.mem_cons_self)
    simpa [List.flatMap_cons, lineaNueva, same] using other

/-- A file that has the wanted values is left alone. -/
theorem edicion_quieta {T : Tomllib V} {deseado : List (Texto × Gestionado)} {bom cuerpo : Texto}
    {d : Documento V} (mark : bom = [BOM] ∨ bom = [] ∧ cuerpo.head? ≠ some BOM)
    (loaded : T.loads cuerpo = .ok d) (fijadas : ∀ p ∈ deseado, tieneValor d p.1 p.2 = true) :
    edicion T deseado (encodeUtf8 (bom ++ cuerpo)) = .ok none := by
  have none_ : pendientes d deseado = [] := by
    rw [pendientes, List.filter_eq_nil_iff]
    intro p mem
    simp [fijadas p mem]
  have parsed : parsearOFallar T ((bom ++ cuerpo).drop (bomDe (bom ++ cuerpo)).length)
      .tomlInvalido = .ok d := by
    rw [bomDe_mas mark, List.drop_left, parsearOFallar, loaded]
  refine bind_ok.mpr ⟨_, present_ok.mpr (decode_encode _), bind_ok.mpr ⟨d, parsed, ?_⟩⟩
  simp only [none_]
  rfl

theorem edicion_ok {T : Tomllib V} {deseado : List (Texto × Gestionado)} {raw : Bytes}
    {r : Option Texto} (claves : ∀ p ∈ deseado, ∃ c t, p.1 = c :: t ∧ c ≠ BOM)
    (done : edicion T deseado raw = .ok r) :
    match r with
    | none => Asentado T deseado .unchanged (some raw) (some raw)
    | some texto => Asentado T deseado .updated (some raw) (some (encodeUtf8 texto)) ∧
        edicion T deseado (encodeUtf8 texto) = .ok none := by
  obtain ⟨texto, decoded, done⟩ := bind_ok.mp done
  rw [present_ok] at decoded
  obtain ⟨antes, read, done⟩ := bind_ok.mp done
  obtain ⟨cuerpo, parts, rest, mark⟩ := bomDe_parte texto
  have loaded := parsear_ok read
  rw [rest] at loaded done
  have written : raw = encodeUtf8 (bomDe texto ++ cuerpo) := by
    rw [← parts]
    exact encode_decode decoded
  have plainMark : bomDe texto = [] ∨ bomDe texto = [BOM] := mark.symm.imp_left And.left
  simp only at done
  split at done
  · next none_ =>
    cases done
    have fixed : ∀ p ∈ deseado, tieneValor antes p.1 p.2 = true := by
      intro p mem
      simpa using List.filter_eq_nil_iff.mp none_ p mem
    subst written
    exact .unchanged plainMark loaded fixed
  · obtain ⟨editado, edited, done⟩ := bind_ok.mp done
    obtain ⟨u, valid, done⟩ := bind_ok.mp done
    cases done
    obtain ⟨despues, reloaded, fijado⟩ := validar_ok valid
    have front : (ausentes antes (pendientes antes deseado)).Sublist deseado :=
      List.filter_sublist.trans List.filter_sublist
    have steps : Relation.ReflTransGen (Sustituye deseado) cuerpo editado :=
      editado_sustituye (List.filter_sublist.trans List.filter_sublist).subset edited
    constructor
    · subst written
      refine .updated plainMark loaded ⟨front, ?_⟩ steps reloaded fijado
      intro p mem
      simpa using (List.mem_filter.mp mem).2
    · refine edicion_quieta ?_ reloaded fijado.fijadas
      cases mark with
      | inl marked => exact .inl marked
      | inr plain =>
        refine .inr ⟨plain.1, head_frente claves front.subset ?_⟩
        rw [head_of_cadena steps]
        exact plain.2

theorem escribir_settings (s : Sistema) (texto : Texto) (accion : Accion) (d : Disco) :
    (∃ e, (escribir s texto accion d).1 = .error e ∧
      (escribir s texto accion d).2.settings = d.settings) ∨
    escribir s texto accion d = (.ok accion, ⟨some (encodeUtf8 texto), none⟩) := by
  have kept (d' : Disco) : (limpiar s d').settings = d'.settings := by
    unfold limpiar
    split <;> rfl
  unfold escribir escribirAtomico
  split
  · next done =>
    right
    split at done
    · cases done
    · split at done
      · cases done
      · split at done <;> cases done
        rfl
  · next failed =>
    refine .inl ⟨_, rfl, ?_⟩
    split at failed
    · cases failed
      exact kept d
    · split at failed
      · cases failed
        exact kept _
      · split at failed <;> cases failed
        exact kept _

/-- A call that raises leaves the file as it is; one that returns has set the three keys by an
    edit of nothing else, and the next that can read the file finds nothing to do. -/
def Quirurgica (T : Tomllib V) (version : Texto) (d : Disco) : Except Fallo Accion × Disco → Prop
  | (.error _, d') => d'.settings = d.settings
  | (.ok accion, d') => ∃ deseado, managedLootSettings version = .ok deseado ∧
      Asentado T deseado accion d.settings d'.settings ∧
      ∀ s : Sistema, s.lee = true →
        ensureLootHeadlessSettings T s version d' = (.ok .unchanged, d')

section
variable {T : Tomllib V} {version : Texto} {deseado : List (Texto × Gestionado)}
  (managed : managedLootSettings version = .ok deseado)
include managed

theorem ensure_quieta {raw : Bytes} (quiet : edicion T deseado raw = .ok none) {s : Sistema}
    (readable : s.lee = true) (temporal : Option Bytes) :
    ensureLootHeadlessSettings T s version ⟨some raw, temporal⟩ =
      (.ok .unchanged, ⟨some raw, temporal⟩) := by
  simp [ensureLootHeadlessSettings, managed, readable, quiet]

theorem escribir_quirurgica {texto : Texto} {accion : Accion} {d : Disco}
    (settled : Asentado T deseado accion d.settings (some (encodeUtf8 texto)))
    (quiet : edicion T deseado (encodeUtf8 texto) = .ok none) (s : Sistema) :
    Quirurgica T version d (escribir s texto accion d) := by
  cases escribir_settings s texto accion d with
  | inl failed =>
    obtain ⟨e, raised, kept⟩ := failed
    obtain ⟨d', done⟩ : ∃ d', escribir s texto accion d = (.error e, d') := ⟨_, Prod.ext raised rfl⟩
    rw [done] at kept ⊢
    exact kept
  | inr written =>
    rw [written]
    exact ⟨deseado, managed, settled, fun s' readable => ensure_quieta managed quiet readable none⟩

end

theorem ensure_quirurgica (T : Tomllib V) (s : Sistema) (version : Texto) (d : Disco) :
    Quirurgica T version d (ensureLootHeadlessSettings T s version d) := by
  unfold ensureLootHeadlessSettings
  split
  · exact rfl
  · next deseado managed =>
    have claves := managed_claves managed
    split
    · exact rfl
    · next readable =>
      split
      · next absent =>
        simp only
        split
        · exact rfl
        · next valid =>
          obtain ⟨despues, loaded, fijado⟩ := validar_ok valid
          refine escribir_quirurgica managed ?_ ?_ s
          · rw [absent]
            exact .created loaded fijado
          · have plain : (deseado.flatMap (lineaNueva ['\n']) ++ []).head? ≠ some BOM :=
              head_frente claves (List.Subset.refl deseado) nofun
            rw [List.append_nil] at plain
            have mark : ([] : Texto) = [BOM] ∨ ([] : Texto) = [] ∧
                (deseado.flatMap (lineaNueva ['\n'])).head? ≠ some BOM := .inr ⟨rfl, plain⟩
            have quiet := edicion_quieta mark loaded fijado.fijadas
            rw [List.nil_append] at quiet
            exact quiet
      · next raw there =>
        split
        · exact rfl
        · next same =>
          have settled := edicion_ok claves same
          refine ⟨deseado, managed, ?_, ?_⟩
          · rw [there]
            exact settled
          · intro s' readable'
            obtain ⟨archivo, temporal⟩ := d
            cases there
            exact ensure_quieta managed same readable' temporal
        · next texto edited =>
          obtain ⟨settled, quiet⟩ := edicion_ok claves edited
          refine escribir_quirurgica managed ?_ quiet s
          rw [there]
          exact settled

end LootSettings
