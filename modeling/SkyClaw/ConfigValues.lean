import Mathlib.Data.List.AList

set_option linter.all false

/-!
The values of `config.toml` and the flat view of the file. A dictionary is an
association list without repeated keys; the order of its keys means nothing.
-/
namespace ConfigStore

abbrev Clave := String

/-- A number, a date or any other value that is no text, bool, list or table. -/
structure Literal where
  texto : String
  cierto : Bool
  noVacio : texto ≠ ""

inductive Valor where
  | texto (s : String)
  | logico (b : Bool)
  | literal (l : Literal)
  | lista (valores : List Valor)
  | tabla (campos : List (String × Valor))

/-- What the code takes from outside: what stands between the brackets of a list or a
    table in `str`, `str.lower` and the platform's default folder. -/
structure Entorno where
  dentro : Valor → String
  lower : String → String
  moddingRoot : String

def Valor.cierto : Valor → Bool
  | .texto s => s ≠ ""
  | .logico b => b
  | .literal l => l.cierto
  | .lista valores => !valores.isEmpty
  | .tabla campos => !campos.isEmpty

def Valor.str (py : Entorno) : Valor → String
  | .texto s => s
  | .logico true => "True"
  | .logico false => "False"
  | .literal l => l.texto
  | .lista valores => "[" ++ py.dentro (.lista valores) ++ "]"
  | .tabla campos => "\x7b" ++ py.dentro (.tabla campos) ++ "\x7d"

/-- `==` between a value and a text. -/
def Valor.esTexto (s : String) : Valor → Bool
  | .texto t => t == s
  | _ => false

theorem str_ne_empty (py : Entorno) {v : Valor} (true_ : v.cierto = true) : v.str py ≠ "" := by
  cases v with
  | texto s => exact of_decide_eq_true true_
  | logico b => cases b <;> simp [Valor.str]
  | literal l => exact l.noVacio
  | lista valores => simp [Valor.str]
  | tabla campos => simp [Valor.str]

abbrev Diccionario := AList fun _ : Clave => Valor

def Diccionario.filtra (d : Diccionario) (p : Clave → Bool) : Diccionario :=
  ⟨d.entries.filter fun e => p e.1, d.nodupKeys.sublist List.filter_sublist⟩

theorem lookup_filtra (d : Diccionario) (p : Clave → Bool) (key : Clave) :
    (d.filtra p).lookup key = if p key then d.lookup key else none := by
  ext v
  rw [← Option.mem_def, AList.mem_lookup_iff, Diccionario.filtra, List.mem_filter]
  split
  · next yes => simp [yes, ← AList.mem_lookup_iff]
  · next no => simp [no]

theorem lookup_union (d e : Diccionario) (key : Clave) :
    (d ∪ e).lookup key = (d.lookup key).or (e.lookup key) := by
  by_cases inside : key ∈ d
  · rw [AList.lookup_union_left inside]
    obtain ⟨v, found⟩ := Option.isSome_iff_exists.mp (AList.lookup_isSome.mpr inside)
    rw [found]
    rfl
  · rw [AList.lookup_union_right inside, AList.lookup_eq_none.mpr inside]
    rfl

theorem lookup_erase_apply (d : Diccionario) (k key : Clave) :
    (d.erase k).lookup key = if key = k then none else d.lookup key := by
  split
  · next same => rw [same, AList.lookup_erase]
  · next other => exact AList.lookup_erase_ne other

theorem lookup_insert_apply (d : Diccionario) (k key : Clave) (v : Valor) :
    (d.insert k v).lookup key = if key = k then some v else d.lookup key := by
  split
  · next same => subst same; exact AList.lookup_insert d
  · next other => exact AList.lookup_insert_ne other

/-! The flat view -/

def clavesSensibles : List Clave :=
  ["llm_api_key", "openai_api_key", "anthropic_api_key", "deepseek_api_key", "nexus_api_key",
    "search_api_key", "telegram_bot_token", "ws_auth_token"]

/-- `section[campo]`, when the section is a table that has it. -/
def Diccionario.enSeccion (d : Diccionario) (seccion campo : String) : Option Valor :=
  match d.lookup seccion with
  | some (.tabla campos) => campos.lookup campo
  | _ => none

/-- Where the flat key is taken from in the legacy sections. -/
def Diccionario.extraido (d : Diccionario) (key : Clave) : Option Valor :=
  if key = "telegram_bot_token" then d.enSeccion "telegram" "token"
  else if key = "telegram_chat_id" then d.enSeccion "telegram" "chat_id"
  else if key = "nexus_api_key" then d.enSeccion "nexus" "api_key"
  else if key = "mo2_root" then d.enSeccion "paths" "mo2_path"
  else if key = "skyrim_path" then d.enSeccion "paths" "skyrim_path"
  else none

def clavesExtraidas : List Clave :=
  ["telegram_bot_token", "telegram_chat_id", "nexus_api_key", "mo2_root", "skyrim_path"]

def extraidos (d : Diccionario) : Diccionario :=
  clavesExtraidas.foldl (fun e key => match d.extraido key with
    | some v => e.insert key v
    | none => e) ∅

/-- `_parse_toml_de_config_a_plano`: what stands at the top wins over the sections. -/
def plano (d : Diccionario) : Diccionario :=
  ((d.erase "telegram").erase "nexus").erase "paths" ∪ extraidos d

def secciones : List Clave := ["telegram", "nexus", "paths"]

theorem lookup_extraidos_fold (d e : Diccionario) (keys : List Clave) (key : Clave) :
    (keys.foldl (fun e key => match d.extraido key with
      | some v => e.insert key v
      | none => e) e).lookup key =
    if key ∈ keys then (d.extraido key).or (e.lookup key) else e.lookup key := by
  induction keys generalizing e with
  | nil => rfl
  | cons k keys ih =>
    rw [List.foldl_cons, ih]
    have head : (match d.extraido k with
        | some v => e.insert k v
        | none => e).lookup key = if key = k then (d.extraido key).or (e.lookup key) else e.lookup key := by
      cases found : d.extraido k with
      | none =>
        by_cases same : key = k
        · simp [same, found]
        · simp [same]
      | some v =>
        rw [lookup_insert_apply]
        by_cases same : key = k
        · simp [same, found]
        · simp [same]
    rw [head]
    by_cases same : key = k
    · cases found : d.extraido k <;> simp [same, found]
    · simp [same]

theorem extraido_of_not_mem {d : Diccionario} {key : Clave} (other : key ∉ clavesExtraidas) :
    d.extraido key = none := by
  simp only [clavesExtraidas, List.mem_cons, List.not_mem_nil, or_false, not_or] at other
  simp [Diccionario.extraido, other]

theorem lookup_plano (d : Diccionario) (key : Clave) :
    (plano d).lookup key =
      if key ∈ secciones then d.extraido key else (d.lookup key).or (d.extraido key) := by
  have taken : (extraidos d).lookup key = d.extraido key := by
    rw [extraidos, lookup_extraidos_fold]
    by_cases listed : key ∈ clavesExtraidas
    · simp [listed]
    · simp [listed, extraido_of_not_mem]
  rw [plano, lookup_union, taken]
  simp only [lookup_erase_apply, secciones, List.mem_cons, List.not_mem_nil, or_false]
  by_cases paths : key = "paths"
  · simp [paths]
  by_cases nexus : key = "nexus"
  · simp [nexus]
  by_cases telegram : key = "telegram"
  · simp [telegram]
  · simp [paths, nexus, telegram]

/-- The flat view has no sections. -/
theorem plano_seccion {d : Diccionario} {key : Clave} (inside : key ∈ secciones) :
    (plano d).lookup key = none := by
  rw [lookup_plano, if_pos inside]
  refine extraido_of_not_mem ?_
  simp only [secciones, List.mem_cons, List.not_mem_nil, or_false] at inside
  obtain rfl | rfl | rfl := inside <;> decide

end ConfigStore
