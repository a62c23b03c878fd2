import Mathlib.Data.List.Sort
import SkyClaw.FingerprintExactness
import SkyClaw.PluginSources
import SkyClaw.Utf8Fields

set_option linter.all false

/-!
The two readers of `plugins.txt`: `plugin_sources` reads the text for the sensors of the
load order, `vfs_attestation` the bytes for the attestation. Without a star in the file the
first takes every line as active, the second none.
-/
namespace PluginReaders
open PluginSources TextLines TrimmedText Utf8Fields
open VfsAttestation hiding Texto

local instance lawfulBEq_activo : LawfulBEq (List UInt8) := inferInstance

def marca : Char := '\uFEFF'

/-- The line ends of a file that is opened as text. -/
def saltosUniversales : Texto → Texto
  | '\r' :: '\n' :: t => '\n' :: saltosUniversales t
  | '\r' :: t => '\n' :: saltosUniversales t
  | c :: t => c :: saltosUniversales t
  | [] => []

def sinMarca (t : Texto) : Texto := if t.head? = some marca then t.tail else t

/-- `read_text(encoding="utf-8-sig")` -/
def leeTexto (t : Texto) : Texto := saltosUniversales (sinMarca t)

def activosDe (t : Texto) : Option (List Texto) :=
  parseActivation (some ⟨"plugins.txt".toList, some (leeTexto t)⟩)

/-- The identity of a name for the attestation. -/
def clave (nombre : Texto) : Bytes := caseInsensitiveKey (bytesOf nombre)

/-- `_always_active_plugins` of a game that declares no Creation Club. -/
def alwaysActivePlugins : List Bytes := officialMasters.map fun n => bytesOf (n.map Char.toLower)

/-- `read_enabled_plugins` -/
def readEnabledPlugins (alwaysActive : List Bytes) (data : Option Bytes) : Except Fallo (List Bytes) := do
  let estado ← canonicalPluginsState alwaysActive data
  return alwaysActive.insertionSort (· ≤ ·) ++ if estado = [] then [] else estado.splitOn 0

/-! The lines -/

def textoDe : Salto → Texto
  | .lf => ['\n']
  | .crlf => ['\r', '\n']
  | .cr => ['\r']

theorem bytesOf_salto (s : Salto) (t : Texto) : bytesOf (textoDe s ++ t) = s.bytes ++ bytesOf t := by
  cases s <;> rfl

/-- The first line of a text that has a line end. -/
theorem primera_linea (u : Texto) : (∀ c ∈ u, c ≠ '\r' ∧ c ≠ '\n') ∨
    ∃ l s r, (∀ c ∈ l, c ≠ '\r' ∧ c ≠ '\n') ∧ u = l ++ (textoDe s ++ r) ∧ (s = .cr → r.head? ≠ some '\n') := by
  induction u with
  | nil => exact .inl nofun
  | cons c u ih =>
    by_cases feed : c = '\n'
    · subst feed
      exact .inr ⟨[], .lf, u, nofun, rfl, nofun⟩
    · by_cases ret : c = '\r'
      · subst ret
        by_cases next : u.head? = some '\n'
        · obtain ⟨r, rfl⟩ := List.head?_eq_some_iff.mp next
          exact .inr ⟨[], .crlf, r, nofun, rfl, nofun⟩
        · exact .inr ⟨[], .cr, u, nofun, rfl, fun _ => next⟩
      · cases ih with
        | inl clean => exact .inl (List.forall_mem_cons.mpr ⟨⟨ret, feed⟩, clean⟩)
        | inr found =>
          obtain ⟨l, s, r, clean, rfl, plain⟩ := found
          exact .inr ⟨c :: l, s, r, List.forall_mem_cons.mpr ⟨⟨ret, feed⟩, clean⟩, rfl, plain⟩

theorem saltosUniversales_limpio {l : Texto} (clean : ∀ c ∈ l, c ≠ '\r' ∧ c ≠ '\n') (r : Texto) :
    saltosUniversales (l ++ r) = l ++ saltosUniversales r := by
  induction l with
  | nil => rfl
  | cons c l ih =>
    obtain ⟨first, rest⟩ := List.forall_mem_cons.mp clean
    rw [List.cons_append, saltosUniversales, ih rest, List.cons_append]
    · intro t same
      exact absurd same first.1
    · intro same
      exact first.1 same

theorem saltosUniversales_salto {s : Salto} {r : Texto} (plain : s = .cr → r.head? ≠ some '\n') :
    saltosUniversales (textoDe s ++ r) = '\n' :: saltosUniversales r := by
  cases s with
  | lf =>
    rw [textoDe, List.singleton_append, saltosUniversales]
    · intro t same
      cases same
    · intro same
      cases same
  | crlf => rw [textoDe, List.cons_append, List.singleton_append, saltosUniversales]
  | cr =>
    rw [textoDe, List.singleton_append, saltosUniversales]
    intro t same
    exact plain rfl (by rw [same]; rfl)

theorem bytes_limpios {l : Texto} (clean : ∀ c ∈ l, c ≠ '\r' ∧ c ≠ '\n') : ∀ b ∈ bytesOf l, b ≠ 0x0D ∧ b ≠ 0x0A := by
  intro b mem
  constructor
  · intro same
    subst same
    exact (clean _ (mem_bytesOf (by decide) mem)).1 rfl
  · intro same
    subst same
    exact (clean _ (mem_bytesOf (by decide) mem)).2 rfl

/-- A text breaks its lines only at CR and LF. -/
def SaltosPlanos (t : Texto) : Prop := ∀ c ∈ t, esSalto c = true → c = '\r' ∨ c = '\n'

instance (t : Texto) : Decidable (SaltosPlanos t) :=
  inferInstanceAs (Decidable (∀ c ∈ t, esSalto c = true → c = '\r' ∨ c = '\n'))

theorem solida {l : Texto} (planos : SaltosPlanos l) (clean : ∀ c ∈ l, c ≠ '\r' ∧ c ≠ '\n') :
    ∀ c ∈ l, esSalto c = false := by
  intro c mem
  by_contra brk
  cases planos c mem (by simpa using brk) with
  | inl ret => exact (clean c mem).1 ret
  | inr feed => exact (clean c mem).2 feed

/-- The lines of the bytes are those of the text, but for empty ones. -/
theorem lineas_iguales {β : Type} {f : Bytes → Option β} (none_ : f [] = none) {u : Texto} (planos : SaltosPlanos u) :
    (iterPluginsLines (bytesOf u)).filterMap f =
      (splitlines (saltosUniversales u)).filterMap fun l => f (bytesOf l) := by
  induction size : u.length using Nat.strongRecOn generalizing u with
  | ind n ih =>
    cases primera_linea u with
    | inl clean =>
      have whole := saltosUniversales_limpio clean []
      rw [List.append_nil, saltosUniversales, List.append_nil] at whole
      rw [iterPluginsLines_limpio (bytes_limpios clean), whole]
      by_cases empty : u = []
      · subst empty
        rw [bytesOf_nil, List.filterMap_cons_none none_]
        rfl
      · rw [splitlines_single (solida planos clean) empty]
        rfl
    | inr found =>
      obtain ⟨l, s, r, clean, rfl, plain⟩ := found
      have shorter : r.length < n := by
        rw [← size, List.length_append, List.length_append]
        have some_ : 0 < (textoDe s).length := by cases s <;> decide
        omega
      have front : SaltosPlanos l := fun c mem => planos c (List.mem_append_left _ mem)
      have rest : SaltosPlanos r := fun c mem => planos c (List.mem_append_right _ (List.mem_append_right _ mem))
      have line := splitlines_line (solida front clean) false (saltosUniversales r)
      simp only [Bool.false_eq_true, ↓reduceIte, List.singleton_append] at line
      rw [bytesOf_append, bytesOf_salto, filterMap_linea none_ (bytes_limpios clean), ih _ shorter rest rfl,
        saltosUniversales_limpio clean, saltosUniversales_salto plain, line, List.filterMap_cons]
      cases f (bytesOf l) with
      | none => rfl
      | some k => rfl

/-! One line -/

/-- Blanks and tabs. -/
def blancoDe (c : Char) : Bool := charOf blanco c

theorem blanco_bajo : ∀ b, blanco b = true → b.toNat < 128 := by
  intro b white
  simp only [blanco, Bool.or_eq_true, decide_eq_true_eq] at white
  rcases white with rfl | rfl <;> decide

theorem strip_linea (l : Texto) : strip blanco (bytesOf l) = bytesOf (strip blancoDe l) :=
  strip_bytesOf blanco_bajo l

theorem isspace_of_blancoDe {c : Char} (white : blancoDe c = true) : isspace c = true := by
  simp only [blancoDe, charOf, blanco, Bool.and_eq_true, Bool.or_eq_true, decide_eq_true_eq] at white
  have number := white.2.imp (congrArg UInt8.toNat) (congrArg UInt8.toNat)
  simp only [UInt8.toNat_ofNat', UInt8.toNat_ofNat] at number
  simp only [isspace, Bool.or_eq_true, Bool.and_eq_true, decide_eq_true_eq]
  omega

/-- More blanks at the ends of what is left. -/
theorem strip_mas {α : Type} {p q : α → Bool} (more : ∀ a, p a = true → q a = true) (l : List α) :
    strip q (strip p l) = strip q l := by
  have front : strip q (l.dropWhile p) = strip q l := by
    have all : ∀ a ∈ l.takeWhile p, q a = true := fun a mem => more a (List.mem_takeWhile_imp mem)
    rw [← strip_blank_append all, List.takeWhile_append_dropWhile]
  have back : strip q ((l.dropWhile p).rdropWhile p) = strip q (l.dropWhile p) := by
    have all : ∀ a ∈ (l.dropWhile p).rtakeWhile p, q a = true := fun a mem => more a (List.mem_rtakeWhile_imp mem)
    rw [← strip_append_blank all, List.rdropWhile_append_rtakeWhile]
  exact back.trans front

/-- What follows the star of a line and the blanks and tabs after it. -/
def trasEstrella (l : Texto) : Texto :=
  match strip blancoDe l with
  | '*' :: r => strip blancoDe r
  | _ => []

/-- No other white space stands there. -/
def Llana (l : Texto) : Prop := ∀ c ∈ (trasEstrella l).head?, isspace c = false

instance (l : Texto) : Decidable (Llana l) :=
  inferInstanceAs (Decidable (∀ c ∈ (trasEstrella l).head?, isspace c = false))

/-- What a line of the text activates. -/
def activaTexto (alwaysActive : List Bytes) (l : Texto) : Option Bytes :=
  let linea := strip isspace l
  let k := clave (strip isspace (linea.drop 1))
  if linea.head? = some '*' ∧ k ∉ alwaysActive then some k else none

/-- The lines that are accepted: empty, a comment, or a valid name. -/
def LineaValida (rawLine : Bytes) : Prop :=
  strip blanco rawLine = [] ∨ (strip blanco rawLine).head? = some almohadilla ∨
    ∃ nombre, validatedPluginName (nombreDe (strip blanco rawLine)) = .ok nombre

theorem leeLineas_validas {alwaysActive vistos lineas claves : List Bytes}
    (read : leeLineas alwaysActive vistos lineas = .ok claves) : ∀ l ∈ lineas, LineaValida l := by
  induction lineas generalizing vistos claves with
  | nil => exact nofun
  | cons rawLine resto ih =>
    rw [leeLineas] at read
    simp only at read
    split at read
    · next inert =>
      refine List.forall_mem_cons.mpr ⟨?_, ih read⟩
      cases inert with
      | inl empty => exact .inl empty
      | inr comment => exact .inr (.inl comment)
    · obtain ⟨nombre, valid, read⟩ := Checks.bind_ok.mp read
      split at read
      · cases read
      · obtain ⟨demas, later, read⟩ := Checks.bind_ok.mp read
        exact List.forall_mem_cons.mpr ⟨.inr (.inr ⟨nombre, valid⟩), ih later⟩

theorem toNat_minusculaAscii (b : UInt8) : (minusculaAscii b).toNat = b.toNat ∨
    65 ≤ b.toNat ∧ b.toNat ≤ 90 ∧ (minusculaAscii b).toNat = b.toNat + 32 := by
  unfold minusculaAscii
  split
  · rw [UInt8.toNat_ofNat']
    omega
  · exact .inl rfl

/-- The last byte of a name with an extension. -/
theorem ultimo_extension {raw : Bytes} (ending : pluginExtensions.any (·.isSuffixOf (raw.map minusculaAscii)) = true)
    {front : Bytes} {b : UInt8} (shape : raw = front ++ [b]) : 65 ≤ b.toNat ∧ b.toNat ≤ 122 := by
  obtain ⟨ext, mem, suffix⟩ := List.any_eq_true.mp ending
  obtain ⟨pre, same⟩ := List.isSuffixOf_iff_suffix.mp suffix
  have last := congrArg List.getLast? same
  rw [shape, List.map_append, List.map_singleton, List.getLast?_concat] at last
  have lows : ∀ e ∈ pluginExtensions, ∃ x ∈ e.getLast?, 97 ≤ x.toNat ∧ x.toNat ≤ 122 := by decide
  obtain ⟨x, here, low⟩ := lows ext mem
  rw [List.getLast?_append, here] at last
  cases Option.some.inj last
  cases toNat_minusculaAscii b with
  | inl kept => omega
  | inr moved => omega

/-- A valid name ends with a letter and has no star. -/
theorem nombre_valido {t : Texto} {nombre : Bytes} (valid : validatedPluginName (bytesOf t) = .ok nombre) :
    '*' ∉ t ∧ ∃ s c, t = s ++ [c] ∧ isspace c = false := by
  unfold validatedPluginName at valid
  split at valid
  · cases valid
  next some_ =>
  split at valid
  · cases valid
  next clean =>
  split at valid
  · next ending =>
    constructor
    · intro star
      refine clean (List.any_eq_true.mpr ⟨estrella, ?_, by decide⟩)
      refine List.mem_flatMap.mpr ⟨'*', star, ?_⟩
      rw [Utf8Text.utf8EncodeChar_ascii (by decide)]
      exact List.mem_singleton.mpr rfl
    · have other : t ≠ [] := fun empty => some_ (bytesOf_eq_nil.mpr empty)
      have last := List.dropLast_concat_getLast other
      refine ⟨t.dropLast, t.getLast other, last.symm, ?_⟩
      have bytes : String.utf8EncodeChar (t.getLast other) ≠ [] := String.utf8EncodeChar_ne_nil
      have shape := List.dropLast_concat_getLast bytes
      have whole : bytesOf t = (bytesOf t.dropLast ++ (String.utf8EncodeChar (t.getLast other)).dropLast) ++
          [(String.utf8EncodeChar (t.getLast other)).getLast bytes] := by
        rw [List.append_assoc, shape, ← List.append_nil (String.utf8EncodeChar _), ← bytesOf_nil, ← bytesOf_cons,
          ← bytesOf_append, last]
      have low := ultimo_extension ending whole
      have same := Utf8Text.ascii_mem_encodeChar (by omega) (List.getLast_mem bytes)
      have valid : ((String.utf8EncodeChar (t.getLast other)).getLast bytes).toNat.isValidChar := Or.inl (by omega)
      have number : (t.getLast other).toNat = ((String.utf8EncodeChar (t.getLast other)).getLast bytes).toNat := by
        conv_lhs => rw [same, Char.ofNat, dif_pos valid]
        rfl
      simp only [isspace, number]
      simp only [Bool.or_eq_false_iff, Bool.and_eq_false_iff, decide_eq_false_iff_not]
      omega
  · cases valid

/-- Both readers take the same from a line that is accepted. -/
theorem linea_de_acuerdo (alwaysActive : List Bytes) {l : Texto} (valid : LineaValida (bytesOf l)) (llana : Llana l) :
    activado alwaysActive (bytesOf l) = activaTexto alwaysActive l := by
  have more : strip isspace l = strip isspace (strip blancoDe l) :=
    (strip_mas (fun _ => isspace_of_blancoDe) l).symm
  have star (t : Texto) : (bytesOf t).head? = some estrella ↔ t.head? = some '*' := head_bytesOf (by decide) t
  unfold LineaValida at valid
  unfold activado activaTexto
  rw [strip_linea] at valid ⊢
  rw [more]
  cases shape : strip blancoDe l with
  | nil =>
    rw [strip_nil, bytesOf_nil]
    rfl
  | cons c r =>
    rw [shape] at valid
    by_cases starred : c = '*'
    · subst starred
      have solid : isspace '*' = false := by decide
      have name : nombreDe (bytesOf ('*' :: r)) = bytesOf (strip blancoDe r) := by
        rw [nombreDe, if_pos ((star _).mpr rfl), bytesOf_ascii (by decide), List.drop_one, List.tail_cons,
          strip_linea]
      have trimmed : strip isspace r = strip blancoDe r := by
        have accepted : ∃ nombre, validatedPluginName (bytesOf (strip blancoDe r)) = .ok nombre := by
          rcases valid with empty | comment | named
          · exact absurd (bytesOf_eq_nil.mp empty) (List.cons_ne_nil _ _)
          · have head : almohadilla.toNat < 128 := by decide
            rw [head_bytesOf head] at comment
            cases comment
          · rw [name] at named
            exact named
        obtain ⟨nombre, accepted⟩ := accepted
        obtain ⟨_, s, d, ending, last⟩ := nombre_valido accepted
        have first : ∀ c ∈ (strip blancoDe r).head?, isspace c = false := by
          unfold Llana trasEstrella at llana
          rw [shape] at llana
          exact llana
        rw [← strip_mas (fun _ => isspace_of_blancoDe) r, ending]
        rw [ending] at first
        cases s with
        | nil => rw [List.nil_append, strip_cons_of_solid last, List.rdropWhile_nil]
        | cons a s => exact trimmed_between (first a rfl) last
      rw [strip_cons_of_solid solid]
      simp only [star, List.head?_cons, name, clave, List.drop_one, List.tail_cons, strip_rdropWhile, trimmed]
    · have plain : ¬(bytesOf (c :: r)).head? = some estrella := by
        rw [star]
        simpa using starred
      have other : ¬(strip isspace (c :: r)).head? = some '*' := by
        intro head
        rcases valid with empty | comment | named
        · exact absurd (bytesOf_eq_nil.mp empty) (List.cons_ne_nil _ _)
        · rw [head_bytesOf (by decide)] at comment
          cases comment
          rw [strip_cons_of_solid (by decide)] at head
          cases head
        · obtain ⟨nombre, named⟩ := named
          have whole : strip blancoDe (c :: r) = c :: r := by rw [← shape, strip_strip]
          rw [nombreDe, if_neg plain, strip_linea, whole] at named
          exact (nombre_valido named).1 (mem_of_mem_strip (List.mem_of_head? head))
      rw [if_neg (fun both => plain both.1), if_neg (fun both => other both.1)]

/-! The whole file -/

/-- Some line is starred, or no line lists a plugin. -/
def Moderno (lineas : List Texto) : Prop :=
  entradas lineas = [] ∨ ∃ e ∈ entradas lineas, e.head? = some '*'

instance (lineas : List Texto) : Decidable (Moderno lineas) :=
  inferInstanceAs (Decidable (entradas lineas = [] ∨ ∃ e ∈ entradas lineas, e.head? = some '*'))

theorem marcadas_filterMap (alwaysActive : List Bytes) (lineas : List Texto) :
    ((((entradas lineas).filter (·.head? = some '*')).map fun l => strip isspace (l.drop 1)).map clave).filter
      (· ∉ alwaysActive) = lineas.filterMap (activaTexto alwaysActive) := by
  induction lineas with
  | nil => rfl
  | cons l lineas ih =>
    have one : entradas (l :: lineas) = entradas [l] ++ entradas lineas := entradas_append [l] lineas
    have here : ((((entradas [l]).filter (·.head? = some '*')).map fun l => strip isspace (l.drop 1)).map clave).filter
        (· ∉ alwaysActive) = (activaTexto alwaysActive l).toList := by
      unfold activaTexto
      by_cases starred : (strip isspace l).head? = some '*'
      · have useful : strip isspace l ≠ [] ∧ (strip isspace l).head? ≠ some '#' := by
          constructor
          · intro empty
            rw [empty] at starred
            cases starred
          · rw [starred]
            decide
        rw [entradas, List.map_singleton, List.filter_cons_of_pos (by simpa using useful), List.filter_nil,
          List.filter_cons_of_pos (by simpa using starred), List.filter_nil, List.map_singleton, List.map_singleton]
        by_cases always : clave (strip isspace ((strip isspace l).drop 1)) ∈ alwaysActive
        · rw [List.filter_cons_of_neg (by simpa using always), if_neg (fun both => both.2 always)]
          rfl
        · rw [List.filter_cons_of_pos (by simpa using always), if_pos ⟨starred, always⟩]
          rfl
      · have none_ : (entradas [l]).filter (·.head? = some '*') = [] := by
          rw [List.filter_eq_nil_iff]
          intro e mem
          obtain ⟨mem, _⟩ := List.mem_filter.mp mem
          rw [List.map_singleton, List.mem_singleton] at mem
          simpa [mem] using starred
        rw [none_, if_neg (fun both => starred both.1)]
        rfl
    rw [one, List.filter_append, List.map_append, List.map_append, List.filter_append, here, ih, List.filterMap_cons]
    cases activaTexto alwaysActive l with
    | none => rfl
    | some k => rfl

theorem activosDe_moderno {t : Texto} (modern : Moderno (splitlines (leeTexto t))) : activosDe t =
    some (((entradas (splitlines (leeTexto t))).filter (·.head? = some '*')).map fun l => strip isspace (l.drop 1)) := by
  unfold activosDe parseActivation readEntries
  simp only [Option.map_some]
  unfold Moderno at modern
  cases listed : entradas (splitlines (leeTexto t)) with
  | nil => rfl
  | cons e es =>
    rw [listed] at modern
    have some_ : ((e :: es).filter (·.head? = some '*')).map (fun l => strip isspace (l.drop 1)) ≠ [] := by
      obtain ⟨x, mem, starred⟩ := modern.resolve_left (List.cons_ne_nil e es)
      intro empty
      rw [List.map_eq_nil_iff] at empty
      exact List.ne_nil_of_mem (List.mem_filter.mpr ⟨mem, by simpa using starred⟩) empty
    have named : esPluginsTxt (some ⟨"plugins.txt".toList, some (leeTexto t)⟩) = true := by
      show decide (("plugins.txt".toList).map Char.toLower = "plugins.txt".toList) = true
      decide
    simp only [if_pos (And.intro named some_)]

theorem sinBom_bytesOf (t : Texto) : sinBom (bytesOf t) = bytesOf (sinMarca t) := by
  have mark : utf8Bom = String.utf8EncodeChar marca := by decide
  unfold sinBom sinMarca
  rw [mark]
  by_cases head : t.head? = some marca
  · obtain ⟨r, rfl⟩ := List.head?_eq_some_iff.mp head
    rw [if_pos ( encodeChar_prefix.mpr rfl), if_pos head, bytesOf_cons, List.drop_left, List.tail_cons]
  · rw [if_neg (fun front => head ( encodeChar_prefix.mp front)), if_neg head]

/-- The starred plugins that the attestation reads are those that the sensors read. -/
theorem lectores_iguales {alwaysActive : List Bytes} {t : Texto} {estado : Bytes}
    (accepted : canonicalPluginsState alwaysActive (some (bytesOf t)) = .ok estado) (planos : SaltosPlanos t)
    (llanas : ∀ l ∈ splitlines (leeTexto t), Llana l) :
    habilitados alwaysActive (bytesOf t) = (splitlines (leeTexto t)).filterMap (activaTexto alwaysActive) := by
  have plain : SaltosPlanos (sinMarca t) := by
    intro c mem brk
    refine planos c ?_ brk
    unfold sinMarca at mem
    split at mem
    · exact List.mem_of_mem_tail mem
    · exact mem
  rw [habilitados, sinBom_bytesOf, lineas_iguales rfl plain, ← leeTexto]
  refine List.filterMap_congr fun l mem => ?_
  have valid : ∀ raw ∈ iterPluginsLines (bytesOf (sinMarca t)), LineaValida raw := by
    simp only [canonicalPluginsState, sinBom_bytesOf] at accepted
    cases read : leeLineas alwaysActive [] (iterPluginsLines (bytesOf (sinMarca t))) with
    | error x =>
      rw [read] at accepted
      cases accepted
    | ok claves => exact leeLineas_validas read
  have here : LineaValida (bytesOf l) := by
    by_cases empty : bytesOf l = []
    · exact .inl (by rw [empty, strip_nil])
    · -- the other lines of the text are lines of the bytes
      have same := lineas_iguales (f := fun raw => if raw = [] then none else some raw) rfl plain
      have listed : bytesOf l ∈ (splitlines (saltosUniversales (sinMarca t))).filterMap fun l =>
          if bytesOf l = [] then none else some (bytesOf l) :=
        List.mem_filterMap.mpr ⟨l, mem, if_neg empty⟩
      rw [← same] at listed
      obtain ⟨raw, inside, kept⟩ := List.mem_filterMap.mp listed
      split at kept
      · cases kept
      · cases kept
        exact valid _ inside
  exact linea_de_acuerdo alwaysActive here (llanas l mem)

end PluginReaders
