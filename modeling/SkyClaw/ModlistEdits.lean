import Mathlib.Data.List.Nodup
import SkyClaw.TransitionRuns
import SkyClaw.TrimmedText

set_option linter.all false

/-!
The mutators of `modlist.txt` in `MO2Controller`, `vfs.py`. A profile is the
decoded text of its file, with its byte order mark. `lower` is `str.lower` and
may be anything.
-/
namespace ModlistEdits
open TransitionRuns TrimmedText

abbrev Texto := List Char

def bom : Char := '\uFEFF'

inductive Plataforma where
  | posix
  | windows
  deriving DecidableEq

def Plataforma.linesep : Plataforma → Texto
  | .posix => ['\n']
  | .windows => ['\r', '\n']

/-! Text mode -/

/-- What reading with `newline=None` makes of the terminators. -/
def saltosUniversales : Texto → Texto
  | [] => []
  | '\r' :: '\n' :: t => '\n' :: saltosUniversales t
  | '\r' :: t => '\n' :: saltosUniversales t
  | c :: t => c :: saltosUniversales t

/-- The lines in the order of the file, each with its `'\n'`; only the last may lack it. -/
def lineas : Texto → List Texto
  | [] => []
  | c :: t =>
    if c = '\n' then [c] :: lineas t
    else match lineas t with
      | [] => [[c]]
      | l :: ls => (c :: l) :: ls

/-- `utf-8-sig`. -/
def sinBom : Texto → Texto
  | c :: t => if c = bom then t else c :: t
  | [] => []

def leeLineas (archivo : Texto) : List Texto := lineas (saltosUniversales (sinBom archivo))

def normaliza (line : Texto) : Texto :=
  if line.getLast? = some '\n' then line
  else line.rdropWhile (fun c => c = '\r' ∨ c = '\n') ++ ['\n']

/-- `_write_modlist_atomic`, when the swap happens. -/
def writeModlist (so : Plataforma) (lines : List Texto) : Texto :=
  bom :: (lines.map normaliza).flatten.flatMap fun c => if c = '\n' then so.linesep else [c]

/-! Entries -/

/-- The sign and the stripped name of a line that is an entry. -/
def entrada (line : Texto) : Option (Char × Texto) :=
  match strip isspace line with
  | c :: resto => if c = '+' ∨ c = '-' then some (c, strip isspace resto) else none
  | [] => none

def assertSafeComponent (name : Texto) : Bool :=
  name ≠ [] ∧ name ≠ ['.'] ∧ name ≠ ['.', '.'] ∧ '/' ∉ name ∧ '\\' ∉ name ∧
    name.all fun c => 0x20 ≤ c.toNat

section
variable (lower : Texto → Texto)

def coincide (clave line : Texto) : Bool :=
  match entrada line with
  | some (_, nombre) => lower nombre = clave
  | none => false

def conSigno (signo : Char) (clave line : Texto) : Bool :=
  match entrada line with
  | some (c, nombre) => c = signo ∧ lower nombre = clave
  | none => false

/-- `entradas_del_mod`: place in the file, sign and name of each entry of the mod. -/
def entradasDelMod (clave : Texto) (lines : List Texto) : List (Nat × Char × Texto) :=
  lines.zipIdx.filterMap fun (line, i) =>
    match entrada line with
    | some (signo, nombre) => if lower nombre = clave then some (i, signo, nombre) else none
    | none => none

def nombreExistente (clave : Texto) (lines : List Texto) : Option Texto :=
  (lines.find? (coincide lower clave)).bind fun line => (entrada line).map (·.2)

def indicesCon (signo : Char) (clave : Texto) (lines : List Texto) : List Nat :=
  ((entradasDelMod lower clave lines).filter fun e => e.2.1 = signo).map (·.1)

/-- The first disabled entry, unless the mod has an enabled one. -/
def flipear (clave : Texto) (lines : List Texto) : Option (Nat × Texto) :=
  if indicesCon lower '+' clave lines = [] then
    (((entradasDelMod lower clave lines).filter fun e => e.2.1 = '-').map
      fun e => (e.1, e.2.2)).head?
  else none

def descartar (clave : Texto) (lines : List Texto) : List Nat :=
  (indicesCon lower '-' clave lines).filter
    fun i => some i ≠ (flipear lower clave lines).map (·.1)

/-- The lines that `add_mod_to_modlist` writes at the default priority; `none` when it
returns without writing. -/
def anexa (modName : Texto) (lines : List Texto) : Option (List Texto) :=
  let clave := lower modName
  if entradasDelMod lower clave lines = [] then some (lines ++ ['+' :: modName ++ ['\n']])
  else if flipear lower clave lines = none ∧ descartar lower clave lines = [] then none
  else
    let escritas := match flipear lower clave lines with
      | some (i, nombre) => lines.set i ('+' :: nombre ++ ['\n'])
      | none => lines
    some ((escritas.zipIdx.filter fun (_, i) => i ∉ descartar lower clave lines).map (·.1))

def esCabecera (line : Texto) : Bool :=
  match strip isspace line with
  | c :: _ => c = '#'
  | [] => true

def trasCabecera (nombre : Texto) (lines : List Texto) : List Texto :=
  lines.takeWhile esCabecera ++ ('+' :: nombre ++ ['\n']) :: lines.dropWhile esCabecera

/-- The lines that it writes at the highest priority. -/
def antepone (modName : Texto) (lines : List Texto) : List Texto :=
  trasCabecera ((nombreExistente lower (lower modName) lines).getD modName)
    (lines.filter fun line => !coincide lower (lower modName) line)

def addModToModlist (modName : Texto) (highestPriority : Bool) (priority : Option String)
    (modlist : Option Texto) : Option (List Texto) :=
  let lines := (modlist.map leeLineas).getD []
  if highestPriority ∨ priority = some "highest" then some (antepone lower modName lines)
  else anexa lower modName lines

def removeModFromModlist (modName : Texto) (modlist : Option Texto) : Option (List Texto) :=
  modlist.bind fun archivo =>
    let lines := leeLineas archivo
    if lines.any (coincide lower (lower modName)) then
      some (lines.filter fun line => !coincide lower (lower modName) line)
    else none

def conmuta (signo : Char) (clave line : Texto) : Texto :=
  match entrada line with
  | some (c, nombre) =>
    if lower nombre = clave ∧ c ≠ signo then signo :: nombre ++ ['\n'] else line
  | none => line

def toggleModInModlist (modName : Texto) (enable : Bool) (modlist : Option Texto) :
    Option (List Texto) :=
  modlist.bind fun archivo =>
    let lines := leeLineas archivo
    let signo := if enable then '+' else '-'
    let cambia := fun line => coincide lower (lower modName) line &&
      !conSigno lower signo (lower modName) line
    if lines.any cambia then some (lines.map (conmuta lower signo (lower modName))) else none

/-! Runs -/

inductive Llamada where
  | add (modName : Texto) (highestPriority : Bool) (priority : Option String)
  | remove (modName : Texto)
  | toggle (modName : Texto) (enable : Bool)
  deriving DecidableEq

def Llamada.modName : Llamada → Texto
  | .add modName _ _ => modName
  | .remove modName => modName
  | .toggle modName _ => modName

def Llamada.mutacion : Llamada → Option Texto → Option (List Texto)
  | .add modName highestPriority priority => addModToModlist lower modName highestPriority priority
  | .remove modName => removeModFromModlist lower modName
  | .toggle modName enable => toggleModInModlist lower modName enable

/-- `modlist` is `none` while the profile has no file. -/
structure Perfil where
  modlist : Option Texto
  deriving DecidableEq

/-- `escribe` is false where the swap of the temporary file fails. -/
structure Evento where
  llamada : Llamada
  escribe : Bool
  deriving DecidableEq

def Perfil.tras (so : Plataforma) (p : Perfil) (e : Evento) : Perfil :=
  if assertSafeComponent e.llamada.modName then
    match e.llamada.mutacion lower p.modlist with
    | some lines => if e.escribe then ⟨some (writeModlist so lines)⟩ else p
    | none => p
  else p

def step (so : Plataforma) (p : Perfil) (e : Evento) : Option Perfil := some (p.tras lower so e)

end

/-! Lines of the file -/

/-- A line of a file that text mode has read: no terminator but the last `'\n'`. -/
def EsLinea (line : Texto) : Prop :=
  ∃ cuerpo, '\n' ∉ cuerpo ∧ '\r' ∉ cuerpo ∧ (line = cuerpo ++ ['\n'] ∨ line = cuerpo ∧ cuerpo ≠ [])

theorem saltosUniversales_cons {c : Char} {t : Texto} (other : c ≠ '\r') :
    saltosUniversales (c :: t) = c :: saltosUniversales t := by
  rw [saltosUniversales.eq_def]
  split
  · simp_all
  · simp_all
  · simp_all
  · simp_all

theorem sin_retornos (t : Texto) : '\r' ∉ saltosUniversales t := by
  induction t using saltosUniversales.induct with
  | case1 => simp [saltosUniversales]
  | case2 t ih => simpa [saltosUniversales] using ih
  | case3 t apart ih =>
    rw [saltosUniversales]
    · simpa using ih
    · exact apart
  | case4 c t other apart ih =>
    by_cases retorno : c = '\r'
    · exact absurd retorno (apart ·)
    · rw [saltosUniversales_cons retorno]
      simp [Ne.symm retorno, ih]

theorem lineas_salto {cuerpo t : Texto} (limpio : '\n' ∉ cuerpo) :
    lineas (cuerpo ++ '\n' :: t) = (cuerpo ++ ['\n']) :: lineas t := by
  induction cuerpo with
  | nil => simp [lineas]
  | cons c cuerpo ih =>
    have other : c ≠ '\n' := fun same => limpio (by simp [same])
    rw [List.cons_append, lineas, if_neg other, ih fun mem => limpio (List.mem_cons_of_mem _ mem)]
    rfl

theorem esLinea_lineas {t : Texto} (sin : '\r' ∉ t) : ∀ line ∈ lineas t, EsLinea line := by
  induction t with
  | nil => simp [lineas]
  | cons c t ih =>
    have rest := ih fun mem => sin (List.mem_cons_of_mem _ mem)
    have other : c ≠ '\r' := fun same => sin (by simp [same])
    rw [lineas]
    split
    · next salto =>
      intro line mem
      rcases List.mem_cons.mp mem with rfl | mem
      · exact ⟨[], by simp, by simp, .inl (by simp [salto])⟩
      · exact rest line mem
    · next salto =>
      cases tail : lineas t with
      | nil =>
        intro line mem
        obtain rfl : line = [c] := by simpa using mem
        exact ⟨[c], by simpa using Ne.symm salto, by simpa using Ne.symm other, .inr (by simp)⟩
      | cons l ls =>
        rw [tail] at rest
        intro line mem
        rcases List.mem_cons.mp mem with rfl | mem
        · obtain ⟨cuerpo, sinSalto, sinRetorno, forma⟩ := rest l (by simp)
          refine ⟨c :: cuerpo, ?_, ?_, ?_⟩
          · simp [sinSalto, Ne.symm salto]
          · simp [sinRetorno, Ne.symm other]
          · rcases forma with rfl | ⟨rfl, _⟩
            · exact .inl rfl
            · exact .inr ⟨rfl, by simp⟩
        · exact rest line (List.mem_cons_of_mem _ mem)

theorem esLinea_leida {archivo line : Texto} (mem : line ∈ leeLineas archivo) : EsLinea line :=
  esLinea_lineas (sin_retornos _) line mem

theorem normaliza_salto (cuerpo : Texto) : normaliza (cuerpo ++ ['\n']) = cuerpo ++ ['\n'] := by
  simp [normaliza]

theorem EsLinea.normalizada {line : Texto} (es : EsLinea line) :
    ∃ cuerpo, '\n' ∉ cuerpo ∧ '\r' ∉ cuerpo ∧ normaliza line = cuerpo ++ ['\n'] ∧
      (line = cuerpo ++ ['\n'] ∨ line = cuerpo) := by
  obtain ⟨cuerpo, sinSalto, sinRetorno, rfl | ⟨rfl, nonempty⟩⟩ := es
  · exact ⟨cuerpo, sinSalto, sinRetorno, normaliza_salto cuerpo, .inl rfl⟩
  · refine ⟨line, sinSalto, sinRetorno, ?_, .inr rfl⟩
    have last : line.getLast? ≠ some '\n' := fun same => sinSalto (List.mem_of_getLast? same)
    rw [normaliza, if_neg last]
    congr 1
    rw [List.rdropWhile_eq_self_iff]
    intro hl
    have mem := List.getLast_mem hl
    simp only [decide_eq_true_eq]
    rintro (same | same)
    · exact sinRetorno (same ▸ mem)
    · exact sinSalto (same ▸ mem)

theorem saltosUniversales_linesep (so : Plataforma) {t : Texto} (sin : '\r' ∉ t) :
    saltosUniversales (t.flatMap fun c => if c = '\n' then so.linesep else [c]) = t := by
  induction t with
  | nil => rfl
  | cons c t ih =>
    have other : c ≠ '\r' := fun same => sin (by simp [same])
    have rest := ih fun mem => sin (List.mem_cons_of_mem _ mem)
    rw [List.flatMap_cons]
    split
    · next salto =>
      subst salto
      cases so with
      | posix => exact (saltosUniversales_cons other).trans (congrArg _ rest)
      | windows => exact (saltosUniversales.eq_2 _).trans (congrArg _ rest)
    · rw [List.singleton_append, saltosUniversales_cons other, rest]

theorem lineas_normalizadas {lines : List Texto} (todas : ∀ line ∈ lines, EsLinea line) :
    '\r' ∉ (lines.map normaliza).flatten ∧
      lineas (lines.map normaliza).flatten = lines.map normaliza := by
  induction lines with
  | nil => simp [lineas]
  | cons line lines ih =>
    obtain ⟨sin, rest⟩ := ih fun l mem => todas l (List.mem_cons_of_mem _ mem)
    obtain ⟨cuerpo, sinSalto, sinRetorno, same, _⟩ := (todas line (by simp)).normalizada
    rw [List.map_cons, List.flatten_cons, same]
    constructor
    · intro mem
      rcases List.mem_append.mp mem with mem | mem
      · simp [sinRetorno] at mem
      · exact sin mem
    · rw [List.append_assoc, List.singleton_append, lineas_salto sinSalto, rest]

/-- What is written is read back, line by line. -/
theorem leeLineas_writeModlist (so : Plataforma) {lines : List Texto}
    (todas : ∀ line ∈ lines, EsLinea line) :
    leeLineas (writeModlist so lines) = lines.map normaliza := by
  obtain ⟨sin, leidas⟩ := lineas_normalizadas todas
  rw [leeLineas, writeModlist, sinBom, if_pos rfl, saltosUniversales_linesep so sin, leidas]

theorem normaliza_normaliza {line : Texto} (es : EsLinea line) :
    normaliza (normaliza line) = normaliza line := by
  obtain ⟨cuerpo, _, _, same, _⟩ := es.normalizada
  rw [same, normaliza_salto]

theorem strip_normaliza {line : Texto} (es : EsLinea line) :
    strip isspace (normaliza line) = strip isspace line := by
  obtain ⟨cuerpo, _, _, same, rfl | rfl⟩ := es.normalizada
  · rw [same]
  · rw [same, strip_append_blank (by simp; decide)]

theorem entrada_normaliza {line : Texto} (es : EsLinea line) :
    entrada (normaliza line) = entrada line := by
  rw [entrada, strip_normaliza es, entrada]

/-- The name of an entry is stripped and holds no terminator. -/
theorem entrada_limpia {line nombre : Texto} {signo : Char} (es : EsLinea line)
    (leida : entrada line = some (signo, nombre)) :
    Trimmed isspace nombre ∧ '\n' ∉ nombre ∧ '\r' ∉ nombre := by
  obtain ⟨cuerpo, sinSalto, sinRetorno, same, _⟩ := es.normalizada
  rw [← entrada_normaliza es, same, entrada, strip_append_blank (by simp; decide)] at leida
  cases partes : strip isspace cuerpo with
  | nil => simp [partes] at leida
  | cons c resto =>
    rw [partes] at leida
    have dentro : ∀ a ∈ strip isspace resto, a ∈ cuerpo := by
      intro a mem
      apply @mem_of_mem_strip _ isspace
      rw [partes]
      exact List.mem_cons_of_mem _ (mem_of_mem_strip mem)
    dsimp only at leida
    split at leida
    · obtain ⟨rfl, rfl⟩ : c = signo ∧ strip isspace resto = nombre := by simpa using leida
      exact ⟨trimmed_strip _, fun mem => sinSalto (dentro _ mem), fun mem => sinRetorno (dentro _ mem)⟩
    · simp at leida

/-- The line that the mutators write for a stripped name. -/
theorem entrada_escrita {signo : Char} {nombre : Texto} (es : signo = '+' ∨ signo = '-')
    (trimmed : Trimmed isspace nombre) :
    entrada (signo :: nombre ++ ['\n']) = some (signo, nombre) := by
  have solid : isspace signo = false := by
    rcases es with rfl | rfl <;> decide
  rw [entrada, strip_append_blank (by simp; decide), strip_cons_of_solid solid, trimmed.rdropWhile]
  simp [es, show strip isspace nombre = nombre from trimmed]

theorem esLinea_escrita {signo : Char} {nombre : Texto} (es : signo = '+' ∨ signo = '-')
    (sinSalto : '\n' ∉ nombre) (sinRetorno : '\r' ∉ nombre) :
    EsLinea (signo :: nombre ++ ['\n']) := by
  refine ⟨signo :: nombre, ?_, ?_, .inl rfl⟩
  · rcases es with rfl | rfl <;> simp [sinSalto]
  · rcases es with rfl | rfl <;> simp [sinRetorno]

/-! Default priority -/

section
variable {lower : Texto → Texto}

theorem coincide_iff {clave line : Texto} :
    coincide lower clave line = true ↔
      ∃ signo nombre, entrada line = some (signo, nombre) ∧ lower nombre = clave := by
  unfold coincide
  cases entrada line with
  | none => simp
  | some e =>
    obtain ⟨c, nombre⟩ := e
    simp only [decide_eq_true_eq, Option.some.injEq, Prod.mk.injEq]
    constructor
    · intro key
      exact ⟨c, nombre, ⟨rfl, rfl⟩, key⟩
    · rintro ⟨_, _, ⟨rfl, rfl⟩, key⟩
      exact key

theorem conSigno_iff {signo : Char} {clave line : Texto} :
    conSigno lower signo clave line = true ↔
      ∃ nombre, entrada line = some (signo, nombre) ∧ lower nombre = clave := by
  unfold conSigno
  cases entrada line with
  | none => simp
  | some e =>
    obtain ⟨c, nombre⟩ := e
    simp only [decide_eq_true_eq, Option.some.injEq, Prod.mk.injEq]
    constructor
    · rintro ⟨same, key⟩
      exact ⟨nombre, ⟨same, rfl⟩, key⟩
    · rintro ⟨_, ⟨same, rfl⟩, key⟩
      exact ⟨same, key⟩

theorem signo_de_entrada {line nombre : Texto} {signo : Char}
    (leida : entrada line = some (signo, nombre)) : signo = '+' ∨ signo = '-' := by
  unfold entrada at leida
  split at leida
  · split at leida
    · next es =>
      obtain ⟨rfl, _⟩ : _ = signo ∧ _ = nombre := by simpa using leida
      exact es
    · simp at leida
  · simp at leida

theorem coincide_eq_signos (lower : Texto → Texto) (clave line : Texto) :
    coincide lower clave line =
      (conSigno lower '+' clave line || conSigno lower '-' clave line) := by
  rw [Bool.eq_iff_iff, Bool.or_eq_true, coincide_iff, conSigno_iff, conSigno_iff]
  constructor
  · rintro ⟨signo, nombre, leida, key⟩
    rcases signo_de_entrada leida with rfl | rfl
    · exact .inl ⟨nombre, leida, key⟩
    · exact .inr ⟨nombre, leida, key⟩
  · rintro (⟨nombre, leida, key⟩ | ⟨nombre, leida, key⟩)
    · exact ⟨_, nombre, leida, key⟩
    · exact ⟨_, nombre, leida, key⟩

theorem mem_entradasDelMod {clave nombre : Texto} {lines : List Texto} {i : Nat} {signo : Char} :
    (i, signo, nombre) ∈ entradasDelMod lower clave lines ↔
      ∃ line, lines[i]? = some line ∧ entrada line = some (signo, nombre) ∧
        lower nombre = clave := by
  unfold entradasDelMod
  simp only [List.mem_filterMap, Prod.exists, List.mem_zipIdx_iff_getElem?]
  constructor
  · rintro ⟨line, j, at_j, found⟩
    cases leida : entrada line with
    | none => simp [leida] at found
    | some e =>
      rw [leida] at found
      by_cases key : lower e.2 = clave
      · simp only [key, if_true, Option.some.injEq, Prod.mk.injEq] at found
        obtain ⟨rfl, rfl, rfl⟩ := found
        exact ⟨line, at_j, leida, key⟩
      · simp [key] at found
  · rintro ⟨line, at_i, leida, key⟩
    exact ⟨line, i, at_i, by simp [leida, key]⟩

theorem mem_indicesCon {signo : Char} {clave : Texto} {lines : List Texto} {i : Nat} :
    i ∈ indicesCon lower signo clave lines ↔
      ∃ line, lines[i]? = some line ∧ conSigno lower signo clave line = true := by
  unfold indicesCon
  simp only [List.mem_map, List.mem_filter, decide_eq_true_eq, Prod.exists, conSigno_iff]
  constructor
  · rintro ⟨j, c, nombre, ⟨mem, rfl⟩, rfl⟩
    obtain ⟨line, at_j, leida, key⟩ := mem_entradasDelMod.mp mem
    exact ⟨line, at_j, nombre, leida, key⟩
  · rintro ⟨line, at_i, nombre, leida, key⟩
    exact ⟨i, signo, nombre, ⟨mem_entradasDelMod.mpr ⟨line, at_i, leida, key⟩, rfl⟩, rfl⟩

theorem indicesCon_eq_nil {signo : Char} {clave : Texto} {lines : List Texto} :
    indicesCon lower signo clave lines = [] ↔
      ∀ line ∈ lines, conSigno lower signo clave line = false := by
  rw [List.eq_nil_iff_forall_not_mem]
  constructor
  · intro none line mem
    obtain ⟨i, at_i⟩ := List.mem_iff_getElem?.mp mem
    simpa using fun con => none i (mem_indicesCon.mpr ⟨line, at_i, con⟩)
  · intro none i mem
    obtain ⟨line, at_i, con⟩ := mem_indicesCon.mp mem
    simp [none line (List.mem_of_getElem? at_i)] at con

theorem entradasDelMod_eq_nil {clave : Texto} {lines : List Texto} :
    entradasDelMod lower clave lines = [] ↔
      ∀ line ∈ lines, coincide lower clave line = false := by
  rw [List.eq_nil_iff_forall_not_mem]
  constructor
  · intro none line mem
    obtain ⟨i, at_i⟩ := List.mem_iff_getElem?.mp mem
    by_contra found
    obtain ⟨signo, nombre, leida, key⟩ := coincide_iff.mp (by simpa using found)
    exact none _ (mem_entradasDelMod.mpr ⟨line, at_i, leida, key⟩)
  · rintro none ⟨i, signo, nombre⟩ mem
    obtain ⟨line, at_i, leida, key⟩ := mem_entradasDelMod.mp mem
    have found := coincide_iff.mpr ⟨signo, nombre, leida, key⟩
    simp [none line (List.mem_of_getElem? at_i)] at found

/-- Leaving out the places of some lines is leaving out these lines. -/
theorem filtra_indices {lines : List Texto} {k : Nat} {fuera : List Nat} {p : Texto → Bool}
    (iff : ∀ i line, lines[i]? = some line → (k + i ∈ fuera ↔ p line = true)) :
    (((lines.zipIdx k).filter fun (_, i) => i ∉ fuera).map (·.1)) =
      lines.filter fun line => !p line := by
  have same : (lines.zipIdx k).filter (fun (_, i) => decide (i ∉ fuera)) =
      (lines.zipIdx k).filter ((fun line => !p line) ∘ Prod.fst) := by
    apply List.filter_congr
    rintro ⟨line, i⟩ mem
    obtain ⟨above, at_i⟩ := List.mk_mem_zipIdx_iff_le_and_getElem?_sub.mp mem
    have here := iff (i - k) line at_i
    rw [Nat.add_sub_cancel' above] at here
    by_cases hp : p line = true
    · simp [hp, here]
    · simp [hp, here]
  rw [same, ← List.filter_map, List.zipIdx_map_fst]

/-- What the default priority does: the mod is new, it is already enabled, or its first
disabled entry is enabled in place. In the last two the other disabled entries go. -/
inductive Anexa (lower : Texto → Texto) (modName : Texto) (lines : List Texto) :
    Option (List Texto) → Prop where
  | nuevo (ajenas : ∀ line ∈ lines, coincide lower (lower modName) line = false) :
      Anexa lower modName lines (some (lines ++ ['+' :: modName ++ ['\n']]))
  | igual (habilitada : ∃ line ∈ lines, conSigno lower '+' (lower modName) line = true)
      (solas : ∀ line ∈ lines, conSigno lower '-' (lower modName) line = false) :
      Anexa lower modName lines none
  | habilitado (habilitada : ∃ line ∈ lines, conSigno lower '+' (lower modName) line = true)
      (otra : ∃ line ∈ lines, conSigno lower '-' (lower modName) line = true) :
      Anexa lower modName lines
        (some (lines.filter fun line => !conSigno lower '-' (lower modName) line))
  | enSitio {antes tras : List Texto} {line nombre : Texto}
      (partes : lines = antes ++ line :: tras)
      (ninguna : ∀ l ∈ lines, conSigno lower '+' (lower modName) l = false)
      (primera : ∀ l ∈ antes, coincide lower (lower modName) l = false)
      (leida : entrada line = some ('-', nombre)) (clave : lower nombre = lower modName) :
      Anexa lower modName lines (some (antes ++ ('+' :: nombre ++ ['\n']) ::
        tras.filter fun l => !coincide lower (lower modName) l))

theorem zipIdx_partes {lines : List Texto} {pre post : List (Texto × Nat)} {line : Texto}
    {i : Nat} (split : lines.zipIdx = pre ++ (line, i) :: post) :
    lines = pre.map (·.1) ++ line :: post.map (·.1) ∧ (pre.map (·.1)).length = i := by
  have whole := congrArg (List.map Prod.fst) split
  rw [List.zipIdx_map_fst] at whole
  constructor
  · simpa using whole
  · have place : lines.zipIdx[pre.length]? = some (line, i) := by simp [split]
    have index := List.mem_zipIdx_iff_getElem?.mp (List.mem_of_getElem? place)
    rw [List.getElem?_zipIdx] at place
    simp only [Option.map_eq_some_iff, Prod.mk.injEq] at place
    obtain ⟨_, _, _, same⟩ := place
    simpa using same

theorem flipear_some {clave nombre : Texto} {lines : List Texto} {i : Nat}
    (found : flipear lower clave lines = some (i, nombre)) :
    ∃ antes line tras, lines = antes ++ line :: tras ∧ antes.length = i ∧
      (∀ l ∈ antes, conSigno lower '-' clave l = false) ∧
      entrada line = some ('-', nombre) ∧ lower nombre = clave := by
  unfold flipear at found
  split at found
  · rw [List.head?_map, List.head?_filter, Option.map_eq_some_iff] at found
    obtain ⟨⟨j, signo, n⟩, first, same⟩ := found
    obtain ⟨rfl, rfl⟩ : j = i ∧ n = nombre := by simpa using same
    have signed := List.find?_some first
    obtain rfl : signo = '-' := by simpa using signed
    have mem := List.mem_of_find?_eq_some first
    rw [entradasDelMod, List.find?_filterMap] at first
    obtain ⟨⟨line, k⟩, at_k, gives⟩ := Option.bind_eq_some_iff.mp first
    obtain ⟨_, pre, post, split, before⟩ := List.find?_eq_some_iff_append.mp at_k
    obtain ⟨partes, index⟩ := zipIdx_partes split
    dsimp only at gives
    cases leida : entrada line with
    | none => simp [leida] at gives
    | some e =>
      obtain ⟨c, nombre⟩ := e
      rw [leida] at gives
      by_cases key : lower nombre = clave
      · simp only [key, if_true, Option.some.injEq, Prod.mk.injEq] at gives
        obtain ⟨rfl, rfl, rfl⟩ := gives
        refine ⟨_, line, _, partes, index, ?_, leida, key⟩
        intro l hl
        obtain ⟨⟨l, m⟩, mem, rfl⟩ := List.mem_map.mp hl
        have passed := before _ mem
        by_contra con
        obtain ⟨other, leida, key⟩ := conSigno_iff.mp (by simpa using con)
        simp [leida, key] at passed
      · simp [key] at gives
  · simp at found

theorem flipear_eq_none {clave : Texto} {lines : List Texto} :
    flipear lower clave lines = none ↔
      indicesCon lower '+' clave lines ≠ [] ∨ indicesCon lower '-' clave lines = [] := by
  unfold flipear
  split
  · next ninguna =>
    rw [or_iff_right (not_not.mpr ninguna), indicesCon]
    simp only [List.head?_eq_none_iff, List.map_eq_nil_iff]
  · next alguna => simp [alguna]

theorem alguna_con {signo : Char} {clave : Texto} {lines : List Texto}
    (alguna : indicesCon lower signo clave lines ≠ []) :
    ∃ line ∈ lines, conSigno lower signo clave line = true := by
  by_contra ninguna
  apply alguna
  rw [indicesCon_eq_nil]
  intro line mem
  by_contra con
  exact ninguna ⟨line, mem, by simpa using con⟩

theorem anexa_sigue (lower : Texto → Texto) (modName : Texto) (lines : List Texto) :
    Anexa lower modName lines (anexa lower modName lines) := by
  unfold anexa
  dsimp only
  split
  · next ninguna => exact .nuevo (entradasDelMod_eq_nil.mp ninguna)
  · next alguna =>
    cases found : flipear lower (lower modName) lines with
    | none =>
      have todas : descartar lower (lower modName) lines =
          indicesCon lower '-' (lower modName) lines := by
        simp [descartar, found]
      have habilitada : indicesCon lower '+' (lower modName) lines ≠ [] := by
        rcases flipear_eq_none.mp found with some | none
        · exact some
        · intro sin
          rw [indicesCon_eq_nil] at none sin
          apply alguna
          rw [entradasDelMod_eq_nil]
          intro line mem
          rw [coincide_eq_signos, sin line mem, none line mem, Bool.or_false]
      rw [todas]
      split
      · next nada => exact .igual (alguna_con habilitada) (indicesCon_eq_nil.mp nada.2)
      · next algo =>
        rw [filtra_indices (p := conSigno lower '-' (lower modName))]
        · exact .habilitado (alguna_con habilitada) (alguna_con fun none => algo ⟨rfl, none⟩)
        · intro i line at_i
          rw [Nat.zero_add, mem_indicesCon]
          constructor
          · rintro ⟨other, at_other, con⟩
            rw [at_i] at at_other
            exact Option.some.inj at_other ▸ con
          · exact fun con => ⟨line, at_i, con⟩
    | some primera =>
      obtain ⟨i, nombre⟩ := primera
      have ninguna : indicesCon lower '+' (lower modName) lines = [] := by
        by_contra otra
        rw [flipear_eq_none.mpr (.inl otra)] at found
        simp at found
      rw [indicesCon_eq_nil] at ninguna
      obtain ⟨antes, line, tras, partes, index, before, leida, key⟩ := flipear_some found
      have coinciden : ∀ l ∈ lines, coincide lower (lower modName) l =
          conSigno lower '-' (lower modName) l := by
        intro l mem
        rw [coincide_eq_signos, ninguna l mem, Bool.false_or]
      have fuera : ∀ j, j ∈ descartar lower (lower modName) lines ↔
          j ≠ i ∧ ∃ l, lines[j]? = some l ∧ coincide lower (lower modName) l = true := by
        intro j
        simp only [descartar, found, List.mem_filter, mem_indicesCon, Option.map_some, ne_eq,
          Option.some.injEq, decide_not, Bool.not_eq_true', decide_eq_false_iff_not]
        constructor
        · rintro ⟨⟨l, at_j, con⟩, other⟩
          refine ⟨other, l, at_j, ?_⟩
          rw [coinciden l (List.mem_of_getElem? at_j), con]
        · rintro ⟨other, l, at_j, con⟩
          refine ⟨⟨l, at_j, ?_⟩, other⟩
          rw [← coinciden l (List.mem_of_getElem? at_j), con]
      subst partes index
      have escritas : (antes ++ line :: tras).set antes.length ('+' :: nombre ++ ['\n']) =
          antes ++ ('+' :: nombre ++ ['\n']) :: tras := by simp
      have delante : ((antes.zipIdx).filter fun (_, j) =>
          j ∉ descartar lower (lower modName) (antes ++ line :: tras)).map (·.1) = antes := by
        rw [filtra_indices (p := fun _ => false)]
        · simp
        · intro j l at_j
          have inside := (List.getElem?_eq_some_iff.mp at_j).1
          rw [Nat.zero_add, fuera, List.getElem?_append_left inside, at_j]
          simp only [Option.some.injEq, exists_eq_left', Bool.false_eq_true, iff_false, not_and]
          intro _
          rw [coinciden l (by simp [List.mem_of_getElem? at_j]), before l (List.mem_of_getElem? at_j)]
          simp
      have detras : ((tras.zipIdx (antes.length + 1)).filter fun (_, j) =>
          j ∉ descartar lower (lower modName) (antes ++ line :: tras)).map (·.1) =
            tras.filter fun l => !coincide lower (lower modName) l := by
        apply filtra_indices
        intro j l at_j
        have shift : (antes ++ line :: tras)[antes.length + 1 + j]? = some l := by
          rw [List.getElem?_append_right (by omega), ← at_j]
          simp [show antes.length + 1 + j - antes.length = j + 1 by omega]
        rw [fuera, shift]
        simp only [Option.some.injEq, exists_eq_left']
        constructor
        · exact fun here => here.2
        · exact fun con => ⟨by omega, con⟩
      have sigue : antes.length ∉ descartar lower (lower modName) (antes ++ line :: tras) := by
        simp [fuera]
      rw [if_neg (by simp)]
      dsimp only
      rw [escritas, List.zipIdx_append, List.zipIdx_cons, List.filter_append, List.map_append,
        Nat.zero_add, List.filter_cons_of_pos (by simpa using sigue), List.map_cons, delante, detras]
      apply Anexa.enSitio rfl ninguna ?_ leida key
      intro l mem
      rw [coinciden l (by simp [mem]), before l mem]

/-! Effect on the lines -/

def habilitados (lower : Texto → Texto) (lines : List Texto) : List Texto :=
  lines.filterMap fun line =>
    match entrada line with
    | some (signo, nombre) => if signo = '+' then some (lower nombre) else none
    | none => none

theorem mem_habilitados {clave : Texto} {lines : List Texto} :
    clave ∈ habilitados lower lines ↔ ∃ line ∈ lines, conSigno lower '+' clave line = true := by
  unfold habilitados
  simp only [List.mem_filterMap, conSigno_iff]
  constructor
  · rintro ⟨line, mem, key⟩
    cases leida : entrada line with
    | none => simp [leida] at key
    | some e =>
      obtain ⟨signo, nombre⟩ := e
      rw [leida] at key
      by_cases mas : signo = '+'
      · subst mas
        exact ⟨line, mem, nombre, leida, by simpa using key⟩
      · simp [mas] at key
  · rintro ⟨line, mem, nombre, leida, key⟩
    exact ⟨line, mem, by simp [leida, key]⟩

theorem habilitados_append (lines others : List Texto) :
    habilitados lower (lines ++ others) = habilitados lower lines ++ habilitados lower others :=
  List.filterMap_append

theorem habilitados_sublist {lines others : List Texto} (sub : lines.Sublist others) :
    (habilitados lower lines).Sublist (habilitados lower others) := sub.filterMap _

theorem habilitados_escrita {nombre : Texto} (trimmed : Trimmed isspace nombre)
    (lines : List Texto) :
    habilitados lower (('+' :: nombre ++ ['\n']) :: lines) =
      lower nombre :: habilitados lower lines := by
  simp only [habilitados, List.filterMap_cons, entrada_escrita (.inl rfl) trimmed, if_true]

theorem habilitados_normaliza {lines : List Texto} (todas : ∀ line ∈ lines, EsLinea line) :
    habilitados lower (lines.map normaliza) = habilitados lower lines := by
  unfold habilitados
  rw [List.filterMap_map]
  apply List.filterMap_congr
  intro line mem
  simp only [Function.comp_apply, entrada_normaliza (todas line mem)]

theorem coincide_normaliza {clave line : Texto} (es : EsLinea line) :
    coincide lower clave (normaliza line) = coincide lower clave line := by
  rw [coincide, entrada_normaliza es, coincide]

theorem conSigno_normaliza {signo : Char} {clave line : Texto} (es : EsLinea line) :
    conSigno lower signo clave (normaliza line) = conSigno lower signo clave line := by
  rw [conSigno, entrada_normaliza es, conSigno]

theorem coincide_escrita {signo : Char} {nombre : Texto} (es : signo = '+' ∨ signo = '-')
    (trimmed : Trimmed isspace nombre) (clave : Texto) :
    coincide lower clave (signo :: nombre ++ ['\n']) = decide (lower nombre = clave) := by
  rw [coincide, entrada_escrita es trimmed]

theorem conSigno_escrita {signo c : Char} {nombre : Texto} (es : signo = '+' ∨ signo = '-')
    (trimmed : Trimmed isspace nombre) (clave : Texto) :
    conSigno lower c clave (signo :: nombre ++ ['\n']) =
      decide (signo = c ∧ lower nombre = clave) := by
  rw [conSigno, entrada_escrita es trimmed]

theorem sin_clave {clave : Texto} {lines : List Texto}
    (ajenas : ∀ line ∈ lines, coincide lower clave line = false) :
    clave ∉ habilitados lower lines := by
  intro mem
  obtain ⟨line, inside, con⟩ := mem_habilitados.mp mem
  have none := ajenas line inside
  rw [coincide_eq_signos, con] at none
  simp at none

/-- Lines of the mod may go, and one enabled entry may come. -/
theorem nodup_con_una {clave nombre : Texto} {lines antes tras : List Texto}
    (trimmed : Trimmed isspace nombre) (key : lower nombre = clave)
    (sub : (antes ++ tras).Sublist lines)
    (ajenas : ∀ line ∈ antes ++ tras, coincide lower clave line = false)
    (nodup : (habilitados lower lines).Nodup) :
    (habilitados lower (antes ++ ('+' :: nombre ++ ['\n']) :: tras)).Nodup := by
  rw [habilitados_append, habilitados_escrita trimmed, List.nodup_middle, List.nodup_cons,
    ← habilitados_append, key]
  exact ⟨sin_clave ajenas, nodup.sublist (habilitados_sublist sub)⟩

/-- What a mutator of the mod may do to the lines. -/
structure Edita (lower : Texto → Texto) (clave : Texto) (lines escritas : List Texto) : Prop where
  lineas : ∀ line ∈ escritas, EsLinea line
  ajenas : (escritas.filter fun line => !coincide lower clave line) =
    lines.filter fun line => !coincide lower clave line
  unicos : (habilitados lower lines).Nodup → (habilitados lower escritas).Nodup

theorem filtra_ajenas {clave : Texto} {lines : List Texto}
    (ajenas : ∀ line ∈ lines, coincide lower clave line = false) :
    (lines.filter fun line => !coincide lower clave line) = lines := by
  rw [List.filter_eq_self]
  intro line mem
  simp [ajenas line mem]

theorem ajenas_filtradas {clave : Texto} {lines : List Texto} :
    ∀ line ∈ lines.filter fun line => !coincide lower clave line,
      coincide lower clave line = false := by
  intro line mem
  simpa using (List.mem_filter.mp mem).2

theorem Anexa.edita {modName : Texto} {lines escritas : List Texto}
    (hecho : Anexa lower modName lines (some escritas)) (todas : ∀ line ∈ lines, EsLinea line)
    (trimmed : Trimmed isspace modName) (sinSalto : '\n' ∉ modName) (sinRetorno : '\r' ∉ modName) :
    Edita lower (lower modName) lines escritas := by
  cases hecho with
  | nuevo ajenas =>
    constructor
    · intro line mem
      rcases List.mem_append.mp mem with mem | mem
      · exact todas line mem
      · rw [List.mem_singleton.mp mem]
        exact esLinea_escrita (.inl rfl) sinSalto sinRetorno
    · rw [List.filter_append, List.filter_cons_of_neg, List.filter_nil, List.append_nil]
      rw [coincide_escrita (.inl rfl) trimmed]
      simp
    · intro nodup
      exact nodup_con_una trimmed rfl (by simp) (by simpa using ajenas) nodup
  | habilitado habilitada otra =>
    constructor
    · exact fun line mem => todas line (List.mem_of_mem_filter mem)
    · rw [List.filter_filter]
      apply List.filter_congr
      intro line _
      rw [coincide_eq_signos]
      cases conSigno lower '+' (lower modName) line <;>
        cases conSigno lower '-' (lower modName) line <;> rfl
    · exact fun nodup => nodup.sublist (habilitados_sublist List.filter_sublist)
  | @enSitio antes tras line nombre partes ninguna primera leida clave =>
    subst partes
    obtain ⟨limpio, sinSalto, sinRetorno⟩ := entrada_limpia (todas line (by simp)) leida
    have coincidente : coincide lower (lower modName) line = true :=
      coincide_iff.mpr ⟨_, _, leida, clave⟩
    constructor
    · intro l mem
      rcases List.mem_append.mp mem with mem | mem
      · exact todas l (by simp [mem])
      · rcases List.mem_cons.mp mem with rfl | mem
        · exact esLinea_escrita (.inl rfl) sinSalto sinRetorno
        · exact todas l (by simp [List.mem_of_mem_filter mem])
    · rw [List.filter_append, List.filter_append, List.filter_cons_of_neg,
        List.filter_cons_of_neg, List.filter_filter]
      · simp
      · simp [coincidente]
      · rw [coincide_escrita (.inl rfl) limpio]
        simp [clave]
    · apply nodup_con_una limpio clave
      · exact (List.Sublist.refl antes).append (List.filter_sublist.cons _)
      · intro l mem
        rcases List.mem_append.mp mem with mem | mem
        · exact primera l mem
        · exact ajenas_filtradas l mem

theorem partes_cabecera (lines : List Texto) :
    lines.takeWhile esCabecera ++ lines.dropWhile esCabecera = lines :=
  List.takeWhile_append_dropWhile

/-- The name that the highest priority writes. -/
theorem nombre_antepuesto (lower : Texto → Texto) {modName : Texto} {lines : List Texto}
    (todas : ∀ line ∈ lines, EsLinea line) (trimmed : Trimmed isspace modName)
    (sinSalto : '\n' ∉ modName) (sinRetorno : '\r' ∉ modName) :
    ∃ nombre, (nombreExistente lower (lower modName) lines).getD modName = nombre ∧
      lower nombre = lower modName ∧ Trimmed isspace nombre ∧ '\n' ∉ nombre ∧ '\r' ∉ nombre := by
  unfold nombreExistente
  cases found : lines.find? (coincide lower (lower modName)) with
  | none => exact ⟨modName, rfl, rfl, trimmed, sinSalto, sinRetorno⟩
  | some line =>
    obtain ⟨signo, nombre, leida, key⟩ := coincide_iff.mp (List.find?_some found)
    have mem := List.mem_of_find?_eq_some found
    exact ⟨nombre, by simp [leida], key, entrada_limpia (todas line mem) leida⟩

theorem antepone_edita (lower : Texto → Texto) {modName : Texto} {lines : List Texto}
    (todas : ∀ line ∈ lines, EsLinea line) (trimmed : Trimmed isspace modName)
    (sinSalto : '\n' ∉ modName) (sinRetorno : '\r' ∉ modName) :
    Edita lower (lower modName) lines (antepone lower modName lines) := by
  obtain ⟨nombre, escrito, key, limpio, sinSalto, sinRetorno⟩ :=
    nombre_antepuesto lower todas trimmed sinSalto sinRetorno
  unfold antepone
  rw [escrito, trasCabecera]
  generalize resto : lines.filter (fun line => !coincide lower (lower modName) line) = others
  have ajenas : ∀ line ∈ others, coincide lower (lower modName) line = false :=
    resto ▸ ajenas_filtradas
  have partes := partes_cabecera others
  have dentro : ∀ line ∈ others, line ∈ lines := by
    intro line mem
    rw [← resto] at mem
    exact List.mem_of_mem_filter mem
  constructor
  · intro line mem
    rcases List.mem_append.mp mem with mem | mem
    · exact todas line (dentro line ((List.takeWhile_prefix _).subset mem))
    · rcases List.mem_cons.mp mem with rfl | mem
      · exact esLinea_escrita (.inl rfl) sinSalto sinRetorno
      · exact todas line (dentro line ((List.dropWhile_suffix _).subset mem))
  · rw [List.filter_append, List.filter_cons_of_neg, ← List.filter_append, partes,
      filtra_ajenas ajenas]
    · exact resto.symm
    · rw [coincide_escrita (.inl rfl) limpio]
      simp [key]
  · apply nodup_con_una limpio key
    · rw [partes, ← resto]
      exact List.filter_sublist
    · rwa [partes]

theorem borra_edita (lower : Texto → Texto) {clave : Texto} {lines : List Texto}
    (todas : ∀ line ∈ lines, EsLinea line) :
    Edita lower clave lines (lines.filter fun line => !coincide lower clave line) := by
  constructor
  · exact fun line mem => todas line (List.mem_of_mem_filter mem)
  · rw [filtra_ajenas ajenas_filtradas]
  · exact fun nodup => nodup.sublist (habilitados_sublist List.filter_sublist)

theorem conmuta_igual {signo : Char} {clave line : Texto}
    (ajena : coincide lower clave line = false) : conmuta lower signo clave line = line := by
  unfold conmuta
  cases leida : entrada line with
  | none => rfl
  | some e =>
    obtain ⟨c, nombre⟩ := e
    dsimp only
    split
    · next toca =>
      have found := coincide_iff.mpr ⟨c, nombre, leida, toca.1⟩
      simp [ajena] at found
    · rfl

theorem conmuta_coincide {signo : Char} {clave line : Texto} (es : signo = '+' ∨ signo = '-')
    (linea : EsLinea line) (coincidente : coincide lower clave line = true) :
    EsLinea (conmuta lower signo clave line) ∧
      conSigno lower signo clave (conmuta lower signo clave line) = true := by
  obtain ⟨c, nombre, leida, key⟩ := coincide_iff.mp coincidente
  obtain ⟨limpio, sinSalto, sinRetorno⟩ := entrada_limpia linea leida
  unfold conmuta
  rw [leida]
  dsimp only
  split
  · refine ⟨esLinea_escrita es sinSalto sinRetorno, ?_⟩
    rw [conSigno_escrita es limpio]
    simp [key]
  · next queda =>
    have same : c = signo := by
      by_contra other
      exact queda ⟨key, other⟩
    subst same
    exact ⟨linea, conSigno_iff.mpr ⟨nombre, leida, key⟩⟩

theorem coincide_conmuta {signo : Char} {clave line : Texto} (es : signo = '+' ∨ signo = '-')
    (linea : EsLinea line) :
    coincide lower clave (conmuta lower signo clave line) = coincide lower clave line := by
  cases con : coincide lower clave line with
  | false => rw [conmuta_igual con, con]
  | true =>
    obtain ⟨_, signado⟩ := conmuta_coincide es linea con
    rw [coincide_eq_signos]
    rcases es with rfl | rfl <;> simp [signado]

theorem conmuta_ajenas {signo : Char} {clave : Texto} {lines : List Texto}
    (ajenas : ∀ line ∈ lines, coincide lower clave line = false) :
    lines.map (conmuta lower signo clave) = lines := by
  conv_rhs => rw [← List.map_id lines]
  apply List.map_congr_left
  intro line mem
  exact conmuta_igual (ajenas line mem)

/-- Disabling takes the mod out of the enabled names. -/
theorem habilitados_deshabilita {clave : Texto} {lines : List Texto}
    (todas : ∀ line ∈ lines, EsLinea line) :
    habilitados lower (lines.map (conmuta lower '-' clave)) =
      habilitados lower (lines.filter fun line => !coincide lower clave line) := by
  induction lines with
  | nil => rfl
  | cons line lines ih =>
    have rest := ih fun l mem => todas l (List.mem_cons_of_mem _ mem)
    have split : ∀ (l : Texto) (ls : List Texto),
        habilitados lower (l :: ls) = habilitados lower [l] ++ habilitados lower ls :=
      fun l ls => habilitados_append [l] ls
    rw [List.map_cons, split, rest]
    cases con : coincide lower clave line with
    | false =>
      rw [List.filter_cons_of_pos (by simp [con]), conmuta_igual con, ← split]
    | true =>
      obtain ⟨_, signado⟩ := conmuta_coincide (.inr rfl) (todas line (by simp)) con
      obtain ⟨nombre, leida, _⟩ := conSigno_iff.mp signado
      rw [List.filter_cons_of_neg (by simp [con])]
      simp [habilitados, leida]

theorem conmuta_edita {signo : Char} {clave : Texto} {lines : List Texto}
    (es : signo = '+' ∨ signo = '-') (todas : ∀ line ∈ lines, EsLinea line)
    (una : signo = '+' → (lines.filter (coincide lower clave)).length ≤ 1) :
    Edita lower clave lines (lines.map (conmuta lower signo clave)) := by
  constructor
  · intro line mem
    obtain ⟨l, inside, rfl⟩ := List.mem_map.mp mem
    cases con : coincide lower clave l with
    | false =>
      rw [conmuta_igual con]
      exact todas l inside
    | true => exact (conmuta_coincide es (todas l inside) con).1
  · rw [List.filter_map]
    have same : lines.filter ((fun line => !coincide lower clave line) ∘ conmuta lower signo clave) =
        lines.filter fun line => !coincide lower clave line := by
      apply List.filter_congr
      intro line mem
      rw [Function.comp_apply, coincide_conmuta es (todas line mem)]
    rw [same, conmuta_ajenas ajenas_filtradas]
  · intro nodup
    rcases es with rfl | rfl
    · by_cases alguna : ∃ line ∈ lines, coincide lower clave line = true
      · obtain ⟨line, mem, con⟩ := alguna
        obtain ⟨antes, tras, rfl⟩ := List.append_of_mem mem
        have ajenas : ∀ l ∈ antes ++ tras, coincide lower clave l = false := by
          have few := una rfl
          rw [List.filter_append, List.filter_cons_of_pos con] at few
          simp only [List.length_append, List.length_cons] at few
          have none : (antes ++ tras).filter (coincide lower clave) = [] := by
            apply List.eq_nil_of_length_eq_zero
            rw [List.filter_append, List.length_append]
            omega
          intro l inside
          simpa using List.filter_eq_nil_iff.mp none l inside
        obtain ⟨linea, signado⟩ := conmuta_coincide (.inl rfl) (todas line mem) con
        obtain ⟨nombre, leida, key⟩ := conSigno_iff.mp signado
        rw [List.map_append, List.map_cons,
          conmuta_ajenas fun l inside => ajenas l (List.mem_append_left _ inside),
          conmuta_ajenas fun l inside => ajenas l (List.mem_append_right _ inside)]
        have escrita : ∀ ls, habilitados lower (conmuta lower '+' clave line :: ls) =
            clave :: habilitados lower ls := by
          intro ls
          simp [habilitados, leida, key]
        rw [habilitados_append, escrita, List.nodup_middle, List.nodup_cons, ← habilitados_append]
        refine ⟨sin_clave ajenas, nodup.sublist (habilitados_sublist ?_)⟩
        exact (List.Sublist.refl antes).append (List.sublist_cons_self _ _)
      · rw [conmuta_ajenas]
        · exact nodup
        · intro line mem
          by_contra con
          exact alguna ⟨line, mem, by simpa using con⟩
    · rw [habilitados_deshabilita todas]
      exact nodup.sublist (habilitados_sublist List.filter_sublist)

/-! Effect on the profile -/

def Perfil.lines (p : Perfil) : List Texto := (p.modlist.map leeLineas).getD []

/-- No two enabled names are the same up to case, as `_exigir_enabled` requires. -/
def SinRepetidos (lower : Texto → Texto) (p : Perfil) : Prop :=
  (habilitados lower p.lines).Nodup

/-- The calls after which the profile is as it should be: the name of an added mod is
stripped, and a mod is enabled only where it has one entry or nothing to enable. -/
def Inequivoca (lower : Texto → Texto) (p : Perfil) : Llamada → Prop
  | .add modName _ _ => Trimmed isspace modName
  | .remove _ => True
  | .toggle modName enable => enable = true →
    (p.lines.filter (coincide lower (lower modName))).length ≤ 1 ∨
      ∀ line ∈ p.lines, conSigno lower '-' (lower modName) line = false

/-- The lines that are not entries of the mod stay as they are, in their order. -/
def ConservaAjenas (lower : Texto → Texto) (clave : Texto) (p q : Perfil) : Prop :=
  (q.lines.filter fun line => !coincide lower clave line).map normaliza =
    (p.lines.filter fun line => !coincide lower clave line).map normaliza

theorem Perfil.esLinea (p : Perfil) : ∀ line ∈ p.lines, EsLinea line := by
  obtain ⟨modlist⟩ := p
  cases modlist with
  | none => simp [Perfil.lines]
  | some archivo => exact fun line mem => esLinea_leida mem

theorem sin_terminadores {name : Texto} (segura : assertSafeComponent name = true) :
    '\n' ∉ name ∧ '\r' ∉ name := by
  have controles : ∀ c ∈ name, 0x20 ≤ c.toNat := by
    unfold assertSafeComponent at segura
    simp only [decide_eq_true_eq] at segura
    simpa using segura.2.2.2.2.2
  constructor
  · intro mem
    exact absurd (controles _ mem) (by decide)
  · intro mem
    exact absurd (controles _ mem) (by decide)

theorem mutacion_edita {p : Perfil} {e : Llamada} {escritas : List Texto}
    (segura : assertSafeComponent e.modName = true) (ok : Inequivoca lower p e)
    (hecho : e.mutacion lower p.modlist = some escritas) :
    Edita lower (lower e.modName) p.lines escritas := by
  obtain ⟨sinSalto, sinRetorno⟩ := sin_terminadores segura
  cases e with
  | add modName highestPriority priority =>
    simp only [Llamada.mutacion, addModToModlist] at hecho
    split at hecho
    · obtain rfl := Option.some.inj hecho
      exact antepone_edita lower p.esLinea ok sinSalto sinRetorno
    · have sigue := anexa_sigue lower modName p.lines
      rw [Perfil.lines, hecho] at sigue
      exact sigue.edita p.esLinea ok sinSalto sinRetorno
  | remove modName =>
    obtain ⟨archivo, present, hecho⟩ := Option.bind_eq_some_iff.mp hecho
    have lines : p.lines = leeLineas archivo := by simp [Perfil.lines, present]
    dsimp only at hecho
    split at hecho
    · obtain rfl := Option.some.inj hecho
      rw [← lines]
      exact borra_edita lower p.esLinea
    · simp at hecho
  | toggle modName enable =>
    obtain ⟨archivo, present, hecho⟩ := Option.bind_eq_some_iff.mp hecho
    have lines : p.lines = leeLineas archivo := by simp [Perfil.lines, present]
    dsimp only at hecho
    rw [← lines] at hecho
    generalize prefijo : (if enable = true then '+' else '-') = signo at hecho
    split at hecho
    · next cambia =>
      obtain rfl := Option.some.inj hecho
      apply conmuta_edita
      · cases enable <;> simp [← prefijo]
      · exact p.esLinea
      · rintro rfl
        have enabled : enable = true := by
          by_contra off
          simp [off] at prefijo
        rcases ok enabled with few | ninguna
        · exact few
        · obtain ⟨line, mem, toca⟩ := List.any_eq_true.mp cambia
          rw [coincide_eq_signos, ninguna line mem] at toca
          simp at toca
    · simp at hecho

theorem Perfil.lines_escrito (so : Plataforma) {escritas : List Texto}
    (todas : ∀ line ∈ escritas, EsLinea line) :
    (Perfil.mk (some (writeModlist so escritas))).lines = escritas.map normaliza :=
  leeLineas_writeModlist so todas

theorem filtra_normaliza (lower : Texto → Texto) {clave : Texto} {lines : List Texto}
    (todas : ∀ line ∈ lines, EsLinea line) :
    ((lines.map normaliza).filter fun line => !coincide lower clave line) =
      (lines.filter fun line => !coincide lower clave line).map normaliza := by
  rw [List.filter_map]
  congr 1
  apply List.filter_congr
  intro line mem
  rw [Function.comp_apply, coincide_normaliza (todas line mem)]

theorem normaliza_dos_veces {lines : List Texto} (todas : ∀ line ∈ lines, EsLinea line) :
    (lines.map normaliza).map normaliza = lines.map normaliza := by
  rw [List.map_map]
  apply List.map_congr_left
  intro line mem
  exact normaliza_normaliza (todas line mem)

/-- One call: either the file stays, or the lines of `mutacion` are what is read next. -/
theorem tras_cases (lower : Texto → Texto) (so : Plataforma) (p : Perfil) (e : Evento) :
    p.tras lower so e = p ∨
      ∃ escritas, assertSafeComponent e.llamada.modName = true ∧
        e.llamada.mutacion lower p.modlist = some escritas ∧
        p.tras lower so e = ⟨some (writeModlist so escritas)⟩ := by
  unfold Perfil.tras
  split
  · next segura =>
    cases hecho : e.llamada.mutacion lower p.modlist with
    | none => exact .inl rfl
    | some escritas =>
      dsimp only
      split
      · exact .inr ⟨escritas, segura, rfl, rfl⟩
      · exact .inl rfl
  · exact .inl rfl

theorem tras_unicos {so : Plataforma} {p : Perfil} {e : Evento}
    (ok : Inequivoca lower p e.llamada) (unicos : SinRepetidos lower p) :
    SinRepetidos lower (p.tras lower so e) := by
  rcases tras_cases lower so p e with same | ⟨escritas, segura, hecho, same⟩
  · rwa [same]
  · have edita := mutacion_edita segura ok hecho
    rw [same, SinRepetidos, Perfil.lines_escrito so edita.lineas, habilitados_normaliza edita.lineas]
    exact edita.unicos unicos

theorem tras_ajenas {so : Plataforma} {p : Perfil} {e : Evento}
    (ok : Inequivoca lower p e.llamada) :
    ConservaAjenas lower (lower e.llamada.modName) p (p.tras lower so e) := by
  rcases tras_cases lower so p e with same | ⟨escritas, segura, hecho, same⟩
  · rw [same]
    rfl
  · have edita := mutacion_edita segura ok hecho
    rw [same, ConservaAjenas, Perfil.lines_escrito so edita.lineas, filtra_normaliza lower edita.lineas,
      edita.ajenas, normaliza_dos_veces]
    exact fun line mem => p.esLinea line (List.mem_of_mem_filter mem)

/-! Repeated additions -/

theorem Anexa.queda {modName : Texto} {lines escritas : List Texto}
    (hecho : Anexa lower modName lines (some escritas)) (todas : ∀ line ∈ lines, EsLinea line)
    (trimmed : Trimmed isspace modName) :
    (∃ line ∈ escritas, conSigno lower '+' (lower modName) line = true) ∧
      ∀ line ∈ escritas, conSigno lower '-' (lower modName) line = false := by
  have ajena : ∀ {line}, coincide lower (lower modName) line = false →
      conSigno lower '-' (lower modName) line = false := by
    intro line none
    rw [coincide_eq_signos, Bool.or_eq_false_iff] at none
    exact none.2
  cases hecho with
  | nuevo ajenas =>
    constructor
    · refine ⟨_, List.mem_append_right _ (List.mem_singleton.mpr rfl), ?_⟩
      rw [conSigno_escrita (.inl rfl) trimmed]
      simp
    · intro line mem
      rcases List.mem_append.mp mem with mem | mem
      · exact ajena (ajenas line mem)
      · rw [List.mem_singleton.mp mem, conSigno_escrita (.inl rfl) trimmed]
        simp
  | habilitado habilitada otra =>
    constructor
    · obtain ⟨line, mem, con⟩ := habilitada
      refine ⟨line, List.mem_filter.mpr ⟨mem, ?_⟩, con⟩
      obtain ⟨nombre, leida, _⟩ := conSigno_iff.mp con
      simp [conSigno, leida]
    · intro line mem
      simpa using (List.mem_filter.mp mem).2
  | @enSitio antes tras line nombre partes ninguna primera leida clave =>
    subst partes
    obtain ⟨limpio, _, _⟩ := entrada_limpia (todas line (by simp)) leida
    constructor
    · refine ⟨_, List.mem_append_right _ List.mem_cons_self, ?_⟩
      rw [conSigno_escrita (.inl rfl) limpio]
      simp [clave]
    · intro l mem
      rcases List.mem_append.mp mem with mem | mem
      · exact ajena (primera l mem)
      · rcases List.mem_cons.mp mem with rfl | mem
        · rw [conSigno_escrita (.inl rfl) limpio]
          simp
        · exact ajena (ajenas_filtradas l mem)

theorem anexa_eq_none {modName : Texto} {lines : List Texto}
    (habilitada : ∃ line ∈ lines, conSigno lower '+' (lower modName) line = true)
    (solas : ∀ line ∈ lines, conSigno lower '-' (lower modName) line = false) :
    anexa lower modName lines = none := by
  have sigue := anexa_sigue lower modName lines
  cases hecho : anexa lower modName lines with
  | none => rfl
  | some escritas =>
    rw [hecho] at sigue
    obtain ⟨line, mem, con⟩ := habilitada
    cases sigue with
    | nuevo ajenas =>
      have none := ajenas line mem
      rw [coincide_eq_signos, con] at none
      simp at none
    | habilitado _ otra =>
      obtain ⟨other, mem, con⟩ := otra
      simp [solas other mem] at con
    | enSitio _ ninguna => simp [ninguna line mem] at con

theorem takeWhile_map_normaliza {lines : List Texto} (todas : ∀ line ∈ lines, EsLinea line) :
    (lines.map normaliza).takeWhile esCabecera = (lines.takeWhile esCabecera).map normaliza ∧
      (lines.map normaliza).dropWhile esCabecera = (lines.dropWhile esCabecera).map normaliza := by
  induction lines with
  | nil => exact ⟨rfl, rfl⟩
  | cons line lines ih =>
    obtain ⟨tomadas, dejadas⟩ := ih fun l mem => todas l (List.mem_cons_of_mem _ mem)
    have same : esCabecera (normaliza line) = esCabecera line := by
      rw [esCabecera, strip_normaliza (todas line (by simp)), esCabecera]
    cases cab : esCabecera line with
    | true => simp [same, cab, tomadas, dejadas]
    | false => simp [same, cab]

theorem trasCabecera_normaliza {nombre : Texto} {lines : List Texto}
    (todas : ∀ line ∈ lines, EsLinea line) :
    trasCabecera nombre (lines.map normaliza) = (trasCabecera nombre lines).map normaliza := by
  obtain ⟨tomadas, dejadas⟩ := takeWhile_map_normaliza todas
  rw [trasCabecera, tomadas, dejadas, trasCabecera, List.map_append, List.map_cons,
    normaliza_salto]

theorem antepone_repetida (lower : Texto → Texto) {modName : Texto} {lines : List Texto}
    (todas : ∀ line ∈ lines, EsLinea line) (trimmed : Trimmed isspace modName)
    (sinSalto : '\n' ∉ modName) (sinRetorno : '\r' ∉ modName) :
    (antepone lower modName ((antepone lower modName lines).map normaliza)).map normaliza =
      (antepone lower modName lines).map normaliza := by
  have edita := antepone_edita lower todas trimmed sinSalto sinRetorno
  obtain ⟨nombre, escrito, key, limpio, _⟩ :=
    nombre_antepuesto lower todas trimmed sinSalto sinRetorno
  have dentro : ∀ line ∈ lines.filter fun line => !coincide lower (lower modName) line,
      EsLinea line := fun line mem => todas line (List.mem_of_mem_filter mem)
  -- the second call finds the name that the first one wrote
  have hallado : nombreExistente lower (lower modName)
      ((antepone lower modName lines).map normaliza) = some nombre := by
    have delante : ((lines.filter fun line => !coincide lower (lower modName) line).map
        normaliza |>.takeWhile esCabecera).find? (coincide lower (lower modName)) = none := by
      rw [List.find?_eq_none]
      intro line mem
      obtain ⟨l, inside, rfl⟩ := List.mem_map.mp ((List.takeWhile_prefix _).subset mem)
      rw [coincide_normaliza (dentro l inside), ajenas_filtradas l inside]
      simp
    rw [antepone, escrito, ← trasCabecera_normaliza dentro, nombreExistente, trasCabecera,
      List.find?_append, delante, Option.none_or, List.find?_cons_of_pos, Option.bind_some,
      entrada_escrita (.inl rfl) limpio]
    · rfl
    · rw [coincide_escrita (.inl rfl) limpio]
      simp [key]
  conv_lhs => rw [antepone]
  rw [hallado, Option.getD_some, filtra_normaliza lower edita.lineas, edita.ajenas,
    trasCabecera_normaliza dentro, normaliza_dos_veces, antepone, escrito]
  rw [antepone, escrito] at edita
  exact edita.lineas

theorem writeModlist_congr {so : Plataforma} {lines others : List Texto}
    (same : lines.map normaliza = others.map normaliza) :
    writeModlist so lines = writeModlist so others := by
  rw [writeModlist, same, writeModlist]

theorem tras_repetida {so : Plataforma} {p : Perfil} {e e' : Evento} {modName : Texto}
    {highestPriority : Bool} {priority : Option String}
    (llamada : e.llamada = .add modName highestPriority priority) (escribe : e.escribe = true)
    (misma : e'.llamada = e.llamada) (trimmed : Trimmed isspace modName) :
    (p.tras lower so e).tras lower so e' = p.tras lower so e := by
  by_cases segura : assertSafeComponent modName = true
  · obtain ⟨sinSalto, sinRetorno⟩ := sin_terminadores segura
    have unfolded : ∀ (q : Perfil) (f : Evento), f.llamada = e.llamada →
        q.tras lower so f = match addModToModlist lower modName highestPriority priority q.modlist with
          | some lines => if f.escribe then ⟨some (writeModlist so lines)⟩ else q
          | none => q := by
      intro q f same
      rw [Perfil.tras, same, llamada]
      exact if_pos segura
    rw [unfolded p e rfl]
    cases hecho : addModToModlist lower modName highestPriority priority p.modlist with
    | none =>
      dsimp only
      rw [unfolded p e' misma, hecho]
    | some escritas =>
      dsimp only
      rw [if_pos escribe, unfolded _ e' misma]
      have edita : Edita lower (lower modName) p.lines escritas := by
        exact mutacion_edita (e := .add modName highestPriority priority) segura trimmed hecho
      have leidas := leeLineas_writeModlist so edita.lineas
      simp only [addModToModlist, Option.map_some, Option.getD_some, leidas] at hecho ⊢
      by_cases alta : highestPriority = true ∨ priority = some "highest"
      · rw [if_pos alta] at hecho ⊢
        obtain rfl := Option.some.inj hecho
        dsimp only
        split
        · have repetida := antepone_repetida lower p.esLinea trimmed sinSalto sinRetorno
          exact congrArg (Perfil.mk ∘ some) (writeModlist_congr repetida)
        · rfl
      · rw [if_neg alta] at hecho ⊢
        have sigue := anexa_sigue lower modName p.lines
        rw [Perfil.lines, hecho] at sigue
        obtain ⟨⟨line, mem, con⟩, solas⟩ := sigue.queda p.esLinea trimmed
        rw [anexa_eq_none]
        · exact ⟨normaliza line, List.mem_map_of_mem mem,
            by rw [conSigno_normaliza (edita.lineas line mem), con]⟩
        · intro l inside
          obtain ⟨m, mem, rfl⟩ := List.mem_map.mp inside
          rw [conSigno_normaliza (edita.lineas m mem), solas m mem]
  · have quieto : ∀ (q : Perfil) (f : Evento), f.llamada = e.llamada → q.tras lower so f = q := by
      intro q f same
      rw [Perfil.tras, same, llamada]
      exact if_neg segura
    rw [quieto p e rfl, quieto p e' misma]

/-- What every profile that is reached satisfies, with what one more call does to it. -/
structure PerfilIntegro (lower : Texto → Texto) (so : Plataforma) (p : Perfil) : Prop where
  sinRepetidos : SinRepetidos lower p
  ajenas : ∀ e, Inequivoca lower p e.llamada →
    ConservaAjenas lower (lower e.llamada.modName) p (p.tras lower so e)
  repetida : ∀ e e' modName highestPriority priority,
    e.llamada = .add modName highestPriority priority → e.escribe = true →
    Inequivoca lower p e.llamada → e'.llamada = e.llamada →
      (p.tras lower so e).tras lower so e' = p.tras lower so e

theorem perfil_integro (lower : Texto → Texto) (so : Plataforma) {p : Perfil}
    (reached : Reaches (step lower so) (SinRepetidos lower)
      (fun q e => Inequivoca lower q e.llamada) p) : PerfilIntegro lower so p := by
  constructor
  · apply reached.invariant
    · exact fun _ first => first
    · intro q e t unicos ok moved
      obtain rfl : q.tras lower so e = t := Option.some.inj moved
      exact tras_unicos ok unicos
  · exact fun e ok => tras_ajenas ok
  · intro e e' modName highestPriority priority llamada escribe ok misma
    rw [llamada] at ok
    exact tras_repetida llamada escribe misma ok

end

instance (lower : Texto → Texto) (p : Perfil) : Decidable (SinRepetidos lower p) :=
  inferInstanceAs (Decidable (List.Nodup _))

def minusculas (t : Texto) : Texto := t.map Char.toLower

def pideX (enable : Bool) : Evento := ⟨.toggle ['X'] enable, true⟩

def anexaConEspacio : Evento := ⟨.add [' ', 'X'] false none, true⟩

def unaVariante : Perfil := ⟨some ['+', 'A', '\n', '-', 'x', '\n']⟩

def dosVariantes : Perfil := ⟨some ['-', 'X', '\n', '-', 'x', '\n']⟩

theorem editado : PerfilIntegro minusculas .windows
    (unaVariante.tras minusculas .windows (pideX true)) := by
  have sola : Inequivoca minusculas unaVariante (pideX true).llamada :=
    fun _ => .inl (by decide)
  exact perfil_integro minusculas .windows (.next (.start (by decide)) sola rfl)

/-- Two disabled entries of one mod are both enabled, and a name with a blank in front is
added again by the call that repeats it. -/
theorem variantes_habilitadas :
    (SinRepetidos minusculas dosVariantes ∧
      assertSafeComponent (pideX true).llamada.modName = true ∧
      ¬ SinRepetidos minusculas (dosVariantes.tras minusculas .posix (pideX true))) ∧
    SinRepetidos minusculas ⟨none⟩ ∧
      assertSafeComponent anexaConEspacio.llamada.modName = true ∧
      (Perfil.tras minusculas .posix ⟨none⟩ anexaConEspacio).tras minusculas .posix
          anexaConEspacio ≠
        Perfil.tras minusculas .posix ⟨none⟩ anexaConEspacio := by
  refine ⟨⟨by decide, by decide, by decide⟩, by decide, by decide, ?_⟩
  intro same
  have larger := congrArg (fun p => (p.modlist.getD []).length) same
  exact absurd larger (by decide)

end ModlistEdits
