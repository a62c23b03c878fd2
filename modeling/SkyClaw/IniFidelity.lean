import SkyClaw.IniEdits

set_option linter.all false

/-!
What setting a key of an INI file leaves as it was, and when it does what it
should: a written line must be read back as that line.
-/
namespace IniEditor
open Utf8Text TrimmedText

structure Clave (key : Texto) : Prop where
  llena : key ≠ []
  recortada : strip key = key
  sinIgual : .scalar '=' ∉ key
  limpia : Limpio key
  sinComentario : key.head? ≠ some (.scalar ';') ∧ key.head? ≠ some (.scalar '#')
  sinCorchete : key.head? ≠ some (.scalar '[')

structure Valor (value : Texto) : Prop where
  recortado : strip value = value
  limpio : Limpio value

/-- The last line may have been given the ending that it lacked. -/
def Completada (antes despues : List Line) : Prop :=
  despues = antes ∨ ∃ before body eol, antes = before ++ [⟨body, .sin⟩] ∧
    despues = before ++ [⟨body, eol⟩]

/-- One line has another body, or a line (with its header, where there is no such section) is
new; all others are as they were. -/
def Conserva (m : Minusculas) (key : Texto) (seccion : Option Texto) (antes despues : List Line) :
    Prop :=
  if (findKey m antes key seccion).isSome then
    ∃ a w b body, antes = a ++ w :: b ∧ despues = a ++ ⟨body, w.eol⟩ :: b
  else ∃ a b a' nuevas, antes = a ++ b ∧ despues = a' ++ (nuevas ++ b) ∧ Completada a a' ∧
    (nuevas.length = 1 ∨ nuevas.length = 2 ∧ scopeBounds m antes seccion = none)

structure Fiel (m : Minusculas) (data : Bytes) (key value : Texto) (seccion : Option Texto)
    (after : Bytes) : Prop where
  leido : getSync m after key seccion = some value
  ajenas : ∀ otra s, ¬ (m.lower otra = m.lower key ∧ s.map m.lower = seccion.map m.lower) →
    getSync m after otra s = getSync m data otra s
  marca : (readLines after).1 = (readLines data).1
  lineas : Conserva m key seccion (readLines data).2 (readLines after).2
  repetida : ∃ result, setSync m (some after) key value seccion = (some after, some result) ∧
    result.changed = false

/-- The set returns, and the file that it leaves is as it should be. -/
def Cumple (m : Minusculas) (data : Bytes) (key value : Texto) (seccion : Option Texto) : Prop :=
  ∃ after result, setSync m (some data) key value seccion = (some after, some result) ∧
    Fiel m data key value seccion after

/-- What is written is read back: the texts survive, a new section has a name on one line, a
bare CR does not join a blank line, and no byte order mark appears. -/
def Cabe (m : Minusculas) (data : Bytes) (key value : Texto) (seccion : Option Texto) : Prop :=
  match getSync m data key seccion with
  | some previous => previous = value ∨ Survives value
  | none => Survives key ∧ Survives value ∧
    match scopeBounds m (readLines data).2 seccion with
    | none => ∀ name ∈ seccion, name ≠ [] ∧ Limpio name ∧ Survives name
    | some (start, stop) =>
      ¬ (detectEol (readLines data).2 = .cr ∧
        ((readLines data).2.drop (insertAt (readLines data).2 start stop)).head? =
          some ⟨[], .lf⟩) ∧
      ¬ ((readLines data).1 = false ∧ insertAt (readLines data).2 start stop = 0 ∧
        key.head? = some (.scalar '\uFEFF'))

/-! The written line -/

variable {m : Minusculas} {key value : Texto} {seccion : Option Texto}

theorem cuerpo_leido {raw rest : Texto} {target current : Option Texto}
    (sin_igual : .scalar '=' ∉ raw) (solid : strip raw ≠ [])
    (sin_comentario : (strip raw).head? ≠ some (.scalar ';') ∧
      (strip raw).head? ≠ some (.scalar '#'))
    (sin_corchete : (strip raw).head? ≠ some (.scalar '[')) (here : current = target) :
    acierto m (m.lower (strip raw)) target current (raw ++ CodePoint.scalar '=' :: rest) =
      some ⟨raw ++ CodePoint.scalar '=' :: rest.takeWhile blank, strip raw, strip rest⟩ := by
  apply acierto_eq_some.mpr
  refine ⟨?_, here, splitKeyLine_igual sin_igual solid sin_comentario.1 sin_comentario.2, rfl⟩
  apply sectionOf_eq_none
  rw [head_strip_append solid]
  exact sin_corchete

theorem strip_tras_blancos {w : Texto} (white : ∀ p ∈ w, blank p = true)
    (recortado : strip value = value) : strip (w ++ value) = value := by
  rw [strip, strip_blank_append white]
  exact recortado

/-- A new line gives its key, in whatever section it stands. -/
theorem nueva_leida (clave : Clave key) (valor : Valor value) (w₁ w₂ : Texto)
    (front : ∀ p ∈ w₁, blank p = true) (back : ∀ p ∈ w₂, blank p = true) (target : Option Texto) :
    ∃ parsed, acierto m (m.lower key) target target
      (key ++ ((w₁ ++ CodePoint.scalar '=' :: w₂) ++ value)) = some parsed ∧ parsed.value = value := by
  have raw : strip (key ++ w₁) = key := by
    rw [strip, strip_append_blank front]
    exact clave.recortada
  have sin_igual : .scalar '=' ∉ key ++ w₁ := by
    intro mem
    rcases List.mem_append.mp mem with inside | white
    · exact clave.sinIgual inside
    · exact absurd (front _ white) (by decide)
  have split : key ++ ((w₁ ++ CodePoint.scalar '=' :: w₂) ++ value) =
      (key ++ w₁) ++ CodePoint.scalar '=' :: (w₂ ++ value) := by simp
  have found : acierto m (m.lower (strip (key ++ w₁))) target target
      ((key ++ w₁) ++ CodePoint.scalar '=' :: (w₂ ++ value)) = some _ :=
    cuerpo_leido sin_igual (raw.symm ▸ clave.llena) (raw.symm ▸ clave.sinComentario)
      (raw.symm ▸ clave.sinCorchete) rfl
  rw [raw, strip_tras_blancos back valor.recortado] at found
  exact ⟨_, by rw [split]; exact found, rfl⟩

theorem nueva_sobrevive {w₁ w₂ : Texto} (front : ∀ p ∈ w₁, blank p = true)
    (back : ∀ p ∈ w₂, blank p = true) :
    Survives (key ++ ((w₁ ++ CodePoint.scalar '=' :: w₂) ++ value)) ↔ Survives key ∧ Survives value := by
  apply survives_apart
  · intro p mem
    rcases List.mem_append.mp mem with white | rest
    · exact scalar_of_blank (front p white)
    · rcases List.mem_cons.mp rest with rfl | white
      · exact ⟨_, rfl⟩
      · exact scalar_of_blank (back p white)
  · simp

theorem limpio_append {t u : Texto} (first : Limpio t) (second : Limpio u) : Limpio (t ++ u) := by
  constructor
  · intro mem
    rcases List.mem_append.mp mem with inside | inside
    · exact first.1 inside
    · exact second.1 inside
  · intro mem
    rcases List.mem_append.mp mem with inside | inside
    · exact first.2 inside
    · exact second.2 inside

theorem limpio_igual : Limpio [.scalar '='] := ⟨by decide, by decide⟩

theorem nueva_limpia (clave : Clave key) (valor : Valor value) {w₁ w₂ : Texto} (first : Limpio w₁)
    (second : Limpio w₂) : Limpio (key ++ ((w₁ ++ CodePoint.scalar '=' :: w₂) ++ value)) := by
  have sep : Limpio (w₁ ++ CodePoint.scalar '=' :: w₂) :=
    limpio_append first (limpio_append limpio_igual second)
  exact limpio_append clave.limpia (limpio_append sep valor.limpio)

theorem detectEol_ne_sin (lines : List Line) : detectEol lines ≠ .sin := by
  unfold detectEol
  cases found : lines.find? fun line => line.eol ≠ .sin with
  | none => simp
  | some line =>
    have ends := List.find?_some found
    simpa using ends

/-! The three ways to write -/

theorem texto_ne_nil {l : Line} {lines : List Line} (leidas : Leidas (l :: lines)) :
    l.texto ≠ [] := by
  intro empty
  obtain ⟨body, ending⟩ := List.append_eq_nil_iff.mp empty
  cases same : l.eol with
  | sin => exact leidas.llenas l List.mem_cons_self same body
  | lf => simp [same, Eol.texto] at ending
  | cr => simp [same, Eol.texto] at ending
  | crlf => simp [same, Eol.texto] at ending

theorem head_texto_cons {l : Line} {lines : List Line} (some_text : l.texto ≠ []) :
    (texto (l :: lines)).head? = l.texto.head? := by
  obtain ⟨p, rest, same⟩ := List.exists_cons_of_ne_nil some_text
  rw [texto, List.flatMap_cons, same]
  rfl

/-- The text starts as it did. -/
theorem head_completa {a : List Line} (leidas : Leidas a) (nonempty : a ≠ []) (eol : Eol)
    (x y : List Line) : (texto (completa eol a ++ x)).head? = (texto (a ++ y)).head? := by
  have same_first : ∀ {l : Line} {before : List Line}, Leidas (l :: before) →
      ∀ u v, (texto (l :: before ++ u)).head? = (texto (l :: before ++ v)).head? := by
    intro l before read u v
    rw [List.cons_append, List.cons_append, head_texto_cons (texto_ne_nil read),
      head_texto_cons (texto_ne_nil read)]
  rcases completa_cases eol a with ⟨same, _⟩ | ⟨before, body, rfl, same⟩
  · rw [same]
    cases a with
    | nil => exact absurd rfl nonempty
    | cons l before => exact same_first leidas x y
  · rw [same, List.append_assoc, List.append_assoc]
    cases before with
    | nil =>
      have lleno : body ≠ [] := leidas.llenas ⟨body, .sin⟩ (by simp) rfl
      obtain ⟨p, rest, rfl⟩ := List.exists_cons_of_ne_nil lleno
      simp [texto, Line.texto]
    | cons l before => exact same_first leidas.left _ _

theorem leidas_reemplaza {a b : List Line} {w : Line} {body : Texto}
    (leidas : Leidas (a ++ w :: b)) (limpio : Limpio body) (lleno : body ≠ []) :
    Leidas (a ++ ⟨body, w.eol⟩ :: b) := by
  have tail := leidas.de_append
  have follows := (List.isChain_cons.mp tail.seguidas).1
  have before := (List.isChain_append.mp leidas.seguidas).2.2
  refine leidas_append leidas.left
    (leidas_cons limpio (fun _ => lleno) follows tail.de_cons) ?_
  rintro x last y ⟨⟩
  exact ⟨(before x last w rfl).1, fun merged => lleno merged.2.1⟩

theorem head_reemplaza {a b : List Line} {w : Line} {body : Texto}
    (leidas : Leidas (a ++ w :: b)) (some_body : w.body ≠ []) (lleno : body ≠ [])
    (same : body.head? = w.body.head?) :
    (texto (a ++ ⟨body, w.eol⟩ :: b)).head? = (texto (a ++ w :: b)).head? := by
  cases a with
  | nil =>
    obtain ⟨p, rest, full⟩ := List.exists_cons_of_ne_nil some_body
    obtain ⟨q, more, new⟩ := List.exists_cons_of_ne_nil lleno
    simp only [full, new, List.head?_cons, Option.some.injEq] at same
    simp [texto, Line.texto, full, new, same]
  | cons l before =>
    have first : Leidas (l :: before) := leidas.left
    rw [List.cons_append, List.cons_append, head_texto_cons (texto_ne_nil first),
      head_texto_cons (texto_ne_nil first)]

theorem completada_completa (eol : Eol) (lines : List Line) :
    Completada lines (completa eol lines) := by
  rcases completa_cases eol lines with ⟨same, _⟩ | ⟨before, body, split, same⟩
  · exact .inl same
  · exact .inr ⟨before, body, eol, split, same⟩

theorem survives_completa {eol : Eol} {lines : List Line}
    (cuerpos : ∀ l ∈ lines, Survives l.body) : ∀ l ∈ completa eol lines, Survives l.body := by
  intro l mem
  have listed : l.body ∈ lines.map (·.body) := by
    rw [← map_body_completa eol lines]
    exact List.mem_map_of_mem mem
  obtain ⟨old, inside, same⟩ := List.mem_map.mp listed
  exact same ▸ cuerpos old inside

/-- A written file of lines that can be read is read as those lines. -/
theorem escrita_leida {bom : Bool} {lines : List Line} (legible : Legible bom lines) {after : Bytes}
    (written : serialize bom lines = some after) : readLines after = (bom, lines) := by
  obtain ⟨data, same, read⟩ := legible.escritas
  obtain rfl : after = data := Option.some.inj (written.symm.trans same)
  exact read

/-- A set that has been done finds its value. -/
theorem repetida_de_leido {after : Bytes} (leido : getSync m after key seccion = some value) :
    ∃ result, setSync m (some after) key value seccion = (some after, some result) ∧
      result.changed = false := by
  obtain ⟨hit, found, same⟩ := Option.map_eq_some_iff.mp leido
  simp only [setSync, Option.getD_some, found, if_pos same]
  exact ⟨_, rfl, rfl⟩

theorem setSync_tiene {data : Bytes} {hit : KeyHit}
    (found : findKey m (readLines data).2 key seccion = some hit) (other : hit.value ≠ value)
    {after : Bytes} (written : serialize (readLines data).1 ((readLines data).2.modify hit.index
      fun line => ⟨hit.before ++ value, line.eol⟩) = some after) :
    setSync m (some data) key value seccion =
      (some after, some ⟨true, some hit.value, some data⟩) := by
  simp only [setSync, Option.getD_some, found, if_neg other, written]

theorem setSync_falta {data : Bytes} (absent : findKey m (readLines data).2 key seccion = none)
    {after : Bytes} (written : serialize (readLines data).1
      (insertKey m (readLines data).2 key value seccion) = some after) :
    setSync m (some data) key value seccion = (some after, some ⟨true, none, some data⟩) := by
  simp only [setSync, Option.getD_some, absent, written]

/-- What the new body of a line that has the key is read as. -/
theorem reemplazo (clave : Clave key) (valor : Valor value) {target current : Option Texto}
    {body : Texto} {parsed : KeyLine}
    (hits : acierto m (m.lower key) target current body = some parsed) :
    (∃ again, acierto m (m.lower key) target current (parsed.before ++ value) = some again ∧
      again.value = value) ∧
    (Limpio body → Limpio (parsed.before ++ value)) ∧ parsed.before ++ value ≠ [] ∧
    (Survives body → Survives value → Survives (parsed.before ++ value)) ∧
    body ≠ [] ∧ (parsed.before ++ value).head? = body.head? := by
  obtain ⟨no_header, here, found, same⟩ := acierto_eq_some.mp hits
  obtain ⟨raw, rest, rfl, sin_igual, solid, semicolon, hash, rfl⟩ := splitKeyLine_eq_some found
  have white : ∀ p ∈ rest.takeWhile blank, blank p = true := fun p mem => List.mem_takeWhile_imp mem
  have split : (raw ++ CodePoint.scalar '=' :: rest.takeWhile blank) ++ value =
      raw ++ CodePoint.scalar '=' :: (rest.takeWhile blank ++ value) := by simp
  have bracket : (strip raw).head? ≠ some (.scalar '[') := by
    intro head
    have lowered := (m.head_lower (by decide) (strip raw)).mpr head
    rw [same, m.head_lower (by decide)] at lowered
    exact clave.sinCorchete lowered
  refine ⟨?_, ?_, by simp, ?_, by simp, ?_⟩
  · have again : acierto m (m.lower (strip raw)) target current
        (raw ++ CodePoint.scalar '=' :: (rest.takeWhile blank ++ value)) = some _ :=
      cuerpo_leido sin_igual solid ⟨semicolon, hash⟩ bracket here
    rw [strip_tras_blancos white valor.recortado] at again
    dsimp only at same ⊢
    rw [split, ← same]
    exact ⟨_, again, rfl⟩
  · intro limpio
    have piece : Limpio (raw ++ CodePoint.scalar '=' :: rest.takeWhile blank) := by
      have inside : ∀ p ∈ raw ++ CodePoint.scalar '=' :: rest.takeWhile blank,
          p ∈ raw ++ CodePoint.scalar '=' :: rest := by
        intro p mem
        rcases List.mem_append.mp mem with first | later
        · exact List.mem_append_left _ first
        · rcases List.mem_cons.mp later with rfl | blanks
          · simp
          · exact List.mem_append_right _
              (List.mem_cons_of_mem _ ((List.takeWhile_prefix _).subset blanks))
      exact ⟨fun mem => limpio.1 (inside _ mem), fun mem => limpio.2 (inside _ mem)⟩
    exact limpio_append piece valor.limpio
  · intro survives value_survives
    dsimp only
    rw [survives_append_scalar] at survives
    rw [split, survives_append_scalar]
    exact ⟨survives.1, (survives_scalars_append (fun p mem => scalar_of_blank (white p mem))
      value).mpr value_survives⟩
  · cases raw <;> simp

theorem cumple_igual {data : Bytes} {hit : KeyHit}
    (found : findKey m (readLines data).2 key seccion = some hit) (same : hit.value = value) :
    Cumple m data key value seccion := by
  have leido : getSync m data key seccion = some value := by
    rw [getSync, found, Option.map_some, same]
  have unchanged : setSync m (some data) key value seccion =
      (some data, some ⟨false, some hit.value, none⟩) := by
    simp only [setSync, Option.getD_some, found, if_pos same]
  refine ⟨data, _, unchanged, leido, fun _ _ _ => rfl, rfl, ?_, repetida_de_leido leido⟩
  rcases findKeyFrom_parts found with ⟨absent, _⟩ | ⟨a, w, b, parsed, split, _⟩
  · cases absent
  · rw [Conserva, found]
    exact ⟨a, w, b, w.body, split, split⟩

theorem cumple_reemplazo (clave : Clave key) (valor : Valor value) {data : Bytes} {hit : KeyHit}
    (found : findKey m (readLines data).2 key seccion = some hit) (other : hit.value ≠ value)
    (survives : Survives value) : Cumple m data key value seccion := by
  have legible := legible_readLines data
  rcases findKeyFrom_parts found with ⟨absent, _⟩ | ⟨a, w, b, parsed, split, rfl, hits, none_left⟩
  · cases absent
  · obtain ⟨⟨again, new_hits, new_value⟩, limpio, lleno, survives_new, some_body, same_head⟩ :=
      reemplazo clave valor hits
    have modified : (readLines data).2.modify (0 + a.length) (fun line =>
        ⟨parsed.before ++ value, line.eol⟩) = a ++ ⟨parsed.before ++ value, w.eol⟩ :: b := by
      rw [split, Nat.zero_add]
      exact List.modifyTailIdx_add _ 0 a (w :: b)
    rw [split] at legible
    have listed : w ∈ a ++ w :: b := by simp
    have new_legible : Legible (readLines data).1 (a ++ ⟨parsed.before ++ value, w.eol⟩ :: b) := by
      refine ⟨leidas_reemplaza legible.leidas (limpio (legible.leidas.limpias w listed)) lleno, ?_, ?_⟩
      · intro l mem
        rcases List.mem_append.mp mem with front | back
        · exact legible.cuerpos l (List.mem_append_left _ front)
        · rcases List.mem_cons.mp back with rfl | rest
          · exact survives_new (legible.cuerpos w listed) survives
          · exact legible.cuerpos l (by simp [rest])
      · intro unmarked
        rw [head_reemplaza legible.leidas some_body lleno same_head]
        exact legible.sinMarca unmarked
    obtain ⟨after, written, read⟩ := new_legible.escritas
    have done := setSync_tiene found other (modified ▸ written)
    have leido : getSync m after key seccion = some value := by
      rw [getSync_eq, read]
      simp only [List.map_append, List.map_cons]
      rw [ultimo_escrito new_hits, none_left, new_value]
      rfl
    refine ⟨after, _, done, leido, ?_, by rw [read], ?_, repetida_de_leido leido⟩
    · intro otra s different
      rw [getSync_eq, getSync_eq, read, split]
      simp only [List.map_append, List.map_cons]
      rw [ultimo_ajeno new_hits different, ultimo_ajeno hits different]
    · rw [Conserva, found, read, split]
      exact ⟨a, w, b, parsed.before ++ value, rfl, rfl⟩

theorem sin_hit {data : Bytes} (absent : getSync m data key seccion = none) :
    findKey m (readLines data).2 key seccion = none := Option.map_eq_none_iff.mp absent

/-- The lines with the new one in its scope. -/
theorem insertKey_ambito (key value : Texto) {lines : List Line} {start stop : Nat}
    (found : scopeBounds m lines seccion = some (start, stop)) :
    insertKey m lines key value seccion =
      completa (detectEol lines) (lines.take (insertAt lines start stop)) ++
        ⟨key ++ (scopeSeparator lines start stop seccion ++ value), detectEol lines⟩ ::
          lines.drop (insertAt lines start stop) := by
  simp only [insertKey, found]

/-- A new line among lines that were read; those of `b` before `c` are gone. -/
theorem legible_insercion {bom : Bool} {a b c : List Line} (legible : Legible bom (a ++ b))
    (suffix : c <:+ b) {eol ending : Eol} (ends : eol ≠ .sin) {body : Texto} (limpia : Limpio body)
    (lleno : body ≠ []) (sobrevive : Survives body)
    (sigue : ∀ next ∈ c.head?, Sigue ⟨body, ending⟩ next)
    (unmarked : bom = false → a = [] → body.head? ≠ some (.scalar '\uFEFF')) :
    Legible bom (completa eol a ++ ⟨body, ending⟩ :: c) := by
  obtain ⟨gone, rfl⟩ := suffix
  refine ⟨?_, ?_, ?_⟩
  · apply leidas_completa ends legible.leidas.left
    · exact leidas_cons limpia (fun _ => lleno) sigue legible.leidas.de_append.de_append
    · rintro _ ⟨⟩
      exact lleno
  · intro l mem
    rcases List.mem_append.mp mem with before | rest
    · exact survives_completa (fun x inside => legible.cuerpos x (List.mem_append_left _ inside))
        l before
    · rcases List.mem_cons.mp rest with rfl | after
      · exact sobrevive
      · exact legible.cuerpos l (List.mem_append_right a (List.mem_append_right gone after))
  · intro no_mark
    cases a with
    | nil =>
      have first := unmarked no_mark rfl
      obtain ⟨p, rest, rfl⟩ := List.exists_cons_of_ne_nil lleno
      simpa [completa, texto, Line.texto] using first
    | cons l before =>
      rw [head_completa legible.leidas.left (List.cons_ne_nil l before) eol _ (gone ++ c)]
      exact legible.sinMarca no_mark

theorem cumple_ambito (clave : Clave key) (valor : Valor value) {data : Bytes}
    (absent : getSync m data key seccion = none) (key_survives : Survives key)
    (value_survives : Survives value) {start stop : Nat}
    (found : scopeBounds m (readLines data).2 seccion = some (start, stop))
    (apart : ¬ (detectEol (readLines data).2 = .cr ∧
      ((readLines data).2.drop (insertAt (readLines data).2 start stop)).head? = some ⟨[], .lf⟩))
    (unmarked : ¬ ((readLines data).1 = false ∧ insertAt (readLines data).2 start stop = 0 ∧
      key.head? = some (.scalar '\uFEFF'))) :
    Cumple m data key value seccion := by
  have legible := legible_readLines data
  have inserted := insertKey_ambito key value found
  obtain ⟨w₁, w₂, sep, front, back, clean₁, clean₂⟩ :=
    separador legible.leidas start stop seccion
  obtain ⟨a, b, split, place, current⟩ := lugar found
  have ends := detectEol_ne_sin (readLines data).2
  generalize detectEol (readLines data).2 = eol at *
  have taken : (readLines data).2.take (insertAt (readLines data).2 start stop) = a := by
    rw [place, split, List.take_left]
  have dropped : (readLines data).2.drop (insertAt (readLines data).2 start stop) = b := by
    rw [place, split, List.drop_left]
  rw [taken, dropped, sep] at inserted
  rw [dropped] at apart
  rw [place] at unmarked
  have body_head : (key ++ ((w₁ ++ CodePoint.scalar '=' :: w₂) ++ value)).head? = key.head? := by
    obtain ⟨p, rest, rfl⟩ := List.exists_cons_of_ne_nil clave.llena
    rfl
  have lleno : key ++ ((w₁ ++ CodePoint.scalar '=' :: w₂) ++ value) ≠ [] := by simp
  have limpia := nueva_limpia clave valor clean₁ clean₂
  have sobrevive := (nueva_sobrevive front back).mpr ⟨key_survives, value_survives⟩
  obtain ⟨parsed, hits, parsed_value⟩ := nueva_leida (m := m) clave valor w₁ w₂ front back
    (seccion.map m.lower)
  generalize key ++ ((w₁ ++ CodePoint.scalar '=' :: w₂) ++ value) = body at *
  rw [split] at legible
  have new_legible : Legible (readLines data).1 (completa eol a ++ ⟨body, eol⟩ :: b) := by
    apply legible_insercion legible ⟨[], rfl⟩ ends limpia lleno sobrevive
    · rintro ⟨next_body, next_eol⟩ head
      refine ⟨ends, ?_⟩
      rintro ⟨cr, empty, lf⟩
      simp only at empty lf
      exact apart ⟨cr, by rw [← empty, ← lf]; exact head⟩
    · rintro no_mark rfl mark
      exact unmarked ⟨no_mark, rfl, body_head ▸ mark⟩
  obtain ⟨after, written, read⟩ := new_legible.escritas
  have none_before := sin_hit absent
  have done := setSync_falta none_before (inserted ▸ written)
  have old := absent
  rw [getSync_eq, split, List.map_append, ultimo_append, Option.or_eq_none_iff, current] at old
  have bodies : (completa eol a ++ ⟨body, eol⟩ :: b).map (·.body) =
      a.map (·.body) ++ body :: b.map (·.body) := by
    rw [List.map_append, map_body_completa, List.map_cons]
  have placed : acierto m (m.lower key) (seccion.map m.lower)
      (seccionFinal m none (a.map (·.body))) body = some parsed := by
    rw [current]
    exact hits
  have leido : getSync m after key seccion = some value := by
    rw [getSync_eq, read, bodies, ultimo_escrito placed, current, old.1, parsed_value]
    rfl
  refine ⟨after, _, done, leido, ?_, by rw [read], ?_, repetida_de_leido leido⟩
  · intro otra s different
    rw [getSync_eq, getSync_eq, read, bodies, split, List.map_append]
    exact ultimo_ajeno placed different _
  · rw [Conserva, none_before, read, split]
    exact ⟨a, b, completa eol a, [⟨body, eol⟩], rfl, rfl, completada_completa eol a, .inl rfl⟩

/-- The section that an absent scope names. -/
theorem nombre_de_ausente {lines : List Line} (absent : scopeBounds m lines seccion = none) :
    ∃ name, seccion = some name ∧
      ∀ line ∈ lines, ∀ header, sectionOf line.body = some header → m.lower header ≠ m.lower name := by
  cases seccion with
  | none => cases absent
  | some name => exact ⟨name, rfl, scopeBoundsFrom_ausente absent⟩

theorem insertKey_seccion (key value : Texto) {lines : List Line} {name : Texto}
    (absent : scopeBounds m lines (some name) = none) :
    insertKey m lines key value (some name) = completa (detectEol lines) lines ++
      [⟨.scalar '[' :: (name ++ [CodePoint.scalar ']']), detectEol lines⟩,
        ⟨key ++ CodePoint.scalar '=' :: value, detectEol lines⟩] := by
  simp only [insertKey, absent, Option.getD_some]

/-- A new section, with whatever name its header is read as. -/
theorem legible_seccion (clave : Clave key) (valor : Valor value) (data : Bytes) {name : Texto}
    (key_survives : Survives key) (value_survives : Survives value) (limpio : Limpio name)
    (name_survives : Survives name) :
    Legible (readLines data).1 (completa (detectEol (readLines data).2) (readLines data).2 ++
      [⟨.scalar '[' :: (name ++ [CodePoint.scalar ']']), detectEol (readLines data).2⟩,
        ⟨key ++ CodePoint.scalar '=' :: value, detectEol (readLines data).2⟩]) := by
  have legible := legible_readLines data
  have ends := detectEol_ne_sin (readLines data).2
  generalize detectEol (readLines data).2 = eol at *
  have limpia : Limpio (key ++ CodePoint.scalar '=' :: value) :=
    limpio_append clave.limpia (limpio_append limpio_igual valor.limpio)
  have header_limpio : Limpio (.scalar '[' :: (name ++ [CodePoint.scalar ']'])) := by
    have first : Limpio [.scalar '['] := ⟨by decide, by decide⟩
    have last : Limpio [.scalar ']'] := ⟨by decide, by decide⟩
    exact limpio_append first (limpio_append limpio last)
  have header_survives : Survives (.scalar '[' :: (name ++ [CodePoint.scalar ']'])) := by
    rw [survives_cons_scalar, survives_append_scalar]
    exact ⟨name_survives, survives_nil⟩
  refine ⟨?_, ?_, ?_⟩
  · apply leidas_completa ends legible.leidas
    · refine leidas_cons header_limpio (fun _ => List.cons_ne_nil _ _) ?_
        (leidas_cons limpia (fun _ => by simp) nofun leidas_nil)
      rintro _ ⟨⟩
      exact ⟨ends, fun merged => by simpa using merged.2.1⟩
    · rintro _ ⟨⟩
      exact List.cons_ne_nil _ _
  · intro l mem
    rcases List.mem_append.mp mem with before | rest
    · exact survives_completa legible.cuerpos l before
    · simp only [List.mem_cons, List.not_mem_nil, or_false] at rest
      rcases rest with rfl | rfl
      · exact header_survives
      · exact survives_append_scalar.mpr ⟨key_survives, value_survives⟩
  · intro no_mark
    cases lines : (readLines data).2 with
    | nil =>
      have other : ¬ '[' = '\uFEFF' := by decide
      simp [completa, texto, Line.texto, other]
    | cons l before =>
      rw [lines] at legible
      rw [head_completa legible.leidas (List.cons_ne_nil l before) eol _ [], List.append_nil]
      exact legible.sinMarca no_mark

theorem bodies_seccion (eol : Eol) (lines : List Line) (header body : Texto) :
    (completa eol lines ++ [Line.mk header eol, Line.mk body eol]).map Line.body =
      (lines.map (·.body) ++ [header]) ++ body :: [] := by
  rw [List.map_append, map_body_completa]
  simp

theorem cumple_seccion (clave : Clave key) (valor : Valor value) {data : Bytes} {name : Texto}
    (absent : getSync m data key (some name) = none) (key_survives : Survives key)
    (value_survives : Survives value)
    (no_scope : scopeBounds m (readLines data).2 (some name) = none) (nonempty : name ≠ [])
    (recortado : strip name = name) (limpio : Limpio name) (name_survives : Survives name) :
    Cumple m data key value (some name) := by
  have inserted := insertKey_seccion key value no_scope
  obtain ⟨after, written, read⟩ := (legible_seccion clave valor data key_survives
    value_survives limpio name_survives).escritas
  have none_before := sin_hit absent
  have done := setSync_falta none_before (inserted ▸ written)
  have header : sectionOf (.scalar '[' :: (name ++ [CodePoint.scalar ']'])) = some name :=
    sectionOf_corchetes nonempty recortado limpio.2
  have current : seccionFinal m none ((readLines data).2.map (·.body) ++
      [.scalar '[' :: (name ++ [CodePoint.scalar ']'])]) = some (m.lower name) := by
    rw [seccionFinal_append]
    simp [seccionFinal, seccionTras, header]
  have nueva : ∃ parsed, acierto m (m.lower key) (some (m.lower name)) (some (m.lower name))
      (key ++ CodePoint.scalar '=' :: value) = some parsed ∧ parsed.value = value :=
    nueva_leida clave valor [] [] (by simp) (by simp) _
  obtain ⟨parsed, hits, parsed_value⟩ := nueva
  have placed : acierto m (m.lower key) (some (m.lower name)) (seccionFinal m none
      ((readLines data).2.map (·.body) ++ [CodePoint.scalar '[' :: (name ++ [CodePoint.scalar ']'])]))
      (key ++ CodePoint.scalar '=' :: value) = some parsed := by
    rw [current]
    exact hits
  have leido : getSync m after key (some name) = some value := by
    rw [getSync_eq, read, bodies_seccion, Option.map_some, ultimo_escrito placed, parsed_value]
    rfl
  refine ⟨after, _, done, leido, ?_, by rw [read], ?_, repetida_de_leido leido⟩
  · intro otra s different
    have no_key : ∀ current, acierto m (m.lower otra) (s.map m.lower) current
        (.scalar '[' :: (name ++ [CodePoint.scalar ']'])) = none := by
      intro current
      rw [acierto, header]
      rfl
    rw [getSync_eq, getSync_eq, read, bodies_seccion, ultimo_ajeno placed different, List.append_nil,
      ultimo_append, ultimo, no_key]
    rfl
  · rw [Conserva, none_before, read]
    exact ⟨(readLines data).2, [], _, _, (List.append_nil _).symm, by rw [List.append_nil],
      completada_completa _ _, .inr ⟨rfl, no_scope⟩⟩

/-! What goes wrong otherwise -/

theorem valor_sobrevive {after : Bytes} (leido : getSync m after key seccion = some value) :
    Survives value ∧ Survives key ∧ ∀ name ∈ seccion, ∃ header, m.lower header = m.lower name ∧
      Survives header ∧ Limpio header := by
  have legible := legible_readLines after
  have cuerpos : ∀ body ∈ (readLines after).2.map (·.body), Survives body ∧ Limpio body := by
    intro body mem
    obtain ⟨line, inside, rfl⟩ := List.mem_map.mp mem
    exact ⟨legible.cuerpos line inside, legible.leidas.limpias line inside⟩
  rw [getSync_eq] at leido
  obtain ⟨a, body, b, parsed, split, hits, rfl⟩ := linea_de_ultimo leido
  obtain ⟨_, here, found, same⟩ := acierto_eq_some.mp hits
  rw [split] at cuerpos
  have pieces := survives_keyLine (cuerpos body (by simp)).1 found
  refine ⟨pieces.2, (m.survives_congr same).mp pieces.1, ?_⟩
  rintro name rfl
  obtain ⟨other, mem, header, named, lowered⟩ := header_de_seccionFinal here
  have good := cuerpos other (List.mem_append_left _ mem)
  exact ⟨header, lowered, survives_header good.1 named, limpio_header good.2 named⟩

theorem limpio_congr {t u : Texto} (same : m.lower t = m.lower u) (limpio : Limpio t) : Limpio u := by
  constructor
  · intro mem
    have lowered := (m.mem_lower (by decide) u).mpr mem
    rw [← same, m.mem_lower (by decide)] at lowered
    exact limpio.1 lowered
  · intro mem
    have lowered := (m.mem_lower (by decide) u).mpr mem
    rw [← same, m.mem_lower (by decide)] at lowered
    exact limpio.2 lowered

theorem escrito_de_falta {data after : Bytes} {result : IniEditResult}
    (absent : findKey m (readLines data).2 key seccion = none)
    (done : setSync m (some data) key value seccion = (some after, some result)) :
    serialize (readLines data).1 (insertKey m (readLines data).2 key value seccion) =
      some after := by
  simp only [setSync, Option.getD_some, absent] at done
  cases written : serialize (readLines data).1 (insertKey m (readLines data).2 key value seccion) with
  | none => simp [written] at done
  | some bytes =>
    rw [written] at done
    exact (Prod.mk.inj done).1

/-- A header without a name is none. -/
theorem nombre_lleno (clave : Clave key) (valor : Valor value) {data : Bytes}
    (absent : getSync m data key (some []) = none)
    (no_scope : scopeBounds m (readLines data).2 (some []) = none) :
    ¬ Cumple m data key value (some []) := by
  rintro ⟨after, result, done, fiel⟩
  obtain ⟨value_survives, key_survives, _⟩ := valor_sobrevive fiel.leido
  have none_before := sin_hit absent
  have written := escrito_de_falta none_before done
  rw [insertKey_seccion key value no_scope] at written
  have read := escrita_leida (legible_seccion clave valor data key_survives value_survives
    limpio_nil survives_nil) written
  have other : seccionFinal m none ((readLines data).2.map (·.body)) ≠ some (m.lower []) := by
    intro current
    obtain ⟨body, mem, header, named, same⟩ := header_de_seccionFinal current
    obtain ⟨line, inside, rfl⟩ := List.mem_map.mp mem
    exact scopeBoundsFrom_ausente no_scope line inside header named same
  have elsewhere : ∀ body, acierto m (m.lower key) (some (m.lower []))
      (seccionFinal m none ((readLines data).2.map (·.body))) body = none := by
    intro body
    rw [acierto, if_neg]
    exact fun here => other here.2
  have no_header : sectionOf [.scalar '[', .scalar ']'] = none := by decide
  have leido := fiel.leido
  rw [getSync_eq, Option.map_some] at absent
  rw [getSync_eq, read, bodies_seccion, Option.map_some, List.append_assoc, ultimo_append, absent]
    at leido
  simp [ultimo, seccionTras, no_header, elsewhere] at leido

theorem marca_escrita {lines : List Line} {after : Bytes}
    (mark : (texto lines).head? = some (.scalar '\uFEFF'))
    (written : serialize false lines = some after) : (readLines after).1 = true := by
  obtain ⟨rest, same⟩ := List.head?_eq_some_iff.mp mark
  rw [serialize, same] at written
  obtain ⟨bytes, encoded, rfl⟩ := Option.map_eq_some_iff.mp written
  obtain ⟨x, y, first, _, rfl⟩ := encode_cons.mp encoded
  obtain rfl : String.utf8EncodeChar '\uFEFF' = x := Option.some.inj first
  have marked : BOM.isPrefixOf (String.utf8EncodeChar '\uFEFF' ++ y) = true := by
    rw [utf8_bom]
    exact List.isPrefixOf_iff_prefix.mpr (List.prefix_append _ _)
  simp only [Bool.false_eq_true, if_false, readLines, if_pos marked]

theorem length_completada {antes despues : List Line} (completada : Completada antes despues) :
    despues.length = antes.length := by
  rcases completada with rfl | ⟨before, body, eol, rfl, rfl⟩
  · rfl
  · simp

/-- Where a key is new there are more lines than before. -/
theorem length_conserva {antes despues : List Line} (absent : findKey m antes key seccion = none)
    (conserva : Conserva m key seccion antes despues) : antes.length < despues.length := by
  rw [Conserva, absent] at conserva
  obtain ⟨a, b, a', nuevas, rfl, rfl, completada, count⟩ := conserva
  have same := length_completada completada
  simp only [List.length_append]
  omega

theorem texto_fundido (a b : List Line) (body : Texto) :
    texto (a ++ ⟨body, .cr⟩ :: ⟨[], .lf⟩ :: b) = texto (a ++ ⟨body, .crlf⟩ :: b) := by
  simp [texto, Line.texto, Eol.texto]

theorem ambito_apartado (clave : Clave key) (valor : Valor value) {data : Bytes}
    (absent : getSync m data key seccion = none) {start stop : Nat}
    (found : scopeBounds m (readLines data).2 seccion = some (start, stop))
    (cumple : Cumple m data key value seccion) :
    ¬ ((readLines data).1 = false ∧ insertAt (readLines data).2 start stop = 0 ∧
      key.head? = some (.scalar '\uFEFF')) ∧
    ¬ (detectEol (readLines data).2 = .cr ∧
      ((readLines data).2.drop (insertAt (readLines data).2 start stop)).head? =
        some ⟨[], .lf⟩) := by
  obtain ⟨after, result, done, fiel⟩ := cumple
  obtain ⟨value_survives, key_survives, _⟩ := valor_sobrevive fiel.leido
  have legible := legible_readLines data
  have none_before := sin_hit absent
  have written := escrito_de_falta none_before done
  rw [insertKey_ambito key value found] at written
  obtain ⟨w₁, w₂, sep, front, back, clean₁, clean₂⟩ := separador legible.leidas start stop seccion
  obtain ⟨a, b, split, place, _⟩ := lugar found
  have limpia := nueva_limpia clave valor clean₁ clean₂
  have sobrevive := (nueva_sobrevive front back).mpr ⟨key_survives, value_survives⟩
  have lleno : key ++ ((w₁ ++ CodePoint.scalar '=' :: w₂) ++ value) ≠ [] := by simp
  have body_head : (key ++ ((w₁ ++ CodePoint.scalar '=' :: w₂) ++ value)).head? = key.head? := by
    obtain ⟨p, rest, rfl⟩ := List.exists_cons_of_ne_nil clave.llena
    rfl
  rw [place, sep, split, List.take_left, List.drop_left, ← split] at written
  have unmarked : ¬ ((readLines data).1 = false ∧ a.length = 0 ∧
      key.head? = some (.scalar '\uFEFF')) := by
    rintro ⟨no_mark, first, mark⟩
    obtain rfl := List.length_eq_zero_iff.mp first
    obtain ⟨rest, full⟩ := List.head?_eq_some_iff.mp (body_head.trans mark)
    rw [no_mark, full] at written
    have marked := marca_escrita (by simp [completa, texto, Line.texto]) written
    rw [fiel.marca, no_mark] at marked
    cases marked
  refine ⟨by rw [place]; exact unmarked, ?_⟩
  rw [place, split, List.drop_left, ← split]
  rintro ⟨cr, blank_line⟩
  obtain ⟨rest, rfl⟩ := List.head?_eq_some_iff.mp blank_line
  -- the bare CR and the LF of the blank line are read as one ending
  rw [cr, serialize, texto_fundido] at written
  rw [split] at legible
  have fundidas : Legible (readLines data).1
      (completa .cr a ++ ⟨key ++ ((w₁ ++ CodePoint.scalar '=' :: w₂) ++ value), .crlf⟩ :: rest) := by
    have ends : Eol.cr ≠ .sin := by decide
    apply legible_insercion legible (List.suffix_cons _ rest) ends limpia lleno sobrevive
    · exact fun next _ => ⟨by simp, by simp⟩
    · rintro no_mark rfl mark
      exact unmarked ⟨no_mark, rfl, body_head ▸ mark⟩
  have read := escrita_leida fundidas written
  have longer := length_conserva none_before fiel.lineas
  have same := length_completada (completada_completa .cr a)
  rw [read, split] at longer
  simp only [List.length_append, List.length_cons, same] at longer
  omega

/-- Every file is written back as it was read, and a set keeps everything else exactly when
what it writes is read back as it was meant. -/
theorem edicion_fiel (m : Minusculas) {key value : Texto} {seccion : Option Texto}
    (clave : Clave key) (valor : Valor value) (nombre : ∀ name ∈ seccion, strip name = name)
    (data : Bytes) :
    serialize (readLines data).1 (readLines data).2 = some data ∧
      (Cumple m data key value seccion ↔ Cabe m data key value seccion) := by
  refine ⟨serialize_readLines data, ?_⟩
  unfold Cabe
  cases before : getSync m data key seccion with
  | some previous =>
    obtain ⟨hit, found, same⟩ := Option.map_eq_some_iff.mp before
    dsimp only
    constructor
    · rintro ⟨after, _, _, fiel⟩
      exact .inr (valor_sobrevive fiel.leido).1
    · intro fits
      by_cases unchanged : hit.value = value
      · exact cumple_igual found unchanged
      · rcases fits with equal | survives
        · exact absurd (same.trans equal) unchanged
        · exact cumple_reemplazo clave valor found unchanged survives
  | none =>
    dsimp only
    constructor
    · intro cumple
      obtain ⟨after, result, done, fiel⟩ := id cumple
      obtain ⟨value_survives, key_survives, header⟩ := valor_sobrevive fiel.leido
      refine ⟨key_survives, value_survives, ?_⟩
      cases scope : scopeBounds m (readLines data).2 seccion with
      | none =>
        rintro name rfl
        obtain ⟨other, same, survives, limpio⟩ := header name rfl
        refine ⟨?_, limpio_congr same limpio, (m.survives_congr same).mp survives⟩
        rintro rfl
        exact nombre_lleno clave valor before scope cumple
      | some bounds =>
        obtain ⟨unmarked, apart⟩ := ambito_apartado clave valor before scope cumple
        exact ⟨apart, unmarked⟩
    · rintro ⟨key_survives, value_survives, fits⟩
      cases scope : scopeBounds m (readLines data).2 seccion with
      | none =>
        rw [scope] at fits
        obtain ⟨name, rfl, _⟩ := nombre_de_ausente scope
        obtain ⟨nonempty, limpio, name_survives⟩ := fits name rfl
        exact cumple_seccion clave valor before key_survives value_survives scope nonempty
          (nombre name rfl) limpio name_survives
      | some bounds =>
        rw [scope] at fits
        exact cumple_ambito clave valor before key_survives value_survives scope fits.1 fits.2

def asciiLower : CodePoint → CodePoint
  | .scalar c =>
    .scalar (if 65 ≤ c.toNat ∧ c.toNat ≤ 90 then Char.ofNat (c.toNat + 32) else c)
  | .surrogate n => .surrogate n

theorem minuscula_ascii (p : CodePoint) : Minuscula p [asciiLower p] := by
  cases p with
  | surrogate n => rfl
  | scalar c =>
    unfold Minuscula asciiLower
    by_cases upper : 65 ≤ c.toNat ∧ c.toNat ≤ 90
    · have other : ∀ d : Char, ¬ (65 ≤ d.toNat ∧ d.toNat ≤ 90) → c ≠ d := by
        rintro d range rfl
        exact range upper
      have moves : fijo (.scalar c) = false := by
        simp [fijo, other '[' (by decide), other '\r' (by decide), other '\n' (by decide)]
      have letters : ∀ n ∈ List.range 26, fijo (.scalar (Char.ofNat (97 + n))) = false := by decide
      have lowered := letters (c.toNat - 65) (List.mem_range.mpr (by omega))
      rw [show 97 + (c.toNat - 65) = c.toNat + 32 by omega] at lowered
      simp [moves, upper, lowered]
    · simp only [if_neg upper]
      split
      · trivial
      · next moves => exact ⟨List.cons_ne_nil _ _, by simpa using moves⟩

/-- `str.lower` on ASCII texts. -/
def minusculasAscii : Minusculas where
  lower t := t.map asciiLower
  partes t := by
    refine ⟨t.map fun p => [asciiLower p], ?_, ?_⟩
    · induction t with
      | nil => exact .nil
      | cons p t ih => exact .cons (minuscula_ascii p) ih
    · induction t with
      | nil => rfl
      | cons p t ih => simp [ih]

/-- `a=1` and CR LF, and a key that is new. -/
def archivoPlano : Bytes := [97, 61, 49, 13, 10]

def claveNueva : Texto := [.scalar 'b']

def valorNuevo : Texto := [.scalar '2']

theorem clave_nueva : Clave claveNueva :=
  ⟨by decide, by decide, by decide, ⟨by decide, by decide⟩, ⟨by decide, by decide⟩, by decide⟩

theorem valor_nuevo : Valor valorNuevo := ⟨by decide, ⟨by decide, by decide⟩⟩

theorem edicion_plana : Cumple minusculasAscii archivoPlano claveNueva valorNuevo none := by
  apply (edicion_fiel minusculasAscii clave_nueva valor_nuevo
    (fun _ named => by cases named) archivoPlano).2.mpr
  have absent : getSync minusculasAscii archivoPlano claveNueva none = none := by decide +kernel
  have read : readLines archivoPlano = (false, [⟨[.scalar 'a', .scalar '=', .scalar '1'], .crlf⟩]) := by
    decide +kernel
  rw [Cabe, absent, read]
  refine ⟨survives_scalars ['b'], survives_scalars ['2'], ?_⟩
  exact ⟨by decide, by decide⟩

/-- The header `[]` is not read as one, so the key lands in no section. -/
theorem seccion_sin_nombre : Clave claveNueva ∧ Valor valorNuevo ∧ strip [] = [] ∧
    ¬ Cumple minusculasAscii archivoPlano claveNueva valorNuevo (some []) := by
  refine ⟨clave_nueva, valor_nuevo, rfl, ?_⟩
  apply nombre_lleno clave_nueva valor_nuevo
  · decide +kernel
  · decide +kernel

end IniEditor
