import SkyClaw.GamePathEdits

set_option linter.all false

/-!
What an edit of `gamePath` leaves, and when the reader finds the path there.
-/
namespace GamePathEdits
open Utf8Text QtByteArrays
open IniEditor (Bytes Texto strip blank BOM partes Limpio)

/-- Of the lines of a body only that of `gamePath` changes, or is added, with the header of
its section where there was none. -/
def SoloGamePath (antes despues : Bytes) : Prop :=
  (∃ a l l' b, antes.splitOn 10 = a ++ l :: b ∧ despues.splitOn 10 = a ++ l' :: b ∧
    esGamePath (decode l) = true ∧ esGamePath (decode l') = true) ∨
  (∃ a g b, antes.splitOn 10 = a ++ b ∧ despues.splitOn 10 = a ++ g :: b ∧
    esGamePath (decode g) = true) ∨
  ∃ h g, despues.splitOn 10 = h :: g :: antes.splitOn 10 ∧ esGeneral (decode h) = true ∧
    esGamePath (decode g) = true ∧ ∀ l ∈ antes.splitOn 10, esGeneral (decode l) = false

/-- The reader observes the path. -/
def Observa (evidencia : Mo2GamePathEvidence) (ruta : List Char) : Prop :=
  evidencia.state = .observed ∧ evidencia.path = some (plano ruta)

structure Editado (contenido : Bytes) (ruta : List Char) (despues : Bytes) : Prop where
  prevista : preverBytes contenido (plano ruta) = .ok despues
  marca : BOM.isPrefixOf despues = BOM.isPrefixOf contenido
  ajenas : SoloGamePath (cuerpoDe contenido) (cuerpoDe despues)
  leida : Observa (leerGamePathDeMo2 (.ok despues)) ruta
  repetida : preverBytes despues (plano ruta) = .ok despues

/-! When -/

/-- Whether the reader is inside the section after a line; `none` once it has left it. -/
def trasLinea (seccion : Texto) (dentro : Bool) (bruta : Texto) : Option Bool :=
  let linea := limpiar bruta
  if seIgnora linea then some dentro
  else match nombreDeSeccion linea with
    | some nombre => if nombre = seccion then some true else if dentro then none else some dentro
    | none => some dentro

def dentroTras (seccion : Texto) (dentro : Bool) (brutas : List Texto) : Option Bool :=
  brutas.foldlM (trasLinea seccion) dentro

/-- The key of the line is spelled as the reader wants it. -/
def Sitio.exacta (s : Sitio) : Bool :=
  match s.linea with
  | some l => strip (partes l).1 = claveGamePath
  | none => true

def marcaDe (formato : FormatoIni) : Texto := if formato.tieneBom then [.scalar '\uFEFF'] else []

/-- What the reader reads before the line of `gamePath`. -/
def Sitio.frente (s : Sitio) (formato : FormatoIni) : List Texto :=
  splitlines (marcaDe formato ++ unir s.antes)

/-- The last value of `gamePath` that the reader takes after that line. -/
def Sitio.posterior (s : Sitio) (formato : FormatoIni) : Option Texto :=
  match dentroTras general false (s.frente formato) with
  | some dentro => ultimo claveGamePath (leerSeccion general dentro (splitlines (unir s.despues)))
  | none => none

/-- The last value of `gamePath` that the reader takes is that of the edited line, or reads as
the path already. -/
def Sitio.Releida (s : Sitio) (formato : FormatoIni) (ruta : List Char) : Prop :=
  match s.posterior formato with
  | some crudo => Observa (evidenciaDe crudo) ruta
  | none =>
    (dentroTras general false (s.frente formato) = some true ∧ s.exacta = true) ∨
    ∃ crudo, ultimo claveGamePath (leerSeccion general false (s.frente formato)) = some crudo ∧
      Observa (evidenciaDe crudo) ruta

/-! Lines and bytes -/

/-- The bytes of a text that has some. -/
def bytesDe (t : Texto) : Bytes := (encode t).getD []

theorem encode_bytesDe {t : Texto} (survives : Survives t) : encode t = some (bytesDe t) := by
  obtain ⟨bytes, written, _⟩ := Option.map_eq_some_iff.mp survives
  rw [bytesDe, written]
  rfl

theorem decode_bytesDe {t : Texto} (survives : Survives t) : decode (bytesDe t) = t := by
  have read := survives
  rw [Survives, encode_bytesDe survives] at read
  exact Option.some.inj read

theorem bytesDe_decode (bytes : Bytes) : bytesDe (decode bytes) = bytes := by
  rw [bytesDe, encode_decode]
  rfl

theorem unir_cons {l : Texto} {ls : List Texto} (nonempty : ls ≠ []) :
    unir (l :: ls) = l ++ CodePoint.scalar '\n' :: unir ls := by
  rw [unir, List.intercalate_cons_of_ne_nil nonempty]
  simp [unir]

theorem unir_append {a b : List Texto} (first : a ≠ []) (second : b ≠ []) :
    unir (a ++ b) = unir a ++ CodePoint.scalar '\n' :: unir b := by
  induction a with
  | nil => exact absurd rfl first
  | cons l a ih =>
    cases a with
    | nil => simpa [unir] using unir_cons (l := l) second
    | cons m a =>
      have rest : m :: a ++ b ≠ [] := by simp
      rw [List.cons_append, unir_cons rest, ih (List.cons_ne_nil m a),
        unir_cons (List.cons_ne_nil m a), List.append_assoc]
      rfl

theorem survives_unir {lineas : List Texto} :
    Survives (unir lineas) ↔ ∀ l ∈ lineas, Survives l := by
  induction lineas with
  | nil => simp [unir, survives_nil]
  | cons l lineas ih =>
    by_cases last : lineas = []
    · simp [last, unir]
    · rw [unir_cons last, survives_append_scalar, ih, List.forall_mem_cons]

theorem bytesDe_unir {lineas : List Texto} (survive : ∀ l ∈ lineas, Survives l) :
    bytesDe (unir lineas) = [10].intercalate (lineas.map bytesDe) := by
  induction lineas with
  | nil => rfl
  | cons l lineas ih =>
    obtain ⟨first, rest⟩ := List.forall_mem_cons.mp survive
    by_cases last : lineas = []
    · simp [last, unir]
    · have written : encode (unir (l :: lineas)) =
          some (bytesDe l ++ ([10] ++ bytesDe (unir lineas))) := by
        rw [unir_cons last]
        refine encode_append.mpr ⟨_, _, encode_bytesDe first, ?_, rfl⟩
        exact encode_cons.mpr ⟨[10], _, rfl, encode_bytesDe (survives_unir.mpr rest), rfl⟩
      rw [bytesDe, written, ih rest, List.map_cons,
        List.intercalate_cons_of_ne_nil (by simpa using last), List.append_assoc]
      rfl

/-- The lines of the bytes are those of the text. -/
theorem splitOn_bytesDe {lineas : List Texto} (nonempty : lineas ≠ [])
    (survive : ∀ l ∈ lineas, Survives l) (limpias : ∀ l ∈ lineas, .scalar '\n' ∉ l) :
    (bytesDe (unir lineas)).splitOn 10 = lineas.map bytesDe := by
  rw [bytesDe_unir survive]
  apply List.splitOn_intercalate
  · intro l mem
    obtain ⟨t, ht, rfl⟩ := List.mem_map.mp mem
    rw [mem_encode_ascii (by decide) (encode_bytesDe (survive t ht))]
    exact limpias t ht
  · simpa using nonempty

theorem splitOn_unir {lineas : List Texto} (nonempty : lineas ≠ [])
    (limpias : ∀ l ∈ lineas, .scalar '\n' ∉ l) : (unir lineas).splitOn (.scalar '\n') = lineas :=
  List.splitOn_intercalate _ limpias nonempty

theorem unir_lineasDe (contenido : Bytes) : unir (lineasDe contenido) = decode (cuerpoDe contenido) :=
  List.intercalate_splitOn _

theorem lineasDe_ne_nil (contenido : Bytes) : lineasDe contenido ≠ [] := List.splitOn_ne_nil _ _

theorem survives_lineasDe (contenido : Bytes) : ∀ l ∈ lineasDe contenido, Survives l := by
  rw [← survives_unir, unir_lineasDe]
  exact survives_decode _

/-! Line endings -/

def finDe (crlf : Bool) : Texto := if crlf then [.scalar '\r'] else []

/-- Each line but the last ends as the format says, and there is no other line break. -/
def Uniforme (crlf : Bool) : List Texto → Prop
  | [] => False
  | [l] => Limpio l
  | l :: m :: ls =>
    (∃ w, l = w ++ finDe crlf ∧ Limpio w) ∧ Uniforme crlf (m :: ls)

def claseDe (crlf : Bool) : Salto := if crlf then .crlf else .lf

theorem clases_otra {p : CodePoint} (not_cr : p ≠ .scalar '\r') (not_lf : p ≠ .scalar '\n')
    (t : Texto) : clasesDeSalto (p :: t) = clasesDeSalto t := by
  rw [clasesDeSalto.eq_def]
  simp only [if_neg not_cr, if_neg not_lf]

theorem clases_lf (t : Texto) : clasesDeSalto (.scalar '\n' :: t) = .lf :: clasesDeSalto t := by
  rw [clasesDeSalto.eq_def]
  simp

theorem clases_linea {w : Texto} (limpio : Limpio w) (crlf : Bool) (t : Texto) :
    clasesDeSalto (w ++ finDe crlf ++ CodePoint.scalar '\n' :: t) =
      claseDe crlf :: clasesDeSalto t := by
  induction w with
  | nil =>
    cases crlf with
    | false => exact clases_lf t
    | true => simp [clasesDeSalto, claseDe, finDe]
  | cons p w ih =>
    have not_cr : p ≠ .scalar '\r' := fun same => limpio.1 (by simp [same])
    have not_lf : p ≠ .scalar '\n' := fun same => limpio.2 (by simp [same])
    have rest := ih ⟨fun mem => limpio.1 (List.mem_cons_of_mem p mem),
      fun mem => limpio.2 (List.mem_cons_of_mem p mem)⟩
    rw [List.cons_append, List.cons_append, clases_otra not_cr not_lf, rest]

theorem clases_ultima {w : Texto} (limpio : Limpio w) : clasesDeSalto w = [] := by
  induction w with
  | nil => rfl
  | cons p w ih =>
    have not_cr : p ≠ .scalar '\r' := fun same => limpio.1 (by simp [same])
    have not_lf : p ≠ .scalar '\n' := fun same => limpio.2 (by simp [same])
    rw [clases_otra not_cr not_lf]
    exact ih ⟨fun mem => limpio.1 (List.mem_cons_of_mem p mem),
      fun mem => limpio.2 (List.mem_cons_of_mem p mem)⟩

theorem clases_uniforme {crlf : Bool} {lineas : List Texto} (uniforme : Uniforme crlf lineas) :
    clasesDeSalto (unir lineas) = List.replicate (lineas.length - 1) (claseDe crlf) := by
  induction lineas with
  | nil => exact uniforme.elim
  | cons l lineas ih =>
    cases lineas with
    | nil => simpa [unir] using clases_ultima uniforme
    | cons m lineas =>
      obtain ⟨⟨w, rfl, limpio⟩, rest⟩ := uniforme
      rw [unir_cons (List.cons_ne_nil m lineas), clases_linea limpio, ih rest]
      simp [List.replicate_succ]

/-- A line without LF of a text without a CR of its own. -/
theorem linea_sin_cr {l t : Texto} (sin_lf : .scalar '\n' ∉ l)
    (sin_cr : .cr ∉ clasesDeSalto (l ++ CodePoint.scalar '\n' :: t)) :
    ∃ crlf w, l = w ++ finDe crlf ∧ Limpio w := by
  induction l with
  | nil => exact ⟨false, [], rfl, IniEditor.limpio_nil⟩
  | cons p l ih =>
    have not_lf : p ≠ .scalar '\n' := fun same => sin_lf (by simp [same])
    have rest_lf : .scalar '\n' ∉ l := fun mem => sin_lf (List.mem_cons_of_mem p mem)
    by_cases cr : p = .scalar '\r'
    · cases l with
      | nil => exact ⟨true, [], by simp [cr, finDe], IniEditor.limpio_nil⟩
      | cons q l =>
        have other : q ≠ .scalar '\n' := fun same => rest_lf (by simp [same])
        simp [clasesDeSalto, cr, other] at sin_cr
    · rw [List.cons_append, clases_otra cr not_lf] at sin_cr
      obtain ⟨crlf, w, rfl, limpio⟩ := ih rest_lf sin_cr
      refine ⟨crlf, p :: w, rfl, ?_, ?_⟩
      · simpa [Ne.symm cr] using limpio.1
      · simpa [Ne.symm not_lf] using limpio.2

theorem ultima_sin_cr {l : Texto} (sin_lf : .scalar '\n' ∉ l) (sin_cr : .cr ∉ clasesDeSalto l) :
    Limpio l := by
  induction l with
  | nil => exact IniEditor.limpio_nil
  | cons p l ih =>
    have not_lf : p ≠ .scalar '\n' := fun same => sin_lf (by simp [same])
    have rest_lf : .scalar '\n' ∉ l := fun mem => sin_lf (List.mem_cons_of_mem p mem)
    by_cases cr : p = .scalar '\r'
    · cases l with
      | nil => simp [clasesDeSalto, cr] at sin_cr
      | cons q l =>
        have other : q ≠ .scalar '\n' := fun same => rest_lf (by simp [same])
        simp [clasesDeSalto, cr, other] at sin_cr
    · rw [clases_otra cr not_lf] at sin_cr
      have limpio := ih rest_lf sin_cr
      exact ⟨by simpa [Ne.symm cr] using limpio.1, by simpa [Ne.symm not_lf] using limpio.2⟩

/-- A text without a CR of its own and of one class of line breaks. -/
theorem uniforme_de_clases {crlf : Bool} {lineas : List Texto} (nonempty : lineas ≠ [])
    (limpias : ∀ l ∈ lineas, .scalar '\n' ∉ l)
    (clases : ∀ s ∈ clasesDeSalto (unir lineas), s = claseDe crlf) : Uniforme crlf lineas := by
  induction lineas with
  | nil => exact absurd rfl nonempty
  | cons l lineas ih =>
    have sin_cr : .cr ∉ clasesDeSalto (unir (l :: lineas)) := by
      intro mem
      have same := clases _ mem
      cases crlf <;> cases same
    obtain ⟨first, rest⟩ := List.forall_mem_cons.mp limpias
    cases lineas with
    | nil => exact ultima_sin_cr first (by simpa [unir] using sin_cr)
    | cons m lineas =>
      have more := List.cons_ne_nil m lineas
      rw [unir_cons more] at clases sin_cr
      obtain ⟨ending, w, rfl, limpio⟩ := linea_sin_cr first sin_cr
      rw [clases_linea limpio] at clases
      obtain ⟨same, others⟩ := List.forall_mem_cons.mp clases
      have equal : ending = crlf := by
        cases ending <;> cases crlf <;> first | rfl | cases same
      subst equal
      exact ⟨⟨w, rfl, limpio⟩, ih more rest others⟩

/-- What the admission of a format comes down to. -/
structure Admitida (contenido : Bytes) (formato : FormatoIni) : Prop where
  sinBom : ∀ bom ∈ bomNoAdmitidos, ¬ bom <+: contenido
  sinNul : 0 ∉ contenido
  marca : formato.tieneBom = BOM.isPrefixOf contenido
  uniforme : Uniforme formato.crlf (lineasDe contenido)
  varias : formato.crlf = true → 2 ≤ (lineasDe contenido).length

theorem mem_splitOnP {α : Type} {sep : α → Bool} {t l : List α} (mem : l ∈ t.splitOnP sep) :
    ∀ a ∈ l, sep a = false := by
  induction t generalizing l with
  | nil =>
    obtain rfl : l = [] := by simpa using mem
    nofun
  | cons b t ih =>
    rw [List.splitOnP_cons_eq_if_modifyHead] at mem
    split at mem
    · rcases List.mem_cons.mp mem with rfl | later
      · nofun
      · exact ih later
    · next other =>
      obtain ⟨h, r, same⟩ := List.exists_cons_of_ne_nil (List.splitOnP_ne_nil sep t)
      rw [same, List.modifyHead_cons] at mem
      rcases List.mem_cons.mp mem with rfl | later
      · exact List.forall_mem_cons.mpr ⟨by simpa using other, ih (by simp [same])⟩
      · exact ih (by simp [same, later])

theorem limpias_lineasDe (contenido : Bytes) : ∀ l ∈ lineasDe contenido, .scalar '\n' ∉ l := by
  intro l mem inside
  have apart := mem_splitOnP mem _ inside
  simp at apart

/-- One class of line breaks, which is the one that the format says. -/
theorem clases_admitidas {clases : List Salto} :
    (.cr ∉ clases.dedup ∧ ¬ 1 < clases.dedup.length) ↔
      ∃ crlf, (∀ s ∈ clases, s = claseDe crlf) ∧ decide (clases.dedup = [.crlf]) = crlf := by
  constructor
  · rintro ⟨sin_cr, few⟩
    match found : clases.dedup with
    | [] =>
      refine ⟨false, ?_, by simp⟩
      intro s mem
      rw [← List.mem_dedup, found] at mem
      cases mem
    | [s] =>
      have only : ∀ c ∈ clases, c = s := by
        intro c mem
        rw [← List.mem_dedup, found] at mem
        exact List.mem_singleton.mp mem
      cases s with
      | crlf => exact ⟨true, only, by simp⟩
      | lf => exact ⟨false, only, by simp⟩
      | cr => exact absurd (by simp [found]) sin_cr
    | s :: t :: rest =>
      rw [found] at few
      simp at few
  · rintro ⟨crlf, only, flag⟩
    by_cases empty : clases = []
    · simp [empty]
    · have one : clases.dedup = [claseDe crlf] := by
        rw [List.eq_replicate_of_mem only, List.replicate_dedup]
        simpa using empty
      rw [one]
      cases crlf <;> simp [claseDe]

theorem admitir_iff {contenido : Bytes} {formato : FormatoIni} :
    admitirFormatoIni contenido = .ok formato ↔ Admitida contenido formato := by
  have encoded := encode_decode (cuerpoDe contenido)
  constructor
  · intro ok
    unfold admitirFormatoIni at ok
    split at ok
    · cases ok
    · next none_found =>
      split at ok
      · cases ok
      · next sin_nul =>
        dsimp only at ok
        rw [if_neg (not_not.mpr encoded), ← unir_lineasDe] at ok
        split at ok
        · cases ok
        · next sin_cr =>
          split at ok
          · cases ok
          · next few =>
            obtain rfl := Except.ok.inj ok
            obtain ⟨crlf, only, flag⟩ := clases_admitidas.mp ⟨sin_cr, few⟩
            have uniforme := uniforme_de_clases (lineasDe_ne_nil contenido)
              (limpias_lineasDe contenido) only
            constructor
            · simpa using none_found
            · exact sin_nul
            · rfl
            · dsimp only
              rwa [flag]
            · dsimp only
              rw [flag]
              rintro rfl
              have some_break := of_decide_eq_true flag
              rw [clases_uniforme uniforme] at some_break
              by_contra one
              have single : (lineasDe contenido).length - 1 = 0 := by omega
              rw [single] at some_break
              cases some_break
  · intro admitida
    have found : bomNoAdmitidos.find? (fun bom => bom.isPrefixOf contenido) = none := by
      simpa using admitida.sinBom
    have only : ∀ s ∈ clasesDeSalto (unir (lineasDe contenido)), s = claseDe formato.crlf := by
      rw [clases_uniforme admitida.uniforme]
      intro s mem
      exact List.eq_of_mem_replicate mem
    have flag : decide ((clasesDeSalto (unir (lineasDe contenido))).dedup = [.crlf]) =
        formato.crlf := by
      rw [clases_uniforme admitida.uniforme]
      cases ending : formato.crlf with
      | true =>
        have several := admitida.varias ending
        rw [List.replicate_dedup (by omega)]
        rfl
      | false =>
        by_cases one : (lineasDe contenido).length - 1 = 0
        · rw [one]
          rfl
        · rw [List.replicate_dedup one]
          rfl
    obtain ⟨sin_cr, few⟩ := clases_admitidas.mpr ⟨_, only, flag⟩
    unfold admitirFormatoIni
    rw [found]
    dsimp only
    rw [if_neg admitida.sinNul, if_neg (not_not.mpr encoded), ← unir_lineasDe, if_neg sin_cr,
      if_neg few, flag, ← admitida.marca]

/-! The lines after the edit -/

/-- The lines of a place are those of the file, or follow a new header. -/
theorem Lugar.partes {formato : FormatoIni} {lineas : List Texto} {s : Sitio}
    (lugar : Lugar formato lineas s) :
    (s = ⟨[conTerminador lineaGeneral formato], none, lineas⟩ ∧
      ∀ l ∈ lineas, esGeneral l = false) ∨
    (Abre s.antes ∧ lineas = s.antes ++ (s.linea.toList ++ s.despues) ∧
      ∀ l ∈ s.linea, esGamePath l = true) := by
  cases lugar with
  | sinGeneral outside => exact .inl ⟨rfl, outside⟩
  | linea abre found =>
    refine .inr ⟨abre, rfl, ?_⟩
    rintro _ ⟨⟩
    exact found
  | seccion abre other => exact .inr ⟨abre, rfl, nofun⟩
  | salto abre => exact .inr ⟨abre, rfl, nofun⟩
  | final abre full => exact .inr ⟨abre, by simp, nofun⟩

theorem Abre.ne_nil {a : List Texto} (abre : Abre a) : a ≠ [] := by
  rintro rfl
  have state := abre [] ⟨false, false⟩
  cases state

theorem Lugar.antes_ne_nil {formato : FormatoIni} {lineas : List Texto} {s : Sitio}
    (lugar : Lugar formato lineas s) : s.antes ≠ [] := by
  rcases lugar.partes with ⟨rfl, _⟩ | ⟨abre, _, _⟩
  · exact List.cons_ne_nil _ _
  · exact abre.ne_nil

/-- What holds of the lines of the file, the header and the new line holds of all. -/
theorem Lugar.forall_hecho {formato : FormatoIni} {lineas : List Texto} {s : Sitio}
    (lugar : Lugar formato lineas s) {valor : Texto} {motivo : Texto → Prop}
    (old : ∀ l ∈ lineas, motivo l) (header : motivo (conTerminador lineaGeneral formato))
    (new : motivo (s.nueva valor formato)) : ∀ l ∈ s.hecho valor formato, motivo l := by
  intro l mem
  rcases lugar.partes with ⟨rfl, _⟩ | ⟨_, same, _⟩
  · rcases List.mem_append.mp mem with before | after
    · exact List.mem_singleton.mp before ▸ header
    · rcases List.mem_cons.mp after with rfl | later
      · exact new
      · exact old l later
  · rcases List.mem_append.mp mem with before | after
    · exact old l (by simp [same, before])
    · rcases List.mem_cons.mp after with rfl | later
      · exact new
      · exact old l (by simp [same, later])

/-- The new line: the key as it was spelled, and the value. -/
theorem Lugar.nueva_forma {formato : FormatoIni} {lineas : List Texto} {s : Sitio}
    (lugar : Lugar formato lineas s) (valor : Texto) :
    ∃ w k t, s.nueva valor formato = w ++ (k ++ CodePoint.scalar '=' :: (valor ++ t)) ∧
      (∀ p ∈ w, blank p = true) ∧ EsClave k ∧ (t = [] ∨ t = [.scalar '\r']) ∧
      s.exacta = decide (k = claveGamePath) := by
  have spelled : ∀ t, lineaDe valor ++ t = [] ++ (claveGamePath ++ CodePoint.scalar '=' :: (valor ++ t)) := by
    intro t
    simp [lineaDe]
  cases found : s.linea with
  | some l =>
    have is_line : esGamePath l = true := by
      rcases lugar.partes with ⟨rfl, _⟩ | ⟨_, _, all⟩
      · cases found
      · exact all l found
    obtain ⟨w, k, rest, rfl, white, clave⟩ := esGamePath_iff.mp is_line
    refine ⟨w, k, terminadorDe (w ++ (k ++ CodePoint.scalar '=' :: rest)), ?_, white, clave, ?_, ?_⟩
    · simp only [Sitio.nueva, found]
      exact reemplazar_clave white clave rest valor
    · unfold terminadorDe
      split
      · exact .inr rfl
      · exact .inl rfl
    · have key : strip (w ++ k) = k := by
        rw [strip, TrimmedText.strip_blank_append white]
        exact clave.strip_eq
      simp [Sitio.exacta, found, partes_clave white clave, key]
  | none =>
    have exact_key : s.exacta = decide (claveGamePath = claveGamePath) := by
      simp [Sitio.exacta, found]
    simp only [Sitio.nueva, found]
    split
    · exact ⟨[], claveGamePath, [], by simpa using spelled [], by simp, esClave_claveGamePath,
        .inl rfl, exact_key⟩
    · rcases conTerminador_cases (lineaDe valor) formato with same | ended
      · exact ⟨[], claveGamePath, [], by simpa [same] using spelled [], by simp,
          esClave_claveGamePath, .inl rfl, exact_key⟩
      · exact ⟨[], claveGamePath, [.scalar '\r'], ended.trans (spelled _), by simp,
          esClave_claveGamePath, .inr rfl, exact_key⟩

theorem imprimible_valor (ruta : Texto) {p : CodePoint}
    (mem : p ∈ valorDe ruta) : ∃ c, p = .scalar c ∧ Imprimible c := by
  obtain ⟨c, inside, rfl⟩ := List.mem_map.mp mem
  exact ⟨c, rfl, imprimible_codificar ruta c inside⟩

theorem no_imprimible {c : Char} (low : c.toNat < 0x20) (ruta : Texto) :
    .scalar c ∉ valorDe ruta := by
  intro mem
  obtain ⟨d, same, printable⟩ := imprimible_valor ruta mem
  obtain rfl := CodePoint.scalar.inj same
  exact absurd printable.1 (by omega)

theorem limpio_valor (ruta : Texto) : Limpio (valorDe ruta) :=
  ⟨no_imprimible (by decide) ruta, no_imprimible (by decide) ruta⟩

/-! Endings of the lines after the edit -/

def Terminada (crlf : Bool) (l : Texto) : Prop := ∃ w, l = w ++ finDe crlf ∧ Limpio w

theorem uniforme_cons {crlf : Bool} {l : Texto} {ls : List Texto} (nonempty : ls ≠ []) :
    Uniforme crlf (l :: ls) ↔ Terminada crlf l ∧ Uniforme crlf ls := by
  cases ls with
  | nil => exact absurd rfl nonempty
  | cons m ls => rfl

theorem uniforme_append {crlf : Bool} {a b : List Texto} (nonempty : b ≠ []) :
    Uniforme crlf (a ++ b) ↔ (∀ l ∈ a, Terminada crlf l) ∧ Uniforme crlf b := by
  induction a with
  | nil => simp
  | cons l a ih =>
    rw [List.cons_append, uniforme_cons (by simp [nonempty]), ih, List.forall_mem_cons, and_assoc]

theorem getLast_limpio {w : Texto} (limpio : Limpio w) : w.getLast? ≠ some (.scalar '\r') :=
  fun last => limpio.1 (List.mem_of_getLast? last)

theorem terminadorDe_fin {w : Texto} (limpio : Limpio w) (crlf : Bool) :
    terminadorDe (w ++ finDe crlf) = finDe crlf := by
  cases crlf with
  | true => simp [terminadorDe, finDe]
  | false => simp [terminadorDe, finDe, getLast_limpio limpio]

theorem terminada_conTerminador {w : Texto} (limpio : Limpio w) (formato : FormatoIni) :
    Terminada formato.crlf (conTerminador w formato) := by
  refine ⟨w, ?_, limpio⟩
  cases ending : formato.crlf <;> simp [conTerminador, ending, finDe, getLast_limpio limpio]

/-- The value is exchanged inside of the line. -/
theorem reemplazar_terminada {w valor : Texto} (limpio : Limpio w) (value : Limpio valor)
    {crlf : Bool} (found : esGamePath (w ++ finDe crlf) = true) :
    ∃ v, reemplazarValor (w ++ finDe crlf) valor = v ++ finDe crlf ∧ Limpio v := by
  have igual : .scalar '=' ∈ w := by
    obtain ⟨x, k, rest, same, _, _⟩ := esGamePath_iff.mp found
    have mem : .scalar '=' ∈ w ++ finDe crlf := by simp [same]
    rcases List.mem_append.mp mem with inside | ending
    · exact inside
    · cases crlf <;> simp [finDe] at ending
  obtain ⟨x, y, rfl, sin_igual⟩ := List.eq_append_cons_of_mem igual
  have part : Limpio x := ⟨fun mem => limpio.1 (by simp [mem]), fun mem => limpio.2 (by simp [mem])⟩
  refine ⟨x ++ CodePoint.scalar '=' :: valor, ?_, ?_⟩
  · have pieces := @IniEditor.partes_igual x (y ++ finDe crlf) sin_igual
    rw [reemplazarValor, terminadorDe_fin limpio, List.append_assoc, List.cons_append, pieces]
    simp
  · constructor
    · simpa using ⟨part.1, value.1⟩
    · simpa using ⟨part.2, value.2⟩

theorem limpio_lineaDe {valor : Texto} (value : Limpio valor) : Limpio (lineaDe valor) := by
  have key : Limpio claveGamePath := ⟨by decide, by decide⟩
  exact ⟨by simpa [lineaDe] using ⟨key.1, value.1⟩, by simpa [lineaDe] using ⟨key.2, value.2⟩⟩

theorem limpio_lineaGeneral : Limpio lineaGeneral := ⟨by decide, by decide⟩

theorem uniforme_final {lineas : List Texto} (uniforme : Uniforme false lineas) :
    ∀ l ∈ lineas, Terminada false l := by
  induction lineas with
  | nil => nofun
  | cons l lineas ih =>
    cases lineas with
    | nil => simpa [Terminada, finDe, Uniforme] using uniforme
    | cons m lineas => exact List.forall_mem_cons.mpr ⟨uniforme.1, ih uniforme.2⟩

theorem uniforme_hecho {formato : FormatoIni} {lineas : List Texto} {s : Sitio}
    (lugar : Lugar formato lineas s) (uniforme : Uniforme formato.crlf lineas)
    (terminated : s.sinTerminar formato = false) {valor : Texto} (value : Limpio valor) :
    Uniforme formato.crlf (s.hecho valor formato) := by
  have added := terminada_conTerminador (limpio_lineaDe value) formato
  cases lugar with
  | sinGeneral outside =>
    have nonempty : lineas ≠ [] := by
      rintro rfl
      exact uniforme
    have header := terminada_conTerminador limpio_lineaGeneral formato
    simp only [Sitio.hecho, Sitio.nueva, if_neg nonempty, List.cons_append, List.nil_append]
    rw [uniforme_cons (by simp), uniforme_cons nonempty]
    exact ⟨header, added, uniforme⟩
  | @linea a b l abre found =>
    rw [uniforme_append (by simp)] at uniforme
    unfold Sitio.hecho Sitio.nueva
    rw [uniforme_append (by simp)]
    refine ⟨uniforme.1, ?_⟩
    dsimp only
    by_cases last : b = []
    · subst last
      have limpio : Limpio l := uniforme.2
      obtain ⟨v, same, clean⟩ := @reemplazar_terminada l valor limpio value false (by
        simpa [finDe] using found)
      simp only [finDe, Bool.false_eq_true, if_false, List.append_nil] at same
      rw [same]
      exact clean
    · rw [uniforme_cons last] at uniforme ⊢
      obtain ⟨_, ⟨w, rfl, limpio⟩, rest⟩ := uniforme
      exact ⟨reemplazar_terminada limpio value found, rest⟩
  | seccion abre other =>
    rw [uniforme_append (by simp)] at uniforme
    simp only [Sitio.hecho, Sitio.nueva, reduceCtorEq, if_false]
    rw [uniforme_append (by simp), uniforme_cons (by simp)]
    exact ⟨uniforme.1, added, uniforme.2⟩
  | salto abre =>
    rw [uniforme_append (by simp)] at uniforme
    simp only [Sitio.hecho, Sitio.nueva, reduceCtorEq, if_false]
    rw [uniforme_append (by simp), uniforme_cons (by simp)]
    exact ⟨uniforme.1, added, uniforme.2⟩
  | final abre full =>
    have lf : formato.crlf = false := by simpa [Sitio.sinTerminar] using terminated
    rw [lf] at uniforme ⊢
    simp only [Sitio.hecho, Sitio.nueva, if_true]
    rw [uniforme_append (by simp)]
    exact ⟨uniforme_final uniforme, limpio_lineaDe value⟩

/-- The new line has no surrogates and no NUL. -/
theorem escalar_nueva {formato : FormatoIni} {lineas : List Texto} {s : Sitio}
    (lugar : Lugar formato lineas s) (ruta : Texto) :
    ∀ p ∈ s.nueva (valorDe ruta) formato,
      (∃ c, p = .scalar c) ∧ p ≠ .scalar '\x00' := by
  obtain ⟨w, k, t, same, white, clave, ending, _⟩ :=
    lugar.nueva_forma (valorDe ruta)
  have solid : blank (.scalar '\x00') = false := by decide
  have letters : ∀ p ∈ letrasGamepath, ∃ c, p = .scalar c := by simp [letrasGamepath, plano]
  intro p mem
  rw [same] at mem
  rcases List.mem_append.mp mem with front | mem
  · refine ⟨IniEditor.scalar_of_blank (white p front), ?_⟩
    rintro rfl
    rw [white _ front] at solid
    cases solid
  · rcases List.mem_append.mp mem with key | mem
    · have lower : minuscula p ∈ letrasGamepath := clave ▸ List.mem_map_of_mem key
      constructor
      · obtain ⟨c, found⟩ := letters _ lower
        cases p with
        | scalar d => exact ⟨d, rfl⟩
        | surrogate n => cases found
      · rintro rfl
        revert lower
        decide
    · rcases List.mem_cons.mp mem with rfl | mem
      · exact ⟨⟨_, rfl⟩, by decide⟩
      · rcases List.mem_append.mp mem with value | last
        · obtain ⟨c, rfl, printable⟩ := imprimible_valor ruta value
          refine ⟨⟨c, rfl⟩, ?_⟩
          rintro ⟨⟩
          exact absurd printable.1 (by decide)
        · rcases ending with rfl | rfl
          · cases last
          · obtain rfl := List.mem_singleton.mp last
            exact ⟨⟨_, rfl⟩, by decide⟩

theorem survives_of_scalars {t : Texto} (scalars : ∀ p ∈ t, ∃ c, p = .scalar c) : Survives t := by
  have all := (IniEditor.survives_scalars_append scalars []).mpr survives_nil
  rwa [List.append_nil] at all

theorem lineaGeneral_escalar (formato : FormatoIni) :
    ∀ p ∈ conTerminador lineaGeneral formato, (∃ c, p = .scalar c) ∧ p ≠ .scalar '\x00' := by
  rcases conTerminador_cases lineaGeneral formato with same | ended
  · rw [same]
    simp [lineaGeneral, general, plano]
  · rw [ended]
    simp [lineaGeneral, general, plano]

theorem survives_hecho {formato : FormatoIni} {lineas : List Texto} {s : Sitio}
    (lugar : Lugar formato lineas s) (survive : ∀ l ∈ lineas, Survives l) (ruta : Texto) :
    ∀ l ∈ s.hecho (valorDe ruta) formato, Survives l :=
  lugar.forall_hecho survive
    (survives_of_scalars fun p mem => (lineaGeneral_escalar formato p mem).1)
    (survives_of_scalars fun p mem => (escalar_nueva lugar ruta p mem).1)

theorem sin_nul_hecho {formato : FormatoIni} {lineas : List Texto} {s : Sitio}
    (lugar : Lugar formato lineas s) (sin_nul : ∀ l ∈ lineas, .scalar '\x00' ∉ l) (ruta : Texto) :
    ∀ l ∈ s.hecho (valorDe ruta) formato, .scalar '\x00' ∉ l :=
  lugar.forall_hecho sin_nul (fun mem => (lineaGeneral_escalar formato _ mem).2 rfl)
    fun mem => (escalar_nueva lugar ruta _ mem).2 rfl

/-! The file after the edit -/

def conMarca (formato : FormatoIni) (cuerpo : Bytes) : Bytes :=
  if formato.tieneBom then BOM ++ cuerpo else cuerpo

theorem prefix_of_not_mem {a : UInt8} {b x y : Bytes} (start : b <+: x ++ a :: y) (absent : a ∉ b) :
    b <+: x := by
  rcases List.prefix_or_prefix_of_prefix start (List.prefix_append x (a :: y)) with short | long
  · exact short
  · obtain ⟨z, rfl⟩ := long
    cases z with
    | nil => simp
    | cons c z =>
      have same : c = a := by
        have rest := List.prefix_append_right_inj x |>.mp start
        exact (List.cons_prefix_cons.mp rest).1
      exact absurd (by simp [same]) absent

theorem primera_prefija {l : Texto} {ls : List Texto} (survive : ∀ m ∈ l :: ls, Survives m) :
    bytesDe l <+: bytesDe (unir (l :: ls)) := by
  rw [bytesDe_unir survive]
  cases ls with
  | nil => simp
  | cons m ls =>
    rw [List.map_cons, List.intercalate_cons_of_ne_nil (by simp), List.append_assoc]
    exact List.prefix_append _ _

theorem prefijo_primera {l : Texto} {ls : List Texto} (nonempty : ls ≠ [])
    (survive : ∀ m ∈ l :: ls, Survives m) {b : Bytes} (absent : 10 ∉ b)
    (start : b <+: bytesDe (unir (l :: ls))) : b <+: bytesDe l := by
  rw [bytesDe_unir survive, List.map_cons, List.intercalate_cons_of_ne_nil (by simpa using nonempty),
    List.append_assoc] at start
  exact prefix_of_not_mem start absent

theorem marcas_general (formato : FormatoIni) :
    ∀ b ∈ BOM :: bomNoAdmitidos, ¬ b <+: bytesDe (conTerminador lineaGeneral formato) := by
  rcases conTerminador_cases lineaGeneral formato with same | ended
  · rw [same]
    decide
  · rw [ended]
    decide

/-- A mark that the edited file starts with is one that the file started with. -/
theorem marca_hecho {contenido : Bytes} {formato : FormatoIni} {s : Sitio}
    (unmarked : BOM.isPrefixOf contenido = false) (lugar : Lugar formato (lineasDe contenido) s)
    (ruta : Texto) {b : Bytes} (mark : b ∈ BOM :: bomNoAdmitidos)
    (start : b <+: bytesDe (unir (s.hecho (valorDe ruta) formato))) :
    b <+: contenido := by
  have absent : ∀ b ∈ BOM :: bomNoAdmitidos, (10 : UInt8) ∉ b := by decide
  have survive := survives_hecho lugar (survives_lineasDe contenido) ruta
  have body : contenido = bytesDe (unir (lineasDe contenido)) := by
    rw [unir_lineasDe, bytesDe_decode, cuerpoDe, if_neg (by simp [unmarked])]
  obtain ⟨x, xs, first⟩ := List.exists_cons_of_ne_nil lugar.antes_ne_nil
  unfold Sitio.hecho at start survive
  rw [first, List.cons_append] at start survive
  have short := prefijo_primera (by simp) survive (absent b mark) start
  rcases lugar.partes with ⟨rfl, _⟩ | ⟨_, same, _⟩
  · obtain ⟨rfl, _⟩ := List.cons.inj first
    exact absurd short (marcas_general formato b mark)
  · have old := survives_lineasDe contenido
    rw [same, first, List.cons_append] at body old
    rw [body]
    exact short.trans (primera_prefija old)

theorem cuerpo_hecho {contenido : Bytes} {formato : FormatoIni} (admitida : Admitida contenido formato)
    {s : Sitio} (lugar : Lugar formato (lineasDe contenido) s) (ruta : Texto) :
    let cuerpo := bytesDe (unir (s.hecho (valorDe ruta) formato))
    BOM.isPrefixOf (conMarca formato cuerpo) = formato.tieneBom ∧
      cuerpoDe (conMarca formato cuerpo) = cuerpo := by
  intro cuerpo
  unfold conMarca cuerpoDe
  cases marked : formato.tieneBom with
  | true =>
    have start : BOM.isPrefixOf (BOM ++ cuerpo) = true :=
      List.isPrefixOf_iff_prefix.mpr (List.prefix_append _ _)
    rw [if_pos rfl, if_pos start, List.drop_left]
    exact ⟨start, rfl⟩
  | false =>
    have unmarked : BOM.isPrefixOf contenido = false := by rw [← admitida.marca, marked]
    have none_new : BOM.isPrefixOf cuerpo = false := by
      by_contra start
      have new := List.isPrefixOf_iff_prefix.mp (Bool.eq_true_of_not_eq_false start)
      have old := marca_hecho unmarked lugar ruta List.mem_cons_self new
      rw [List.isPrefixOf_iff_prefix.mpr old] at unmarked
      cases unmarked
    simp [none_new]

theorem limpias_uniforme {crlf : Bool} {lineas : List Texto} (uniforme : Uniforme crlf lineas) :
    ∀ l ∈ lineas, .scalar '\n' ∉ l := by
  induction lineas with
  | nil => nofun
  | cons l lineas ih =>
    cases lineas with
    | nil => simpa using uniforme.2
    | cons m lineas =>
      obtain ⟨⟨w, rfl, limpio⟩, rest⟩ := uniforme
      refine List.forall_mem_cons.mpr ⟨?_, ih rest⟩
      cases crlf
      · simpa [finDe] using limpio.2
      · simpa [finDe] using limpio.2

theorem lineas_hecho {contenido : Bytes} {formato : FormatoIni} (admitida : Admitida contenido formato)
    {s : Sitio} (lugar : Lugar formato (lineasDe contenido) s)
    (terminated : s.sinTerminar formato = false) (ruta : Texto) :
    lineasDe (conMarca formato (bytesDe (unir (s.hecho (valorDe ruta) formato)))) =
      s.hecho (valorDe ruta) formato := by
  have survive := survives_hecho lugar (survives_lineasDe contenido) ruta
  have uniforme := uniforme_hecho lugar admitida.uniforme terminated (limpio_valor ruta)
  rw [lineasDe, (cuerpo_hecho admitida lugar ruta).2, decode_bytesDe (survives_unir.mpr survive)]
  apply splitOn_unir
  · simp [Sitio.hecho]
  · exact limpias_uniforme uniforme

theorem mem_unir {p : CodePoint} (other : p ≠ .scalar '\n') {lineas : List Texto} :
    p ∈ unir lineas ↔ ∃ l ∈ lineas, p ∈ l := by
  induction lineas with
  | nil => simp [unir]
  | cons l lineas ih =>
    by_cases last : lineas = []
    · simp [last, unir]
    · rw [unir_cons last, List.mem_append, List.mem_cons, ih]
      simp [other]

theorem sin_nul_iff {lineas : List Texto} (survive : ∀ l ∈ lineas, Survives l) :
    0 ∉ bytesDe (unir lineas) ↔ ∀ l ∈ lineas, .scalar '\x00' ∉ l := by
  rw [mem_encode_ascii (by decide) (encode_bytesDe (survives_unir.mpr survive)),
    show Char.ofNat (0 : UInt8).toNat = '\x00' from rfl, mem_unir (by decide)]
  simp

/-- The edited file is admitted in the same format. -/
theorem admitida_hecho {contenido : Bytes} {formato : FormatoIni}
    (admitida : Admitida contenido formato) {s : Sitio}
    (lugar : Lugar formato (lineasDe contenido) s) (terminated : s.sinTerminar formato = false)
    (ruta : Texto) : Admitida (conMarca formato
      (bytesDe (unir (s.hecho (valorDe ruta) formato)))) formato := by
  have survive := survives_hecho lugar (survives_lineasDe contenido) ruta
  have old_nul : ∀ l ∈ lineasDe contenido, .scalar '\x00' ∉ l := by
    rw [← sin_nul_iff (survives_lineasDe contenido), unir_lineasDe, bytesDe_decode, cuerpoDe]
    split
    · exact fun mem => admitida.sinNul (List.mem_of_mem_drop mem)
    · exact admitida.sinNul
  have new_nul := (sin_nul_iff survive).mpr (sin_nul_hecho lugar old_nul ruta)
  constructor
  · intro bom mem start
    unfold conMarca at start
    cases marked : formato.tieneBom with
    | true =>
      rw [if_pos marked] at start
      have first : ∀ bom ∈ bomNoAdmitidos, bom.head? ≠ some 0xEF ∧ bom ≠ [] := by decide
      obtain ⟨other, nonempty⟩ := first bom mem
      obtain ⟨b, rest, rfl⟩ := List.exists_cons_of_ne_nil nonempty
      exact other (congrArg some (List.cons_prefix_cons.mp start).1)
    | false =>
      rw [if_neg (by simp [marked])] at start
      have unmarked : BOM.isPrefixOf contenido = false := by rw [← admitida.marca, marked]
      exact admitida.sinBom bom mem
        (marca_hecho unmarked lugar ruta (List.mem_cons_of_mem _ mem) start)
  · unfold conMarca
    split
    · have mark : (0 : UInt8) ∉ BOM := by decide
      simpa [mark] using new_nul
    · exact new_nul
  · exact (cuerpo_hecho admitida lugar ruta).1.symm
  · rw [lineas_hecho admitida lugar terminated]
    exact uniforme_hecho lugar admitida.uniforme terminated (limpio_valor ruta)
  · intro _
    have front := List.length_pos_iff.mpr lugar.antes_ne_nil
    rw [lineas_hecho admitida lugar terminated, Sitio.hecho, List.length_append, List.length_cons]
    omega

theorem preverBytes_eq {contenido : Bytes} {formato : FormatoIni}
    (admitida : Admitida contenido formato) {ruta : Texto} {despues : List Texto}
    {tocadas : List Nat} (built : construirLineas (valorDe ruta) formato
      (lineasDe contenido) = (despues, tocadas))
    (verified : verificarPreservacion (lineasDe contenido) despues tocadas = .ok ())
    (survive : ∀ l ∈ despues, Survives l) :
    preverBytes contenido ruta = .ok (conMarca formato (bytesDe (unir despues))) := by
  unfold preverBytes
  rw [admitir_iff.mpr admitida]
  simp only [bind, Except.bind, built, verified, encode_bytesDe (survives_unir.mpr survive)]
  rfl

theorem Lugar.abre {formato : FormatoIni} {lineas : List Texto} {s : Sitio}
    (lugar : Lugar formato lineas s) : Abre s.antes := by
  rcases lugar.partes with ⟨rfl, _⟩ | ⟨abre, _, _⟩
  · have header : esGeneral (conTerminador lineaGeneral formato) = true := by
      simpa [esGeneral] using esEncabezado_lineaGeneral formato
    exact @abre_cabecera [] (by simp) _ header
  · exact abre

theorem getLast_valor (ruta : Texto) :
    (valorDe ruta).getLast? = some (.scalar ')') := by
  simp [valorDe, plano, codificarQtByteArray]

theorem esGamePath_nueva {formato : FormatoIni} {lineas : List Texto} {s : Sitio}
    (lugar : Lugar formato lineas s) (valor : Texto) :
    esGamePath (s.nueva valor formato) = true := by
  obtain ⟨w, k, t, same, white, clave, _⟩ := lugar.nueva_forma valor
  exact esGamePath_iff.mpr ⟨w, k, valor ++ t, same, white, clave⟩

/-- The new line is left as it is by a second edit. -/
theorem reemplazar_nueva {formato : FormatoIni} {lineas : List Texto} {s : Sitio}
    (lugar : Lugar formato lineas s) (ruta : Texto) :
    reemplazarValor (s.nueva (valorDe ruta) formato)
      (valorDe ruta) = s.nueva (valorDe ruta) formato := by
  obtain ⟨w, k, t, same, white, clave, ending, _⟩ :=
    lugar.nueva_forma (valorDe ruta)
  rw [same, reemplazar_clave white clave]
  have last : terminadorDe (w ++ (k ++ CodePoint.scalar '=' :: (valorDe ruta ++ t))) = t := by
    rcases ending with rfl | rfl
    · simp [terminadorDe, List.getLast?_append, List.getLast?_cons, getLast_valor]
    · simp [terminadorDe, List.getLast?_append, List.getLast?_cons]
  rw [last]

theorem construir_repetido {formato : FormatoIni} {lineas : List Texto} {s : Sitio}
    (lugar : Lugar formato lineas s) (ruta : Texto) :
    construirLineas (valorDe ruta) formato
      (s.hecho (valorDe ruta) formato) =
        (s.hecho (valorDe ruta) formato, [s.antes.length]) := by
  have touched := @vuelta_gamePath (valorDe ruta) formato ⟨true, true, [], s.antes⟩ _
    (esGamePath_nueva lugar (valorDe ruta)) rfl rfl
  obtain ⟨enGeneral, rest⟩ := @foldl_tocado (valorDe ruta) formato s.despues
    (Bucle.toca ⟨true, true, [], s.antes⟩ (s.nueva (valorDe ruta) formato)) rfl
    (by simp [Bucle.toca])
  rw [reemplazar_nueva lugar] at touched
  unfold construirLineas
  rw [Sitio.hecho, List.foldl_append, lugar.abre, List.foldl_cons, touched, rest]
  simp [Bucle.toca]

theorem verificar_igual {lineas : List Texto} {tocadas : List Nat} (some_line : tocadas ≠ []) :
    verificarPreservacion lineas lineas tocadas = .ok () := by
  rw [verificarPreservacion, if_neg some_line, if_pos rfl, if_pos rfl]

/-- The edit of a file whose last line is terminated, or is not to be. -/
theorem prever_hecho {contenido : Bytes} {formato : FormatoIni}
    (admitida : Admitida contenido formato) {s : Sitio}
    (lugar : Lugar formato (lineasDe contenido) s) (terminated : s.sinTerminar formato = false)
    (ruta : Texto) :
    let despues := conMarca formato
      (bytesDe (unir (s.hecho (valorDe ruta) formato)))
    preverBytes contenido ruta = .ok despues ∧ preverBytes despues ruta = .ok despues := by
  intro despues
  have survive := survives_hecho lugar (survives_lineasDe contenido) ruta
  have again := lineas_hecho admitida lugar terminated ruta
  obtain ⟨tocadas, built, verified⟩ := construir_lugar lugar (lineasDe_ne_nil contenido) terminated
    (valorDe ruta)
  constructor
  · exact preverBytes_eq admitida built verified survive
  · have rebuilt := construir_repetido lugar ruta
    rw [← again] at rebuilt
    refine preverBytes_eq (admitida_hecho admitida lugar terminated ruta)
      (rebuilt.trans (by rw [again])) ?_ survive
    rw [again]
    exact verificar_igual (by simp)

theorem solo_hecho {contenido : Bytes} {formato : FormatoIni}
    (admitida : Admitida contenido formato) {s : Sitio}
    (lugar : Lugar formato (lineasDe contenido) s) (terminated : s.sinTerminar formato = false)
    (ruta : Texto) :
    SoloGamePath (cuerpoDe contenido) (bytesDe (unir (s.hecho (valorDe ruta) formato))) := by
  have old := survives_lineasDe contenido
  have survive := survives_hecho lugar old ruta
  have uniforme := uniforme_hecho lugar admitida.uniforme terminated (limpio_valor ruta)
  have before : (cuerpoDe contenido).splitOn 10 = (lineasDe contenido).map bytesDe := by
    have lines := splitOn_bytesDe (lineasDe_ne_nil contenido) old (limpias_lineasDe contenido)
    rwa [unir_lineasDe, bytesDe_decode] at lines
  have after := splitOn_bytesDe (by simp [Sitio.hecho]) survive (limpias_uniforme uniforme)
  have new : esGamePath (decode (bytesDe (s.nueva (valorDe ruta) formato))) = true := by
    rw [decode_bytesDe (survive _ (by simp [Sitio.hecho]))]
    exact esGamePath_nueva lugar _
  unfold SoloGamePath
  rw [before, after]
  rcases lugar.partes with ⟨rfl, outside⟩ | ⟨_, same, is_line⟩
  · right; right
    have header : esGeneral (conTerminador lineaGeneral formato) = true := by
      simpa [esGeneral] using esEncabezado_lineaGeneral formato
    refine ⟨_, _, rfl, ?_, new, ?_⟩
    · rwa [decode_bytesDe (survive _ (by simp [Sitio.hecho]))]
    · intro l mem
      obtain ⟨t, ht, rfl⟩ := List.mem_map.mp mem
      rw [decode_bytesDe (old t ht)]
      exact outside t ht
  · cases found : s.linea with
    | some l =>
      left
      rw [found] at same
      refine ⟨s.antes.map bytesDe, bytesDe l, _, s.despues.map bytesDe, by simp [same],
        by simp [Sitio.hecho], ?_, new⟩
      rw [decode_bytesDe (old l (by simp [same]))]
      exact is_line l found
    | none =>
      right; left
      rw [found] at same
      exact ⟨s.antes.map bytesDe, _, s.despues.map bytesDe, by simp [same], by simp [Sitio.hecho],
        new⟩

/-! What the reader takes from lines -/

/-- What the reader takes from one line. -/
def paresDe (dentro : Bool) (bruta : Texto) : List (Texto × Texto) :=
  let linea := limpiar bruta
  if seIgnora linea = true ∨ nombreDeSeccion linea ≠ none ∨ !dentro ∨ .scalar '=' ∉ linea then []
  else [(strip (partes linea).1, (partes linea).2)]

theorem leer_cons (seccion : Texto) (dentro : Bool) (l : Texto) (ls : List Texto) :
    leerSeccion seccion dentro (l :: ls) = paresDe dentro l ++
      match trasLinea seccion dentro l with
      | some tras => leerSeccion seccion tras ls
      | none => [] := by
  simp only [leerSeccion, paresDe, trasLinea]
  by_cases ignored : seIgnora (limpiar l) = true
  · simp [ignored]
  · cases header : nombreDeSeccion (limpiar l) with
    | some nombre =>
      by_cases same : nombre = seccion
      · simp [ignored, same]
      · cases dentro <;> simp [ignored, same]
    | none =>
      simp only [ignored, if_false, Bool.false_eq_true]
      by_cases assigned : (!dentro) = true ∨ .scalar '=' ∉ limpiar l
      · simp only [assigned]
        simp
      · simp only [assigned]
        simp

theorem dentroTras_cons (seccion : Texto) (dentro : Bool) (l : Texto) (ls : List Texto) :
    dentroTras seccion dentro (l :: ls) =
      (trasLinea seccion dentro l).bind fun tras => dentroTras seccion tras ls := by
  simp [dentroTras, List.foldlM_cons]

theorem leer_append (seccion : Texto) (dentro : Bool) (a b : List Texto) :
    leerSeccion seccion dentro (a ++ b) = leerSeccion seccion dentro a ++
      match dentroTras seccion dentro a with
      | some tras => leerSeccion seccion tras b
      | none => [] := by
  induction a generalizing dentro with
  | nil => rfl
  | cons l a ih =>
    rw [List.cons_append, leer_cons, leer_cons, dentroTras_cons]
    cases trasLinea seccion dentro l with
    | none => simp
    | some tras => simp [ih tras]

/-- Two texts are read the same, from any point. -/
def Equivalen (a b : List Texto) : Prop :=
  ∀ seccion dentro, leerSeccion seccion dentro a = leerSeccion seccion dentro b ∧
    dentroTras seccion dentro a = dentroTras seccion dentro b

theorem equivalen_cons {l m : Texto} {a b : List Texto} (same : limpiar l = limpiar m)
    (rest : Equivalen a b) : Equivalen (l :: a) (m :: b) := by
  intro seccion dentro
  have pairs : paresDe dentro l = paresDe dentro m := by simp only [paresDe, same]
  have state : trasLinea seccion dentro l = trasLinea seccion dentro m := by
    simp only [trasLinea, same]
  rw [leer_cons, leer_cons, dentroTras_cons, dentroTras_cons, pairs, state]
  cases trasLinea seccion dentro m with
  | none => exact ⟨rfl, rfl⟩
  | some tras => exact ⟨by simp [(rest seccion tras).1], (rest seccion tras).2⟩

theorem equivalen_ignorada {l : Texto} {a b : List Texto} (ignored : seIgnora (limpiar l) = true)
    (rest : Equivalen a b) : Equivalen a (l :: b) := by
  intro seccion dentro
  have pairs : paresDe dentro l = [] := by simp [paresDe, ignored]
  have state : trasLinea seccion dentro l = some dentro := by simp [trasLinea, ignored]
  rw [leer_cons, dentroTras_cons, pairs, state]
  exact rest seccion dentro

theorem equivalen_refl (a : List Texto) : Equivalen a a := fun _ _ => ⟨rfl, rfl⟩

theorem ignora_vacia : seIgnora (limpiar []) = true := by decide

theorem equivalen_de_partes {a b : List Texto} (nonempty : b ≠ []) (head : a.headD [] = b.headD [])
    (tail : Equivalen a.tail b.tail) : Equivalen a b := by
  obtain ⟨m, b, rfl⟩ := List.exists_cons_of_ne_nil nonempty
  cases a with
  | nil =>
    obtain rfl : [] = m := head
    exact equivalen_ignorada ignora_vacia tail
  | cons l a =>
    obtain rfl : l = m := head
    exact equivalen_cons rfl tail

/-- Splitting at every line break, CR and LF apart, only adds empty lines. -/
theorem partes_trozos (t : Texto) :
    (splitlines t).headD [] = (t.splitOnP esSalto).headD [] ∧
      Equivalen (splitlines t).tail (t.splitOnP esSalto).tail := by
  have cr : esSalto (.scalar '\r') = true := by decide
  have lf : esSalto (.scalar '\n') = true := by decide
  fun_induction splitlines t with
  | case1 => exact ⟨rfl, equivalen_refl _⟩
  | case2 =>
    rw [List.splitOnP_cons_eq_if_modifyHead, if_pos cr]
    exact ⟨rfl, equivalen_ignorada ignora_vacia (equivalen_refl _)⟩
  | case3 u ih =>
    rw [List.splitOnP_cons_eq_if_modifyHead, if_pos cr, List.splitOnP_cons_eq_if_modifyHead,
      if_pos lf]
    exact ⟨rfl, equivalen_ignorada ignora_vacia
      (equivalen_de_partes (List.splitOnP_ne_nil _ _) ih.1 ih.2)⟩
  | case4 q u other ih =>
    rw [List.splitOnP_cons_eq_if_modifyHead, if_pos cr]
    exact ⟨rfl, equivalen_de_partes (List.splitOnP_ne_nil _ _) ih.1 ih.2⟩
  | case5 p t not_cr salto ih =>
    rw [List.splitOnP_cons_eq_if_modifyHead, if_pos salto]
    exact ⟨rfl, equivalen_de_partes (List.splitOnP_ne_nil _ _) ih.1 ih.2⟩
  | case6 p t not_cr not_salto none_left ih =>
    obtain ⟨h, r, pieces⟩ := List.exists_cons_of_ne_nil (List.splitOnP_ne_nil esSalto t)
    rw [none_left, pieces] at ih
    rw [List.splitOnP_cons_eq_if_modifyHead, if_neg not_salto, pieces]
    exact ⟨congrArg (p :: ·) ih.1, ih.2⟩
  | case7 p t not_cr not_salto l ls same ih =>
    obtain ⟨h, r, pieces⟩ := List.exists_cons_of_ne_nil (List.splitOnP_ne_nil esSalto t)
    rw [same, pieces] at ih
    rw [List.splitOnP_cons_eq_if_modifyHead, if_neg not_salto, pieces]
    exact ⟨congrArg (p :: ·) ih.1, ih.2⟩

theorem equivalen_trozos (t : Texto) : Equivalen (splitlines t) (t.splitOnP esSalto) :=
  equivalen_de_partes (List.splitOnP_ne_nil _ _) (partes_trozos t).1 (partes_trozos t).2

/-- What is read on both sides of a line break is read apart. -/
theorem leer_salto (seccion : Texto) (dentro : Bool) (t u : Texto) :
    leerSeccion seccion dentro (splitlines (t ++ CodePoint.scalar '\n' :: u)) =
      leerSeccion seccion dentro (splitlines t) ++
        match dentroTras seccion dentro (splitlines t) with
        | some tras => leerSeccion seccion tras (splitlines u)
        | none => [] := by
  have lf : esSalto (.scalar '\n') = true := by decide
  rw [(equivalen_trozos _ seccion dentro).1, List.splitOnP_append_cons _ _ lf, leer_append,
    (equivalen_trozos t seccion dentro).1, (equivalen_trozos t seccion dentro).2]
  cases dentroTras seccion dentro (t.splitOnP esSalto) with
  | none => rfl
  | some tras => simp only [(equivalen_trozos u seccion tras).1]

theorem Equivalen.symm {a b : List Texto} (same : Equivalen a b) : Equivalen b a :=
  fun seccion dentro => ⟨(same seccion dentro).1.symm, (same seccion dentro).2.symm⟩

theorem Equivalen.trans {a b c : List Texto} (first : Equivalen a b) (second : Equivalen b c) :
    Equivalen a c := fun seccion dentro =>
  ⟨(first seccion dentro).1.trans (second seccion dentro).1,
    (first seccion dentro).2.trans (second seccion dentro).2⟩

theorem EsClave.cons {k : Texto} (clave : EsClave k) :
    ∃ p rest, k = p :: rest ∧ ∀ q ∈ ([.scalar ';', .scalar '#', .scalar '[', .scalar '\uFEFF'] : Texto),
      p ≠ q := by
  obtain ⟨p, rest, rfl⟩ := List.exists_cons_of_ne_nil clave.ne_nil
  refine ⟨p, rest, rfl, ?_⟩
  have first : minuscula p = .scalar 'g' := (List.cons.inj clave).1
  have others : ∀ q ∈ ([.scalar ';', .scalar '#', .scalar '[', .scalar '\uFEFF'] : Texto),
      minuscula q ≠ .scalar 'g' := by decide
  rintro q mem rfl
  exact others _ mem first

theorem limpiar_clave {k : Texto} (clave : EsClave k) (ruta : Texto) :
    limpiar (k ++ CodePoint.scalar '=' :: valorDe ruta) = k ++ CodePoint.scalar '=' :: valorDe ruta := by
  have value : (valorDe ruta).rdropWhile blank = valorDe ruta :=
    TrimmedText.Trimmed.rdropWhile (strip_codificar ruta)
  have trimmed : strip (k ++ CodePoint.scalar '=' :: valorDe ruta) = k ++ CodePoint.scalar '=' :: valorDe ruta := by
    have stripped := @strip_clave [] k nofun clave (valorDe ruta)
    rwa [value, List.nil_append] at stripped
  obtain ⟨p, rest, rfl, other⟩ := clave.cons
  have unmarked : p ≠ .scalar '\uFEFF' := other _ (by simp)
  rw [limpiar, trimmed, List.cons_append, List.dropWhile_cons_of_neg (by simpa using unmarked)]
  exact trimmed

/-- What the reader takes from the line of `gamePath`. -/
theorem pares_clave {k : Texto} (clave : EsClave k) (ruta : Texto) (dentro : Bool) :
    paresDe dentro (k ++ CodePoint.scalar '=' :: valorDe ruta) =
        (if dentro then [(k, valorDe ruta)] else []) ∧
      trasLinea general dentro (k ++ CodePoint.scalar '=' :: valorDe ruta) = some dentro := by
  have pieces := @partes_clave [] k nofun clave (valorDe ruta)
  rw [List.nil_append, List.nil_append] at pieces
  have key := clave.strip_eq
  have clean := limpiar_clave clave ruta
  have equal : CodePoint.scalar '=' ∈ k ++ CodePoint.scalar '=' :: valorDe ruta := by simp
  have kept : seIgnora (k ++ CodePoint.scalar '=' :: valorDe ruta) = false ∧
      nombreDeSeccion (k ++ CodePoint.scalar '=' :: valorDe ruta) = none := by
    obtain ⟨p, rest, rfl, other⟩ := clave.cons
    simp at other
    simp [seIgnora, nombreDeSeccion, other]
  constructor
  · simp only [paresDe, clean, kept.1, kept.2, pieces, key]
    cases dentro <;> simp [equal]
  · simp [trasLinea, clean, kept.1, kept.2]

theorem esSalto_imprimible {c : Char} (printable : Imprimible c) : esSalto (.scalar c) = false := by
  obtain ⟨low, high⟩ := printable
  simp only [esSalto, Bool.or_eq_false_iff, Bool.and_eq_false_iff, decide_eq_false_iff_not]
  omega

theorem sinSaltos_clave {k : Texto} (clave : EsClave k) (ruta : Texto) :
    ∀ p ∈ k ++ CodePoint.scalar '=' :: valorDe ruta, esSalto p = false := by
  have letters : ∀ p ∈ letrasGamepath, esSalto p = false := by decide
  intro p mem
  rcases List.mem_append.mp mem with key | mem
  · have lower : minuscula p ∈ letrasGamepath := clave ▸ List.mem_map_of_mem key
    rcases minuscula_cases p with same | ⟨c, _, rfl, _, low, high, _⟩
    · exact letters p (same ▸ lower)
    · exact esSalto_imprimible ⟨by omega, by omega⟩
  · rcases List.mem_cons.mp mem with rfl | value
    · decide
    · obtain ⟨c, rfl, printable⟩ := imprimible_valor ruta value
      exact esSalto_imprimible printable

theorem equivalen_nueva {w k t : Texto} (white : ∀ p ∈ w, blank p = true) (clave : EsClave k)
    (ending : t = [] ∨ t = [.scalar '\r']) (ruta : Texto) :
    Equivalen ((w ++ (k ++ CodePoint.scalar '=' :: (valorDe ruta ++ t))).splitOnP esSalto)
      [k ++ CodePoint.scalar '=' :: valorDe ruta] := by
  have one := sinSaltos_clave clave ruta
  induction w with
  | nil =>
    rcases ending with rfl | rfl
    · rw [List.append_nil, List.nil_append, List.splitOnP_eq_singleton one]
      exact equivalen_refl _
    · have split : k ++ CodePoint.scalar '=' :: (valorDe ruta ++ [CodePoint.scalar '\r']) =
          (k ++ CodePoint.scalar '=' :: valorDe ruta) ++ CodePoint.scalar '\r' :: [] := by simp
      rw [List.nil_append, split, List.splitOnP_append_cons _ _ (by decide),
        List.splitOnP_eq_singleton one]
      exact equivalen_cons rfl (equivalen_ignorada ignora_vacia (equivalen_refl _)).symm
  | cons p w ih =>
    obtain ⟨first, rest⟩ := List.forall_mem_cons.mp white
    rw [List.cons_append, List.splitOnP_cons_eq_if_modifyHead]
    split
    · exact (equivalen_ignorada ignora_vacia (equivalen_refl _)).symm.trans (ih rest)
    · obtain ⟨h, r, pieces⟩ := List.exists_cons_of_ne_nil (List.splitOnP_ne_nil esSalto
        (w ++ (k ++ CodePoint.scalar '=' :: (valorDe ruta ++ t))))
      have start : limpiar (p :: h) = limpiar h := by
        have stripped : strip ([p] ++ h) = strip h := TrimmedText.strip_blank_append (by simpa using first)
        rw [limpiar, limpiar, ← stripped]
        rfl
      have same := ih rest
      rw [pieces] at same ⊢
      exact (equivalen_cons start (equivalen_refl r)).trans same

/-! The theorem -/

theorem ultimo_append (clave : Texto) (a b : List (Texto × Texto)) :
    ultimo clave (a ++ b) = (ultimo clave b).or (ultimo clave a) := by
  rw [ultimo, List.reverse_append, List.lookup_append]
  rfl

theorem ultimo_nueva (k valor : Texto) :
    ultimo claveGamePath [(k, valor)] = if k = claveGamePath then some valor else none := by
  by_cases same : k = claveGamePath
  · simp [ultimo, same]
  · have other : (claveGamePath == k) = false := by simpa using Ne.symm same
    simp [ultimo, other, same]

/-- The last value of `gamePath` in the edited file, from the place. -/
theorem ultimo_hecho {formato : FormatoIni} {lineas : List Texto} {s : Sitio}
    (lugar : Lugar formato lineas s) (ruta : Texto) :
    ultimo claveGamePath (leerSeccion general false
      (splitlines (marcaDe formato ++ unir (s.hecho (valorDe ruta) formato)))) =
    (s.posterior formato).or
      ((if dentroTras general false (s.frente formato) = some true ∧ s.exacta = true
        then some (valorDe ruta) else none).or
      (ultimo claveGamePath (leerSeccion general false (s.frente formato)))) := by
  obtain ⟨w, k, t, same, white, clave, ending, spelled⟩ := lugar.nueva_forma (valorDe ruta)
  have text : marcaDe formato ++ unir (s.hecho (valorDe ruta) formato) =
      (marcaDe formato ++ unir s.antes) ++ CodePoint.scalar '\n' ::
        unir (s.nueva (valorDe ruta) formato :: s.despues) := by
    rw [Sitio.hecho, unir_append lugar.antes_ne_nil (List.cons_ne_nil _ _), List.append_assoc]
  have line : ∀ dentro, leerSeccion general dentro (splitlines (s.nueva (valorDe ruta) formato)) =
      (if dentro then [(k, valorDe ruta)] else []) ∧
      dentroTras general dentro (splitlines (s.nueva (valorDe ruta) formato)) = some dentro := by
    intro dentro
    have equal := (equivalen_trozos _).trans (same ▸ equivalen_nueva white clave ending ruta)
    obtain ⟨pairs, state⟩ := pares_clave clave ruta dentro
    rw [(equal general dentro).1, (equal general dentro).2, leer_cons, dentroTras_cons, pairs, state]
    exact ⟨by simp [leerSeccion], rfl⟩
  have rest : ∀ dentro, leerSeccion general dentro
      (splitlines (unir (s.nueva (valorDe ruta) formato :: s.despues))) =
      (if dentro then [(k, valorDe ruta)] else []) ++
        leerSeccion general dentro (splitlines (unir s.despues)) := by
    intro dentro
    by_cases last : s.despues = []
    · rw [last]
      simp only [unir, List.intercalate_singleton, List.intercalate_nil, line dentro]
      simp [splitlines, leerSeccion]
    · rw [unir_cons last, leer_salto, (line dentro).1, (line dentro).2]
  rw [text, leer_salto, ultimo_append, ← Sitio.frente, spelled]
  unfold Sitio.posterior
  cases inside : dentroTras general false (s.frente formato) with
  | none => simp [ultimo]
  | some dentro =>
    simp only [rest dentro, ultimo_append, Option.or_assoc]
    cases dentro with
    | false => simp [ultimo]
    | true => simp [ultimo_nueva]

theorem observa_valor {ruta : List Char} (visible : strip (plano ruta) ≠ []) :
    Observa (evidenciaDe (valorDe (plano ruta))) ruta := by
  obtain ⟨bytes, read, same⟩ := desescapar_codificar ruta
  have start : prefijoByteArray.isPrefixOf (strip (valorDe (plano ruta))) = true := by
    rw [valorDe, strip_codificar, List.isPrefixOf_iff_prefix]
    exact ⟨plano (piezas false ((plano ruta).flatMap encodePass) ++ [')']),
      by simp [codificarQtByteArray, plano, prefijoByteArray]⟩
  rw [evidenciaDe, if_pos start, valorDe, interior_codificar]
  dsimp only
  rw [read]
  dsimp only
  rw [same, evidenciaDeRuta, if_neg visible]
  exact ⟨rfl, rfl⟩

/-- Decoding the edited file gives its lines, after the mark. -/
theorem decode_hecho {contenido : Bytes} {formato : FormatoIni} {s : Sitio}
    (lugar : Lugar formato (lineasDe contenido) s) (ruta : Texto) :
    decode (conMarca formato (bytesDe (unir (s.hecho (valorDe ruta) formato)))) =
      marcaDe formato ++ unir (s.hecho (valorDe ruta) formato) := by
  have survive := survives_hecho lugar (survives_lineasDe contenido) ruta
  have read := decode_bytesDe (survives_unir.mpr survive)
  unfold conMarca marcaDe
  split
  · rw [IniEditor.decode_bom, read]
    rfl
  · rw [read]
    rfl

theorem observa_iff {brutas : List Texto} {ruta : List Char} {bytes : Bytes}
    (lines : splitlines (decode bytes) = brutas) :
    Observa (leerGamePathDeMo2 (.ok bytes)) ruta ↔
      ∃ crudo, ultimo claveGamePath (leerSeccion general false brutas) = some crudo ∧
        Observa (evidenciaDe crudo) ruta := by
  subst lines
  unfold leerGamePathDeMo2
  dsimp only
  split
  · next crudo found => simp [found]
  · next missing =>
    rw [missing]
    constructor
    · intro seen
      split at seen <;> cases seen.1
    · rintro ⟨_, ⟨⟩, _⟩

theorem releida_iff {s : Sitio} {formato : FormatoIni} {ruta : List Char}
    (visible : strip (plano ruta) ≠ []) :
    s.Releida formato ruta ↔ ∃ crudo, (s.posterior formato).or
      ((if dentroTras general false (s.frente formato) = some true ∧ s.exacta = true
        then some (valorDe (plano ruta)) else none).or
      (ultimo claveGamePath (leerSeccion general false (s.frente formato)))) = some crudo ∧
        Observa (evidenciaDe crudo) ruta := by
  unfold Sitio.Releida
  cases s.posterior formato with
  | some crudo => simp
  | none =>
    by_cases reached : dentroTras general false (s.frente formato) = some true ∧ s.exacta = true
    · simp [reached, observa_valor visible]
    · simp only [if_neg reached, Option.none_or]
      constructor
      · rintro (now | before)
        · exact absurd now reached
        · exact before
      · exact .inr

theorem uniforme_ultima {crlf : Bool} {lineas : List Texto} (uniforme : Uniforme crlf lineas) :
    ∀ l ∈ lineas.getLast?, l.getLast? ≠ some (.scalar '\r') := by
  induction lineas with
  | nil => nofun
  | cons l lineas ih =>
    cases lineas with
    | nil =>
      rintro _ ⟨⟩
      exact getLast_limpio uniforme
    | cons m lineas =>
      rw [List.getLast?_cons_cons]
      exact ih uniforme.2

/-- A line added after the last one of a CRLF file that does not end it is not verified. -/
theorem prever_sinTerminar {contenido : Bytes} {formato : FormatoIni}
    (admitida : Admitida contenido formato) {s : Sitio}
    (lugar : Lugar formato (lineasDe contenido) s) (unterminated : s.sinTerminar formato = true)
    (ruta : Texto) : ∃ e, preverBytes contenido ruta = .error e := by
  obtain ⟨r, e, built, failed⟩ := construir_sinTerminar lugar (lineasDe_ne_nil contenido)
    (uniforme_ultima admitida.uniforme) unterminated (valorDe ruta)
  refine ⟨e, ?_⟩
  unfold preverBytes
  rw [admitir_iff.mpr admitida]
  simp only [bind, Except.bind, built, failed]

/-- For every file of an admitted format and every visible path, the edit is made, is that of
one line, is read back and is left alone by a second one if and only if the line is not added
after the last line of a CRLF file that does not end it, and the reader takes its value. -/
theorem game_path_fiel {contenido : Bytes} {formato : FormatoIni}
    (admitido : admitirFormatoIni contenido = .ok formato) {ruta : List Char}
    (visible : strip (plano ruta) ≠ []) :
    (∃ despues, Editado contenido ruta despues) ↔
      (sitio formato (lineasDe contenido)).sinTerminar formato = false ∧
      (sitio formato (lineasDe contenido)).Releida formato ruta := by
  have admitida := admitir_iff.mp admitido
  have lugar := lugar_sitio formato (lineasDe contenido)
  cases terminated : (sitio formato (lineasDe contenido)).sinTerminar formato with
  | true =>
    obtain ⟨e, failed⟩ := prever_sinTerminar admitida lugar terminated (plano ruta)
    simp only [reduceCtorEq, false_and, iff_false, not_exists]
    intro despues editado
    rw [editado.prevista] at failed
    cases failed
  | false =>
    obtain ⟨made, again⟩ := prever_hecho admitida lugar terminated (plano ruta)
    have read := @observa_iff _ ruta _ (congrArg splitlines (decode_hecho lugar (plano ruta)))
    rw [ultimo_hecho lugar (plano ruta), ← releida_iff visible] at read
    simp only [true_and]
    constructor
    · rintro ⟨despues, editado⟩
      obtain rfl := Except.ok.inj (editado.prevista.symm.trans made)
      exact read.mp editado.leida
    · intro releida
      obtain ⟨mark, body⟩ := cuerpo_hecho admitida lugar (plano ruta)
      refine ⟨_, made, ?_, ?_, read.mpr releida, again⟩
      · rw [mark, admitida.marca]
      · rw [body]
        exact solo_hecho admitida lugar terminated (plano ruta)

def ascii (s : String) : Bytes := s.toList.map fun c => .ofNat c.toNat

def iniPlano : Bytes := ascii "[General]\r\ngamePath=old\r\n[Settings]\r\n"

def rutaNueva : List Char := "C:\\Mods".toList

theorem game_path_plano : ∃ despues, Editado iniPlano rutaNueva despues := by
  have admitido : admitirFormatoIni iniPlano = .ok ⟨false, true⟩ := by decide +kernel
  have later : (sitio ⟨false, true⟩ (lineasDe iniPlano)).posterior ⟨false, true⟩ = none := by
    decide +kernel
  refine (game_path_fiel admitido (by decide +kernel)).mpr ⟨by decide +kernel, ?_⟩
  rw [Sitio.Releida, later]
  exact .inl ⟨by decide +kernel, by decide +kernel⟩

/-- A CRLF file that does not end its last line, and one with two lines of `gamePath`. -/
theorem game_path_no_leido :
    (admitirFormatoIni (ascii "[General]\r\na=1") = .ok ⟨false, true⟩ ∧
      ¬ ∃ despues, Editado (ascii "[General]\r\na=1") rutaNueva despues) ∧
    (admitirFormatoIni (ascii "[General]\ngamePath=a\ngamePath=b") = .ok ⟨false, false⟩ ∧
      ¬ ∃ despues, Editado (ascii "[General]\ngamePath=a\ngamePath=b") rutaNueva despues) := by
  refine ⟨⟨by decide +kernel, ?_⟩, by decide +kernel, ?_⟩
  · rintro ⟨despues, editado⟩
    have failed : preverBytes (ascii "[General]\r\na=1") (plano rutaNueva) =
        .error (.lineasAjenas 2 3 [2]) := by decide +kernel
    cases editado.prevista.symm.trans failed
  · rintro ⟨despues, editado⟩
    have made : preverBytes (ascii "[General]\ngamePath=a\ngamePath=b") (plano rutaNueva) =
        .ok (ascii "[General]\ngamePath=@ByteArray(C:\\\\Mods)\ngamePath=b") := by decide +kernel
    obtain rfl := Except.ok.inj (editado.prevista.symm.trans made)
    have read : (leerGamePathDeMo2 (.ok
        (ascii "[General]\ngamePath=@ByteArray(C:\\\\Mods)\ngamePath=b"))).path =
          some (plano ['b']) := by decide +kernel
    have seen := editado.leida.2
    rw [read] at seen
    exact absurd seen (by decide +kernel)

end GamePathEdits
