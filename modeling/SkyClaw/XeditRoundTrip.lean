import Mathlib.Data.List.Flatten
import Mathlib.Data.List.Perm.Basic
import Mathlib.Tactic.NormNum
import SkyClaw.XeditExactness

set_option linter.all false

/-!
The round trip of the conflict protocol through the log, and when it is exact.
-/
namespace XeditConflicts
open TrimmedText TextLines

/-! The log -/

/-- A line of the protocol: one word in capitals, a bar and no line break. -/
structure Protocolar (l : Texto) : Prop where
  protocolo : esProtocolo l = true
  entera : ∀ c ∈ l, esSalto c = false

theorem Protocolar.head {l : Texto} (p : Protocolar l) :
    ∃ c t, l = c :: t ∧ isspace c = false ∧ c ≠ '[' := by
  have word := p.protocolo
  cases l with
  | nil => cases word
  | cons c t =>
    refine ⟨c, t, rfl, ?_⟩
    simp only [esProtocolo, Bool.and_eq_true, esMayuscula, decide_eq_true_eq] at word
    have low : 65 ≤ c.toNat := word.1.1
    have high : c.toNat ≤ 90 := word.1.2
    constructor
    · simp only [isspace, Bool.or_eq_false_iff, Bool.and_eq_false_iff, decide_eq_false_iff_not]
      omega
    · intro same
      subst same
      revert high
      decide

theorem esDigito_isDigit {c : Char} (ascii : c.isDigit = true) : esDigito c = true := by
  rw [esDigito, digito_isDigit ascii]
  rfl

theorem trasDigitos_append {desde hasta : Nat} {ds t : Texto} {c : Char}
    (digits : ∀ d ∈ ds, d.isDigit = true) (stop : esDigito c = false)
    (enough : desde ≤ ds.length) (few : ds.length ≤ hasta) :
    trasDigitos desde hasta (ds ++ c :: t) = some (c :: t) := by
  have all : ∀ d ∈ ds, esDigito d = true := fun d hd => esDigito_isDigit (digits d hd)
  have run : (ds ++ c :: t).takeWhile esDigito = ds := by
    rw [List.takeWhile_append_of_pos all]
    simp [stop]
  have rest : (ds ++ c :: t).dropWhile esDigito = c :: t := by
    rw [List.dropWhile_append_of_pos all]
    simp [stop]
  rw [trasDigitos, run, rest, if_pos ⟨enough, few⟩]

theorem quitaMarca_sin {l : Texto} (p : Protocolar l) : quitaMarca l = l := by
  obtain ⟨c, t, rfl, _, other⟩ := p.head
  simp [quitaMarca, trasMarca, trasCaracter, other]

/-- The time in front of a protocol line is taken away. -/
theorem quitaMarca_con (m : Marca) {l : Texto} (p : Protocolar l) : quitaMarca (m.texto ++ l) = l := by
  obtain ⟨c, t, same, solid, _⟩ := p.head
  have spaces : ∀ d ∈ List.replicate (m.espacios + 1) ' ', isspace d = true := by
    intro d hd
    rw [List.eq_of_mem_replicate hd]
    rfl
  have taken : (List.replicate (m.espacios + 1) ' ' ++ l).takeWhile isspace ≠ [] := by
    rw [List.takeWhile_append_of_pos spaces]
    simp
  have dropped : (List.replicate (m.espacios + 1) ' ' ++ l).dropWhile isspace = l := by
    rw [List.dropWhile_append_of_pos spaces, same]
    simp [solid]
  have digits := m.digitos
  have hour : ∀ d ∈ m.hora, d.isDigit = true := fun d hd => digits d (by simp [hd])
  have minute : ∀ d ∈ m.minuto, d.isDigit = true := fun d hd => digits d (by simp [hd])
  have hour_short : 1 ≤ m.hora.length ∧ m.hora.length ≤ 2 := by
    cases m.horaCorta <;> omega
  have colon : esDigito ':' = false := by decide
  have bracket : esDigito ']' = false := by decide
  have tail : ∀ rest, rest = ']' :: (List.replicate (m.espacios + 1) ' ' ++ l) →
      (trasCaracter ']' rest).bind (fun t => if t.takeWhile isspace = [] then none
        else if esProtocolo (t.dropWhile isspace) then some (t.dropWhile isspace) else none) = some l := by
    intro rest shape
    rw [shape]
    simp only [trasCaracter, if_true, Option.bind_some, if_neg taken, dropped, p.protocolo]
  have matched : trasMarca (m.texto ++ l) = some l := by
    have doubled := m.segundoDoble
    cases sec : m.segundo with
    | none =>
      have shape : m.texto ++ l = '[' :: (m.hora ++ ':' :: (m.minuto ++
          ']' :: (List.replicate (m.espacios + 1) ' ' ++ l))) := by
        simp [Marca.texto, sec]
      have no_seconds : trasCaracter ':' (']' :: (List.replicate (m.espacios + 1) ' ' ++ l)) = none := by
        simp [trasCaracter]
      rw [shape, trasMarca]
      simp only [trasCaracter, if_true, Option.bind_eq_bind, Option.bind_some,
        trasDigitos_append hour colon hour_short.1 hour_short.2,
        trasDigitos_append minute bracket m.minutoDoble.ge m.minutoDoble.le]
      rw [if_neg (by decide)]
      simpa [trasCaracter] using tail _ rfl
    | some s =>
      have second : ∀ d ∈ s, d.isDigit = true := fun d hd => digits d (by simp [sec, hd])
      have two : s.length = 2 := doubled s (by simp [sec])
      have shape : m.texto ++ l = '[' :: (m.hora ++ ':' :: (m.minuto ++ ':' :: (s ++
          ']' :: (List.replicate (m.espacios + 1) ' ' ++ l)))) := by
        simp [Marca.texto, sec]
      rw [shape, trasMarca]
      simp only [trasCaracter, if_true, Option.bind_eq_bind, Option.bind_some,
        trasDigitos_append hour colon hour_short.1 hour_short.2,
        trasDigitos_append minute colon m.minutoDoble.ge m.minutoDoble.le,
        trasDigitos_append second bracket two.ge two.le, Option.getD_some]
      simpa [trasCaracter] using tail _ rfl
  rw [quitaMarca, matched]
  rfl

theorem entera_marca (m : Marca) : ∀ c ∈ m.texto, esSalto c = false := by
  have digit : ∀ d : Char, d.isDigit = true → esSalto d = false := by
    intro d ascii
    by_contra brk
    have blank := isspace_of_esSalto (by simpa using brk)
    rw [solid_isDigit ascii] at blank
    cases blank
  intro c mem
  simp only [Marca.texto, List.mem_append, List.mem_singleton] at mem
  obtain (((((same | hour) | same) | minute) | second) | same) | space := mem
  · subst same
    rfl
  · exact digit c (m.digitos c (by simp [hour]))
  · subst same
    rfl
  · exact digit c (m.digitos c (by simp [minute]))
  · split at second
    · next s sec =>
      cases List.mem_cons.mp second with
      | inl same =>
        subst same
        rfl
      | inr inside => exact digit c (m.digitos c (by simp [sec, inside]))
    · cases second
  · subst same
    rfl
  · rw [List.eq_of_mem_replicate space]
    rfl

theorem entera_cuerpo {r : Renglon} (entera : ∀ c ∈ r.linea, esSalto c = false) :
    ∀ c ∈ r.cuerpo, esSalto c = false := by
  intro c mem
  unfold Renglon.cuerpo at mem
  cases mark : r.marca with
  | none =>
    rw [mark] at mem
    exact entera c (by simpa using mem)
  | some m =>
    rw [mark] at mem
    cases List.mem_append.mp mem with
    | inl inside => exact entera_marca m c inside
    | inr inside => exact entera c inside

theorem splitlines_textoDe {registro : List Renglon}
    (enteras : ∀ r ∈ registro, ∀ c ∈ r.linea, esSalto c = false) :
    splitlines (textoDe registro) = registro.map Renglon.cuerpo := by
  induction registro with
  | nil => rfl
  | cons r registro ih =>
    rw [List.forall_mem_cons] at enteras
    have joined : textoDe (r :: registro) =
        r.cuerpo ++ ((if r.crlf then ['\r', '\n'] else ['\n']) ++ textoDe registro) := by
      simp [textoDe]
    rw [joined, splitlines_line (entera_cuerpo enteras.1), ih enteras.2, List.map_cons]

theorem quitaMarca_cuerpo {r : Renglon} (p : Protocolar r.linea) :
    quitaMarca (r.cuerpo.rdropWhile (· = '\r')) = r.linea := by
  have no_return : ∀ c ∈ r.cuerpo, c ≠ '\r' := by
    intro c mem same
    have whole := entera_cuerpo p.entera c mem
    subst same
    cases whole
  have kept : r.cuerpo.rdropWhile (· = '\r') = r.cuerpo := by
    rw [List.rdropWhile_eq_self_iff]
    intro nonempty
    simpa using no_return _ (List.getLast_mem nonempty)
  rw [kept]
  unfold Renglon.cuerpo
  cases r.marca with
  | none => exact quitaMarca_sin p
  | some m => exact quitaMarca_con m p

theorem strip_ne_nil_of_mem {t : Texto} {c : Char} (mem : c ∈ t) (solid : isspace c = false) :
    strip isspace t ≠ [] := by
  intro gone
  have front : t.dropWhile isspace ≠ [] := by
    rw [Ne, List.dropWhile_eq_nil_iff]
    intro all
    have := all c mem
    rw [solid] at this
    cases this
  rw [strip, List.rdropWhile_eq_nil_iff] at gone
  have head := head_dropWhile (Option.mem_def.mpr (List.head?_eq_some_head front))
  rw [gone _ (List.head_mem front)] at head
  cases head

/-- What the analyzer gets from the log of protocol lines: those lines. -/
theorem splitlines_merge {registro : List Renglon} (ps : ∀ r ∈ registro, Protocolar r.linea)
    {stdout : Texto} (written : registro ≠ [] ∨ stdout = []) :
    splitlines (mergeProtocolOutput stdout (textoDe registro)) = registro.map Renglon.linea := by
  have enteras : ∀ r ∈ registro, ∀ c ∈ r.linea, esSalto c = false := fun r hr => (ps r hr).entera
  have nonblank : registro ≠ [] → strip isspace (textoDe registro) ≠ [] := by
    intro some_
    obtain ⟨r, rest, same⟩ := List.exists_cons_of_ne_nil some_
    obtain ⟨c, t, line, solid, _⟩ := (ps r (by simp [same])).head
    have mem : c ∈ textoDe registro := by
      simp only [same, textoDe, List.flatMap_cons, List.mem_append, Renglon.cuerpo, line]
      simp
    exact strip_ne_nil_of_mem mem solid
  have source : (if strip isspace (textoDe registro) ≠ [] then textoDe registro else stdout) =
      textoDe registro := by
    by_cases none_ : registro = []
    · have empty : stdout = [] := written.resolve_left (fun some_ => some_ none_)
      rw [empty, none_]
      rfl
    · rw [if_pos (nonblank none_)]
  have lines : (registro.map Renglon.cuerpo).map (fun l => quitaMarca (l.rdropWhile (· = '\r'))) =
      registro.map Renglon.linea := by
    rw [List.map_map]
    exact List.map_congr_left fun r hr => quitaMarca_cuerpo (ps r hr)
  unfold mergeProtocolOutput
  simp only [source]
  rw [splitlines_textoDe enteras, lines, splitlines_intercalate]
  · intro l hl
    obtain ⟨r, hr, rfl⟩ := List.mem_map.mp hl
    exact enteras r hr
  · intro l hl
    obtain ⟨r, hr, rfl⟩ := List.mem_map.mp hl
    obtain ⟨c, t, same, _, _⟩ := (ps r hr).head
    simp [same]

theorem splitlines_directo {registro : List Renglon} (ps : ∀ r ∈ registro, Protocolar r.linea)
    (unmarked : ∀ r ∈ registro, r.marca = none) :
    splitlines (textoDe registro) = registro.map Renglon.linea := by
  rw [splitlines_textoDe fun r hr => (ps r hr).entera]
  apply List.map_congr_left
  intro r hr
  simp [Renglon.cuerpo, unmarked r hr]

/-! Exactness -/

theorem hexMayus_injective : ∀ a b : Fin 16, hexMayus a = hexMayus b → a = b := by decide

/-- Two form ids written alike are the same. -/
theorem intToHex_injective {m n : UInt32} (same : intToHex m = intToHex n) : m = n := by
  have digits : ∀ k ∈ [7, 6, 5, 4, 3, 2, 1, 0], m.toNat / 16 ^ k % 16 = n.toNat / 16 ^ k % 16 := by
    intro k mem
    have written := List.map_inj_left.mp same k mem
    have equal := hexMayus_injective ⟨m.toNat / 16 ^ k % 16, Nat.mod_lt _ (by omega)⟩
      ⟨n.toNat / 16 ^ k % 16, Nat.mod_lt _ (by omega)⟩ written
    exact congrArg Fin.val equal
  simp only [List.forall_mem_cons] at digits
  obtain ⟨d7, d6, d5, d4, d3, d2, d1, d0, _⟩ := digits
  have bound_m := m.toNat_lt
  have bound_n := n.toNat_lt
  apply UInt32.toNat_inj.mp
  norm_num at d7 d6 d5 d4 d3 d2 d1 d0
  omega

def banderasDeRecord (e : MainRecord) : List (Texto × OverrideFlagState) :=
  e.estados.map fun f => (e.fid, f)

theorem estadosDe_append (l m : List (Texto × OverrideFlagState)) (fid : Texto) :
    estadosDe (l ++ m) fid = estadosDe l fid ++ estadosDe m fid := by
  simp [estadosDe]

theorem estadosDe_record (e : MainRecord) (fid : Texto) :
    estadosDe (banderasDeRecord e) fid = if e.fid = fid then e.estados else [] := by
  unfold estadosDe banderasDeRecord
  rw [List.filter_map]
  split
  · next same =>
    have all : e.estados.filter ((fun p => decide (p.1 = fid)) ∘ fun f => (e.fid, f)) = e.estados := by
      rw [List.filter_eq_self]
      intro f _
      simpa using same
    rw [all, List.map_map]
    exact List.map_id _
  · next other =>
    have nobody : e.estados.filter ((fun p => decide (p.1 = fid)) ∘ fun f => (e.fid, f)) = [] := by
      rw [List.filter_eq_nil_iff]
      intro f _
      simpa using other
    rw [nobody]
    rfl

theorem estadosDe_eq_nil {es : List MainRecord} {fid : Texto}
    (silent : ∀ e ∈ es, e.fid = fid → e.estados = []) :
    estadosDe (es.flatMap banderasDeRecord) fid = [] := by
  induction es with
  | nil => rfl
  | cons a es ih =>
    rw [List.forall_mem_cons] at silent
    rw [List.flatMap_cons, estadosDe_append, ih silent.2, estadosDe_record, List.append_nil]
    split
    · next same => exact silent.1 same
    · rfl

/-- With records told apart by their form id, each gets back its own flags. -/
theorem estadosDe_propios {es : List MainRecord} {e : MainRecord} (mem : e ∈ es)
    (separados : es.Pairwise fun a b => a.formId = b.formId → a.estados = [] ∧ b.estados = []) :
    estadosDe (es.flatMap banderasDeRecord) e.fid = e.estados := by
  induction es with
  | nil => cases mem
  | cons a es ih =>
    rw [List.pairwise_cons] at separados
    rw [List.flatMap_cons, estadosDe_append, estadosDe_record]
    cases List.mem_cons.mp mem with
    | inl first =>
      subst first
      have rest : estadosDe (es.flatMap banderasDeRecord) e.fid = [] := by
        apply estadosDe_eq_nil
        intro b hb same
        exact (separados.1 b hb (intToHex_injective same).symm).2
      rw [rest, if_pos rfl, List.append_nil]
    | inr later =>
      rw [ih later separados.2]
      split
      · next same =>
        rw [(separados.1 e later (intToHex_injective same)).1]
        rfl
      · rfl

theorem protocolar_resumen (total critical minor : Nat) : Protocolar (lineaResumen total critical minor) := by
  refine ⟨?_, (leer_lineaResumen total critical minor).1⟩
  rw [lineaResumen, une_cons]
  rfl

section Transcrito
variable {records : List MainRecord} (t : CamposLegibles records)
include t

theorem leida_linea {e : MainRecord} (mem : e ∈ emitidos records)
    (flags : List (Texto × OverrideFlagState)) :
    (∀ c ∈ e.linea, esSalto c = false) ∧ leerConflict flags (strip isspace e.linea) =
      some { e.conflicto with flagStates := estadosDe flags e.fid } :=
  leerConflict_linea (List.mem_filter.mp mem).2 (t.editor e mem) (t.firma e mem) (t.ganador e mem)
    (t.perdedores e mem) flags

theorem leida_flag {e : MainRecord} (mem : e ∈ emitidos records) {f : OverrideFlagState}
    (state : f ∈ e.estados) : (∀ c ∈ lineaFlag e.fid f, esSalto c = false) ∧
      leerFlag (strip isspace (lineaFlag e.fid f)) = some (e.fid, f) :=
  leerFlag_lineaFlag (legible_intToHex _) (esFormId_intToHex _) (t.estados e mem f state)
    (mem_estados state).1

/-- Each line of a record is read as what it was written for and as nothing else. -/
theorem lineas_leidas {e : MainRecord} (mem : e ∈ emitidos records) {l : Texto} (line : l ∈ e.lineas) :
    Protocolar l ∧ marcaSummary.isPrefixOf (strip isspace l) = false ∧
    ((l = e.linea ∧ marcaConflict.isPrefixOf l = true ∧ leerFlag (strip isspace l) = none) ∨
      (marcaConflict.isPrefixOf l = false ∧
        ∀ flags, leerConflict flags (strip isspace l) = none)) := by
  cases List.mem_cons.mp line with
  | inl first =>
    subst first
    obtain ⟨rest, same⟩ := linea_head e
    have word : e.linea = "CONFLICT".toList ++ '|' :: ['|'].intercalate [e.fid, e.editorId, e.signature,
        e.ganador, [','].intercalate e.perdedores] := by
      rw [MainRecord.linea, une_cons]
      rfl
    refine ⟨⟨?_, (leida_linea t mem []).1⟩, ?_, .inl ⟨rfl, ?_, ?_⟩⟩
    · rw [word]
      rfl
    · rw [same]
      exact resumen_ajena rfl (by decide)
    · rw [MainRecord.linea, une_cons, ← List.append_assoc, ← marcaConflict_eq]
      exact List.isPrefixOf_iff_prefix.mpr (List.prefix_append _ _)
    · rw [same]
      exact leerFlag_ajena rfl (by decide)
  | inr flag =>
    obtain ⟨f, state, rfl⟩ := List.mem_map.mp flag
    obtain ⟨rest, same⟩ := lineaFlag_head e.fid f
    have word : lineaFlag e.fid f = "FLAG".toList ++ '|' :: ['|'].intercalate [e.fid, f.plugin, f.flag,
        if f.value then ['1'] else ['0']] := by
      rw [lineaFlag, une_cons]
      rfl
    refine ⟨⟨?_, (leida_flag t mem state).1⟩, ?_, .inr ⟨?_, ?_⟩⟩
    · rw [word]
      rfl
    · rw [same]
      exact resumen_ajena rfl (by decide)
    · rw [same]
      exact not_prefix_of_head (by decide)
    · rw [same]
      exact leerConflict_ajena rfl (by decide)

/-- The flags and the conflicts read from the lines of the emitted records. -/
theorem leidas_record {e : MainRecord} (mem : e ∈ emitidos records) :
    banderasDe e.lineas = banderasDeRecord e ∧
    ∀ flags, e.lineas.filterMap (fun l => leerConflict flags (strip isspace l)) =
      [{ e.conflicto with flagStates := estadosDe flags e.fid }] := by
  have first := lineas_leidas t mem (l := e.linea) List.mem_cons_self
  have no_flag : leerFlag (strip isspace e.linea) = none := by
    obtain ⟨_, _, no⟩ | ⟨marked, _⟩ := first.2.2
    · exact no
    · obtain ⟨rest, same⟩ := linea_head e
      rw [same]
      exact leerFlag_ajena rfl (by decide)
  constructor
  · have rest : ∀ fs : List OverrideFlagState, (∀ f ∈ fs, f ∈ e.estados) →
        banderasDe (fs.map (lineaFlag e.fid)) = fs.map fun f => (e.fid, f) := by
      intro fs inside
      induction fs with
      | nil => rfl
      | cons f fs ih =>
        rw [List.forall_mem_cons] at inside
        have head := (leida_flag t mem inside.1).2
        have tail := ih inside.2
        unfold banderasDe at tail ⊢
        rw [List.map_cons, List.filterMap_cons, head, tail]
        rfl
    have whole := rest e.estados fun f hf => hf
    unfold banderasDe at whole ⊢
    rw [MainRecord.lineas, List.filterMap_cons, no_flag]
    exact whole
  · intro flags
    have rest : ∀ fs : List OverrideFlagState,
        (fs.map (lineaFlag e.fid)).filterMap (fun l => leerConflict flags (strip isspace l)) = [] := by
      intro fs
      rw [List.filterMap_eq_nil_iff]
      intro l hl
      obtain ⟨f, _, rfl⟩ := List.mem_map.mp hl
      obtain ⟨u, same⟩ := lineaFlag_head e.fid f
      rw [same]
      exact leerConflict_ajena rfl (by decide) flags
    rw [MainRecord.lineas, List.filterMap_cons, (leida_linea t mem flags).2, rest]

theorem leidas_records (es : List MainRecord) (inside : ∀ e ∈ es, e ∈ emitidos records) :
    banderasDe (es.flatMap MainRecord.lineas) = es.flatMap banderasDeRecord ∧
    ∀ flags, (es.flatMap MainRecord.lineas).filterMap (fun l => leerConflict flags (strip isspace l)) =
      es.map fun e => { e.conflicto with flagStates := estadosDe flags e.fid } := by
  induction es with
  | nil => exact ⟨rfl, fun _ => rfl⟩
  | cons e es ih =>
    rw [List.forall_mem_cons] at inside
    obtain ⟨flags_e, conflict_e⟩ := leidas_record t inside.1
    obtain ⟨flags_es, conflict_es⟩ := ih inside.2
    constructor
    · unfold banderasDe at flags_e flags_es ⊢
      rw [List.flatMap_cons, List.filterMap_append, flags_e, flags_es, List.flatMap_cons]
    · intro flags
      rw [List.flatMap_cons, List.filterMap_append, conflict_e, conflict_es]
      rfl

theorem conflictosDe_script : conflictosDe (listAllConflicts records) =
    (emitidos records).map fun e =>
      { e.conflicto with
        flagStates := estadosDe ((emitidos records).flatMap banderasDeRecord) e.fid } := by
  obtain ⟨critical, minor, lines⟩ := listAllConflicts_eq records
  obtain ⟨flags, conflicts⟩ := leidas_records t (emitidos records) fun e he => he
  obtain ⟨u, head⟩ := lineaResumen_head (emitidos records).length critical minor
  have all_flags : banderasDe (listAllConflicts records) = (emitidos records).flatMap banderasDeRecord := by
    rw [lines, head]
    unfold banderasDe at flags ⊢
    rw [List.filterMap_append, flags, List.filterMap_cons, leerFlag_ajena rfl (by decide)]
    simp
  rw [conflictosDe, all_flags, lines, List.filterMap_append, conflicts, head, List.filterMap_cons,
    leerConflict_ajena rfl (by decide)]
  simp

/-- The lines of a run, one by one: what each is for. -/
theorem lineas_script : ∃ resumen, (∃ es, listAllConflicts records = es ++ [resumen] ∧
      ∀ l ∈ es, marcaSummary.isPrefixOf (strip isspace l) = false ∧ marcaSummary.isPrefixOf l = false) ∧
    marcaConflict.isPrefixOf resumen = false ∧
    marcaSummary.isPrefixOf (strip isspace resumen) = true ∧
    ((((strip isspace resumen).splitOn '|').tail.filterMap leerCuenta).reverse.lookup
      totalConflictsKey) = some ((emitidos records).length : Int) ∧
    ∀ l ∈ listAllConflicts records, Protocolar l ∧
      ∀ flags, (leerConflict flags (strip isspace l)).isSome = marcaConflict.isPrefixOf l := by
  obtain ⟨critical, minor, lines⟩ := listAllConflicts_eq records
  obtain ⟨u, head⟩ := lineaResumen_head (emitidos records).length critical minor
  have summary := leer_lineaResumen (emitidos records).length critical minor
  have not_conflict : marcaConflict.isPrefixOf (lineaResumen (emitidos records).length critical minor) = false := by
    rw [head]
    exact not_prefix_of_head (by decide)
  refine ⟨_, ⟨_, lines, ?_⟩, not_conflict, summary.2.1, summary.2.2, ?_⟩
  · intro l hl
    obtain ⟨e, he, line⟩ := List.mem_flatMap.mp hl
    refine ⟨(lineas_leidas t he line).2.1, ?_⟩
    cases List.mem_cons.mp line with
    | inl first =>
      obtain ⟨v, same⟩ := linea_head e
      rw [first, same]
      exact not_prefix_of_head (by decide)
    | inr flag =>
      obtain ⟨f, _, rfl⟩ := List.mem_map.mp flag
      obtain ⟨v, same⟩ := lineaFlag_head e.fid f
      rw [same]
      exact not_prefix_of_head (by decide)
  · intro l hl
    rw [lines] at hl
    cases List.mem_append.mp hl with
    | inl record =>
      obtain ⟨e, he, line⟩ := List.mem_flatMap.mp record
      obtain ⟨shape, _, ⟨rfl, marked, _⟩ | ⟨other, none_⟩⟩ := lineas_leidas t he line
      · refine ⟨shape, fun flags => ?_⟩
        rw [(leida_linea t he flags).2, marked]
        rfl
      · refine ⟨shape, fun flags => ?_⟩
        rw [none_ flags, other]
        rfl
    | inr last =>
      rw [List.mem_singleton] at last
      subst last
      refine ⟨protocolar_resumen _ _ _, fun flags => ?_⟩
      rw [not_conflict, head, leerConflict_ajena rfl (by decide)]
      rfl

end Transcrito

theorem length_conflictosDe {ls : List Texto} (read : ∀ l ∈ ls, ∀ flags,
      (leerConflict flags (strip isspace l)).isSome = marcaConflict.isPrefixOf l) :
    (conflictosDe ls).length = ls.countP (marcaConflict.isPrefixOf ·) := by
  rw [conflictosDe, List.length_filterMap_eq_countP]
  exact List.countP_congr fun l hl => by rw [read l hl]

/-- `analyze` raises when the summary is missing or disagrees with what was read. -/
theorem analyze_error (self : ConflictAnalyzer) (success : Bool) (text : Texto)
    (wrong : (cuentasDe (splitlines text)).reverse.lookup totalConflictsKey ≠
      some ((conflictosDe (splitlines text)).length : Int)) :
    ∃ e, self.analyze ⟨success, text⟩ = .error e := by
  unfold ConflictAnalyzer.analyze
  cases success with
  | false => exact ⟨_, rfl⟩
  | true =>
    simp only [Bool.not_true, Bool.false_eq_true, if_false, parseSummaryLine_eq, parseConflictLines_eq]
    cases found : (cuentasDe (splitlines text)).reverse.lookup totalConflictsKey with
    | none => exact ⟨_, rfl⟩
    | some total =>
      rw [found] at wrong
      have different : total ≠ (conflictosDe (splitlines text)).length := fun same => wrong (by rw [same])
      exact ⟨_, if_pos different⟩

theorem eraseIdx_perm {l : List Texto} {k : Nat} {a : Texto} (at_k : l[k]? = some a) :
    (a :: l.eraseIdx k).Perm l := by
  obtain ⟨inside, same⟩ := List.getElem?_eq_some_iff.mp at_k
  exact same ▸ List.getElem_cons_eraseIdx_perm inside

/-- The accounts of a run that has lost an essential line do not agree. -/
theorem cuentas_truncadas {records : List MainRecord} (t : CamposLegibles records) {k : Nat} {l : Texto}
    (at_k : (listAllConflicts records)[k]? = some l) (lost : esencial l = true) :
    (cuentasDe ((listAllConflicts records).eraseIdx k)).reverse.lookup totalConflictsKey ≠
      some ((conflictosDe ((listAllConflicts records).eraseIdx k)).length : Int) := by
  obtain ⟨resumen, ⟨es, lines, no_summary⟩, not_conflict, summary, total, read⟩ := lineas_script t
  have perm := eraseIdx_perm at_k
  have whole : (listAllConflicts records).countP (marcaConflict.isPrefixOf ·) = (emitidos records).length := by
    rw [← length_conflictosDe fun m hm => (read m hm).2, conflictosDe_script t, List.length_map]
  have one : (listAllConflicts records).countP (fun m => marcaSummary.isPrefixOf (strip isspace m)) = 1 := by
    rw [lines, List.countP_append, List.countP_singleton, if_pos summary,
      List.countP_eq_zero.mpr fun m hm => by simp [(no_summary m hm).1]]
  have left_read : ∀ m ∈ (listAllConflicts records).eraseIdx k, m ∈ listAllConflicts records :=
    fun m hm => perm.subset (List.mem_cons_of_mem _ hm)
  rw [length_conflictosDe fun m hm => (read m (left_read m hm)).2]
  have conflicts := perm.countP_eq (marcaConflict.isPrefixOf ·)
  have summaries := perm.countP_eq (fun m => marcaSummary.isPrefixOf (strip isspace m))
  rw [List.countP_cons] at conflicts summaries
  simp only [esencial, Bool.or_eq_true] at lost
  have member : l ∈ es ++ [resumen] := lines ▸ List.mem_of_getElem? at_k
  cases lost with
  | inl conflict =>
    -- the summary is still there and tells one conflict more than is read
    have other : l ≠ resumen := by
      intro same
      rw [same, not_conflict] at conflict
      cases conflict
    have still : resumen ∈ (listAllConflicts records).eraseIdx k := by
      have mem : resumen ∈ l :: (listAllConflicts records).eraseIdx k :=
        perm.symm.subset (by rw [lines]; simp)
      exact (List.mem_cons.mp mem).resolve_left (Ne.symm other)
    have account : cuentasDe ((listAllConflicts records).eraseIdx k) =
        ((strip isspace resumen).splitOn '|').tail.filterMap leerCuenta := by
      unfold cuentasDe
      cases found : (((listAllConflicts records).eraseIdx k).map (strip isspace)).find?
          fun m => marcaSummary.isPrefixOf m with
      | none =>
        rw [List.find?_eq_none] at found
        exact absurd summary (found _ (List.mem_map_of_mem still))
      | some m =>
        have marked := List.find?_some found
        obtain ⟨m', inside, rfl⟩ := List.mem_map.mp (List.mem_of_find?_eq_some found)
        have place : m' ∈ es ++ [resumen] := lines ▸ left_read m' inside
        cases List.mem_append.mp place with
        | inl record =>
          rw [(no_summary m' record).1] at marked
          cases marked
        | inr last =>
          rw [List.mem_singleton] at last
          rw [last]
    rw [account, total, Ne, Option.some.injEq]
    rw [if_pos conflict] at conflicts
    omega
  | inr summary_lost =>
    have is_summary : l = resumen := by
      cases List.mem_append.mp member with
      | inl record =>
        rw [(no_summary l record).2] at summary_lost
        cases summary_lost
      | inr last => exact List.mem_singleton.mp last
    rw [is_summary, if_pos summary, one] at summaries
    have none_left : ((listAllConflicts records).eraseIdx k).countP
        (fun m => marcaSummary.isPrefixOf (strip isspace m)) = 0 := by omega
    have account : cuentasDe ((listAllConflicts records).eraseIdx k) = [] := by
      unfold cuentasDe
      have nothing : (((listAllConflicts records).eraseIdx k).map (strip isspace)).find?
          (fun m => marcaSummary.isPrefixOf m) = none := by
        rw [List.find?_eq_none]
        intro m hm
        obtain ⟨m', inside, rfl⟩ := List.mem_map.mp hm
        exact List.countP_eq_zero.mp none_left m' inside
      rw [nothing]
    rw [account]
    simp

theorem transcribible_exacto {records : List MainRecord} (t : Transcribible records) :
    ProtocoloExacto records := by
  have campos := t.toCamposLegibles
  obtain ⟨resumen, ⟨es, lines, _⟩, _, _, _, read⟩ := lineas_script campos
  have exact_ : conflictosDe (listAllConflicts records) = esperados records := by
    rw [conflictosDe_script campos]
    apply List.map_congr_left
    intro e he
    rw [estadosDe_propios he t.separados]
    rfl
  constructor
  · intro registro same
    have ps : ∀ r ∈ registro, Protocolar r.linea :=
      fun r hr => (read r.linea (same ▸ List.mem_map_of_mem hr)).1
    have some_ : registro ≠ [] := by
      intro none_
      rw [none_, lines] at same
      simp at same
    constructor
    · intro stdout
      rw [parseConflictLines_eq, splitlines_merge ps (.inl some_), same, exact_]
    · intro unmarked
      rw [parseConflictLines_eq, splitlines_directo ps unmarked, same, exact_]
  · intro k l registro at_k lost same self success
    have left : ∀ m ∈ (listAllConflicts records).eraseIdx k, m ∈ listAllConflicts records :=
      fun m hm => (eraseIdx_perm at_k).subset (List.mem_cons_of_mem _ hm)
    have ps : ∀ r ∈ registro, Protocolar r.linea :=
      fun r hr => (read r.linea (left _ (same ▸ List.mem_map_of_mem hr))).1
    have wrong := cuentas_truncadas campos at_k lost
    constructor
    · apply analyze_error
      rw [splitlines_merge ps (.inr rfl), same]
      exact wrong
    · intro unmarked
      apply analyze_error
      rw [splitlines_directo ps unmarked, same]
      exact wrong

theorem camposLegibles_of_exacto {records : List MainRecord} {text : Texto}
    (read : parseConflictLines text = esperados records) : CamposLegibles records := by
  have fields : ∀ e ∈ emitidos records, _ := fun e he =>
    parse_legible (t := text) (c := e.conflicto) (read ▸ List.mem_map_of_mem he)
  exact ⟨fun e he => (fields e he).1, fun e he => (fields e he).2.1, fun e he => (fields e he).2.2.1,
    fun e he => (fields e he).2.2.2.1, fun e he => (fields e he).2.2.2.2⟩

/-- Two records of one form id would each get the flags of both. -/
theorem separados_of_propios {es : List MainRecord}
    (own : ∀ e ∈ es, estadosDe (es.flatMap banderasDeRecord) e.fid = e.estados) :
    es.Pairwise fun a b => a.formId = b.formId → a.estados = [] ∧ b.estados = [] := by
  rw [List.pairwise_iff_forall_sublist]
  intro a b sub same
  have same_id : b.fid = a.fid := congrArg intToHex same.symm
  have both : (a.estados ++ b.estados).Sublist (estadosDe (es.flatMap banderasDeRecord) a.fid) := by
    have pair : estadosDe ([a, b].flatMap banderasDeRecord) a.fid = a.estados ++ b.estados := by
      simp only [List.flatMap_cons, List.flatMap_nil, List.append_nil, estadosDe_append, estadosDe_record,
        if_true, same_id]
    rw [← pair]
    exact ((sub.flatMap banderasDeRecord).filter _).map _
  have members := sub.subset
  have length_a := congrArg List.length (own a (members (by simp)))
  have length_b := congrArg List.length (own b (members (by simp)))
  rw [same_id] at length_b
  have longer := both.length_le
  rw [List.length_append] at longer
  constructor
  · exact List.length_eq_zero_iff.mp (by omega)
  · exact List.length_eq_zero_iff.mp (by omega)

/-- The protocol is read back exactly if and only if its fields are legible, no
    losing plugin has a comma and no two emitted records share a form id that
    carries flags. -/
theorem protocolo_exacto (records : List MainRecord) : ProtocoloExacto records ↔ Transcribible records := by
  constructor
  · intro ok
    have plain := ((ok.leido ((listAllConflicts records).map fun l => ⟨none, false, l⟩)
      (by simp [Function.comp_def])).2 (by simp))
    have campos := camposLegibles_of_exacto plain
    refine ⟨campos, separados_of_propios ?_⟩
    obtain ⟨_, _, _, _, _, read⟩ := lineas_script campos
    rw [parseConflictLines_eq, splitlines_directo, List.map_map] at plain
    · have ids : (Renglon.linea ∘ fun l => (⟨none, false, l⟩ : Renglon)) = id := rfl
      rw [ids, List.map_id, conflictosDe_script campos] at plain
      intro e he
      have own := List.map_inj_left.mp plain e he
      exact congrArg RecordConflict.flagStates own
    · intro r hr
      obtain ⟨l, hl, rfl⟩ := List.mem_map.mp hr
      exact (read l hl).1
    · intro r hr
      obtain ⟨l, _, rfl⟩ := List.mem_map.mp hr
      rfl
  · exact transcribible_exacto

def nombre (t : Texto) (ok : (t != [] && t.all validoEnNombre) = true) : NombrePlugin where
  texto := t
  noVacio := by
    rw [Bool.and_eq_true, bne_iff_ne] at ok
    exact ok.1
  valido := by
    rw [Bool.and_eq_true, List.all_eq_true] at ok
    exact ok.2

/-- A leveled list of Skyrim.esm that the Bashed Patch and another plugin override. -/
def listaParcheada : MainRecord where
  formId := 0x0001A2B3
  editorId := "LItemWeapon".toList
  signature := "LVLI".toList
  isMaster := true
  conflictAll := .caConflict
  version := ⟨nombre "Skyrim.esm".toList (by decide), none⟩
  overrides := [⟨nombre "Bashed Patch, 0.esp".toList (by decide), none⟩,
    ⟨nombre "Mod.esp".toList (by decide), none⟩]
  winningOverride := ⟨nombre "Mod.esp".toList (by decide), none⟩

/-- The name of the Bashed Patch is read as two plugins. -/
theorem nombre_partido : ¬ ProtocoloExacto [listaParcheada] ∧
    (parseConflictLines (textoDe ((listAllConflicts [listaParcheada]).map fun l => ⟨none, false, l⟩))).map
      (fun c => (c.losers, listaParcheada.perdedores)) =
      [(textos ["Bashed Patch", "0.esp", "Skyrim.esm"], textos ["Bashed Patch, 0.esp", "Skyrim.esm"])] := by
  refine ⟨?_, by decide +kernel⟩
  intro ok
  have plain := ((ok.leido ((listAllConflicts [listaParcheada]).map fun l => ⟨none, false, l⟩)
    (by simp [Function.comp_def])).2 (by simp))
  have campos := camposLegibles_of_exacto plain
  have emitted : listaParcheada ∈ emitidos [listaParcheada] :=
    List.mem_filter.mpr ⟨List.mem_singleton_self _, by decide⟩
  have loser : "Bashed Patch, 0.esp".toList ∈ listaParcheada.perdedores := by decide
  exact (campos.perdedores _ emitted _ loser).2 (by decide)

end XeditConflicts
