import SkyClaw.XeditProtocol

set_option linter.all false

/-!
Exactness of the conflict protocol. Whatever the parser returns is legible, so
an exact reading forces the fields to be; and legible fields are read back.
-/
namespace XeditConflicts
open TrimmedText TextLines

section Campos
variable {t l campo : Texto}

theorem mem_splitOn {sep : Char} (mem : campo ∈ l.splitOn sep) : sep ∉ campo ∧ ∀ c ∈ campo, c ∈ l := by
  induction l generalizing campo with
  | nil =>
    rw [List.splitOn_nil, List.mem_singleton] at mem
    subst mem
    simp
  | cons a l ih =>
    rw [List.splitOn_cons_eq_if_modifyHead] at mem
    split at mem
    · cases List.mem_cons.mp mem with
      | inl first =>
        subst first
        simp
      | inr later =>
        have parts := ih later
        exact ⟨parts.1, fun c hc => List.mem_cons_of_mem _ (parts.2 c hc)⟩
    · next other =>
      cases split : l.splitOn sep with
      | nil => exact absurd split (List.splitOn_ne_nil sep l)
      | cons first rest =>
        rw [split, List.modifyHead_cons] at mem
        cases List.mem_cons.mp mem with
        | inl here =>
          subst here
          have parts := ih (split ▸ List.mem_cons_self)
          have different : a ≠ sep := by simpa using other
          constructor
          · simp only [List.mem_cons, not_or]
            exact ⟨Ne.symm different, parts.1⟩
          · intro c hc
            cases List.mem_cons.mp hc with
            | inl same => exact same ▸ List.mem_cons_self
            | inr inside => exact List.mem_cons_of_mem _ (parts.2 c inside)
        | inr later =>
          have parts := ih (split ▸ List.mem_cons_of_mem _ later)
          exact ⟨parts.1, fun c hc => List.mem_cons_of_mem _ (parts.2 c hc)⟩

/-- A stripped field of a line is legible. -/
theorem legible_campo (entera : ∀ c ∈ l, esSalto c = false) (mem : campo ∈ l.splitOn '|') :
    Legible (strip isspace campo) := by
  have parts := mem_splitOn mem
  refine ⟨fun inside => parts.1 (mem_of_mem_strip inside), ?_, trimmed_strip campo⟩
  intro c hc
  exact entera c (parts.2 c (mem_of_mem_strip hc))

theorem entera_strip (entera : ∀ c ∈ l, esSalto c = false) : ∀ c ∈ strip isspace l, esSalto c = false :=
  fun c hc => entera c (mem_of_mem_strip hc)

theorem legible_perdedor (entera : ∀ c ∈ l, esSalto c = false) (mem : campo ∈ l.splitOn '|')
    (name : t ∈ leerPerdedores campo) : Legible t ∧ ',' ∉ t := by
  simp only [leerPerdedores, List.mem_filter, List.mem_map] at name
  obtain ⟨⟨part, inside, rfl⟩, _⟩ := name
  have field := mem_splitOn mem
  have parts := mem_splitOn inside
  refine ⟨⟨?_, ?_, trimmed_strip part⟩, fun comma => parts.1 (mem_of_mem_strip comma)⟩
  · intro bar
    exact field.1 (parts.2 _ (mem_of_mem_strip bar))
  · intro c hc
    exact entera c (field.2 c (parts.2 c (mem_of_mem_strip hc)))

theorem leerFlag_legible {f : Texto × OverrideFlagState} (entera : ∀ c ∈ l, esSalto c = false)
    (read : leerFlag l = some f) : Legible f.2.plugin := by
  unfold leerFlag at read
  split at read
  · split at read
    · next first id plugin flag valor parts =>
      have field : Legible (strip isspace plugin) :=
        legible_campo entera (by simp [parts])
      simp only at read
      split at read
      · cases read
      · split at read
        · cases read
          exact field
        · split at read
          · cases read
            exact field
          · cases read
    · cases read
  · cases read

/-- What is read from a CONFLICT line is legible. -/
theorem leerConflict_legible {flags : List (Texto × OverrideFlagState)} {c : RecordConflict}
    (entera : ∀ x ∈ l, esSalto x = false) (read : leerConflict flags l = some c) :
    Legible c.editorId ∧ Legible c.recordType ∧ Legible c.winner ∧
      (∀ p ∈ c.losers, Legible p ∧ ',' ∉ p) ∧ c.flagStates = estadosDe flags c.formId := by
  unfold leerConflict at read
  split at read
  · split at read
    · next first id editor tipo ganador perdedores rest parts =>
      simp only at read
      split at read
      · cases read
      · cases read
        refine ⟨?_, ?_, ?_, ?_, rfl⟩
        · exact legible_campo entera (by simp [parts])
        · exact legible_campo entera (by simp [parts])
        · exact legible_campo entera (by simp [parts])
        · intro p mem
          have losers : perdedores ∈ l.splitOn '|' := by simp [parts]
          exact legible_perdedor entera losers mem
    · cases read
  · cases read

end Campos

/-! The parser over lines -/

def banderasDe (lineas : List Texto) : List (Texto × OverrideFlagState) :=
  lineas.filterMap fun l => leerFlag (strip isspace l)

def conflictosDe (lineas : List Texto) : List RecordConflict :=
  lineas.filterMap fun l => leerConflict (banderasDe lineas) (strip isspace l)

def cuentasDe (lineas : List Texto) : List (Texto × Int) :=
  match (lineas.map (strip isspace)).find? fun l => marcaSummary.isPrefixOf l with
  | some linea => (linea.splitOn '|').tail.filterMap leerCuenta
  | none => []

theorem parseConflictLines_eq (t : Texto) : parseConflictLines t = conflictosDe (splitlines t) := rfl

theorem parseSummaryLine_eq (t : Texto) : parseSummaryLine t = cuentasDe (splitlines t) := rfl

/-- Whatever the text, the conflicts read from it are legible. -/
theorem parse_legible {t : Texto} {c : RecordConflict} (mem : c ∈ parseConflictLines t) :
    Legible c.editorId ∧ Legible c.recordType ∧ Legible c.winner ∧
      (∀ p ∈ c.losers, Legible p ∧ ',' ∉ p) ∧ ∀ f ∈ c.flagStates, Legible f.plugin := by
  simp only [parseConflictLines, List.mem_filterMap] at mem
  obtain ⟨l, line, read⟩ := mem
  have entera := entera_strip (solid_of_mem_splitlines line)
  obtain ⟨editor, tipo, ganador, perdedores, states⟩ := leerConflict_legible entera read
  refine ⟨editor, tipo, ganador, perdedores, ?_⟩
  intro f state
  rw [states] at state
  simp only [estadosDe, List.mem_map, List.mem_filter, parseFlagLines, List.mem_filterMap] at state
  obtain ⟨pair, ⟨⟨k, line', flag⟩, _⟩, rfl⟩ := state
  exact leerFlag_legible (entera_strip (solid_of_mem_splitlines line')) flag

/-! What the script writes -/

theorem une_cons (a b : Texto) (l : List Texto) :
    ['|'].intercalate (a :: b :: l) = a ++ (barra ++ ['|'].intercalate (b :: l)) := by
  simp [List.intercalate, barra]

theorem une_uno (a : Texto) : ['|'].intercalate [a] = a := by simp [List.intercalate]

theorem marcaConflict_eq : marcaConflict = "CONFLICT".toList ++ barra := rfl

theorem marcaFlag_eq : marcaFlag = "FLAG".toList ++ barra := rfl

theorem marcaSummary_eq : marcaSummary = "SUMMARY".toList ++ barra := rfl

def MainRecord.fid (e : MainRecord) : Texto := intToHex e.formId

def MainRecord.linea (e : MainRecord) : Texto :=
  ['|'].intercalate ["CONFLICT".toList, e.fid, e.editorId, e.signature, e.ganador,
    [','].intercalate e.perdedores]

def lineaFlag (fid : Texto) (f : OverrideFlagState) : Texto :=
  ['|'].intercalate ["FLAG".toList, fid, f.plugin, f.flag, if f.value then ['1'] else ['0']]

def MainRecord.lineas (e : MainRecord) : List Texto := e.linea :: e.estados.map (lineaFlag e.fid)

theorem foldl_une {acc : Texto} (started : acc ≠ []) (ns : List Texto) :
    ns.foldl (fun l n => (if l ≠ [] then l ++ [','] else l) ++ n) acc = [','].intercalate (acc :: ns) := by
  induction ns generalizing acc with
  | nil => simp [List.intercalate]
  | cons n ns ih =>
    rw [List.foldl_cons, if_pos started, ih (by simp [started])]
    cases ns <;> simp [List.intercalate]

/-- The list that the loop builds: the names with commas between them. -/
theorem foldl_agregaPerdedor (winner : Texto) (vs : List Version) (acc : Texto) :
    vs.foldl (agregaPerdedor winner) acc =
      ((vs.map (·.file.texto)).filter (· ≠ winner)).foldl
        (fun l n => (if l ≠ [] then l ++ [','] else l) ++ n) acc := by
  induction vs generalizing acc with
  | nil => rfl
  | cons v vs ih =>
    rw [List.foldl_cons, ih, List.map_cons, List.filter_cons]
    by_cases other : v.file.texto = winner
    · simp [agregaPerdedor, other]
    · simp [agregaPerdedor, other]

theorem perdedores_noVacios {e : MainRecord} {l : Texto} (mem : l ∈ e.perdedores) : l ≠ [] := by
  simp only [MainRecord.perdedores, List.mem_filter, List.mem_map] at mem
  obtain ⟨⟨v, _, rfl⟩, _⟩ := mem
  exact v.file.noVacio

theorem perdedores_eq (e : MainRecord) :
    agregaPerdedor e.ganador (e.overrides.foldl (agregaPerdedor e.ganador) []) e.version =
      [','].intercalate e.perdedores := by
  have whole : agregaPerdedor e.ganador (e.overrides.foldl (agregaPerdedor e.ganador) []) e.version =
      (e.overrides ++ [e.version]).foldl (agregaPerdedor e.ganador) [] := by
    rw [List.foldl_append]
    rfl
  rw [whole, foldl_agregaPerdedor]
  change e.perdedores.foldl _ [] = _
  cases names : e.perdedores with
  | nil => rfl
  | cons n ns =>
    have started : n ≠ [] := perdedores_noVacios (names ▸ List.mem_cons_self)
    rw [List.foldl_cons, if_neg (by simp), List.nil_append, foldl_une started]

theorem intercalate_eq_nil {ns : List Texto} (solid : ∀ n ∈ ns, n ≠ []) :
    [','].intercalate ns = [] ↔ ns = [] := by
  cases ns with
  | nil => simp [List.intercalate]
  | cons n ns =>
    have first := solid n List.mem_cons_self
    cases ns <;> simp [List.intercalate, first]

theorem banderas_eq (e : MainRecord) :
    (if e.signature = "SPEL".toList then emitSpellFlagStates e e.fid else []) =
      e.estados.map (lineaFlag e.fid) := by
  have one : ∀ v : Version, emitSpellFlagState e.fid v = (v.estado.map (lineaFlag e.fid)).toList := by
    intro v
    unfold emitSpellFlagState Version.estado
    cases v.spitFlags with
    | none => rfl
    | some flags =>
      by_cases bit : flags &&& 1 = 0
      · simp only [bit, lineaFlag, une_cons, une_uno, marcaFlag_eq, List.append_assoc, ne_eq,
          not_true, if_false, decide_false, Option.map_some, Option.toList_some, Bool.false_eq_true]
      · simp only [bit, lineaFlag, une_cons, une_uno, marcaFlag_eq, List.append_assoc, ne_eq,
          not_false_eq_true, if_true, decide_true, Option.map_some, Option.toList_some]
  have all : ∀ vs : List Version, vs.flatMap (emitSpellFlagState e.fid) =
      (vs.filterMap Version.estado).map (lineaFlag e.fid) := by
    intro vs
    induction vs with
    | nil => rfl
    | cons v vs ih =>
      rw [List.flatMap_cons, ih, one, List.filterMap_cons]
      cases v.estado <;> rfl
  unfold MainRecord.estados
  split
  · exact all e.versiones
  · rfl

/-- One turn of the script: a record that is not emitted leaves everything as it was. -/
theorem process_eq (s : Contadores × List Texto) (e : MainRecord) :
    if e.seEmite then
      (process s e).1.totalConflicts = s.1.totalConflicts + 1 ∧ (process s e).2 = s.2 ++ e.lineas
    else process s e = s := by
  have losers : [','].intercalate e.perdedores = [] ↔ e.perdedores = [] :=
    intercalate_eq_nil fun n => perdedores_noVacios
  unfold process
  by_cases none_ : e.overrides.length < 1
  · simp [MainRecord.seEmite, none_, show ¬ 1 ≤ e.overrides.length by omega]
  by_cases master : e.isMaster
  case neg => simp [MainRecord.seEmite, none_, master]
  by_cases benign : e.conflictAll.ord < ConflictAll.caOverride.ord
  · simp [MainRecord.seEmite, none_, master, benign]
  have list := perdedores_eq e
  simp only [MainRecord.ganador] at list
  by_cases empty : e.perdedores = []
  · simp [MainRecord.seEmite, none_, master, benign, empty, list]
  · have text : [','].intercalate e.perdedores ≠ [] := fun gone => empty (losers.mp gone)
    have emits : e.seEmite = true := by
      simp [MainRecord.seEmite, master, empty, show 1 ≤ e.overrides.length by omega,
        show ConflictAll.caOverride.ord ≤ e.conflictAll.ord by omega]
    have line : marcaConflict ++ intToHex e.formId ++ barra ++ e.editorId ++ barra ++ e.signature ++
        barra ++ e.winningOverride.file.texto ++ barra ++ [','].intercalate e.perdedores = e.linea := by
      simp only [MainRecord.linea, MainRecord.ganador, MainRecord.fid, une_cons, une_uno,
        marcaConflict_eq, List.append_assoc]
    have flags := banderas_eq e
    simp only [MainRecord.fid] at flags
    simp only [none_, master, benign, Bool.not_true, Bool.false_eq_true, if_false, list, text, line,
      flags, emits, if_true]
    exact ⟨trivial, rfl⟩

theorem foldl_process (records : List MainRecord) (s : Contadores × List Texto) :
    (records.foldl process s).1.totalConflicts = s.1.totalConflicts + (emitidos records).length ∧
    (records.foldl process s).2 = s.2 ++ (emitidos records).flatMap MainRecord.lineas := by
  induction records generalizing s with
  | nil => simp [emitidos]
  | cons e records ih =>
    have turn := process_eq s e
    rw [List.foldl_cons, emitidos, List.filter_cons]
    obtain ⟨total, lines⟩ := ih (process s e)
    rw [total, lines]
    by_cases emits : e.seEmite = true
    · rw [if_pos emits] at turn ⊢
      rw [turn.1, turn.2, List.length_cons, List.flatMap_cons]
      simp only [emitidos, List.append_assoc]
      exact ⟨by omega, trivial⟩
    · rw [if_neg emits] at turn ⊢
      rw [turn]
      exact ⟨rfl, rfl⟩

def lineaResumen (total critical minor : Nat) : Texto :=
  ['|'].intercalate ["SUMMARY".toList, "total_conflicts=".toList ++ decimal total,
    "critical=".toList ++ decimal critical, "minor=".toList ++ decimal minor]

/-- The messages of a run: the lines of each emitted record and the summary. -/
theorem listAllConflicts_eq (records : List MainRecord) :
    ∃ critical minor, listAllConflicts records =
      (emitidos records).flatMap MainRecord.lineas ++
        [lineaResumen (emitidos records).length critical minor] := by
  obtain ⟨total, lines⟩ := foldl_process records (⟨0, 0, 0⟩, [])
  refine ⟨(records.foldl process (⟨0, 0, 0⟩, [])).1.criticalCount,
    (records.foldl process (⟨0, 0, 0⟩, [])).1.minorCount, ?_⟩
  rw [Nat.zero_add] at total
  rw [List.nil_append] at lines
  have critical_part : "|critical=".toList = barra ++ "critical=".toList := rfl
  have minor_part : "|minor=".toList = barra ++ "minor=".toList := rfl
  rw [listAllConflicts, finalize, lines, total]
  simp only [lineaResumen, une_cons, une_uno, marcaSummary_eq, critical_part, minor_part,
    List.append_assoc]

/-! Reading legible lines -/

theorem Legible.of_solid {t : Texto} (solid : ∀ c ∈ t, isspace c = false ∧ c ≠ '|') : Legible t := by
  refine ⟨fun bar => (solid _ bar).2 rfl, ?_, ?_⟩
  · intro c hc
    by_contra brk
    have blank := isspace_of_esSalto (by simpa using brk)
    rw [(solid c hc).1] at blank
    cases blank
  · by_cases empty : t = []
    · subst empty
      exact strip_nil
    · have kept := strip_solid_append (fun c hc => (solid c hc).1) empty []
      simpa [Trimmed] using kept

def esLegible (t : Texto) : Bool :=
  !t.contains '|' && t.all (fun c => !esSalto c) && strip isspace t == t

theorem Legible.of_check {t : Texto} (ok : esLegible t = true) : Legible t := by
  simp only [esLegible, Bool.and_eq_true, Bool.not_eq_true', List.contains_eq_mem, decide_eq_false_iff_not,
    List.all_eq_true, beq_iff_eq] at ok
  exact ⟨ok.1.1, ok.1.2, ok.2⟩

theorem hexMayus_facts : ∀ d : Fin 16, (isspace (hexMayus d) = false ∧ hexMayus d ≠ '|') ∧
    ((hexMayus d).isDigit || ('A' ≤ hexMayus d && hexMayus d ≤ 'F') ||
      ('a' ≤ hexMayus d && hexMayus d ≤ 'f')) = true := by decide

theorem mem_intToHex {n : UInt32} {c : Char} (mem : c ∈ intToHex n) : ∃ d : Fin 16, c = hexMayus d := by
  simp only [intToHex, List.mem_map] at mem
  obtain ⟨k, _, rfl⟩ := mem
  exact ⟨⟨n.toNat / 16 ^ k % 16, Nat.mod_lt _ (by omega)⟩, rfl⟩

theorem esFormId_intToHex (n : UInt32) : esFormId (intToHex n) = true := by
  simp only [esFormId, Bool.and_eq_true, decide_eq_true_eq, List.all_eq_true]
  refine ⟨rfl, ?_⟩
  intro c mem
  obtain ⟨d, rfl⟩ := mem_intToHex mem
  exact (hexMayus_facts d).2

theorem legible_intToHex (n : UInt32) : Legible (intToHex n) := by
  apply Legible.of_solid
  intro c mem
  obtain ⟨d, rfl⟩ := mem_intToHex mem
  exact (hexMayus_facts d).1

theorem Trimmed.last_solid {a : Char} {l : Texto} (trimmed : Trimmed isspace (l ++ [a])) :
    isspace a = false := by
  by_contra blank
  have shorter := Trimmed.rdropWhile trimmed
  rw [List.rdropWhile_concat_pos _ _ _ (by simpa using blank)] at shorter
  have := congrArg List.length shorter
  have := (List.rdropWhile_prefix isspace l).length_le
  simp at *
  omega

/-- A line is trimmed when it starts solid and ends in a trimmed field. -/
theorem trimmed_line {a : Char} {l f : Texto} (first : isspace a = false)
    (trimmed : Trimmed isspace f) (nonempty : f ≠ []) : Trimmed isspace (a :: (l ++ f)) := by
  obtain ⟨g, b, rfl⟩ : ∃ g b, f = g ++ [b] :=
    ⟨f.dropLast, f.getLast nonempty, (List.dropLast_append_getLast nonempty).symm⟩
  rw [← List.append_assoc]
  exact trimmed_between first (Trimmed.last_solid trimmed)

theorem intercalate_last {ns : List Texto} (nonempty : ns ≠ []) :
    ∃ l, [','].intercalate ns = l ++ ns.getLast nonempty := by
  induction ns with
  | nil => exact absurd rfl nonempty
  | cons n ns ih =>
    cases ns with
    | nil => exact ⟨[], by simp [List.intercalate]⟩
    | cons m ns =>
      obtain ⟨l, same⟩ := ih (by simp)
      refine ⟨n ++ ',' :: l, ?_⟩
      rw [List.getLast_cons (by simp), List.append_assoc, List.cons_append, ← same]
      simp [List.intercalate]

theorem mem_intercalate {sep c : Char} {ns : List Texto} (mem : c ∈ [sep].intercalate ns) :
    c = sep ∨ ∃ n ∈ ns, c ∈ n := by
  induction ns with
  | nil => simp [List.intercalate] at mem
  | cons n ns ih =>
    cases ns with
    | nil => exact .inr ⟨n, by simp, by simpa [List.intercalate] using mem⟩
    | cons m ns =>
      have joined : [sep].intercalate (n :: m :: ns) = n ++ sep :: [sep].intercalate (m :: ns) := by
        simp [List.intercalate]
      rw [joined, List.mem_append, List.mem_cons] at mem
      obtain here | same | later := mem
      · exact .inr ⟨n, by simp, here⟩
      · exact .inl same
      · cases ih later with
        | inl same => exact .inl same
        | inr inside =>
          obtain ⟨k, hk, hc⟩ := inside
          exact .inr ⟨k, List.mem_cons_of_mem _ hk, hc⟩

section Perdedores
variable {ns : List Texto} (legibles : ∀ n ∈ ns, Legible n ∧ ',' ∉ n) (llenos : ∀ n ∈ ns, n ≠ [])
include legibles

theorem barra_perdedores : '|' ∉ [','].intercalate ns := by
  intro bar
  cases mem_intercalate bar with
  | inl same => cases same
  | inr inside =>
    obtain ⟨n, hn, hc⟩ := inside
    exact (legibles n hn).1.barra hc

theorem entero_perdedores : ∀ c ∈ [','].intercalate ns, esSalto c = false := by
  intro c mem
  cases mem_intercalate mem with
  | inl same =>
    subst same
    rfl
  | inr inside =>
    obtain ⟨n, hn, hc⟩ := inside
    exact (legibles n hn).1.entero c hc

include llenos

theorem leerPerdedores_intercalate (some_ : ns ≠ []) : leerPerdedores ([','].intercalate ns) = ns := by
  have parts : ([','].intercalate ns).splitOn ',' = ns :=
    List.splitOn_intercalate ',' (fun n hn => (legibles n hn).2) some_
  have stripped : ns.map (strip isspace) = ns := by
    conv_rhs => rw [← List.map_id ns]
    exact List.map_congr_left fun n hn => (legibles n hn).1.recortado
  rw [leerPerdedores, parts, stripped, List.filter_eq_self]
  intro n hn
  simpa using llenos n hn

end Perdedores

/-- The line of an emitted record, read in any context of flags. -/
theorem leerConflict_linea {e : MainRecord} (emits : e.seEmite = true) (editor : Legible e.editorId)
    (firma : Legible e.signature) (ganador : Legible e.ganador)
    (perdedores : ∀ l ∈ e.perdedores, Legible l ∧ ',' ∉ l) (flags : List (Texto × OverrideFlagState)) :
    (∀ c ∈ e.linea, esSalto c = false) ∧
    leerConflict flags (strip isspace e.linea) =
      some { e.conflicto with flagStates := estadosDe flags e.fid } := by
  have some_ : e.perdedores ≠ [] := by
    simp only [MainRecord.seEmite, Bool.and_eq_true, decide_eq_true_eq] at emits
    exact emits.2
  have llenos : ∀ n ∈ e.perdedores, n ≠ [] := fun n => perdedores_noVacios
  have fid := legible_intToHex e.formId
  have word : Legible "CONFLICT".toList := .of_check (by decide)
  have names_bar := barra_perdedores perdedores
  have names_whole := entero_perdedores perdedores
  have whole : ∀ c ∈ e.linea, esSalto c = false := by
    intro c mem
    cases mem_intercalate mem with
    | inl same =>
      subst same
      rfl
    | inr inside =>
      obtain ⟨n, hn, hc⟩ := inside
      simp only [List.mem_cons, List.not_mem_nil, or_false] at hn
      obtain rfl | rfl | rfl | rfl | rfl | rfl := hn
      · exact word.entero c hc
      · exact fid.entero c hc
      · exact editor.entero c hc
      · exact firma.entero c hc
      · exact ganador.entero c hc
      · exact names_whole c hc
  have fields : e.linea.splitOn '|' = ["CONFLICT".toList, e.fid, e.editorId, e.signature, e.ganador,
      [','].intercalate e.perdedores] := by
    apply List.splitOn_intercalate
    · intro l hl
      simp only [List.mem_cons, List.not_mem_nil, or_false] at hl
      obtain rfl | rfl | rfl | rfl | rfl | rfl := hl
      · exact word.barra
      · exact fid.barra
      · exact editor.barra
      · exact firma.barra
      · exact ganador.barra
      · exact names_bar
    · simp
  have start : e.linea = marcaConflict ++ ['|'].intercalate [e.fid, e.editorId, e.signature, e.ganador,
      [','].intercalate e.perdedores] := by
    rw [MainRecord.linea, une_cons, marcaConflict_eq, List.append_assoc]
  have trimmed : Trimmed isspace e.linea := by
    obtain ⟨l, last⟩ := intercalate_last some_
    have lastLegible := perdedores _ (List.getLast_mem some_)
    have lastFull := llenos _ (List.getLast_mem some_)
    have shape : e.linea = 'C' :: (("ONFLICT|".toList ++ (e.fid ++ (barra ++ (e.editorId ++ (barra ++
        (e.signature ++ (barra ++ (e.ganador ++ (barra ++ l))))))))) ++ e.perdedores.getLast some_) := by
      have word : marcaConflict = 'C' :: "ONFLICT|".toList := rfl
      rw [start, word]
      simp only [une_cons, une_uno, last, List.append_assoc, List.cons_append]
    rw [shape]
    exact trimmed_line rfl lastLegible.1.recortado lastFull
  refine ⟨whole, ?_⟩
  have marked : marcaConflict.isPrefixOf e.linea = true := by
    rw [start]
    exact List.isPrefixOf_iff_prefix.mpr (List.prefix_append _ _)
  have same_id : strip isspace e.fid = e.fid := fid.recortado
  have valid : esFormId e.fid = true := esFormId_intToHex e.formId
  have stripped : strip isspace e.linea = e.linea := trimmed
  rw [leerConflict, stripped, if_pos marked, fields]
  simp only [same_id, valid, Bool.not_true, Bool.false_eq_true, if_false]
  rw [leerPerdedores_intercalate perdedores llenos some_, show strip isspace e.editorId = e.editorId from
    editor.recortado, show strip isspace e.signature = e.signature from firma.recortado,
    show strip isspace e.ganador = e.ganador from ganador.recortado]
  rfl

theorem not_prefix_of_head {a b : Char} {t u : Texto} (different : a ≠ b) :
    (a :: t).isPrefixOf (b :: u) = false := by
  simp [List.isPrefixOf, different]

theorem intercalate_head (sep a : Char) (t : Texto) (ns : List Texto) :
    ∃ u, [sep].intercalate ((a :: t) :: ns) = a :: u := by
  cases ns with
  | nil => exact ⟨t, by simp [List.intercalate]⟩
  | cons n ns => exact ⟨t ++ sep :: [sep].intercalate (n :: ns), by simp [List.intercalate]⟩

theorem linea_head (e : MainRecord) : ∃ t, e.linea = 'C' :: t :=
  intercalate_head '|' 'C' "ONFLICT".toList _

theorem lineaFlag_head (fid : Texto) (f : OverrideFlagState) : ∃ t, lineaFlag fid f = 'F' :: t :=
  intercalate_head '|' 'F' "LAG".toList _

theorem lineaResumen_head (total critical minor : Nat) : ∃ t, lineaResumen total critical minor = 'S' :: t :=
  intercalate_head '|' 'S' "UMMARY".toList _

/-- Blanks around a line that starts solid leave its start alone. -/
theorem strip_head {a : Char} {t : Texto} (solid : isspace a = false) :
    ∃ u, strip isspace (a :: t) = a :: u := ⟨_, strip_cons_of_solid solid⟩

section Ajenas
variable {a : Char} {t : Texto} (solid : isspace a = false)
include solid

theorem leerFlag_ajena (other : a ≠ 'F') : leerFlag (strip isspace (a :: t)) = none := by
  obtain ⟨u, same⟩ := strip_head (t := t) solid
  rw [same, leerFlag, if_neg]
  have no : marcaFlag.isPrefixOf (a :: u) = false := not_prefix_of_head (Ne.symm other)
  simp [no]

theorem leerConflict_ajena (other : a ≠ 'C') (flags : List (Texto × OverrideFlagState)) :
    leerConflict flags (strip isspace (a :: t)) = none := by
  obtain ⟨u, same⟩ := strip_head (t := t) solid
  rw [same, leerConflict, if_neg]
  have no : marcaConflict.isPrefixOf (a :: u) = false := not_prefix_of_head (Ne.symm other)
  simp [no]

theorem resumen_ajena (other : a ≠ 'S') : marcaSummary.isPrefixOf (strip isspace (a :: t)) = false := by
  obtain ⟨u, same⟩ := strip_head (t := t) solid
  rw [same]
  exact not_prefix_of_head (Ne.symm other)

end Ajenas

theorem mem_estados {e : MainRecord} {f : OverrideFlagState} (mem : f ∈ e.estados) :
    f.flag = manualCostCalc ∧ ∃ v : Version, f.plugin = v.file.texto := by
  unfold MainRecord.estados at mem
  split at mem
  · simp only [List.mem_filterMap] at mem
    obtain ⟨v, _, state⟩ := mem
    simp only [Version.estado, Option.map_eq_some_iff] at state
    obtain ⟨_, _, rfl⟩ := state
    exact ⟨rfl, v, rfl⟩
  · cases mem

/-- The line of a flag state, read back. -/
theorem leerFlag_lineaFlag {fid : Texto} {f : OverrideFlagState} (id : Legible fid)
    (valid : esFormId fid = true) (plugin : Legible f.plugin) (flag : f.flag = manualCostCalc) :
    (∀ c ∈ lineaFlag fid f, esSalto c = false) ∧
    leerFlag (strip isspace (lineaFlag fid f)) = some (fid, f) := by
  have flagLegible : Legible f.flag := by
    rw [flag]
    exact .of_check (by decide)
  have value : Legible (if f.value then ['1'] else ['0']) := by
    cases f.value
    · exact .of_check (by decide)
    · exact .of_check (by decide)
  have word : Legible "FLAG".toList := .of_check (by decide)
  have fields : (lineaFlag fid f).splitOn '|' =
      ["FLAG".toList, fid, f.plugin, f.flag, if f.value then ['1'] else ['0']] := by
    apply List.splitOn_intercalate
    · intro l hl
      simp only [List.mem_cons, List.not_mem_nil, or_false] at hl
      obtain rfl | rfl | rfl | rfl | rfl := hl
      · exact word.barra
      · exact id.barra
      · exact plugin.barra
      · exact flagLegible.barra
      · exact value.barra
    · simp
  have start : lineaFlag fid f = marcaFlag ++ ['|'].intercalate [fid, f.plugin, f.flag,
      if f.value then ['1'] else ['0']] := by
    rw [lineaFlag, une_cons, marcaFlag_eq, List.append_assoc]
  have trimmed : Trimmed isspace (lineaFlag fid f) := by
    have shape : lineaFlag fid f = 'F' :: (("LAG|".toList ++ (fid ++ (barra ++ (f.plugin ++ (barra ++
        (f.flag ++ barra)))))) ++ if f.value then ['1'] else ['0']) := by
      have mark : marcaFlag = 'F' :: "LAG|".toList := rfl
      rw [start, mark]
      simp only [une_cons, une_uno, List.append_assoc, List.cons_append]
    rw [shape]
    refine trimmed_line rfl value.recortado ?_
    split <;> simp
  constructor
  · intro c mem
    cases mem_intercalate mem with
    | inl same =>
      subst same
      rfl
    | inr inside =>
      obtain ⟨n, hn, hc⟩ := inside
      simp only [List.mem_cons, List.not_mem_nil, or_false] at hn
      obtain rfl | rfl | rfl | rfl | rfl := hn
      · exact word.entero c hc
      · exact id.entero c hc
      · exact plugin.entero c hc
      · exact flagLegible.entero c hc
      · exact value.entero c hc
  · have marked : marcaFlag.isPrefixOf (lineaFlag fid f) = true := by
      rw [start]
      exact List.isPrefixOf_iff_prefix.mpr (List.prefix_append _ _)
    have stripped : strip isspace (lineaFlag fid f) = lineaFlag fid f := trimmed
    rw [leerFlag, stripped, if_pos marked, fields]
    simp only [show strip isspace fid = fid from id.recortado, valid, Bool.not_true,
      Bool.false_eq_true, if_false, show strip isspace f.plugin = f.plugin from plugin.recortado,
      show strip isspace f.flag = f.flag from flagLegible.recortado]
    have zero : strip isspace ['0'] = ['0'] := by decide
    have one : strip isspace ['1'] = ['1'] := by decide
    obtain ⟨p, g, v⟩ := f
    cases v
    · simp [zero]
    · simp [one]

/-- The summary line, read back. -/
theorem leer_lineaResumen (total critical minor : Nat) :
    (∀ c ∈ lineaResumen total critical minor, esSalto c = false) ∧
    marcaSummary.isPrefixOf (strip isspace (lineaResumen total critical minor)) = true ∧
    ((((strip isspace (lineaResumen total critical minor)).splitOn '|').tail.filterMap
      leerCuenta).reverse.lookup totalConflictsKey) = some (total : Int) := by
  have number : ∀ n, Legible (decimal n) := by
    intro n
    apply Legible.of_solid
    intro c mem
    refine ⟨solid_isDigit (decimal_isDigit c mem), ?_⟩
    intro bar
    have digit := decimal_isDigit c mem
    subst bar
    cases digit
  have key_bar : ∀ (k : Texto) n, '|' ∉ k → '|' ∉ k ++ decimal n := by
    intro k n no mem
    cases List.mem_append.mp mem with
    | inl inside => exact no inside
    | inr inside => exact (number n).barra inside
  have fields : (lineaResumen total critical minor).splitOn '|' =
      ["SUMMARY".toList, "total_conflicts=".toList ++ decimal total,
        "critical=".toList ++ decimal critical, "minor=".toList ++ decimal minor] := by
    apply List.splitOn_intercalate
    · intro l hl
      simp only [List.mem_cons, List.not_mem_nil, or_false] at hl
      obtain rfl | rfl | rfl | rfl := hl
      · decide
      · exact key_bar _ _ (by decide)
      · exact key_bar _ _ (by decide)
      · exact key_bar _ _ (by decide)
    · simp
  have start : lineaResumen total critical minor = marcaSummary ++ ['|'].intercalate
      ["total_conflicts=".toList ++ decimal total, "critical=".toList ++ decimal critical,
        "minor=".toList ++ decimal minor] := by
    rw [lineaResumen, une_cons, marcaSummary_eq, List.append_assoc]
  have trimmed : strip isspace (lineaResumen total critical minor) = lineaResumen total critical minor := by
    have shape : lineaResumen total critical minor = 'S' :: (("UMMARY|".toList ++
        ("total_conflicts=".toList ++ (decimal total ++ (barra ++ ("critical=".toList ++
          (decimal critical ++ (barra ++ "minor=".toList))))))) ++ decimal minor) := by
      have mark : marcaSummary = 'S' :: "UMMARY|".toList := rfl
      rw [start, mark]
      simp only [une_cons, une_uno, List.append_assoc, List.cons_append]
    rw [shape]
    exact trimmed_line rfl (number minor).recortado Nat.toDigits_ne_nil
  have fresh : ∀ k : Texto, '=' ∉ k → ∀ c ∈ k, decide (c ≠ '=') = true := by
    intro k no c hc
    simp only [decide_eq_true_eq]
    intro same
    exact no (same ▸ hc)
  have count : ∀ (k : Texto) n, '=' ∉ k → strip isspace k = k →
      leerCuenta (k ++ '=' :: decimal n) = some (k, (n : Int)) := by
    intro k n no stripped
    have before : (k ++ '=' :: decimal n).takeWhile (· ≠ '=') = k := by
      rw [List.takeWhile_append_of_pos (fresh k no)]
      simp
    have after : (k ++ '=' :: decimal n).dropWhile (· ≠ '=') = '=' :: decimal n := by
      rw [List.dropWhile_append_of_pos (fresh k no)]
      simp
    rw [leerCuenta, if_pos (by simp), after, before, List.tail_cons, int_decimal, stripped]
    rfl
  have word : Legible "SUMMARY".toList := .of_check (by decide)
  have first_key : Legible "total_conflicts=".toList := .of_check (by decide)
  have second_key : Legible "critical=".toList := .of_check (by decide)
  have third_key : Legible "minor=".toList := .of_check (by decide)
  refine ⟨?_, ?_, ?_⟩
  · intro c mem
    cases mem_intercalate mem with
    | inl same =>
      subst same
      rfl
    | inr inside =>
      obtain ⟨n, hn, hc⟩ := inside
      have key_whole : ∀ (k : Texto) m, (∀ x ∈ k, esSalto x = false) → c ∈ k ++ decimal m →
          esSalto c = false := by
        intro k m solid mem
        cases List.mem_append.mp mem with
        | inl inside => exact solid c inside
        | inr inside => exact (number m).entero c inside
      simp only [List.mem_cons, List.not_mem_nil, or_false] at hn
      obtain rfl | rfl | rfl | rfl := hn
      · exact word.entero c hc
      · exact key_whole _ _ first_key.entero hc
      · exact key_whole _ _ second_key.entero hc
      · exact key_whole _ _ third_key.entero hc
  · rw [trimmed, start]
    exact List.isPrefixOf_iff_prefix.mpr (List.prefix_append _ _)
  · have key : "total_conflicts=".toList ++ decimal total = totalConflictsKey ++ '=' :: decimal total := rfl
    have second : "critical=".toList ++ decimal critical = "critical".toList ++ '=' :: decimal critical := rfl
    have third : "minor=".toList ++ decimal minor = "minor".toList ++ '=' :: decimal minor := rfl
    rw [trimmed, fields, key, second, third, List.tail_cons]
    simp only [List.filterMap_cons, List.filterMap_nil, count totalConflictsKey total (by decide) (by decide),
      count "critical".toList critical (by decide) (by decide),
      count "minor".toList minor (by decide) (by decide)]
    have not_minor : (totalConflictsKey == "minor".toList) = false := by decide
    have not_critical : (totalConflictsKey == "critical".toList) = false := by decide
    simp only [List.reverse_cons, List.reverse_nil, List.nil_append, List.cons_append, List.lookup_cons,
      not_minor, not_critical, beq_self_eq_true]

end XeditConflicts
