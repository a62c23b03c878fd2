import SkyClaw.RecordDumps
import SkyClaw.XeditRoundTrip

set_option linter.all false

/-!
When the dump keeps every difference. The parser reads each value without the white
space at its end, and of the values of a name only the last one of a version is compared.
-/
namespace RecordDumps
open TrimmedText TextLines OrderedDicts
open XeditConflicts (NombrePlugin Renglon Marca textos intToHex isCriticalType barra textoDe)

section Lineas

/-! Lines of the log -/

theorem trasCorchete_clean {k : Texto} (clean : ']' ∉ k) (t : Texto) :
    trasCorchete (k ++ ']' :: ' ' :: t) = some t := by
  induction k with
  | nil => rfl
  | cons c k ih =>
    rw [List.mem_cons, not_or] at clean
    rw [List.cons_append, trasCorchete, ih clean.2]
    intro u same
    exact absurd same.symm clean.1

theorem trasCorchete_append {t r : Texto} (found : trasCorchete t = some r) (x : Texto) :
    trasCorchete (t ++ x) = some (r ++ x) := by
  induction t using trasCorchete.induct with
  | case1 => cases found
  | case2 t =>
    rw [trasCorchete, Option.some.injEq] at found
    rw [found]
    rfl
  | case3 c t other ih =>
    rw [trasCorchete] at found
    · rw [List.cons_append, trasCorchete, ih found]
      intro u same rest
      cases t with
      | nil => cases found
      | cons d t =>
        rw [List.cons_append] at rest
        exact other t same (by rw [(List.cons.inj rest).1])
    · exact other

/-- The end of a dump cannot come from a line that was cut. -/
theorem fin_de_prefijo {l m : Texto} (start : l <+: m) (fin : marcaEnd <+: limpia l) :
    marcaEnd <+: limpia m := by
  unfold limpia at fin ⊢
  have kept : strip isspace l <+: strip isspace m := strip_prefix start
  obtain ⟨x, whole⟩ := kept
  rw [← whole]
  dsimp only at fin ⊢
  cases line : strip isspace l with
  | nil =>
    rw [line] at fin
    obtain ⟨y, absurd_⟩ := fin
    cases absurd_
  | cons c t =>
    rw [line] at fin
    rw [List.cons_append, List.head?_cons] at *
    by_cases bracket : c = '['
    · subst bracket
      rw [if_pos rfl] at fin ⊢
      cases found : trasCorchete ('[' :: t) with
      | none =>
        rw [found] at fin
        obtain ⟨y, absurd_⟩ := fin
        cases absurd_
      | some r =>
        rw [found] at fin
        rw [← List.cons_append, trasCorchete_append found]
        exact fin.trans (List.prefix_append r x)
    · have other : ¬(some c = some '[') := fun same => bracket (Option.some.inj same)
      rw [if_neg other] at fin ⊢
      exact fin.trans ⟨x, by simp⟩

/-- A line that starts with a letter, as those of the protocol. -/
structure Visible (l : Texto) : Prop where
  inicio : ∃ c t, l = c :: t ∧ isspace c = false ∧ c ≠ '['
  entero : ∀ c ∈ l, esSalto c = false

theorem limpia_visible {l : Texto} (visible : Visible l) : limpia l = l.rdropWhile isspace := by
  obtain ⟨c, t, rfl, solid, other⟩ := visible.inicio
  rw [limpia, strip_cons_of_solid solid, rdropWhile_cons_of_solid solid, List.head?_cons]
  exact if_neg fun same => other (Option.some.inj same)

theorem marca_forma (m : Marca) (unEspacio : m.espacios = 0) :
    ∃ k, ']' ∉ k ∧ m.texto = '[' :: (k ++ [']', ' ']) := by
  have digit : ∀ c ∈ m.hora ++ m.minuto ++ m.segundo.getD [], c ≠ ']' := by
    intro c mem same
    have ascii := m.digitos c mem
    rw [same] at ascii
    cases ascii
  have hour : ']' ∉ m.hora := fun mem => digit ']' (by simp [mem]) rfl
  have minute : ']' ∉ m.minuto := fun mem => digit ']' (by simp [mem]) rfl
  cases sec : m.segundo with
  | none =>
    refine ⟨m.hora ++ ':' :: m.minuto, ?_, by simp [Marca.texto, unEspacio, sec]⟩
    simp [hour, minute]
  | some s =>
    have second : ']' ∉ s := fun mem => digit ']' (by simp [sec, mem]) rfl
    refine ⟨m.hora ++ ':' :: (m.minuto ++ ':' :: s), ?_, by simp [Marca.texto, unEspacio, sec]⟩
    simp [hour, minute, second]

/-- The time in front of a line is taken away. -/
theorem limpia_marca {m : Marca} (unEspacio : m.espacios = 0) {l : Texto} (visible : Visible l) :
    limpia (m.texto ++ l) = limpia l := by
  rw [limpia_visible visible]
  obtain ⟨c, t, rfl, solid, _⟩ := visible.inicio
  obtain ⟨k, clean, shape⟩ := marca_forma m unEspacio
  have kept : (k ++ [']', ' '] ++ c :: t).rdropWhile isspace =
      k ++ ']' :: ' ' :: c :: t.rdropWhile isspace := by
    rw [rdropWhile_append_cons_of_solid solid]
    simp
  rw [shape, limpia, List.cons_append, strip_cons_of_solid rfl, kept, List.head?_cons, if_pos rfl,
    ← List.cons_append, trasCorchete_clean (by simp [clean]), rdropWhile_cons_of_solid solid]
  rfl

theorem limpia_cuerpo {r : Renglon} (unEspacio : ∀ m ∈ r.marca, m.espacios = 0)
    (visible : Visible r.linea) : limpia r.cuerpo = limpia r.linea := by
  unfold Renglon.cuerpo
  cases mark : r.marca with
  | none => rfl
  | some m => exact limpia_marca (unEspacio m mark) visible

theorem paso_ruido {lower : Lower} {s : Lectura} {raw : Texto} (ajeno : esRuido raw = true) :
    paso lower s raw = s := by
  simp only [esRuido, List.all_cons, List.all_nil, Bool.and_true, Bool.and_eq_true,
    Bool.not_eq_true'] at ajeno
  obtain ⟨begin_, version, element, fin⟩ := ajeno
  unfold paso
  dsimp only
  rw [begin_, version, element, fin]
  cases s.abierto <;> rfl

theorem paso_congr {lower : Lower} {s : Lectura} {a b : Texto} (same : limpia a = limpia b) :
    paso lower s a = paso lower s b := by rw [paso, paso, same]

/-- Noise and times make no difference to the parser. -/
theorem foldl_log {lower : Lower} {ls : List Texto} {rs : List Renglon} (log : EnElLog ls rs)
    (visibles : ∀ l ∈ ls, Visible l) (s : Lectura) :
    (rs.map Renglon.cuerpo).foldl (paso lower) s = ls.foldl (paso lower) s := by
  induction log generalizing s with
  | fin => rfl
  | linea r unEspacio _ ih =>
    rw [List.forall_mem_cons] at visibles
    rw [List.map_cons, List.foldl_cons, List.foldl_cons, ih visibles.2,
      paso_congr (limpia_cuerpo unEspacio visibles.1)]
  | ruido r ajeno _ _ ih => rw [List.map_cons, List.foldl_cons, paso_ruido ajeno, ih visibles]

theorem enteras_log {ls : List Texto} {rs : List Renglon} (log : EnElLog ls rs)
    (visibles : ∀ l ∈ ls, Visible l) : ∀ r ∈ rs, ∀ c ∈ r.linea, esSalto c = false := by
  induction log with
  | fin => exact List.forall_mem_nil _
  | linea r _ _ ih =>
    rw [List.forall_mem_cons] at visibles ⊢
    exact ⟨visibles.1.entero, ih visibles.2⟩
  | ruido r _ entero _ ih => exact List.forall_mem_cons.mpr ⟨entero, ih visibles⟩

/-- What the parser gets from a log of these lines. -/
theorem parse_log {lower : Lower} {ls : List Texto} {rs : List Renglon} (log : EnElLog ls rs)
    (visibles : ∀ l ∈ ls, Visible l) :
    parseDumpOutput lower (textoDe rs) = (ls.foldl (paso lower) ⟨none, []⟩).dumps := by
  rw [parseDumpOutput, XeditConflicts.splitlines_textoDe (enteras_log log visibles),
    foldl_log log visibles]

/-! No end, no dump -/

theorem dumps_paso {lower : Lower} {s : Lectura} {raw : Texto} (open_ : ¬ marcaEnd <+: limpia raw) :
    (paso lower s raw).dumps = s.dumps := by
  have no_end : marcaEnd.isPrefixOf (limpia raw) = false := by
    rw [← Bool.not_eq_true, List.isPrefixOf_iff_prefix]
    exact open_
  unfold paso
  dsimp only
  rw [no_end]
  split
  · unfold leeBegin
    split <;> rfl
  · split
    · rfl
    · next d _ =>
      split
      · unfold leeVersion
        split
        · split <;> rfl
        · rfl
      · split
        · unfold leeElement
          split
          · split <;> rfl
          · rfl
        · rfl

theorem dumps_foldl {lower : Lower} {ls : List Texto} (open_ : ∀ l ∈ ls, ¬ marcaEnd <+: limpia l)
    (s : Lectura) : (ls.foldl (paso lower) s).dumps = s.dumps := by
  induction ls generalizing s with
  | nil => rfl
  | cons l ls ih =>
    rw [List.forall_mem_cons] at open_
    rw [List.foldl_cons, ih open_.2, dumps_paso open_.1]

theorem abiertas_log {ls : List Texto} {rs : List Renglon} (log : EnElLog ls rs)
    (visibles : ∀ l ∈ ls, Visible l) (open_ : ∀ l ∈ ls, ¬ marcaEnd <+: limpia l) :
    ∀ r ∈ rs, ¬ marcaEnd <+: limpia r.cuerpo := by
  induction log with
  | fin => exact List.forall_mem_nil _
  | linea r unEspacio _ ih =>
    rw [List.forall_mem_cons] at visibles open_ ⊢
    rw [limpia_cuerpo unEspacio visibles.1]
    exact ⟨open_.1, ih visibles.2 open_.2⟩
  | ruido r ajeno _ _ ih =>
    rw [List.forall_mem_cons]
    refine ⟨fun fin => ?_, ih visibles open_⟩
    rw [← List.isPrefixOf_iff_prefix] at fin
    simp [esRuido, fin] at ajeno

/-- Wherever a log without end line is cut, it has no dump. -/
theorem parse_cortado {lower : Lower} {ls : List Texto} {rs : List Renglon} (log : EnElLog ls rs)
    (visibles : ∀ l ∈ ls, Visible l) (open_ : ∀ l ∈ ls, ¬ marcaEnd <+: limpia l) {corte : Texto}
    (start : corte <+: textoDe rs) : parseDumpOutput lower corte = [] := by
  refine dumps_foldl (fun l mem fin => ?_) ⟨none, []⟩
  obtain ⟨m, line, short⟩ := prefix_of_mem_splitlines start mem
  rw [XeditConflicts.splitlines_textoDe (enteras_log log visibles)] at line
  obtain ⟨r, inside, rfl⟩ := List.mem_map.mp line
  exact abiertas_log log visibles open_ r inside (fin_de_prefijo short fin)

/-! Lines of the protocol -/

theorem splitOn_campo {a : Texto} (clean : '|' ∉ a) (t : Texto) :
    (a ++ '|' :: t).splitOn '|' = a :: t.splitOn '|' := by
  have plain : ∀ c ∈ a, (c == '|') = false := by
    intro c mem
    rw [beq_eq_false_iff_ne]
    exact fun same => clean (same ▸ mem)
  rw [List.splitOn_eq_splitOnP, List.splitOnP_append_cons_of_forall_mem plain _ rfl,
    List.splitOn_eq_splitOnP]

theorem splitOn_solo {a : Texto} (clean : '|' ∉ a) : a.splitOn '|' = [a] := by
  rw [List.splitOn_eq_splitOnP, List.splitOnP_eq_singleton]
  intro c mem
  rw [beq_eq_false_iff_ne]
  exact fun same => clean (same ▸ mem)

theorem splitMax_campo {a : Texto} (clean : '|' ∉ a) (n : Nat) (t : Texto) :
    splitMax (n + 1) (a ++ '|' :: t) = a :: splitMax n t := by
  have plain : ∀ c ∈ a, decide (c ≠ '|') = true := by
    intro c mem
    rw [decide_eq_true_eq]
    exact fun same => clean (same ▸ mem)
  rw [splitMax, if_pos (by simp), List.takeWhile_append_of_pos plain,
    List.dropWhile_append_of_pos plain]
  simp

theorem prefijo_propio (marca t : Texto) : marca.isPrefixOf (marca ++ t) = true := by
  rw [List.isPrefixOf_iff_prefix]
  exact List.prefix_append marca t

theorem paso_begin {lower : Lower} {s : Lectura} {raw t : Texto} (line : limpia raw = marcaBegin ++ t) :
    paso lower s raw = leeBegin lower s (marcaBegin ++ t) := by
  rw [paso, line]
  rw [if_pos (prefijo_propio marcaBegin t)]

theorem paso_version {lower : Lower} {s : Lectura} {d : RecordDump} {raw t : Texto}
    (line : limpia raw = marcaVersion ++ t) (open_ : s.abierto = some d) :
    paso lower s raw = leeVersion lower s d (marcaVersion ++ t) := by
  have other : marcaBegin.isPrefixOf (marcaVersion ++ t) = false := rfl
  rw [paso, line]
  rw [other, open_, if_neg Bool.false_ne_true]
  dsimp only
  rw [if_pos (prefijo_propio marcaVersion t)]

theorem paso_element {lower : Lower} {s : Lectura} {d : RecordDump} {raw t : Texto}
    (line : limpia raw = marcaElement ++ t) (open_ : s.abierto = some d) :
    paso lower s raw = leeElement lower s d (marcaElement ++ t) := by
  have other : marcaBegin.isPrefixOf (marcaElement ++ t) = false := rfl
  have no_version : marcaVersion.isPrefixOf (marcaElement ++ t) = false := rfl
  rw [paso, line]
  rw [other, open_, if_neg Bool.false_ne_true]
  dsimp only
  rw [no_version, if_neg Bool.false_ne_true, if_pos (prefijo_propio marcaElement t)]

theorem paso_end {lower : Lower} {s : Lectura} {d : RecordDump} {raw t : Texto}
    (line : limpia raw = marcaEnd ++ t) (open_ : s.abierto = some d) :
    paso lower s raw = leeEnd lower s d (marcaEnd ++ t) := by
  have other : marcaBegin.isPrefixOf (marcaEnd ++ t) = false := rfl
  have no_version : marcaVersion.isPrefixOf (marcaEnd ++ t) = false := rfl
  have no_element : marcaElement.isPrefixOf (marcaEnd ++ t) = false := rfl
  rw [paso, line]
  rw [other, open_, if_neg Bool.false_ne_true]
  dsimp only
  rw [no_version, if_neg Bool.false_ne_true, no_element, if_neg Bool.false_ne_true,
    if_pos (prefijo_propio marcaEnd t)]

end Lineas

section Campos
variable {fid plugin : Texto}

/-- The last field of a line is read without the white space at its end. -/
theorem limpia_linea {k u : Texto} (visible : Visible (k ++ '|' :: u)) :
    limpia (k ++ '|' :: u) = k ++ '|' :: u.rdropWhile isspace := by
  rw [limpia_visible visible, rdropWhile_append_cons_of_solid rfl]

theorem lee_begin (lower : Lower) (clean : '|' ∉ fid) (s : Lectura) (editor sig : Texto)
    (visible : Visible (marcaBegin ++ fid ++ barra ++ editor ++ barra ++ sig)) :
    ∃ editorId tipo, paso lower s (marcaBegin ++ fid ++ barra ++ editor ++ barra ++ sig) =
      { s with abierto := some ⟨normalizeFormId lower fid, editorId, tipo, []⟩ } := by
  have shape : marcaBegin ++ fid ++ barra ++ editor ++ barra ++ sig =
      (marcaBegin ++ fid ++ barra ++ editor) ++ '|' :: sig := by simp [barra]
  rw [shape] at visible ⊢
  have line : limpia (marcaBegin ++ fid ++ barra ++ editor ++ '|' :: sig) =
      marcaBegin ++ (fid ++ (barra ++ (editor ++ '|' :: sig.rdropWhile isspace))) := by
    rw [limpia_linea visible]
    simp
  rw [paso_begin line, leeBegin]
  have word : marcaBegin = "DUMP_BEGIN".toList ++ ['|'] := rfl
  have rest : (editor ++ '|' :: sig.rdropWhile isspace).splitOn '|' =
      editor.splitOn '|' ++ (sig.rdropWhile isspace).splitOn '|' := by
    rw [List.splitOn_eq_splitOnP, List.splitOnP_append_cons _ _ rfl, List.splitOn_eq_splitOnP,
      List.splitOn_eq_splitOnP]
  have split : (marcaBegin ++ (fid ++ (barra ++ (editor ++ '|' :: sig.rdropWhile isspace)))).splitOn '|' =
      "DUMP_BEGIN".toList :: fid ::
        (editor.splitOn '|' ++ (sig.rdropWhile isspace).splitOn '|') := by
    rw [word, List.append_assoc, List.singleton_append, splitOn_campo (by decide), barra,
      List.singleton_append, splitOn_campo clean, rest]
  rw [split]
  obtain ⟨a, as, first⟩ := List.exists_cons_of_ne_nil (List.splitOn_ne_nil '|' editor)
  obtain ⟨b, bs, second⟩ :=
    List.exists_cons_of_ne_nil (List.splitOn_ne_nil '|' (sig.rdropWhile isspace))
  rw [first, second]
  cases as with
  | nil => exact ⟨a, b, rfl⟩
  | cons c cs => exact ⟨a, c, rfl⟩

theorem lee_version (lower : Lower) (clean : '|' ∉ fid) (file : '|' ∉ plugin) {s : Lectura} {d : RecordDump}
    (open_ : s.abierto = some d) (same : d.formId = normalizeFormId lower fid) (gana : Bool)
    (visible : Visible (marcaVersion ++ fid ++ barra ++ plugin ++ barra ++
      if gana then ['1'] else ['0'])) :
    paso lower s (marcaVersion ++ fid ++ barra ++ plugin ++ barra ++ if gana then ['1'] else ['0']) =
      { s with abierto := some { d with versions := d.versions ++ [⟨plugin, gana, []⟩] } } := by
  have shape : marcaVersion ++ fid ++ barra ++ plugin ++ barra ++ (if gana then ['1'] else ['0']) =
      (marcaVersion ++ fid ++ barra ++ plugin) ++ '|' :: (if gana then ['1'] else ['0']) := by
    simp [barra]
  have kept : (if gana then ['1'] else ['0'] : Texto).rdropWhile isspace =
      if gana then ['1'] else ['0'] := by
    cases gana <;> rfl
  rw [shape] at visible ⊢
  have line : limpia (marcaVersion ++ fid ++ barra ++ plugin ++ '|' :: if gana then ['1'] else ['0']) =
      marcaVersion ++ (fid ++ (barra ++ (plugin ++ '|' :: if gana then ['1'] else ['0']))) := by
    rw [limpia_linea visible, kept]
    simp
  have word : marcaVersion = "VERSION".toList ++ ['|'] := rfl
  have split : (marcaVersion ++ (fid ++ (barra ++ (plugin ++ '|' ::
      if gana then ['1'] else ['0'])))).splitOn '|' =
      ["VERSION".toList, fid, plugin, if gana then ['1'] else ['0']] := by
    rw [word, List.append_assoc, List.singleton_append, splitOn_campo (by decide), barra,
      List.singleton_append, splitOn_campo clean, splitOn_campo file, splitOn_solo]
    cases gana <;> decide
  rw [paso_version line open_, leeVersion, split]
  dsimp only
  rw [if_neg (fun other => other same.symm)]
  cases gana <;> rfl

theorem lee_element (lower : Lower) (clean : '|' ∉ fid) (file : '|' ∉ plugin) {s : Lectura} {d : RecordDump}
    (open_ : s.abierto = some d) (same : d.formId = normalizeFormId lower fid) {name value : Texto}
    (path : '|' ∉ name) (visible : Visible (lineaElement fid plugin name value)) :
    paso lower s (lineaElement fid plugin name value) =
      { s with abierto := some { d with
        versions := agrega plugin (name, value.rdropWhile isspace) d.versions } } := by
  have shape : lineaElement fid plugin name value =
      (marcaElement ++ fid ++ barra ++ plugin ++ barra ++ name) ++ '|' :: value := by
    simp [lineaElement, barra]
  rw [shape] at visible ⊢
  have line : limpia (marcaElement ++ fid ++ barra ++ plugin ++ barra ++ name ++ '|' :: value) =
      marcaElement ++ (fid ++ (barra ++ (plugin ++ (barra ++ (name ++ '|' ::
        value.rdropWhile isspace))))) := by
    rw [limpia_linea visible]
    simp
  have word : marcaElement = "ELEMENT".toList ++ ['|'] := rfl
  have split : splitMax 4 (marcaElement ++ (fid ++ (barra ++ (plugin ++ (barra ++ (name ++ '|' ::
      value.rdropWhile isspace)))))) =
      ["ELEMENT".toList, fid, plugin, name, value.rdropWhile isspace] := by
    rw [word, List.append_assoc, List.singleton_append, splitMax_campo (by decide), barra,
      List.singleton_append, splitMax_campo clean, List.singleton_append, splitMax_campo file,
      splitMax_campo path, splitMax]
  rw [paso_element line open_, leeElement, split]
  dsimp only
  rw [if_neg (fun other => other same.symm)]

theorem lee_end (lower : Lower) (clean : '|' ∉ fid) {s : Lectura} {d : RecordDump} (open_ : s.abierto = some d)
    (same : d.formId = normalizeFormId lower fid) (solid : fid.rdropWhile isspace = fid)
    (visible : Visible (marcaEnd ++ fid)) :
    paso lower s (marcaEnd ++ fid) = ⟨none, s.dumps ++ [d]⟩ := by
  have word : marcaEnd = "DUMP_END".toList ++ ['|'] := rfl
  have line : limpia (marcaEnd ++ fid) = marcaEnd ++ fid := by
    rw [word, List.append_assoc, List.singleton_append] at visible ⊢
    rw [limpia_linea visible, solid]
  have split : (marcaEnd ++ fid).splitOn '|' = ["DUMP_END".toList, fid] := by
    rw [word, List.append_assoc, List.singleton_append, splitOn_campo (by decide), splitOn_solo clean]
  rw [paso_end line open_, leeEnd, split]
  dsimp only
  rw [if_neg (fun other => other same.symm)]

theorem agrega_ultima {vs : List RecordVersion} (fresh : ∀ w ∈ vs, w.plugin ≠ plugin) (gana : Bool)
    (leidos : List (Texto × Texto)) (par : Texto × Texto) :
    agrega plugin par (vs ++ [⟨plugin, gana, leidos⟩]) = vs ++ [⟨plugin, gana, leidos ++ [par]⟩] := by
  induction vs with
  | nil => rw [List.nil_append, agrega, if_pos rfl, List.nil_append]
  | cons w vs ih =>
    rw [List.forall_mem_cons] at fresh
    rw [List.cons_append, agrega, if_neg fresh.1, ih fresh.2, List.cons_append]

end Campos

/-! What the script writes -/

theorem stringReplace_ausente {s : Texto} {viejo : Char} (absent : viejo ∉ s) (nuevo : Char) :
    stringReplace s viejo nuevo = s := by
  unfold stringReplace
  conv_rhs => rw [← List.map_id s]
  apply List.map_congr_left
  intro c mem
  have other : c ≠ viejo := fun same => absent (same ▸ mem)
  exact if_neg other

theorem sanitizeValue_cabe {t : Texto} (cabe : Cabe t) : sanitizeValue t = t := by
  have no_return : '\r' ∉ t := fun mem => Bool.noConfusion (cabe.entero '\r' mem)
  have no_feed : '\n' ∉ t := fun mem => Bool.noConfusion (cabe.entero '\n' mem)
  rw [sanitizeValue, stringReplace_ausente cabe.barra, stringReplace_ausente no_return,
    stringReplace_ausente no_feed]
  exact if_neg (Nat.not_lt.mpr cabe.corto)

/-- With few elements none is left out. -/
theorem emit_elements {fid plugin : Texto} {emitted : Nat} {els : List Elemento}
    (few : emitted + els.length ≤ MAX_ELEMENTS) (caben : ∀ el ∈ els, Cabe el.name ∧ Cabe el.value)
    (conValor : ∀ el ∈ els, el.value ≠ []) :
    emitVersionElements fid plugin emitted els =
      els.map fun el => lineaElement fid plugin el.name el.value := by
  induction els generalizing emitted with
  | nil => rfl
  | cons el els ih =>
    rw [List.forall_mem_cons] at caben conValor
    rw [List.length_cons] at few
    rw [emitVersionElements, if_neg (by omega), if_neg conValor.1,
      ih (by omega) caben.2 conValor.2, sanitizeValue_cabe caben.1.1, sanitizeValue_cabe caben.1.2,
      List.map_cons]

def lineasVersion (fid winner : Texto) (v : Version) : List Texto :=
  (marcaVersion ++ fid ++ barra ++ v.file.texto ++ barra ++
      if decide (v.file.texto = winner) then ['1'] else ['0']) ::
    v.elements.map fun el => lineaElement fid v.file.texto el.name el.value

def Volcado.fid (e : Volcado) : Texto := intToHex e.formId

def Volcado.inicio (e : Volcado) : Texto :=
  marcaBegin ++ e.fid ++ barra ++ e.editorId ++ barra ++ e.signature

def Volcado.lineas (e : Volcado) : List Texto :=
  e.inicio :: e.versiones.flatMap (lineasVersion e.fid e.winningOverride.texto)

theorem process_eq (e : Volcado) : process e.toMainRecord = e.lineas ++ [marcaEnd ++ e.fid] := by
  have emit : ∀ v ∈ e.versiones, emitVersion e.fid e.winningOverride.texto v =
      lineasVersion e.fid e.winningOverride.texto v := by
    intro v mem
    have few := e.pocos v mem
    rw [emitVersion, lineasVersion, emit_elements (by omega) (e.caben v mem) (e.conValor v mem)]
    by_cases wins : v.file.texto = e.winningOverride.texto <;> simp [wins]
  rw [MainRecord.versiones, List.forall_mem_cons] at emit
  have others : e.overrides.flatMap (emitVersion e.fid e.winningOverride.texto) =
      e.overrides.flatMap (lineasVersion e.fid e.winningOverride.texto) :=
    List.flatMap_congr emit.2
  have master : ¬(!e.isMaster) = true := by simp [e.maestro]
  have critical : ¬(!isCriticalType e.signature) = true := by simp [e.critico]
  rw [process, if_neg (Nat.not_lt.mpr e.conOverrides), if_neg master]
  dsimp only
  rw [if_neg critical, Volcado.lineas, MainRecord.versiones, List.flatMap_cons]
  change _ :: (emitVersion e.fid e.winningOverride.texto e.version ++ _ ++ _) = _
  rw [emit.1]
  change _ :: (_ ++ e.overrides.flatMap (emitVersion e.fid e.winningOverride.texto) ++ _) = _
  rw [others]
  rfl

theorem fid_facts (e : Volcado) : ('|' ∉ e.fid ∧ ∀ c ∈ e.fid, esSalto c = false) ∧
    e.fid.rdropWhile isspace = e.fid := by
  have readable := XeditConflicts.legible_intToHex e.formId
  exact ⟨⟨readable.barra, readable.entero⟩, readable.recortado.rdropWhile⟩

theorem sin_barra (n : NombrePlugin) : '|' ∉ n.texto := by
  intro mem
  have valid := n.valido '|' mem
  revert valid
  decide

/-- A text without characters of a kind, seen by running through it. -/
theorem ninguno {kind : Char → Bool} {t : Texto} (clean : t.all (fun c => !kind c) = true) :
    ∀ c ∈ t, kind c = false := by
  intro c mem
  simpa using List.all_eq_true.mp clean c mem

theorem entero_barra : ∀ c ∈ barra, esSalto c = false := ninguno rfl

theorem visible_linea {marca t : Texto} (word : ∃ c u, marca = c :: u ∧ isspace c = false ∧ c ≠ '[')
    (clean : ∀ c ∈ marca, esSalto c = false) (rest : ∀ c ∈ t, esSalto c = false) :
    Visible (marca ++ t) := by
  obtain ⟨c, u, rfl, solid, other⟩ := word
  constructor
  · exact ⟨c, u ++ t, rfl, solid, other⟩
  · exact List.forall_mem_append.mpr ⟨clean, rest⟩

theorem critico_entero {sig : Texto} (critico : isCriticalType sig = true) :
    ∀ c ∈ sig, esSalto c = false := by
  have all : (textos ["NPC_", "QUST", "SCEN", "INFO", "PERK", "SPEL", "MGEF", "FACT", "DIAL",
      "PACK"]).all (fun s => s.all fun c => !esSalto c) = true := rfl
  rw [isCriticalType, List.contains_iff_mem] at critico
  exact ninguno (List.all_eq_true.mp all sig critico)

theorem visible_inicio (e : Volcado) : Visible e.inicio := by
  have parts : e.inicio = marcaBegin ++ (e.fid ++ (barra ++ (e.editorId ++ (barra ++ e.signature)))) := by
    simp [Volcado.inicio]
  rw [parts]
  refine visible_linea ⟨'D', _, rfl, rfl, by decide⟩ (ninguno rfl) ?_
  simp only [List.forall_mem_append]
  exact ⟨(fid_facts e).1.2, entero_barra, e.editorEntero, entero_barra, critico_entero e.critico⟩

theorem visible_end (e : Volcado) : Visible (marcaEnd ++ e.fid) :=
  visible_linea ⟨'D', _, rfl, rfl, by decide⟩ (ninguno rfl) (fid_facts e).1.2

theorem visible_version (e : Volcado) {v : Version} (mem : v ∈ e.versiones) (gana : Bool) :
    Visible (marcaVersion ++ e.fid ++ barra ++ v.file.texto ++ barra ++
      if gana then ['1'] else ['0']) := by
  have parts : marcaVersion ++ e.fid ++ barra ++ v.file.texto ++ barra ++
      (if gana then ['1'] else ['0']) = marcaVersion ++ (e.fid ++ (barra ++ (v.file.texto ++ (barra ++
        if gana then ['1'] else ['0'])))) := by simp
  rw [parts]
  refine visible_linea ⟨'V', _, rfl, rfl, by decide⟩ (ninguno rfl) ?_
  simp only [List.forall_mem_append]
  refine ⟨(fid_facts e).1.2, entero_barra, e.archivosEnteros v mem, entero_barra, ?_⟩
  cases gana <;> exact ninguno rfl

theorem visible_element (e : Volcado) {v : Version} (mem : v ∈ e.versiones) {el : Elemento}
    (inside : el ∈ v.elements) : Visible (lineaElement e.fid v.file.texto el.name el.value) := by
  have parts : lineaElement e.fid v.file.texto el.name el.value = marcaElement ++ (e.fid ++ (barra ++
      (v.file.texto ++ (barra ++ (el.name ++ (barra ++ el.value)))))) := by simp [lineaElement]
  rw [parts]
  refine visible_linea ⟨'E', _, rfl, rfl, by decide⟩ (ninguno rfl) ?_
  have fits := e.caben v mem el inside
  simp only [List.forall_mem_append]
  exact ⟨(fid_facts e).1.2, entero_barra, e.archivosEnteros v mem, entero_barra, fits.1.entero,
    entero_barra, fits.2.entero⟩

theorem visibles_lineas (e : Volcado) : ∀ l ∈ e.lineas, Visible l := by
  rw [Volcado.lineas, List.forall_mem_cons]
  refine ⟨visible_inicio e, fun l mem => ?_⟩
  obtain ⟨v, version, line⟩ := List.mem_flatMap.mp mem
  cases List.mem_cons.mp line with
  | inl first => exact first ▸ visible_version e version _
  | inr later =>
    obtain ⟨el, inside, rfl⟩ := List.mem_map.mp later
    exact visible_element e version inside

theorem visibles_process (e : Volcado) : ∀ l ∈ process e.toMainRecord, Visible l := by
  rw [process_eq, List.forall_mem_append, List.forall_mem_singleton]
  exact ⟨visibles_lineas e, visible_end e⟩

/-- Only the last line of the script ends a dump. -/
theorem abiertas_lineas (e : Volcado) : ∀ l ∈ e.lineas, ¬ marcaEnd <+: limpia l := by
  have no_end : ∀ {l : Texto} (marca : Texto), Visible l → marca <+: l →
      (∀ c ∈ marca, isspace c = false) → (∀ u, marcaEnd.isPrefixOf (marca ++ u) = false) →
      ¬ marcaEnd <+: limpia l := by
    rintro _ marca visible ⟨t, rfl⟩ solid other fin
    rw [limpia_visible visible, rdropWhile_solid_append solid, ← List.isPrefixOf_iff_prefix,
      other] at fin
    cases fin
  intro l mem
  have visible := visibles_lineas e l mem
  rw [Volcado.lineas, List.mem_cons] at mem
  cases mem with
  | inl first =>
    refine no_end marcaBegin visible ?_ (ninguno rfl) (fun u => rfl)
    simp [first, Volcado.inicio]
  | inr later =>
    obtain ⟨v, version, line⟩ := List.mem_flatMap.mp later
    cases List.mem_cons.mp line with
    | inl head =>
      refine no_end marcaVersion visible ?_ (ninguno rfl) (fun u => rfl)
      simp [head]
    | inr inner =>
      obtain ⟨el, inside, rfl⟩ := List.mem_map.mp inner
      refine no_end marcaElement visible ?_ (ninguno rfl) (fun u => rfl)
      simp [lineaElement]

/-! What the parser reads -/

/-- A version as it is read: no value keeps the white space at its end. -/
def Version.recortada (winner : Texto) (v : Version) : RecordVersion :=
  ⟨v.file.texto, v.file.texto = winner, v.elements.map fun el => (el.name, el.value.rdropWhile isspace)⟩

theorem foldl_elements {lower : Lower} (e : Volcado) {v : Version} (mem : v ∈ e.versiones)
    {els : List Elemento} (part : ∀ el ∈ els, el ∈ v.elements) {d : RecordDump}
    (same : d.formId = normalizeFormId lower e.fid) {vs : List RecordVersion}
    (fresh : ∀ u ∈ vs, u.plugin ≠ v.file.texto) (gana : Bool) (leidos : List (Texto × Texto))
    (dumps : List RecordDump) :
    (els.map fun el => lineaElement e.fid v.file.texto el.name el.value).foldl (paso lower)
        ⟨some { d with versions := vs ++ [⟨v.file.texto, gana, leidos⟩] }, dumps⟩ =
      ⟨some { d with versions := vs ++ [⟨v.file.texto, gana,
        leidos ++ els.map fun el => (el.name, el.value.rdropWhile isspace)⟩] }, dumps⟩ := by
  induction els generalizing leidos with
  | nil => rw [List.map_nil, List.foldl_nil, List.map_nil, List.append_nil]
  | cons el els ih =>
    rw [List.forall_mem_cons] at part
    have fits := e.caben v mem el part.1
    have step := lee_element lower (fid_facts e).1.1 (sin_barra v.file)
      (s := ⟨some { d with versions := vs ++ [⟨v.file.texto, gana, leidos⟩] }, dumps⟩) rfl same
      fits.1.barra (visible_element e mem part.1)
    rw [List.map_cons, List.foldl_cons, step]
    dsimp only
    rw [agrega_ultima fresh, ih part.2, List.map_cons, List.append_assoc, List.singleton_append]

theorem foldl_version {lower : Lower} (e : Volcado) {v : Version} (mem : v ∈ e.versiones)
    {d : RecordDump} (fresh : ∀ u ∈ d.versions, u.plugin ≠ v.file.texto)
    (same : d.formId = normalizeFormId lower e.fid) (dumps : List RecordDump) :
    (lineasVersion e.fid e.winningOverride.texto v).foldl (paso lower) ⟨some d, dumps⟩ =
      ⟨some { d with versions := d.versions ++ [v.recortada e.winningOverride.texto] }, dumps⟩ := by
  have step := lee_version lower (fid_facts e).1.1 (sin_barra v.file)
    (s := ⟨some d, dumps⟩) rfl same (decide (v.file.texto = e.winningOverride.texto))
    (visible_version e mem _)
  rw [lineasVersion, List.foldl_cons, step]
  dsimp only
  rw [foldl_elements e mem (fun _ inside => inside) same fresh]
  rfl

theorem foldl_versiones {lower : Lower} (e : Volcado) {vs : List Version}
    (part : ∀ v ∈ vs, v ∈ e.versiones) (distinct : (vs.map (·.file.texto)).Nodup) {d : RecordDump}
    (fresh : ∀ v ∈ vs, ∀ u ∈ d.versions, u.plugin ≠ v.file.texto)
    (same : d.formId = normalizeFormId lower e.fid) (dumps : List RecordDump) :
    (vs.flatMap (lineasVersion e.fid e.winningOverride.texto)).foldl (paso lower) ⟨some d, dumps⟩ =
      ⟨some { d with versions := d.versions ++ vs.map (Version.recortada e.winningOverride.texto) },
        dumps⟩ := by
  induction vs generalizing d with
  | nil =>
    rw [List.map_nil, List.append_nil]
    rfl
  | cons v vs ih =>
    rw [List.forall_mem_cons] at part fresh
    rw [List.map_cons, List.nodup_cons] at distinct
    rw [List.flatMap_cons, List.foldl_append, foldl_version e part.1 fresh.1 same, ih part.2 distinct.2]
    · simp
    · intro w mem u old equal
      cases List.mem_append.mp old with
      | inl before => exact fresh.2 w mem u before equal
      | inr own =>
        rw [List.mem_singleton] at own
        rw [own] at equal
        exact distinct.1 (List.mem_map.mpr ⟨w, mem, equal.symm⟩)
    · exact same

/-- The dump that is read from any log of the record. -/
theorem parse_volcado (lower : Lower) (e : Volcado) : ∃ editorId tipo, ∀ registro,
    EnElLog (process e.toMainRecord) registro → parseDumpOutput lower (textoDe registro) =
      [⟨normalizeFormId lower e.fid, editorId, tipo,
        e.versiones.map (Version.recortada e.winningOverride.texto)⟩] := by
  obtain ⟨editorId, tipo, step⟩ := lee_begin lower (fid_facts e).1.1 ⟨none, []⟩ e.editorId
    e.signature (visible_inicio e)
  refine ⟨editorId, tipo, fun registro log => ?_⟩
  rw [parse_log log (visibles_process e), process_eq, List.foldl_append, List.foldl_cons,
    List.foldl_nil, Volcado.lineas, List.foldl_cons, Volcado.inicio, step]
  dsimp only
  rw [foldl_versiones e (fun _ mem => mem) e.archivosDistintos (fun _ _ _ old => by cases old) rfl,
    lee_end lower (fid_facts e).1.1 rfl rfl (fid_facts e).2 (visible_end e)]
  rfl

end RecordDumps
