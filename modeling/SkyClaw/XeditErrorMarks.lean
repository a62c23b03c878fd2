import SkyClaw.XeditScriptScan

set_option linter.all false

/-!
When a prefix in front of the lines of the log changes the errors that are found.
`parse` matches at the start of a line, so a prefix hides an error; the script's parser
searches, so a prefix only changes the message of a line that an error waits for.
-/
namespace XeditErrors
open TrimmedText TextLines LiteralPatterns
open XeditConflicts (mergeProtocolOutput quitaMarca trasMarca trasCaracter trasDigitos esDigito Marca
  esProtocolo esMayuscula entera_marca)

/-! The condition -/

def errorDe (l : Texto) : Option Texto := (hallazgo l).bind Hallazgo.error?

def Marcada (m : Nat → Option Marca) (log : Texto) : Prop :=
  ∃ i < (splitlines log).length, (m i).isSome = true

/-- No line with an error gets a prefix, and stdout has no error if a prefix is what
    makes the log count. -/
def SinOcultar (m : Nat → Option Marca) (log stdout : Texto) : Prop :=
  if strip isspace log ≠ [] then
    ∀ (i : Nat) (l : Texto), (splitlines log)[i]? = some l → (m i).isSome = true → errorDe l = none
  else Marcada m log → ∀ l ∈ splitlines stdout, errorDe l = none

/-- No prefix that stays gets into a line whose text is waited for as a message. -/
def SinEspera (m : Nat → Option Marca) (log stdout : Texto) : Prop :=
  ∀ h ∈ cabezasDeError,
    if strip isspace log ≠ [] then
      ∀ (i : Nat) (l : Texto) (mk : Marca), (splitlines log)[i]? = some l → m i = some mk →
        espera h false (((splitlines log).take i).map quitaMarca) = true →
        strip isspace (quitaMarca (mk.texto ++ l)) = strip isspace (quitaMarca l)
    else Marcada m log → ∀ l ∈ splitlines stdout, primera h l = none

/-! What the merge gives -/

theorem map_antepone (p : Nat → Texto) (i : Nat) (rs : List (Texto × Texto)) :
    (antepone p i rs).map Prod.fst = (rs.map Prod.fst).mapIdx fun k l => p (i + k) ++ l := by
  induction rs generalizing i with
  | nil => rfl
  | cons r rs ih =>
    obtain ⟨l, fin⟩ := r
    have shift : ∀ k, i + 1 + k = i + (k + 1) := by omega
    rw [antepone, List.map_cons, ih, List.map_cons, List.mapIdx_cons]
    simp only [shift]
    rfl

theorem entera_enCabeza (m : Option Marca) : ∀ c ∈ Marca.enCabeza m, esSalto c = false := by
  cases m with
  | none => exact List.forall_mem_nil _
  | some mk => exact entera_marca mk

theorem splitlines_prefija (m : Nat → Option Marca) (log : Texto) :
    splitlines (prefija m log) = (splitlines log).mapIdx fun i l => Marca.enCabeza (m i) ++ l := by
  have fits := (encaja_renglones log).antepone (fun i => entera_enCabeza (m i)) 0
  rw [prefija, splitlines_textoDeRenglones fits, map_antepone, splitlines_renglones]
  simp only [Nat.zero_add]

theorem mem_antepone {p : Nat → Texto} {c : Char} {rs : List (Texto × Texto)} (i : Nat)
    (mem : c ∈ textoDeRenglones rs) : c ∈ textoDeRenglones (antepone p i rs) := by
  induction rs generalizing i with
  | nil => exact mem
  | cons r rs ih =>
    obtain ⟨l, fin⟩ := r
    rw [textoDeRenglones_cons, List.mem_append, List.mem_append] at mem
    rw [antepone, textoDeRenglones_cons, List.mem_append, List.mem_append, List.mem_append]
    cases mem with
    | inl line => exact Or.inl (Or.inr line)
    | inr rest => exact Or.inr (rest.imp id fun later => ih (i + 1) later)

theorem mem_antepone_marca {p : Nat → Texto} {c : Char} {rs : List (Texto × Texto)} {i k : Nat}
    (inside : k < rs.length) (mem : c ∈ p (i + k)) : c ∈ textoDeRenglones (antepone p i rs) := by
  induction rs generalizing i k with
  | nil => exact absurd inside (Nat.not_lt_zero k)
  | cons r rs ih =>
    obtain ⟨l, fin⟩ := r
    rw [antepone, textoDeRenglones_cons, List.mem_append, List.mem_append, List.mem_append]
    cases k with
    | zero => exact Or.inl (Or.inl mem)
    | succ k =>
      have later : c ∈ p (i + 1 + k) := by
        rw [show i + 1 + k = i + (k + 1) by omega]
        exact mem
      exact Or.inr (Or.inr (ih (Nat.lt_of_succ_lt_succ inside) later))

theorem antepone_nada {p : Nat → Texto} {i : Nat} {rs : List (Texto × Texto)}
    (none : ∀ k < rs.length, p (i + k) = []) : antepone p i rs = rs := by
  induction rs generalizing i with
  | nil => rfl
  | cons r rs ih =>
    obtain ⟨l, fin⟩ := r
    have first : p i = [] := none 0 (Nat.zero_lt_succ _)
    have rest : ∀ k < rs.length, p (i + 1 + k) = [] := by
      intro k inside
      rw [show i + 1 + k = i + (k + 1) by omega]
      exact none (k + 1) (Nat.succ_lt_succ inside)
    rw [antepone, first, List.nil_append, ih rest]

theorem length_renglones (t : Texto) : (renglones t).length = (splitlines t).length := by
  rw [splitlines_renglones, List.length_map]

theorem prefija_nada {m : Nat → Option Marca} {log : Texto} (unmarked : ¬ Marcada m log) :
    prefija m log = log := by
  have none : ∀ k < (renglones log).length, Marca.enCabeza (m (0 + k)) = [] := by
    intro k inside
    rw [length_renglones] at inside
    cases here : m (0 + k) with
    | none => rfl
    | some mk =>
      rw [Nat.zero_add] at here
      exact absurd ⟨k, inside, by rw [here, Option.isSome_some]⟩ unmarked
  rw [prefija, antepone_nada none, texto_renglones]

theorem strip_ne_nil {t : Texto} {c : Char} (mem : c ∈ t) (solid : isspace c = false) :
    strip isspace t ≠ [] := by
  rw [Ne, strip_eq_nil_iff]
  intro blank
  rw [blank c mem] at solid
  cases solid

theorem exists_solid {t : Texto} (nonblank : strip isspace t ≠ []) : ∃ c ∈ t, isspace c = false := by
  by_contra none
  rw [Ne, strip_eq_nil_iff] at nonblank
  apply nonblank
  intro c mem
  by_contra solid
  exact none ⟨c, mem, by simpa using solid⟩

theorem prefija_nonblank {log : Texto} (m : Nat → Option Marca) (nonblank : strip isspace log ≠ []) :
    strip isspace (prefija m log) ≠ [] := by
  obtain ⟨c, mem, solid⟩ := exists_solid nonblank
  refine strip_ne_nil (mem_antepone 0 ?_) solid
  rw [texto_renglones]
  exact mem

theorem corchete_marca (mk : Marca) : '[' ∈ mk.texto := by simp [Marca.texto]

theorem prefija_marcada {m : Nat → Option Marca} {log : Texto} (marked : Marcada m log) :
    strip isspace (prefija m log) ≠ [] := by
  obtain ⟨i, inside, some_mark⟩ := marked
  obtain ⟨mk, here⟩ := Option.isSome_iff_exists.mp some_mark
  have bracket : '[' ∈ Marca.enCabeza (m (0 + i)) := by
    rw [Nat.zero_add, here]
    exact corchete_marca mk
  rw [← length_renglones] at inside
  exact strip_ne_nil (mem_antepone_marca inside bracket) (by decide)

theorem rdropWhile_entera {l : Texto} (solid : ∀ c ∈ l, esSalto c = false) :
    l.rdropWhile (· = '\r') = l := by
  rw [List.rdropWhile_eq_self_iff]
  intro nonempty isReturn
  have last := solid _ (List.getLast_mem nonempty)
  rw [decide_eq_true_eq] at isReturn
  rw [isReturn] at last
  exact absurd last (by decide)

/-- The merged text of a source. -/
def junta (fuente : Texto) : Texto := ['\n'].intercalate ((splitlines fuente).map quitaMarca)

theorem merge_eq (stdout log : Texto) :
    mergeProtocolOutput stdout log = junta (if strip isspace log ≠ [] then log else stdout) := by
  rw [mergeProtocolOutput, junta]
  congr 1
  apply List.map_congr_left
  intro l mem
  rw [rdropWhile_entera (solid_of_mem_splitlines mem)]

/-! What `parse` finds -/

theorem trasCaracter_some {c : Char} {t r : Texto} (found : trasCaracter c t = some r) : t = c :: r := by
  cases t with
  | nil => cases found
  | cons d t =>
    simp only [trasCaracter] at found
    split at found
    · next same =>
      cases found
      rw [same]
    · cases found

theorem trasDigitos_some {desde hasta : Nat} {t r : Texto} (found : trasDigitos desde hasta t = some r) :
    ∃ ds : Texto, t = ds ++ r ∧ ∀ d ∈ ds, esDigito d = true := by
  unfold trasDigitos at found
  dsimp only at found
  split at found
  · cases found
    exact ⟨t.takeWhile esDigito, List.takeWhile_append_dropWhile.symm,
      fun d mem => List.mem_takeWhile_imp mem⟩
  · cases found

/-- A character of a prefix. -/
def deMarca (c : Char) : Bool := c = '[' || c = ']' || c = ':' || esDigito c || isspace c

theorem deMarca_digitos {ds : Texto} (digits : ∀ d ∈ ds, esDigito d = true) : ∀ d ∈ ds, deMarca d = true := by
  intro d mem
  simp only [deMarca, digits d mem, Bool.or_true, Bool.true_or]

theorem trasMarca_some {t w : Texto} (found : trasMarca t = some w) :
    esProtocolo w = true ∧ ∃ p : Texto, t = p ++ w ∧ ∀ c ∈ p, deMarca c = true := by
  unfold trasMarca at found
  simp only [Option.bind_eq_bind, Option.bind_eq_some_iff] at found
  obtain ⟨t₁, open_, t₂, hour, t₃, colon, t₄, minute, t₅, close_, blank⟩ := found
  obtain ⟨hs, shape₁, digits₁⟩ := trasDigitos_some hour
  obtain ⟨ms, shape₂, digits₂⟩ := trasDigitos_some minute
  have seconds : ∃ p : Texto, t₄ = p ++ ((trasCaracter ':' t₄).bind (trasDigitos 2 2)).getD t₄ ∧
      ∀ c ∈ p, deMarca c = true := by
    cases sec : (trasCaracter ':' t₄).bind (trasDigitos 2 2) with
    | none => exact ⟨[], rfl, List.forall_mem_nil _⟩
    | some u =>
      rw [Option.bind_eq_some_iff] at sec
      obtain ⟨v, colon, digits⟩ := sec
      obtain ⟨ss, shape, all⟩ := trasDigitos_some digits
      refine ⟨':' :: ss, ?_, List.forall_mem_cons.mpr ⟨by decide, deMarca_digitos all⟩⟩
      rw [trasCaracter_some colon, shape]
      rfl
  obtain ⟨ss, shape₃, all⟩ := seconds
  split at blank
  · cases blank
  · split at blank
    · next word =>
      cases blank
      refine ⟨word, '[' :: (hs ++ ':' :: (ms ++ (ss ++ ']' :: t₅.takeWhile isspace))), ?_, ?_⟩
      · have ends := trasCaracter_some close_
        rw [trasCaracter_some open_, shape₁, trasCaracter_some colon, shape₂]
        conv => lhs; rw [shape₃, ends]
        simp only [List.cons_append, List.append_assoc, List.takeWhile_append_dropWhile]
      · have blanks : ∀ c ∈ t₅.takeWhile isspace, deMarca c = true := by
          intro c mem
          simp only [deMarca, List.mem_takeWhile_imp mem, Bool.or_true]
        simp only [List.forall_mem_cons, List.forall_mem_append]
        exact ⟨by decide, deMarca_digitos digits₁, by decide, deMarca_digitos digits₂, all,
          by decide, blanks⟩
    · cases blank

theorem deMarca_texto (mk : Marca) : ∀ c ∈ mk.texto, deMarca c = true := by
  have digit : ∀ c : Char, c.isDigit = true → deMarca c = true := by
    intro c ascii
    simp only [deMarca, XeditConflicts.esDigito_isDigit ascii, Bool.or_true, Bool.true_or]
  have digits := mk.digitos
  simp only [List.forall_mem_append] at digits
  obtain ⟨⟨hour, minute⟩, second⟩ := digits
  have blanks : ∀ c ∈ List.replicate (mk.espacios + 1) ' ', deMarca c = true := by
    intro c mem
    rw [List.eq_of_mem_replicate mem]
    decide
  simp only [Marca.texto, List.forall_mem_append, List.forall_mem_singleton]
  refine ⟨⟨⟨⟨⟨⟨by decide, fun c mem => digit c (hour c mem)⟩, by decide⟩,
    fun c mem => digit c (minute c mem)⟩, ?_⟩, by decide⟩, blanks⟩
  cases sec : mk.segundo with
  | none => simp
  | some s =>
    rw [sec, Option.getD_some] at second
    exact List.forall_mem_cons.mpr ⟨by decide, fun c mem => digit c (second c mem)⟩

theorem quitaMarca_suffix (t : Texto) :
    ∃ p : Texto, t = p ++ quitaMarca t ∧ ∀ c ∈ p, deMarca c = true := by
  unfold quitaMarca
  cases found : trasMarca t with
  | none => exact ⟨[], rfl, List.forall_mem_nil _⟩
  | some w => exact (trasMarca_some found).2

theorem errorDe_eq (l : Texto) : errorDe l =
    if strip isspace l = [] ∨ (processingLine (strip isspace l)).isSome = true ∨
      (detailedConflict (strip isspace l)).isSome = true ∨ (conflictLine (strip isspace l)).isSome = true
    then none else errorLine (strip isspace l) := by
  unfold errorDe hallazgo
  dsimp only
  by_cases blank : strip isspace l = []
  · rw [if_pos blank, if_pos (Or.inl blank)]
    rfl
  · rw [if_neg blank]
    cases processingLine (strip isspace l) with
    | some p => simp [Hallazgo.error?]
    | none =>
      cases detailedConflict (strip isspace l) with
      | some c => simp [Hallazgo.error?]
      | none =>
        cases conflictLine (strip isspace l) with
        | some d => simp [Hallazgo.error?]
        | none =>
          cases errorLine (strip isspace l) with
          | some e => simp [Hallazgo.error?, blank]
          | none => simp [blank]

theorem errorDe_none {l : Texto} (missed : errorLine (strip isspace l) = none) : errorDe l = none := by
  rw [errorDe_eq]
  split
  · rfl
  · exact missed

theorem errorDe_corchete (t : Texto) : errorDe ('[' :: t) = none := by
  apply errorDe_none
  rw [strip_cons_of_solid (by decide)]
  rfl

/-- A character of the word of a protocol line. -/
def dePalabra (c : Char) : Bool := esMayuscula c || c = '_'

theorem solid_dePalabra {c : Char} (word : dePalabra c = true) : isspace c = false ∧ c ≠ ':' := by
  have range : (65 ≤ c.toNat ∧ c.toNat ≤ 90) ∨ c = '_' := by
    simp only [dePalabra, esMayuscula, Bool.or_eq_true, Bool.and_eq_true, decide_eq_true_eq] at word
    exact word.imp (fun r => ⟨r.1, r.2⟩) id
  cases range with
  | inr same =>
    subst same
    decide
  | inl range =>
    constructor
    · simp only [isspace, Bool.or_eq_false_iff, Bool.and_eq_false_iff, decide_eq_false_iff_not]
      omega
    · intro same
      subst same
      revert range
      decide

theorem esProtocolo_some {w : Texto} (protocol : esProtocolo w = true) :
    ∃ p r : Texto, w = p ++ '|' :: r ∧ p ≠ [] ∧ ∀ c ∈ p, dePalabra c = true := by
  cases w with
  | nil => cases protocol
  | cons c t =>
    simp only [esProtocolo, Bool.and_eq_true, beq_iff_eq] at protocol
    obtain ⟨capital, bar⟩ := protocol
    obtain ⟨r, rest⟩ : ∃ r, (t.dropWhile fun d => esMayuscula d || d = '_') = '|' :: r := by
      cases shape : t.dropWhile fun d => esMayuscula d || d = '_' with
      | nil => rw [shape] at bar; cases bar
      | cons d r =>
        rw [shape, List.head?_cons, Option.some.injEq] at bar
        exact ⟨r, by rw [bar]⟩
    refine ⟨c :: t.takeWhile fun d => esMayuscula d || d = '_', r, ?_, List.cons_ne_nil _ _, ?_⟩
    · rw [List.cons_append, ← rest, List.takeWhile_append_dropWhile]
    · rw [List.forall_mem_cons]
      refine ⟨by simp [dePalabra, capital], fun d mem => ?_⟩
      exact List.mem_takeWhile_imp (p := fun d => esMayuscula d || d = '_') mem

theorem trasLiteral_barra {h p r u : Texto} (no_bar : ∀ a ∈ h, minuscula '|' ≠ minuscula a)
    (found : trasLiteral h (p ++ '|' :: r) = some u) :
    ∃ q : Texto, u = q ++ '|' :: r ∧ ∀ c ∈ q, c ∈ p := by
  induction h generalizing p with
  | nil =>
    cases found
    exact ⟨p, rfl, fun c mem => mem⟩
  | cons a h ih =>
    rw [List.forall_mem_cons] at no_bar
    cases p with
    | nil =>
      rw [List.nil_append, trasLiteral, if_neg no_bar.1] at found
      cases found
    | cons c p =>
      rw [List.cons_append, trasLiteral] at found
      split at found
      · obtain ⟨q, shape, inside⟩ := ih no_bar.2 found
        exact ⟨q, shape, fun d mem => List.mem_cons_of_mem c (inside d mem)⟩
      · cases found

theorem errorDe_protocolo {w : Texto} (protocol : esProtocolo w = true) : errorDe w = none := by
  obtain ⟨p, r, rfl, nonempty, word⟩ := esProtocolo_some protocol
  apply errorDe_none
  have kept : strip isspace (p ++ '|' :: r) = p ++ '|' :: r.rdropWhile isspace := by
    have solid : ∀ c ∈ p ++ ['|'], isspace c = false := by
      rw [List.forall_mem_append]
      exact ⟨fun c mem => (solid_dePalabra (word c mem)).1, List.forall_mem_singleton.mpr (by decide)⟩
    have long := strip_solid_append solid (by simp) r
    rwa [List.append_assoc, List.append_assoc] at long
  have after : ∀ (h u : Texto), (h.all fun a => minuscula '|' ≠ minuscula a) = true →
      trasLiteral h (p ++ '|' :: r.rdropWhile isspace) = some u →
      trasCaracter ':' (u.dropWhile isspace) = none := by
    intro h u no_bar found
    simp only [List.all_eq_true, decide_eq_true_eq] at no_bar
    obtain ⟨q, shape, inside⟩ := trasLiteral_barra no_bar found
    cases q with
    | nil =>
      rw [shape]
      rfl
    | cons c q =>
      have first := solid_dePalabra (word c (inside c List.mem_cons_self))
      rw [shape, List.cons_append, List.dropWhile_cons_of_neg (by simp [first.1]), trasCaracter,
        if_neg first.2]
  rw [errorLine, kept]
  cases error : trasLiteral "Error".toList (p ++ '|' :: r.rdropWhile isspace) with
  | some u =>
    rw [Option.some_or, Option.bind_some, after _ u (by decide) error]
    rfl
  | none =>
    cases fatal : trasLiteral "Fatal".toList (p ++ '|' :: r.rdropWhile isspace) with
    | some u =>
      rw [Option.none_or, Option.bind_some, after _ u (by decide) fatal]
      rfl
    | none => rfl

theorem errorDe_quitaMarca (l : Texto) : errorDe (quitaMarca l) = errorDe l := by
  unfold quitaMarca
  cases found : trasMarca l with
  | none => rfl
  | some w =>
    have bracket : ∃ t, l = '[' :: t := by
      unfold trasMarca at found
      simp only [Option.bind_eq_bind, Option.bind_eq_some_iff] at found
      obtain ⟨t, open_, _⟩ := found
      exact ⟨t, trasCaracter_some open_⟩
    obtain ⟨t, shape⟩ := bracket
    rw [Option.getD_some, errorDe_protocolo (trasMarca_some found).1, shape, errorDe_corchete]

/-- A prefix hides the error of its line. -/
theorem errorDe_marcada (mk : Marca) (l : Texto) : errorDe (quitaMarca (mk.texto ++ l)) = none := by
  have bracket : ∃ t, mk.texto ++ l = '[' :: t := ⟨_, by simp only [Marca.texto, List.append_assoc]; rfl⟩
  obtain ⟨t, shape⟩ := bracket
  rw [errorDe_quitaMarca, shape, errorDe_corchete]

@[simp] theorem errorDe_nil : errorDe [] = none := rfl

theorem entera_quitaMarca {l : Texto} (solid : ∀ c ∈ l, esSalto c = false) :
    ∀ c ∈ quitaMarca l, esSalto c = false := by
  obtain ⟨p, shape, _⟩ := quitaMarca_suffix l
  intro c mem
  apply solid
  rw [shape]
  exact List.mem_append_right p mem

/-- The lines of merged text are read again, but perhaps for an empty one at the end. -/
theorem filterMap_splitlines {ls : List Texto} (solid : ∀ l ∈ ls, ∀ c ∈ l, esSalto c = false) :
    (splitlines (['\n'].intercalate ls)).filterMap errorDe = ls.filterMap errorDe := by
  induction ls with
  | nil => rfl
  | cons l ls ih =>
    rw [List.forall_mem_cons] at solid
    cases ls with
    | nil =>
      have single : ['\n'].intercalate [l] = l := by simp [List.intercalate]
      rw [single]
      cases l with
      | nil => rfl
      | cons c l => rw [splitlines_single solid.1 (List.cons_ne_nil c l)]
    | cons m ls =>
      have joined : ['\n'].intercalate (l :: m :: ls) = l ++ (['\n'] ++ ['\n'].intercalate (m :: ls)) := by
        simp [List.intercalate, List.intersperse]
      have first := splitlines_line solid.1 false (['\n'].intercalate (m :: ls))
      simp only [Bool.false_eq_true, if_false] at first
      rw [joined, first, List.filterMap_cons, List.filterMap_cons, ih solid.2]

theorem errors_parse_junta (fuente stderr : Texto) (returnCode : Int) :
    (parse (junta fuente) stderr returnCode).errors =
      (splitlines fuente).filterMap (fun l => errorDe (quitaMarca l)) ++
        (splitlines stderr).filterMap errorDeStderr := by
  have solid : ∀ l ∈ (splitlines fuente).map quitaMarca, ∀ c ∈ l, esSalto c = false := by
    intro l mem
    obtain ⟨k, line, rfl⟩ := List.mem_map.mp mem
    exact entera_quitaMarca (solid_of_mem_splitlines line)
  rw [parse]
  dsimp only
  rw [List.filterMap_filterMap]
  congr 1
  have lines := filterMap_splitlines solid
  rw [List.filterMap_map] at lines
  exact lines

/-- The error of a line with or without a prefix. -/
theorem errorDe_enCabeza (m : Option Marca) (l : Texto) :
    errorDe (quitaMarca (Marca.enCabeza m ++ l)) = if m.isSome then none else errorDe l := by
  cases m with
  | none => exact errorDe_quitaMarca l
  | some mk => exact errorDe_marcada mk l

theorem erroresMarcados_length (m : Nat → Option Marca) (ls : List Texto) :
    ((ls.mapIdx fun i l => if (m i).isSome then none else errorDe l).filterMap id).length ≤
      (ls.filterMap errorDe).length := by
  induction ls generalizing m with
  | nil => exact Nat.le_refl _
  | cons l ls ih =>
    have rest := ih fun i => m (i + 1)
    rw [List.mapIdx_cons, List.filterMap_cons, List.filterMap_cons]
    cases m 0 with
    | some mk =>
      simp only [Option.isSome_some, if_true, id]
      split
      · exact rest
      · exact Nat.le_succ_of_le rest
    | none =>
      simp only [Option.isSome_none, Bool.false_eq_true, if_false, id]
      split
      · exact rest
      · exact Nat.succ_le_succ rest

/-- Nothing is lost exactly if no line with an error has a prefix. -/
theorem erroresMarcados_iff (m : Nat → Option Marca) (ls : List Texto) :
    (ls.mapIdx fun i l => if (m i).isSome then none else errorDe l).filterMap id = ls.filterMap errorDe ↔
      ∀ (i : Nat) (l : Texto), ls[i]? = some l → (m i).isSome = true → errorDe l = none := by
  induction ls generalizing m with
  | nil => simp
  | cons l ls ih =>
    have split_first : (∀ (i : Nat) (k : Texto), (l :: ls)[i]? = some k → (m i).isSome = true →
        errorDe k = none) ↔ ((m 0).isSome = true → errorDe l = none) ∧
        ∀ (i : Nat) (k : Texto), ls[i]? = some k → (m (i + 1)).isSome = true → errorDe k = none := by
      constructor
      · intro all
        exact ⟨all 0 l rfl, fun i k here => all (i + 1) k here⟩
      · intro both i k here
        cases i with
        | zero =>
          cases here
          exact both.1
        | succ i => exact both.2 i k here
    rw [split_first, ← ih fun i => m (i + 1), List.mapIdx_cons, List.filterMap_cons, List.filterMap_cons]
    cases m 0 with
    | none => cases errorDe l <;> simp
    | some mk =>
      cases error : errorDe l with
      | none => simp
      | some e =>
        have short := erroresMarcados_length (fun i => m (i + 1)) ls
        simp only [Option.isSome_some, if_true, id_eq, reduceCtorEq, forall_true_left, false_and, iff_false]
        intro same
        have longer := congrArg List.length same
        rw [List.length_cons] at longer
        exact absurd (longer.symm.le.trans short) (Nat.not_succ_le_self _)

theorem errores_prefija (m : Nat → Option Marca) (log : Texto) :
    (splitlines (prefija m log)).filterMap (fun l => errorDe (quitaMarca l)) =
      ((splitlines log).mapIdx fun i l => if (m i).isSome then none else errorDe l).filterMap id := by
  rw [splitlines_prefija]
  generalize splitlines log = ls
  induction ls generalizing m with
  | nil => rfl
  | cons l ls ih =>
    rw [List.mapIdx_cons, List.mapIdx_cons, List.filterMap_cons, List.filterMap_cons, errorDe_enCabeza,
      ih fun i => m (i + 1)]
    rfl

/-- The lines of a blank log hold no error. -/
theorem errorDe_blank {l : Texto} (blank : strip isspace l = []) : errorDe l = none := by
  rw [errorDe_eq, if_pos (Or.inl blank)]

theorem mem_of_mem_splitlines {t l : Texto} (mem : l ∈ splitlines t) {c : Char} (inside : c ∈ l) :
    c ∈ t := by
  rw [splitlines_renglones, List.mem_map] at mem
  obtain ⟨r, line, rfl⟩ := mem
  rw [← texto_renglones t, textoDeRenglones, List.mem_flatMap]
  exact ⟨r, line, List.mem_append_left _ inside⟩

theorem blank_of_mem_splitlines {t l : Texto} (blank : strip isspace t = []) (mem : l ∈ splitlines t) :
    strip isspace l = [] := by
  rw [strip_eq_nil_iff] at blank ⊢
  exact fun c inside => blank c (mem_of_mem_splitlines mem inside)

theorem errors_iff (m : Nat → Option Marca) (log stdout stderr : Texto) (returnCode : Int) :
    (parse (mergeProtocolOutput stdout (prefija m log)) stderr returnCode).errors =
        (parse (mergeProtocolOutput stdout log) stderr returnCode).errors ↔
      SinOcultar m log stdout := by
  have plain : ∀ ls : List Texto, ls.filterMap (fun l => errorDe (quitaMarca l)) = ls.filterMap errorDe := by
    intro ls
    simp only [errorDe_quitaMarca]
  unfold SinOcultar
  rw [merge_eq, merge_eq]
  by_cases nonblank : strip isspace log ≠ []
  · rw [if_pos nonblank, if_pos nonblank, if_pos (prefija_nonblank m nonblank), errors_parse_junta,
      errors_parse_junta, List.append_cancel_right_eq, plain (splitlines log), errores_prefija,
      erroresMarcados_iff]
  · rw [if_neg nonblank, if_neg nonblank]
    by_cases marked : Marcada m log
    · have blank : strip isspace log = [] := by simpa using nonblank
      have silent : (splitlines (prefija m log)).filterMap (fun l => errorDe (quitaMarca l)) = [] := by
        have none : (splitlines log).filterMap errorDe = [] := by
          rw [List.filterMap_eq_nil_iff]
          exact fun l mem => errorDe_blank (blank_of_mem_splitlines blank mem)
        have short := erroresMarcados_length m (splitlines log)
        rw [← errores_prefija, none] at short
        exact List.eq_nil_of_length_eq_zero (Nat.le_zero.mp short)
      rw [if_pos (prefija_marcada marked), errors_parse_junta, errors_parse_junta,
        List.append_cancel_right_eq, silent, plain, eq_comm, List.filterMap_eq_nil_iff]
      simp only [marked, forall_true_left]
    · rw [prefija_nada marked, if_neg nonblank]
      simp only [marked, false_implies]

/-! What the script's parser finds -/

theorem of_toLower {c d : Char} (same : c.toLower = d) :
    c = d ∨ c.toNat + 32 = d.toNat := by
  unfold Char.toLower at same
  split at same
  · next capital =>
    right
    rw [← same]
    have bounds : 65 ≤ c.val.toNat ∧ c.val.toNat ≤ 90 := ⟨capital.1, capital.2⟩
    have gap : 'a'.val - 'A'.val = 32 := by decide
    change c.val.toNat + 32 = (c.val + ('a'.val - 'A'.val)).toNat
    rw [gap, UInt32.toNat_add]
    simp only [UInt32.reduceToNat]
    omega
  · exact Or.inl same

/-- No character of a prefix starts a head. -/
theorem deMarca_inerte {c : Char} (ofMark : deMarca c = true) : minuscula c ≠ 'e' ∧ minuscula c ≠ 'f' := by
  have only : ∀ d ∈ ['e', 'f'], minuscula c = d → c ∈ ['e', 'E', 'f', 'F'] := by
    intro d letter same
    unfold minuscula at same
    split at same
    · subst same
      exact absurd letter (by decide)
    · split at same
      · subst same
        exact absurd letter (by decide)
      · split at same
        · subst same
          exact absurd letter (by decide)
        · simp only [List.mem_cons, List.not_mem_nil, or_false] at letter ⊢
          cases of_toLower same with
          | inl here => rw [here]; tauto
          | inr shifted =>
            cases letter with
            | inl isE =>
              rw [isE] at shifted
              have upper : c = 'E' := Char.toNat_inj.mp (Nat.add_right_cancel (m := 32) shifted)
              rw [upper]
              tauto
            | inr isF =>
              rw [isF] at shifted
              have upper : c = 'F' := Char.toNat_inj.mp (Nat.add_right_cancel (m := 32) shifted)
              rw [upper]
              tauto
  have none : (['e', 'E', 'f', 'F'].all fun d => deMarca d = false) = true := by decide
  simp only [List.all_eq_true, decide_eq_true_eq] at none
  constructor
  · intro same
    have mute := none c (only 'e' (by decide) same)
    rw [ofMark] at mute
    cases mute
  · intro same
    have mute := none c (only 'f' (by decide) same)
    rw [ofMark] at mute
    cases mute

theorem primera_marca {h p : Texto} (mem : h ∈ cabezasDeError) (ofMark : ∀ c ∈ p, deMarca c = true)
    (l : Texto) : primera h (p ++ l) = primera h l := by
  have first : ∃ a k, h = a :: k ∧ (minuscula a = 'e' ∨ minuscula a = 'f') := by
    simp only [cabezasDeError, List.mem_cons, List.not_mem_nil, or_false] at mem
    obtain rfl | rfl | rfl | rfl := mem
    · exact ⟨_, _, rfl, by decide⟩
    · exact ⟨_, _, rfl, by decide⟩
    · exact ⟨_, _, rfl, by decide⟩
    · exact ⟨_, _, rfl, by decide⟩
  obtain ⟨a, k, rfl, letter⟩ := first
  induction p with
  | nil => rfl
  | cons c p ih =>
    rw [List.forall_mem_cons] at ofMark
    have mute := deMarca_inerte ofMark.1
    have missed : minuscula c ≠ minuscula a := by
      cases letter with
      | inl isE => rw [isE]; exact mute.1
      | inr isF => rw [isF]; exact mute.2
    rw [List.cons_append, primera, trasLiteral, if_neg missed, Option.none_or, ih ofMark.2]

theorem primera_blank {h l : Texto} (mem : h ∈ cabezasDeError) (blank : strip isspace l = []) :
    primera h l = none := by
  rw [strip_eq_nil_iff] at blank
  have ofMark : ∀ c ∈ l, deMarca c = true := by
    intro c inside
    simp only [deMarca, blank c inside, Bool.or_true]
  have whole := primera_marca mem ofMark []
  rwa [List.append_nil] at whole

theorem primera_quitaMarca {h : Texto} (mem : h ∈ cabezasDeError) (l : Texto) :
    primera h (quitaMarca l) = primera h l := by
  obtain ⟨p, shape, ofMark⟩ := quitaMarca_suffix l
  have whole := primera_marca mem ofMark (quitaMarca l)
  rw [← shape] at whole
  exact whole.symm

/-- A prefix hides no head. -/
theorem primera_enCabeza {h : Texto} (mem : h ∈ cabezasDeError) (m : Option Marca) (l : Texto) :
    primera h (quitaMarca (Marca.enCabeza m ++ l)) = primera h l := by
  rw [primera_quitaMarca mem]
  cases m with
  | none => rfl
  | some mk => exact primera_marca mem (deMarca_texto mk) l

theorem map_mapIdx {α β γ : Type} (f : Nat → α → β) (g : β → γ) (ls : List α) :
    (ls.mapIdx f).map g = ls.mapIdx fun i l => g (f i l) := by
  apply List.ext_getElem
  · simp
  · intro i _ _
    simp

/-- The messages of a merged text are those of its lines, and then those of stderr. -/
theorem mensajes_junta {h : Texto} (head : Cabeza h) (stderr : Texto) :
    ∃ es, ∀ fuente, mensajes h (junta fuente ++ ['\n'] ++ stderr) =
      porLineas h false ((splitlines fuente).map quitaMarca ++ es) := by
  obtain ⟨e, es, rfl, inside⟩ := exists_cola stderr
  refine ⟨e :: es, fun fuente => ?_⟩
  have lines : ∀ l ∈ (splitlines fuente).map quitaMarca, '\n' ∉ l := by
    intro l mem feed
    obtain ⟨k, line, rfl⟩ := List.mem_map.mp mem
    have solid := entera_quitaMarca (solid_of_mem_splitlines line) _ feed
    exact absurd solid (by decide)
  unfold junta
  generalize (splitlines fuente).map quitaMarca = ls at lines ⊢
  have tail : ['\n'] ++ (e ++ cola es) = cola (e :: es) := rfl
  cases ls with
  | nil =>
    have empty : mensajes h ([] ++ cola (e :: es)) = porLineas h false ([] :: e :: es) :=
      mensajes_cola head (List.forall_mem_cons.mpr ⟨List.not_mem_nil, inside⟩)
    rw [List.append_assoc, tail]
    exact empty
  | cons l ls =>
    have joined : cola ls ++ cola (e :: es) = cola (ls ++ e :: es) := (List.flatMap_append ..).symm
    rw [intercalate_cola, List.append_assoc, tail, List.append_assoc, joined, mensajes_cola head]
    · rfl
    · rw [List.forall_mem_cons, List.forall_mem_append]
      rw [List.forall_mem_cons] at lines
      exact ⟨lines.1, lines.2, inside⟩

theorem porLineas_mudas {h : Texto} {ls es : List Texto} (mute : ∀ l ∈ ls, primera h l = none) :
    porLineas h false (ls ++ es) = porLineas h false es := by
  induction ls with
  | nil => rfl
  | cons l ls ih =>
    rw [List.forall_mem_cons] at mute
    have nothing : lee h false l = none := by
      rw [lee, if_neg Bool.false_ne_true, mute.1]
      rfl
    rw [List.cons_append, porLineas, nothing]
    exact ih mute.2

/-- The lines with prefixes are read as those without, if no prefix gets into a message
that is waited for. -/
theorem porLineas_prefijadas {h : Texto} (mem : h ∈ cabezasDeError) (es ls : List Texto) :
    ∀ (m : Nat → Option Marca) (pend : Bool),
      (∀ (i : Nat) (l : Texto) (mk : Marca), ls[i]? = some l → m i = some mk →
        espera h pend ((ls.take i).map quitaMarca) = true →
        strip isspace (quitaMarca (mk.texto ++ l)) = strip isspace (quitaMarca l)) →
      porLineas h pend ((ls.mapIdx fun i l => quitaMarca (Marca.enCabeza (m i) ++ l)) ++ es) =
        porLineas h pend (ls.map quitaMarca ++ es) := by
  induction ls with
  | nil => intros; rfl
  | cons l ls ih =>
    intro m pend waits
    have same : lee h pend (quitaMarca (Marca.enCabeza (m 0) ++ l)) = lee h pend (quitaMarca l) := by
      cases pend with
      | false =>
        rw [lee, lee, if_neg Bool.false_ne_true, if_neg Bool.false_ne_true, primera_enCabeza mem,
          primera_quitaMarca mem]
      | true =>
        rw [lee, lee, if_pos rfl, if_pos rfl]
        cases here : m 0 with
        | none => rfl
        | some mk => exact congrArg some (waits 0 l mk rfl here rfl)
    rw [List.mapIdx_cons, List.map_cons, List.cons_append, List.cons_append, porLineas, porLineas, same,
      ih (fun i => m (i + 1))]
    intro i k mk at_i marked waiting
    exact waits (i + 1) k mk at_i marked waiting

theorem script_errors (m : Nat → Option Marca) (log stdout stderr : Texto)
    (quiet : SinEspera m log stdout) :
    (parseScriptOutput (mergeProtocolOutput stdout (prefija m log)) stderr).errors =
      (parseScriptOutput (mergeProtocolOutput stdout log) stderr).errors := by
  have each : ∀ h ∈ cabezasDeError,
      mensajes h (mergeProtocolOutput stdout (prefija m log) ++ ['\n'] ++ stderr) =
        mensajes h (mergeProtocolOutput stdout log ++ ['\n'] ++ stderr) := by
    intro h mem
    obtain ⟨es, read⟩ := mensajes_junta (Cabeza.of_mem mem) stderr
    have waits := quiet h mem
    rw [merge_eq, merge_eq, read, read]
    by_cases nonblank : strip isspace log ≠ []
    · rw [if_pos nonblank] at waits
      have lines := porLineas_prefijadas mem es (splitlines log) m false waits
      rw [if_pos nonblank, if_pos (prefija_nonblank m nonblank), splitlines_prefija, map_mapIdx]
      exact lines
    · by_cases marked : Marcada m log
      · rw [if_neg nonblank] at waits
        rw [if_neg nonblank, if_pos (prefija_marcada marked), porLineas_mudas, porLineas_mudas]
        · intro l line
          obtain ⟨k, inside, rfl⟩ := List.mem_map.mp line
          rw [primera_quitaMarca mem]
          exact waits marked k inside
        · intro l line
          obtain ⟨k, inside, rfl⟩ := List.mem_map.mp line
          rw [splitlines_prefija, List.mem_mapIdx] at inside
          obtain ⟨i, bound, rfl⟩ := inside
          have blank : strip isspace log = [] := by simpa using nonblank
          rw [primera_enCabeza mem, primera_blank mem]
          exact blank_of_mem_splitlines blank (List.getElem_mem bound)
      · rw [prefija_nada marked]
  have found := List.flatMap_congr each
  simp only [parseScriptOutput, busca, found]

/-- `parse` gives the same errors and the same success flag exactly when no prefix stands
before an error, and the script's parser the same errors when none stands before a
message that is waited for. -/
theorem errores_con_prefijos (m : Nat → Option Marca) (log stdout stderr : Texto) (returnCode : Int) :
    ((parse (mergeProtocolOutput stdout (prefija m log)) stderr returnCode).errors =
          (parse (mergeProtocolOutput stdout log) stderr returnCode).errors ∧
        (parse (mergeProtocolOutput stdout (prefija m log)) stderr returnCode).success =
          (parse (mergeProtocolOutput stdout log) stderr returnCode).success ↔
      SinOcultar m log stdout) ∧
    (SinEspera m log stdout →
      (parseScriptOutput (mergeProtocolOutput stdout (prefija m log)) stderr).errors =
        (parseScriptOutput (mergeProtocolOutput stdout log) stderr).errors) := by
  refine ⟨?_, script_errors m log stdout stderr⟩
  rw [← errors_iff m log stdout stderr returnCode]
  constructor
  · intro both
    exact both.1
  · intro errors
    refine ⟨errors, ?_⟩
    rw [XEditResult.success, XEditResult.success, errors]
    rfl

def doceTreintaYCuatro : Marca where
  hora := ['1', '2']
  minuto := ['3', '4']
  segundo := none
  espacios := 0
  horaCorta := Or.inr rfl
  minutoDoble := rfl
  segundoDoble := by simp
  digitos := List.all_eq_true.mp (by decide)

def soloPrimera (i : Nat) : Option Marca := if i = 0 then some doceTreintaYCuatro else none

/-- A prefix before a line of the protocol leaves the error of the next line in sight. -/
theorem errores_con_prefijos_protocolo :
    let log := "SUMMARY|total_conflicts=0\nError: no such plugin".toList
    prefija soloPrimera log = "[12:34] SUMMARY|total_conflicts=0\nError: no such plugin".toList ∧
      (parse (mergeProtocolOutput [] (prefija soloPrimera log)) [] 0).errors =
        (parse (mergeProtocolOutput [] log) [] 0).errors ∧
      (parseScriptOutput (mergeProtocolOutput [] (prefija soloPrimera log)) []).errors =
        (parseScriptOutput (mergeProtocolOutput [] log) []).errors := by
  have both := errores_con_prefijos soloPrimera
    "SUMMARY|total_conflicts=0\nError: no such plugin".toList [] [] 0
  refine ⟨by decide, (both.1.mpr ?_).1, both.2 ?_⟩
  · rw [SinOcultar, if_pos (by decide)]
    intro i l here marked
    have first : i = 0 := by
      by_contra later
      rw [soloPrimera, if_neg later] at marked
      cases marked
    subst first
    cases here
    decide
  · intro h mem
    rw [if_pos (by decide)]
    intro i l mk here marked waiting
    have first : i = 0 := by
      by_contra later
      rw [soloPrimera, if_neg later] at marked
      cases marked
    subst first
    cases waiting

/-- A failed run counts as a success because its only error line carries the time. -/
theorem prefijo_oculta_error :
    let log := "Error: no such plugin".toList
    let marcado := prefija (fun _ => some doceTreintaYCuatro) log
    marcado = "[12:34] Error: no such plugin".toList ∧
      (parse (mergeProtocolOutput [] log) [] 0).errors = ["no such plugin".toList] ∧
      (parse (mergeProtocolOutput [] log) [] 0).success = false ∧
      (parse (mergeProtocolOutput [] marcado) [] 0).errors = [] ∧
      (parse (mergeProtocolOutput [] marcado) [] 0).success = true := by decide

-- A head alone in its line: the time of the next line gets into the message.
example :
    let log := "Error:\nno such plugin".toList
    let marcado := prefija (fun i => if i = 1 then some doceTreintaYCuatro else none) log
    (parseScriptOutput (mergeProtocolOutput [] log) []).errors = ["no such plugin".toList] ∧
      (parseScriptOutput (mergeProtocolOutput [] marcado) []).errors =
        ["[12:34] no such plugin".toList] := by decide

end XeditErrors
