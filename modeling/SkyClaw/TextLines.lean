import SkyClaw.TrimmedText

set_option linter.all false

/-!
`str.splitlines` and `int` of Python on texts without surrogates. A line break
is blank, so no trimmed field can end at one, but it can hold one inside.
-/
namespace TextLines
open TrimmedText

abbrev Texto := List Char

/-- Where `str.splitlines` ends a line. -/
def esSalto (c : Char) : Bool :=
  (0x0A ≤ c.toNat && c.toNat ≤ 0x0D) || (0x1C ≤ c.toNat && c.toNat ≤ 0x1E) ||
    c.toNat = 0x85 || c.toNat = 0x2028 || c.toNat = 0x2029

/-- The lines of a text; `cr` says that a CR has just ended one, so that an LF
    belongs to that end. -/
def lineas : Bool → Texto → List Texto
  | _, [] => []
  | cr, c :: t =>
    if cr ∧ c = '\n' then lineas false t
    else if esSalto c then [] :: lineas (c = '\r') t
    else match lineas false t with
      | [] => [[c]]
      | l :: ls => (c :: l) :: ls

def splitlines (t : Texto) : List Texto := lineas false t

theorem isspace_of_esSalto {c : Char} (brk : esSalto c = true) : isspace c = true := by
  simp only [esSalto, isspace, Bool.or_eq_true, Bool.and_eq_true, decide_eq_true_eq] at brk ⊢
  omega

theorem lineas_solid {cr : Bool} {c : Char} {t : Texto} (solid : esSalto c = false) :
    lineas cr (c :: t) = match lineas false t with
      | [] => [[c]]
      | l :: ls => (c :: l) :: ls := by
  have not_feed : c ≠ '\n' := by
    intro same
    subst same
    cases solid
  rw [lineas, if_neg (by simp [not_feed]), if_neg (by simp [solid])]

theorem solid_of_mem_lineas {cr : Bool} {t l : Texto} (mem : l ∈ lineas cr t) :
    ∀ c ∈ l, esSalto c = false := by
  induction t generalizing cr l with
  | nil => simp [lineas] at mem
  | cons c t ih =>
    rw [lineas] at mem
    split at mem
    · exact ih mem
    · split at mem
      · cases List.mem_cons.mp mem with
        | inl first =>
          subst first
          exact List.forall_mem_nil _
        | inr later => exact ih later
      · next solid =>
        have first_solid : esSalto c = false := by simpa using solid
        split at mem
        · simp only [List.mem_singleton] at mem
          subst mem
          simpa using first_solid
        · next first others rest =>
          cases List.mem_cons.mp mem with
          | inl here =>
            subst here
            rw [List.forall_mem_cons]
            exact ⟨first_solid, ih (rest ▸ List.mem_cons_self)⟩
          | inr later => exact ih (rest ▸ List.mem_cons_of_mem _ later)

/-- No line holds a line break. -/
theorem solid_of_mem_splitlines {t l : Texto} (mem : l ∈ splitlines t) :
    ∀ c ∈ l, esSalto c = false := solid_of_mem_lineas mem

theorem lineas_prefix (cr : Bool) {t u : Texto} (start : t <+: u) :
    ∃ ms rest, List.Forall₂ (· <+: ·) (lineas cr t) ms ∧ lineas cr u = ms ++ rest := by
  induction t generalizing cr u with
  | nil => exact ⟨[], lineas cr u, .nil, rfl⟩
  | cons c t ih =>
    obtain ⟨x, rfl⟩ := start
    rw [List.cons_append, lineas, lineas]
    split
    · exact ih false (List.prefix_append t x)
    · split
      · obtain ⟨ms, rest, starts, all⟩ := ih (c = '\r') (List.prefix_append t x)
        exact ⟨[] :: ms, rest, .cons (List.prefix_refl []) starts, by rw [all, List.cons_append]⟩
      · obtain ⟨ms, rest, starts, all⟩ := ih false (List.prefix_append t x)
        rw [all]
        cases own : lineas false t with
        | nil =>
          cases ms ++ rest with
          | nil => exact ⟨[[c]], [], .cons (List.prefix_refl _) .nil, rfl⟩
          | cons m others => exact ⟨[c :: m], others, .cons (by simp) .nil, rfl⟩
        | cons l ls =>
          rw [own] at starts
          cases starts with
          | cons first others =>
            exact ⟨_ :: _, rest, .cons (List.cons_prefix_cons.mpr ⟨rfl, first⟩) others, rfl⟩

theorem exists_of_mem_prefixes {ls ms : List Texto} {l : Texto} (starts : List.Forall₂ (· <+: ·) ls ms)
    (mem : l ∈ ls) : ∃ m ∈ ms, l <+: m := by
  induction starts with
  | nil => cases mem
  | cons first _ ih =>
    cases List.mem_cons.mp mem with
    | inl here => exact ⟨_, List.mem_cons_self, here ▸ first⟩
    | inr later =>
      obtain ⟨m, inside, short⟩ := ih later
      exact ⟨m, List.mem_cons_of_mem _ inside, short⟩

/-- The lines of the start of a text are starts of its lines. -/
theorem prefix_of_mem_splitlines {t u l : Texto} (start : t <+: u) (mem : l ∈ splitlines t) :
    ∃ m ∈ splitlines u, l <+: m := by
  obtain ⟨ms, rest, starts, all⟩ := lineas_prefix false start
  unfold splitlines at mem ⊢
  rw [all]
  obtain ⟨m, inside, short⟩ := exists_of_mem_prefixes starts mem
  exact ⟨m, List.mem_append_left _ inside, short⟩

/-- A line of its own, ended by LF or by CR LF, is the first one. -/
theorem splitlines_line {l : Texto} (solid : ∀ c ∈ l, esSalto c = false) (cr : Bool) (t : Texto) :
    splitlines (l ++ ((if cr then ['\r', '\n'] else ['\n']) ++ t)) = l :: splitlines t := by
  unfold splitlines
  induction l with
  | nil =>
    have feed : esSalto '\n' = true := by decide
    have return_ : esSalto '\r' = true := by decide
    cases cr with
    | false => simp [lineas, feed]
    | true => simp [lineas, return_]
  | cons c l ih =>
    rw [List.forall_mem_cons] at solid
    rw [List.cons_append, lineas_solid solid.1, ih solid.2]

theorem splitlines_single {l : Texto} (solid : ∀ c ∈ l, esSalto c = false) (nonempty : l ≠ []) :
    splitlines l = [l] := by
  unfold splitlines
  induction l with
  | nil => exact absurd rfl nonempty
  | cons c l ih =>
    rw [List.forall_mem_cons] at solid
    rw [lineas_solid solid.1]
    cases l with
    | nil => simp [lineas]
    | cons d l => rw [ih solid.2 (by simp)]

/-- Lines joined with LF are read back, if none is empty. -/
theorem splitlines_intercalate {ls : List Texto} (solid : ∀ l ∈ ls, ∀ c ∈ l, esSalto c = false)
    (nonempty : ∀ l ∈ ls, l ≠ []) : splitlines (['\n'].intercalate ls) = ls := by
  induction ls with
  | nil => simp [List.intercalate, splitlines, lineas]
  | cons l ls ih =>
    rw [List.forall_mem_cons] at solid nonempty
    cases ls with
    | nil => simpa [List.intercalate] using splitlines_single solid.1 nonempty.1
    | cons m ls =>
      have joined : ['\n'].intercalate (l :: m :: ls) = l ++ (['\n'] ++ ['\n'].intercalate (m :: ls)) := by
        simp [List.intercalate, List.intersperse]
      have first := splitlines_line solid.1 false (['\n'].intercalate (m :: ls))
      simp only [Bool.false_eq_true, if_false] at first
      rw [joined, first, ih solid.2 nonempty.2]

/-! Numbers -/

/-- The zeros of the decimal digits of Unicode: each is followed by its other nine. -/
def ceros : List Nat :=
  [0x30, 0x660, 0x6f0, 0x7c0, 0x966, 0x9e6, 0xa66, 0xae6, 0xb66, 0xbe6, 0xc66, 0xce6, 0xd66, 0xde6,
   0xe50, 0xed0, 0xf20, 0x1040, 0x1090, 0x17e0, 0x1810, 0x1946, 0x19d0, 0x1a80, 0x1a90, 0x1b50,
   0x1bb0, 0x1c40, 0x1c50, 0xa620, 0xa8d0, 0xa900, 0xa9d0, 0xa9f0, 0xaa50, 0xabf0, 0xff10, 0x104a0,
   0x10d30, 0x11066, 0x110f0, 0x11136, 0x111d0, 0x112f0, 0x11450, 0x114d0, 0x11650, 0x116c0,
   0x11730, 0x118e0, 0x11950, 0x11c50, 0x11d50, 0x11da0, 0x16a60, 0x16ac0, 0x16b50, 0x1d7ce,
   0x1d7d8, 0x1d7e2, 0x1d7ec, 0x1d7f6, 0x1e140, 0x1e2f0, 0x1e950, 0x1fbf0]

def digito (c : Char) : Option Nat :=
  (ceros.find? fun z => z ≤ c.toNat && c.toNat < z + 10).map (c.toNat - ·)

/-- Digits with single underscores between them, read from the left. -/
def digitos (acc : Nat) : Texto → Option Nat
  | [] => some acc
  | c :: t =>
    match digito c with
    | some d => digitos (10 * acc + d) t
    | none =>
      if c = '_' then
        match t with
        | [] => none
        | e :: u =>
          match digito e with
          | some d => digitos (10 * acc + d) u
          | none => none
      else none

/-- A number without sign: it starts with a digit. -/
def natural : Texto → Option Nat
  | [] => none
  | c :: t => (digito c).bind fun d => digitos d t

/-- `int` of a text. -/
def int (t : Texto) : Option Int :=
  match strip isspace t with
  | '-' :: u => (natural u).map fun n => -(n : Int)
  | '+' :: u => (natural u).map fun n => (n : Int)
  | u => (natural u).map fun n => (n : Int)

/-- `IntToStr` and `str` of a number that is not negative. -/
def decimal (n : Nat) : Texto := Nat.toDigits 10 n

theorem digito_isDigit {c : Char} (ascii : c.isDigit = true) : digito c = some (c.toNat - '0'.toNat) := by
  have range : 48 ≤ c.toNat ∧ c.toNat ≤ 57 := by
    simp only [Char.isDigit, Bool.and_eq_true, decide_eq_true_eq, UInt32.le_iff_toNat_le] at ascii
    exact ascii
  have first : ceros.find? (fun z => z ≤ c.toNat && c.toNat < z + 10) = some 0x30 := by
    rw [ceros, List.find?_cons_of_pos]
    simp only [Bool.and_eq_true, decide_eq_true_eq]
    omega
  rw [digito, first]
  rfl

theorem digitos_cons {acc d : Nat} {c : Char} {t : Texto} (digit : digito c = some d) :
    digitos acc (c :: t) = digitos (10 * acc + d) t := by
  rw [digitos.eq_def]
  simp only [digit]

theorem digitos_ascii {t : Texto} (ascii : ∀ c ∈ t, c.isDigit = true) (acc : Nat) :
    digitos acc t = some (Nat.ofDigitChars 10 t acc) := by
  induction t generalizing acc with
  | nil => rfl
  | cons c t ih =>
    rw [List.forall_mem_cons] at ascii
    rw [digitos_cons (digito_isDigit ascii.1), ih ascii.2, Nat.ofDigitChars_cons]

theorem natural_ascii {t : Texto} (ascii : ∀ c ∈ t, c.isDigit = true) (nonempty : t ≠ []) :
    natural t = some (Nat.ofDigitChars 10 t 0) := by
  cases t with
  | nil => exact absurd rfl nonempty
  | cons c t =>
    rw [← digitos_ascii ascii 0]
    rw [List.forall_mem_cons] at ascii
    have first := digito_isDigit ascii.1
    rw [digitos_cons first, natural, first]
    simp

theorem decimal_isDigit {n : Nat} : ∀ c ∈ decimal n, c.isDigit = true :=
  fun _ mem => Nat.isDigit_of_mem_toDigits (by decide) (by decide) mem

theorem solid_isDigit {c : Char} (ascii : c.isDigit = true) : isspace c = false := by
  simp only [Char.isDigit, Bool.and_eq_true, decide_eq_true_eq, UInt32.le_iff_toNat_le] at ascii
  have range : 48 ≤ c.toNat ∧ c.toNat ≤ 57 := ascii
  simp only [isspace, Bool.or_eq_false_iff, Bool.and_eq_false_iff, decide_eq_false_iff_not]
  omega

theorem int_decimal (n : Nat) : int (decimal n) = some (n : Int) := by
  have trimmed : strip isspace (decimal n) = decimal n := by
    have kept := strip_solid_append (fun c mem => solid_isDigit (decimal_isDigit c mem))
      (Nat.toDigits_ne_nil (n := n) (b := 10)) []
    simpa [decimal] using kept
  have value : natural (decimal n) = some n := by
    rw [natural_ascii decimal_isDigit Nat.toDigits_ne_nil, decimal, Nat.ofDigitChars_ten_toDigits]
  unfold int
  rw [trimmed]
  split
  · next u same =>
    have sign := decimal_isDigit '-' (same ▸ List.mem_cons_self)
    cases sign
  · next u same =>
    have sign := decimal_isDigit '+' (same ▸ List.mem_cons_self)
    cases sign
  · rw [value]
    rfl

/-! Lines with their ends -/

/-- `splitlines(keepends=True)`, each line apart from its end. -/
def renglones : Texto → List (Texto × Texto)
  | [] => []
  | '\r' :: '\n' :: t => ([], ['\r', '\n']) :: renglones t
  | c :: t =>
    if esSalto c then ([], [c]) :: renglones t
    else match renglones t with
      | [] => [([c], [])]
      | (l, fin) :: rs => (c :: l, fin) :: rs

def textoDeRenglones (rs : List (Texto × Texto)) : Texto := rs.flatMap fun r => r.1 ++ r.2

/-- The lines of a text: ends only where they end a line, and a line without end at
the end only. -/
inductive Encaja : List (Texto × Texto) → Prop where
  | nil : Encaja []
  | ultimo {l : Texto} (solid : ∀ c ∈ l, esSalto c = false) (nonempty : l ≠ []) : Encaja [(l, [])]
  | crlf {l : Texto} {rs : List (Texto × Texto)} (solid : ∀ c ∈ l, esSalto c = false)
      (rest : Encaja rs) : Encaja ((l, ['\r', '\n']) :: rs)
  | salto {l : Texto} {c : Char} {rs : List (Texto × Texto)} (solid : ∀ c ∈ l, esSalto c = false)
      (brk : esSalto c = true) (alone : c = '\r' → (textoDeRenglones rs).head? ≠ some '\n')
      (rest : Encaja rs) : Encaja ((l, [c]) :: rs)

theorem textoDeRenglones_cons (l fin : Texto) (rs : List (Texto × Texto)) :
    textoDeRenglones ((l, fin) :: rs) = l ++ (fin ++ textoDeRenglones rs) := by
  rw [textoDeRenglones, List.flatMap_cons, List.append_assoc]
  rfl

theorem texto_renglones (t : Texto) : textoDeRenglones (renglones t) = t := by
  fun_induction renglones t with
  | case1 => rfl
  | case2 t ih => rw [textoDeRenglones_cons, ih]; rfl
  | case3 c t _ _ ih => rw [textoDeRenglones_cons, ih]; rfl
  | case4 c t _ _ last ih =>
    rw [last] at ih
    rw [← ih]
    rfl
  | case5 c t _ _ l fin rs shape ih =>
    rw [shape, textoDeRenglones_cons] at ih
    rw [textoDeRenglones_cons, List.cons_append, ih]

theorem Encaja.cons {c : Char} {l fin : Texto} {rs : List (Texto × Texto)}
    (solid : esSalto c = false) (fits : Encaja ((l, fin) :: rs)) : Encaja ((c :: l, fin) :: rs) := by
  cases fits with
  | ultimo rest _ => exact .ultimo (List.forall_mem_cons.mpr ⟨solid, rest⟩) (List.cons_ne_nil c l)
  | crlf rest fits => exact .crlf (List.forall_mem_cons.mpr ⟨solid, rest⟩) fits
  | salto rest brk alone fits =>
    exact .salto (List.forall_mem_cons.mpr ⟨solid, rest⟩) brk alone fits

theorem encaja_renglones (t : Texto) : Encaja (renglones t) := by
  fun_induction renglones t with
  | case1 => exact .nil
  | case2 t ih => exact .crlf (List.forall_mem_nil _) ih
  | case3 c t single brk ih =>
    refine .salto (List.forall_mem_nil _) brk ?_ ih
    intro isReturn head
    rw [texto_renglones] at head
    cases t with
    | nil => cases head
    | cons d t =>
      rw [List.head?_cons, Option.some.injEq] at head
      subst isReturn
      subst head
      exact single t rfl rfl
  | case4 c t _ solid last ih =>
    exact .ultimo (by simpa using solid) (List.cons_ne_nil c [])
  | case5 c t _ solid l fin rs shape ih =>
    rw [shape] at ih
    exact ih.cons (by simpa using solid)

theorem lineas_true {t : Texto} (head : t.head? ≠ some '\n') : lineas true t = lineas false t := by
  cases t with
  | nil => rfl
  | cons c t =>
    have other : c ≠ '\n' := by
      intro same
      exact head (by rw [same, List.head?_cons])
    simp only [lineas, other, and_false, if_false]

theorem lineas_append_salto {l : Texto} (solid : ∀ c ∈ l, esSalto c = false) {c : Char}
    (brk : esSalto c = true) (t : Texto) :
    lineas false (l ++ c :: t) = l :: lineas (c = '\r') t := by
  induction l with
  | nil => rw [List.nil_append, lineas, if_neg (by simp), if_pos brk]
  | cons d l ih =>
    rw [List.forall_mem_cons] at solid
    rw [List.cons_append, lineas_solid solid.1, ih solid.2]

theorem splitlines_textoDeRenglones {rs : List (Texto × Texto)} (fits : Encaja rs) :
    splitlines (textoDeRenglones rs) = rs.map Prod.fst := by
  induction fits with
  | nil => rfl
  | @ultimo l solid nonempty =>
    have text : textoDeRenglones [(l, [])] = l := by simp [textoDeRenglones]
    rw [text, splitlines_single solid nonempty]
    rfl
  | @crlf l rs solid _ ih =>
    have line := splitlines_line solid true (textoDeRenglones rs)
    rw [if_pos rfl, ih] at line
    rw [textoDeRenglones_cons, line, List.map_cons]
  | @salto l c rs solid brk alone _ ih =>
    rw [textoDeRenglones_cons, splitlines, List.singleton_append, lineas_append_salto solid brk,
      List.map_cons, ← ih, splitlines]
    by_cases isReturn : c = '\r'
    · simp only [isReturn, decide_true]
      rw [lineas_true (alone isReturn)]
    · simp only [isReturn, decide_false]

theorem splitlines_renglones (t : Texto) : splitlines t = (renglones t).map Prod.fst := by
  rw [← splitlines_textoDeRenglones (encaja_renglones t), texto_renglones]

/-- Something put in front of each line, counted from `i`. -/
def antepone (p : Nat → Texto) : Nat → List (Texto × Texto) → List (Texto × Texto)
  | _, [] => []
  | i, (l, fin) :: rs => (p i ++ l, fin) :: antepone p (i + 1) rs

theorem head_antepone {p : Nat → Texto} (solid : ∀ i, ∀ c ∈ p i, esSalto c = false) {i : Nat}
    {rs : List (Texto × Texto)} (fits : Encaja rs)
    (head : (textoDeRenglones (antepone p i rs)).head? = some '\n') :
    (textoDeRenglones rs).head? = some '\n' := by
  cases rs with
  | nil => exact head
  | cons r rs =>
    obtain ⟨l, fin⟩ := r
    rw [antepone, textoDeRenglones_cons, List.append_assoc] at head
    rw [textoDeRenglones_cons]
    cases shape : p i with
    | nil =>
      rw [shape, List.nil_append] at head
      cases l with
      | cons c l => exact head
      | nil =>
        have some_end : fin ≠ [] := by
          cases fits with
          | ultimo _ nonempty => exact absurd rfl nonempty
          | crlf _ _ => exact List.cons_ne_nil _ _
          | salto _ _ _ _ => exact List.cons_ne_nil _ _
        obtain ⟨d, fin, rfl⟩ := List.exists_cons_of_ne_nil some_end
        exact head
    | cons c w =>
      rw [shape, List.cons_append, List.head?_cons, Option.some.injEq] at head
      have first := solid i c (by rw [shape]; exact List.mem_cons_self)
      rw [head] at first
      exact absurd first (by decide)

theorem Encaja.antepone {p : Nat → Texto} (solid : ∀ i, ∀ c ∈ p i, esSalto c = false)
    {rs : List (Texto × Texto)} (fits : Encaja rs) (i : Nat) : Encaja (TextLines.antepone p i rs) := by
  induction fits generalizing i with
  | nil => exact .nil
  | ultimo rest nonempty =>
    apply Encaja.ultimo
    · exact List.forall_mem_append.mpr ⟨solid i, rest⟩
    · simp [nonempty]
  | crlf rest _ ih => exact .crlf (List.forall_mem_append.mpr ⟨solid i, rest⟩) (ih (i + 1))
  | salto rest brk alone fits ih =>
    refine .salto (List.forall_mem_append.mpr ⟨solid i, rest⟩) brk ?_ (ih (i + 1))
    intro isReturn head
    exact alone isReturn (head_antepone solid fits head)

end TextLines
