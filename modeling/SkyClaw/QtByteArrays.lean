import SkyClaw.IniEdits

set_option linter.all false

/-!
`@ByteArray(...)`, the form in which `gamePath` stands in `modorganizer.ini`: how
`mo2_ini_escritura.py` writes a path, and how `mo2_ini.py` reads the escapes, as Qt does.
-/
namespace QtByteArrays
open Utf8Text
open IniEditor (Bytes Texto strip blank)

def plano (s : List Char) : Texto := s.map .scalar

/-! Reading -/

def valorHex : CodePoint → Option Nat
  | .scalar c =>
    if '0' ≤ c ∧ c ≤ '9' then some (c.toNat - 48)
    else if 'a' ≤ c ∧ c ≤ 'f' then some (c.toNat - 87)
    else if 'A' ≤ c ∧ c ≤ 'F' then some (c.toNat - 55)
    else none
  | .surrogate _ => none

def valorOct : CodePoint → Option Nat
  | .scalar c => if '0' ≤ c ∧ c ≤ '7' then some (c.toNat - 48) else none
  | .surrogate _ => none

/-- `_acumular_escape`: the value of the digits that follow, and how many they are. -/
def acumularEscape (digito : CodePoint → Option Nat) (desplazamiento : Nat) :
    Nat → Texto → Nat × Nat
  | valor, [] => (valor, 0)
  | valor, p :: t =>
    match digito p with
    | none => (valor, 0)
    | some d =>
      let sigue := acumularEscape digito desplazamiento
        (((valor <<< desplazamiento) % 2 ^ 16 + d) % 2 ^ 16) t
      (sigue.1, sigue.2 + 1)

def escapesDeUnaLetra : List (Char × UInt8) :=
  [('a', 0x07), ('b', 0x08), ('f', 0x0C), ('n', 0x0A), ('r', 0x0D), ('t', 0x09), ('v', 0x0B),
    ('"', 0x22), ('?', 0x3F), ('\'', 0x27), ('\\', 0x5C)]

def escapeDeUnaLetra : CodePoint → Option UInt8
  | .scalar c => escapesDeUnaLetra.lookup c
  | .surrogate _ => none

/-- `QtByteArrayIrrecuperableError`, with the value that does not fit in a byte. -/
inductive Irrecuperable where
  | hex (valor : Nat)
  | octal (valor : Nat)
  deriving DecidableEq

def agrega (antes : Bytes) : Except Irrecuperable Bytes → Except Irrecuperable Bytes
  | .ok bytes => .ok (antes ++ bytes)
  | .error e => .error e

/-- The loop of `_desescapar_bytes`. `skip` characters belong to an escape that is already
read. A text that was decoded has no code point that cannot be encoded. -/
def desescaparDesde : Nat → Texto → Except Irrecuperable Bytes
  | _, [] => .ok []
  | skip + 1, _ :: t => desescaparDesde skip t
  | 0, p :: t =>
    if p ≠ .scalar '\\' then agrega ((encodePoint p).getD []) (desescaparDesde 0 t)
    else match t.head? with
      | none => .ok []
      | some c =>
        match escapeDeUnaLetra c with
        | some b => agrega [b] (desescaparDesde 1 t)
        | none =>
          if c = .scalar 'x' then
            match t.tail.head? with
            | none => .ok []
            | some d =>
              if valorHex d = none then desescaparDesde 1 t
              else
                let leido := acumularEscape valorHex 4 0 t.tail
                if 0xFF < leido.1 then .error (.hex leido.1)
                else agrega [.ofNat leido.1] (desescaparDesde (1 + leido.2) t)
          else match valorOct c with
            | some inicial =>
              let leido := acumularEscape valorOct 3 inicial t.tail
              if 0xFF < leido.1 then .error (.octal leido.1)
              else agrega [.ofNat leido.1] (desescaparDesde (1 + leido.2) t)
            | none => desescaparDesde 1 t

def desescaparBytes (interior : Texto) : Except Irrecuperable Bytes := desescaparDesde 0 interior

def byteArray : List Char := ['@', 'B', 'y', 't', 'e', 'A', 'r', 'r', 'a', 'y', '(']

def prefijoByteArray : Texto := plano byteArray

/-- `_interior_del_byte_array`. -/
def interiorDelByteArray (raw : Texto) : Option Texto :=
  let texto := strip raw
  if prefijoByteArray.isPrefixOf texto ∧ texto.getLast? = some (.scalar ')') then
    some (texto.drop prefijoByteArray.length).dropLast
  else none

def decodeQtByteArray (raw : Texto) : Option Bytes :=
  match interiorDelByteArray raw with
  | none => none
  | some interior =>
    match desescaparBytes interior with
    | .ok bytes => some bytes
    | .error _ => none

def decodeQtScalar (raw : Texto) : Texto :=
  match decodeQtByteArray raw with
  | none => raw
  | some bytes => decode bytes

/-! Writing -/

/-- The bytes of `_LITERALES_PERMITIDOS`. -/
def literalPermitido (b : UInt8) : Bool :=
  0x20 ≤ b.toNat && b.toNat < 0x7F && !("\\;,=[]()#".toList.contains (Char.ofNat b.toNat))

/-- The loop of `codificar_qt_byte_array`. -/
def piezas : Bool → Bytes → List Char
  | _, [] => []
  | escapeHexPrevio, b :: bytes =>
    let caracter := Char.ofNat b.toNat
    if b = 0x5C then '\\' :: '\\' :: piezas false bytes
    else if literalPermitido b ∧ ¬ (escapeHexPrevio = true ∧ valorHex (.scalar caracter) ≠ none) then
      caracter :: piezas false bytes
    else
      '\\' :: 'x' :: Nat.digitChar (b.toNat / 16) :: Nat.digitChar (b.toNat % 16) ::
        piezas true bytes

/-- `encode("utf-8", "surrogatepass")`. -/
def encodePass : CodePoint → Bytes
  | .scalar c => String.utf8EncodeChar c
  | .surrogate n =>
    let code := 0xD800 + n.val
    [.ofNat (0xE0 + code / 4096), .ofNat (0x80 + code / 64 % 64), .ofNat (0x80 + code % 64)]

def codificarQtByteArray (ruta : Texto) : List Char :=
  byteArray ++ piezas false (ruta.flatMap encodePass) ++ [')']

/-! What is written is read back -/

theorem valorHex_digitChar : ∀ n < 16, valorHex (.scalar (Nat.digitChar n)) = some n := by decide

theorem acumular_dos (b : UInt8) {t : Texto} (ends : ∀ p ∈ t.head?, valorHex p = none) :
    acumularEscape valorHex 4 0 (.scalar (Nat.digitChar (b.toNat / 16)) ::
      .scalar (Nat.digitChar (b.toNat % 16)) :: t) = (b.toNat, 2) := by
  have bound := b.toNat_lt
  have last : ∀ valor, acumularEscape valorHex 4 valor t = (valor, 0) := by
    intro valor
    cases t with
    | nil => rfl
    | cons p t => simp [acumularEscape, ends p rfl]
  simp only [acumularEscape, valorHex_digitChar _ (show b.toNat / 16 < 16 by omega),
    valorHex_digitChar _ (show b.toNat % 16 < 16 by omega), last, Nat.shiftLeft_eq]
  refine Prod.ext ?_ rfl
  dsimp only
  omega

/-- A written byte that stands after a hexadecimal escape is no digit. -/
theorem head_piezas (bytes : Bytes) :
    ∀ p ∈ (plano (piezas true bytes)).head?, valorHex p = none := by
  intro p head
  cases bytes with
  | nil => cases head
  | cons b bytes =>
    rw [piezas] at head
    split at head
    · obtain rfl := Option.some.inj head
      rfl
    · split at head
      · next literal =>
        obtain rfl := Option.some.inj head
        simpa using literal.2
      · obtain rfl := Option.some.inj head
        rfl

theorem encodePoint_literal {b : UInt8} (ascii : b.toNat < 128) :
    encodePoint (.scalar (Char.ofNat b.toNat)) = some [b] := by
  have valid : b.toNat.isValidChar := Or.inl (by omega)
  have same : (Char.ofNat b.toNat).toNat = b.toNat := by
    rw [Char.ofNat, dif_pos valid]
    rfl
  rw [encodePoint, utf8EncodeChar_ascii (by omega), same, UInt8.ofNat_toNat]

theorem desescapar_barra (t : Texto) :
    desescaparBytes (.scalar '\\' :: .scalar '\\' :: t) = agrega [0x5C] (desescaparBytes t) := by
  have letter : escapeDeUnaLetra (.scalar '\\') = some 0x5C := by decide
  simp only [desescaparBytes, desescaparDesde, List.head?_cons, letter, ne_eq, not_true_eq_false,
    if_false]

theorem desescapar_literal {b : UInt8} (ascii : b.toNat < 128) (other : b ≠ 0x5C) (t : Texto) :
    desescaparBytes (.scalar (Char.ofNat b.toNat) :: t) = agrega [b] (desescaparBytes t) := by
  have not_slash : CodePoint.scalar (Char.ofNat b.toNat) ≠ .scalar '\\' := by
    intro same
    have bytes := congrArg encodePoint same
    rw [encodePoint_literal ascii] at bytes
    exact other (List.cons.inj (Option.some.inj bytes)).1
  rw [desescaparBytes, desescaparDesde, if_pos not_slash, encodePoint_literal ascii]
  rfl

theorem desescapar_hex (b : UInt8) {t : Texto} (ends : ∀ p ∈ t.head?, valorHex p = none) :
    desescaparBytes (.scalar '\\' :: .scalar 'x' :: .scalar (Nat.digitChar (b.toNat / 16)) ::
      .scalar (Nat.digitChar (b.toNat % 16)) :: t) = agrega [b] (desescaparBytes t) := by
  have bound := b.toNat_lt
  have letter : escapeDeUnaLetra (.scalar 'x') = none := by decide
  have digit := valorHex_digitChar (b.toNat / 16) (by omega)
  simp only [desescaparBytes, desescaparDesde, List.head?_cons, List.tail_cons, letter,
    acumular_dos b ends, digit, ne_eq, not_true_eq_false, if_false, if_true, reduceCtorEq,
    Nat.not_lt.mpr (Nat.le_of_lt_succ bound), UInt8.ofNat_toNat]

/-- What the escapes are read as is what was written, byte by byte. -/
theorem desescapar_piezas (previo : Bool) (bytes : Bytes) :
    desescaparBytes (plano (piezas previo bytes)) = .ok bytes := by
  induction bytes generalizing previo with
  | nil => rfl
  | cons b bytes ih =>
    rw [piezas]
    split
    · next slash =>
      subst slash
      exact (desescapar_barra _).trans (congrArg _ (ih _))
    · next other =>
      split
      · next literal =>
        have ascii : b.toNat < 128 := by
          have allowed := literal.1
          simp [literalPermitido] at allowed
          omega
        exact (desescapar_literal ascii other _).trans (congrArg _ (ih _))
      · exact (desescapar_hex b (head_piezas bytes)).trans (congrArg _ (ih _))

/-! The value of a path -/

theorem flatMap_encodePass (ruta : List Char) :
    encode (plano ruta) = some ((plano ruta).flatMap encodePass) := by
  induction ruta with
  | nil => rfl
  | cons c ruta ih => exact encode_cons.mpr ⟨_, _, rfl, ih, rfl⟩

def Imprimible (c : Char) : Prop := 0x20 ≤ c.toNat ∧ c.toNat < 0x7F

theorem imprimible_digitChar : ∀ n < 16, 0x20 ≤ (Nat.digitChar n).toNat ∧
    (Nat.digitChar n).toNat < 0x7F := by
  decide

theorem imprimible_piezas (previo : Bool) (bytes : Bytes) :
    ∀ c ∈ piezas previo bytes, Imprimible c := by
  have slash : Imprimible '\\' := ⟨by decide, by decide⟩
  have letter : Imprimible 'x' := ⟨by decide, by decide⟩
  induction bytes generalizing previo with
  | nil => nofun
  | cons b bytes ih =>
    have bound := b.toNat_lt
    rw [piezas]
    split
    · exact List.forall_mem_cons.mpr ⟨slash, List.forall_mem_cons.mpr ⟨slash, ih _⟩⟩
    · split
      · next literal =>
        refine List.forall_mem_cons.mpr ⟨?_, ih _⟩
        have allowed := literal.1
        simp [literalPermitido] at allowed
        have same : (Char.ofNat b.toNat).toNat = b.toNat := by
          rw [Char.ofNat, dif_pos (Or.inl (by omega))]
          rfl
        exact ⟨by omega, by omega⟩
      · refine List.forall_mem_cons.mpr ⟨slash, List.forall_mem_cons.mpr ⟨letter, ?_⟩⟩
        exact List.forall_mem_cons.mpr ⟨imprimible_digitChar _ (by omega),
          List.forall_mem_cons.mpr ⟨imprimible_digitChar _ (by omega), ih _⟩⟩

theorem imprimible_codificar (ruta : Texto) : ∀ c ∈ codificarQtByteArray ruta, Imprimible c := by
  intro c mem
  rcases List.mem_append.mp mem with front | close
  · rcases List.mem_append.mp front with opened | inside
    · have all : (byteArray.all fun c => 0x20 ≤ c.toNat && c.toNat < 0x7F) = true := by decide
      simpa [Imprimible] using List.all_eq_true.mp all c opened
    · exact imprimible_piezas _ _ c inside
  · obtain rfl := List.mem_singleton.mp close
    exact ⟨by decide, by decide⟩

theorem strip_codificar (ruta : Texto) :
    strip (plano (codificarQtByteArray ruta)) = plano (codificarQtByteArray ruta) := by
  have text : plano (codificarQtByteArray ruta) = .scalar '@' ::
      (plano (byteArray.tail ++ piezas false (ruta.flatMap encodePass)) ++ [CodePoint.scalar ')']) := by
    simp only [codificarQtByteArray, plano, List.map_append, List.append_assoc]
    rfl
  rw [text]
  exact TrimmedText.trimmed_between (by decide) (by decide)

theorem interior_codificar (ruta : Texto) :
    interiorDelByteArray (plano (codificarQtByteArray ruta)) =
      some (plano (piezas false (ruta.flatMap encodePass))) := by
  have text : plano (codificarQtByteArray ruta) =
      prefijoByteArray ++ (plano (piezas false (ruta.flatMap encodePass)) ++ [CodePoint.scalar ')']) := by
    simp only [codificarQtByteArray, plano, prefijoByteArray, List.map_append, List.append_assoc,
      List.map_cons, List.map_nil]
  have opened : prefijoByteArray.isPrefixOf (plano (codificarQtByteArray ruta)) = true :=
    List.isPrefixOf_iff_prefix.mpr ⟨_, text.symm⟩
  have closed : (plano (codificarQtByteArray ruta)).getLast? = some (.scalar ')') := by
    rw [text, ← List.append_assoc]
    simp
  unfold interiorDelByteArray
  dsimp only
  rw [strip_codificar, if_pos ⟨opened, closed⟩, text, List.drop_left, List.dropLast_concat]

/-- A path without surrogates is read back from the value it is written as. -/
theorem desescapar_codificar (ruta : List Char) : ∃ bytes,
    desescaparBytes (plano (piezas false ((plano ruta).flatMap encodePass))) = .ok bytes ∧
      decode bytes = plano ruta := by
  refine ⟨_, desescapar_piezas _ _, ?_⟩
  have survives := survives_scalars ruta
  rw [Survives, ← plano, flatMap_encodePass] at survives
  exact Option.some.inj survives

theorem decodeQtScalar_codificar (ruta : List Char) :
    decodeQtScalar (plano (codificarQtByteArray (plano ruta))) = plano ruta := by
  obtain ⟨bytes, read, same⟩ := desescapar_codificar ruta
  simp only [decodeQtScalar, decodeQtByteArray, interior_codificar, read, same]

/-! Lossless -/

theorem toNat_ofNat_byte {k : Nat} (byte : k < 256) : (UInt8.ofNat k).toNat = k := by
  rw [UInt8.toNat_ofNat', Nat.mod_eq_of_lt byte]

theorem encodePass_surrogate_ne (n : Fin 2048) (c : Char) (s t : Bytes) :
    encodePass (.surrogate n) ++ s ≠ String.utf8EncodeChar c ++ t := by
  intro same
  have bound := n.isLt
  have value : c.val.toNat.isValidChar := c.valid
  unfold Nat.isValidChar at value
  unfold encodePass String.utf8EncodeChar at same
  dsimp only at same
  split at same
  · have first := congrArg UInt8.toNat (List.cons.inj same).1
    rw [toNat_ofNat_byte (by omega), toNat_ofNat_byte (by omega)] at first
    omega
  · split at same
    · have first := congrArg UInt8.toNat (List.cons.inj same).1
      rw [toNat_ofNat_byte (by omega), toNat_ofNat_byte (by omega)] at first
      omega
    · split at same
      · obtain ⟨first, rest⟩ := List.cons.inj same
        have second := (List.cons.inj rest).1
        have first := congrArg UInt8.toNat first
        have second := congrArg UInt8.toNat second
        rw [toNat_ofNat_byte (by omega), toNat_ofNat_byte (by omega)] at first second
        omega
      · have first := congrArg UInt8.toNat (List.cons.inj same).1
        rw [toNat_ofNat_byte (by omega), toNat_ofNat_byte (by omega)] at first
        omega

/-- No code point's bytes start another's. -/
theorem encodePass_first {p q : CodePoint} {s t : Bytes}
    (same : encodePass p ++ s = encodePass q ++ t) : p = q := by
  cases p with
  | scalar c =>
    cases q with
    | scalar d =>
      have first := congrArg firstChar same
      simp only [encodePass, firstChar_encodeChar, Option.some.injEq] at first
      rw [first]
    | surrogate n => exact absurd same.symm (encodePass_surrogate_ne n c t s)
  | surrogate m =>
    cases q with
    | scalar d => exact absurd same (encodePass_surrogate_ne m d s t)
    | surrogate n =>
      have low := m.isLt
      have high := n.isLt
      unfold encodePass at same
      dsimp only [List.cons_append] at same
      obtain ⟨first, rest⟩ := List.cons.inj same
      obtain ⟨second, rest⟩ := List.cons.inj rest
      have third := congrArg UInt8.toNat (List.cons.inj rest).1
      have first := congrArg UInt8.toNat first
      have second := congrArg UInt8.toNat second
      rw [toNat_ofNat_byte (by omega), toNat_ofNat_byte (by omega)] at first second third
      have code : m = n := Fin.ext (by omega)
      rw [code]

theorem flatMap_encodePass_inj {ruta otra : Texto}
    (same : ruta.flatMap encodePass = otra.flatMap encodePass) : ruta = otra := by
  have some_byte : ∀ p, encodePass p ≠ [] := by
    intro p
    cases p with
    | scalar c => exact String.utf8EncodeChar_ne_nil
    | surrogate n => exact List.cons_ne_nil _ _
  induction ruta generalizing otra with
  | nil =>
    cases otra with
    | nil => rfl
    | cons q otra => exact absurd (List.append_eq_nil_iff.mp same.symm).1 (some_byte q)
  | cons p ruta ih =>
    cases otra with
    | nil => exact absurd (List.append_eq_nil_iff.mp same).1 (some_byte p)
    | cons q otra =>
      rw [List.flatMap_cons, List.flatMap_cons] at same
      have first := encodePass_first same
      subst first
      rw [ih (List.append_cancel_left same)]

theorem parentesis_piezas (previo : Bool) (bytes : Bytes) : ')' ∉ piezas previo bytes := by
  have digits : ∀ n < 16, ')' ≠ Nat.digitChar n := by decide
  induction bytes generalizing previo with
  | nil => exact List.not_mem_nil
  | cons b bytes ih =>
    have bound := b.toNat_lt
    rw [piezas]
    split
    · simp only [List.mem_cons, not_or]
      exact ⟨by decide, by decide, ih _⟩
    · split
      · next literal =>
        simp only [List.mem_cons, not_or]
        refine ⟨?_, ih _⟩
        intro closing
        have allowed := literal.1
        rw [literalPermitido, ← closing] at allowed
        simp at allowed
      · simp only [List.mem_cons, not_or]
        exact ⟨by decide, by decide, digits _ (by omega), digits _ (by omega), ih _⟩

theorem decodeQtByteArray_codificar (ruta : Texto) :
    decodeQtByteArray (plano (codificarQtByteArray ruta)) = some (ruta.flatMap encodePass) := by
  simp only [decodeQtByteArray, interior_codificar, desescapar_piezas]

/-- The escaping is read back to the bytes of the path, its text is printable ASCII that
closes once, no two paths share it, and a literal never continues an escape. -/
theorem escape_sin_perdida :
    (∀ ruta : Texto,
      decodeQtByteArray (plano (codificarQtByteArray ruta)) = some (ruta.flatMap encodePass) ∧
      (∀ c ∈ codificarQtByteArray ruta, c.toNat < 128 ∧ c ≠ '\n' ∧ c ≠ '\r') ∧
      ∃ front, codificarQtByteArray ruta = front ++ [')'] ∧ ')' ∉ front) ∧
    (∀ ruta otra : Texto, codificarQtByteArray ruta = codificarQtByteArray otra → ruta = otra) ∧
    ∀ (b : UInt8) (bytes : Bytes),
      desescaparBytes (.scalar '\\' :: .scalar 'x' :: .scalar (Nat.digitChar (b.toNat / 16)) ::
        .scalar (Nat.digitChar (b.toNat % 16)) :: plano (piezas true bytes)) = .ok (b :: bytes) := by
  refine ⟨?_, ?_, ?_⟩
  · intro ruta
    refine ⟨decodeQtByteArray_codificar ruta, ?_, ?_⟩
    · intro c mem
      obtain ⟨low, high⟩ := imprimible_codificar ruta c mem
      refine ⟨by omega, ?_, ?_⟩
      · rintro rfl
        exact absurd low (by decide)
      · rintro rfl
        exact absurd low (by decide)
    · refine ⟨byteArray ++ piezas false (ruta.flatMap encodePass), rfl, ?_⟩
      rw [List.mem_append, not_or]
      exact ⟨by decide, parentesis_piezas _ _⟩
  · intro ruta otra same
    apply flatMap_encodePass_inj
    apply Option.some.inj
    rw [← decodeQtByteArray_codificar, ← decodeQtByteArray_codificar, same]
  · intro b bytes
    rw [desescapar_hex b (head_piezas bytes), desescapar_piezas]
    rfl

end QtByteArrays
