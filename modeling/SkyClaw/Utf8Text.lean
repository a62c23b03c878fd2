import Mathlib.Data.List.Basic
import Mathlib.Data.Nat.Bitwise

set_option linter.all false

/-!
Texts of code points and their UTF-8 bytes. A byte that is part of no character
is read as the surrogate U+DC00 plus the byte, and is written back as the byte
(`surrogateescape`); no other surrogate can be written.
-/
namespace Utf8Text

inductive CodePoint where
  | scalar (c : Char)
  | surrogate (n : Fin 2048)
  deriving DecidableEq

/-- U+DC00 plus the byte. -/
def escaped (b : UInt8) : CodePoint := .surrogate ⟨1024 + b.toNat, by
  have bound := b.toNat_lt
  omega⟩

def encodePoint : CodePoint → Option (List UInt8)
  | .scalar c => some (String.utf8EncodeChar c)
  | .surrogate n => if 1024 + 128 ≤ n.val ∧ n.val < 1024 + 256 then some [.ofNat (n.val - 1024)] else none

def encode : List CodePoint → Option (List UInt8)
  | [] => some []
  | p :: t => do return (← encodePoint p) ++ (← encode t)

/-- The character that the bytes start with. -/
def firstChar (bytes : List UInt8) : Option Char := bytes.toByteArray.utf8DecodeChar? 0

/-- `skip` bytes belong to a character that is already read. -/
def decodeFrom : Nat → List UInt8 → List CodePoint
  | _, [] => []
  | skip + 1, _ :: bytes => decodeFrom skip bytes
  | 0, b :: bytes => match firstChar (b :: bytes) with
    | some c => .scalar c :: decodeFrom (c.utf8Size - 1) bytes
    | none => escaped b :: decodeFrom 0 bytes

def decode (bytes : List UInt8) : List CodePoint := decodeFrom 0 bytes

/-- The text is read back from its bytes. -/
def Survives (t : List CodePoint) : Prop := (encode t).map decode = some t

instance (t : List CodePoint) : Decidable (Survives t) :=
  inferInstanceAs (Decidable ((encode t).map decode = some t))

/-! One character -/

theorem firstChar_eq_some {bytes : List UInt8} {c : Char} :
    firstChar bytes = some c ↔ ∃ rest, bytes = String.utf8EncodeChar c ++ rest := by
  constructor
  · intro first
    obtain ⟨rest, split⟩ := ByteArray.exists_of_utf8DecodeChar?_eq_some first
    exact ⟨rest.data.toList, by simpa using congrArg (·.data.toList) split⟩
  · rintro ⟨rest, rfl⟩
    rw [firstChar, List.toByteArray_append]
    exact ByteArray.utf8DecodeChar?_utf8EncodeChar_append

theorem firstChar_encodeChar (c : Char) (rest : List UInt8) :
    firstChar (String.utf8EncodeChar c ++ rest) = some c := firstChar_eq_some.mpr ⟨rest, rfl⟩

theorem decodeFrom_drop (skip : Nat) (bytes : List UInt8) :
    decodeFrom skip bytes = decode (bytes.drop skip) := by
  induction bytes generalizing skip with
  | nil => simp [decodeFrom, decode]
  | cons b bytes ih =>
    cases skip with
    | zero => rfl
    | succ skip => simpa [decodeFrom] using ih skip

@[simp] theorem decode_nil : decode [] = [] := rfl

theorem decode_encodeChar (c : Char) (rest : List UInt8) :
    decode (String.utf8EncodeChar c ++ rest) = .scalar c :: decode rest := by
  obtain ⟨b, bytes, same⟩ := List.exists_cons_of_ne_nil (@String.utf8EncodeChar_ne_nil c)
  have first := firstChar_encodeChar c rest
  have size : bytes.length = c.utf8Size - 1 := by
    rw [← String.length_utf8EncodeChar, same, List.length_cons, Nat.add_sub_cancel]
  rw [same, List.cons_append] at first ⊢
  rw [decode, decodeFrom, first]
  dsimp only
  rw [decodeFrom_drop, ← size, List.drop_left]

theorem decode_cons_of_none {b : UInt8} {bytes : List UInt8}
    (invalid : firstChar (b :: bytes) = none) :
    decode (b :: bytes) = escaped b :: decode bytes := by
  rw [decode, decodeFrom, invalid]
  rfl

/-- What bytes start with: a character, or a byte of none. -/
theorem decode_cases (bytes : List UInt8) :
    bytes = [] ∨
    (∃ c rest, bytes = String.utf8EncodeChar c ++ rest ∧
      decode bytes = .scalar c :: decode rest ∧ rest.length < bytes.length) ∨
    ∃ b rest, bytes = b :: rest ∧ firstChar bytes = none ∧
      decode bytes = escaped b :: decode rest := by
  cases bytes with
  | nil => exact .inl rfl
  | cons b bytes =>
    right
    cases first : firstChar (b :: bytes) with
    | none => exact .inr ⟨b, bytes, rfl, rfl, decode_cons_of_none first⟩
    | some c =>
      obtain ⟨rest, split⟩ := firstChar_eq_some.mp first
      refine .inl ⟨c, rest, split, split ▸ decode_encodeChar c rest, ?_⟩
      have size := congrArg List.length split
      have positive := c.utf8Size_pos
      rw [List.length_append, String.length_utf8EncodeChar] at size
      omega

theorem utf8EncodeChar_ascii {c : Char} (ascii : c.toNat < 128) :
    String.utf8EncodeChar c = [UInt8.ofNat c.toNat] := by
  have one : c.utf8Size = 1 := by
    rw [Char.utf8Size_eq_one_iff, UInt32.le_iff_toNat_le]
    exact Nat.le_of_lt_succ ascii
  rw [String.utf8EncodeChar_eq_singleton one]
  rfl

theorem firstChar_ascii {b : UInt8} (ascii : b.toNat < 128) (rest : List UInt8) :
    firstChar (b :: rest) = some (Char.ofNat b.toNat) := by
  have valid : b.toNat.isValidChar := Or.inl (by omega)
  have same : (Char.ofNat b.toNat).toNat = b.toNat := by
    rw [Char.ofNat, dif_pos valid]
    rfl
  apply firstChar_eq_some.mpr
  refine ⟨rest, ?_⟩
  rw [utf8EncodeChar_ascii (by omega), same, UInt8.ofNat_toNat]
  rfl

/-! Whole texts -/

theorem encode_cons {p : CodePoint} {t : List CodePoint} {bytes : List UInt8} :
    encode (p :: t) = some bytes ↔
      ∃ x y, encodePoint p = some x ∧ encode t = some y ∧ bytes = x ++ y := by
  rw [encode]
  cases encodePoint p with
  | none => simp
  | some x =>
    cases encode t with
    | none => simp
    | some y => simp [eq_comm]

theorem encode_append {t u : List CodePoint} {bytes : List UInt8} :
    encode (t ++ u) = some bytes ↔
      ∃ x y, encode t = some x ∧ encode u = some y ∧ bytes = x ++ y := by
  induction t generalizing bytes with
  | nil => simp [encode]
  | cons p t ih =>
    rw [List.cons_append, encode_cons]
    constructor
    · rintro ⟨x, y, first, rest, rfl⟩
      obtain ⟨z, w, middle, last, rfl⟩ := ih.mp rest
      exact ⟨x ++ z, w, encode_cons.mpr ⟨x, z, first, middle, rfl⟩, last,
        (List.append_assoc _ _ _).symm⟩
    · rintro ⟨x, y, first, last, rfl⟩
      obtain ⟨v, w, point, middle, rfl⟩ := encode_cons.mp first
      exact ⟨v, w ++ y, point, ih.mpr ⟨w, y, middle, last, rfl⟩, List.append_assoc _ _ _⟩

/-- Every byte string is written back as it was. -/
theorem encode_decode (bytes : List UInt8) : encode (decode bytes) = some bytes := by
  induction h : bytes.length using Nat.strongRecOn generalizing bytes with
  | ind n ih =>
    rcases decode_cases bytes with rfl | ⟨c, rest, rfl, read, less⟩ | ⟨b, rest, rfl, invalid, read⟩
    · rfl
    · rw [read]
      exact encode_cons.mpr ⟨_, rest, rfl, ih _ (h ▸ less) rest rfl, rfl⟩
    · rw [read]
      have high : 128 ≤ b.toNat := by
        by_contra low
        rw [firstChar_ascii (by omega)] at invalid
        cases invalid
      have bound := b.toNat_lt
      have written : encodePoint (escaped b) = some [b] := by
        rw [escaped, encodePoint, if_pos (by dsimp only; omega), Nat.add_sub_cancel_left,
          UInt8.ofNat_toNat]
      refine encode_cons.mpr ⟨_, rest, written, ih rest.length ?_ rest rfl, rfl⟩
      rw [← h, List.length_cons]
      exact Nat.lt_succ_self _

theorem survives_decode (bytes : List UInt8) : Survives (decode bytes) := by
  rw [Survives, encode_decode, Option.map_some]

/-! Where a character stands, the bytes on both sides are read on their own -/

/-- A character that starts inside `front` also ends there when another one follows. -/
theorem prefix_of_prefix_append {c d : Char} {front rest : List UInt8} (some_byte : front ≠ [])
    (start : String.utf8EncodeChar d <+: front ++ (String.utf8EncodeChar c ++ rest)) :
    String.utf8EncodeChar d <+: front := by
  by_cases inside : (String.utf8EncodeChar d).length ≤ front.length
  · exact List.prefix_of_prefix_length_le start (List.prefix_append _ _) inside
  · exfalso
    have positive := c.utf8Size_pos
    have position : front.length < (String.utf8EncodeChar d).length := by omega
    have first : ((String.utf8EncodeChar d)[front.length]).IsUTF8FirstByte := by
      rw [start.getElem position, List.getElem_append_right (Nat.le_refl _),
        List.getElem_append_left (by simpa using positive)]
      simp
    rw [UInt8.isUTF8FirstByte_getElem_utf8EncodeChar, List.length_eq_zero_iff] at first
    exact some_byte first

theorem decode_append_encodeChar (front : List UInt8) (c : Char) (rest : List UInt8) :
    decode (front ++ (String.utf8EncodeChar c ++ rest)) =
      decode front ++ .scalar c :: decode rest := by
  induction h : front.length using Nat.strongRecOn generalizing front with
  | ind n ih =>
    rcases decode_cases front with rfl | ⟨d, tail, rfl, read, less⟩ | ⟨b, tail, rfl, invalid, read⟩
    · exact decode_encodeChar c rest
    · rw [List.append_assoc, decode_encodeChar, ih _ (h ▸ less) tail rfl, read]
      rfl
    · have still : firstChar (b :: tail ++ (String.utf8EncodeChar c ++ rest)) = none := by
        by_contra some_char
        obtain ⟨d, first⟩ := Option.ne_none_iff_exists'.mp some_char
        obtain ⟨after, split⟩ := firstChar_eq_some.mp first
        obtain ⟨more, start⟩ := prefix_of_prefix_append (List.cons_ne_nil b tail) ⟨after, split.symm⟩
        rw [← start, firstChar_encodeChar] at invalid
        cases invalid
      rw [List.cons_append] at still ⊢
      rw [decode_cons_of_none still, read, ih tail.length (by rw [← h]; exact Nat.lt_succ_self _)
        tail rfl]
      rfl

/-- Two starts of one text with the same bytes are the same. -/
theorem encode_injOn_prefix {t u v : List CodePoint} {bytes : List UInt8}
    (shorter : t <+: v) (longer : u <+: v) (first : encode t = some bytes)
    (second : encode u = some bytes) : t = u := by
  have extension : ∀ {t u : List CodePoint}, t <+: u → encode t = some bytes →
      encode u = some bytes → t = u := by
    rintro t _ ⟨w, rfl⟩ first second
    obtain ⟨x, y, front, rest, same⟩ := encode_append.mp second
    obtain rfl : bytes = x := Option.some.inj (first.symm.trans front)
    obtain rfl : y = [] := by simpa using same
    cases w with
    | nil => simp
    | cons p w =>
      obtain ⟨z, y, point, _, none_left⟩ := encode_cons.mp rest
      have empty : z = [] := (List.append_eq_nil_iff.mp none_left.symm).1
      rw [empty] at point
      cases p with
      | scalar c => exact absurd (Option.some.inj point) String.utf8EncodeChar_ne_nil
      | surrogate n =>
        rw [encodePoint] at point
        split at point
        · cases point
        · cases point
  rcases List.prefix_or_prefix_of_prefix shorter longer with less | less
  · exact extension less first second
  · exact (extension less second first).symm

theorem survives_append_scalar {t u : List CodePoint} {c : Char} :
    Survives (t ++ .scalar c :: u) ↔ Survives t ∧ Survives u := by
  constructor
  · intro survives
    obtain ⟨bytes, written, read⟩ := Option.map_eq_some_iff.mp survives
    obtain ⟨x, y, front, rest, rfl⟩ := encode_append.mp written
    obtain ⟨_, z, ⟨⟩, back, rfl⟩ := encode_cons.mp rest
    rw [decode_append_encodeChar] at read
    have same : decode x = t :=
      encode_injOn_prefix ⟨_, read⟩ ⟨_, rfl⟩ (encode_decode x) front
    rw [same] at read
    have tail : decode z = u := (List.cons.inj (List.append_cancel_left read)).2
    exact ⟨by rw [Survives, front, Option.map_some, same],
      by rw [Survives, back, Option.map_some, tail]⟩
  · rintro ⟨first, second⟩
    obtain ⟨x, front, read⟩ := Option.map_eq_some_iff.mp first
    obtain ⟨z, back, again⟩ := Option.map_eq_some_iff.mp second
    have written : encode (t ++ .scalar c :: u) = some (x ++ (String.utf8EncodeChar c ++ z)) :=
      encode_append.mpr ⟨x, _, front, encode_cons.mpr ⟨_, z, rfl, back, rfl⟩, rfl⟩
    rw [Survives, written, Option.map_some, decode_append_encodeChar, read, again]

theorem survives_nil : Survives [] := rfl

theorem survives_cons_scalar {u : List CodePoint} {c : Char} :
    Survives (.scalar c :: u) ↔ Survives u := by
  have split := survives_append_scalar (t := []) (u := u) (c := c)
  simpa [survives_nil] using split

theorem survives_scalars (cs : List Char) : Survives (cs.map .scalar) := by
  induction cs with
  | nil => exact survives_nil
  | cons c cs ih => exact survives_cons_scalar.mpr ih

/-- Only the character itself is written with the byte of an ASCII character. -/
theorem ascii_mem_encodeChar {b : UInt8} (ascii : b.toNat < 128) {c : Char}
    (mem : b ∈ String.utf8EncodeChar c) : c = Char.ofNat b.toNat := by
  obtain ⟨i, inside, rfl⟩ := List.mem_iff_getElem.mp mem
  have first : ((String.utf8EncodeChar c)[i]).IsUTF8FirstByte := by
    left
    have low : ((String.utf8EncodeChar c)[i]).toNat.testBit 7 = false := Nat.testBit_lt_two_pow ascii
    rw [← UInt8.toNat_inj, UInt8.toNat_and]
    exact (Nat.and_two_pow _ 7).trans (by rw [low]; rfl)
  rw [UInt8.isUTF8FirstByte_getElem_utf8EncodeChar] at first
  subst first
  obtain ⟨b, bytes, same⟩ := List.exists_cons_of_ne_nil (@String.utf8EncodeChar_ne_nil c)
  have read := firstChar_encodeChar c []
  simp only [same, List.getElem_cons_zero] at ascii ⊢
  rw [same, List.append_nil, firstChar_ascii ascii] at read
  exact (Option.some.inj read).symm

theorem mem_encodePoint_ascii {b : UInt8} (ascii : b.toNat < 128) {p : CodePoint} {bytes : List UInt8}
    (written : encodePoint p = some bytes) :
    b ∈ bytes ↔ .scalar (Char.ofNat b.toNat) = p := by
  cases p with
  | scalar c =>
    obtain rfl := Option.some.inj written
    constructor
    · intro mem
      rw [ascii_mem_encodeChar ascii mem]
    · intro same
      obtain rfl := CodePoint.scalar.inj same
      have valid : b.toNat.isValidChar := Or.inl (by omega)
      have code : (Char.ofNat b.toNat).toNat = b.toNat := by
        rw [Char.ofNat, dif_pos valid]
        rfl
      rw [utf8EncodeChar_ascii (by omega), code, UInt8.ofNat_toNat]
      exact List.mem_singleton_self b
  | surrogate n =>
    rw [encodePoint] at written
    split at written
    · next byte =>
      obtain rfl := Option.some.inj written
      simp only [List.mem_singleton, reduceCtorEq, iff_false]
      rintro rfl
      rw [UInt8.toNat_ofNat'] at ascii
      omega
    · cases written

/-- An ASCII byte is written for the character that it is, and for no other. -/
theorem mem_encode_ascii {b : UInt8} (ascii : b.toNat < 128) {t : List CodePoint}
    {bytes : List UInt8} (written : encode t = some bytes) :
    b ∈ bytes ↔ .scalar (Char.ofNat b.toNat) ∈ t := by
  induction t generalizing bytes with
  | nil =>
    obtain rfl := Option.some.inj written
    simp
  | cons p t ih =>
    obtain ⟨x, y, point, rest, rfl⟩ := encode_cons.mp written
    rw [List.mem_append, List.mem_cons, mem_encodePoint_ascii ascii point, ih rest]

end Utf8Text
