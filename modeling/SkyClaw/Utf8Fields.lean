import SkyClaw.TrimmedText
import SkyClaw.Utf8Text

set_option linter.all false

/-!
ASCII marks in the UTF-8 bytes of a text: what is trimmed off, found or looked for as
a byte is the same as the character, since no other character is written with it.
-/
namespace Utf8Fields
open TrimmedText Utf8Text

abbrev Text := List Char

def bytesOf (t : Text) : List UInt8 := t.flatMap String.utf8EncodeChar

@[simp] theorem bytesOf_nil : bytesOf [] = [] := rfl

theorem bytesOf_cons (c : Char) (t : Text) : bytesOf (c :: t) = String.utf8EncodeChar c ++ bytesOf t := rfl

theorem bytesOf_append (t u : Text) : bytesOf (t ++ u) = bytesOf t ++ bytesOf u := List.flatMap_append

theorem bytesOf_ascii {c : Char} (ascii : c.toNat < 128) (t : Text) :
    bytesOf (c :: t) = UInt8.ofNat c.toNat :: bytesOf t := by
  rw [bytesOf_cons, utf8EncodeChar_ascii ascii]
  rfl

theorem bytesOf_eq_nil {t : Text} : bytesOf t = [] ↔ t = [] := by
  cases t with
  | nil => simp
  | cons c t => simp [bytesOf_cons, String.utf8EncodeChar_ne_nil]

/-- An ASCII byte stands only for its character. -/
theorem mem_bytesOf {b : UInt8} (ascii : b.toNat < 128) {t : Text} (mem : b ∈ bytesOf t) :
    Char.ofNat b.toNat ∈ t := by
  obtain ⟨c, inside, mem⟩ := List.mem_flatMap.mp mem
  rw [← ascii_mem_encodeChar ascii mem]
  exact inside

section
variable {p : UInt8 → Bool} (low : ∀ b, p b = true → b.toNat < 128)

/-- The characters whose byte is one of these. -/
def charOf (p : UInt8 → Bool) (c : Char) : Bool := c.toNat < 128 && p (UInt8.ofNat c.toNat)

include low

theorem encodeChar_other {c : Char} (other : charOf p c = false) : ∀ b ∈ String.utf8EncodeChar c, p b = false := by
  intro b mem
  by_contra marked
  have bound := low b (by simpa using marked)
  have same := ascii_mem_encodeChar bound mem
  have valid : b.toNat.isValidChar := Or.inl (by omega)
  have number : c.toNat = b.toNat := by
    rw [same, Char.ofNat, dif_pos valid]
    rfl
  simp only [charOf, number, UInt8.ofNat_toNat, bound, decide_true, Bool.true_and] at other
  exact marked other

theorem dropWhile_bytesOf (t : Text) : (bytesOf t).dropWhile p = bytesOf (t.dropWhile (charOf p)) := by
  induction t with
  | nil => rfl
  | cons c t ih =>
    cases mark : charOf p c with
    | true =>
      have both : c.toNat < 128 ∧ p (UInt8.ofNat c.toNat) = true := by simpa [charOf] using mark
      rw [bytesOf_ascii both.1, List.dropWhile_cons_of_pos both.2, List.dropWhile_cons_of_pos mark, ih]
    | false =>
      obtain ⟨b, bytes, shape⟩ := List.exists_cons_of_ne_nil (@String.utf8EncodeChar_ne_nil c)
      have solid := encodeChar_other low mark b (shape ▸ List.mem_cons_self)
      rw [List.dropWhile_cons_of_neg (by simp [mark]), bytesOf_cons, shape, List.cons_append,
        List.dropWhile_cons_of_neg (by simp [solid])]

theorem rdropWhile_bytesOf (t : Text) : (bytesOf t).rdropWhile p = bytesOf (t.rdropWhile (charOf p)) := by
  induction t using List.reverseRecOn with
  | nil => simp
  | append_singleton t c ih =>
    have last : bytesOf [c] = String.utf8EncodeChar c := by rw [bytesOf_cons, bytesOf_nil, List.append_nil]
    cases mark : charOf p c with
    | true =>
      have both : c.toNat < 128 ∧ p (UInt8.ofNat c.toNat) = true := by simpa [charOf] using mark
      rw [List.rdropWhile_concat_pos _ _ _ mark, bytesOf_append, last, utf8EncodeChar_ascii both.1,
        List.rdropWhile_concat_pos _ _ _ both.2, ih]
    | false =>
      have some_ : String.utf8EncodeChar c ≠ [] := String.utf8EncodeChar_ne_nil
      have shape := List.dropLast_concat_getLast some_
      have solid := encodeChar_other low mark _ (List.getLast_mem some_)
      rw [List.rdropWhile_concat_neg _ _ _ (by simp [mark]), bytesOf_append, last, ← shape, ← List.append_assoc,
        List.rdropWhile_concat_neg _ _ _ (by simp [solid])]

theorem strip_bytesOf (t : Text) : strip p (bytesOf t) = bytesOf (strip (charOf p) t) := by
  rw [strip, dropWhile_bytesOf low, rdropWhile_bytesOf low, strip]

end

/-- The first byte is an ASCII one when the first character is. -/
theorem head_bytesOf {b : UInt8} (ascii : b.toNat < 128) (t : Text) :
    (bytesOf t).head? = some b ↔ t.head? = some (Char.ofNat b.toNat) := by
  cases t with
  | nil => simp
  | cons c t =>
    obtain ⟨d, bytes, shape⟩ := List.exists_cons_of_ne_nil (@String.utf8EncodeChar_ne_nil c)
    rw [bytesOf_cons, shape, List.cons_append, List.head?_cons, List.head?_cons, Option.some.injEq,
      Option.some.injEq]
    constructor
    · intro same
      exact ascii_mem_encodeChar ascii (by rw [shape, same]; exact List.mem_cons_self)
    · intro same
      have valid : b.toNat.isValidChar := Or.inl (by omega)
      have number : c.toNat = b.toNat := by
        rw [same, Char.ofNat, dif_pos valid]
        rfl
      have one := utf8EncodeChar_ascii (c := c) (by omega)
      rw [shape, number, UInt8.ofNat_toNat] at one
      exact (List.cons.inj one).1

/-- A text starts with a character when its bytes start with those of the character. -/
theorem encodeChar_prefix {c : Char} {t : Text} : String.utf8EncodeChar c <+: bytesOf t ↔ t.head? = some c := by
  constructor
  · intro front
    obtain ⟨rest, same⟩ := front
    have read := firstChar_encodeChar c rest
    rw [same] at read
    cases t with
    | nil => cases read
    | cons d t =>
      rw [bytesOf_cons, firstChar_encodeChar] at read
      exact read
  · intro head
    cases t with
    | nil => cases head
    | cons d t =>
      cases head
      exact List.prefix_append _ _

end Utf8Fields
