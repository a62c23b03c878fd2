import Mathlib.Data.List.Basic

set_option linter.all false

/-!
Logs of framed records: each record is a body that does not hold the mark,
followed by the mark. A log that is cut anywhere either ends with a whole
record or does not end with the mark.
-/
namespace FramedLog

variable {Record Byte : Type}

def encode (mark : Byte) (body : Record → List Byte) (rs : List Record) : List Byte :=
  rs.flatMap fun r => body r ++ [mark]

/-- The bodies before each mark; what follows the last mark is left out. -/
def lines [DecidableEq Byte] (mark : Byte) : List Byte → List (List Byte)
  | [] => []
  | b :: bs =>
    if b = mark then [] :: lines mark bs
    else match lines mark bs with
      | [] => []
      | l :: ls => (b :: l) :: ls

variable {mark : Byte} {body : Record → List Byte}

theorem encode_append (rs others : List Record) :
    encode mark body (rs ++ others) = encode mark body rs ++ encode mark body others :=
  List.flatMap_append

theorem encode_cons (r : Record) (rs : List Record) :
    encode mark body (r :: rs) = body r ++ mark :: encode mark body rs := by
  simp [encode]

theorem encode_singleton (r : Record) : encode mark body [r] = body r ++ [mark] := by
  simp [encode]

theorem lines_frame [DecidableEq Byte] {b rest : List Byte} (clean : mark ∉ b) :
    lines mark (b ++ mark :: rest) = b :: lines mark rest := by
  induction b with
  | nil => simp [lines]
  | cons c b ih =>
    have other : c ≠ mark := fun same => clean (by simp [same])
    rw [List.cons_append, lines, if_neg other, ih fun mem => clean (List.mem_cons_of_mem _ mem)]

theorem lines_encode [DecidableEq Byte] (clean : ∀ r, mark ∉ body r) (rs : List Record) :
    lines mark (encode mark body rs) = rs.map body := by
  induction rs with
  | nil => rfl
  | cons r rs ih => rw [encode_cons, lines_frame (clean r), ih, List.map_cons]

theorem getLast?_encode {rs : List Record} (some_record : rs ≠ []) :
    (encode mark body rs).getLast? = some mark := by
  rcases List.eq_nil_or_concat rs with empty | ⟨before, r, rfl⟩
  · exact absurd empty some_record
  · rw [List.concat_eq_append, encode_append, encode_singleton, ← List.append_assoc,
      List.getLast?_concat]

/-- A log that is cut at any byte. -/
theorem cut_cases (clean : ∀ r, mark ∉ body r) (rs : List Record) (n : Nat) :
    (∃ k, (encode mark body rs).take n = encode mark body (rs.take k)) ∨
      (encode mark body rs).take n ≠ [] ∧
        ((encode mark body rs).take n).getLast? ≠ some mark := by
  induction rs generalizing n with
  | nil => exact .inl ⟨0, by simp [encode]⟩
  | cons r rs ih =>
    rw [encode_cons]
    by_cases inside : n ≤ (body r).length
    · rw [List.take_append_of_le_length inside]
      cases n with
      | zero => exact .inl ⟨0, by simp [encode]⟩
      | succ n =>
        by_cases empty : (body r).take (n + 1) = []
        · exact .inl ⟨0, by rw [empty]; rfl⟩
        · right
          constructor
          · exact empty
          · intro last
            exact clean r (List.mem_of_mem_take (List.mem_of_getLast? last))
    · obtain ⟨m, rfl⟩ := Nat.exists_eq_add_of_lt (Nat.lt_of_not_le inside)
      have split : (body r ++ mark :: encode mark body rs).take ((body r).length + m + 1) =
          body r ++ mark :: (encode mark body rs).take m := by
        rw [Nat.add_assoc, List.take_length_add_append, List.take_succ_cons]
      rw [split]
      rcases ih m with ⟨k, whole⟩ | ⟨some_byte, torn⟩
      · left
        exact ⟨k + 1, by rw [List.take_succ_cons, encode_cons, whole]⟩
      · right
        constructor
        · simp
        · rw [List.getLast?_append, List.getLast?_cons]
          cases tail : ((encode mark body rs).take m).getLast? with
          | none => exact absurd (List.getLast?_eq_none_iff.mp tail) some_byte
          | some b =>
            rw [tail] at torn
            simpa using torn

theorem length_encode_lt {rs : List Record} {k d : Nat} (less : k < d) (inside : k < rs.length) :
    (encode mark body (rs.take k)).length < (encode mark body (rs.take d)).length := by
  have split : rs.take d = rs.take k ++ (rs.drop k).take (d - k) := by
    rw [← List.take_add, Nat.add_sub_cancel' (Nat.le_of_lt less)]
  have more : 0 < ((rs.drop k).take (d - k)).length := by
    rw [List.length_take, List.length_drop]
    omega
  obtain ⟨r, rest, same⟩ := List.exists_cons_of_length_pos more
  rw [split, same, encode_append, encode_cons]
  simp only [List.length_append, List.length_cons]
  omega

/-- The shorter of two starts of a log is a start of the longer one. -/
theorem prefix_of_length_le {rs : List Record} {k d : Nat}
    (le : (encode mark body (rs.take d)).length ≤ (encode mark body (rs.take k)).length) :
    rs.take d <+: rs.take k := by
  by_cases small : d ≤ k
  · exact List.take_prefix_take_left small
  · by_cases inside : k < rs.length
    · have longer : (encode mark body (rs.take k)).length < (encode mark body (rs.take d)).length :=
        length_encode_lt (Nat.lt_of_not_le small) inside
      omega
    · rw [List.take_of_length_le (Nat.le_of_not_lt inside)]
      exact List.take_prefix d rs

end FramedLog
