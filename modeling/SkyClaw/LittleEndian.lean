import Mathlib.Data.Nat.Basic
import Mathlib.Algebra.Order.Ring.Nat

set_option linter.all false

/-!
Numbers as little-endian bytes.
-/
namespace LittleEndian

def fromBytes : List UInt8 → Nat
  | [] => 0
  | b :: bs => b.toNat + 256 * fromBytes bs

/-- The `width` low bytes of `n`. -/
def toBytes : Nat → Nat → List UInt8
  | 0, _ => []
  | width + 1, n => UInt8.ofNat n :: toBytes width (n / 256)

@[simp] theorem length_toBytes (width n : Nat) : (toBytes width n).length = width := by
  induction width generalizing n with
  | zero => rfl
  | succ width ih => rw [toBytes, List.length_cons, ih]

theorem fromBytes_toBytes {width n : Nat} (fits : n < 256 ^ width) :
    fromBytes (toBytes width n) = n := by
  induction width generalizing n with
  | zero =>
    rw [pow_zero] at fits
    simp only [toBytes, fromBytes]
    omega
  | succ width ih =>
    rw [pow_succ] at fits
    rw [toBytes, fromBytes, ih (by omega), UInt8.toNat_ofNat']
    omega

example : toBytes 4 0x14020007 = [7, 0, 2, 0x14] := by decide

end LittleEndian
