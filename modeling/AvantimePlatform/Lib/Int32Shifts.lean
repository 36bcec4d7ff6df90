import Mathlib

/-!
# Signed 32-bit accumulators

The operators `<<`, `>>>`, `|` and `&` on signed 32-bit integers, as far as a loop needs them
that shifts digits into an accumulator and reads digits off it.  `unsigned_push` and
`mask_shiftRight` say what such a loop does, in arithmetic of the unsigned reading.

Nothing here names a component of the platform.
-/

namespace AvantimePlatform.Int32Shifts

/-- `value << count`. -/
def shiftLeft (value : Int32) (count : Nat) : Int32 := .ofBitVec (value.toBitVec <<< (count % 32))

/-- `value >>> count`, as the operand of a mask. -/
def shiftRight (value : Int32) (count : Nat) : Int32 :=
  .ofBitVec (value.toBitVec >>> (count % 32))

/-- `value >>> 0`. -/
def unsigned (value : Int32) : Nat := value.toBitVec.toNat

/-- `(value << width) | digit`. -/
def push (value : Int32) (width digit : Nat) : Int32 := shiftLeft value width ||| .ofNat digit

/-- `value & mask`, where the mask has `width` bits. -/
def mask (value : Int32) (width : Nat) : Nat := unsigned (value &&& .ofNat (2 ^ width - 1))

variable {value : Int32} {count width digit : Nat}

theorem unsigned_lt (value : Int32) : unsigned value < 2 ^ 32 := value.toBitVec.isLt

theorem unsigned_ofNat (h : digit < 2 ^ 32) : unsigned (.ofNat digit) = digit := by
  unfold unsigned
  rw [Int32.toBitVec_ofNat', BitVec.toNat_ofNat, Nat.mod_eq_of_lt h]

theorem unsigned_shiftLeft (h : count < 32) :
    unsigned (shiftLeft value count) = unsigned value * 2 ^ count % 2 ^ 32 := by
  unfold unsigned shiftLeft
  rw [Nat.mod_eq_of_lt h, Int32.toBitVec_ofBitVec, BitVec.toNat_shiftLeft, Nat.shiftLeft_eq]

theorem unsigned_shiftRight (h : count < 32) :
    unsigned (shiftRight value count) = unsigned value / 2 ^ count := by
  unfold unsigned shiftRight
  rw [Nat.mod_eq_of_lt h, Int32.toBitVec_ofBitVec, BitVec.toNat_ushiftRight,
    Nat.shiftRight_eq_div_pow]

/-- The bits that a shift leaves are a multiple of its width. -/
theorem shifted_eq (h : width ≤ 32) (n : Nat) :
    n * 2 ^ width % 2 ^ 32 = n % 2 ^ (32 - width) * 2 ^ width := by
  have hsplit : 2 ^ 32 = 2 ^ (32 - width) * 2 ^ width := by
    rw [← pow_add, Nat.sub_add_cancel h]
  rw [hsplit, Nat.mul_mod_mul_right]

/-- A digit is shifted in at the low end; what does not fit is lost at the high end. -/
theorem unsigned_push (hwidth : width < 32) (hdigit : digit < 2 ^ width) :
    unsigned (push value width digit) = unsigned value * 2 ^ width % 2 ^ 32 + digit := by
  have hsmall : digit < 2 ^ 32 :=
    lt_of_lt_of_le hdigit (Nat.pow_le_pow_right (by omega) (by omega))
  have hor : unsigned (push value width digit) =
      unsigned (shiftLeft value width) ||| unsigned (.ofNat digit) := by
    unfold push unsigned
    rw [Int32.toBitVec_or, BitVec.toNat_or]
  rw [hor, unsigned_ofNat hsmall, unsigned_shiftLeft hwidth, shifted_eq (by omega),
    ← Nat.shiftLeft_eq, ← Nat.shiftLeft_add_eq_or_of_lt hdigit]

theorem mask_eq (h : width ≤ 31) : mask value width = unsigned value % 2 ^ width := by
  have hsmall : 2 ^ width - 1 < 2 ^ 32 := by
    have hpow : 2 ^ width ≤ 2 ^ 31 := Nat.pow_le_pow_right (by omega) h
    omega
  have hand : mask value width = unsigned value &&& unsigned (.ofNat (2 ^ width - 1)) := by
    unfold mask unsigned
    rw [Int32.toBitVec_and, BitVec.toNat_and]
  rw [hand, unsigned_ofNat hsmall, Nat.and_two_pow_sub_one_eq_mod]

/-- A digit that is read off an accumulator. -/
theorem mask_shiftRight (hcount : count < 32) (hwidth : width ≤ 31) :
    mask (shiftRight value count) width = unsigned value / 2 ^ count % 2 ^ width := by
  rw [mask_eq hwidth, unsigned_shiftRight hcount]

end AvantimePlatform.Int32Shifts
