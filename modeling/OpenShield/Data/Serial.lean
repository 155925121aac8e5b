import Mathlib

/-!
# Serial numbers of 32 bits

A counter that is reported modulo `2 ^ 32`. Two counts that are less than `2 ^ 31` apart can be
compared by the difference of their reports, and a report less than `2 ^ 32` ahead of a known
count determines its own.
-/

def serialHalf : BitVec 32 := 0x80000000

/-- A count modulo `2 ^ 32`. -/
def serial (n : ℕ) : BitVec 32 := BitVec.ofNat 32 n

/-- The first count from `last` on that is reported as `id`. -/
def unwrap (last : ℕ) (id : BitVec 32) : ℕ := last + (id - serial last).toNat

@[simp]
theorem serial_unwrap (last : ℕ) (id : BitVec 32) : serial (unwrap last id) = id := by
  apply BitVec.eq_of_toNat_eq
  have hid := id.isLt
  simp only [unwrap, serial, BitVec.toNat_ofNat, BitVec.toNat_sub]
  omega

theorem sub_serial_eq_zero_iff (last : ℕ) (id : BitVec 32) :
    id - serial last = 0 ↔ unwrap last id = last := by
  rw [unwrap, ← BitVec.toNat_inj]
  simp

/-- Counts less than `2 ^ 31` apart are compared by the difference of their reports. -/
theorem serial_sub_lt_half_iff {a b : ℕ} (hab : a < b + 2 ^ 31) (hba : b < a + 2 ^ 31) :
    serial a - serial b < serialHalf ↔ b ≤ a := by
  have hhalf : serialHalf.toNat = 2 ^ 31 := rfl
  rw [BitVec.lt_def, hhalf]
  simp only [serial, BitVec.toNat_ofNat, BitVec.toNat_sub]
  omega

theorem sub_serial_lt_half_iff (last : ℕ) (id : BitVec 32) :
    id - serial last < serialHalf ↔ unwrap last id < last + 2 ^ 31 := by
  rw [BitVec.lt_def, unwrap]
  simp [serialHalf]

/-- In a window of `2 ^ 32` counts the report determines the count. -/
theorem serial_injOn_window {a b : ℕ} (hab : a < b + 2 ^ 32) (hba : b < a + 2 ^ 32)
    (h : serial a = serial b) : a = b := by
  have hmod := congrArg BitVec.toNat h
  simp only [serial, BitVec.toNat_ofNat] at hmod
  omega
