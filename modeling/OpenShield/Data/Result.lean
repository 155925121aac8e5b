import Mathlib

/-!
# Fallible computations

The few facts about `Except` that peel a sequence of checks apart, and fixed-width arithmetic
that reports or absorbs overflow.
-/

namespace Except

variable {ε α β : Type}

/-- A sequence succeeds when both of its parts do. -/
theorem bind_eq_ok_iff {x : Except ε α} {f : α → Except ε β} {r : β} :
    (x >>= f) = .ok r ↔ ∃ a, x = .ok a ∧ f a = .ok r := by
  cases x with
  | error e => simp [bind, Except.bind]
  | ok a => simp [bind, Except.bind]

/-- A check in front of a computation. -/
theorem bind_unit_eq_ok_iff {x : Except ε Unit} {f : Unit → Except ε β} {r : β} :
    (x >>= f) = .ok r ↔ x = .ok () ∧ f () = .ok r := by
  rw [bind_eq_ok_iff]
  exact ⟨fun ⟨_, hx, hf⟩ => ⟨hx, hf⟩, fun ⟨hx, hf⟩ => ⟨(), hx, hf⟩⟩

end Except

/-- Succeed if `c` holds, and fail with `e` otherwise. -/
def ensure {ε : Type} (c : Prop) [Decidable c] (e : ε) : Except ε Unit :=
  if c then .ok () else .error e

@[simp]
theorem ensure_eq_ok_iff {ε : Type} (c : Prop) [Decidable c] (e : ε) (u : Unit) :
    ensure c e = .ok u ↔ c := by
  unfold ensure
  split <;> simp_all

def checkedSucc {w : ℕ} (x : BitVec w) : Option (BitVec w) :=
  if x = BitVec.allOnes w then none else some (x + 1)

/-- The successor of a machine integer; the last one is its own successor. -/
def saturatingSucc {w : ℕ} (x : BitVec w) : BitVec w :=
  if x = BitVec.allOnes w then x else x + 1

theorem toNat_add_one_of_ne_allOnes {w : ℕ} {x : BitVec w} (h : x ≠ BitVec.allOnes w) :
    (x + 1#w).toNat = x.toNat + 1 := by
  have hlt : x.toNat ≠ 2 ^ w - 1 := fun heq =>
    h (BitVec.eq_of_toNat_eq (by rw [heq, BitVec.toNat_allOnes]))
  have hbound := x.isLt
  rw [BitVec.toNat_add]
  rcases Nat.eq_zero_or_pos w with rfl | hw
  · exact absurd (BitVec.eq_of_toNat_eq (by omega)) h
  · have hone : 1 < 2 ^ w := Nat.one_lt_two_pow (by omega)
    rw [BitVec.toNat_ofNat, Nat.mod_eq_of_lt hone, Nat.mod_eq_of_lt (by omega)]

theorem toNat_of_checkedSucc {w : ℕ} {x y : BitVec w} (h : checkedSucc x = some y) :
    y.toNat = x.toNat + 1 := by
  unfold checkedSucc at h
  split at h
  · cases h
  · next hx =>
    cases h
    exact toNat_add_one_of_ne_allOnes hx
