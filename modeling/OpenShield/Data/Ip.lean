import Mathlib

/-!
# IP addresses and prefixes

Addresses and CIDR prefixes of both families. Two notions of membership meet in this
development: userspace compares an address with the first and last address of a prefix,
the kernel compares masked values. They agree on every prefix, host bits included.
-/

inductive Family
  | ipv4
  | ipv6
  deriving DecidableEq, Repr

inductive IpAddr
  | v4 (addr : BitVec 32)
  | v6 (addr : BitVec 128)
  deriving DecidableEq, Repr

/-- An address with a prefix length. Host bits may be set. -/
inductive IpNet
  | v4 (addr : BitVec 32) (prefixLen : Fin 33)
  | v6 (addr : BitVec 128) (prefixLen : Fin 129)
  deriving DecidableEq, Repr

-- numerals are prefix lengths and identifiers through instances with a name
instance IpNet.neZero_v4 : NeZero 33 := ⟨by decide⟩

instance IpNet.neZero_v6 : NeZero 129 := ⟨by decide⟩

def IpAddr.family : IpAddr → Family
  | .v4 _ => .ipv4
  | .v6 _ => .ipv6

def IpNet.family : IpNet → Family
  | .v4 .. => .ipv4
  | .v6 .. => .ipv6

def IpAddr.toIpNet : IpAddr → IpNet
  | .v4 addr => .v4 addr 32
  | .v6 addr => .v6 addr 128

namespace Prefix

variable {w : ℕ}

/-- The bits below a prefix of length `len`. -/
def hostMask (w len : ℕ) : BitVec w := BitVec.allOnes w >>> len

/-- The bits of a prefix of length `len`. -/
def netMask (w len : ℕ) : BitVec w := ~~~ hostMask w len

def network (addr : BitVec w) (len : ℕ) : BitVec w := addr &&& netMask w len

def broadcast (addr : BitVec w) (len : ℕ) : BitVec w := addr ||| hostMask w len

variable (addr : BitVec w)

/-- Masking to a prefix clears the low bits. -/
theorem network_eq_shift {len : ℕ} (hlen : len ≤ w) :
    network addr len = (addr >>> (w - len)) <<< (w - len) := by
  ext i hi
  simp only [network, netMask, hostMask, BitVec.getElem_and, BitVec.getElem_not,
    BitVec.getElem_ushiftRight, BitVec.getLsbD_allOnes, BitVec.getElem_shiftLeft]
  by_cases h : i < w - len
  · simp [h, show len + i < w by omega]
  · have hback : w - len + (i - (w - len)) = i := by omega
    simp [h, show ¬ len + i < w by omega, hback, BitVec.getLsbD_eq_getElem hi]

/-- As a number, masking to a prefix rounds down to a multiple of the prefix size. -/
theorem network_toNat {len : ℕ} (hlen : len ≤ w) :
    (network addr len).toNat = addr.toNat / 2 ^ (w - len) * 2 ^ (w - len) := by
  have hle : addr.toNat / 2 ^ (w - len) * 2 ^ (w - len) ≤ addr.toNat := Nat.div_mul_le_self _ _
  rw [network_eq_shift addr hlen, BitVec.toNat_shiftLeft, BitVec.toNat_ushiftRight,
    Nat.shiftLeft_eq, Nat.shiftRight_eq_div_pow, Nat.mod_eq_of_lt (by omega)]

theorem hostMask_toNat {len : ℕ} (hlen : len ≤ w) :
    (hostMask w len).toNat = 2 ^ (w - len) - 1 := by
  rw [hostMask, BitVec.toNat_ushiftRight, BitVec.toNat_allOnes, Nat.shiftRight_eq_div_pow]
  have hsplit : 2 ^ w = 2 ^ (w - len) * 2 ^ len := by
    rw [← Nat.pow_add, Nat.sub_add_cancel hlen]
  have hlow : 0 < 2 ^ len := Nat.two_pow_pos len
  have hhigh : 0 < 2 ^ (w - len) := Nat.two_pow_pos (w - len)
  have hmul := Nat.sub_mul (2 ^ (w - len)) 1 (2 ^ len)
  have hge : 2 ^ len ≤ 2 ^ (w - len) * 2 ^ len := Nat.le_mul_of_pos_left _ hhigh
  rw [Nat.div_eq_iff hlow, hsplit]
  omega

theorem broadcast_eq_add (len : ℕ) : broadcast addr len = network addr len + hostMask w len := by
  have hdisjoint : network addr len &&& hostMask w len = 0#w := by
    ext i hi
    simp [network, netMask]
  rw [BitVec.add_eq_or_of_and_eq_zero _ _ hdisjoint]
  ext i hi
  simp only [broadcast, network, netMask, BitVec.getElem_or, BitVec.getElem_and,
    BitVec.getElem_not]
  cases addr[i] <;> cases (hostMask w len)[i] <;> rfl

/-- As a number, the last address of a prefix. -/
theorem broadcast_toNat {len : ℕ} (hlen : len ≤ w) :
    (broadcast addr len).toNat =
      addr.toNat / 2 ^ (w - len) * 2 ^ (w - len) + (2 ^ (w - len) - 1) := by
  rw [broadcast_eq_add, BitVec.toNat_add, network_toNat addr hlen, hostMask_toNat hlen]
  apply Nat.mod_eq_of_lt
  -- the prefix that holds `addr` ends below `2 ^ w`, because its size divides `2 ^ w`
  have hsplit : 2 ^ w = 2 ^ len * 2 ^ (w - len) := by
    rw [← Nat.pow_add, Nat.add_sub_cancel' hlen]
  have hsize : 0 < 2 ^ (w - len) := Nat.two_pow_pos (w - len)
  have hblock : addr.toNat / 2 ^ (w - len) + 1 ≤ 2 ^ len :=
    Nat.div_lt_of_lt_mul (by rw [Nat.mul_comm, ← hsplit]; exact addr.isLt)
  have hend := Nat.mul_le_mul_right (2 ^ (w - len)) hblock
  rw [Nat.add_mul, Nat.one_mul, ← hsplit] at hend
  omega

/-- Two addresses share a prefix exactly when one lies in the interval of the other. -/
theorem network_eq_iff (x : BitVec w) {len : ℕ} (hlen : len ≤ w) :
    network x len = network addr len ↔ network addr len ≤ x ∧ x ≤ broadcast addr len := by
  have hsize : 0 < 2 ^ (w - len) := Nat.two_pow_pos (w - len)
  rw [← BitVec.toNat_inj, BitVec.le_def, BitVec.le_def, network_toNat x hlen,
    network_toNat addr hlen, broadcast_toNat addr hlen,
      Nat.mul_left_inj (Nat.pos_iff_ne_zero.mp hsize),
    Nat.div_eq_iff hsize]
  omega

theorem network_full : network addr w = addr := by
  apply BitVec.eq_of_toNat_eq
  simp [network_toNat addr le_rfl]

end Prefix

namespace IpNet

/-- Membership as userspace computes it: the address lies between the first and the last
address of the prefix. -/
def contains : IpNet → IpAddr → Bool
  | .v4 addr len, .v4 x =>
    decide (Prefix.network addr len ≤ x) && decide (x ≤ Prefix.broadcast addr len)
  | .v6 addr len, .v6 x =>
    decide (Prefix.network addr len ≤ x) && decide (x ≤ Prefix.broadcast addr len)
  | _, _ => false

def trunc : IpNet → IpNet
  | .v4 addr len => .v4 (Prefix.network addr len) len
  | .v6 addr len => .v6 (Prefix.network addr len) len

def maskMatches : IpNet → IpAddr → Bool
  | .v4 addr len, .v4 x => decide (Prefix.network x len = Prefix.network addr len)
  | .v6 addr len, .v6 x => decide (Prefix.network x len = Prefix.network addr len)
  | _, _ => false

/-- The kernel and userspace agree on the members of every prefix. -/
theorem maskMatches_eq_contains (net : IpNet) (x : IpAddr) :
    net.maskMatches x = net.contains x := by
  cases net with
  | v4 addr len =>
    cases x with
    | v4 x =>
      have hlen : (len : ℕ) ≤ 32 := by omega
      simp [maskMatches, contains, Prefix.network_eq_iff addr x hlen]
    | v6 x => rfl
  | v6 addr len =>
    cases x with
    | v4 x => rfl
    | v6 x =>
      have hlen : (len : ℕ) ≤ 128 := by omega
      simp [maskMatches, contains, Prefix.network_eq_iff addr x hlen]

theorem family_eq_of_maskMatches {net : IpNet} {x : IpAddr} (h : net.maskMatches x = true) :
    net.family = x.family := by
  cases net <;> cases x <;> simp_all [maskMatches, IpNet.family, IpAddr.family]

/-- The prefix of a single address. -/
theorem maskMatches_toIpNet (a x : IpAddr) : a.toIpNet.maskMatches x = decide (x = a) := by
  cases a with
  | v4 a =>
    cases x with
    | v4 x =>
      show decide (Prefix.network x 32 = Prefix.network a 32) = _
      rw [Prefix.network_full, Prefix.network_full]
      simp
    | v6 x => rfl
  | v6 a =>
    cases x with
    | v4 x => rfl
    | v6 x =>
      show decide (Prefix.network x 128 = Prefix.network a 128) = _
      rw [Prefix.network_full, Prefix.network_full]
      simp

end IpNet
