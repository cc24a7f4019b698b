/-!
# Addresses

IPv4 and IPv6 addresses as words of 32 and 128 bits, and numbers cut into parts of equal size.

- `ofParts_parts`: a number that has no more than `count` parts is the number of its parts;
- `canonical_mapped`: the IPv6 form of an IPv4 address stands for that address.
-/

namespace SenderPolicy

/-- An address of one of the two families. -/
inductive Address where
  | v4 (bits : BitVec 32)
  | v6 (bits : BitVec 128)
  deriving DecidableEq, Repr

namespace Address

/-! ## Parts of a number -/

/-- The `count` lowest digits of a number in base `base`, the highest of them first. -/
def parts (base : Nat) : (count : Nat) → Nat → List Nat
  | 0, _ => []
  | count + 1, n => parts base count (n / base) ++ [n % base]

/-- The number of which these are the digits in base `base`, the highest first. -/
def ofParts (base : Nat) (ps : List Nat) : Nat :=
  ps.foldl (fun n p => base * n + p) 0

/-- There are as many parts as were asked for. -/
theorem length_parts (base count n : Nat) : (parts base count n).length = count := by
  induction count generalizing n with
  | zero => rfl
  | succ count ih => simp [parts, ih]

/-- Every part is below the base. -/
theorem lt_of_mem_parts {base count n p : Nat} (hb : 0 < base) (h : p ∈ parts base count n) : p < base := by
  induction count generalizing n with
  | zero => simp [parts] at h
  | succ count ih =>
    rcases List.mem_append.mp h with h | h
    · exact ih h
    · rw [List.mem_singleton.mp h]; exact Nat.mod_lt _ hb

/-- A number is made of its parts. -/
theorem ofParts_parts {base count n : Nat} (h : n < Nat.pow base count) : ofParts base (parts base count n) = n := by
  induction count generalizing n with
  | zero => rw [Nat.lt_one_iff.mp h]; rfl
  | succ count ih =>
    have hq : n / base < Nat.pow base count := Nat.div_lt_of_lt_mul (by rwa [Nat.mul_comm])
    have := ih hq
    simp only [ofParts] at this
    simp [parts, ofParts, this, Nat.div_add_mod]

/-! ## Octets and groups -/

/-- The four octets of an IPv4 address. -/
def octets (a : BitVec 32) : List Nat :=
  parts 0x100 4 a.toNat

/-- The eight groups of an IPv6 address. -/
def groups (a : BitVec 128) : List Nat :=
  parts 0x10000 8 a.toNat

/-- The IPv4 address of four octets. -/
def ofOctets (ps : List Nat) : BitVec 32 :=
  BitVec.ofNat 32 (ofParts 0x100 ps)

/-- The IPv6 address of eight groups. -/
def ofGroups (ps : List Nat) : BitVec 128 :=
  BitVec.ofNat 128 (ofParts 0x10000 ps)

/-- An IPv4 address is made of its octets. -/
theorem ofOctets_octets (a : BitVec 32) : ofOctets (octets a) = a := by
  rw [ofOctets, octets, ofParts_parts (by exact a.isLt)]
  simp

/-- An IPv6 address is made of its groups. -/
theorem ofGroups_groups (a : BitVec 128) : ofGroups (groups a) = a := by
  rw [ofGroups, groups, ofParts_parts (by exact a.isLt)]
  simp

/-! ## Mapped addresses -/

/-- The IPv6 form of an IPv4 address: 80 bits of zero, 16 bits of one, and the address. -/
def mapped (a : BitVec 32) : BitVec 128 :=
  BitVec.ofNat 128 (0xFFFF00000000 + a.toNat)

/-- The IPv4 address of which this is the IPv6 form. -/
def unmapped? (a : BitVec 128) : Option (BitVec 32) :=
  if a.toNat / 0x100000000 = 0xFFFF then some (BitVec.ofNat 32 a.toNat) else none

/-- The address that an address stands for: a mapped IPv4 address stands for the IPv4 address itself. -/
def canonical : Address → Address
  | v4 a => v4 a
  | v6 a => (unmapped? a).elim (v6 a) v4

/-- The number of the IPv6 form of an IPv4 address. -/
theorem toNat_mapped (a : BitVec 32) : (mapped a).toNat = 0xFFFF00000000 + a.toNat := by
  have := a.isLt
  rw [mapped, BitVec.toNat_ofNat, Nat.mod_eq_of_lt (by omega)]

/-- The IPv6 form of an IPv4 address is read as that address. -/
theorem unmapped?_mapped (a : BitVec 32) : unmapped? (mapped a) = some a := by
  have := a.isLt
  rw [unmapped?, toNat_mapped, if_pos (by omega)]
  congr 1
  apply BitVec.eq_of_toNat_eq
  rw [BitVec.toNat_ofNat]
  omega

/-- The IPv6 form of an IPv4 address stands for that address. -/
theorem canonical_mapped (a : BitVec 32) : canonical (v6 (mapped a)) = v4 a := by
  simp [canonical, unmapped?_mapped]

/-! ## Order -/

/-- The numerical order, IPv4 before IPv6. -/
def le : Address → Address → Bool
  | v4 a, v4 b => a.toNat ≤ b.toNat
  | v4 _, v6 _ => true
  | v6 _, v4 _ => false
  | v6 a, v6 b => a.toNat ≤ b.toNat

end Address

end SenderPolicy
