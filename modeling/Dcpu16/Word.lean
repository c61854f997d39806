/-!
The machine word: sixteen bits, read as an unsigned number. Integers of any size and sign become words by
keeping their low sixteen bits in two's complement, and a word becomes an address by taking its unsigned value.
-/

namespace Dcpu16

/-- A machine word of sixteen bits. -/
abbrev Word := BitVec 16

namespace Word

/-- The low sixteen bits of an integer in two's complement. -/
def ofInt (n : Int) : Word := BitVec.ofInt 16 n

/-- The memory address a word names, its unsigned value. -/
def address (w : Word) : Int := w.toNat

theorem address_nonneg (w : Word) : 0 ≤ w.address := Int.natCast_nonneg _

theorem address_lt (w : Word) : w.address < 0x10000 := by
  have := w.isLt
  unfold address
  omega

theorem range (w : Word) : 0 ≤ w.address ∧ w.address ≤ 0xFFFF := by
  have := w.address_nonneg
  have := w.address_lt
  omega

theorem toNat_ofInt (n : Int) : ((ofInt n).toNat : Int) = n % 0x10000 := by
  simp [ofInt, BitVec.toNat_ofInt]
  omega

theorem ofInt_address (w : Word) : ofInt w.address = w := by
  apply BitVec.eq_of_toNat_eq
  have h := toNat_ofInt w.address
  have := w.address_lt
  have := w.address_nonneg
  unfold address at *
  omega

theorem ofInt_eq_iff (m n : Int) : ofInt m = ofInt n ↔ m % 0x10000 = n % 0x10000 := by
  rw [← toNat_ofInt m, ← toNat_ofInt n, ← BitVec.toNat_inj]
  omega

theorem address_add_ofNat (w : Word) (n : Nat) : (w + BitVec.ofNat 16 n).address = (w.address + n) % 0x10000 := by
  simp only [address, BitVec.toNat_add, BitVec.toNat_ofNat]
  omega

theorem ofInt_address_add (w : Word) (n : Nat) : ofInt (w.address + n) = w + BitVec.ofNat 16 n := by
  rw [← ofInt_address (w + BitVec.ofNat 16 n), address_add_ofNat, ofInt_eq_iff, Int.emod_emod_of_dvd _ (by decide)]

end Word

end Dcpu16
