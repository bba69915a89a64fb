import Mathlib.Data.UInt

/-!
# A 32-bit clock

A counter of 32 bits is the true time modulo `2 ^ 32`.  A difference of two readings never exceeds
the true one in the right order (`toNat_sub_le`) and is close to a full wrap in the wrong order.
Which reading is later is the sign of the difference (`age_lt_age`).
-/

namespace RoboticCar.Lib.Clock

/-- What the counter shows at a true time. -/
def reading (t : ℕ) : UInt32 := UInt32.ofNat t

theorem toNat_reading (t : ℕ) : (reading t).toNat = t % 2 ^ 32 := UInt32.toNat_ofNat'

theorem reading_sub {a b : ℕ} (h : b ≤ a) : reading a - reading b = reading (a - b) := by
  apply UInt32.toNat_inj.mp
  rw [UInt32.toNat_sub, toNat_reading, toNat_reading, toNat_reading]
  omega

/-- A difference of readings in the right order is at most the true time between them. -/
theorem toNat_sub_le {a b : ℕ} (h : b ≤ a) : (reading a - reading b).toNat ≤ a - b := by
  rw [reading_sub h, toNat_reading]
  exact Nat.mod_le _ _

theorem toInt_toInt32 (x : UInt32) : x.toInt32.toInt = (x.toNat : Int).bmod (2 ^ 32) := by
  rw [← Int32.toInt_toBitVec, UInt32.toBitVec_toInt32, BitVec.toInt_eq_toNat_bmod]
  rfl

/-- A reading that is later by its sign is the younger one, if its age is below half a wrap. -/
theorem age_lt_age {now x y : UInt32} (hy : (now - y).toNat < 2 ^ 31)
    (h : 0 < (y - x).toInt32) : now - y < now - x := by
  have hpos : (0 : Int32).toInt < (y - x).toInt32.toInt := Int32.lt_iff_toInt_lt.1 h
  rw [toInt_toInt32, UInt32.toNat_sub, Int.bmod_def, Int32.toInt_zero] at hpos
  rw [UInt32.toNat_sub] at hy
  rw [UInt32.lt_iff_toNat_lt, UInt32.toNat_sub, UInt32.toNat_sub]
  have hn := now.toNat_lt
  have hx := x.toNat_lt
  have hy' := y.toNat_lt
  omega

end RoboticCar.Lib.Clock
