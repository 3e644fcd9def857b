/-
# Clock readings

The time a `struct timeval` stands for, and what `getElapsedUs` makes of two of
them. The function subtracts and multiplies in signed 64-bit arithmetic. Between
readings that do not go back its result is the time that has passed, as long as
that time can be written as signed microseconds.
-/
import ReliablePacket.Protocol.Packet

set_option autoImplicit false

namespace ReliablePacket

variable {before after : Timeval}

/-- The microseconds a reading stands for. -/
def Timeval.usecs (time : Timeval) : ℤ := time.tvSec.toInt * 1000000 + time.tvUsec.toInt

/-- A reading as `gettimeofday` makes it. -/
def Timeval.Normalised (time : Timeval) : Prop :=
  0 ≤ time.tvUsec.toInt ∧ time.tvUsec.toInt < 1000000

instance (time : Timeval) : Decidable time.Normalised := inferInstanceAs (Decidable (_ ∧ _))

/-- Readings in the order they were made: the clock does not go back. -/
structure ClockMono (readings : List Timeval) : Prop where
  normalised : ∀ time ∈ readings, time.Normalised
  mono : readings.Pairwise fun before after => before.usecs ≤ after.usecs

/-- No two readings lie so far apart that `getElapsedUs` overflows; these are some 292
thousand years. -/
def ClockSpan (readings : List Timeval) : Prop :=
  readings.Pairwise fun before after => after.usecs - before.usecs < 2 ^ 63 - 1000000

/-- The number is one of the signed type. -/
def FitsInt64 (i : ℤ) : Prop := -2 ^ 63 ≤ i ∧ i < 2 ^ 63

/-- No operation of `getElapsedUs` overflows. -/
structure ElapsedFits (before after : Timeval) : Prop where
  sec : FitsInt64 (after.tvSec.toInt - before.tvSec.toInt)
  msecOfSec : FitsInt64 ((after.tvSec.toInt - before.tvSec.toInt) * 1000)
  usecOfSec : FitsInt64 ((after.tvSec.toInt - before.tvSec.toInt) * 1000 * 1000)
  usec : FitsInt64 (after.tvUsec.toInt - before.tvUsec.toInt)
  sum : FitsInt64 ((after.tvSec.toInt - before.tvSec.toInt) * 1000 * 1000 +
    (after.tvUsec.toInt - before.tvUsec.toInt))

/-- From `int64_t` to `unsigned long`. -/
theorem toNat_toUInt64 (x : Int64) : (x.toUInt64.toNat : ℤ) = x.toInt % 2 ^ 64 := by
  have h : x.toInt = (x.toUInt64.toNat : ℤ).bmod (2 ^ 64) := BitVec.toInt_eq_toNat_bmod x.toBitVec
  have hmod := Int.bmod_emod (x := (x.toUInt64.toNat : ℤ)) (m := 2 ^ 64)
  have hlt := x.toUInt64.toNat_lt
  rw [h]
  omega

/-- What `getElapsedUs` computes from any two readings. -/
theorem toNat_getElapsedUs (before after : Timeval) :
    ((getElapsedUs before after).toNat : ℤ) = (after.usecs - before.usecs) % 2 ^ 64 := by
  have hsum : after.usecs - before.usecs = (after.tvSec.toInt - before.tvSec.toInt) * 1000 * 1000 +
      (after.tvUsec.toInt - before.tvUsec.toInt) := by
    rw [Timeval.usecs, Timeval.usecs]
    omega
  rw [hsum, getElapsedUs, toNat_toUInt64, Int64.toInt_add, Int64.toInt_mul, Int64.toInt_mul,
    Int64.toInt_sub, Int64.toInt_sub]
  simp only [Int.bmod_add_bmod, Int.add_bmod_bmod, Int.bmod_mul_bmod]
  exact Int.bmod_emod

/-- **Elapsed time is exact** between readings that do not go back. -/
theorem toNat_getElapsedUs_of_le (hmono : before.usecs ≤ after.usecs)
    (hspan : after.usecs - before.usecs < 2 ^ 63 - 1000000) :
    ((getElapsedUs before after).toNat : ℤ) = after.usecs - before.usecs := by
  rw [toNat_getElapsedUs]
  omega

theorem elapsedFits_of_le (hbefore : before.Normalised) (hafter : after.Normalised)
    (hmono : before.usecs ≤ after.usecs)
    (hspan : after.usecs - before.usecs < 2 ^ 63 - 1000000) : ElapsedFits before after := by
  obtain ⟨hbefore₀, hbefore₁⟩ := hbefore
  obtain ⟨hafter₀, hafter₁⟩ := hafter
  rw [Timeval.usecs, Timeval.usecs] at hmono hspan
  constructor <;> constructor <;> omega

end ReliablePacket
