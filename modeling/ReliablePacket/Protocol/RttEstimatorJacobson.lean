/-
# The round-trip-time estimator

The class `RttEstimatorJacobson`: a running mean of the round-trip times, a
running mean of their deviations and the timeout that is made of both. The member
functions hold the lock throughout. Their `double` arithmetic is taken exactly,
over the rationals, and cut to an integer where the code converts to
`unsigned long`.
-/
import Mathlib.Data.Rat.Floor
import ReliablePacket.Math.TruncatedMean
import ReliablePacket.Protocol.Packet
import ReliablePacket.Semantics.Transition

set_option autoImplicit false

namespace ReliablePacket

open TruncatedMean

/-- The members of class `RttEstimatorJacobson`. -/
structure RttEstimatorJacobson where
  curTimeoutUs : UInt64
  curStdDevUs : UInt64
  alpha : ℚ
  beta : ℚ

def estimatorAlpha : ℚ := 1 / 8

def estimatorBeta : ℚ := 1 / 4

def curTimeoutUsRatio : ℚ := 11 / 10

/-- The conversion of a nonnegative `double` to `unsigned long`. -/
def unsignedLong (x : ℚ) : UInt64 := .ofNat ⌊x⌋₊

namespace RttEstimatorJacobson

/-- The constructor. -/
def new (initTimeoutUs : UInt64) (alpha beta : ℚ) : RttEstimatorJacobson where
  curTimeoutUs := initTimeoutUs
  curStdDevUs := initTimeoutUs / 4
  alpha := alpha
  beta := beta

/-- `ackArrived`, where `now` is the clock reading. The deviation is updated first,
with the old mean. -/
def ackArrived (ackPacket : AckPacket) (now : Timeval) (r : RttEstimatorJacobson) :
    Except Fault RttEstimatorJacobson :=
  if ackPacket.type = .regular then
    let elapsedUs := getElapsedUs ackPacket.sentTime now
    let deviationUs :=
      if r.curTimeoutUs ≤ elapsedUs then elapsedUs - r.curTimeoutUs
      else r.curTimeoutUs - elapsedUs
    .ok
      { r with
        curStdDevUs := unsignedLong
          (r.beta * deviationUs.toNat + (1 - r.beta) * r.curStdDevUs.toNat)
        curTimeoutUs := unsignedLong
          (r.alpha * elapsedUs.toNat + (1 - r.alpha) * r.curTimeoutUs.toNat) }
  else .error .assertionFailed

/-- `getCurrentTimeoutUs`. The product with 4 is an `unsigned long` product. -/
def getCurrentTimeoutUs (r : RttEstimatorJacobson) : UInt64 :=
  unsignedLong (r.curTimeoutUs.toNat * curTimeoutUsRatio + (4 * r.curStdDevUs).toNat)

end RttEstimatorJacobson

end ReliablePacket
