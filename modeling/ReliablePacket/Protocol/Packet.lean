/-
# Packets and the C++ types they are made of

The packet structures of `packet.h`, the integer conversions the sources rely on
and the ways a run can go wrong. Unsigned fields are fixed-width words; an `int`
is an integer obtained from a word by `intOfUnsigned` and turned into a `size_t`
by `sizeOfInt`, as the implicit conversions of the sources do.

A data packet is generic in what its `data` pointer stands for: on the wire and
at the receiver it is the payload itself, at the sender it is a pointer into an
item of the window.
-/
import Mathlib.Algebra.Group.Int.Defs
import Mathlib.Algebra.Group.Nat.Defs
import Mathlib.Data.Int.Notation
import Mathlib.Tactic.Common

set_option autoImplicit false

namespace ReliablePacket

/-! ## Integer conversions -/

/-- `unsigned int` to `int`: the same 32 bits read in two's complement. -/
def intOfUnsigned (x : UInt32) : ℤ :=
  if x.toNat < 2 ^ 31 then x.toNat else x.toNat - 2 ^ 32

/-- `int` to `size_t`, which has 64 bits. -/
def sizeOfInt (i : ℤ) : ℕ := (i % 2 ^ 64).toNat

theorem sizeOfInt_natCast {n : ℕ} (h : n < 2 ^ 64) : sizeOfInt n = n := by
  simp only [sizeOfInt]
  omega

/-- A word below `2 ^ 31` survives both conversions; a larger one becomes a size
no container has. -/
theorem sizeOfInt_intOfUnsigned (x : UInt32) :
    sizeOfInt (intOfUnsigned x) = if x.toNat < 2 ^ 31 then x.toNat
      else 2 ^ 64 - 2 ^ 32 + x.toNat := by
  have hx : x.toNat < 2 ^ 32 := x.toNat_lt
  simp only [sizeOfInt, intOfUnsigned]
  split_ifs <;> omega

theorem toNat_ofNat {n : ℕ} (h : n < 2 ^ 32) : (UInt32.ofNat n).toNat = n :=
  UInt32.toNat_ofNat_of_lt' h

/-- Sums of words are words of sums. -/
theorem add_ofNat (x : UInt32) (n : ℕ) : x + .ofNat n = .ofNat (x.toNat + n) := by
  rw [UInt32.ofNat_add, UInt32.ofNat_toNat]

theorem add_sub_self (x y : UInt32) : x + (y - x) = y := by
  rw [UInt32.add_comm, UInt32.sub_add_cancel]

/-- Counting up below a word does not wrap. -/
theorem toNat_add_one_of_lt {x y : UInt32} (h : x < y) : (x + 1).toNat = x.toNat + 1 := by
  have hlt : x.toNat < y.toNat := h
  have hy := y.toNat_lt
  rw [UInt32.toNat_add, UInt32.toNat_one]
  omega

theorem ofNat_lt_iff {n : ℕ} (h : n < 2 ^ 32) {x : UInt32} : .ofNat n < x ↔ n < x.toNat := by
  rw [UInt32.lt_iff_toNat_lt, toNat_ofNat h]

/-- How an operation can fail: an `assert` that does not hold, or undefined
behaviour on a deque. -/
inductive Fault
  | assertionFailed
  | emptyDeque
  | indexOutOfRange
  deriving DecidableEq, Repr

/-! ## Packets -/

/-- `struct timeval`. -/
structure Timeval where
  tvSec : Int64
  tvUsec : Int64
  deriving DecidableEq, Repr

/-- `getElapsedUs`: microseconds from `before` to `after`, computed in signed
arithmetic and returned as `unsigned long`. -/
def getElapsedUs (before after : Timeval) : UInt64 :=
  ((after.tvSec - before.tvSec) * 1000 * 1000 + (after.tvUsec - before.tvUsec)).toUInt64

def mtu : ℕ := 1500

def ipAndUdpHeaderSize : ℕ := 28

def dataPacketSize : ℕ := mtu - ipAndUdpHeaderSize

def dataPacketHeaderSize : ℕ := 22

/-- The payload bytes of every packet but the last. -/
def dataPacketDataSize : ℕ := dataPacketSize - dataPacketHeaderSize

theorem dataPacketDataSize_eq : dataPacketDataSize = 1450 := rfl

/-- The `DATA_PACKET_TYPE_*` values. -/
inductive DataPacketType
  | invalid
  | handshake
  | regular
  | finish
  deriving DecidableEq, Repr

/-- `struct DataPacket`, where `Data` is what the `data` pointer stands for. -/
structure DataPacket (Data : Type) where
  type : DataPacketType
  seqNum : UInt32
  sentTime : Timeval
  dataSize : ℕ
  data : Data
  deriving DecidableEq, Repr

instance : LawfulBEq (DataPacket (List UInt8)) := inferInstance

/-- The `ACK_PACKET_TYPE_*` values. -/
inductive AckPacketType
  | invalid
  | handshake
  | regular
  deriving DecidableEq, Repr

/-- `struct AckPacket`. -/
structure AckPacket where
  type : AckPacketType
  /-- The next expected packet. -/
  cumulativeSeqNum : UInt32
  /-- The packet this acknowledgement answers. -/
  selectiveSeqNum : UInt32
  sentTime : Timeval
  deriving DecidableEq, Repr

instance : LawfulBEq AckPacket := inferInstance

end ReliablePacket
