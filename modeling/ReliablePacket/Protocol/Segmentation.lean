/-
# How a transfer is cut into packets

A transfer is what the sender's constructor is given: the file, the number of
bytes, whether fast retransmission is on, and the rounding of the congestion
shrink. The number of packets and the size and payload of each are stated here
as natural numbers; the constructor computes them with a 64-bit quotient cut to
32 bits, a 32-bit product and a conversion to `int`, and the two agree as long
as the sequence numbers fit their type.

The byte offsets of both sides are 32-bit products. They are exact for files of
up to 4294968150 bytes and wrap beyond.
-/
import Mathlib.Algebra.BigOperators.Intervals
import ReliablePacket.Protocol.SlideWindowReceiver
import ReliablePacket.Protocol.SlideWindowSender

set_option autoImplicit false

namespace ReliablePacket

open SlideWindowSender SlideWindowReceiver

/-- The arguments of one transfer. -/
structure Transfer where
  fileToSend : ByteFile
  bytesToSend : UInt64
  fastRetransmission : Bool
  shrink : CongestionShrink

/-- `SLIDE_WINDOW_FAST_RETRANSMISSION`, which the sender's program passes for
`fastRetransmission`. -/
def slideWindowFastRetransmission : Bool := true

/-- How many packets `bytesToSend` bytes need. -/
def packetCount (bytesToSend : ℕ) : ℕ :=
  (bytesToSend + (dataPacketDataSize - 1)) / dataPacketDataSize

/-- The size of packet `k`: full, except that the last one takes the rest. -/
def packetSize (bytesToSend k : ℕ) : ℕ :=
  min dataPacketDataSize (bytesToSend - dataPacketDataSize * k)

theorem packetCount_eq (bytesToSend : ℕ) : packetCount bytesToSend = (bytesToSend + 1449) / 1450 :=
  rfl

theorem packetSize_eq (bytesToSend k : ℕ) :
    packetSize bytesToSend k = min 1450 (bytesToSend - 1450 * k) :=
  rfl

theorem packetCount_pos_iff {bytesToSend : ℕ} : 0 < packetCount bytesToSend ↔ 0 < bytesToSend := by
  rw [packetCount_eq]
  omega

theorem packetSize_of_lt {bytesToSend k : ℕ} (h : k + 1 < packetCount bytesToSend) :
    packetSize bytesToSend k = dataPacketDataSize := by
  rw [packetCount_eq] at h
  rw [packetSize_eq, dataPacketDataSize_eq]
  omega

theorem packetSize_pos {bytesToSend k : ℕ} (h : k < packetCount bytesToSend) :
    0 < packetSize bytesToSend k := by
  rw [packetCount_eq] at h
  rw [packetSize_eq]
  omega

/-- The packets up to number `n` hold the first bytes of the transfer. -/
theorem sum_packetSize (bytesToSend n : ℕ) :
    ∑ k ∈ Finset.range n, packetSize bytesToSend k = min (dataPacketDataSize * n) bytesToSend := by
  induction n with
  | zero => simp
  | succ n ih =>
    rw [Finset.sum_range_succ, ih, packetSize_eq, dataPacketDataSize_eq]
    omega

/-- The packets of a transfer hold exactly its bytes. -/
theorem sum_packetSize_packetCount (bytesToSend : ℕ) :
    ∑ k ∈ Finset.range (packetCount bytesToSend), packetSize bytesToSend k = bytesToSend := by
  rw [sum_packetSize, packetCount_eq, dataPacketDataSize_eq]
  omega

/-! ## The constructor's arithmetic -/

theorem toNat_dataPacketDataSize : (UInt32.ofNat dataPacketDataSize).toNat = 1450 := by decide

theorem mod_dataPacketDataSize_eq_zero_iff (bytesToSend : UInt64) :
    bytesToSend % .ofNat dataPacketDataSize = 0 ↔ bytesToSend.toNat % 1450 = 0 := by
  rw [← UInt64.toNat_inj, UInt64.toNat_mod]
  rfl

/-- The last sequence number is exact up to the cut to 32 bits. -/
theorem toNat_lastPacketSeqNumOf {bytesToSend : UInt64} (hpos : 0 < bytesToSend.toNat) :
    (lastPacketSeqNumOf bytesToSend).toNat = (bytesToSend.toNat - 1) / 1450 % 2 ^ 32 := by
  have hlt := bytesToSend.toNat_lt
  have hsize : (UInt64.ofNat dataPacketDataSize).toNat = 1450 := by decide
  simp only [lastPacketSeqNumOf]
  split_ifs with hmod
  · rw [mod_dataPacketDataSize_eq_zero_iff] at hmod
    rw [UInt64.toNat_toUInt32, UInt64.toNat_sub, UInt64.toNat_div, hsize, UInt64.toNat_one]
    omega
  · rw [mod_dataPacketDataSize_eq_zero_iff] at hmod
    rw [UInt64.toNat_toUInt32, UInt64.toNat_div, hsize]
    omega

/-- The wraps of the last packet's size cancel: it is the rest of the bytes. -/
theorem lastPacketSizeOf_eq {bytesToSend : UInt64} (hpos : 0 < bytesToSend.toNat) :
    lastPacketSizeOf bytesToSend =
      packetSize bytesToSend.toNat (packetCount bytesToSend.toNat - 1) := by
  have hlt := bytesToSend.toNat_lt
  have hrest : packetSize bytesToSend.toNat (packetCount bytesToSend.toNat - 1) =
      if bytesToSend.toNat % 1450 = 0 then 1450 else bytesToSend.toNat % 1450 := by
    rw [packetSize_eq, packetCount_eq]
    split_ifs <;> omega
  rw [hrest]
  simp only [lastPacketSizeOf]
  simp only [mod_dataPacketDataSize_eq_zero_iff]
  split_ifs with hmod
  · rfl
  · -- the 32-bit product and the 64-bit difference wrap, but their rest modulo
    -- `2 ^ 32` is the rest of the bytes
    have hword : (bytesToSend -
        (lastPacketSeqNumOf bytesToSend * .ofNat dataPacketDataSize).toUInt64).toUInt32.toNat =
          bytesToSend.toNat % 1450 := by
      rw [UInt64.toNat_toUInt32, UInt64.toNat_sub, UInt32.toNat_toUInt64, UInt32.toNat_mul,
        toNat_dataPacketDataSize, toNat_lastPacketSeqNumOf hpos]
      omega
    rw [intOfUnsigned, hword, if_pos (by omega)]

theorem sizeOfInt_lastPacketSizeOf {bytesToSend : UInt64} (hpos : 0 < bytesToSend.toNat) :
    sizeOfInt (lastPacketSizeOf bytesToSend) =
      packetSize bytesToSend.toNat (packetCount bytesToSend.toNat - 1) := by
  have hsize : packetSize bytesToSend.toNat (packetCount bytesToSend.toNat - 1) ≤ 1450 :=
    Nat.min_le_left _ _
  rw [lastPacketSizeOf_eq hpos, sizeOfInt_natCast (by omega)]

/-! ## The packets of every size -/

/-- The size the fill loops read for packet `k`. -/
def packetSizeOf (bytesToSend : UInt64) (k : UInt32) : ℤ :=
  if k = lastPacketSeqNumOf bytesToSend then lastPacketSizeOf bytesToSend else dataPacketDataSize

/-- Byte `i` belongs to packet `k`. -/
def PacketCovers (bytesToSend : UInt64) (k : UInt32) (i : ℕ) : Prop :=
  dataPacketDataSize * k.toNat ≤ i ∧
    (i : ℤ) < dataPacketDataSize * k.toNat + packetSizeOf bytesToSend k

/-- The packets up to the last one hold exactly the bytes of the transfer. -/
structure SegmentationExact (bytesToSend : UInt64) : Prop where
  lastPacketSize_nonneg : 0 ≤ lastPacketSizeOf bytesToSend
  lastPacketSize_le : lastPacketSizeOf bytesToSend ≤ dataPacketDataSize
  total : dataPacketDataSize * (lastPacketSeqNumOf bytesToSend).toNat +
    lastPacketSizeOf bytesToSend = (bytesToSend.toNat : ℤ)
  covered_iff : ∀ i, (∃ k ≤ lastPacketSeqNumOf bytesToSend, PacketCovers bytesToSend k i) ↔
    i < bytesToSend.toNat
  sum_eq : ∑ k ∈ Finset.range ((lastPacketSeqNumOf bytesToSend).toNat + 1),
    packetSizeOf bytesToSend (.ofNat k) = (bytesToSend.toNat : ℤ)

theorem packetSizeOf_of_lt {bytesToSend : UInt64} {k : UInt32}
    (h : k < lastPacketSeqNumOf bytesToSend) :
    packetSizeOf bytesToSend k = dataPacketDataSize :=
  if_neg (UInt32.ne_of_lt h)

theorem packetSizeOf_last (bytesToSend : UInt64) :
    packetSizeOf bytesToSend (lastPacketSeqNumOf bytesToSend) = lastPacketSizeOf bytesToSend :=
  if_pos rfl

/-- The equation for the total is the whole of it: full packets below the last one
and a last packet of the right size leave neither gap nor overlap. -/
theorem SegmentationExact.of_total {bytesToSend : UInt64}
    (hnonneg : 0 ≤ lastPacketSizeOf bytesToSend)
    (hle : lastPacketSizeOf bytesToSend ≤ dataPacketDataSize)
    (htotal : dataPacketDataSize * (lastPacketSeqNumOf bytesToSend).toNat +
      lastPacketSizeOf bytesToSend = (bytesToSend.toNat : ℤ)) :
    SegmentationExact bytesToSend where
  lastPacketSize_nonneg := hnonneg
  lastPacketSize_le := hle
  total := htotal
  covered_iff i := by
    rw [dataPacketDataSize_eq] at htotal hle
    have hword := (lastPacketSeqNumOf bytesToSend).toNat_lt
    constructor
    · rintro ⟨k, hk, -, hlt⟩
      rw [dataPacketDataSize_eq] at hlt
      rcases UInt32.lt_or_eq_of_le hk with hbelow | rfl
      · rw [packetSizeOf_of_lt hbelow, dataPacketDataSize_eq] at hlt
        rw [UInt32.lt_iff_toNat_lt] at hbelow
        omega
      · rw [packetSizeOf_last] at hlt
        omega
    · intro hi
      simp only [PacketCovers]
      -- a byte left of the last packet belongs to the packet of its quotient
      by_cases hbelow : i / 1450 < (lastPacketSeqNumOf bytesToSend).toNat
      · have hk : UInt32.ofNat (i / 1450) < lastPacketSeqNumOf bytesToSend :=
          (ofNat_lt_iff (by omega)).mpr hbelow
        refine ⟨_, UInt32.le_of_lt hk, ?_⟩
        rw [packetSizeOf_of_lt hk, toNat_ofNat (by omega), dataPacketDataSize_eq]
        omega
      · refine ⟨_, UInt32.le_refl _, ?_⟩
        rw [packetSizeOf_last, dataPacketDataSize_eq]
        omega
  sum_eq := by
    have hword := (lastPacketSeqNumOf bytesToSend).toNat_lt
    have hfull : ∀ k ∈ Finset.range (lastPacketSeqNumOf bytesToSend).toNat,
        packetSizeOf bytesToSend (.ofNat k) = dataPacketDataSize := by
      intro k hk
      rw [Finset.mem_range] at hk
      exact packetSizeOf_of_lt ((ofNat_lt_iff (by omega)).mpr hk)
    rw [Finset.sum_range_succ, Finset.sum_congr rfl hfull, Finset.sum_const, Finset.card_range,
      UInt32.ofNat_toNat, packetSizeOf_last, ← htotal, Int.nsmul_eq_mul, Int.mul_comm]

/-- **Which sizes are cut exactly.** The packets hold the bytes of the transfer for
the non-empty transfers of at most `1450 * 2 ^ 32` bytes and for no others. -/
theorem segmentationExact_iff {bytesToSend : UInt64} :
    SegmentationExact bytesToSend ↔ 1 ≤ bytesToSend ∧ bytesToSend ≤ 6227702579200 := by
  have hone : 1 ≤ bytesToSend ↔ 0 < bytesToSend.toNat := Iff.rfl
  have hbound : bytesToSend ≤ 6227702579200 ↔ bytesToSend.toNat ≤ 6227702579200 := Iff.rfl
  rw [hone, hbound]
  constructor
  · intro h
    have htotal := h.total
    have hle := h.lastPacketSize_le
    have hword := (lastPacketSeqNumOf bytesToSend).toNat_lt
    rw [dataPacketDataSize_eq] at htotal hle
    refine ⟨Nat.pos_of_ne_zero fun hzero => ?_, by omega⟩
    -- without bytes the last sequence number is the largest word
    obtain rfl : bytesToSend = 0 := UInt64.toNat_inj.mp hzero
    rw [show (lastPacketSeqNumOf 0).toNat = 4294967295 by decide] at htotal
    have hnonneg := h.lastPacketSize_nonneg
    omega
  · rintro ⟨hpos, hsize⟩
    have hlast := lastPacketSizeOf_eq hpos
    rw [packetSize_eq, packetCount_eq] at hlast
    refine .of_total (by omega) (by rw [dataPacketDataSize_eq]; omega) ?_
    rw [toNat_lastPacketSeqNumOf hpos, dataPacketDataSize_eq, hlast]
    omega

/-- A transfer without bytes gets `2 ^ 32` full packets, one byte more than
`1450 * 2 ^ 32` gets a single packet of one byte. -/
theorem not_segmentationExact_zero :
    lastPacketSeqNumOf 0 = 4294967295 ∧ lastPacketSizeOf 0 = 1450 ∧ ¬ SegmentationExact 0 ∧
      lastPacketSeqNumOf 6227702579201 = 0 ∧ lastPacketSizeOf 6227702579201 = 1 ∧
      ¬ SegmentationExact 6227702579201 := by
  refine ⟨by decide, by decide, fun h => ?_, by decide, by decide, fun h => ?_⟩
  · exact absurd h.total (by decide)
  · exact absurd h.total (by decide)

namespace Transfer

variable {t : Transfer}

/-- The number of packets of the transfer. -/
def packets (t : Transfer) : ℕ := packetCount t.bytesToSend.toNat

theorem packets_eq (t : Transfer) : t.packets = (t.bytesToSend.toNat + 1449) / 1450 := rfl

/-- The payload that `readFile` reads for packet `k`. -/
def packetData (t : Transfer) (k : ℕ) : List UInt8 :=
  t.fileToSend.read (readOffset (.ofNat k)) (packetSize t.bytesToSend.toNat k)

/-- At least one packet, and few enough that neither the `int` loop counters nor
the 32-bit window sums wrap. -/
structure InRange (t : Transfer) : Prop where
  pos : 0 < t.packets
  lt : t.packets < 2 ^ 31 - 20

/-- The file holds every byte of the transfer. -/
def LongEnough (t : Transfer) : Prop := t.bytesToSend.toNat ≤ t.fileToSend.size

theorem InRange.bytesToSend_pos (h : t.InRange) : 0 < t.bytesToSend.toNat :=
  packetCount_pos_iff.mp h.pos

theorem InRange.toNat_lastPacketSeqNum (h : t.InRange) :
    (lastPacketSeqNumOf t.bytesToSend).toNat + 1 = t.packets := by
  have hlt := h.lt
  have hpos := h.bytesToSend_pos
  rw [toNat_lastPacketSeqNumOf hpos]
  rw [packets_eq] at hlt ⊢
  omega

theorem length_packetData_le (t : Transfer) (k : ℕ) :
    (t.packetData k).length ≤ packetSize t.bytesToSend.toNat k :=
  ByteFile.length_read_le _ _ _

end Transfer

/-! ## Small transfers -/

/-- One byte in one packet. -/
def Transfer.oneByte : Transfer :=
  ⟨⟨1, fun _ => 7⟩, 1, slideWindowFastRetransmission, .truncated⟩

theorem Transfer.oneByte_inRange : oneByte.InRange := ⟨by decide, by decide⟩

/-- A full packet and one of one byte. -/
def Transfer.twoPackets : Transfer :=
  ⟨⟨1451, fun _ => 7⟩, 1451, slideWindowFastRetransmission, .truncated⟩

theorem Transfer.twoPackets_inRange : twoPackets.InRange := ⟨by decide, by decide⟩

/-! ## File offsets -/

/-- Both sides address packet `k` at its place in the file. -/
def OffsetsExact (bytesToSend : UInt64) : Prop :=
  ∀ k ≤ lastPacketSeqNumOf bytesToSend,
    readOffset k = dataPacketDataSize * k.toNat ∧ writeOffset k = dataPacketDataSize * k.toNat

/-- On neither side do two packets address overlapping ranges. -/
def OffsetsDisjoint (bytesToSend : UInt64) : Prop :=
  ∀ j ≤ lastPacketSeqNumOf bytesToSend, ∀ k ≤ lastPacketSeqNumOf bytesToSend, j < k →
    readOffset j + dataPacketDataSize ≤ readOffset k ∧
      writeOffset j + dataPacketDataSize ≤ writeOffset k

/-- An offset is exact when the product fits 32 bits. -/
theorem readOffset_eq_iff {k : UInt32} :
    readOffset k = dataPacketDataSize * k.toNat ↔ dataPacketDataSize * k.toNat < 2 ^ 32 := by
  simp only [readOffset]
  rw [UInt32.toNat_mul, toNat_dataPacketDataSize, dataPacketDataSize_eq]
  omega

/-- Exact offsets do not overlap. -/
theorem OffsetsExact.disjoint {bytesToSend : UInt64} (h : OffsetsExact bytesToSend) :
    OffsetsDisjoint bytesToSend := by
  intro j hj k hk hlt
  have hlt' : j.toNat < k.toNat := hlt
  rw [(h j hj).1, (h j hj).2, (h k hk).1, (h k hk).2, dataPacketDataSize_eq]
  omega

/-- **Where the file offsets are right.** Among the sizes whose packets can be
numbered in 32 bits, the offsets of both sides are exact and disjoint for the
non-empty transfers of at most 4294968150 bytes and for no others. -/
theorem offsets_exact_and_disjoint_iff {bytesToSend : UInt64}
    (hcount : packetCount bytesToSend.toNat ≤ 2 ^ 32) :
    OffsetsExact bytesToSend ∧ OffsetsDisjoint bytesToSend ↔
      0 < bytesToSend ∧ bytesToSend ≤ 4294968150 := by
  have hbound : bytesToSend ≤ 4294968150 ↔ bytesToSend.toNat ≤ 4294968150 := Iff.rfl
  have hpos : 0 < bytesToSend ↔ 0 < bytesToSend.toNat := Iff.rfl
  rw [hbound, hpos]
  rw [packetCount_eq] at hcount
  constructor
  · rintro ⟨hexact, -⟩
    by_contra hsize
    -- sequence number 2962047 is the first whose product does not fit
    have hwrap : (2962047 : UInt32) ≤ lastPacketSeqNumOf bytesToSend := by
      rw [UInt32.le_iff_toNat_le]
      rcases Nat.eq_zero_or_pos bytesToSend.toNat with hzero | hpos
      · obtain rfl : bytesToSend = 0 := UInt64.toNat_inj.mp hzero
        decide
      · rw [toNat_lastPacketSeqNumOf hpos, show (2962047 : UInt32).toNat = 2962047 from rfl]
        omega
    have hfits := readOffset_eq_iff.mp (hexact _ hwrap).1
    exact absurd hfits (by decide)
  · rintro ⟨hpos, hle⟩
    have hexact : OffsetsExact bytesToSend := by
      intro k hk
      have hk' : k.toNat ≤ (lastPacketSeqNumOf bytesToSend).toNat := hk
      rw [toNat_lastPacketSeqNumOf hpos] at hk'
      have hfits : readOffset k = dataPacketDataSize * k.toNat :=
        readOffset_eq_iff.mpr (by rw [dataPacketDataSize_eq]; omega)
      exact ⟨hfits, hfits⟩
    exact ⟨hexact, hexact.disjoint⟩

theorem offsets_exact_and_disjoint_iff_largest :
    packetCount (4294968150 : UInt64).toNat ≤ 2 ^ 32 ∧
      (OffsetsExact 4294968150 ∧ OffsetsDisjoint 4294968150 ↔
        0 < (4294968150 : UInt64) ∧ (4294968150 : UInt64) ≤ 4294968150) :=
  ⟨by decide, offsets_exact_and_disjoint_iff (by decide)⟩

/-- One byte more, and the last packet is read and written at offset 854. -/
theorem not_offsetsExact_4294968151 :
    packetCount (4294968151 : UInt64).toNat ≤ 2 ^ 32 ∧
      lastPacketSeqNumOf 4294968151 = 2962047 ∧
      readOffset 2962047 = 854 ∧ writeOffset 2962047 = 854 ∧
      ¬ OffsetsExact 4294968151 := by
  refine ⟨by decide, by decide, by decide, by decide, fun h => ?_⟩
  exact absurd (h 2962047 (by decide)).1 (by decide)

end ReliablePacket
