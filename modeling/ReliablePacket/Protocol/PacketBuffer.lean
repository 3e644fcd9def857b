/-
# Packets in buffers

The functions of `packet.c`: packets and acknowledgements are laid out in a buffer
to be sent, and datagrams are read as one or the other. Fields stand at fixed
offsets in the byte order of the machine, which is taken to be little-endian with
64-bit members in `struct timeval`. The length of the payload is not sent but
follows from the length of the datagram.
-/
import ReliablePacket.Math.ByteBuffer
import ReliablePacket.Protocol.Packet

set_option autoImplicit false

namespace ReliablePacket

open ByteBuffer

/-! ## Fields -/

def loadUInt32 (offset : ℕ) (buffer : List UInt8) : UInt32 := .ofNat (decode (load offset 4 buffer))

def storeUInt32 (offset : ℕ) (x : UInt32) (buffer : List UInt8) : List UInt8 :=
  store offset (encode 4 x.toNat) buffer

def loadInt64 (offset : ℕ) (buffer : List UInt8) : Int64 :=
  (UInt64.ofNat (decode (load offset 8 buffer))).toInt64

def storeInt64 (offset : ℕ) (x : Int64) (buffer : List UInt8) : List UInt8 :=
  store offset (encode 8 x.toUInt64.toNat) buffer

def loadTimeval (offset : ℕ) (buffer : List UInt8) : Timeval :=
  ⟨loadInt64 offset buffer, loadInt64 (offset + 8) buffer⟩

def storeTimeval (offset : ℕ) (time : Timeval) (buffer : List UInt8) : List UInt8 :=
  storeInt64 (offset + 8) time.tvUsec (storeInt64 offset time.tvSec buffer)

/-! ## Type tags -/

def handshakeTag : List UInt8 := [ 'h'.toUInt8, 's'.toUInt8]

def regularTag : List UInt8 := [ 'r'.toUInt8, 'e'.toUInt8]

def finishTag : List UInt8 := [ 'f'.toUInt8, 'i'.toUInt8]

/-- The type that the first two bytes of a data packet stand for. -/
def dataPacketTypeOf (tag : List UInt8) : DataPacketType :=
  if tag = handshakeTag then .handshake
  else if tag = regularTag then .regular
  else if tag = finishTag then .finish
  else .invalid

/-- The type that the first two bytes of an acknowledgement stand for. -/
def ackPacketTypeOf (tag : List UInt8) : AckPacketType :=
  if tag = handshakeTag then .handshake
  else if tag = regularTag then .regular
  else .invalid

/-! ## Data packets -/

/-- A data packet all of whose bytes are zero. -/
def DataPacket.zero : DataPacket (List UInt8) := ⟨.handshake, 0, ⟨0, 0⟩, 0, []⟩

/-- `fillBufferDataPacket`: the size of the packet and the buffer it is in. `memcpy`
takes `dataSize` bytes from where `data` points. -/
def fillBufferDataPacket (dataPacket : DataPacket (List UInt8)) (buffer : List UInt8) :
    Except Fault (ℕ × List UInt8) := do
  let buffer ← match dataPacket.type with
    | .handshake => .ok (store 0 handshakeTag buffer)
    | .regular => .ok (store 0 regularTag buffer)
    | .finish => .ok (store 0 finishTag buffer)
    | .invalid => .error .assertionFailed
  let buffer := storeUInt32 2 dataPacket.seqNum buffer
  let buffer := storeTimeval 6 dataPacket.sentTime buffer
  let buffer := store 22 (dataPacket.data.take dataPacket.dataSize) buffer
  return (dataPacketHeaderSize + dataPacket.dataSize, buffer)

/-- `readBufferDataPacket`. A packet of no known type changes nothing but the type.
The pointer `data` is kept as the `dataSize` bytes it is good for. -/
def readBufferDataPacket (dataPacket : DataPacket (List UInt8)) (buffer : List UInt8)
    (bufferContentLength : ℕ) : Except Fault (DataPacket (List UInt8)) :=
  if bufferContentLength ≤ dataPacketSize ∧ dataPacketHeaderSize ≤ bufferContentLength then
    match dataPacketTypeOf (load 0 2 buffer) with
    | .invalid => .ok { dataPacket with type := .invalid }
    | type =>
      .ok
        { type
          seqNum := loadUInt32 2 buffer
          sentTime := loadTimeval 6 buffer
          dataSize := bufferContentLength - dataPacketHeaderSize
          data := load 22 (bufferContentLength - dataPacketHeaderSize) buffer }
  else .error .assertionFailed

/-- A datagram of the right length is read, and its tag decides what it is. -/
theorem readBufferDataPacket_eq {bufferContentLength : ℕ} (buffer : List UInt8)
    (dataPacket : DataPacket (List UInt8)) (hlen : bufferContentLength ≤ dataPacketSize)
    (hheader : dataPacketHeaderSize ≤ bufferContentLength) :
    ∃ dataPacket', readBufferDataPacket dataPacket buffer bufferContentLength = .ok dataPacket' ∧
      dataPacket'.type = dataPacketTypeOf (load 0 2 buffer) := by
  rw [readBufferDataPacket, if_pos ⟨hlen, hheader⟩]
  cases dataPacketTypeOf (load 0 2 buffer) with
  | invalid => exact ⟨_, rfl, rfl⟩
  | handshake => exact ⟨_, rfl, rfl⟩
  | regular => exact ⟨_, rfl, rfl⟩
  | finish => exact ⟨_, rfl, rfl⟩

/-- The fields of a packet of a known type. -/
theorem readBufferDataPacket_of_type {buffer : List UInt8} {bufferContentLength : ℕ}
    (dataPacket : DataPacket (List UInt8)) (hlen : bufferContentLength ≤ dataPacketSize)
    (hheader : dataPacketHeaderSize ≤ bufferContentLength)
    (htype : dataPacketTypeOf (load 0 2 buffer) ≠ .invalid) :
    readBufferDataPacket dataPacket buffer bufferContentLength =
      .ok
        { type := dataPacketTypeOf (load 0 2 buffer)
          seqNum := loadUInt32 2 buffer
          sentTime := loadTimeval 6 buffer
          dataSize := bufferContentLength - dataPacketHeaderSize
          data := load 22 (bufferContentLength - dataPacketHeaderSize) buffer } := by
  rw [readBufferDataPacket, if_pos ⟨hlen, hheader⟩]
  cases hcase : dataPacketTypeOf (load 0 2 buffer) with
  | invalid => exact absurd hcase htype
  | handshake | regular | finish => rfl

/-- Without room for a header the size check fails. -/
theorem readBufferDataPacket_of_lt {buffer : List UInt8} {bufferContentLength : ℕ}
    (dataPacket : DataPacket (List UInt8)) (hshort : bufferContentLength < dataPacketHeaderSize) :
    readBufferDataPacket dataPacket buffer bufferContentLength = .error .assertionFailed :=
  if_neg fun h => Nat.not_le.mpr hshort h.2

/-! ## Acknowledgements -/

/-- `ACK_PACKET_SIZE`. -/
def ackPacketSize : ℕ := 26

/-- `fillBufferAckPacket`: the size of the acknowledgement and the buffer it is in. -/
def fillBufferAckPacket (ackPacket : AckPacket) (buffer : List UInt8) :
    Except Fault (ℕ × List UInt8) := do
  let buffer ← match ackPacket.type with
    | .handshake => .ok (store 0 handshakeTag buffer)
    | .regular => .ok (store 0 regularTag buffer)
    | .invalid => .error .assertionFailed
  let buffer := storeUInt32 2 ackPacket.cumulativeSeqNum buffer
  let buffer := storeUInt32 6 ackPacket.selectiveSeqNum buffer
  let buffer := storeTimeval 10 ackPacket.sentTime buffer
  return (ackPacketSize, buffer)

/-- `readBufferAckPacket`. An acknowledgement of no known type changes nothing but the
type. -/
def readBufferAckPacket (ackPacket : AckPacket) (buffer : List UInt8) (bufferContentLength : ℕ) :
    Except Fault AckPacket :=
  if bufferContentLength = ackPacketSize then
    match ackPacketTypeOf (load 0 2 buffer) with
    | .invalid => .ok { ackPacket with type := .invalid }
    | type =>
      .ok
        { type
          cumulativeSeqNum := loadUInt32 2 buffer
          selectiveSeqNum := loadUInt32 6 buffer
          sentTime := loadTimeval 10 buffer }
  else .error .assertionFailed

theorem readBufferAckPacket_eq (buffer : List UInt8) (ackPacket : AckPacket) :
    ∃ ackPacket', readBufferAckPacket ackPacket buffer ackPacketSize = .ok ackPacket' := by
  rw [readBufferAckPacket, if_pos rfl]
  cases ackPacketTypeOf (load 0 2 buffer) with
  | invalid => exact ⟨_, rfl⟩
  | handshake => exact ⟨_, rfl⟩
  | regular => exact ⟨_, rfl⟩

/-- The fields of an acknowledgement of a known type. -/
theorem readBufferAckPacket_of_type {buffer : List UInt8} (ackPacket : AckPacket)
    (htype : ackPacketTypeOf (load 0 2 buffer) ≠ .invalid) :
    readBufferAckPacket ackPacket buffer ackPacketSize =
      .ok
        { type := ackPacketTypeOf (load 0 2 buffer)
          cumulativeSeqNum := loadUInt32 2 buffer
          selectiveSeqNum := loadUInt32 6 buffer
          sentTime := loadTimeval 10 buffer } := by
  rw [readBufferAckPacket, if_pos rfl]
  cases hcase : ackPacketTypeOf (load 0 2 buffer) with
  | invalid => exact absurd hcase htype
  | handshake | regular => rfl

end ReliablePacket
