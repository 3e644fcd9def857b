/-
# The wire format

What `packet.c` lays out in a buffer, as one string of bytes: the fields one after
the other, with neither gap nor overlap. Filling a buffer puts these bytes at its
front, and reading a buffer takes them apart again. So the two are inverse to each
other on everything that has a type.
-/
import ReliablePacket.Protocol.PacketBuffer

set_option autoImplicit false

namespace ReliablePacket

open ByteBuffer

variable {front rest tag buffer : List UInt8} {offset bufferContentLength : ℕ}

/-! ## Fields -/

def Timeval.bytes (time : Timeval) : List UInt8 :=
  encode 8 time.tvSec.toUInt64.toNat ++ encode 8 time.tvUsec.toUInt64.toNat

theorem Timeval.length_bytes (time : Timeval) : time.bytes.length = 16 := by
  rw [Timeval.bytes, List.length_append, length_encode, length_encode]

theorem storeUInt32_append (hfront : front.length = offset) (x : UInt32) (rest : List UInt8) :
    storeUInt32 offset x (front ++ rest) = front ++ encode 4 x.toNat ++ rest.drop 4 := by
  rw [storeUInt32, store_append hfront, length_encode]

theorem loadUInt32_append (hfront : front.length = offset) (x : UInt32) (rest : List UInt8) :
    loadUInt32 offset (front ++ (encode 4 x.toNat ++ rest)) = x := by
  rw [loadUInt32, load_of_append hfront (length_encode _ _), decode_encode x.toNat_lt,
    UInt32.ofNat_toNat]

theorem encode_loadUInt32 (h : offset + 4 ≤ buffer.length) :
    encode 4 (loadUInt32 offset buffer).toNat = load offset 4 buffer := by
  have hlt := decode_lt (load offset 4 buffer)
  rw [length_load h] at hlt
  rw [loadUInt32, toNat_ofNat hlt, encode_decode_load h]

theorem storeInt64_append (hfront : front.length = offset) (x : Int64) (rest : List UInt8) :
    storeInt64 offset x (front ++ rest) = front ++ encode 8 x.toUInt64.toNat ++ rest.drop 8 := by
  rw [storeInt64, store_append hfront, length_encode]

theorem loadInt64_append (hfront : front.length = offset) (x : Int64) (rest : List UInt8) :
    loadInt64 offset (front ++ (encode 8 x.toUInt64.toNat ++ rest)) = x := by
  rw [loadInt64, load_of_append hfront (length_encode _ _), decode_encode x.toUInt64.toNat_lt,
    UInt64.ofNat_toNat]
  rfl

theorem encode_loadInt64 (h : offset + 8 ≤ buffer.length) :
    encode 8 (loadInt64 offset buffer).toUInt64.toNat = load offset 8 buffer := by
  have hlt := decode_lt (load offset 8 buffer)
  rw [length_load h] at hlt
  have hword : (loadInt64 offset buffer).toUInt64.toNat = decode (load offset 8 buffer) :=
    UInt64.toNat_ofNat_of_lt' hlt
  rw [hword, encode_decode_load h]

theorem storeTimeval_append (hfront : front.length = offset) (time : Timeval) (rest : List UInt8) :
    storeTimeval offset time (front ++ rest) = front ++ time.bytes ++ rest.drop 16 := by
  have hsec : (front ++ encode 8 time.tvSec.toUInt64.toNat).length = offset + 8 := by
    rw [List.length_append, length_encode, hfront]
  rw [storeTimeval, storeInt64_append hfront, storeInt64_append hsec, List.drop_drop,
    Timeval.bytes, List.append_assoc front]

theorem loadTimeval_append (hfront : front.length = offset) (time : Timeval) (rest : List UInt8) :
    loadTimeval offset (front ++ (time.bytes ++ rest)) = time := by
  have hsec : (front ++ encode 8 time.tvSec.toUInt64.toNat).length = offset + 8 := by
    rw [List.length_append, length_encode, hfront]
  rw [loadTimeval, Timeval.bytes, List.append_assoc, loadInt64_append hfront, ← List.append_assoc,
    loadInt64_append hsec]

theorem bytes_loadTimeval (h : offset + 16 ≤ buffer.length) :
    (loadTimeval offset buffer).bytes = load offset 16 buffer := by
  rw [Timeval.bytes, loadTimeval, encode_loadInt64 (by omega), encode_loadInt64 (by omega),
    ← load_add]

/-! ## Type tags -/

/-- The first two bytes of a data packet. Without a type there are none. -/
def dataPacketTag : DataPacketType → List UInt8
  | .handshake => handshakeTag
  | .regular => regularTag
  | .finish => finishTag
  | .invalid => []

/-- The first two bytes of an acknowledgement. -/
def ackPacketTag : AckPacketType → List UInt8
  | .handshake => handshakeTag
  | .regular => regularTag
  | .invalid => []

theorem dataPacketTypeOf_dataPacketTag (type : DataPacketType) :
    dataPacketTypeOf (dataPacketTag type) = type := by
  cases type <;> rfl

theorem ackPacketTypeOf_ackPacketTag (type : AckPacketType) :
    ackPacketTypeOf (ackPacketTag type) = type := by
  cases type <;> rfl

theorem dataPacketTag_dataPacketTypeOf (htype : dataPacketTypeOf tag ≠ .invalid) :
    dataPacketTag (dataPacketTypeOf tag) = tag := by
  rw [dataPacketTypeOf] at htype ⊢
  split_ifs at htype ⊢ with hhandshake hregular hfinish
  · exact hhandshake.symm
  · exact hregular.symm
  · exact hfinish.symm
  · exact absurd rfl htype

theorem ackPacketTag_ackPacketTypeOf (htype : ackPacketTypeOf tag ≠ .invalid) :
    ackPacketTag (ackPacketTypeOf tag) = tag := by
  rw [ackPacketTypeOf] at htype ⊢
  split_ifs at htype ⊢ with hhandshake hregular
  · exact hhandshake.symm
  · exact hregular.symm
  · exact absurd rfl htype

theorem length_dataPacketTag {type : DataPacketType} (htype : type ≠ .invalid) :
    (dataPacketTag type).length = 2 := by
  cases type with
  | invalid => exact absurd rfl htype
  | handshake | regular | finish => rfl

theorem length_ackPacketTag {type : AckPacketType} (htype : type ≠ .invalid) :
    (ackPacketTag type).length = 2 := by
  cases type with
  | invalid => exact absurd rfl htype
  | handshake | regular => rfl

/-! ## Data packets -/

/-- A data packet as it is sent: the header and the payload. -/
def DataPacket.bytes (dataPacket : DataPacket (List UInt8)) : List UInt8 :=
  dataPacketTag dataPacket.type ++ (encode 4 dataPacket.seqNum.toNat ++
    (dataPacket.sentTime.bytes ++ dataPacket.data.take dataPacket.dataSize))

/-- Where the fields of a data packet begin. -/
theorem DataPacket.length_fields {dataPacket : DataPacket (List UInt8)}
    (htype : dataPacket.type ≠ .invalid) :
    (dataPacketTag dataPacket.type ++ encode 4 dataPacket.seqNum.toNat).length = 6 ∧
      (dataPacketTag dataPacket.type ++ encode 4 dataPacket.seqNum.toNat ++
        dataPacket.sentTime.bytes).length = 22 := by
  have hseq : (dataPacketTag dataPacket.type ++ encode 4 dataPacket.seqNum.toNat).length = 6 := by
    rw [List.length_append, length_encode, length_dataPacketTag htype]
  refine ⟨hseq, ?_⟩
  rw [List.length_append, hseq, Timeval.length_bytes]

theorem DataPacket.length_bytes {dataPacket : DataPacket (List UInt8)}
    (htype : dataPacket.type ≠ .invalid) (hdata : dataPacket.dataSize ≤ dataPacket.data.length) :
    dataPacket.bytes.length = dataPacketHeaderSize + dataPacket.dataSize := by
  rw [DataPacket.bytes, ← List.append_assoc, ← List.append_assoc, List.length_append,
    (length_fields htype).2, List.length_take_of_le hdata, dataPacketHeaderSize]

/-- **Filling lays out the wire format** at the front of the buffer. -/
theorem fillBufferDataPacket_eq {dataPacket : DataPacket (List UInt8)}
    (htype : dataPacket.type ≠ .invalid) (hdata : dataPacket.dataSize ≤ dataPacket.data.length)
    (buffer : List UInt8) :
    fillBufferDataPacket dataPacket buffer = .ok (dataPacketHeaderSize + dataPacket.dataSize,
      dataPacket.bytes ++ buffer.drop (dataPacketHeaderSize + dataPacket.dataSize)) := by
  have htag := length_dataPacketTag htype
  obtain ⟨hseq, htime⟩ := DataPacket.length_fields htype
  have hfill : fillBufferDataPacket dataPacket buffer =
      .ok (dataPacketHeaderSize + dataPacket.dataSize,
        store 22 (dataPacket.data.take dataPacket.dataSize) (storeTimeval 6 dataPacket.sentTime
          (storeUInt32 2 dataPacket.seqNum (store 0 (dataPacketTag dataPacket.type) buffer)))) := by
    simp only [fillBufferDataPacket]
    cases hcase : dataPacket.type with
    | invalid => exact absurd hcase htype
    | handshake | regular | finish => rfl
  have hsize : (dataPacket.data.take dataPacket.dataSize).length = dataPacket.dataSize :=
    List.length_take_of_le hdata
  -- every store stands right behind the one before
  rw [hfill, store_zero, htag, storeUInt32_append htag, storeTimeval_append hseq,
    store_append htime, hsize, DataPacket.bytes, dataPacketHeaderSize]
  simp only [List.append_assoc, List.drop_drop]

/-- Reading takes the wire format apart, whatever stands behind it in the buffer. -/
theorem readBufferDataPacket_bytes {dataPacket : DataPacket (List UInt8)}
    (htype : dataPacket.type ≠ .invalid) (hdata : dataPacket.dataSize ≤ dataPacket.data.length)
    (hsize : dataPacket.dataSize ≤ dataPacketDataSize) (target : DataPacket (List UInt8))
    (rest : List UInt8) :
    readBufferDataPacket target (dataPacket.bytes ++ rest)
        (dataPacketHeaderSize + dataPacket.dataSize) =
      .ok { dataPacket with data := dataPacket.data.take dataPacket.dataSize } := by
  have htag := length_dataPacketTag htype
  obtain ⟨hseq, htime⟩ := DataPacket.length_fields htype
  have hlen : dataPacketHeaderSize + dataPacket.dataSize ≤ dataPacketSize := by
    rw [dataPacketDataSize] at hsize
    have hheader : dataPacketHeaderSize ≤ dataPacketSize := by decide
    omega
  have hbuffer : dataPacket.bytes ++ rest = dataPacketTag dataPacket.type ++
      (encode 4 dataPacket.seqNum.toNat ++ (dataPacket.sentTime.bytes ++
        (dataPacket.data.take dataPacket.dataSize ++ rest))) := by
    simp only [DataPacket.bytes, List.append_assoc]
  -- each field is loaded from behind the ones before it
  have htype' : load 0 2 (dataPacket.bytes ++ rest) = dataPacketTag dataPacket.type := by
    rw [hbuffer]
    exact load_of_append List.length_nil htag _
  have hseqNum : loadUInt32 2 (dataPacket.bytes ++ rest) = dataPacket.seqNum := by
    rw [hbuffer, loadUInt32_append htag]
  have hsentTime : loadTimeval 6 (dataPacket.bytes ++ rest) = dataPacket.sentTime := by
    rw [hbuffer, ← List.append_assoc, loadTimeval_append hseq]
  have hpayload : load 22 dataPacket.dataSize (dataPacket.bytes ++ rest) =
      dataPacket.data.take dataPacket.dataSize := by
    rw [hbuffer, ← List.append_assoc, ← List.append_assoc]
    exact load_of_append htime (List.length_take_of_le hdata) rest
  rw [readBufferDataPacket_of_type target hlen (Nat.le_add_right _ _)
    (by rw [htype', dataPacketTypeOf_dataPacketTag]; exact htype), htype',
    dataPacketTypeOf_dataPacketTag, hseqNum, hsentTime, Nat.add_sub_cancel_left, hpayload]

/-- What reads as a data packet is its wire format, and as long. -/
theorem bytes_of_readBufferDataPacket {dataPacket target : DataPacket (List UInt8)}
    (hread : readBufferDataPacket target buffer bufferContentLength = .ok dataPacket)
    (htype : dataPacket.type ≠ .invalid) (hbuffer : bufferContentLength ≤ buffer.length) :
    dataPacketHeaderSize + dataPacket.dataSize = bufferContentLength ∧
      dataPacket.data.length = dataPacket.dataSize ∧
      dataPacket.bytes = buffer.take bufferContentLength := by
  have hheader : dataPacketHeaderSize = 22 := rfl
  -- what reads has passed the size check
  obtain ⟨hlen, hlong⟩ : bufferContentLength ≤ dataPacketSize ∧
      dataPacketHeaderSize ≤ bufferContentLength := by
    by_contra hbad
    rw [readBufferDataPacket, if_neg hbad] at hread
    cases hread
  have hknown : dataPacketTypeOf (load 0 2 buffer) ≠ .invalid := by
    obtain ⟨dataPacket', hread', htype'⟩ := readBufferDataPacket_eq buffer target hlen hlong
    rw [hread] at hread'
    cases hread'
    rwa [← htype']
  rw [readBufferDataPacket_of_type target hlen hlong hknown] at hread
  cases hread
  have hpayload : (load 22 (bufferContentLength - dataPacketHeaderSize) buffer).length =
      bufferContentLength - dataPacketHeaderSize := length_load (by omega)
  refine ⟨Nat.add_sub_cancel' hlong, hpayload, ?_⟩
  -- the four loads lie side by side and cover the datagram
  have hsplit : buffer.take bufferContentLength = load 0 2 buffer ++ (load 2 4 buffer ++
      (load 6 16 buffer ++ load 22 (bufferContentLength - dataPacketHeaderSize) buffer)) := by
    rw [← load_add, ← load_add, ← load_add, load, List.drop_zero]
    congr 1
    omega
  rw [hsplit, DataPacket.bytes]
  simp only [dataPacketTag_dataPacketTypeOf hknown]
  rw [encode_loadUInt32 (by omega), bytes_loadTimeval (by omega),
    List.take_of_length_le hpayload.le]

/-! ## Acknowledgements -/

/-- An acknowledgement as it is sent. -/
def AckPacket.bytes (ackPacket : AckPacket) : List UInt8 :=
  ackPacketTag ackPacket.type ++ (encode 4 ackPacket.cumulativeSeqNum.toNat ++
    (encode 4 ackPacket.selectiveSeqNum.toNat ++ ackPacket.sentTime.bytes))

/-- Where the fields of an acknowledgement begin. -/
theorem AckPacket.length_fields {ackPacket : AckPacket} (htype : ackPacket.type ≠ .invalid) :
    (ackPacketTag ackPacket.type ++ encode 4 ackPacket.cumulativeSeqNum.toNat).length = 6 ∧
      (ackPacketTag ackPacket.type ++ encode 4 ackPacket.cumulativeSeqNum.toNat ++
        encode 4 ackPacket.selectiveSeqNum.toNat).length = 10 := by
  have hcumulative : (ackPacketTag ackPacket.type ++
      encode 4 ackPacket.cumulativeSeqNum.toNat).length = 6 := by
    rw [List.length_append, length_encode, length_ackPacketTag htype]
  refine ⟨hcumulative, ?_⟩
  rw [List.length_append, hcumulative, length_encode]

theorem AckPacket.length_bytes {ackPacket : AckPacket} (htype : ackPacket.type ≠ .invalid) :
    ackPacket.bytes.length = ackPacketSize := by
  rw [AckPacket.bytes, ← List.append_assoc, ← List.append_assoc, List.length_append,
    (length_fields htype).2, Timeval.length_bytes, ackPacketSize]

theorem fillBufferAckPacket_bytes {ackPacket : AckPacket} (htype : ackPacket.type ≠ .invalid)
    (buffer : List UInt8) :
    fillBufferAckPacket ackPacket buffer =
      .ok (ackPacketSize, ackPacket.bytes ++ buffer.drop ackPacketSize) := by
  have htag := length_ackPacketTag htype
  obtain ⟨hcumulative, hselective⟩ := AckPacket.length_fields htype
  have hfill : fillBufferAckPacket ackPacket buffer = .ok (ackPacketSize,
      storeTimeval 10 ackPacket.sentTime (storeUInt32 6 ackPacket.selectiveSeqNum
        (storeUInt32 2 ackPacket.cumulativeSeqNum
          (store 0 (ackPacketTag ackPacket.type) buffer)))) := by
    simp only [fillBufferAckPacket]
    cases hcase : ackPacket.type with
    | invalid => exact absurd hcase htype
    | handshake | regular => rfl
  rw [hfill, store_zero, htag, storeUInt32_append htag, storeUInt32_append hcumulative,
    storeTimeval_append hselective, AckPacket.bytes, ackPacketSize]
  simp only [List.append_assoc, List.drop_drop]

theorem readBufferAckPacket_bytes {ackPacket : AckPacket} (htype : ackPacket.type ≠ .invalid)
    (target : AckPacket) (rest : List UInt8) :
    readBufferAckPacket target (ackPacket.bytes ++ rest) ackPacketSize = .ok ackPacket := by
  have htag := length_ackPacketTag htype
  obtain ⟨hcumulative, hselective⟩ := AckPacket.length_fields htype
  have hbuffer : ackPacket.bytes ++ rest = ackPacketTag ackPacket.type ++
      (encode 4 ackPacket.cumulativeSeqNum.toNat ++ (encode 4 ackPacket.selectiveSeqNum.toNat ++
        (ackPacket.sentTime.bytes ++ rest))) := by
    simp only [AckPacket.bytes, List.append_assoc]
  have htype' : load 0 2 (ackPacket.bytes ++ rest) = ackPacketTag ackPacket.type := by
    rw [hbuffer]
    exact load_of_append List.length_nil htag _
  have hcumulativeSeqNum : loadUInt32 2 (ackPacket.bytes ++ rest) = ackPacket.cumulativeSeqNum := by
    rw [hbuffer, loadUInt32_append htag]
  have hselectiveSeqNum : loadUInt32 6 (ackPacket.bytes ++ rest) = ackPacket.selectiveSeqNum := by
    rw [hbuffer, ← List.append_assoc, loadUInt32_append hcumulative]
  have hsentTime : loadTimeval 10 (ackPacket.bytes ++ rest) = ackPacket.sentTime := by
    rw [hbuffer, ← List.append_assoc, ← List.append_assoc, loadTimeval_append hselective]
  rw [readBufferAckPacket_of_type target
    (by rw [htype', ackPacketTypeOf_ackPacketTag]; exact htype), htype',
    ackPacketTypeOf_ackPacketTag, hcumulativeSeqNum, hselectiveSeqNum, hsentTime]

theorem bytes_of_readBufferAckPacket {ackPacket target : AckPacket}
    (hread : readBufferAckPacket target buffer ackPacketSize = .ok ackPacket)
    (htype : ackPacket.type ≠ .invalid) (hbuffer : ackPacketSize ≤ buffer.length) :
    ackPacket.bytes = buffer.take ackPacketSize := by
  have hsize : ackPacketSize = 26 := rfl
  have hknown : ackPacketTypeOf (load 0 2 buffer) ≠ .invalid := by
    intro hinvalid
    rw [readBufferAckPacket, if_pos rfl, hinvalid] at hread
    cases hread
    exact htype rfl
  rw [readBufferAckPacket_of_type target hknown] at hread
  cases hread
  have hsplit : buffer.take ackPacketSize = load 0 2 buffer ++ (load 2 4 buffer ++
      (load 6 4 buffer ++ load 10 16 buffer)) := by
    rw [← load_add, ← load_add, ← load_add, load, List.drop_zero, hsize]
  rw [hsplit, AckPacket.bytes]
  simp only [ackPacketTag_ackPacketTypeOf hknown]
  rw [encode_loadUInt32 (by omega), encode_loadUInt32 (by omega), bytes_loadTimeval (by omega)]

/-! ## Round trips -/

/-- **The codec round trips.** What is filled into a buffer is read back, field by field
and with its payload; and a datagram of the right length that reads as something of a
known type is filled into any other buffer as the same bytes. -/
theorem codec_roundTrip :
    (∀ (dataPacket target : DataPacket (List UInt8)) (buffer : List UInt8),
        dataPacket.type ≠ .invalid → dataPacket.dataSize ≤ dataPacketDataSize →
        dataPacket.dataSize ≤ dataPacket.data.length → dataPacketSize ≤ buffer.length →
        ∃ length filled, fillBufferDataPacket dataPacket buffer = .ok (length, filled) ∧
          filled.length = buffer.length ∧ readBufferDataPacket target filled length =
            .ok { dataPacket with data := dataPacket.data.take dataPacket.dataSize }) ∧
      (∀ (ackPacket target : AckPacket) (buffer : List UInt8),
        ackPacket.type ≠ .invalid → ackPacketSize ≤ buffer.length →
        ∃ length filled, fillBufferAckPacket ackPacket buffer = .ok (length, filled) ∧
          filled.length = buffer.length ∧
          readBufferAckPacket target filled length = .ok ackPacket) ∧
      (∀ (target : DataPacket (List UInt8)) (length : ℕ) (datagram buffer : List UInt8),
        dataPacketHeaderSize ≤ length → length ≤ dataPacketSize → length ≤ datagram.length →
        dataPacketSize ≤ buffer.length →
        ∃ dataPacket, readBufferDataPacket target datagram length = .ok dataPacket ∧
          (dataPacket.type ≠ .invalid →
            ∃ filled, fillBufferDataPacket dataPacket buffer = .ok (length, filled) ∧
              filled.length = buffer.length ∧ filled.take length = datagram.take length)) ∧
      ∀ (target : AckPacket) (datagram buffer : List UInt8),
        ackPacketSize ≤ datagram.length → ackPacketSize ≤ buffer.length →
        ∃ ackPacket, readBufferAckPacket target datagram ackPacketSize = .ok ackPacket ∧
          (ackPacket.type ≠ .invalid →
            ∃ filled, fillBufferAckPacket ackPacket buffer = .ok (ackPacketSize, filled) ∧
              filled.length = buffer.length ∧
              filled.take ackPacketSize = datagram.take ackPacketSize) := by
  refine ⟨fun dataPacket target buffer htype hsize hdata hbuffer => ?_,
    fun ackPacket target buffer htype hbuffer => ?_,
    fun target length datagram buffer hheader hlen hdatagram hbuffer => ?_,
    fun target datagram buffer hdatagram hbuffer => ?_⟩
  · have hroom : dataPacketHeaderSize + dataPacket.dataSize ≤ buffer.length :=
      (Nat.add_le_add_left hsize _).trans hbuffer
    refine ⟨_, _, fillBufferDataPacket_eq htype hdata buffer, ?_,
      readBufferDataPacket_bytes htype hdata hsize target _⟩
    rw [List.length_append, DataPacket.length_bytes htype hdata, List.length_drop,
      Nat.add_sub_cancel' hroom]
  · refine ⟨_, _, fillBufferAckPacket_bytes htype buffer, ?_,
      readBufferAckPacket_bytes htype target _⟩
    rw [List.length_append, AckPacket.length_bytes htype, List.length_drop,
      Nat.add_sub_cancel' hbuffer]
  · obtain ⟨dataPacket, hread, -⟩ := readBufferDataPacket_eq datagram target hlen hheader
    refine ⟨dataPacket, hread, fun htype => ?_⟩
    obtain ⟨rfl, hdata, hbytes⟩ := bytes_of_readBufferDataPacket hread htype hdatagram
    have hlength := DataPacket.length_bytes htype hdata.ge
    refine ⟨_, fillBufferDataPacket_eq htype hdata.ge buffer, ?_, ?_⟩
    · rw [List.length_append, hlength, List.length_drop, Nat.add_sub_cancel' (hlen.trans hbuffer)]
    · rw [List.take_left' hlength, hbytes]
  · obtain ⟨ackPacket, hread⟩ := readBufferAckPacket_eq datagram target
    refine ⟨ackPacket, hread, fun htype => ?_⟩
    have hbytes := bytes_of_readBufferAckPacket hread htype hdatagram
    have hlength := AckPacket.length_bytes htype
    refine ⟨_, fillBufferAckPacket_bytes htype buffer, ?_, ?_⟩
    · rw [List.length_append, hlength, List.length_drop, Nat.add_sub_cancel' hbuffer]
    · rw [List.take_left' hlength, hbytes]

/-- A packet with two bytes of payload, of which one counts. -/
theorem codec_roundTrip_finish :
    ∃ length filled, fillBufferDataPacket ⟨.finish, 258, ⟨3, -4⟩, 1, [7, 8]⟩
        (List.replicate 1472 0) = .ok (length, filled) ∧
      readBufferDataPacket .zero filled length = .ok ⟨.finish, 258, ⟨3, -4⟩, 1, [7]⟩ := by
  obtain ⟨length, filled, hfill, -, hread⟩ := codec_roundTrip.1 ⟨.finish, 258, ⟨3, -4⟩, 1, [7, 8]⟩
    .zero (List.replicate 1472 0) (by decide) (by decide) (by decide)
    (by rw [List.length_replicate]; decide)
  exact ⟨length, filled, hfill, hread⟩

end ReliablePacket
