/-
# Datagrams at the receiver

One pass through the loop of `receiveDataReplyAck`, at the level of bytes. Anyone
can send a datagram to the receiver's port. What is long enough for a header is
either a packet, which is answered, or ignored. What is shorter fails the size
check of `readBufferDataPacket`: its caller does not look at the length, as
`receiveAck` in the sender's program does.
-/
import ReliablePacket.Programs.Basic
import ReliablePacket.Protocol.ReceiverInvariant
import ReliablePacket.Protocol.WireFormat

set_option autoImplicit false

namespace ReliablePacket

open ByteBuffer

variable {datagram : List UInt8} {debug : Bool} {r : SlideWindowReceiver}

/-- The buffer after `memset` and `recvfrom`. -/
def recvBuffer (datagram : List UInt8) : List UInt8 :=
  datagram ++ List.replicate (dataPacketSize - datagram.length) 0

/-- The replies to one datagram: the last acknowledgement is sent `FIN_ACK_NUM` times. -/
def sendReply (ackPacket : AckPacket) (buffer : List UInt8) (r : SlideWindowReceiver) :
    Except Fault (List (List UInt8)) := do
  let (ackSize, buffer) ← fillBufferAckPacket ackPacket buffer
  return List.replicate (if r.finished then finAckNum else 1) (buffer.take ackSize)

/-- What is done with a packet that was read into the buffer: the replies and the
receiver's window. -/
def answer (debug : Bool) (dataPacket : DataPacket (List UInt8)) (buffer : List UInt8)
    (r : SlideWindowReceiver) : Except Fault (List (List UInt8) × SlideWindowReceiver) :=
  match dataPacket.type with
  | .invalid => .ok ([], r)
  | .handshake => do
    let replies ← sendReply ⟨.handshake, 0, 0, dataPacket.sentTime⟩ buffer r
    return (replies, r)
  | .regular | .finish => do
    let (retAckPacket, r) ← r.receiveDataPacket debug dataPacket
    let replies ← sendReply (replyAck dataPacket retAckPacket) buffer r
    return (replies, r)

/-- One pass through the loop of `receiveDataReplyAck`, when `recvfrom` returns a
datagram. -/
def receiveDataReplyAck (debug : Bool) (datagram : List UInt8) (r : SlideWindowReceiver) :
    Except Fault (List (List UInt8) × SlideWindowReceiver) := do
  let buffer := recvBuffer datagram
  let dataPacket ← readBufferDataPacket .zero buffer datagram.length
  answer debug dataPacket buffer r

/-- The receiver, fed with datagrams that `recvfrom` can return. -/
def datagramReceiver (debug : Bool) : TransitionSystem SlideWindowReceiver (List UInt8) where
  init := .new
  step datagram r :=
    if datagram.length ≤ dataPacketSize then
      (receiveDataReplyAck debug datagram r).toOption.map (·.2)
    else none

/-- The datagram has a header with the tag of a known type. -/
def WellFormed (datagram : List UInt8) : Prop :=
  dataPacketHeaderSize ≤ datagram.length ∧ dataPacketTypeOf (load 0 2 datagram) ≠ .invalid

/-! ## One pass through the loop -/

/-- An acknowledgement with a type is sent, once or `FIN_ACK_NUM` times. -/
theorem sendReply_eq {ackPacket : AckPacket} (htype : ackPacket.type ≠ .invalid)
    (buffer : List UInt8) (r : SlideWindowReceiver) :
    sendReply ackPacket buffer r =
      .ok (List.replicate (if r.finished then finAckNum else 1) ackPacket.bytes) := by
  rw [sendReply, fillBufferAckPacket_bytes htype]
  change Except.ok (List.replicate _ (List.take ackPacketSize _)) = _
  rw [List.take_left' (AckPacket.length_bytes htype)]

/-- A data packet is taken by the window and answered. -/
theorem answer_of_receive {dataPacket : DataPacket (List UInt8)} {ret : RetAckPacket}
    {r' : SlideWindowReceiver}
    (hdata : dataPacket.type = .regular ∨ dataPacket.type = .finish)
    (hreceive : r.receiveDataPacket debug dataPacket = .ok (ret, r')) (buffer : List UInt8) :
    answer debug dataPacket buffer r =
      .ok (List.replicate (if r'.finished then finAckNum else 1) (replyAck dataPacket ret).bytes,
        r') := by
  have htype : (replyAck dataPacket ret).type ≠ .invalid := fun hinvalid => by cases hinvalid
  have hanswer : answer debug dataPacket buffer r =
      (sendReply (replyAck dataPacket ret) buffer r' >>= fun replies => pure (replies, r')) := by
    rcases hdata with hregular | hfinish
    · rw [answer, hregular]
      simp only [hreceive]
      rfl
    · rw [answer, hfinish]
      simp only [hreceive]
      rfl
  rw [hanswer, sendReply_eq htype]
  rfl

/-- A packet of a known type is answered. -/
theorem answer_eq {dataPacket : DataPacket (List UInt8)} (debug : Bool) (h : r.Inv)
    (htype : dataPacket.type ≠ .invalid) (buffer : List UInt8) :
    ∃ (ackPacket : AckPacket) (r' : SlideWindowReceiver),
      answer debug dataPacket buffer r =
        .ok (List.replicate (if r'.finished then finAckNum else 1) ackPacket.bytes, r') ∧
      r'.Inv ∧ ackPacket.type ≠ .invalid := by
  by_cases hhandshake : dataPacket.type = .handshake
  · have hack : (⟨.handshake, 0, 0, dataPacket.sentTime⟩ : AckPacket).type ≠ .invalid :=
      fun hinvalid => by cases hinvalid
    refine ⟨_, r, ?_, h, hack⟩
    rw [answer, hhandshake]
    change sendReply _ buffer r >>= _ = _
    rw [sendReply_eq hack]
    rfl
  · have hdata : dataPacket.type = .regular ∨ dataPacket.type = .finish := by
      cases hcase : dataPacket.type with
      | invalid => exact absurd hcase htype
      | handshake => exact absurd hcase hhandshake
      | regular => exact .inl rfl
      | finish => exact .inr rfl
    obtain ⟨ret, r', hreceive, hinv, -⟩ :=
      SlideWindowReceiver.receiveDataPacket_cases debug h hdata
    exact ⟨_, r', answer_of_receive hdata hreceive buffer, hinv,
      fun hinvalid => by cases hinvalid⟩

/-- **Everything one pass does with a datagram that has room for a header.** It does
not fail. A malformed datagram changes nothing and is not answered; the others are. -/
theorem receiveDataReplyAck_eq (debug : Bool) (h : r.Inv) (hlen : datagram.length ≤ dataPacketSize)
    (hheader : dataPacketHeaderSize ≤ datagram.length) :
    ∃ replies r', receiveDataReplyAck debug datagram r = .ok (replies, r') ∧ r'.Inv ∧
      (¬ WellFormed datagram → replies = [] ∧ r' = r) ∧
      (WellFormed datagram → ∃ reply, reply.length = ackPacketSize ∧
        replies = List.replicate (if r'.finished then finAckNum else 1) reply) := by
  obtain ⟨dataPacket, hread, htype⟩ :=
    readBufferDataPacket_eq (recvBuffer datagram) .zero hlen hheader
  -- the tag stands in the datagram itself, not in the zeros behind it
  have htag : load 0 2 (recvBuffer datagram) = load 0 2 datagram := by
    refine load_append ?_
    rw [show dataPacketHeaderSize = 22 from rfl] at hheader
    omega
  have hformed : WellFormed datagram ↔ dataPacket.type ≠ .invalid := by
    rw [htype, htag]
    exact and_iff_right hheader
  have hpass : receiveDataReplyAck debug datagram r =
      answer debug dataPacket (recvBuffer datagram) r := by
    simp only [receiveDataReplyAck, hread]
    rfl
  rw [hpass, hformed, not_not]
  by_cases hinvalid : dataPacket.type = .invalid
  · refine ⟨[], r, ?_, h, fun _ => ⟨rfl, rfl⟩, fun hknown => absurd hinvalid hknown⟩
    rw [answer, hinvalid]
  · obtain ⟨ackPacket, r', hanswer, hinv, hack⟩ :=
      answer_eq debug h hinvalid (recvBuffer datagram)
    exact ⟨_, r', hanswer, hinv, fun hunknown => absurd hunknown hinvalid,
      fun _ => ⟨_, AckPacket.length_bytes hack, rfl⟩⟩

/-- A datagram without room for a header fails the size check. -/
theorem receiveDataReplyAck_of_lt (debug : Bool) (r : SlideWindowReceiver)
    (hshort : datagram.length < dataPacketHeaderSize) :
    receiveDataReplyAck debug datagram r = .error .assertionFailed := by
  simp only [receiveDataReplyAck, readBufferDataPacket_of_lt _ hshort]
  rfl

/-! ## Every datagram -/

/-- The receiver's invariant holds whatever datagrams it is sent. -/
theorem inv_of_datagrams (hreach : (datagramReceiver debug).Reachable r) : r.Inv := by
  refine hreach.invariant SlideWindowReceiver.inv_new fun r datagram r' h hstep => ?_
  obtain ⟨hlen, hpass⟩ := Option.ite_none_right_eq_some.mp hstep
  rcases Nat.lt_or_ge datagram.length dataPacketHeaderSize with hshort | hheader
  · rw [receiveDataReplyAck_of_lt debug r hshort] at hpass
    cases hpass
  · obtain ⟨replies, s, heq, hinv, -⟩ := receiveDataReplyAck_eq debug h hlen hheader
    rw [heq] at hpass
    cases hpass
    exact hinv

/-- One pass does not fail, and a malformed datagram leaves the receiver as it was and
gets no reply. -/
def Survives (debug : Bool) (datagram : List UInt8) (r : SlideWindowReceiver) : Prop :=
  ∃ replies r', receiveDataReplyAck debug datagram r = .ok (replies, r') ∧
    (¬ WellFormed datagram → replies = [] ∧ r' = r)

/-- **What a receiver survives.** In every reachable state, exactly the datagrams that
have room for a header. -/
theorem survives_iff (hreach : (datagramReceiver debug).Reachable r)
    (hlen : datagram.length ≤ dataPacketSize) :
    Survives debug datagram r ↔ dataPacketHeaderSize ≤ datagram.length := by
  constructor
  · rintro ⟨replies, r', heq, -⟩
    by_contra hshort
    rw [receiveDataReplyAck_of_lt debug r (Nat.not_le.mp hshort)] at heq
    cases heq
  · intro hheader
    obtain ⟨replies, r', heq, -, hmalformed, -⟩ :=
      receiveDataReplyAck_eq debug (inv_of_datagrams hreach) hlen hheader
    exact ⟨replies, r', heq, hmalformed⟩

/-- Random bytes are ignored, given enough of them. -/
theorem survives_iff_malformed : Survives false (List.replicate 22 120) .new :=
  (survives_iff .init (by decide)).mpr (by decide)

/-- The empty datagram stops a fresh receiver. -/
theorem not_survives_empty :
    ([] : List UInt8).length ≤ dataPacketSize ∧
      receiveDataReplyAck false [] .new = .error .assertionFailed ∧
      ¬ Survives false [] .new := by
  have hfails : receiveDataReplyAck false [] .new = .error .assertionFailed :=
    receiveDataReplyAck_of_lt false .new (by decide)
  refine ⟨by decide, hfails, ?_⟩
  rintro ⟨replies, r', heq, -⟩
  rw [hfails] at heq
  cases heq

end ReliablePacket
