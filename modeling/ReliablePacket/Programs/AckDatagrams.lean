/-
# Datagrams at the sender

One pass through the loop of `receiveAck`, at the level of bytes. Anyone can send a
datagram to the sender's port. `receiveAck` looks at the length before it reads, so a
datagram that is too short or has another tag is ignored, and one that is too long is
cut. The cumulative number is not looked at: an acknowledgement that reaches past the
window makes `ackArrived` pop items that are not there. The receiver sends none of
these; whoever else does stops the sender with it.
-/
import ReliablePacket.Programs.WireSystem
import ReliablePacket.Protocol.SenderRuns

set_option autoImplicit false

namespace ReliablePacket

open ByteBuffer SlideWindowSender

variable {t : Transfer} {s s' : SlideWindowSender} {datagram : List UInt8}
variable {ackPacket : AckPacket} {shrink : CongestionShrink}

/-- The datagram reads as the acknowledgement of a data packet. -/
def RegularAck (datagram : List UInt8) : Prop :=
  ackPacketSize ≤ datagram.length ∧ ackPacketTypeOf (load 0 2 datagram) = .regular

instance (datagram : List UInt8) : Decidable (RegularAck datagram) :=
  inferInstanceAs (Decidable (_ ∧ _))

/-- What `readBufferAckPacket` reads from such a datagram. -/
def regularAckOf (datagram : List UInt8) : AckPacket :=
  ⟨.regular, loadUInt32 2 datagram, loadUInt32 6 datagram, loadTimeval 10 datagram⟩

/-- The datagram acknowledges packets that are not in the window. -/
def SlideWindowSender.OverrunBy (datagram : List UInt8) (s : SlideWindowSender) : Prop :=
  RegularAck datagram ∧ s.rightEdge < (regularAckOf datagram).cumulativeSeqNum.toNat

instance (datagram : List UInt8) (s : SlideWindowSender) : Decidable (s.OverrunBy datagram) :=
  inferInstanceAs (Decidable (_ ∧ _))

/-! ## The sender, fed with datagrams -/

/-- The operations of a sender, with datagrams in place of acknowledgements. -/
inductive DatagramOperation
  | prepareDataPacketsToSend (now : Timeval)
  | checkTimeout (timeoutThresholdUs : UInt64) (now : Timeval)
  | receiveAck (datagram : List UInt8)

/-- The sender of a transfer, with any datagrams at its socket. -/
def Transfer.datagramSender (t : Transfer) :
    TransitionSystem SlideWindowSender DatagramOperation where
  init := .new t.fileToSend t.bytesToSend t.fastRetransmission
  step op s :=
    match op with
    | .prepareDataPacketsToSend now => t.sender.step (.prepareDataPacketsToSend now) s
    | .checkTimeout timeoutThresholdUs now =>
      t.sender.step (.checkTimeout timeoutThresholdUs now) s
    | .receiveAck datagram => (receiveAck t.shrink datagram s).toOption

/-! ## One pass through the loop -/

/-- What `recvfrom` cuts off is not looked at. -/
theorem load_take {offset count size : ℕ} (hsize : size ≤ datagram.length)
    (hle : offset + count ≤ size) :
    load offset count (datagram.take size) = load offset count datagram := by
  have hlength : (datagram.take size).length = size := List.length_take_of_le hsize
  conv_rhs => rw [← List.take_append_drop size datagram]
  exact (load_append (by omega)).symm

/-- A datagram of some other tag or length is ignored. -/
theorem receiveAck_of_not_regularAck (shrink : CongestionShrink) (s : SlideWindowSender)
    (h : ¬ RegularAck datagram) : receiveAck shrink datagram s = .ok s := by
  rw [receiveAck]
  by_cases hlength : (datagram.take ackPacketSize).length = ackPacketSize
  · have hsize : ackPacketSize ≤ datagram.length := by
      rw [List.length_take] at hlength
      omega
    rw [hlength]
    simp only [ne_eq, not_true_eq_false, if_false]
    -- the datagram is read, and its type is not that of a regular acknowledgement
    have htag : load 0 2 (datagram.take ackPacketSize) = load 0 2 datagram :=
      load_take hsize (by decide)
    have hother : ackPacketTypeOf (load 0 2 datagram) ≠ .regular := fun hregular =>
      h ⟨hsize, hregular⟩
    simp only [readBufferAckPacket, htag]
    cases htype : ackPacketTypeOf (load 0 2 datagram) with
    | regular => exact absurd htype hother
    | handshake => rfl
    | invalid => rfl
  · exact if_pos hlength

/-- The others are read and processed. -/
theorem receiveAck_of_regularAck (shrink : CongestionShrink) (s : SlideWindowSender)
    (h : RegularAck datagram) :
    receiveAck shrink datagram s = s.ackArrived shrink false (regularAckOf datagram) := by
  obtain ⟨hsize, hregular⟩ := h
  have hlength : (datagram.take ackPacketSize).length = ackPacketSize :=
    List.length_take_of_le hsize
  have hread : readBufferAckPacket .zero (datagram.take ackPacketSize) ackPacketSize =
      .ok (regularAckOf datagram) := by
    simp only [readBufferAckPacket, if_true, loadUInt32, loadTimeval, loadInt64,
      load_take hsize (by decide : 0 + 2 ≤ ackPacketSize),
      load_take hsize (by decide : 2 + 4 ≤ ackPacketSize),
      load_take hsize (by decide : 6 + 4 ≤ ackPacketSize),
      load_take hsize (by decide : 10 + 8 ≤ ackPacketSize),
      load_take hsize (by decide : 10 + 8 + 8 ≤ ackPacketSize), hregular]
    rfl
  rw [receiveAck, hlength]
  simp only [hread, ne_eq, not_true_eq_false, if_false]
  rfl

namespace SlideWindowSender

/-- Popping past the end of the window reads an empty deque. -/
theorem slideLoop_of_lt {cumulativeSeqNum i : UInt32} {bytesSent : UInt64}
    {items : List SlideWindowSenderItem} (hlt : i.toNat + items.length < cumulativeSeqNum.toNat) :
    s.slideLoop false cumulativeSeqNum i bytesSent items = .error .emptyDeque := by
  -- every round pops one item, so the window is empty before the number is reached
  induction items generalizing i bytesSent with
  | nil =>
    rw [slideLoop, if_pos]
    rw [UInt32.lt_iff_toNat_lt]
    exact hlt
  | cons item items ih =>
    rw [List.length_cons] at hlt
    have hnext : (i + 1).toNat = i.toNat + 1 := by
      have := cumulativeSeqNum.toNat_lt
      rw [UInt32.toNat_add, show (1 : UInt32).toNat = 1 from rfl, Nat.mod_eq_of_lt (by omega)]
    rw [slideLoop, if_pos (UInt32.lt_iff_toNat_lt.mpr (by omega)), ensureCorrectness_false]
    apply ih
    omega

/-- An acknowledgement that reaches past the window fails. -/
theorem ackArrived_of_lt (h : s.Numbered) (hlt : s.rightEdge < ackPacket.cumulativeSeqNum.toNat) :
    s.ackArrived shrink false ackPacket = .error .emptyDeque := by
  obtain ⟨-, -, hleft, hright, -⟩ := fastRetransmit_frame shrink ackPacket (s.selected ackPacket)
  rw [rightEdge_selected] at hright
  rw [leftBound_selected] at hleft
  have hslide : ((s.selected ackPacket).fastRetransmit shrink ackPacket).slide false ackPacket =
      .error .emptyDeque := by
    rw [rightEdge] at hright
    have hpast : ((s.selected ackPacket).fastRetransmit shrink ackPacket).slideWindowLeftBoundSeqNum
        < ackPacket.cumulativeSeqNum := by
      rw [UInt32.lt_iff_toNat_lt, ← leftBound]
      omega
    rw [slide, if_pos hpast, if_neg (fun hdebug => by cases hdebug.1), slideLoop_of_lt]
    · rfl
    · rw [← leftBound]
      omega
  rw [ackArrived, selectiveAck_eq h]
  change ((s.selected ackPacket).fastRetransmit shrink ackPacket).slide false ackPacket >>= _ = _
  rw [hslide]
  rfl

end SlideWindowSender

/-! ## Every datagram -/

/-- A pass that did not fail was that of an acknowledgement inside the window, or none. -/
theorem receiveAck_cases (h : s.Numbered) (hpass : receiveAck t.shrink datagram s = .ok s') :
    s' = s ∨ ∃ ackPacket, t.sender.step (.ackArrived ackPacket) s = some s' := by
  by_cases hregular : RegularAck datagram
  · rw [receiveAck_of_regularAck t.shrink s hregular] at hpass
    refine .inr ⟨regularAckOf datagram, ?_⟩
    change s.perform t.shrink (.ackArrived (regularAckOf datagram)) = _
    rw [perform, hpass]
    apply if_pos
    by_contra hpast
    rw [ackArrived_of_lt h (Nat.lt_of_not_le hpast)] at hpass
    cases hpass
  · rw [receiveAck_of_not_regularAck t.shrink s hregular] at hpass
    cases hpass
    exact .inl rfl

/-- Datagrams take the sender nowhere that acknowledgements do not. -/
theorem sender_reachable_of_datagrams (ht : t.InRange) (hreach : t.datagramSender.Reachable s) :
    t.sender.Reachable s := by
  have hinit : t.sender.Reachable t.datagramSender.init :=
    (.init : t.sender.Reachable t.sender.init)
  refine hreach.invariant hinit fun s op s' hs hstep => ?_
  cases op with
  | prepareDataPacketsToSend now =>
    change t.sender.step (.prepareDataPacketsToSend now) s = some s' at hstep
    exact hs.step hstep
  | checkTimeout timeoutThresholdUs now =>
    change t.sender.step (.checkTimeout timeoutThresholdUs now) s = some s' at hstep
    exact hs.step hstep
  | receiveAck datagram =>
    have hnumbered := (SenderInv.of_reachable ht hs).numbered ht
    change (receiveAck t.shrink datagram s).toOption = some s' at hstep
    cases hpass : receiveAck t.shrink datagram s with
    | error fault =>
      rw [hpass] at hstep
      cases hstep
    | ok s₁ =>
      rw [hpass] at hstep
      cases hstep
      rcases receiveAck_cases hnumbered hpass with rfl | ⟨ackPacket, hack⟩
      · exact hs
      · exact hs.step hack

/-- **What a sender survives.** In every state that rounds, sweeps and any datagrams lead
to, exactly the datagrams that do not acknowledge packets past the end of the window.
What is not a regular acknowledgement changes nothing, and rounds and sweeps never
fail, with the checks of the debug build or without. -/
theorem sender_survives_iff (ht : t.InRange) (hreach : t.datagramSender.Reachable s)
    (datagram : List UInt8) :
    ((∃ s', receiveAck t.shrink datagram s = .ok s') ↔ ¬ s.OverrunBy datagram) ∧
      (¬ RegularAck datagram → receiveAck t.shrink datagram s = .ok s) ∧
      (∀ debug now, ∃ packets s',
        s.prepareDataPacketsToSend debug now = .ok (packets, s')) ∧
      ∀ debug timeoutThresholdUs now, ∃ s',
        s.checkTimeout t.shrink debug timeoutThresholdUs now = .ok s' := by
  have hnumbered :=
    (SenderInv.of_reachable ht (sender_reachable_of_datagrams ht hreach)).numbered ht
  refine ⟨⟨?_, fun hinside => ?_⟩, receiveAck_of_not_regularAck t.shrink s,
    fun debug now => ⟨_, _, prepareDataPacketsToSend_eq hnumbered⟩,
    fun debug thr now => ⟨_, checkTimeout_eq hnumbered⟩⟩
  · rintro ⟨s', hpass⟩ ⟨hregular, hpast⟩
    rw [receiveAck_of_regularAck t.shrink s hregular, ackArrived_of_lt hnumbered hpast] at hpass
    cases hpass
  · by_cases hregular : RegularAck datagram
    · rw [receiveAck_of_regularAck t.shrink s hregular]
      refine ⟨_, ackArrived_eq hnumbered ?_⟩
      exact Nat.not_lt.mp fun hpast => hinside ⟨hregular, hpast⟩
    · exact ⟨s, receiveAck_of_not_regularAck t.shrink s hregular⟩

/-- A transfer of one packet ends with the acknowledgement of that packet, and is ended by
an acknowledgement of two. -/
theorem sender_survives_iff_oneByte :
    (∃ s', receiveAck Transfer.oneByte.shrink (⟨.regular, 1, 0, ⟨0, 0⟩⟩ : AckPacket).bytes
        Transfer.oneByte.datagramSender.init = .ok s') ∧
      ¬ ∃ s', receiveAck Transfer.oneByte.shrink (⟨.regular, 2, 0, ⟨0, 0⟩⟩ : AckPacket).bytes
        Transfer.oneByte.datagramSender.init = .ok s' := by
  constructor
  · exact (sender_survives_iff Transfer.oneByte_inRange .init _).1.mpr (by decide +kernel)
  · intro hsurvives
    exact (sender_survives_iff Transfer.oneByte_inRange .init _).1.mp hsurvives
      (by decide +kernel)

end ReliablePacket
