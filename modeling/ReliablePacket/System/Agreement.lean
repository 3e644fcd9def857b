/-
# What the two sides know of each other

Consequences of the joint invariant: the sender regards nothing as delivered that
the receiver has not written, the sender's window has the shape its loops rely
on, and when the sender declares the transfer finished the receiver has finished
before it.

The converse of the last point depends on the file. The sender counts the bytes
that were read, so a short read keeps it from ever reaching the total.
-/
import ReliablePacket.System.Invariant

set_option autoImplicit false

namespace ReliablePacket

open SlideWindowSender

variable {t : Transfer} {sys sys' : System} {ackPacket : AckPacket} {n : ℕ}

/-! ## A smallest run -/

/-- The transfer of one byte with nothing lost. -/
def System.oneByteRun : List System.Action :=
  [.prepareDataPacketsToSend ⟨0, 0⟩,
    .receiveDataPacket ⟨.finish, 0, ⟨0, 0⟩, 1, [7]⟩,
    .ackArrived ⟨.regular, 1, 0, ⟨0, 0⟩⟩]

/-! ## Delivery -/

namespace SlideWindowReceiver

/-- The receiver has taken the packet: its number is passed, or its item is marked
received. -/
def Accepted (r : SlideWindowReceiver) (seqNum : UInt32) : Prop :=
  seqNum < r.nextExpectedPacketSeqNum ∨
    ∃ item ∈ r.slideWindow, item.seqNum = seqNum ∧ item.state = .received

/-- What has been written has been accepted. -/
theorem Inv.accepted {r : SlideWindowReceiver} (h : r.Inv) {seqNum : UInt32}
    (hwritten : seqNum.toNat ∈ r.written) : r.Accepted seqNum := by
  rcases Nat.lt_or_ge seqNum.toNat r.nextExpected with hlt | hge
  · exact .inl hlt
  · have hend := h.written_lt _ hwritten
    obtain ⟨item, hitem⟩ : ∃ item, r.itemAt seqNum.toNat = some item :=
      NumberedQueue.exists_lookup_iff.mpr ⟨hge, by rw [h.length]; exact hend⟩
    obtain ⟨hseq, hstate⟩ := h.items _ item hitem
    rw [UInt32.ofNat_toNat] at hseq
    exact .inr ⟨item, NumberedQueue.mem_of_lookup hitem, hseq, hstate.mpr hwritten⟩

end SlideWindowReceiver

/-- **No false acknowledgement.** The left bound never passes the expected number,
and every packet the sender has popped or holds as acknowledged was accepted and
written by the receiver. -/
theorem accepted_of_acknowledged (ht : t.InRange) (hreach : t.system.Reachable sys) :
    sys.sender.slideWindowLeftBoundSeqNum ≤ sys.receiver.nextExpectedPacketSeqNum ∧
      ∀ seqNum : UInt32,
        (seqNum < sys.sender.slideWindowLeftBoundSeqNum ∨
          ∃ item ∈ sys.sender.slideWindow, item.seqNum = seqNum ∧ item.state = .acked) →
        sys.receiver.Accepted seqNum ∧ ∃ w ∈ sys.receiver.fileToWrite, w.seqNum = seqNum := by
  have h := System.inv_of_reachable ht hreach
  refine ⟨UInt32.le_iff_toNat_le.mpr h.base_le_next, fun seqNum hdelivered => ?_⟩
  have hwritten : seqNum.toNat ∈ sys.receiver.written := by
    refine h.protocol.inv.acknowledged_received ?_
    rcases hdelivered with hpopped | ⟨item, hmem, rfl, hacked⟩
    · exact .inl hpopped
    · obtain ⟨n, hitem⟩ := mem_iff_itemAt.mp hmem
      have hn : item.seqNum.toNat = n := by
        have hedge := (itemAt_bounds hitem).2
        have hle := h.sender.rightEdge_le
        have hlt := ht.lt
        rw [(h.sender.items n item hitem).seqNum, toNat_ofNat (by omega)]
      rw [hn]
      exact .inr (System.selectivelyAcked_iff.mp ((h.acked n item hitem).mp hacked))
  refine ⟨h.receiver.accepted hwritten, ?_⟩
  obtain ⟨w, hw, heq⟩ := hwritten
  exact ⟨w, hw, UInt32.toNat_inj.mp heq⟩

/-- After the transfer of one byte its packet is popped, so it was accepted. -/
theorem accepted_of_acknowledged_oneByte :
    (Transfer.oneByte.system.endOf System.oneByteRun).receiver.Accepted 0 := by
  have hall := accepted_of_acknowledged Transfer.oneByte_inRange
    (Transfer.oneByte.system.reachable_endOf System.oneByteRun)
  exact (hall.2 0 (.inl (by decide +kernel))).1

/-! ## The sender's window -/

/-- **The shape of the sender's window.** Items are numbered consecutively, the
window reaches to the end of the congestion window or of the transfer, `lastAck`
follows the left bound, and no acknowledgement exceeds the right edge. No loop
pops an empty deque and no consistency check fails, with or without the debug
build. -/
theorem senderWindow_wellFormed (ht : t.InRange) (hreach : t.system.Reachable sys) :
    (∀ i item, sys.sender.slideWindow[i]? = some item →
        item.seqNum = sys.sender.slideWindowLeftBoundSeqNum + .ofNat i ∧
          item.seqNum.toNat = sys.sender.slideWindowLeftBoundSeqNum.toNat + i) ∧
      sys.sender.slideWindowLeftBoundSeqNum.toNat + sys.sender.slideWindow.length ≤
        sys.sender.lastPacketSeqNum.toNat + 1 ∧
      min sys.sender.curCongestionWindow.toNat (sys.sender.lastPacketSeqNum.toNat + 1 -
        sys.sender.slideWindowLeftBoundSeqNum.toNat) ≤ sys.sender.slideWindow.length ∧
      (t.fastRetransmission = slideWindowFastRetransmission →
        sys.sender.lastAck = sys.sender.slideWindowLeftBoundSeqNum) ∧
      (∀ ackPacket ∈ sys.acksSent, ackPacket.cumulativeSeqNum.toNat ≤
        sys.sender.slideWindowLeftBoundSeqNum.toNat + sys.sender.slideWindow.length) ∧
      ∀ debug,
        (∀ ackPacket ∈ sys.acksSent,
          ∃ s, sys.sender.ackArrived t.shrink debug ackPacket = .ok s) ∧
        (∀ timeoutThresholdUs now,
          ∃ s, sys.sender.checkTimeout t.shrink debug timeoutThresholdUs now = .ok s) ∧
        ∀ now, ∃ packets s, sys.sender.prepareDataPacketsToSend debug now = .ok (packets, s) := by
  have h := System.inv_of_reachable ht hreach
  have hnumbered := h.sender.numbered ht
  have hlast := h.sender.toNat_lastPacketSeqNum ht
  have hedge := h.sender.rightEdge_le
  have hfilled := h.sender.filled
  rw [← hlast, rightEdge, leftBound] at hedge hfilled
  refine ⟨fun i item hi => ?_, hedge, by omega, fun hfast => ?_, fun ack hmem => ?_,
    fun debug => ⟨fun ack hmem => ?_, fun thr now => ?_, fun now => ?_⟩⟩
  · have hseq := hnumbered.seqNum_getElem? hi
    have hi' := (List.getElem?_eq_some_iff.mp hi).1
    have hlt := ht.lt
    refine ⟨hseq, ?_⟩
    rw [hseq, add_ofNat, toNat_ofNat (by omega)]
  · exact UInt32.toNat_inj.mp (h.sender.lastAck hfast)
  · exact h.cumulativeSeqNum_le hmem
  · exact ⟨_, SlideWindowSender.ackArrived_eq hnumbered (h.cumulativeSeqNum_le hmem)⟩
  · exact ⟨_, SlideWindowSender.checkTimeout_eq hnumbered⟩
  · exact ⟨_, _, SlideWindowSender.prepareDataPacketsToSend_eq hnumbered⟩

/-- Both packets of a transfer are sent, and the first one arrives and is acknowledged. -/
def System.slideRun : List System.Action :=
  [.prepareDataPacketsToSend ⟨0, 0⟩, .receiveDataPacket (Transfer.twoPackets.wirePacket ⟨0, 0⟩ 0),
    .ackArrived ⟨.regular, 1, 0, ⟨0, 0⟩⟩]

/-- The window has slid by one item, and the item that is left in it has number one. -/
theorem senderWindow_wellFormed_slideRun :
    (∃ item, (Transfer.twoPackets.system.endOf System.slideRun).sender.slideWindow = [item] ∧
      item.seqNum = 1) ∧
      (Transfer.twoPackets.system.endOf System.slideRun).sender.lastAck = 1 := by
  obtain ⟨hitems, hright, hfilled, hlastAck, -⟩ :=
    senderWindow_wellFormed Transfer.twoPackets_inRange
      (Transfer.twoPackets.system.reachable_endOf System.slideRun)
  have hleft : (Transfer.twoPackets.system.endOf
      System.slideRun).sender.slideWindowLeftBoundSeqNum = 1 := by decide +kernel
  have hlast : (Transfer.twoPackets.system.endOf
      System.slideRun).sender.lastPacketSeqNum = 1 := by decide +kernel
  have hwindow : (Transfer.twoPackets.system.endOf
      System.slideRun).sender.curCongestionWindow = 10 := by decide +kernel
  rw [hleft] at hitems
  rw [hleft, hlast, show (1 : UInt32).toNat = 1 from rfl] at hright hfilled
  rw [hwindow, show (10 : UInt32).toNat = 10 from rfl] at hfilled
  -- the window reaches to the last packet and not past it
  obtain ⟨item, hitem⟩ := List.length_eq_one_iff.mp (show (Transfer.twoPackets.system.endOf
    System.slideRun).sender.slideWindow.length = 1 by omega)
  refine ⟨⟨item, hitem, ?_⟩, (hlastAck rfl).trans hleft⟩
  exact (hitems 0 item (by rw [hitem]; rfl)).1

/-! ## Finishing -/

/-- A sender that counts all bytes has all packets acknowledged, and then the
receiver has them all and knows the last one. -/
theorem System.Inv.receiver_finished (h : sys.Inv t) (ht : t.InRange)
    (hfinished : sys.sender.finished = true) :
    sys.receiver.finished = true ∧ sys.sender.slideWindow = [] ∧
      sys.sender.slideWindowLeftBoundSeqNum = sys.sender.lastPacketSeqNum + 1 ∧
      sys.receiver.nextExpectedPacketSeqNum = sys.sender.lastPacketSeqNum + 1 := by
  have hleft := (h.sender.finished_iff.mp hfinished).1
  have hlast := h.sender.toNat_lastPacketSeqNum ht
  have hlt := ht.lt
  have hbase := h.base_le_next
  have hnext := h.next_le_rightEdge
  have hedge := h.sender.rightEdge_le
  -- left bound, expected number and right edge are squeezed together at the end
  have hsucc : (sys.sender.lastPacketSeqNum + 1).toNat = t.packets := by
    rw [UInt32.toNat_add, UInt32.toNat_one]
    omega
  have hnext' : sys.receiver.nextExpectedPacketSeqNum = sys.sender.lastPacketSeqNum + 1 := by
    rw [← UInt32.toNat_inj, hsucc]
    change sys.receiver.nextExpected = _
    omega
  have hseen : sys.receiver.lastPacketSeqNumReceived = true := by
    refine h.finishSeen (h.receiver.hole.1 _ ?_)
    rw [← h.sender.lastPacketSeqNum]
    omega
  refine ⟨?_, ?_, ?_, hnext'⟩
  · rw [SlideWindowReceiver.finished, hseen, h.finishMark hseen, hnext',
      h.sender.lastPacketSeqNum]
    simp
  · -- a window that starts behind the last packet has no room for an item
    rw [← List.length_eq_zero_iff]
    rw [rightEdge] at hedge
    omega
  · rw [← UInt32.toNat_inj, hsucc, ← hleft]
    rfl

/-- **Finish agreement.** When the sender is finished after an acknowledgement, the
receiver was finished before it, the window is empty, and both sides stand behind
the last packet. -/
theorem receiver_finished_of_sender_finished (ht : t.InRange) (hreach : t.system.Reachable sys)
    (hstep : t.system.step (.ackArrived ackPacket) sys = some sys')
    (hfinished : sys'.sender.finished = true) :
    sys.receiver.finished = true ∧ sys'.receiver = sys.receiver ∧
      sys'.sender.slideWindow = [] ∧
      sys'.sender.slideWindowLeftBoundSeqNum = sys'.sender.lastPacketSeqNum + 1 ∧
      sys'.receiver.nextExpectedPacketSeqNum = sys'.sender.lastPacketSeqNum + 1 := by
  have h := System.inv_of_reachable ht hreach
  have h' := System.inv_of_reachable ht (hreach.step hstep)
  -- processing an acknowledgement does not touch the receiver
  have hreceiver : sys'.receiver = sys.receiver := by
    rcases System.step_cases h ht hstep with ⟨_, ha, -⟩ | ⟨_, _, ha, -⟩ | ⟨_, -, -, rfl⟩ |
      ⟨_, -, _, _, ha, -⟩
    · cases ha
    · cases ha
    · rfl
    · cases ha
  obtain ⟨hdone, hempty, hleft, hnext⟩ := h'.receiver_finished ht hfinished
  exact ⟨hreceiver ▸ hdone, hreceiver, hempty, hleft, hnext⟩

/-- The acknowledgement of the only packet finishes the transfer of one byte. -/
theorem receiver_finished_of_sender_finished_oneByte :
    (Transfer.oneByte.system.endOf (System.oneByteRun.take 2)).receiver.finished = true := by
  have hrun : (Transfer.oneByte.system.step (.ackArrived ⟨.regular, 1, 0, ⟨0, 0⟩⟩)
      (Transfer.oneByte.system.endOf (System.oneByteRun.take 2))).map (·.sender.finished) =
        some true := by
    decide +kernel
  obtain ⟨sys', hstep, hfinished⟩ := Option.map_eq_some_iff.mp hrun
  exact (receiver_finished_of_sender_finished Transfer.oneByte_inRange
    (Transfer.oneByte.system.reachable_endOf _) hstep hfinished).1

/-- The ranges that `readFile` addresses all lie inside the file. -/
def Transfer.ReadsInside (t : Transfer) : Prop :=
  ∀ k < t.packets,
    readOffset (.ofNat k) + packetSize t.bytesToSend.toNat k ≤ t.fileToSend.size

/-- **When completion is recognised.** Once every packet is acknowledged, the
sender is finished exactly when no read reached past the end of the file. -/
theorem sender_finished_iff_readsInside (ht : t.InRange) (hreach : t.system.Reachable sys)
    (hall : sys.sender.slideWindowLeftBoundSeqNum = sys.sender.lastPacketSeqNum + 1) :
    sys.sender.finished = true ↔ t.ReadsInside := by
  have h := System.inv_of_reachable ht hreach
  have hleft : sys.sender.leftBound = t.packets := by
    have hlast := h.sender.toNat_lastPacketSeqNum ht
    have hlt := ht.lt
    rw [leftBound, hall, UInt32.toNat_add, UInt32.toNat_one]
    omega
  rw [h.sender.finished_iff, and_iff_right hleft]
  exact forall₂_congr fun k hk => Transfer.length_packetData_eq_iff hk

theorem sender_finished_iff_readsInside_oneByte :
    (Transfer.oneByte.system.endOf System.oneByteRun).sender.finished = true ↔
      Transfer.oneByte.ReadsInside :=
  sender_finished_iff_readsInside Transfer.oneByte_inRange
    (Transfer.oneByte.system.reachable_endOf System.oneByteRun) (by decide +kernel)

/-- One byte is announced, and the file is empty. -/
def Transfer.emptyFile : Transfer := ⟨.empty, 1, slideWindowFastRetransmission, .truncated⟩

/-- The only packet is sent without payload, accepted and acknowledged. -/
def System.emptyFileRun : List System.Action :=
  [.prepareDataPacketsToSend ⟨0, 0⟩,
    .receiveDataPacket ⟨.finish, 0, ⟨0, 0⟩, 0, []⟩,
    .ackArrived ⟨.regular, 1, 0, ⟨0, 0⟩⟩]

/-- Every packet of the empty file is acknowledged and the receiver is finished,
but the sender is not. -/
theorem sender_not_finished_emptyFile :
    Transfer.emptyFile.InRange ∧ ∃ sys, Transfer.emptyFile.system.Reachable sys ∧
      sys.sender.slideWindowLeftBoundSeqNum = sys.sender.lastPacketSeqNum + 1 ∧
      sys.receiver.finished = true ∧ sys.sender.finished = false := by
  refine ⟨⟨by decide, by decide⟩, Transfer.emptyFile.system.endOf System.emptyFileRun,
    Transfer.emptyFile.system.reachable_endOf _, ?_, ?_, ?_⟩ <;> decide +kernel

end ReliablePacket
