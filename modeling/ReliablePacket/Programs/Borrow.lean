/-
# Packets that borrow their payload

A prepared packet points into its item until `sendData` marshals it, without the
window's lock. An acknowledgement that arrives in between may pop the item.

A packet that is sent for the first time cannot be acknowledged before it is
marshalled. So the pointer dangles only when a retransmission is in the queue
while an acknowledgement of an earlier copy is processed. In runs where that does
not happen every queued packet's item is in the window and its payload is that of
the packet.
-/
import ReliablePacket.Programs.Invariant
import ReliablePacket.Programs.Wakeup

set_option autoImplicit false

namespace ReliablePacket

open SlideWindowSender

variable {t : Transfer} {p p' : Programs} {a : Programs.Action} {now : Timeval}
variable {timeoutThresholdUs : UInt64} {freed : List UInt8}

namespace Programs

/-- No acknowledgement is processed whose cumulative number passes a packet that is
queued again after an earlier copy of it was sent. -/
def SparesRetransmissions (p : Programs) (a : Action) : Prop :=
  ∀ i, a = .receiveAck i → ∀ ackPacket ∈ (p.receiveAck i).inHand,
    ∀ packet ∈ p.sendData.queue, packet.seqNum ∈ p.sys.dataSent.map (·.seqNum) →
      ackPacket.cumulativeSeqNum ≤ packet.seqNum

instance (p : Programs) (a : Action) : Decidable (p.SparesRetransmissions a) :=
  inferInstanceAs (Decidable (∀ i, a = .receiveAck i → ∀ ackPacket ∈ (p.receiveAck i).inHand,
    ∀ packet ∈ p.sendData.queue, packet.seqNum ∈ p.sys.dataSent.map (·.seqNum) →
      ackPacket.cumulativeSeqNum ≤ packet.seqNum))

/-- No queued packet's item has left the window. -/
def QueueInWindow (p : Programs) : Prop :=
  ∀ packet ∈ p.sendData.queue, p.sys.sender.slideWindowLeftBoundSeqNum ≤ packet.seqNum

/-- **A first transmission is not acknowledged early.** A packet that was never sent
lies at or above every cumulative number the receiver has replied. -/
theorem Inv.cumulativeSeqNum_le_of_not_sent (h : p.Inv t) {ackPacket : AckPacket}
    (hmem : ackPacket ∈ p.sys.acksSent) {seqNum : UInt32}
    (hsent : seqNum ∉ p.sys.dataSent.map (·.seqNum)) :
    ackPacket.cumulativeSeqNum ≤ seqNum := by
  have hinv := h.system.protocol.inv
  by_contra hlt
  have hbelow : seqNum.toNat < ackPacket.cumulativeSeqNum.toNat := not_le.mp hlt
  have hcum : ackPacket.cumulativeSeqNum.toNat ≤ p.sys.receiver.nextExpected :=
    hinv.ack_le _ (System.toAck_mem_acks hmem)
  have hreceived : seqNum.toNat ∈ p.sys.abs.sent :=
    hinv.received_sent (hinv.hole.1 _ (hbelow.trans_le hcum))
  obtain ⟨dataPacket, hdata, heq⟩ := List.mem_map.mp hreceived
  exact hsent (List.mem_map.mpr ⟨dataPacket, hdata, UInt32.toNat_inj.mp heq⟩)

/-- **When a queued packet dangles.** Its payload cannot be read any more exactly
when its number has fallen below the left bound. -/
theorem Inv.marshal_eq_none_iff (h : p.Inv t) (ht : t.InRange) {packet : DataPacket ItemData}
    (hmem : packet ∈ p.sendData.queue) :
    p.sys.sender.marshal packet = none ↔
      packet.seqNum < p.sys.sender.slideWindowLeftBoundSeqNum := by
  obtain ⟨now, n, hright, rfl⟩ := h.queue packet hmem
  have hedge := h.system.sender.rightEdge_le
  have hlt := ht.lt
  have hseq : (t.preparedPacket now n).seqNum.toNat = n := toNat_ofNat (by omega)
  rw [UInt32.lt_iff_toNat_lt, hseq]
  constructor
  · intro hnone
    by_contra hleft
    rw [h.system.sender.marshal_eq ht (not_lt.mp hleft) hright] at hnone
    cases hnone
  · intro hbelow
    have hread := readItemData_eq_none (h.system.sender.numbered ht) hbelow
    rw [SlideWindowSender.marshal, Transfer.preparedPacket, hread]
    rfl

namespace QueueInWindow

theorem sendDataStep (hqueue : p.QueueInWindow) (h : p.Inv t) (ht : t.InRange)
    (hstep : p.sendDataStep now freed = some p') : p'.QueueInWindow := by
  rcases sendDataStep_cases hstep with ⟨done, location, rfl, hempty, -⟩ |
    ⟨packets, sys, hprepare, rfl, -⟩ | ⟨packet, packets, dataPacket, hmarshal, -, -, rfl⟩
  · intro packet hmem
    change packet ∈ location.queue at hmem
    rw [hempty] at hmem
    cases hmem
  · rw [System.prepareDataPacketsToSend_eq h.system ht] at hprepare
    cases hprepare
    intro packet hmem
    obtain ⟨n, hleft, hright, rfl⟩ := h.system.sender.exists_of_mem_preparedPackets hmem
    have hedge := h.system.sender.rightEdge_le
    have hlt := ht.lt
    rw [UInt32.le_iff_toNat_le, Transfer.preparedPacket, toNat_ofNat (by omega)]
    exact hleft
  · intro other hmem
    refine hqueue other ?_
    rw [hmarshal]
    exact List.mem_cons_of_mem packet hmem

theorem notifyAll (hqueue : p.QueueInWindow) : p.notifyAll.QueueInWindow := by
  obtain ⟨location, heq, hsame, -⟩ := notifyAll_eq p
  rw [heq]
  intro packet hmem
  change packet ∈ location.queue at hmem
  exact hqueue packet (hsame ▸ hmem)

theorem receiveAckStep {i : Fin receiveAckThreadNum} (hqueue : p.QueueInWindow) (h : p.Inv t)
    (ht : t.InRange) (hallowed : p.SparesRetransmissions (.receiveAck i))
    (hstep : p.receiveAckStep t i = some p') : p'.QueueInWindow := by
  rcases receiveAckStep_cases hstep with ⟨location, rfl, -⟩ |
    ⟨ackPacket, sys, hreceived, hack, rfl⟩ | ⟨-, rfl⟩
  · exact hqueue
  · have hmem := h.receiveAck i ackPacket hreceived
    rw [System.ackArrived_eq h.system ht hmem] at hack
    cases hack
    intro packet hpacket
    change packet ∈ p.sendData.queue at hpacket
    have hcum : ackPacket.cumulativeSeqNum ≤ packet.seqNum := by
      -- a retransmission is spared by assumption, a first transmission always
      by_cases hsent : packet.seqNum ∈ p.sys.dataSent.map (·.seqNum)
      · refine hallowed i rfl ackPacket ?_ packet hpacket hsent
        rw [hreceived]
        rfl
      · exact h.cumulativeSeqNum_le_of_not_sent hmem hsent
    -- the left bound moves no further than the cumulative number
    have hleft := leftBound_acked t.shrink (h.system.cumulativeSeqNum_le hmem)
    have hmax : max p.sys.sender.leftBound ackPacket.cumulativeSeqNum.toNat ≤
        packet.seqNum.toNat := max_le (hqueue packet hpacket) hcum
    exact UInt32.le_iff_toNat_le.mpr (hleft.trans_le hmax)
  · exact hqueue.notifyAll

theorem checkTimeoutStep (hqueue : p.QueueInWindow) (h : p.Inv t) (ht : t.InRange)
    (hstep : p.checkTimeoutStep t timeoutThresholdUs now = some p') : p'.QueueInWindow := by
  rcases checkTimeoutStep_cases hstep with ⟨location, rfl⟩ | ⟨sys, hsys, rfl⟩ | rfl
  · exact hqueue
  · rw [System.checkTimeout_eq h.system ht] at hsys
    cases hsys
    intro packet hmem
    exact UInt32.le_iff_toNat_le.mpr (leftBound_timeoutChecked.trans_le (hqueue packet hmem))
  · exact hqueue.notifyAll

theorem receiveDataStep {i : Fin receiveThreadNum} (hqueue : p.QueueInWindow) (h : p.Inv t)
    (hstep : p.receiveDataStep i = some p') : p'.QueueInWindow := by
  rcases receiveDataStep_cases hstep with ⟨location, rfl, -⟩ |
    ⟨dataPacket, ackPacket, sys, hreceived, hsys, rfl⟩ | ⟨ackPacket, -, rfl⟩ |
    ⟨ackPacket, copies, -, rfl⟩
  · exact hqueue
  · have hmem : dataPacket ∈ p.sys.dataSent := by
      have hok := h.receiveData i
      rw [hreceived] at hok
      exact hok
    obtain ⟨ret, receiver, -, heq⟩ := System.receiveDataPacket_eq h.system hmem
    rw [heq] at hsys
    cases hsys
    exact hqueue
  · exact hqueue
  · exact hqueue

/-- Every step that spares the queued retransmissions keeps their items. -/
theorem step (hqueue : p.QueueInWindow) (h : p.Inv t) (ht : t.InRange)
    (hallowed : p.SparesRetransmissions a) (hstep : t.programs.step a p = some p') :
    p'.QueueInWindow := by
  change Programs.step t a p = some p' at hstep
  cases a with
  | sendData now freed => exact hqueue.sendDataStep h ht hstep
  | spuriousWakeup =>
    obtain ⟨-, rfl⟩ := spuriousWakeup_eq_some hstep
    intro packet hmem
    cases hmem
  | receiveAck i => exact hqueue.receiveAckStep h ht hallowed hstep
  | deliverAck i ackPacket =>
    obtain ⟨-, -, location, rfl, -⟩ := deliverAck_eq_some hstep
    exact hqueue
  | checkTimeout timeoutThresholdUs now => exact hqueue.checkTimeoutStep h ht hstep
  | receiveData i => exact hqueue.receiveDataStep h hstep
  | deliverData i dataPacket =>
    obtain ⟨-, -, rfl⟩ := deliverData_eq_some hstep
    exact hqueue
  | deliverHandshake i sentTime =>
    obtain ⟨-, rfl⟩ := deliverHandshake_eq_some hstep
    exact hqueue
  | network action =>
    obtain ⟨_, _, _, rfl, -⟩ := networkStep_frame hstep
    exact hqueue

end QueueInWindow

end Programs

/-- **A queued packet's payload is there when it is marshalled**, in every run whose
acknowledgements spare the queued retransmissions: its item is in the window, and
the bytes marshalled are those of the packet. -/
theorem marshal_queued_packet (ht : t.InRange)
    (hreach : t.programs.ReachableVia Programs.SparesRetransmissions p)
    {packet : DataPacket ItemData} {packets : List (DataPacket ItemData)}
    (hmarshal : p.sendData = .marshal (packet :: packets)) :
    p.sys.sender.slideWindowLeftBoundSeqNum ≤ packet.seqNum ∧
      (∃ item ∈ p.sys.sender.slideWindow, item.seqNum = packet.seqNum) ∧
      ∃ dataPacket, p.sys.sender.marshal packet = some dataPacket ∧
        dataPacket.seqNum = packet.seqNum ∧
        dataPacket.data = t.packetData packet.seqNum.toNat := by
  have h := Programs.inv_of_reachable ht hreach.reachable
  have hwindow : p.QueueInWindow := by
    refine hreach.invariant ?_ fun s a s' hs hqueue hallowed hstep => ?_
    · intro packet hmem
      cases hmem
    · exact hqueue.step (Programs.inv_of_reachable ht hs.reachable) ht hallowed hstep
  have hmem : packet ∈ p.sendData.queue := by
    rw [hmarshal]
    exact List.mem_cons_self
  have hleft := hwindow packet hmem
  obtain ⟨now, n, hright, rfl⟩ := h.queue packet hmem
  have hedge := h.system.sender.rightEdge_le
  have hlt := ht.lt
  have hseq : (t.preparedPacket now n).seqNum.toNat = n := toNat_ofNat (by omega)
  have hleft' : p.sys.sender.leftBound ≤ n :=
    (UInt32.le_iff_toNat_le.mp hleft).trans_eq hseq
  obtain ⟨item, hitem⟩ := exists_itemAt_iff.mpr ⟨hleft', hright⟩
  refine ⟨hleft, ⟨item, mem_iff_itemAt.mpr ⟨n, hitem⟩, (h.system.sender.items n item hitem).seqNum⟩,
    t.wirePacket now n, h.system.sender.marshal_eq ht hleft' hright, rfl, ?_⟩
  rw [hseq]
  rfl

/-! ## A retransmission under way -/

namespace Programs

/-- The only packet is sent, received and answered; a `receiveAck` thread has read
the answer. -/
def answeredRun : List Action :=
  sendDataSteps 6 ++ receiverRun ++ [.receiveAck 0, .deliverAck 0 ⟨.regular, 1, 0, ⟨0, 0⟩⟩]

/-- The packet times out and is prepared again. -/
def retransmissionRun : List Action :=
  answeredRun ++ [.checkTimeout 0 ⟨0, 0⟩, .checkTimeout 0 ⟨1, 0⟩] ++ sendDataSteps 2

/-- The packet that is queued again. -/
def retransmission : DataPacket ItemData := ⟨.finish, 0, ⟨0, 0⟩, 1, ⟨0⟩⟩

end Programs

/-- Before the answer is processed, the retransmission would be marshalled right. -/
theorem marshal_queued_packet_retransmissionRun :
    ∃ p : Programs, p.sendData = .marshal [Programs.retransmission] ∧
      ∃ dataPacket, p.sys.sender.marshal Programs.retransmission = some dataPacket ∧
        dataPacket.data = Transfer.oneByte.packetData 0 := by
  have hrun : (Transfer.oneByte.programs.runVia (fun p a => decide (p.SparesRetransmissions a))
      Programs.retransmissionRun (.init Transfer.oneByte)).map (·.sendData) =
        some (.marshal [Programs.retransmission]) := by
    decide +kernel
  obtain ⟨p, hp, hmarshal⟩ := Option.map_eq_some_iff.mp hrun
  have hinit : Transfer.oneByte.programs.ReachableVia Programs.SparesRetransmissions
      (.init Transfer.oneByte) := .init
  have hreach := hinit.runVia (fun _ _ => of_decide_eq_true) hp
  obtain ⟨-, -, dataPacket, heq, -, hdata⟩ :=
    marshal_queued_packet Transfer.oneByte_inRange hreach hmarshal
  exact ⟨p, hmarshal, dataPacket, heq, hdata⟩

/-- Once the answer is processed, the queued retransmission points to a deleted
item, and the next step may send any byte as the packet's payload. -/
theorem dangling_retransmission :
    ∃ p p' : Programs, Transfer.oneByte.programs.Reachable p ∧
      p.sendData = .marshal [Programs.retransmission] ∧
      Programs.retransmission.seqNum < p.sys.sender.slideWindowLeftBoundSeqNum ∧
      p.sys.sender.slideWindow = [] ∧
      p.sys.sender.marshal Programs.retransmission = none ∧
      Transfer.oneByte.programs.step (.sendData ⟨1, 0⟩ [0]) p = some p' ∧
      p'.dataInFlight = [⟨.finish, 0, ⟨0, 0⟩, 1, [0]⟩] ∧
      Transfer.oneByte.packetData 0 = [7] := by
  have hrun : (Transfer.oneByte.programs.step (.sendData ⟨1, 0⟩ [0])
      (Transfer.oneByte.programs.endOf (Programs.retransmissionRun ++ [.receiveAck 0]))).map
        (·.dataInFlight) = some [⟨.finish, 0, ⟨0, 0⟩, 1, [0]⟩] := by
    decide +kernel
  obtain ⟨p', hstep, hdata⟩ := Option.map_eq_some_iff.mp hrun
  refine ⟨_, p', Transfer.oneByte.programs.reachable_endOf _, ?_, ?_, ?_, ?_, hstep, hdata, ?_⟩ <;>
    decide +kernel

end ReliablePacket
