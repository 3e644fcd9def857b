/-
# The joint invariant and the refinement

The composed system refines selective repeat over unbounded numbers: its left
bound, right edge and expected number are the protocol's, and every datagram and
acknowledgement ever sent is a message of the protocol. The invariants of the two
windows are what makes the words agree with the numbers, so the refinement and
the window invariants are proved together, one operation at a time.

The operations are stated on states rather than on steps. The program model,
which splits the sending step into several, uses the same lemmas.
-/
import ReliablePacket.Protocol.ReceiverInvariant
import ReliablePacket.Protocol.SenderInvariant
import ReliablePacket.System.Basic

set_option autoImplicit false

namespace ReliablePacket

open NumberedQueue SelectiveRepeat SlideWindowSender

/-! ## The abstraction -/

/-- The two numbers of an acknowledgement. -/
def AckPacket.toAck (ackPacket : AckPacket) : SelectiveRepeat.Ack :=
  ⟨ackPacket.cumulativeSeqNum.toNat, ackPacket.selectiveSeqNum.toNat⟩

/-- The protocol state a system state stands for. -/
def System.abs (sys : System) : SelectiveRepeat.State where
  base := sys.sender.leftBound
  top := sys.sender.rightEdge
  next := sys.receiver.nextExpected
  sent := {n | n ∈ sys.dataSent.map (·.seqNum.toNat)}
  received := sys.receiver.written
  acks := {a | a ∈ sys.acksSent.map (·.toAck)}
  processed := {a | a ∈ sys.acksProcessed.map (·.toAck)}

/-- The packet is marked as the last one exactly when it is. -/
def Transfer.HeaderOk (t : Transfer) (dataPacket : DataPacket (List UInt8)) : Prop :=
  dataPacket.type =
    if dataPacket.seqNum = lastPacketSeqNumOf t.bytesToSend then .finish else .regular

/-- What `prepareDataPacketsToSend` returns for packet `n`. -/
def Transfer.preparedPacket (t : Transfer) (now : Timeval) (n : ℕ) : DataPacket ItemData where
  type := if UInt32.ofNat n = lastPacketSeqNumOf t.bytesToSend then .finish else .regular
  seqNum := .ofNat n
  sentTime := now
  dataSize := (t.packetData n).length
  data := ⟨.ofNat n⟩

/-- Packet `n` as it is meant to appear on the network. -/
def Transfer.wirePacket (t : Transfer) (now : Timeval) (n : ℕ) : DataPacket (List UInt8) where
  type := if UInt32.ofNat n = lastPacketSeqNumOf t.bytesToSend then .finish else .regular
  seqNum := .ofNat n
  sentTime := now
  dataSize := (t.packetData n).length
  data := t.packetData n

theorem Transfer.headerOk_wirePacket (t : Transfer) (now : Timeval) (n : ℕ) :
    t.HeaderOk (t.wirePacket now n) := rfl

/-- Some processed acknowledgement names packet `n` as accepted. -/
def System.SelectivelyAcked (sys : System) (n : ℕ) : Prop :=
  ∃ ackPacket ∈ sys.acksProcessed, ackPacket.selectiveSeqNum.toNat = n ∧
    ackPacket.cumulativeSeqNum ≠ ackPacket.selectiveSeqNum

/-- What every reachable state of the composed system satisfies. -/
structure System.Inv (t : Transfer) (sys : System) : Prop where
  sender : SenderInv t sys.sender
  receiver : sys.receiver.Inv
  protocol : SelectiveRepeat.Reachable sys.abs
  /-- An item is in state `acked` when an acknowledgement named it. -/
  acked : ∀ n item, sys.sender.itemAt n = some item →
    (item.state = .acked ↔ sys.SelectivelyAcked n)
  header : ∀ dataPacket ∈ sys.dataSent, t.HeaderOk dataPacket
  ackType : ∀ ackPacket ∈ sys.acksSent, ackPacket.type = .regular
  /-- The receiver knows no last packet but the real one. -/
  finishMark : sys.receiver.lastPacketSeqNumReceived = true →
    sys.receiver.lastPacketSeqNum = lastPacketSeqNumOf t.bytesToSend
  /-- Accepting the last packet tells the receiver that it is the last. -/
  finishSeen : (lastPacketSeqNumOf t.bytesToSend).toNat ∈ sys.receiver.written →
    sys.receiver.lastPacketSeqNumReceived = true

/-! ## Prepared packets -/

namespace SenderInv

variable {t : Transfer} {s : SlideWindowSender} {n : ℕ} {now : Timeval}
variable {packet : DataPacket ItemData}

theorem toDataPacket_eq (h : SenderInv t s) {item : SlideWindowSenderItem}
    (hitem : s.itemAt n = some item) : s.toDataPacket now item = t.preparedPacket now n := by
  obtain ⟨hseq, hsize, -⟩ := h.items n item hitem
  rw [toDataPacket, Transfer.preparedPacket, hseq, hsize, h.lastPacketSeqNum]

/-- Every prepared packet is the packet of a number in the window. -/
theorem exists_of_mem_preparedPackets (h : SenderInv t s)
    (hmem : packet ∈ s.preparedPackets now) :
    ∃ n, s.leftBound ≤ n ∧ n < s.rightEdge ∧ packet = t.preparedPacket now n := by
  obtain ⟨n, item, hitem, -, -, rfl⟩ := mem_preparedPackets_iff.mp hmem
  obtain ⟨hleft, hright⟩ := itemAt_bounds hitem
  exact ⟨n, hleft, hright, h.toDataPacket_eq hitem⟩

/-- As long as the item is in the window, marshalling puts its packet on the
network. -/
theorem marshal_eq (h : SenderInv t s) (ht : t.InRange) (hleft : s.leftBound ≤ n)
    (hright : n < s.rightEdge) :
    s.marshal (t.preparedPacket now n) = some (t.wirePacket now n) := by
  obtain ⟨item, hitem⟩ := exists_itemAt_iff.mpr ⟨hleft, hright⟩
  have hdata := readItemData_eq (h.numbered ht) hitem
  rw [(h.items n item hitem).data] at hdata
  simp only [marshal, Transfer.preparedPacket, Transfer.wirePacket]
  rw [hdata, Option.map_some, List.take_length]

end SenderInv

theorem mapM_eq_some {α β : Type} {f : α → Option β} {g : α → β} {l : List α}
    (h : ∀ a ∈ l, f a = some (g a)) : l.mapM f = some (l.map g) := by
  induction l with
  | nil => rfl
  | cons a l ih =>
    rw [List.mapM_cons, h a List.mem_cons_self, ih fun b hb => h b (List.mem_cons_of_mem a hb)]
    rfl

namespace System

variable {t : Transfer} {sys sys' : System} {n : ℕ} {now : Timeval} {timeoutThresholdUs : UInt64}
variable {ackPacket : AckPacket} {dataPacket : DataPacket (List UInt8)}
variable {item : SlideWindowSenderItem}

/-! ## Observations of the protocol state -/

theorem setOf_mem_map_cons {α β : Type} (f : α → β) (a : α) (l : List α) :
    {b | b ∈ (a :: l).map f} = insert (f a) {b | b ∈ l.map f} := by
  ext b
  simp [eq_comm]

theorem mem_sent_of_mem (h : dataPacket ∈ sys.dataSent) :
    dataPacket.seqNum.toNat ∈ sys.abs.sent :=
  List.mem_map.mpr ⟨dataPacket, h, rfl⟩

theorem toAck_mem_acks (h : ackPacket ∈ sys.acksSent) : ackPacket.toAck ∈ sys.abs.acks :=
  List.mem_map.mpr ⟨ackPacket, h, rfl⟩

theorem toAck_mem_processed (h : ackPacket ∈ sys.acksProcessed) :
    ackPacket.toAck ∈ sys.abs.processed :=
  List.mem_map.mpr ⟨ackPacket, h, rfl⟩

theorem selectivelyAcked_iff :
    sys.SelectivelyAcked n ↔ ∃ a ∈ sys.abs.processed, a.selective = n ∧ a.cumulative ≠ n := by
  constructor
  · rintro ⟨ackPacket, hmem, rfl, hne⟩
    refine ⟨ackPacket.toAck, toAck_mem_processed hmem, rfl, fun heq => hne ?_⟩
    exact UInt32.toNat_inj.mp heq
  · rintro ⟨a, hmem, rfl, hne⟩
    obtain ⟨ackPacket, hack, rfl⟩ := List.mem_map.mp hmem
    refine ⟨ackPacket, hack, rfl, fun heq => hne ?_⟩
    exact congrArg UInt32.toNat heq

/-! ## What the operations are in the protocol -/

/-- The two fresh windows are the protocol before any message. -/
theorem abs_init (t : Transfer) :
    (System.init t).abs = SelectiveRepeat.init (System.init t).sender.rightEdge := by
  have hwritten : (System.init t).receiver.written = ∅ := by
    ext n
    simp [System.init, SlideWindowReceiver.written, SlideWindowReceiver.new,
      SlideWindowReceiver.fill]
  have hnil : ∀ β : Type, {b : β | b ∈ ([] : List β)} = ∅ := by
    intro β
    ext b
    simp
  simp only [System.abs, SelectiveRepeat.init]
  rw [hwritten]
  simp only [System.init, List.map_nil, hnil]
  rfl

/-- Preparing packets changes no number the protocol sees. -/
theorem abs_prepared : { sys with sender := sys.sender.prepared now }.abs = sys.abs := by
  simp only [System.abs]
  rw [leftBound_prepared, rightEdge_prepared]

/-- Nor does a timeout sweep. -/
theorem abs_timeoutChecked : { sys with
    sender := sys.sender.timeoutChecked t.shrink timeoutThresholdUs now }.abs = sys.abs := by
  simp only [System.abs]
  rw [leftBound_timeoutChecked, rightEdge_timeoutChecked]

theorem abs_sendOne : (sys.send [dataPacket]).abs =
    { sys.abs with sent := insert dataPacket.seqNum.toNat sys.abs.sent } := by
  simp only [System.abs, System.send]
  rw [List.singleton_append, setOf_mem_map_cons]

/-- Processing an acknowledgement moves the left bound to its cumulative number, if
that is larger, and the right edge wherever the window then ends. -/
theorem abs_acked (hcum : ackPacket.cumulativeSeqNum.toNat ≤ sys.sender.rightEdge) :
    { sys with
      sender := sys.sender.acked t.shrink ackPacket
      acksProcessed := ackPacket :: sys.acksProcessed }.abs =
      { sys.abs with
        top := (sys.sender.acked t.shrink ackPacket).rightEdge
        base := max sys.abs.base ackPacket.toAck.cumulative
        processed := insert ackPacket.toAck sys.abs.processed } := by
  simp only [System.abs]
  rw [setOf_mem_map_cons, leftBound_acked t.shrink hcum]
  rfl

theorem abs_received (receiver : SlideWindowReceiver) (ackPacket : AckPacket) :
    { sys with receiver := receiver, acksSent := ackPacket :: sys.acksSent }.abs =
      { sys.abs with
        next := receiver.nextExpected
        received := receiver.written
        acks := insert ackPacket.toAck sys.abs.acks } := by
  simp only [System.abs]
  rw [setOf_mem_map_cons]

/-- An acknowledgement that was just processed counts like all others. -/
theorem selectivelyAcked_acked {sender : SlideWindowSender} :
    { sys with
      sender := sender
      acksProcessed := ackPacket :: sys.acksProcessed }.SelectivelyAcked n ↔
      (ackPacket.selectiveSeqNum.toNat = n ∧
        ackPacket.cumulativeSeqNum ≠ ackPacket.selectiveSeqNum) ∨ sys.SelectivelyAcked n := by
  simp only [SelectivelyAcked]
  simp only [List.mem_cons, exists_eq_or_imp]

namespace Inv

theorem base_le_next (h : sys.Inv t) : sys.sender.leftBound ≤ sys.receiver.nextExpected :=
  h.protocol.inv.base_le_next

theorem next_le_rightEdge (h : sys.Inv t) : sys.receiver.nextExpected ≤ sys.sender.rightEdge :=
  h.protocol.inv.next_le_top

theorem seqNum_lt (h : sys.Inv t) (hmem : dataPacket ∈ sys.dataSent) :
    dataPacket.seqNum.toNat < sys.sender.rightEdge :=
  h.protocol.inv.sent_lt _ (mem_sent_of_mem hmem)

theorem cumulativeSeqNum_le (h : sys.Inv t) (hmem : ackPacket ∈ sys.acksSent) :
    ackPacket.cumulativeSeqNum.toNat ≤ sys.sender.rightEdge :=
  h.protocol.inv.cumulative_le_top (toAck_mem_acks hmem)

/-- Nothing right of the window was selectively acknowledged. -/
theorem not_selectivelyAcked (h : sys.Inv t) (hn : sys.sender.rightEdge ≤ n) :
    ¬ sys.SelectivelyAcked n := by
  rw [selectivelyAcked_iff]
  rintro ⟨a, hmem, rfl, hne⟩
  have hlt := h.protocol.inv.selective_lt_top (h.protocol.inv.processed_acks hmem) hne.symm
  exact absurd hlt (not_lt.mpr hn)

/-! ## The initial state -/

theorem init (ht : t.InRange) : (System.init t).Inv t where
  sender := .new ht
  receiver := SlideWindowReceiver.inv_new
  protocol := by
    refine ⟨(System.init t).sender.rightEdge, ?_⟩
    rw [abs_init]
  acked := by
    intro n item hn
    -- the items of a new window wait to be sent
    obtain ⟨-, rfl⟩ := ht.itemAt_new hn
    constructor
    · intro hstate
      cases hstate
    · rintro ⟨ackPacket, hmem, -⟩
      cases hmem
  header := by
    intro dataPacket hmem
    cases hmem
  ackType := by
    intro ackPacket hmem
    cases hmem
  finishMark := by
    intro hmark
    cases hmark
  finishSeen := by
    rintro ⟨w, hw, -⟩
    cases hw

/-! ## One operation at a time -/

theorem prepared (h : sys.Inv t) : { sys with sender := sys.sender.prepared now }.Inv t :=
  { h with
    sender := h.sender.prepared
    protocol := by
      rw [abs_prepared]
      exact h.protocol
    acked := by
      intro n item hn
      rw [itemAt_prepared, Option.map_eq_some_iff] at hn
      obtain ⟨old, hold, rfl⟩ := hn
      refine Iff.trans ?_ (h.acked n old hold)
      split_ifs
      · exact SlideWindowSenderItem.markIfSendable_acked_iff
      · rfl }

theorem timeoutChecked (h : sys.Inv t) (ht : t.InRange) :
    { sys with sender := sys.sender.timeoutChecked t.shrink timeoutThresholdUs now }.Inv t :=
  { h with
    sender := h.sender.timeoutChecked ht
    protocol := by
      rw [abs_timeoutChecked]
      exact h.protocol
    acked := by
      intro n item hn
      rw [itemAt_timeoutChecked, Option.map_eq_some_iff] at hn
      obtain ⟨old, hold, rfl⟩ := hn
      exact SlideWindowSenderItem.markIfExpired_acked_iff.trans (h.acked n old hold) }

/-- Handing a packet to the network is a sending step of the protocol. -/
theorem sendOne (h : sys.Inv t) (hheader : t.HeaderOk dataPacket)
    (hlt : dataPacket.seqNum.toNat < sys.sender.rightEdge) : (sys.send [dataPacket]).Inv t :=
  { h with
    protocol := by
      rw [abs_sendOne]
      exact h.protocol.trans (.single (.send hlt))
    header := by
      intro packet hmem
      rcases List.mem_cons.mp hmem with rfl | hmem
      · exact hheader
      · exact h.header packet hmem }

theorem send {packets : List (DataPacket (List UInt8))} (h : sys.Inv t)
    (hpackets : ∀ packet ∈ packets, t.HeaderOk packet ∧
      packet.seqNum.toNat < sys.sender.rightEdge) : (sys.send packets).Inv t := by
  induction packets with
  | nil => exact h
  | cons packet packets ih =>
    have hrest := ih fun p hp => hpackets p (List.mem_cons_of_mem packet hp)
    obtain ⟨hheader, hlt⟩ := hpackets packet List.mem_cons_self
    exact hrest.sendOne hheader hlt

/-- Processing an acknowledgement extends the right edge, then moves the left
bound. -/
theorem steps_acked (h : sys.Inv t) (ht : t.InRange) (hmem : ackPacket ∈ sys.acksSent) :
    Relation.ReflTransGen Step sys.abs
      { sys with
        sender := sys.sender.acked t.shrink ackPacket
        acksProcessed := ackPacket :: sys.acksProcessed }.abs := by
  have hcum := h.cumulativeSeqNum_le hmem
  have hlast := h.sender.toNat_lastPacketSeqNum ht
  have hedge := h.sender.rightEdge_le
  have hlt := ht.lt
  have hright := rightEdge_acked t.shrink hcum (by omega) (by omega)
  have hextend : Step sys.abs
      { sys.abs with top := (sys.sender.acked t.shrink ackPacket).rightEdge } :=
    .extend (le_of_le_of_eq (le_max_left _ _) hright.symm)
  rw [abs_acked hcum]
  exact .tail (.single hextend) (.process (toAck_mem_acks hmem))

theorem ackProcessed (h : sys.Inv t) (ht : t.InRange) (hmem : ackPacket ∈ sys.acksSent) :
    { sys with
      sender := sys.sender.acked t.shrink ackPacket
      acksProcessed := ackPacket :: sys.acksProcessed }.Inv t := by
  have hcum := h.cumulativeSeqNum_le hmem
  have hlast := h.sender.toNat_lastPacketSeqNum ht
  have hedge := h.sender.rightEdge_le
  have hlt := ht.lt
  obtain ⟨retransmit, hitem⟩ := itemAt_acked t.shrink hcum (by omega) (by omega)
  exact
    { h with
      sender := h.sender.acked ht hcum
      protocol := h.protocol.trans (h.steps_acked ht hmem)
      acked := by
        intro n item hn
        rw [hitem] at hn
        rw [selectivelyAcked_acked]
        split_ifs at hn with hold hpopped hnew
        · -- an item of the old window is marked if this acknowledgement names it
          obtain ⟨old, hmem, rfl⟩ := Option.map_eq_some_iff.mp hn
          rw [SlideWindowSenderItem.markAcked_acked_iff, h.acked n old hmem]
          tauto
        · -- a new item is not sent, and no acknowledgement can have named it
          cases hn
          refine iff_of_false nofun (not_or.mpr ⟨?_, h.not_selectivelyAcked (not_lt.mp hold)⟩)
          rintro ⟨rfl, hne⟩
          have htop := h.protocol.inv.selective_lt_top (toAck_mem_acks hmem) fun heq =>
            hne (UInt32.toNat_inj.mp heq.symm)
          exact hold htop }

theorem isData (h : sys.Inv t) (hmem : dataPacket ∈ sys.dataSent) :
    dataPacket.type = .regular ∨ dataPacket.type = .finish := by
  have hheader := h.header dataPacket hmem
  simp only [Transfer.HeaderOk] at hheader
  rw [hheader]
  split_ifs
  · exact .inr rfl
  · exact .inl rfl

/-- A packet that was sent and is not below the expected number fits the range
test: the sums of the window do not wrap. -/
theorem next_add_lt (h : sys.Inv t) (ht : t.InRange) :
    sys.receiver.nextExpected + 200 < 2 ^ 32 := by
  have hnext := h.next_le_rightEdge
  have hedge := h.sender.rightEdge_le
  have hlt := ht.lt
  omega

/-- Taking a packet that was sent is an accepting or an ignoring step of the
protocol. -/
theorem step_received (h : sys.Inv t) (hmem : dataPacket ∈ sys.dataSent) {ret : RetAckPacket}
    {receiver : SlideWindowReceiver}
    (hreceive : sys.receiver.receiveDataPacket false dataPacket = .ok (ret, receiver)) :
    Step sys.abs { sys with
      receiver := receiver
      acksSent := replyAck dataPacket ret :: sys.acksSent }.abs := by
  obtain ⟨_, _, heq, hinv, hcum, -, -, hcases⟩ :=
    SlideWindowReceiver.receiveDataPacket_cases false h.receiver (h.isData hmem)
  rw [hreceive] at heq
  cases heq
  have hack : (replyAck dataPacket ret).toAck =
      ⟨receiver.nextExpected, ret.selectiveSeqNum.toNat⟩ := by
    rw [AckPacket.toAck, replyAck, hcum]
    rfl
  rw [abs_received, hack]
  rcases hcases with ⟨-, hsel, hnext, hfile⟩ | ⟨hin, hsel, hinsert, -⟩
  · -- outside the buffer the reply repeats the expected number
    have hsame : receiver.nextExpected = sys.receiver.nextExpected :=
      congrArg UInt32.toNat hnext
    rw [hsel, SlideWindowReceiver.written_congr hfile]
    change Step sys.abs { sys.abs with
      next := receiver.nextExpected
      received := sys.receiver.written
      acks := insert ⟨receiver.nextExpected, receiver.nextExpected⟩ sys.abs.acks }
    rw [hsame]
    exact .ignore
  · obtain ⟨hle, -, -⟩ := h.receiver.outOfBuffer_eq_false_iff.mp hin
    have hhole := hinv.hole
    rw [hinsert] at hhole
    rw [hsel, hinsert]
    exact .accept (mem_sent_of_mem hmem) hle hhole

/-- A packet that was sent marks the last packet rightly or not at all. -/
theorem finishMark_recordFinish (h : sys.Inv t) (hmem : dataPacket ∈ sys.dataSent)
    (hmark : (sys.receiver.recordFinish dataPacket).lastPacketSeqNumReceived = true) :
    (sys.receiver.recordFinish dataPacket).lastPacketSeqNum =
      lastPacketSeqNumOf t.bytesToSend := by
  have hheader := h.header dataPacket hmem
  simp only [SlideWindowReceiver.recordFinish] at hmark ⊢
  split_ifs at hmark ⊢ with hfinish
  · -- only the last packet is sent with the finish type
    by_contra hne
    rw [Transfer.HeaderOk, if_neg hne, hfinish] at hheader
    cases hheader
  · exact h.finishMark hmark

/-- Once the last packet is written, or is the one being taken, the mark is set. -/
theorem finishSeen_recordFinish (h : sys.Inv t) (hmem : dataPacket ∈ sys.dataSent)
    (hseen : (lastPacketSeqNumOf t.bytesToSend).toNat ∈
      insert dataPacket.seqNum.toNat sys.receiver.written) :
    (sys.receiver.recordFinish dataPacket).lastPacketSeqNumReceived = true := by
  have hheader := h.header dataPacket hmem
  simp only [SlideWindowReceiver.recordFinish]
  split_ifs with hfinish
  · rfl
  · rcases hseen with heq | hold
    · -- the last packet is not sent with another type
      rw [Transfer.HeaderOk, if_pos (UInt32.toNat_inj.mp heq).symm] at hheader
      exact absurd hheader hfinish
    · exact h.finishSeen hold

theorem received (h : sys.Inv t) (hmem : dataPacket ∈ sys.dataSent) {ret : RetAckPacket}
    {receiver : SlideWindowReceiver}
    (hreceive : sys.receiver.receiveDataPacket false dataPacket = .ok (ret, receiver)) :
    { sys with
      receiver := receiver
      acksSent := replyAck dataPacket ret :: sys.acksSent }.Inv t := by
  have hprotocol := h.step_received hmem hreceive
  obtain ⟨_, _, heq, hinv, -, hflag, hlast, hcases⟩ :=
    SlideWindowReceiver.receiveDataPacket_cases false h.receiver (h.isData hmem)
  rw [hreceive] at heq
  cases heq
  -- a dropped packet adds nothing, an accepted one its own number
  have hsub : receiver.written ⊆ insert dataPacket.seqNum.toNat sys.receiver.written := by
    rcases hcases with ⟨-, -, -, hfile⟩ | ⟨-, -, hinsert, -⟩
    · rw [SlideWindowReceiver.written_congr hfile]
      exact Set.subset_insert _ _
    · exact hinsert.subset
  exact
    { h with
      receiver := hinv
      protocol := h.protocol.trans (.single hprotocol)
      ackType := by
        intro ackPacket hack
        rcases List.mem_cons.mp hack with rfl | hack
        · rfl
        · exact h.ackType ackPacket hack
      finishMark := by
        intro hmark
        rw [hlast]
        exact h.finishMark_recordFinish hmem (hflag.symm.trans hmark)
      finishSeen := by
        intro hseen
        exact hflag.trans (h.finishSeen_recordFinish hmem (hsub hseen)) }

end Inv

/-! ## The operations on states that satisfy the invariant -/

theorem prepareDataPacketsToSend_eq (h : sys.Inv t) (ht : t.InRange) :
    sys.prepareDataPacketsToSend now =
      some (sys.sender.preparedPackets now, { sys with sender := sys.sender.prepared now }) := by
  simp only [System.prepareDataPacketsToSend]
  rw [SlideWindowSender.prepareDataPacketsToSend_eq (h.sender.numbered ht)]
  rfl

theorem checkTimeout_eq (h : sys.Inv t) (ht : t.InRange) :
    sys.checkTimeout t timeoutThresholdUs now =
      some { sys with sender := sys.sender.timeoutChecked t.shrink timeoutThresholdUs now } := by
  simp only [System.checkTimeout]
  rw [SlideWindowSender.checkTimeout_eq (h.sender.numbered ht)]
  rfl

theorem ackArrived_eq (h : sys.Inv t) (ht : t.InRange) (hmem : ackPacket ∈ sys.acksSent) :
    sys.ackArrived t ackPacket = some
      { sys with
        sender := sys.sender.acked t.shrink ackPacket
        acksProcessed := ackPacket :: sys.acksProcessed } := by
  simp only [System.ackArrived]
  rw [SlideWindowSender.ackArrived_eq (h.sender.numbered ht) (h.cumulativeSeqNum_le hmem)]
  rfl

/-- The receiver never fails on a packet that was sent. -/
theorem receiveDataPacket_eq (h : sys.Inv t) (hmem : dataPacket ∈ sys.dataSent) :
    ∃ ret receiver, sys.receiver.receiveDataPacket false dataPacket = .ok (ret, receiver) ∧
      sys.receiveDataPacket dataPacket = some (replyAck dataPacket ret,
        { sys with
          receiver := receiver
          acksSent := replyAck dataPacket ret :: sys.acksSent }) := by
  obtain ⟨ret, receiver, heq, -⟩ :=
    SlideWindowReceiver.receiveDataPacket_cases false h.receiver (h.isData hmem)
  refine ⟨ret, receiver, heq, ?_⟩
  simp only [System.receiveDataPacket]
  rw [heq]
  rfl

/-! ## Steps and runs -/

/-- The packets a sending round puts on the network. -/
def wirePackets (t : Transfer) (now : Timeval) (s : SlideWindowSender) :
    List (DataPacket (List UInt8)) :=
  (s.preparedPackets now).map fun packet => t.wirePacket now packet.seqNum.toNat

/-- A packet that a sending round puts on the network is one of the window. -/
theorem exists_of_mem_wirePackets (h : SenderInv t sys.sender) (ht : t.InRange)
    (hmem : dataPacket ∈ wirePackets t now sys.sender) :
    ∃ n, sys.sender.leftBound ≤ n ∧ n < sys.sender.rightEdge ∧
      dataPacket = t.wirePacket now n := by
  obtain ⟨packet, hpacket, rfl⟩ := List.mem_map.mp hmem
  obtain ⟨n, hleft, hright, rfl⟩ := h.exists_of_mem_preparedPackets hpacket
  refine ⟨n, hleft, hright, ?_⟩
  have hedge := h.rightEdge_le
  have hlt := ht.lt
  simp only [Transfer.preparedPacket]
  rw [toNat_ofNat (by omega)]

/-- What a sending round prepared is marshalled as its packet. -/
theorem marshal_prepared (h : SenderInv t sys.sender) (ht : t.InRange)
    {packet : DataPacket ItemData} (hpacket : packet ∈ sys.sender.preparedPackets now) :
    (sys.sender.prepared now).marshal packet = some (t.wirePacket now packet.seqNum.toNat) := by
  obtain ⟨n, hleft, hright, rfl⟩ := h.exists_of_mem_preparedPackets hpacket
  have hedge := h.rightEdge_le
  have hlt := ht.lt
  rw [h.prepared.marshal_eq ht hleft (by rw [rightEdge_prepared]; exact hright)]
  simp only [Transfer.preparedPacket]
  rw [toNat_ofNat (by omega)]

/-- A sending round prepares the packets and puts all of them on the network. -/
theorem step_prepareDataPacketsToSend (now : Timeval) (h : sys.Inv t) (ht : t.InRange) :
    t.system.step (.prepareDataPacketsToSend now) sys =
      some ({ sys with sender := sys.sender.prepared now }.send
        (wirePackets t now sys.sender)) := by
  have hmarshal : (sys.sender.preparedPackets now).mapM (sys.sender.prepared now).marshal =
      some (wirePackets t now sys.sender) :=
    mapM_eq_some fun _ hpacket => marshal_prepared h.sender ht hpacket
  change System.step t (.prepareDataPacketsToSend now) sys = _
  rw [System.step, prepareDataPacketsToSend_eq h ht]
  simp only [Option.bind_eq_bind, Option.bind_some, hmarshal]
  rfl

theorem step_ackArrived (h : sys.Inv t) (ht : t.InRange) (hmem : ackPacket ∈ sys.acksSent) :
    t.system.step (.ackArrived ackPacket) sys = some
      { sys with
        sender := sys.sender.acked t.shrink ackPacket
        acksProcessed := ackPacket :: sys.acksProcessed } := by
  change System.step t (.ackArrived ackPacket) sys = _
  rw [System.step, if_pos hmem, ackArrived_eq h ht hmem]

/-- **Everything one step can do**, in a state that satisfies the invariant. -/
theorem step_cases {a : Action} (h : sys.Inv t) (ht : t.InRange)
    (hstep : t.system.step a sys = some sys') :
    (∃ now, a = .prepareDataPacketsToSend now ∧
        sys' = { sys with sender := sys.sender.prepared now }.send
          (wirePackets t now sys.sender)) ∨
      (∃ timeoutThresholdUs now, a = .checkTimeout timeoutThresholdUs now ∧
        sys' = { sys with
          sender := sys.sender.timeoutChecked t.shrink timeoutThresholdUs now }) ∨
      (∃ ackPacket ∈ sys.acksSent, a = .ackArrived ackPacket ∧
        sys' = { sys with
          sender := sys.sender.acked t.shrink ackPacket
          acksProcessed := ackPacket :: sys.acksProcessed }) ∨
      (∃ dataPacket ∈ sys.dataSent, ∃ ret receiver, a = .receiveDataPacket dataPacket ∧
        sys.receiver.receiveDataPacket false dataPacket = .ok (ret, receiver) ∧
        sys' = { sys with
          receiver := receiver
          acksSent := replyAck dataPacket ret :: sys.acksSent }) := by
  cases a with
  | prepareDataPacketsToSend now =>
    rw [step_prepareDataPacketsToSend now h ht] at hstep
    cases hstep
    exact .inl ⟨now, rfl, rfl⟩
  | checkTimeout timeoutThresholdUs now =>
    change sys.checkTimeout t timeoutThresholdUs now = _ at hstep
    rw [checkTimeout_eq h ht] at hstep
    cases hstep
    exact .inr (.inl ⟨timeoutThresholdUs, now, rfl, rfl⟩)
  | ackArrived ackPacket =>
    by_cases hmem : ackPacket ∈ sys.acksSent
    · rw [step_ackArrived h ht hmem] at hstep
      cases hstep
      exact .inr (.inr (.inl ⟨ackPacket, hmem, rfl, rfl⟩))
    · change System.step t (.ackArrived ackPacket) sys = _ at hstep
      rw [System.step, if_neg hmem] at hstep
      cases hstep
  | receiveDataPacket dataPacket =>
    change System.step t (.receiveDataPacket dataPacket) sys = _ at hstep
    rw [System.step] at hstep
    split_ifs at hstep with hmem
    obtain ⟨ret, receiver, hreceive, heq⟩ := receiveDataPacket_eq h hmem
    rw [heq] at hstep
    cases hstep
    exact .inr (.inr (.inr ⟨dataPacket, hmem, ret, receiver, rfl, hreceive, rfl⟩))

/-- Every step keeps the invariant. -/
theorem Inv.step {a : Action} (h : sys.Inv t) (ht : t.InRange)
    (hstep : t.system.step a sys = some sys') : sys'.Inv t := by
  rcases step_cases h ht hstep with ⟨now, -, rfl⟩ | ⟨thr, now, -, rfl⟩ | ⟨ack, hmem, -, rfl⟩ |
    ⟨packet, hmem, ret, receiver, -, hreceive, rfl⟩
  · refine h.prepared.send fun packet hpacket => ?_
    obtain ⟨n, -, hright, rfl⟩ := exists_of_mem_wirePackets h.sender ht hpacket
    have hedge := h.sender.rightEdge_le
    have hlt := ht.lt
    refine ⟨t.headerOk_wirePacket now n, ?_⟩
    rw [rightEdge_prepared]
    simp only [Transfer.wirePacket]
    rw [toNat_ofNat (by omega)]
    exact hright
  · exact h.timeoutChecked ht
  · exact h.ackProcessed ht hmem
  · exact h.received hmem hreceive

/-- **The joint invariant holds in every reachable state.** -/
theorem inv_of_reachable (ht : t.InRange) (hreach : t.system.Reachable sys) : sys.Inv t :=
  hreach.invariant (Inv.init ht) fun _ _ _ h hstep => h.step ht hstep

end System

end ReliablePacket
