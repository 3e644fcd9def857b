/-
# Fast retransmission

Acknowledgements that repeat the number the sender waits for are counted, and the one
that makes the count two sets the first item of the window to be sent again, if it is in
flight. The count is an `int`; it starts at zero whenever the window moves.

So two such acknowledgements are enough to have the first packet sent again, whatever
they acknowledge selectively.
-/
import ReliablePacket.Protocol.Timeouts

set_option autoImplicit false

namespace ReliablePacket

/-- What fast retransmission does to item `n` of a window that starts at `left`, when it
applies. -/
def SlideWindowSenderItem.markFirst (retransmit : Bool) (left n : ℕ)
    (item : SlideWindowSenderItem) : SlideWindowSenderItem :=
  if retransmit ∧ n = left ∧ item.isInFlight then { item with state := .timeout } else item

namespace SlideWindowSender

variable {t : Transfer} {s : SlideWindowSender} {item : SlideWindowSenderItem} {n : ℕ}
variable {ackPacket : AckPacket} {shrink : CongestionShrink}

/-! ## One acknowledgement -/

/-- The acknowledgement makes the counter reach the threshold. -/
def retransmits (ackPacket : AckPacket) (s : SlideWindowSender) : Bool :=
  s.fastRetransmission && s.lastAck = ackPacket.cumulativeSeqNum &&
    s.lastAckAckedCount + 1 = fastRetransmissionThreshold

/-- The counter after an acknowledgement. -/
def countAfter (ackPacket : AckPacket) (s : SlideWindowSender) : Int32 :=
  if s.fastRetransmission then
    if s.lastAck = ackPacket.cumulativeSeqNum then s.lastAckAckedCount + 1
    else if s.lastAck < ackPacket.cumulativeSeqNum then 0
    else s.lastAckAckedCount
  else s.lastAckAckedCount

theorem selected_frame (ackPacket : AckPacket) (s : SlideWindowSender) :
    ∃ items, s.selected ackPacket = { s with slideWindow := items } := by
  simp only [selected]
  split_ifs
  · exact ⟨_, rfl⟩
  · exact ⟨_, rfl⟩

theorem lastAckAckedCount_fastRetransmit (shrink : CongestionShrink) (ackPacket : AckPacket)
    (s : SlideWindowSender) :
    (s.fastRetransmit shrink ackPacket).lastAckAckedCount = s.countAfter ackPacket := by
  simp only [fastRetransmit, countAfter]
  split_ifs with hfast heq hcount hlt
  · -- neither the penalty nor the first item touches the counter
    obtain ⟨_, _, hfirst, -⟩ := timeoutFirstItem_eq
      ({ s with lastAckAckedCount := s.lastAckAckedCount + 1 }.punishDuplicateAck shrink)
    obtain ⟨_, _, _, _, hpunish⟩ := punishDuplicateAck_frame shrink
      { s with lastAckAckedCount := s.lastAckAckedCount + 1 }
    rw [hfirst, hpunish]
  · rfl
  · rfl
  · rfl
  · rfl

theorem lastAckAckedCount_slid : (s.slid ackPacket).lastAckAckedCount = s.lastAckAckedCount := by
  simp only [slid]
  split_ifs <;> rfl

/-- No stage but fast retransmission touches the counter. -/
theorem lastAckAckedCount_acked (shrink : CongestionShrink) (ackPacket : AckPacket)
    (s : SlideWindowSender) :
    (s.acked shrink ackPacket).lastAckAckedCount = s.countAfter ackPacket := by
  obtain ⟨_, _, hgrow⟩ := growCongestionWindow_frame (s.beforeGrowth shrink ackPacket)
  obtain ⟨_, hselected⟩ := selected_frame ackPacket s
  change (s.beforeGrowth shrink ackPacket).growCongestionWindow.lastAckAckedCount = _
  rw [hgrow]
  change (s.beforeGrowth shrink ackPacket).lastAckAckedCount = _
  rw [beforeGrowth, lastAckAckedCount_slid, lastAckAckedCount_fastRetransmit, hselected]
  rfl

theorem itemAt_fastRetransmit (shrink : CongestionShrink) (ackPacket : AckPacket)
    (s : SlideWindowSender) (n : ℕ) :
    (s.fastRetransmit shrink ackPacket).itemAt n =
      (s.itemAt n).map (·.markFirst (s.retransmits ackPacket) s.leftBound n) := by
  have hkept (h : s.retransmits ackPacket = false) :
      (s.itemAt n).map (·.markFirst (s.retransmits ackPacket) s.leftBound n) = s.itemAt n := by
    simp [h, SlideWindowSenderItem.markFirst]
  rcases fastRetransmit_cases shrink ackPacket s with
    ⟨heq, hold⟩ | ⟨-, -, hcount, heq⟩ | ⟨hfast, hlast, hcount, heq⟩ | ⟨-, hlt, heq⟩
  · rw [heq]
    refine (hkept (Bool.eq_false_iff.mpr fun h => ?_)).symm
    simp only [retransmits, Bool.and_eq_true, decide_eq_true_iff] at h
    exact UInt32.ne_of_lt (hold h.1.1) h.1.2.symm
  · rw [heq]
    exact (hkept (by simp [retransmits, hcount])).symm
  · have hyes : s.retransmits ackPacket = true := by simp [retransmits, hfast, hlast, hcount]
    -- the penalty concerns the congestion variables, so the items are those of the window
    obtain ⟨items, ready, hitems, -, hlookup⟩ := timeoutFirstItem_eq
      ({ s with lastAckAckedCount := s.lastAckAckedCount + 1 }.punishDuplicateAck shrink)
    obtain ⟨_, _, _, _, hpunish⟩ := punishDuplicateAck_frame shrink
      { s with lastAckAckedCount := s.lastAckAckedCount + 1 }
    rw [hpunish] at hitems hlookup
    rw [heq, hpunish, hitems]
    refine (hlookup n).trans ?_
    simp only [hyes, SlideWindowSenderItem.markFirst, true_and]
    rfl
  · rw [heq]
    exact (hkept (by simp [retransmits, UInt32.ne_of_lt hlt])).symm

/-- **What an acknowledgement does to the items of the window**, fast retransmission
included. -/
theorem itemAt_acked_of_lt (shrink : CongestionShrink)
    (hcum : ackPacket.cumulativeSeqNum.toNat ≤ s.rightEdge)
    (hlast : s.lastPacketSeqNum.toNat + 1 < 2 ^ 32)
    (hedge : s.rightEdge ≤ s.lastPacketSeqNum.toNat + 1) (hn : n < s.rightEdge) :
    (s.acked shrink ackPacket).itemAt n =
      if n < ackPacket.cumulativeSeqNum.toNat then none
      else (s.itemAt n).map (·.markAcked ackPacket (s.retransmits ackPacket) s.leftBound n) := by
  obtain ⟨hparams, -, hright, -⟩ := refilled_frame shrink hcum
  have hseq : (s.refilled shrink ackPacket).lastPacketSeqNum = s.lastPacketSeqNum :=
    congrArg (·.2.2.1) hparams
  have hsame : (s.selected ackPacket).retransmits ackPacket = s.retransmits ackPacket := by
    obtain ⟨_, hselected⟩ := selected_frame ackPacket s
    rw [hselected]
    rfl
  obtain ⟨_, _, hgrow⟩ := growCongestionWindow_frame (s.beforeGrowth shrink ackPacket)
  have hrefilled : (s.refilled shrink ackPacket).itemAt n =
      (s.beforeGrowth shrink ackPacket).itemAt n := by
    change (s.beforeGrowth shrink ackPacket).growCongestionWindow.itemAt n = _
    rw [hgrow]
    rfl
  rw [acked, itemAt_updateNewDataReady,
    itemAt_fill (hseq ▸ hlast) (by rw [hright, hseq]; exact hedge), hright, if_pos hn,
    hrefilled, beforeGrowth, itemAt_slid, itemAt_fastRetransmit, itemAt_selected, hsame,
    leftBound_selected, Option.map_map]
  rfl

/-! ## Repeated acknowledgements -/

/-- Counting up does not overflow before the last number. -/
theorem toInt_add_one {count : Int32} (hlt : count.toInt + 1 < 2 ^ 31) :
    (count + 1).toInt = count.toInt + 1 := by
  have hmin := count.le_toInt
  rw [Int32.toInt_add, show (1 : Int32).toInt = 1 from rfl]
  apply Int.bmod_eq_of_le
  · omega
  · omega

theorem itemAt_leftBound (s : SlideWindowSender) : s.itemAt s.leftBound = s.slideWindow.head? := by
  rw [itemAt, NumberedQueue.lookup_of_le le_rfl, Nat.sub_self, List.head?_eq_getElem?]

/-- An acknowledgement that repeats the left bound sets the first item to be sent again
when it makes the counter reach the threshold, and leaves it alone otherwise. -/
theorem head?_acked (hinv : SenderInv t s) (ht : t.InRange)
    (hcum : ackPacket.cumulativeSeqNum = s.slideWindowLeftBoundSeqNum)
    (hitem : s.slideWindow.head? = some item) (hflight : item.isInFlight = true) :
    (s.acked t.shrink ackPacket).slideWindow.head? =
      some (if s.retransmits ackPacket then { item with state := .timeout } else item) := by
  have hlast := hinv.toNat_lastPacketSeqNum ht
  have hedge := hinv.rightEdge_le
  have hlt := ht.lt
  have hleft : ackPacket.cumulativeSeqNum.toNat = s.leftBound := congrArg UInt32.toNat hcum
  rw [← itemAt_leftBound] at hitem
  have hright := (itemAt_bounds hitem).2
  have hkept : (s.acked t.shrink ackPacket).leftBound = s.leftBound := by
    rw [leftBound_acked t.shrink (by omega), hleft, max_self]
  -- the acknowledgement does not name the first item, or its selective field is ignored
  have hselected : ¬ (ackPacket.cumulativeSeqNum ≠ ackPacket.selectiveSeqNum ∧
      s.leftBound = ackPacket.selectiveSeqNum.toNat) := by
    rintro ⟨hne, hsel⟩
    exact hne (UInt32.toNat_inj.mp (hleft.trans hsel))
  rw [← itemAt_leftBound, hkept,
    itemAt_acked_of_lt t.shrink (by omega) (by omega) (by omega) hright,
    if_neg (by omega), hitem, Option.map_some, SlideWindowSenderItem.markAcked]
  simp only [if_neg hselected, hflight, and_self, and_true]

/-- An acknowledgement that repeats the left bound counts up. -/
theorem step_repeat (hinv : SenderInv t s) (ht : t.InRange) (hfast : t.fastRetransmission = true)
    (hcum : ackPacket.cumulativeSeqNum = s.slideWindowLeftBoundSeqNum) :
    t.sender.step (.ackArrived ackPacket) s = some (s.acked t.shrink ackPacket) ∧
      (s.acked t.shrink ackPacket).slideWindowLeftBoundSeqNum = s.slideWindowLeftBoundSeqNum ∧
      (s.acked t.shrink ackPacket).lastAckAckedCount = s.lastAckAckedCount + 1 ∧
      s.retransmits ackPacket = decide (s.lastAckAckedCount + 1 = 2) := by
  have hleft : ackPacket.cumulativeSeqNum.toNat = s.leftBound := congrArg UInt32.toNat hcum
  have hle : ackPacket.cumulativeSeqNum.toNat ≤ s.rightEdge := by
    rw [hleft]
    exact s.leftBound_le_rightEdge
  have hflag : s.fastRetransmission = true := by
    rw [← hfast]
    exact congrArg (·.2.2.2.2) hinv.params
  have hlast : s.lastAck = ackPacket.cumulativeSeqNum := by
    rw [← UInt32.toNat_inj, hinv.lastAck hfast, hleft]
  refine ⟨?_, ?_, ?_, ?_⟩
  · change s.perform t.shrink (.ackArrived ackPacket) = _
    rw [perform, ackArrived_eq (hinv.numbered ht) hle]
    exact if_pos hle
  · have hkept := leftBound_acked t.shrink hle
    rw [hleft, max_self] at hkept
    exact UInt32.toNat_inj.mp hkept
  · rw [lastAckAckedCount_acked, countAfter, if_pos hflag, if_pos hlast]
  · rw [retransmits, hflag, hlast, decide_eq_true rfl]
    rfl

/-- With a sendable item at the left bound there is data to send. -/
theorem hasDataToSend_of_head (hinv : SenderInv t s) (hready : s.ReadyFlagOk)
    (hitem : s.itemAt s.leftBound = some item) (hsend : item.isSendable = true) :
    s.hasDataToSend = true := by
  have hwindow := hinv.congestion.windowMin
  have hfinished : s.finished = false := by
    refine Bool.eq_false_iff.mpr fun hfinished => ?_
    have hright := (itemAt_bounds hitem).2
    have hedge := hinv.rightEdge_le
    have hall := (hinv.finished_iff.mp hfinished).1
    omega
  have hmem : item ∈ s.slideWindow.take s.curCongestionWindow.toNat := by
    rw [itemAt_leftBound] at hitem
    apply List.mem_of_mem_head?
    rw [List.head?_take, if_neg (by omega), hitem]
    exact rfl
  rw [hasDataToSend, hfinished, hready item hmem hsend]
  rfl

/-- What the first item being set to be sent again leads to. -/
theorem sends_first (hinv : SenderInv t s) (hready : s.ReadyFlagOk)
    (hitem : s.slideWindow.head? = some item) (hstate : item.state = .timeout) :
    s.hasDataToSend = true ∧ ∀ now, ∃ packets s', s.prepareDataPacketsToSend false now =
      .ok (packets, s') ∧ ∃ packet ∈ packets, packet.seqNum = s.slideWindowLeftBoundSeqNum := by
  have hwindow := hinv.congestion.windowMin
  have hsend : item.isSendable = true := by simp [SlideWindowSenderItem.isSendable, hstate]
  rw [← itemAt_leftBound] at hitem
  refine ⟨hasDataToSend_of_head hinv hready hitem hsend,
    fun now => ⟨_, _, prepareDataPacketsToSend_release now s, ?_⟩⟩
  refine ⟨_, mem_preparedPackets_iff.mpr ⟨_, item, hitem, by omega, hsend, rfl⟩, ?_⟩
  rw [toDataPacket, (hinv.items _ item hitem).seqNum, leftBound, UInt32.ofNat_toNat]

/-- **Repeated acknowledgements resend the first packet.** When the first item of the
window is in flight, the acknowledgements that repeat the left bound and bring the
counter to two set it to be sent again, whatever they acknowledge selectively; the
sender has data to send then, and its next round returns the packet. -/
theorem duplicate_acks_resend {ackPackets : List AckPacket} (ht : t.InRange)
    (hreach : t.sender.Reachable s) (hfast : t.fastRetransmission = true)
    (hitem : s.slideWindow.head? = some item) (hstate : item.state = .sent ∨ item.state = .resent)
    (hrepeat : ∀ ackPacket ∈ ackPackets,
      ackPacket.cumulativeSeqNum = s.slideWindowLeftBoundSeqNum)
    (hne : ackPackets ≠ [])
    (hcount : s.lastAckAckedCount.toInt + ackPackets.length = 2) :
    ∃ s', t.sender.run (ackPackets.map .ackArrived) s = some s' ∧
      s'.slideWindow.head? = some { item with state := .timeout } ∧
      s'.hasDataToSend = true ∧
      ∀ now, ∃ packets s'', s'.prepareDataPacketsToSend false now = .ok (packets, s'') ∧
        ∃ packet ∈ packets, packet.seqNum = s.slideWindowLeftBoundSeqNum := by
  induction ackPackets generalizing s with
  | nil => exact absurd rfl hne
  | cons ackPacket ackPackets ih =>
    have hinv := SenderInv.of_reachable ht hreach
    have hcum := hrepeat ackPacket List.mem_cons_self
    obtain ⟨hstep, hleft, hcounted, hretransmits⟩ := step_repeat hinv ht hfast hcum
    have hhead := head?_acked hinv ht hcum hitem (SlideWindowSenderItem.isInFlight_iff.mpr hstate)
    rw [List.length_cons] at hcount
    have hsucc : (s.lastAckAckedCount + 1).toInt = s.lastAckAckedCount.toInt + 1 :=
      toInt_add_one (by omega)
    have hrun : t.sender.run ((ackPacket :: ackPackets).map .ackArrived) s =
        t.sender.run (ackPackets.map .ackArrived) (s.acked t.shrink ackPacket) := by
      rw [List.map_cons, TransitionSystem.run, hstep]
      rfl
    rw [hrun]
    cases ackPackets with
    | nil =>
      -- this one makes the counter reach the threshold
      have htwo : s.lastAckAckedCount + 1 = 2 := by
        rw [← Int32.toInt_inj, hsucc]
        exact hcount
      rw [hretransmits, htwo] at hhead
      have hsends := sends_first (hinv.step ht hstep) (.step hstep) hhead rfl
      rw [hleft] at hsends
      exact ⟨_, rfl, hhead, hsends⟩
    | cons next rest =>
      have hbelow : ¬ s.lastAckAckedCount + 1 = 2 := by
        intro htwo
        rw [htwo, show (2 : Int32).toInt = 2 from rfl] at hsucc
        rw [List.length_cons] at hcount
        omega
      rw [hretransmits, decide_eq_false hbelow] at hhead
      rw [← hleft] at hrepeat ⊢
      refine ih (hreach.step hstep) hhead (fun ack hmem => ?_) (List.cons_ne_nil _ _) ?_
      · exact hrepeat ack (List.mem_cons_of_mem _ hmem)
      · rw [hcounted, hsucc]
        omega

/-- Two acknowledgements that something else arrived resend the only packet. -/
theorem duplicate_acks_resend_oneByte : ∃ s',
    Transfer.oneByte.sender.run
        [.ackArrived ⟨.regular, 0, 0, ⟨0, 0⟩⟩, .ackArrived ⟨.regular, 0, 0, ⟨0, 0⟩⟩]
        (Transfer.oneByte.sender.endOf [.prepareDataPacketsToSend ⟨0, 0⟩]) = some s' ∧
      s'.slideWindow.head? = some ⟨0, .timeout, ⟨0, 0⟩, 1, [7]⟩ ∧ s'.hasDataToSend = true := by
  have hitem : (Transfer.oneByte.sender.endOf
      [.prepareDataPacketsToSend ⟨0, 0⟩]).slideWindow.head? =
        some ⟨0, .sent, ⟨0, 0⟩, 1, [7]⟩ := by
    decide +kernel
  have hrepeat : ∀ ackPacket ∈ List.replicate 2 (⟨.regular, 0, 0, ⟨0, 0⟩⟩ : AckPacket),
      ackPacket.cumulativeSeqNum = (Transfer.oneByte.sender.endOf
        [.prepareDataPacketsToSend ⟨0, 0⟩]).slideWindowLeftBoundSeqNum := by
    rw [List.forall_mem_replicate]
    exact .inr (by decide +kernel)
  obtain ⟨s', hrun, hhead, hready, -⟩ := duplicate_acks_resend Transfer.oneByte_inRange
    (Transfer.oneByte.sender.reachable_endOf [.prepareDataPacketsToSend ⟨0, 0⟩]) rfl hitem
    (.inl rfl) hrepeat (List.cons_ne_nil _ _) (by decide +kernel)
  exact ⟨s', hrun, hhead, hready⟩

end SlideWindowSender

end ReliablePacket
