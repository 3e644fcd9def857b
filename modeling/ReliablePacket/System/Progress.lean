/-
# One round makes progress

The item at the left bound is never acknowledged, because no acknowledgement
names a packet whose number another acknowledgement carries as the lowest missing
one. So after a timeout the packet at the left bound is sent again, the reply to
it carries a larger cumulative number whether or not the receiver had it already,
and that reply moves the left bound.
-/
import ReliablePacket.System.Agreement

set_option autoImplicit false

namespace ReliablePacket

open SlideWindowSender

variable {t : Transfer} {sys : System} {item : SlideWindowSenderItem} {now : Timeval}
variable {timeoutThresholdUs : UInt64} {n : ℕ}

/-- After a sweep that finds every item in flight too old, an item that is not
acknowledged can be sent. -/
theorem SlideWindowSenderItem.isSendable_markIfExpired (hacked : item.state ≠ .acked)
    (hold : item.isInFlight = true → timeoutThresholdUs < getElapsedUs item.lastSentTime now) :
    (item.markIfExpired timeoutThresholdUs now).isSendable = true := by
  simp only [markIfExpired]
  split_ifs with hexp
  · rfl
  · simp only [hasExpired] at hexp
    -- an item that did not expire is not in flight, so it is sendable as it was
    cases hstate : item.state with
    | notSent => simp [isSendable, hstate]
    | timeout => simp [isSendable, hstate]
    | acked => exact absurd hstate hacked
    | sent =>
      have hflight : item.isInFlight = true := by simp [isInFlight, hstate]
      exact absurd (by simp [hflight, hold hflight]) hexp
    | resent =>
      have hflight : item.isInFlight = true := by simp [isInFlight, hstate]
      exact absurd (by simp [hflight, hold hflight]) hexp

/-- A sendable item inside the congestion window sets the flag. -/
theorem SlideWindowSender.newDataReady_updateNewDataReady {s : SlideWindowSender}
    (hitem : s.itemAt n = some item) (hn : n < s.leftBound + s.curCongestionWindow.toNat)
    (hsend : item.isSendable = true) : s.updateNewDataReady.newDataReady = true := by
  have hle := (itemAt_bounds hitem).1
  rw [itemAt, NumberedQueue.lookup_of_le hle] at hitem
  have hmem : item ∈ s.slideWindow.take s.curCongestionWindow.toNat := by
    refine List.mem_iff_getElem?.mpr ⟨n - s.leftBound, ?_⟩
    rw [List.getElem?_take_of_lt (by omega), hitem]
  have hany : (s.slideWindow.take s.curCongestionWindow.toNat).any (·.isSendable) = true :=
    List.any_eq_true.mpr ⟨item, hmem, hsend⟩
  change (s.newDataReady || _) = true
  rw [hany, Bool.or_true]

namespace System.Inv

/-- **The head of the window waits for an acknowledgement.** While the sender is not
finished, the item at the left bound exists and is not acknowledged. -/
theorem exists_head (h : sys.Inv t) (hlong : t.LongEnough)
    (hsender : sys.sender.finished = false) :
    ∃ item, sys.sender.itemAt sys.sender.leftBound = some item ∧ item.state ≠ .acked := by
  have hleft : sys.sender.leftBound < t.packets := by
    refine h.sender.leftBound_le.lt_of_ne fun heq => ?_
    have hfinished := h.sender.finished_iff.mpr ⟨heq, fun k hk => hlong.length_packetData hk⟩
    rw [hsender] at hfinished
    cases hfinished
  have hfilled := h.sender.filled
  have hwindow := h.sender.congestion.windowMin
  obtain ⟨item, hitem⟩ := exists_itemAt_iff.mpr
    ⟨le_refl sys.sender.leftBound, by omega⟩
  -- an acknowledgement that named the left bound would have moved it
  refine ⟨item, hitem, fun hacked => ?_⟩
  obtain ⟨a, hmem, hsel, hne⟩ :=
    System.selectivelyAcked_iff.mp ((h.acked _ item hitem).mp hacked)
  exact hne (h.protocol.inv.base_not_selective hmem hsel)

/-- The reply to the packet at the left bound carries a larger cumulative number. -/
theorem lt_cumulativeSeqNum (h : sys.Inv t) (ht : t.InRange)
    {dataPacket : DataPacket (List UInt8)} (hmem : dataPacket ∈ sys.dataSent)
    (hseq : dataPacket.seqNum.toNat = sys.sender.leftBound) {ret : RetAckPacket}
    {receiver : SlideWindowReceiver}
    (hreceive : sys.receiver.receiveDataPacket false dataPacket = .ok (ret, receiver)) :
    sys.sender.leftBound < ret.cumulativeSeqNum.toNat := by
  obtain ⟨_, _, heq, hinv, hcum, -, -, hcases⟩ :=
    SlideWindowReceiver.receiveDataPacket_cases false h.receiver (h.isData hmem)
  rw [hreceive] at heq
  cases heq
  have hbase := h.base_le_next
  rw [hcum]
  change sys.sender.leftBound < receiver.nextExpected
  rcases hcases with ⟨hout, -, hsame, -⟩ | ⟨-, -, hwritten, -⟩
  · -- out of the buffer means already received, since the range test does not wrap
    have hnext : receiver.nextExpected = sys.receiver.nextExpected := congrArg UInt32.toNat hsame
    have hwrap := h.next_add_lt ht
    have hin := mt h.receiver.outOfBuffer_eq_false_iff.mpr (by rw [hout]; decide)
    rw [hnext]
    omega
  · have hhole := hinv.hole
    rw [hwritten, hseq] at hhole
    -- received before or just now, the number below the hole is passed
    rcases hbase.lt_or_eq with hlt | heq
    · exact hlt.trans_le (h.receiver.hole.le_of_insert hhole)
    · rw [heq] at hhole ⊢
      exact h.receiver.hole.lt_of_insert_self hhole

/-- The reply to the packet at the left bound moves the left bound. -/
theorem reply_advances (h : sys.Inv t) (ht : t.InRange) {dataPacket : DataPacket (List UInt8)}
    (hmem : dataPacket ∈ sys.dataSent)
    (hseq : dataPacket.seqNum.toNat = sys.sender.leftBound) :
    ∃ ackPacket sys', sys.receiveDataPacket dataPacket = some (ackPacket, sys') ∧
      sys.sender.leftBound < ackPacket.cumulativeSeqNum.toNat ∧
      ∃ sys'', t.system.step (.ackArrived ackPacket) sys' = some sys'' ∧
        sys.sender.leftBound < sys''.sender.leftBound := by
  obtain ⟨ret, receiver, hreceive, heq⟩ := System.receiveDataPacket_eq h hmem
  have hcum := h.lt_cumulativeSeqNum ht hmem hseq hreceive
  have h' := h.received hmem hreceive
  have hack : replyAck dataPacket ret ∈ replyAck dataPacket ret :: sys.acksSent :=
    List.mem_cons_self
  refine ⟨_, _, heq, hcum, _, System.step_ackArrived h' ht hack, ?_⟩
  have hleft := leftBound_acked t.shrink (h'.cumulativeSeqNum_le hack)
  exact lt_of_lt_of_eq (lt_max_of_lt_right hcum) hleft.symm

/-- **A full timeout puts the head up for sending.** A sweep that finds the head too
old, or not in flight, makes it sendable and tells `sendData`. -/
theorem timeoutChecked_head (h : sys.Inv t) (ht : t.InRange)
    (hsender : sys.sender.finished = false)
    (hitem : sys.sender.itemAt sys.sender.leftBound = some item) (hacked : item.state ≠ .acked)
    (hold : item.isInFlight = true → timeoutThresholdUs < getElapsedUs item.lastSentTime now) :
    (sys.sender.timeoutChecked t.shrink timeoutThresholdUs now).hasDataToSend = true ∧
      ∃ item', (sys.sender.timeoutChecked t.shrink timeoutThresholdUs now).itemAt
        sys.sender.leftBound = some item' ∧ item'.isSendable = true := by
  set sender₁ := sys.sender.timeoutChecked t.shrink timeoutThresholdUs now with hsender₁
  have h₁ : SenderInv t sender₁ := h.sender.timeoutChecked ht
  have hleft₁ : sender₁.leftBound = sys.sender.leftBound := leftBound_timeoutChecked
  have hitem₁ : sender₁.itemAt sys.sender.leftBound =
      some (item.markIfExpired timeoutThresholdUs now) := by
    rw [hsender₁, itemAt_timeoutChecked, hitem]
    rfl
  have hsend := SlideWindowSenderItem.isSendable_markIfExpired hacked hold
  have hinside : sys.sender.leftBound <
      sender₁.leftBound + sender₁.curCongestionWindow.toNat := by
    have hwindow : 10 ≤ sender₁.curCongestionWindow.toNat := h₁.congestion.windowMin
    omega
  have hready : sender₁.newDataReady = true :=
    newDataReady_updateNewDataReady
      (s := (sys.sender.swept timeoutThresholdUs now).punishTimeout t.shrink
        (sys.sender.someExpired timeoutThresholdUs now)) hitem₁ hinside hsend
  have hunfinished : sender₁.finished = false := by
    -- being finished depends on the left bound and the file only
    by_contra hfinished
    rw [Bool.not_eq_false, h₁.finished_iff, hleft₁, ← h.sender.finished_iff, hsender] at hfinished
    cases hfinished
  refine ⟨?_, _, hitem₁, hsend⟩
  rw [hasDataToSend, hunfinished, hready]
  rfl

/-- A sendable head is prepared and marshalled in the next sending round. -/
theorem prepared_head (now : Timeval) (h : sys.Inv t) (ht : t.InRange)
    (hitem : sys.sender.itemAt sys.sender.leftBound = some item)
    (hsend : item.isSendable = true) :
    t.preparedPacket now sys.sender.leftBound ∈ sys.sender.preparedPackets now ∧
      (sys.sender.prepared now).marshal (t.preparedPacket now sys.sender.leftBound) =
        some (t.wirePacket now sys.sender.leftBound) ∧
      t.wirePacket now sys.sender.leftBound ∈ System.wirePackets t now sys.sender := by
  have hwindow : 10 ≤ sys.sender.curCongestionWindow.toNat := h.sender.congestion.windowMin
  have hpacket : t.preparedPacket now sys.sender.leftBound ∈ sys.sender.preparedPackets now :=
    mem_preparedPackets_iff.mpr
      ⟨_, _, hitem, by omega, hsend, h.sender.toDataPacket_eq hitem⟩
  refine ⟨hpacket, ?_, List.mem_map.mpr ⟨_, hpacket, ?_⟩⟩
  · refine h.sender.prepared.marshal_eq ht ?_ ?_
    · rw [leftBound_prepared]
    · rw [rightEdge_prepared]
      exact (itemAt_bounds hitem).2
  · have hseq : (t.preparedPacket now sys.sender.leftBound).seqNum.toNat =
        sys.sender.leftBound := by
      rw [Transfer.preparedPacket, leftBound, UInt32.ofNat_toNat]
    rw [hseq]

end System.Inv

/-- **One round makes progress.** While the sender is not finished, the head of its
window is not acknowledged; and when all items in flight are older than the
threshold, a timeout sweep, a sending round, the receiver's reply to the packet at
the left bound and the processing of that reply move the left bound. -/
theorem round_advances (ht : t.InRange) (hlong : t.LongEnough) (hreach : t.system.Reachable sys)
    (hsender : sys.sender.finished = false) :
    (∃ item items, sys.sender.slideWindow = item :: items ∧ item.state ≠ .acked) ∧
      ∀ timeoutThresholdUs now,
        (∀ item ∈ sys.sender.slideWindow, item.isInFlight = true →
          timeoutThresholdUs < getElapsedUs item.lastSentTime now) →
        ∃ sys₁, t.system.step (.checkTimeout timeoutThresholdUs now) sys = some sys₁ ∧
          sys₁.sender.hasDataToSend = true ∧
          ∀ now', ∃ packets sys₂, sys₁.prepareDataPacketsToSend now' = some (packets, sys₂) ∧
            ∃ packet ∈ packets, packet.seqNum = sys.sender.slideWindowLeftBoundSeqNum ∧
              ∃ dataPacket, sys₂.sender.marshal packet = some dataPacket ∧
                ∃ sys₃, t.system.step (.prepareDataPacketsToSend now') sys₁ = some sys₃ ∧
                  dataPacket ∈ sys₃.dataSent ∧
                  ∃ ackPacket sys₄,
                    sys₃.receiveDataPacket dataPacket = some (ackPacket, sys₄) ∧
                    sys.sender.slideWindowLeftBoundSeqNum < ackPacket.cumulativeSeqNum ∧
                    ∃ sys₅, t.system.step (.ackArrived ackPacket) sys₄ = some sys₅ ∧
                      sys.sender.slideWindowLeftBoundSeqNum <
                        sys₅.sender.slideWindowLeftBoundSeqNum := by
  have h := System.inv_of_reachable ht hreach
  obtain ⟨item, hitem, hacked⟩ := h.exists_head hlong hsender
  refine ⟨?_, fun timeoutThresholdUs now hexpired => ?_⟩
  · obtain ⟨items, hwindow⟩ := NumberedQueue.exists_cons_of_lookup_self hitem
    exact ⟨item, items, hwindow, hacked⟩
  -- the sweep makes the head sendable and sets the flag
  set sender₁ := sys.sender.timeoutChecked t.shrink timeoutThresholdUs now
  have h₁ : { sys with sender := sender₁ }.Inv t := h.timeoutChecked ht
  have hleft₁ : sender₁.leftBound = sys.sender.leftBound := leftBound_timeoutChecked
  obtain ⟨hready, item₁, hitem₁, hsend⟩ := h.timeoutChecked_head ht hsender hitem hacked
    (hexpired item (mem_iff_itemAt.mpr ⟨_, hitem⟩))
  change sender₁.itemAt _ = _ at hitem₁
  refine ⟨{ sys with sender := sender₁ }, System.checkTimeout_eq h ht, hready, fun now' => ?_⟩
  -- the sending round returns the packet of the head and marshals it
  rw [← hleft₁] at hitem₁
  obtain ⟨hpacket, hmarshal, hwire⟩ := h₁.prepared_head now' ht hitem₁ hsend
  change t.preparedPacket now' sender₁.leftBound ∈ sender₁.preparedPackets now' at hpacket
  have hstep₃ := System.step_prepareDataPacketsToSend now' h₁ ht
  have h₃ := h₁.step ht hstep₃
  have hmem : t.wirePacket now' sender₁.leftBound ∈
      System.wirePackets t now' sender₁ ++ sys.dataSent :=
    List.mem_append_left _ hwire
  have hseq : UInt32.ofNat sender₁.leftBound = sys.sender.slideWindowLeftBoundSeqNum := by
    rw [hleft₁]
    exact UInt32.ofNat_toNat
  have hnum : (t.wirePacket now' sender₁.leftBound).seqNum.toNat = sender₁.leftBound := by
    rw [Transfer.wirePacket, hseq, hleft₁]
    rfl
  -- the reply passes the left bound, and processing it moves the left bound
  obtain ⟨ackPacket, sys₄, hreceive, hcum, sys₅, hstep₅, hadvance⟩ :=
    h₃.reply_advances ht hmem hnum
  change sender₁.leftBound < _ at hcum hadvance
  rw [hleft₁] at hcum hadvance
  exact ⟨_, _, System.prepareDataPacketsToSend_eq h₁ ht, _, hpacket, hseq, _, hmarshal, _,
    hstep₃, hmem, ackPacket, sys₄, hreceive, hcum, sys₅, hstep₅, hadvance⟩

/-- The only packet has been sent and its acknowledgement does not come. A sweep a second
later finds it too old, and one round moves the left bound. -/
theorem round_advances_oneByte :
    ∃ sys₁, Transfer.oneByte.system.step (.checkTimeout 0 ⟨1, 0⟩)
        (Transfer.oneByte.system.endOf [.prepareDataPacketsToSend ⟨0, 0⟩]) = some sys₁ ∧
      sys₁.sender.hasDataToSend = true ∧
      ∃ sys₃, Transfer.oneByte.system.step (.prepareDataPacketsToSend ⟨1, 0⟩) sys₁ = some sys₃ ∧
        ∃ dataPacket ∈ sys₃.dataSent, ∃ ackPacket sys₄,
          sys₃.receiveDataPacket dataPacket = some (ackPacket, sys₄) ∧
          ∃ sys₅, Transfer.oneByte.system.step (.ackArrived ackPacket) sys₄ = some sys₅ ∧
            0 < sys₅.sender.slideWindowLeftBoundSeqNum := by
  have hreach := Transfer.oneByte.system.reachable_endOf [.prepareDataPacketsToSend ⟨0, 0⟩]
  have hleft : (Transfer.oneByte.system.endOf
      [.prepareDataPacketsToSend ⟨0, 0⟩]).sender.slideWindowLeftBoundSeqNum = 0 := by
    decide +kernel
  obtain ⟨sys₁, hsweep, hdata, hround⟩ :=
    (round_advances Transfer.oneByte_inRange (le_refl 1) hreach (by decide +kernel)).2 0 ⟨1, 0⟩
      (by decide +kernel)
  obtain ⟨-, -, -, -, -, -, dataPacket, -, sys₃, hsend, hmem, ackPacket, sys₄, hreceive, -, sys₅,
    hack, hadvance⟩ := hround ⟨1, 0⟩
  rw [hleft] at hadvance
  exact ⟨sys₁, hsweep, hdata, sys₃, hsend, dataPacket, hmem, ackPacket, sys₄, hreceive, sys₅, hack,
    hadvance⟩

end ReliablePacket
