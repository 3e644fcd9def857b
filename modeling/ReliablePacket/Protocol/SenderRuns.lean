/-
# Runs of the sender alone

The sender as a system of its own. Its operations come in any order, with any
clock readings and thresholds, and with any acknowledgements whose cumulative
number does not reach past the window; the receiver sends no others.

Two results are about such runs. What has been acknowledged is settled: its item
leaves the window or stays marked, and no later round sends it. And the flag that
says there is something to send is never clear while an item inside the
congestion window waits, because every operation ends by looking at those items
or by sending them all.
-/
import ReliablePacket.Protocol.SenderInvariant
import ReliablePacket.Semantics.Transition

set_option autoImplicit false

namespace ReliablePacket

open NumberedQueue

namespace SlideWindowSender

/-! ## The operations as a system -/

/-- The operations of a sender, each with what it is given. -/
inductive Operation
  | prepareDataPacketsToSend (now : Timeval)
  | checkTimeout (timeoutThresholdUs : UInt64) (now : Timeval)
  | ackArrived (ackPacket : AckPacket)
  deriving DecidableEq

/-- One operation. A cumulative number may not exceed the end of the window. -/
def perform (shrink : CongestionShrink) : Operation → SlideWindowSender → Option SlideWindowSender
  | .prepareDataPacketsToSend now, s =>
    (s.prepareDataPacketsToSend false now).toOption.map (·.2)
  | .checkTimeout timeoutThresholdUs now, s =>
    (s.checkTimeout shrink false timeoutThresholdUs now).toOption
  | .ackArrived ackPacket, s =>
    if ackPacket.cumulativeSeqNum.toNat ≤
        s.slideWindowLeftBoundSeqNum.toNat + s.slideWindow.length then
      (s.ackArrived shrink false ackPacket).toOption
    else none

end SlideWindowSender

/-- The sender of a transfer. -/
def Transfer.sender (t : Transfer) :
    TransitionSystem SlideWindowSender SlideWindowSender.Operation where
  init := .new t.fileToSend t.bytesToSend t.fastRetransmission
  step := SlideWindowSender.perform t.shrink

namespace SlideWindowSender

variable {t : Transfer} {s s' : SlideWindowSender} {op : Operation} {ops : List Operation}
variable {item : SlideWindowSenderItem} {n : ℕ} {seqNum : UInt32}
variable {ackPacket : AckPacket} {shrink : CongestionShrink} {now : Timeval}
variable {timeoutThresholdUs : UInt64} {packets : List (DataPacket ItemData)}

/-- **Everything one operation can do**, in a state that satisfies the invariant. -/
theorem step_cases (h : SenderInv t s) (ht : t.InRange) (hstep : t.sender.step op s = some s') :
    (∃ now, op = .prepareDataPacketsToSend now ∧ s' = s.prepared now) ∨
      (∃ timeoutThresholdUs now, op = .checkTimeout timeoutThresholdUs now ∧
        s' = s.timeoutChecked t.shrink timeoutThresholdUs now) ∨
      (∃ ackPacket, op = .ackArrived ackPacket ∧
        ackPacket.cumulativeSeqNum.toNat ≤ s.rightEdge ∧ s' = s.acked t.shrink ackPacket) := by
  change s.perform t.shrink op = some s' at hstep
  cases op with
  | prepareDataPacketsToSend now =>
    rw [perform, prepareDataPacketsToSend_release] at hstep
    cases hstep
    exact .inl ⟨now, rfl, rfl⟩
  | checkTimeout timeoutThresholdUs now =>
    rw [perform, checkTimeout_release] at hstep
    cases hstep
    exact .inr (.inl ⟨timeoutThresholdUs, now, rfl, rfl⟩)
  | ackArrived ackPacket =>
    rw [perform] at hstep
    split_ifs at hstep with hcum
    rw [ackArrived_eq (h.numbered ht) hcum] at hstep
    cases hstep
    exact .inr (.inr ⟨ackPacket, rfl, hcum, rfl⟩)

end SlideWindowSender

namespace SenderInv

variable {t : Transfer} {s s' : SlideWindowSender} {op : SlideWindowSender.Operation}

/-- Every operation keeps the invariant. -/
theorem step (h : SenderInv t s) (ht : t.InRange) (hstep : t.sender.step op s = some s') :
    SenderInv t s' := by
  rcases SlideWindowSender.step_cases h ht hstep with
    ⟨now, -, rfl⟩ | ⟨thr, now, -, rfl⟩ | ⟨ack, -, hcum, rfl⟩
  · exact h.prepared
  · exact h.timeoutChecked ht
  · exact h.acked ht hcum

/-- **The sender's invariant holds in every reachable state.** -/
theorem of_reachable (ht : t.InRange) (hreach : t.sender.Reachable s) : SenderInv t s :=
  hreach.invariant (.new ht) fun _ _ _ h hstep => h.step ht hstep

end SenderInv

namespace SlideWindowSender

variable {t : Transfer} {s s' : SlideWindowSender} {op : Operation} {ops : List Operation}
variable {item : SlideWindowSenderItem} {n : ℕ} {seqNum : UInt32}
variable {ackPacket : AckPacket} {shrink : CongestionShrink} {now : Timeval}
variable {timeoutThresholdUs : UInt64} {packets : List (DataPacket ItemData)}

/-! ## Acknowledged packets -/

/-- Processing the acknowledgement in this state acknowledges packet `seqNum`. -/
def Acknowledges (ackPacket : AckPacket) (seqNum : UInt32) (s : SlideWindowSender) : Prop :=
  seqNum < ackPacket.cumulativeSeqNum ∨
    ackPacket.selectiveSeqNum = seqNum ∧ ackPacket.selectiveSeqNum ≠ ackPacket.cumulativeSeqNum ∧
      ∃ item ∈ s.slideWindow, item.seqNum = seqNum

/-- Number `n` is done with: it has left the window or is marked acknowledged. -/
def Settled (n : ℕ) (s : SlideWindowSender) : Prop :=
  n < s.leftBound ∨ ∃ item, s.itemAt n = some item ∧ item.state = .acked

namespace Settled

theorem prepared (h : s.Settled n) : (s.prepared now).Settled n := by
  rcases h with hlt | ⟨item, hitem, hacked⟩
  · exact .inl hlt
  · refine .inr ⟨_, by rw [itemAt_prepared, hitem]; rfl, ?_⟩
    split_ifs
    · exact SlideWindowSenderItem.markIfSendable_acked_iff.mpr hacked
    · exact hacked

theorem timeoutChecked (h : s.Settled n) :
    (s.timeoutChecked shrink timeoutThresholdUs now).Settled n := by
  rcases h with hlt | ⟨item, hitem, hacked⟩
  · exact .inl (by rw [leftBound_timeoutChecked]; exact hlt)
  · refine .inr ⟨_, by rw [itemAt_timeoutChecked, hitem]; rfl, ?_⟩
    exact SlideWindowSenderItem.markIfExpired_acked_iff.mpr hacked

/-- An acknowledgement keeps what is settled and settles what it acknowledges. -/
theorem acked (h : SenderInv t s) (ht : t.InRange)
    (hcum : ackPacket.cumulativeSeqNum.toNat ≤ s.rightEdge)
    (hsettled : s.Settled n ∨ n < ackPacket.cumulativeSeqNum.toNat ∨
      ackPacket.selectiveSeqNum.toNat = n ∧
        ackPacket.cumulativeSeqNum ≠ ackPacket.selectiveSeqNum ∧ n < s.rightEdge) :
    (s.acked shrink ackPacket).Settled n := by
  have hlast := h.toNat_lastPacketSeqNum ht
  have hedge := h.rightEdge_le
  have hlt := ht.lt
  have hleft := leftBound_acked shrink hcum
  obtain ⟨retransmit, hitem⟩ := itemAt_acked shrink hcum (by omega) (by omega)
  rw [Settled, hleft]
  -- either the window slides past `n`, or its item is marked or stays marked
  by_cases hpassed : n < max s.leftBound ackPacket.cumulativeSeqNum.toNat
  · exact .inl hpassed
  · have hmarked : ∃ item, s.itemAt n = some item ∧ (item.state = .acked ∨
        ackPacket.cumulativeSeqNum ≠ ackPacket.selectiveSeqNum ∧
          n = ackPacket.selectiveSeqNum.toNat) := by
      rcases hsettled with (hold | ⟨item, hold, hacked⟩) | hbelow | ⟨rfl, hne, hright⟩
      · omega
      · exact ⟨item, hold, .inl hacked⟩
      · omega
      · obtain ⟨item, hold⟩ := exists_itemAt_iff.mpr ⟨by omega, hright⟩
        exact ⟨item, hold, .inr ⟨hne, rfl⟩⟩
    obtain ⟨item, hold, hstate⟩ := hmarked
    have hright := (itemAt_bounds hold).2
    refine .inr ⟨item.markAcked ackPacket retransmit s.leftBound n, ?_, ?_⟩
    · rw [hitem, if_pos hright, if_neg (by omega), hold]
      rfl
    · exact SlideWindowSenderItem.markAcked_acked_iff.mpr hstate

/-- No operation makes a settled number unsettled. -/
theorem step (hsettled : s.Settled n) (h : SenderInv t s) (ht : t.InRange)
    (hstep : t.sender.step op s = some s') : s'.Settled n := by
  rcases step_cases h ht hstep with ⟨now, -, rfl⟩ | ⟨thr, now, -, rfl⟩ | ⟨ack, -, hcum, rfl⟩
  · exact hsettled.prepared
  · exact hsettled.timeoutChecked
  · exact acked h ht hcum (.inl hsettled)

theorem run (hsettled : s.Settled n) (ht : t.InRange) (hreach : t.sender.Reachable s)
    (hrun : t.sender.run ops s = some s') : s'.Settled n :=
  hreach.stable (fun _ _ _ hu h hstep => h.step (.of_reachable ht hu) ht hstep) hsettled hrun

/-- A sending round returns no settled packet. -/
theorem seqNum_ne (hsettled : s.Settled seqNum.toNat) (h : SenderInv t s) (ht : t.InRange)
    {packet : DataPacket ItemData} (hmem : packet ∈ s.preparedPackets now) :
    packet.seqNum ≠ seqNum := by
  obtain ⟨n, item, hitem, -, hsend, rfl⟩ := mem_preparedPackets_iff.mp hmem
  obtain ⟨hleft, hright⟩ := itemAt_bounds hitem
  have hlt := (h.numbered ht).rightEdge_lt
  rintro rfl
  have hn : (s.toDataPacket now item).seqNum.toNat = n := by
    rw [toDataPacket, (h.items n item hitem).seqNum, toNat_ofNat (by omega)]
  rw [hn] at hsettled
  rcases hsettled with hpassed | ⟨item', hitem', hacked⟩
  · omega
  · rw [hitem] at hitem'
    cases hitem'
    simp [SlideWindowSenderItem.isSendable, hacked] at hsend

end Settled

theorem Acknowledges.settled (hack : s.Acknowledges ackPacket seqNum) (h : SenderInv t s)
    (ht : t.InRange) (hcum : ackPacket.cumulativeSeqNum.toNat ≤ s.rightEdge) :
    (s.acked shrink ackPacket).Settled seqNum.toNat := by
  refine .acked h ht hcum (.inr ?_)
  rcases hack with hbelow | ⟨rfl, hne, item, hmem, hseq⟩
  · exact .inl hbelow
  · -- the selective field names an item of the window
    obtain ⟨n, hitem⟩ := mem_iff_itemAt.mp hmem
    have hright := (itemAt_bounds hitem).2
    have hlt := (h.numbered ht).rightEdge_lt
    refine .inr ⟨rfl, hne.symm, ?_⟩
    rw [← hseq, (h.items n item hitem).seqNum, toNat_ofNat (by omega)]
    exact hright

/-- The items of a numbered window have different numbers. -/
theorem Numbered.nodup_seqNum (h : s.Numbered) : (s.slideWindow.map (·.seqNum)).Nodup := by
  have hlt := h.rightEdge_lt
  rw [rightEdge] at hlt
  rw [List.Nodup, List.pairwise_map, List.pairwise_iff_getElem]
  intro i j hi hj hij heq
  have hat : ∀ k (hk : k < s.slideWindow.length),
      s.slideWindow[k].seqNum.toNat = s.leftBound + k := by
    intro k hk
    rw [h.seqNum_getElem? (List.getElem?_eq_getElem hk), add_ofNat, leftBound,
      toNat_ofNat (by rw [leftBound] at hlt; omega)]
  have hsame := congrArg UInt32.toNat heq
  rw [hat i hi, hat j hj] at hsame
  omega

/-- One sending round returns every packet at most once. -/
theorem Numbered.nodup_preparedPackets (h : s.Numbered) :
    ((s.preparedPackets now).map (·.seqNum)).Nodup := by
  have hsub : ((s.slideWindow.take s.curCongestionWindow.toNat).filter (·.isSendable)).Sublist
      s.slideWindow :=
    List.filter_sublist.trans (List.take_sublist _ _)
  have hseq : (s.preparedPackets now).map (·.seqNum) =
      ((s.slideWindow.take s.curCongestionWindow.toNat).filter (·.isSendable)).map (·.seqNum) := by
    rw [preparedPackets, List.map_map]
    rfl
  rw [hseq]
  exact (hsub.map _).nodup h.nodup_seqNum

/-- **Acknowledged packets are never sent again.** After an acknowledgement has been
processed, no round of any continuation returns a packet it acknowledged; and no
round returns a packet twice. -/
theorem acknowledged_not_resent (ht : t.InRange) (hreach : t.sender.Reachable s) :
    (∀ now packets s', s.prepareDataPacketsToSend false now = .ok (packets, s') →
        (packets.map (·.seqNum)).Nodup) ∧
      ∀ ackPacket seqNum s₁ ops s₂ now packets s₃,
        t.sender.step (.ackArrived ackPacket) s = some s₁ → s.Acknowledges ackPacket seqNum →
          t.sender.run ops s₁ = some s₂ →
          s₂.prepareDataPacketsToSend false now = .ok (packets, s₃) →
          ∀ packet ∈ packets, packet.seqNum ≠ seqNum := by
  have h : SenderInv t s := .of_reachable ht hreach
  refine ⟨fun now packets s' hprepare => ?_,
    fun ackPacket seqNum s₁ ops s₂ now packets s₃ hstep hack hrun hprepare => ?_⟩
  · rw [prepareDataPacketsToSend_release] at hprepare
    cases hprepare
    exact (h.numbered ht).nodup_preparedPackets
  · have hreach₁ := hreach.step hstep
    have hsettled : s₁.Settled seqNum.toNat := by
      rcases step_cases h ht hstep with ⟨_, hop, -⟩ | ⟨_, _, hop, -⟩ | ⟨ack, hop, hcum, rfl⟩
      · cases hop
      · cases hop
      · cases hop
        exact hack.settled h ht hcum
    rw [prepareDataPacketsToSend_release] at hprepare
    cases hprepare
    exact fun packet => (hsettled.run ht hreach₁ hrun).seqNum_ne
      (.of_reachable ht (hreach₁.run hrun)) ht

/-- Packet 1 is acknowledged out of order and both packets time out. -/
def outOfOrderRun : List Operation :=
  [.prepareDataPacketsToSend ⟨0, 0⟩, .ackArrived ⟨.regular, 0, 1, ⟨0, 0⟩⟩,
    .checkTimeout 0 ⟨1, 0⟩]

/-- The next round sends packet 0 again and packet 1 not. -/
theorem acknowledged_not_resent_outOfOrderRun :
    ∃ s packets s', Transfer.twoPackets.sender.Reachable s ∧
      s.prepareDataPacketsToSend false ⟨2, 0⟩ = .ok (packets, s') ∧
      packets.map (·.seqNum) = [0] ∧ ∀ packet ∈ packets, packet.seqNum ≠ 1 := by
  have hsent : Transfer.twoPackets.sender.Reachable
      (Transfer.twoPackets.sender.endOf (outOfOrderRun.take 1)) :=
    Transfer.twoPackets.sender.reachable_endOf _
  have hack : ((Transfer.twoPackets.sender.step (.ackArrived ⟨.regular, 0, 1, ⟨0, 0⟩⟩)
      (Transfer.twoPackets.sender.endOf (outOfOrderRun.take 1))).bind fun s =>
        (Transfer.twoPackets.sender.run [.checkTimeout 0 ⟨1, 0⟩] s).map fun s =>
          (s.preparedPackets ⟨2, 0⟩).map (·.seqNum)) = some [0] := by
    decide +kernel
  obtain ⟨s₁, hstep, hrest⟩ := Option.bind_eq_some_iff.mp hack
  obtain ⟨s₂, hrun, hpackets⟩ := Option.map_eq_some_iff.mp hrest
  refine ⟨s₂, s₂.preparedPackets ⟨2, 0⟩, s₂.prepared ⟨2, 0⟩, (hsent.step hstep).run hrun,
    prepareDataPacketsToSend_release _ s₂, hpackets, ?_⟩
  refine (acknowledged_not_resent Transfer.twoPackets_inRange hsent).2 _ 1 s₁ _ s₂ _ _ _ hstep
    (.inr ⟨rfl, by decide, ?_⟩) hrun (prepareDataPacketsToSend_release _ s₂)
  exact List.any_eq_true.mp (by decide +kernel :
    (Transfer.twoPackets.sender.endOf (outOfOrderRun.take 1)).slideWindow.any
      (·.seqNum = 1) = true) |>.imp fun _ h => ⟨h.1, of_decide_eq_true h.2⟩

/-! ## The readiness flag -/

/-- A sendable item inside the congestion window keeps the flag set. -/
def ReadyFlagOk (s : SlideWindowSender) : Prop :=
  ∀ item ∈ s.slideWindow.take s.curCongestionWindow.toNat,
    item.isSendable = true → s.newDataReady = true

theorem readyFlagOk_updateNewDataReady (s : SlideWindowSender) :
    s.updateNewDataReady.ReadyFlagOk := by
  intro item hmem hsend
  exact Bool.or_eq_true_iff.mpr (.inr (List.any_eq_true.mpr ⟨item, hmem, hsend⟩))

/-- A sending round leaves nothing to send inside the congestion window. -/
theorem readyFlagOk_prepared (s : SlideWindowSender) : (s.prepared now).ReadyFlagOk := by
  intro item hmem hsend
  -- the loop has marked everything inside the congestion window
  have hfront : (s.prepared now).slideWindow.take s.curCongestionWindow.toNat =
      (s.slideWindow.take s.curCongestionWindow.toNat).map (·.markIfSendable now) := by
    change (_ ++ s.slideWindow.drop s.curCongestionWindow.toNat).take _ = _
    rw [List.take_append, ← List.map_take, List.take_take, Nat.min_self, List.length_map,
      List.length_take]
    by_cases hshort : s.slideWindow.length ≤ s.curCongestionWindow.toNat
    · rw [List.drop_eq_nil_of_le hshort, List.take_nil, List.append_nil]
    · rw [Nat.min_eq_left (by omega), Nat.sub_self, List.take_zero, List.append_nil]
  change item ∈ (s.prepared now).slideWindow.take s.curCongestionWindow.toNat at hmem
  rw [hfront] at hmem
  obtain ⟨old, -, rfl⟩ := List.mem_map.mp hmem
  rw [SlideWindowSenderItem.isSendable_markIfSendable] at hsend
  cases hsend

theorem ReadyFlagOk.step (hstep : t.sender.step op s = some s') : s'.ReadyFlagOk := by
  change s.perform t.shrink op = some s' at hstep
  cases op with
  | prepareDataPacketsToSend now =>
    rw [perform, prepareDataPacketsToSend_release] at hstep
    cases hstep
    exact readyFlagOk_prepared s
  | checkTimeout timeoutThresholdUs now =>
    rw [perform, checkTimeout_release] at hstep
    cases hstep
    exact readyFlagOk_updateNewDataReady _
  | ackArrived ackPacket =>
    rw [perform] at hstep
    split_ifs at hstep
    cases hack : s.ackArrived t.shrink false ackPacket with
    | error fault => rw [hack] at hstep; cases hstep
    | ok s₁ =>
      rw [hack] at hstep
      cases hstep
      -- whatever the stages before it do, the traversal comes last
      obtain ⟨_, s₂, -, -, rfl⟩ := ackArrived_stages hack
      exact readyFlagOk_updateNewDataReady _

/-- **The cached flag never hides work.** As long as the transfer is not finished and
some item inside the congestion window waits to be sent, `hasDataToSend` holds. -/
theorem hasDataToSend_of_sendable (hreach : t.sender.Reachable s)
    (hmem : item ∈ s.slideWindow.take (min s.curCongestionWindow.toNat s.slideWindow.length))
    (hstate : item.state = .notSent ∨ item.state = .timeout) (hfinished : s.finished = false) :
    s.hasDataToSend = true := by
  have hflag : s.ReadyFlagOk := by
    refine hreach.invariant ?_ fun _ _ _ _ hstep => .step hstep
    exact fun _ _ _ => rfl
  have hready : s.newDataReady = true := by
    refine hflag item ?_ ?_
    · rw [← List.take_take, List.take_length] at hmem
      exact hmem
    · rw [SlideWindowSenderItem.isSendable, Bool.or_eq_true, decide_eq_true_iff,
        decide_eq_true_iff]
      exact hstate
  rw [hasDataToSend, hfinished, hready]
  rfl

/-- A packet that timed out is found although nothing else happened. -/
theorem hasDataToSend_of_sendable_oneByte :
    (Transfer.oneByte.sender.endOf
      [.prepareDataPacketsToSend ⟨0, 0⟩, .checkTimeout 0 ⟨1, 0⟩]).hasDataToSend = true := by
  have hreach := Transfer.oneByte.sender.reachable_endOf
    [.prepareDataPacketsToSend ⟨0, 0⟩, .checkTimeout 0 ⟨1, 0⟩]
  have hmem : (⟨0, .timeout, ⟨0, 0⟩, 1, [7]⟩ : SlideWindowSenderItem) ∈
      (Transfer.oneByte.sender.endOf [.prepareDataPacketsToSend ⟨0, 0⟩,
        .checkTimeout 0 ⟨1, 0⟩]).slideWindow.take 1 := by
    decide +kernel
  exact hasDataToSend_of_sendable hreach hmem (.inr rfl) (by decide +kernel)

end SlideWindowSender

end ReliablePacket
