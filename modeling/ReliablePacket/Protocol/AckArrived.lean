/-
# What `ackArrived` does

The stages put together. On an acknowledgement inside the window `ackArrived` does not
fail; the left bound comes to the cumulative number if that is larger, items that stay
keep their numbers, and the window reaches as far as the congestion window or the last
packet allows.
-/
import ReliablePacket.Protocol.AckStages

set_option autoImplicit false

namespace ReliablePacket

open NumberedQueue

namespace SlideWindowSender

variable {s : SlideWindowSender} {debug : Bool}
variable {item : SlideWindowSenderItem} {items : List SlideWindowSenderItem} {n i : ℕ}
variable {ackPacket : AckPacket} {shrink : CongestionShrink}

/-- The state in which `ackArrived` looks whether the congestion window may grow. -/
def beforeGrowth (shrink : CongestionShrink) (ackPacket : AckPacket) (s : SlideWindowSender) :
    SlideWindowSender :=
  ((s.selected ackPacket).fastRetransmit shrink ackPacket).slid ackPacket

/-- The state in which `ackArrived` refills the window. -/
def refilled (shrink : CongestionShrink) (ackPacket : AckPacket) (s : SlideWindowSender) :
    SlideWindowSender :=
  (((s.selected ackPacket).fastRetransmit shrink ackPacket).slid ackPacket).growCongestionWindow

/-- The state after `ackArrived`. -/
def acked (shrink : CongestionShrink) (ackPacket : AckPacket) (s : SlideWindowSender) :
    SlideWindowSender :=
  (s.refilled shrink ackPacket).fill.updateNewDataReady

/-- Operations that keep the numbering keep the items in their places and the
numbers in the items. -/
theorem Numbered.of_map {s' : SlideWindowSender} (h : s.Numbered)
    (hright : s'.rightEdge = s.rightEdge)
    {f : ℕ → SlideWindowSenderItem → SlideWindowSenderItem}
    (hf : ∀ n item, (f n item).seqNum = item.seqNum)
    (hitem : ∀ n, s'.itemAt n = (s.itemAt n).map (f n)) : s'.Numbered where
  seqNum n item hn := by
    rw [hitem, Option.map_eq_some_iff] at hn
    obtain ⟨old, hold, rfl⟩ := hn
    rw [hf, h.seqNum n old hold]
  rightEdge_lt := hright ▸ h.rightEdge_lt

theorem Numbered.selected (h : s.Numbered) : (s.selected ackPacket).Numbered := by
  refine h.of_map rightEdge_selected (fun n item => ?_) itemAt_selected
  split_ifs <;> rfl

/-- **What fast retransmission leaves alone**, and what it does to the items: at most
the first one is set to be sent again. -/
theorem fastRetransmit_frame (shrink : CongestionShrink) (ackPacket : AckPacket)
    (s : SlideWindowSender) :
    (s.fastRetransmit shrink ackPacket).params = s.params ∧
      (s.fastRetransmit shrink ackPacket).bytesSent = s.bytesSent ∧
      (s.fastRetransmit shrink ackPacket).leftBound = s.leftBound ∧
      (s.fastRetransmit shrink ackPacket).rightEdge = s.rightEdge ∧
      ∃ retransmit : Bool, ∀ n, (s.fastRetransmit shrink ackPacket).itemAt n =
        (s.itemAt n).map fun item =>
          if retransmit ∧ n = s.leftBound ∧ item.isInFlight then { item with state := .timeout }
          else item := by
  rcases fastRetransmit_cases shrink ackPacket s with
    ⟨heq, -⟩ | ⟨-, -, -, heq⟩ | ⟨-, -, -, heq⟩ | ⟨-, -, heq⟩
  · rw [heq]
    exact ⟨rfl, rfl, rfl, rfl, false, fun n => by simp⟩
  · rw [heq]
    exact ⟨rfl, rfl, rfl, rfl, false, fun n => by simp [itemAt, leftBound]⟩
  · -- the penalty concerns the congestion variables, so the items are those of the window
    obtain ⟨items, ready, hitems, hlen, hlookup⟩ := timeoutFirstItem_eq
      ({ s with lastAckAckedCount := s.lastAckAckedCount + 1 }.punishDuplicateAck shrink)
    obtain ⟨_, _, _, _, hpun⟩ := punishDuplicateAck_frame shrink
      { s with lastAckAckedCount := s.lastAckAckedCount + 1 }
    rw [hpun] at hitems hlen hlookup
    rw [heq, hpun, hitems]
    refine ⟨rfl, rfl, rfl, congrArg (s.leftBound + ·) hlen, true, fun n => ?_⟩
    refine (hlookup n).trans ?_
    simp only [true_and]
    rfl
  · rw [heq]
    exact ⟨rfl, rfl, rfl, rfl, false, fun n => by simp [itemAt, leftBound]⟩

theorem Numbered.fastRetransmit (h : s.Numbered) :
    (s.fastRetransmit shrink ackPacket).Numbered := by
  obtain ⟨-, -, -, hright, retransmit, hitem⟩ := fastRetransmit_frame shrink ackPacket s
  refine h.of_map hright (fun n item => ?_) hitem
  split_ifs <;> rfl

/-! ## The operation -/

theorem ackArrived_eq (h : s.Numbered) (hcum : ackPacket.cumulativeSeqNum.toNat ≤ s.rightEdge) :
    s.ackArrived shrink debug ackPacket = .ok (s.acked shrink ackPacket) := by
  have hslide : ((s.selected ackPacket).fastRetransmit shrink ackPacket).slide debug ackPacket =
      .ok (((s.selected ackPacket).fastRetransmit shrink ackPacket).slid ackPacket) := by
    refine slide_eq h.selected.fastRetransmit ?_
    rw [(fastRetransmit_frame shrink ackPacket _).2.2.2.1, rightEdge_selected]
    exact hcum
  rw [ackArrived, selectiveAck_eq h]
  -- the first two stages cannot fail, so the whole is what sliding makes of it
  change ((s.selected ackPacket).fastRetransmit shrink ackPacket).slide debug ackPacket >>= _ = _
  rw [hslide]
  rfl

/-- The stages of an acknowledgement that did not fail, in any state. -/
theorem ackArrived_stages {s' : SlideWindowSender}
    (h : s.ackArrived shrink debug ackPacket = .ok s') :
    ∃ s₁ s₂, s.selectiveAck debug ackPacket = .ok s₁ ∧
      (s₁.fastRetransmit shrink ackPacket).slide debug ackPacket = .ok s₂ ∧
      s' = s₂.growCongestionWindow.fill.updateNewDataReady := by
  simp only [ackArrived] at h
  cases hselect : s.selectiveAck debug ackPacket with
  | error fault => rw [hselect] at h; cases h
  | ok s₁ =>
    rw [hselect] at h
    change (s₁.fastRetransmit shrink ackPacket).slide debug ackPacket >>= _ = _ at h
    cases hslide : (s₁.fastRetransmit shrink ackPacket).slide debug ackPacket with
    | error fault => rw [hslide] at h; cases h
    | ok s₂ =>
      rw [hslide] at h
      cases h
      exact ⟨s₁, s₂, rfl, hslide, rfl⟩

/-- The selective field concerns the items only. -/
theorem selectiveAck_frame {s' : SlideWindowSender}
    (h : s.selectiveAck debug ackPacket = .ok s') :
    ∃ items, s' = { s with slideWindow := items } := by
  simp only [selectiveAck] at h
  split_ifs at h
  · cases hitem : s.slideWindow[sizeOfInt (intOfUnsigned
        (ackPacket.selectiveSeqNum - s.slideWindowLeftBoundSeqNum))]? with
    | none =>
      rw [hitem] at h
      cases h
      exact ⟨_, rfl⟩
    | some item =>
      rw [hitem] at h
      change s.ensureCorrectness debug item _ >>= _ = _ at h
      cases hcheck : s.ensureCorrectness debug item
          (ackPacket.selectiveSeqNum - s.slideWindowLeftBoundSeqNum) with
      | error fault => rw [hcheck] at h; cases h
      | ok _ =>
        rw [hcheck] at h
        cases h
        exact ⟨_, rfl⟩
  · cases h
    exact ⟨_, rfl⟩

/-- Whatever the cumulative field pops, the rest of the state is that of `slid`. -/
theorem slide_frame {s' : SlideWindowSender} (h : s.slide debug ackPacket = .ok s') :
    ∃ bytes items,
      s' = { s.slid ackPacket with bytesSent := bytes, slideWindow := items } := by
  simp only [slide] at h
  simp only [slid]
  split_ifs at h ⊢
  · cases hloop : s.slideLoop debug ackPacket.cumulativeSeqNum s.slideWindowLeftBoundSeqNum
        s.bytesSent s.slideWindow with
    | error fault => rw [hloop] at h; cases h
    | ok result =>
      rw [hloop] at h
      cases h
      exact ⟨_, _, rfl⟩
  · cases h
    exact ⟨_, _, rfl⟩

@[simp] theorem params_selected (ackPacket : AckPacket) (s : SlideWindowSender) :
    (s.selected ackPacket).params = s.params := by
  simp only [selected]
  split_ifs <;> rfl

@[simp] theorem params_slid : (s.slid ackPacket).params = s.params := by
  simp only [slid]
  split_ifs <;> rfl

theorem leftBound_beforeGrowth (shrink : CongestionShrink) (ackPacket : AckPacket)
    (s : SlideWindowSender) : (s.beforeGrowth shrink ackPacket).leftBound =
      max s.leftBound ackPacket.cumulativeSeqNum.toNat := by
  rw [beforeGrowth, leftBound_slid, (fastRetransmit_frame shrink ackPacket _).2.2.1,
    leftBound_selected]

/-- **What happens before the window is refilled.** Items below the cumulative number
leave the window and the others are marked. -/
theorem refilled_frame (shrink : CongestionShrink)
    (hcum : ackPacket.cumulativeSeqNum.toNat ≤ s.rightEdge) :
    (s.refilled shrink ackPacket).params = s.params ∧
      (s.refilled shrink ackPacket).leftBound =
        max s.leftBound ackPacket.cumulativeSeqNum.toNat ∧
      (s.refilled shrink ackPacket).rightEdge = s.rightEdge ∧
      ∃ retransmit : Bool, ∀ n, (s.refilled shrink ackPacket).itemAt n =
        if n < ackPacket.cumulativeSeqNum.toNat then none
        else (s.itemAt n).map (·.markAcked ackPacket retransmit s.leftBound n) := by
  obtain ⟨hparams, -, hleft, hright, retransmit, hitem⟩ :=
    fastRetransmit_frame shrink ackPacket (s.selected ackPacket)
  have hcum' : ackPacket.cumulativeSeqNum.toNat ≤
      ((s.selected ackPacket).fastRetransmit shrink ackPacket).rightEdge := by
    rw [hright, rightEdge_selected]
    exact hcum
  obtain ⟨window, bound, hgrow⟩ := growCongestionWindow_frame
    (((s.selected ackPacket).fastRetransmit shrink ackPacket).slid ackPacket)
  have hparams' : (s.refilled shrink ackPacket).params =
      (((s.selected ackPacket).fastRetransmit shrink ackPacket).slid ackPacket).params := by
    rw [refilled, hgrow]
    rfl
  have hleft' : (s.refilled shrink ackPacket).leftBound =
      (((s.selected ackPacket).fastRetransmit shrink ackPacket).slid ackPacket).leftBound := by
    rw [refilled, hgrow]
    rfl
  have hwindow : (s.refilled shrink ackPacket).slideWindow =
      (((s.selected ackPacket).fastRetransmit shrink ackPacket).slid ackPacket).slideWindow := by
    rw [refilled, hgrow]
  refine ⟨?_, ?_, ?_, retransmit, fun n => ?_⟩
  · rw [hparams', params_slid, hparams, params_selected]
  · rw [hleft', leftBound_slid, hleft, leftBound_selected]
  · rw [rightEdge, hleft', hwindow, ← rightEdge, rightEdge_slid hcum', hright,
      rightEdge_selected]
  · rw [itemAt, hleft', hwindow, ← itemAt, itemAt_slid, hitem, itemAt_selected,
      leftBound_selected, Option.map_map]
    rfl

/-! ## The window afterwards -/

theorem leftBound_acked (shrink : CongestionShrink)
    (hcum : ackPacket.cumulativeSeqNum.toNat ≤ s.rightEdge) :
    (s.acked shrink ackPacket).leftBound =
      max s.leftBound ackPacket.cumulativeSeqNum.toNat := by
  rw [acked, leftBound_updateNewDataReady, leftBound_fill]
  exact (refilled_frame shrink hcum).2.1

/-- **What an acknowledgement does to every item.** Items below the cumulative
number leave the window, the others are marked, and new items are appended. -/
theorem itemAt_acked (shrink : CongestionShrink)
    (hcum : ackPacket.cumulativeSeqNum.toNat ≤ s.rightEdge)
    (hlast : s.lastPacketSeqNum.toNat + 1 < 2 ^ 32)
    (hedge : s.rightEdge ≤ s.lastPacketSeqNum.toNat + 1) :
    ∃ retransmit : Bool, ∀ n, (s.acked shrink ackPacket).itemAt n =
      if n < s.rightEdge then
        if n < ackPacket.cumulativeSeqNum.toNat then none
        else (s.itemAt n).map (·.markAcked ackPacket retransmit s.leftBound n)
      else if n < (s.acked shrink ackPacket).rightEdge then some (s.newItem (.ofNat n))
      else none := by
  obtain ⟨hparams, -, hright, retransmit, hitem⟩ := refilled_frame shrink hcum
  have hseq : (s.refilled shrink ackPacket).lastPacketSeqNum = s.lastPacketSeqNum :=
    congrArg (·.2.2.1) hparams
  refine ⟨retransmit, fun n => ?_⟩
  rw [acked, itemAt_updateNewDataReady, rightEdge_updateNewDataReady,
    itemAt_fill (hseq ▸ hlast) (by rw [hright, hseq]; exact hedge), hright, hitem,
    newItem_congr hparams]

theorem rightEdge_acked (shrink : CongestionShrink)
    (hcum : ackPacket.cumulativeSeqNum.toNat ≤ s.rightEdge)
    (hlast : s.lastPacketSeqNum.toNat + 1 < 2 ^ 32)
    (hedge : s.rightEdge ≤ s.lastPacketSeqNum.toNat + 1) :
    (s.acked shrink ackPacket).rightEdge = max s.rightEdge
      (min ((s.acked shrink ackPacket).leftBound +
          (s.acked shrink ackPacket).curCongestionWindow.toNat)
        (s.lastPacketSeqNum.toNat + 1)) := by
  obtain ⟨hparams, -, hright, -⟩ := refilled_frame shrink hcum
  have hseq : (s.refilled shrink ackPacket).lastPacketSeqNum = s.lastPacketSeqNum :=
    congrArg (·.2.2.1) hparams
  have hfill := rightEdge_fill (s := s.refilled shrink ackPacket) (hseq ▸ hlast)
    (by rw [hright, hseq]; exact hedge)
  rw [hright, hseq] at hfill
  rw [acked, leftBound_updateNewDataReady, leftBound_fill, rightEdge_updateNewDataReady, hfill,
    curCongestionWindow_updateNewDataReady, curCongestionWindow_fill]

end SlideWindowSender

end ReliablePacket
