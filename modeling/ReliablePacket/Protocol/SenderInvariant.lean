/-
# The sender's invariant

Between operations the window holds the payloads of consecutive packets, its
right edge lies between the end of the congestion window and the end of the
transfer, the congestion window is tied to the left bound, and `bytesSent` adds
up the payloads left of the window. The constructor establishes this and every
operation keeps it, provided an acknowledgement's cumulative number does not
exceed the right edge.

The tie between congestion window and left bound is what excludes wraps. The
initial threshold does not cap the doubling, so the window is bounded by how far
the left bound has advanced since the window last changed.
-/
import Mathlib.Algebra.Order.BigOperators.Group.Finset
import ReliablePacket.Protocol.Segmentation
import ReliablePacket.Protocol.AckArrived

set_option autoImplicit false

namespace ReliablePacket

open NumberedQueue SlideWindowSender

/-- The constant members of a sender of the transfer. -/
def Transfer.params (t : Transfer) : ByteFile × UInt64 × UInt32 × ℤ × Bool :=
  (t.fileToSend, t.bytesToSend, lastPacketSeqNumOf t.bytesToSend, lastPacketSizeOf t.bytesToSend,
    t.fastRetransmission)

/-- The item holds packet `n` of the transfer. -/
structure Transfer.Holds (t : Transfer) (n : ℕ) (item : SlideWindowSenderItem) : Prop where
  seqNum : item.seqNum = .ofNat n
  dataSize : item.dataSize = (t.packetData n).length
  data : item.data = t.packetData n

/-- The congestion variables at left bound `left`. The difference of `bound` and
`window` is the left bound at which the window was last changed. -/
structure CongestionInv (left window threshold bound : ℕ) : Prop where
  windowMin : 10 ≤ window
  window_le : window ≤ bound
  bound_le : bound ≤ left + window
  windowMax : 2 * window ≤ bound + 20
  thresholdMin : 20 ≤ threshold

/-- The congestion window never exceeds the left bound by more than 20. -/
theorem CongestionInv.window_le_left {left window threshold bound : ℕ}
    (h : CongestionInv left window threshold bound) : window ≤ left + 20 := by
  have := h.bound_le
  have := h.windowMax
  omega

theorem CongestionInv.mono_left {left left' window threshold bound : ℕ}
    (h : CongestionInv left window threshold bound) (hle : left ≤ left') :
    CongestionInv left' window threshold bound :=
  { h with bound_le := h.bound_le.trans (Nat.add_le_add_right hle window) }

/-- The congestion variables of a sender. -/
def SlideWindowSender.CongestionOk (s : SlideWindowSender) : Prop :=
  CongestionInv s.leftBound s.curCongestionWindow.toNat s.curCongestionThreshold.toNat
    s.congestionLeftBoundSeqNum.toNat

/-- What every state of a sender of the transfer satisfies between operations. -/
structure SenderInv (t : Transfer) (s : SlideWindowSender) : Prop where
  params : s.params = t.params
  items : ∀ n item, s.itemAt n = some item → t.Holds n item
  rightEdge_le : s.rightEdge ≤ t.packets
  filled : min (s.leftBound + s.curCongestionWindow.toNat) t.packets ≤ s.rightEdge
  congestion : s.CongestionOk
  bytesSent : s.bytesSent.toNat = ∑ k ∈ Finset.range s.leftBound, (t.packetData k).length
  lastAck : t.fastRetransmission = true → s.lastAck.toNat = s.leftBound

variable {t : Transfer} {s : SlideWindowSender} {n : ℕ} {item : SlideWindowSenderItem}
variable {ackPacket : AckPacket} {shrink : CongestionShrink} {now : Timeval}
variable {timeoutThresholdUs : UInt64}

namespace SenderInv

theorem lastPacketSeqNum (h : SenderInv t s) :
    s.lastPacketSeqNum = lastPacketSeqNumOf t.bytesToSend :=
  congrArg (·.2.2.1) h.params

theorem bytesToSend (h : SenderInv t s) : s.bytesToSend = t.bytesToSend :=
  congrArg (·.2.1) h.params

theorem toNat_lastPacketSeqNum (h : SenderInv t s) (ht : t.InRange) :
    s.lastPacketSeqNum.toNat + 1 = t.packets := by
  rw [h.lastPacketSeqNum, ht.toNat_lastPacketSeqNum]

theorem leftBound_le (h : SenderInv t s) : s.leftBound ≤ t.packets :=
  s.leftBound_le_rightEdge.trans h.rightEdge_le

theorem numbered (h : SenderInv t s) (ht : t.InRange) : s.Numbered where
  seqNum n item hn := (h.items n item hn).seqNum
  rightEdge_lt := by
    have := h.rightEdge_le
    have := ht.lt
    omega

end SenderInv

/-! ## New items -/

theorem Transfer.InRange.ofNat_eq_last_iff (ht : t.InRange) (hn : n < t.packets) :
    UInt32.ofNat n = lastPacketSeqNumOf t.bytesToSend ↔ n + 1 = t.packets := by
  have hlast := ht.toNat_lastPacketSeqNum
  have hlt := ht.lt
  rw [← UInt32.toNat_inj, toNat_ofNat (by omega)]
  omega

/-- An item created for a packet of the transfer holds that packet. -/
theorem Transfer.InRange.holds_newItem (ht : t.InRange) (hparams : s.params = t.params)
    (hn : n < t.packets) : t.Holds n (s.newItem (.ofNat n)) := by
  have hsize : sizeOfInt (if UInt32.ofNat n = lastPacketSeqNumOf t.bytesToSend then
      lastPacketSizeOf t.bytesToSend else dataPacketDataSize) =
        packetSize t.bytesToSend.toNat n := by
    split_ifs with hlast
    · rw [ht.ofNat_eq_last_iff hn] at hlast
      have hnum : packetCount t.bytesToSend.toNat - 1 = n := by
        change t.packets - 1 = n
        omega
      rw [sizeOfInt_lastPacketSizeOf ht.bytesToSend_pos, hnum]
    · rw [ht.ofNat_eq_last_iff hn] at hlast
      rw [sizeOfInt_natCast (by decide), packetSize_of_lt (by change n + 1 < t.packets; omega)]
  have hdata : (s.newItem (.ofNat n)).data = t.packetData n := by
    simp only [SlideWindowSender.params, Transfer.params, Prod.mk.injEq] at hparams
    simp only [newItem, readFile, hparams, hsize]
    rfl
  exact ⟨rfl, congrArg List.length hdata, hdata⟩

/-! ## Sums of payload sizes -/

theorem Transfer.sum_packetData_le (t : Transfer) (n : ℕ) :
    ∑ k ∈ Finset.range n, (t.packetData k).length ≤ t.bytesToSend.toNat :=
  calc ∑ k ∈ Finset.range n, (t.packetData k).length
      ≤ ∑ k ∈ Finset.range n, packetSize t.bytesToSend.toNat k :=
        Finset.sum_le_sum fun k _ => t.length_packetData_le k
    _ = min (dataPacketDataSize * n) t.bytesToSend.toNat := sum_packetSize _ _
    _ ≤ t.bytesToSend.toNat := Nat.min_le_right _ _

/-! ## Congestion control -/

namespace SlideWindowSender.CongestionOk

/-- A new window between 10 and the left bound plus 20 keeps the invariant. -/
theorem setCongestionWindow (hleft : s.leftBound < 2 ^ 31 - 20) (window threshold : UInt32)
    (hmin : 10 ≤ window.toNat) (hmax : window.toNat ≤ s.leftBound + 20)
    (hthreshold : 20 ≤ threshold.toNat) :
    CongestionInv s.leftBound window.toNat threshold.toNat
      (s.slideWindowLeftBoundSeqNum + window).toNat := by
  have hsum : (s.slideWindowLeftBoundSeqNum + window).toNat = s.leftBound + window.toNat := by
    rw [UInt32.toNat_add, ← leftBound]
    omega
  rw [hsum]
  exact ⟨hmin, by omega, le_rfl, by omega, hthreshold⟩

theorem shrunkThreshold (h : s.CongestionOk) (shrink : CongestionShrink) :
    20 ≤ (s.shrunkThreshold shrink).toNat ∧
      (s.shrunkThreshold shrink).toNat ≤ s.leftBound + 20 := by
  have hwindow := h.window_le_left
  have hshrink : (shrink.apply s.curCongestionWindow).toNat ≤ s.curCongestionWindow.toNat :=
    shrink.apply_le _
  have hmin : congestionThresholdMin.toNat = 20 := rfl
  simp only [SlideWindowSender.shrunkThreshold]
  split_ifs with hlt <;> rw [UInt32.lt_iff_toNat_lt] at hlt <;> omega

theorem punishDuplicateAck (h : s.CongestionOk) (hleft : s.leftBound < 2 ^ 31 - 20) :
    (s.punishDuplicateAck shrink).CongestionOk := by
  rcases punishDuplicateAck_cases shrink s with heq | ⟨-, heq⟩
  · rw [heq]
    exact h
  · obtain ⟨hmin, hmax⟩ := h.shrunkThreshold shrink
    rw [heq]
    exact setCongestionWindow hleft (s.shrunkThreshold shrink) _ (by omega) hmax hmin

theorem punishTimeout (h : s.CongestionOk) (hleft : s.leftBound < 2 ^ 31 - 20) (some : Bool) :
    (s.punishTimeout shrink some).CongestionOk := by
  rcases punishTimeout_cases shrink some s with heq | ⟨-, -, heq⟩
  · rw [heq]
    exact h
  · rw [heq]
    have hmin : congestionWindowMin.toNat = 10 := rfl
    exact setCongestionWindow hleft congestionWindowMin _ hmin.ge (by omega)
      (h.shrunkThreshold shrink).1

theorem fastRetransmit (h : s.CongestionOk) (hleft : s.leftBound < 2 ^ 31 - 20) :
    (s.fastRetransmit shrink ackPacket).CongestionOk := by
  rcases fastRetransmit_cases shrink ackPacket s with
    ⟨heq, -⟩ | ⟨-, -, -, heq⟩ | ⟨-, -, -, heq⟩ | ⟨-, -, heq⟩
  · rw [heq]
    exact h
  · rw [heq]
    exact h
  · have hcount : ({ s with lastAckAckedCount := s.lastAckAckedCount + 1 } :
        SlideWindowSender).CongestionOk := h
    obtain ⟨items, ready, hitems, -, -⟩ := timeoutFirstItem_eq
      ({ s with lastAckAckedCount := s.lastAckAckedCount + 1 }.punishDuplicateAck shrink)
    rw [heq, hitems]
    exact hcount.punishDuplicateAck hleft
  · rw [heq]
    exact h

theorem slid (h : s.CongestionOk) : (s.slid ackPacket).CongestionOk := by
  have hvars : (s.slid ackPacket).curCongestionWindow = s.curCongestionWindow ∧
      (s.slid ackPacket).curCongestionThreshold = s.curCongestionThreshold ∧
      (s.slid ackPacket).congestionLeftBoundSeqNum = s.congestionLeftBoundSeqNum := by
    simp only [SlideWindowSender.slid]
    split_ifs <;> exact ⟨rfl, rfl, rfl⟩
  rw [CongestionOk, hvars.1, hvars.2.1, hvars.2.2, leftBound_slid]
  exact h.mono_left (le_max_left _ _)

/-- Growth keeps the invariant: it happens only when the left bound has advanced
by at least the window since the window last changed. -/
theorem growCongestionWindow (h : s.CongestionOk) (hleft : s.leftBound < 2 ^ 31 - 20) :
    s.growCongestionWindow.CongestionOk := by
  rcases growCongestionWindow_cases s with heq | ⟨window, hbound, heq, hwindow⟩
  · rw [heq]
    exact h
  · rw [heq]
    have hbound' : s.congestionLeftBoundSeqNum.toNat ≤ s.leftBound := hbound
    have hmin := h.windowMin
    have hle := h.window_le
    -- twice the window is at most the left bound plus 20 once the bound is reached
    have hmax := h.windowMax
    have hthreshold := h.thresholdMin
    have hdouble : (s.curCongestionWindow * 2).toNat = s.curCongestionWindow.toNat * 2 := by
      rw [UInt32.toNat_mul, show (2 : UInt32).toNat = 2 from rfl]
      omega
    -- capped by the threshold, doubled, or grown by 20
    rcases hwindow with ⟨hlt, ⟨rfl, hcap⟩ | ⟨rfl, -⟩⟩ | rfl
    · rw [UInt32.le_iff_toNat_le, hdouble] at hcap
      exact setCongestionWindow hleft s.curCongestionThreshold s.curCongestionThreshold (by omega)
        (by omega) hthreshold
    · exact setCongestionWindow hleft (s.curCongestionWindow * 2) s.curCongestionThreshold
        (by omega) (by omega) hthreshold
    · have hadd : (s.curCongestionWindow + congestionThresholdMin).toNat =
          s.curCongestionWindow.toNat + 20 := by
        rw [UInt32.toNat_add, show congestionThresholdMin.toNat = 20 from rfl]
        omega
      exact setCongestionWindow hleft (s.curCongestionWindow + congestionThresholdMin)
        s.curCongestionThreshold (by omega) (by omega) hthreshold

/-- Filling the window and the readiness flag concern none of the variables. -/
theorem fill (h : s.CongestionOk) : s.fill.updateNewDataReady.CongestionOk := h

end SlideWindowSender.CongestionOk

/-! ## The members outside the window -/

namespace SlideWindowSender

@[simp] theorem bytesSent_selected : (s.selected ackPacket).bytesSent = s.bytesSent := by
  simp only [selected]
  split_ifs <;> rfl

@[simp] theorem lastAck_selected : (s.selected ackPacket).lastAck = s.lastAck := by
  simp only [selected]
  split_ifs <;> rfl

/-- Under fast retransmission, `lastAck` is the largest cumulative number so far. -/
theorem lastAck_fastRetransmit (hfast : s.fastRetransmission = true) :
    (s.fastRetransmit shrink ackPacket).lastAck.toNat =
      max s.lastAck.toNat ackPacket.cumulativeSeqNum.toNat := by
  rcases fastRetransmit_cases shrink ackPacket s with
    ⟨heq, hlt⟩ | ⟨-, hsame, -, heq⟩ | ⟨-, hsame, -, heq⟩ | ⟨-, hlt, heq⟩
  · have hlt' : ackPacket.cumulativeSeqNum.toNat < s.lastAck.toNat := hlt hfast
    rw [heq, max_eq_left hlt'.le]
  · rw [heq, ← hsame, max_self]
  · obtain ⟨items, ready, hitems, -, -⟩ := timeoutFirstItem_eq
      ({ s with lastAckAckedCount := s.lastAckAckedCount + 1 }.punishDuplicateAck shrink)
    obtain ⟨_, _, _, _, hpun⟩ := punishDuplicateAck_frame shrink
      { s with lastAckAckedCount := s.lastAckAckedCount + 1 }
    rw [heq, hitems, ← hsame, max_self, hpun]
  · have hlt' : s.lastAck.toNat < ackPacket.cumulativeSeqNum.toNat := hlt
    rw [heq, max_eq_right hlt'.le]

@[simp] theorem lastAck_slid : (s.slid ackPacket).lastAck = s.lastAck := by
  simp only [slid]
  split_ifs <;> rfl

theorem bytesSent_slid : (s.slid ackPacket).bytesSent = s.bytesSent +
    .ofNat ((s.slideWindow.take (ackPacket.cumulativeSeqNum.toNat - s.leftBound)).map
      (·.dataSize)).sum := by
  simp only [slid]
  split_ifs with hlt
  · rfl
  · have hge : ackPacket.cumulativeSeqNum.toNat - s.leftBound = 0 := Nat.sub_eq_zero_of_le
      (not_lt.mp hlt)
    rw [hge]
    exact (UInt64.add_zero _).symm

/-- Growing, filling and the readiness flag leave the other members alone. -/
theorem acked_frame (shrink : CongestionShrink) (ackPacket : AckPacket) (s : SlideWindowSender) :
    (s.acked shrink ackPacket).params = s.params ∧
      (s.acked shrink ackPacket).bytesSent =
        (((s.selected ackPacket).fastRetransmit shrink ackPacket).slid ackPacket).bytesSent ∧
      (s.acked shrink ackPacket).lastAck =
        (((s.selected ackPacket).fastRetransmit shrink ackPacket).slid ackPacket).lastAck := by
  obtain ⟨window, bound, hgrow⟩ := growCongestionWindow_frame
    (((s.selected ackPacket).fastRetransmit shrink ackPacket).slid ackPacket)
  have hfill : ∀ s' : SlideWindowSender, s'.fill.updateNewDataReady.params = s'.params ∧
      s'.fill.updateNewDataReady.bytesSent = s'.bytesSent ∧
      s'.fill.updateNewDataReady.lastAck = s'.lastAck :=
    fun s' => ⟨rfl, rfl, rfl⟩
  have hparams : (((s.selected ackPacket).fastRetransmit shrink ackPacket).slid
      ackPacket).params = s.params := by
    rw [params_slid, (fastRetransmit_frame shrink ackPacket _).1, params_selected]
  rw [acked, (hfill _).1, (hfill _).2.1, (hfill _).2.2, refilled, hgrow]
  exact ⟨hparams, rfl, rfl⟩

end SlideWindowSender

/-! ## The constructor and the operations -/

/-- The sender of the transfer before its deque is filled. -/
def Transfer.unfilled (t : Transfer) : SlideWindowSender :=
  .unfilled t.fileToSend t.bytesToSend t.fastRetransmission

/-- The constructor fills the deque with new items. -/
theorem Transfer.InRange.itemAt_new (ht : t.InRange)
    (hn : (SlideWindowSender.new t.fileToSend t.bytesToSend t.fastRetransmission).itemAt n =
      some item) :
    n < t.packets ∧ item = t.unfilled.newItem (.ofNat n) := by
  have hlast : t.unfilled.lastPacketSeqNum.toNat + 1 = t.packets := ht.toNat_lastPacketSeqNum
  have hlt := ht.lt
  have hright : t.unfilled.rightEdge = 0 := rfl
  have hedge := rightEdge_fill (s := t.unfilled) (by omega) (by omega)
  change t.unfilled.fill.itemAt n = _ at hn
  rw [itemAt_fill (by omega) (by omega), hright] at hn
  split_ifs at hn with hneg hfill
  · omega
  · cases hn
    exact ⟨by omega, rfl⟩

namespace SenderInv

/-- The constructor establishes the invariant. -/
theorem new (ht : t.InRange) :
    SenderInv t (.new t.fileToSend t.bytesToSend t.fastRetransmission) := by
  have hlast : t.unfilled.lastPacketSeqNum.toNat + 1 = t.packets := ht.toNat_lastPacketSeqNum
  have hlt := ht.lt
  have hmin : congestionWindowMin.toNat = 10 := rfl
  have hleft : t.unfilled.leftBound = 0 := rfl
  have hright : t.unfilled.rightEdge = 0 := rfl
  have hwindow : t.unfilled.curCongestionWindow = congestionWindowMin := rfl
  have hedge := rightEdge_fill (s := t.unfilled) (by omega) (by omega)
  rw [hright, hleft, hwindow, hlast] at hedge
  change SenderInv t t.unfilled.fill
  exact
    { params := rfl
      items := by
        intro n item hn
        obtain ⟨hlt, rfl⟩ := ht.itemAt_new hn
        exact ht.holds_newItem rfl hlt
      rightEdge_le := by omega
      filled := by
        rw [hedge, leftBound_fill, hleft,
          show t.unfilled.fill.curCongestionWindow = congestionWindowMin from rfl]
        omega
      congestion := by
        -- the first threshold is the largest word, which caps nothing
        have hstart : CongestionInv 0 congestionWindowMin.toNat
            (UInt32.ofNat (2 ^ 32 - 1)).toNat (0 + congestionWindowMin).toNat :=
          ⟨by decide, by decide, by decide, by decide, by decide⟩
        exact hstart
      bytesSent := by
        rw [leftBound_fill, hleft]
        rfl
      lastAck := by
        intro _
        rw [leftBound_fill, hleft]
        rfl }

/-- Items that keep their packet under a change of their state. -/
theorem holds_of_map {s' : SlideWindowSender} (h : SenderInv t s)
    {f : ℕ → SlideWindowSenderItem → SlideWindowSenderItem}
    (hf : ∀ n item, t.Holds n item → t.Holds n (f n item))
    (hitem : ∀ n, s'.itemAt n = (s.itemAt n).map (f n)) :
    ∀ n item, s'.itemAt n = some item → t.Holds n item := by
  intro n item hn
  rw [hitem, Option.map_eq_some_iff] at hn
  obtain ⟨old, hold, rfl⟩ := hn
  exact hf n old (h.items n old hold)

theorem prepared (h : SenderInv t s) : SenderInv t (s.prepared now) where
  params := h.params
  items := by
    refine h.holds_of_map (fun n item hholds => ?_) itemAt_prepared
    simp only [SlideWindowSenderItem.markIfSendable]
    split_ifs <;> exact ⟨hholds.seqNum, hholds.dataSize, hholds.data⟩
  rightEdge_le := rightEdge_prepared.trans_le h.rightEdge_le
  filled := h.filled.trans_eq rightEdge_prepared.symm
  congestion := h.congestion
  bytesSent := h.bytesSent
  lastAck := h.lastAck

theorem leftBound_lt (h : SenderInv t s) (ht : t.InRange) : s.leftBound < 2 ^ 31 - 20 :=
  h.leftBound_le.trans_lt ht.lt

theorem timeoutChecked (h : SenderInv t s) (ht : t.InRange) :
    SenderInv t (s.timeoutChecked shrink timeoutThresholdUs now) := by
  have hswept : (s.swept timeoutThresholdUs now).CongestionOk := h.congestion
  have hcongestion : (s.timeoutChecked shrink timeoutThresholdUs now).CongestionOk :=
    hswept.punishTimeout (h.leftBound_lt ht) (s.someExpired timeoutThresholdUs now)
  -- a penalty only lowers the congestion window, so the window stays filled
  have hwindow : (s.timeoutChecked shrink timeoutThresholdUs now).curCongestionWindow.toNat ≤
      s.curCongestionWindow.toNat := by
    have hmin : congestionWindowMin.toNat = 10 := rfl
    have hten := h.congestion.windowMin
    simp only [SlideWindowSender.timeoutChecked]
    rcases punishTimeout_cases shrink (s.someExpired timeoutThresholdUs now)
      (s.swept timeoutThresholdUs now) with heq | ⟨-, -, heq⟩
    · rw [heq]
      exact le_rfl
    · rw [heq]
      exact hmin.trans_le hten
  have hframe : (s.timeoutChecked shrink timeoutThresholdUs now).params = s.params ∧
      (s.timeoutChecked shrink timeoutThresholdUs now).bytesSent = s.bytesSent ∧
      (s.timeoutChecked shrink timeoutThresholdUs now).lastAck = s.lastAck := by
    obtain ⟨_, _, _, _, _, heq⟩ := timeoutChecked_frame shrink timeoutThresholdUs now s
    rw [heq]
    exact ⟨rfl, rfl, rfl⟩
  exact
    { params := hframe.1.trans h.params
      items := by
        refine h.holds_of_map (fun n item hholds => ?_) itemAt_timeoutChecked
        simp only [SlideWindowSenderItem.markIfExpired]
        split_ifs
        · exact ⟨hholds.seqNum, hholds.dataSize, hholds.data⟩
        · exact hholds
      rightEdge_le := rightEdge_timeoutChecked.trans_le h.rightEdge_le
      filled := by
        have hfilled := h.filled
        rw [leftBound_timeoutChecked, rightEdge_timeoutChecked]
        omega
      congestion := hcongestion
      bytesSent := by rw [hframe.2.1, leftBound_timeoutChecked, h.bytesSent]
      lastAck := by
        intro hfast
        rw [hframe.2.2, leftBound_timeoutChecked, h.lastAck hfast] }

/-- Sliding adds the payloads of the packets that leave the window. The sum does
not wrap, since all payloads together are no longer than the transfer. -/
theorem bytesSent_acked (h : SenderInv t s)
    (hcum : ackPacket.cumulativeSeqNum.toNat ≤ s.rightEdge) :
    (s.acked shrink ackPacket).bytesSent.toNat =
      ∑ k ∈ Finset.range (s.acked shrink ackPacket).leftBound, (t.packetData k).length := by
  obtain ⟨-, hbytes, hleft, hright, retransmit, hitem⟩ :=
    fastRetransmit_frame shrink ackPacket (s.selected ackPacket)
  rw [(acked_frame shrink ackPacket s).2.1, leftBound_acked shrink hcum, bytesSent_slid,
    hbytes, bytesSent_selected, hleft, leftBound_selected]
  rw [leftBound_selected] at hleft
  rw [rightEdge_selected, rightEdge, hleft] at hright
  set s₁ := (s.selected ackPacket).fastRetransmit shrink ackPacket with hs₁
  set k := ackPacket.cumulativeSeqNum.toNat - s.leftBound with hk
  -- marking items leaves their sizes alone
  have hsizes : ∀ n item, NumberedQueue.lookup s.leftBound s₁.slideWindow n = some item →
      item.dataSize = (t.packetData n).length := by
    intro n item hn
    rw [← hleft] at hn
    change s₁.itemAt n = some item at hn
    rw [hitem, itemAt_selected, Option.map_map, Option.map_eq_some_iff] at hn
    obtain ⟨old, hold, rfl⟩ := hn
    have hold' := (h.items n old hold).dataSize
    simp only [Function.comp_apply]
    split_ifs <;> exact hold'
  have hlen : k ≤ s₁.slideWindow.length := by
    rw [rightEdge] at hcum hright
    omega
  -- the popped items are those from the left bound up to the cumulative number
  have hsum := sum_range_add_sum_take (f := fun item => item.dataSize) hlen hsizes
  have hle := t.sum_packetData_le (s.leftBound + k)
  have hword := t.bytesToSend.toNat_lt
  have hmax : max s.leftBound ackPacket.cumulativeSeqNum.toNat = s.leftBound + k := by omega
  rw [hmax, ← hsum, UInt64.toNat_add, h.bytesSent, UInt64.toNat_ofNat']
  omega

theorem leftBound_beforeGrowth_lt (h : SenderInv t s) (ht : t.InRange)
    (hcum : ackPacket.cumulativeSeqNum.toNat ≤ s.rightEdge) :
    (s.beforeGrowth shrink ackPacket).leftBound < 2 ^ 31 - 20 := by
  have hedge := h.rightEdge_le
  have hlt := ht.lt
  rw [leftBound_beforeGrowth]
  exact max_lt (h.leftBound_lt ht) (by omega)

theorem congestion_beforeGrowth (h : SenderInv t s) (ht : t.InRange) :
    (s.beforeGrowth shrink ackPacket).CongestionOk := by
  have hselected : (s.selected ackPacket).CongestionOk := by
    simp only [SlideWindowSender.selected]
    split_ifs <;> exact h.congestion
  have hbound : (s.selected ackPacket).leftBound < 2 ^ 31 - 20 := by
    rw [leftBound_selected]
    exact h.leftBound_lt ht
  exact (hselected.fastRetransmit hbound).slid

theorem acked (h : SenderInv t s) (ht : t.InRange)
    (hcum : ackPacket.cumulativeSeqNum.toNat ≤ s.rightEdge) :
    SenderInv t (s.acked shrink ackPacket) := by
  have hlast := h.toNat_lastPacketSeqNum ht
  have hedge := h.rightEdge_le
  have hlt := ht.lt
  have hright := rightEdge_acked shrink hcum (by omega) (by omega)
  rw [hlast] at hright
  obtain ⟨retransmit, hitem⟩ :=
    itemAt_acked shrink hcum (by omega) (by omega)
  obtain ⟨hparams, -, hlastAck⟩ := acked_frame shrink ackPacket s
  have hleft := leftBound_acked shrink hcum
  exact
    { params := hparams.trans h.params
      items := by
        intro n item hn
        rw [hitem] at hn
        split_ifs at hn with hold hcum hnew
        · -- an item that stays keeps its packet, whatever its state becomes
          obtain ⟨old, hmem, rfl⟩ := Option.map_eq_some_iff.mp hn
          have hholds := h.items n old hmem
          simp only [SlideWindowSenderItem.markAcked]
          split_ifs <;> exact ⟨hholds.seqNum, hholds.dataSize, hholds.data⟩
        · cases hn
          exact ht.holds_newItem h.params (by omega)
      rightEdge_le := by omega
      filled := by omega
      congestion := by
        have hrefilled : (s.refilled shrink ackPacket).CongestionOk :=
          (h.congestion_beforeGrowth ht).growCongestionWindow (h.leftBound_beforeGrowth_lt ht hcum)
        exact hrefilled.fill
      bytesSent := h.bytesSent_acked hcum
      lastAck := by
        intro hfast
        -- fast retransmission moves `lastAck` as far as sliding moves the left bound
        have hflag : (s.selected ackPacket).fastRetransmission = true := by
          have hs : s.fastRetransmission = t.fastRetransmission := congrArg (·.2.2.2.2) h.params
          have hsel : (s.selected ackPacket).fastRetransmission = s.fastRetransmission :=
            congrArg (·.2.2.2.2) (params_selected ackPacket s)
          rw [hsel, hs, hfast]
        rw [hlastAck, lastAck_slid, lastAck_fastRetransmit hflag, lastAck_selected,
          h.lastAck hfast, hleft] }

end SenderInv

/-! ## When the sender is finished -/

/-- Every payload is read in full when the ranges addressed lie inside the file. -/
theorem Transfer.length_packetData_eq_iff {k : ℕ} (hk : k < t.packets) :
    (t.packetData k).length = packetSize t.bytesToSend.toNat k ↔
      readOffset (.ofNat k) + packetSize t.bytesToSend.toNat k ≤ t.fileToSend.size :=
  ByteFile.length_read_eq_iff (packetSize_pos hk)

/-- A file that holds the whole transfer has no short read, not even where the
offsets wrap. -/
theorem Transfer.LongEnough.length_packetData (hlong : t.LongEnough) {k : ℕ}
    (hk : k < t.packets) : (t.packetData k).length = packetSize t.bytesToSend.toNat k := by
  rw [length_packetData_eq_iff hk]
  have hwrap : readOffset (.ofNat k) ≤ dataPacketDataSize * k := by
    simp only [readOffset]
    rw [UInt32.toNat_mul, toNat_dataPacketDataSize, UInt32.toNat_ofNat', dataPacketDataSize_eq]
    -- an offset that wraps only becomes smaller
    calc k % 2 ^ 32 * 1450 % 2 ^ 32 ≤ k % 2 ^ 32 * 1450 := Nat.mod_le _ _
      _ ≤ k * 1450 := Nat.mul_le_mul_right _ (Nat.mod_le _ _)
      _ = 1450 * k := Nat.mul_comm _ _
  have hpos := packetSize_pos hk
  rw [LongEnough] at hlong
  rw [dataPacketDataSize_eq] at hwrap
  rw [packetSize_eq] at hpos ⊢
  omega

/-- **When the sender is finished.** Every packet has left the window, and no read
came back short. -/
theorem SenderInv.finished_iff (h : SenderInv t s) :
    s.finished = true ↔ s.leftBound = t.packets ∧
      ∀ k < t.packets, (t.packetData k).length = packetSize t.bytesToSend.toNat k := by
  have hfinished : s.finished = true ↔ s.bytesSent.toNat = t.bytesToSend.toNat := by
    rw [SlideWindowSender.finished, decide_eq_true_iff, h.bytesToSend, UInt64.toNat_inj]
  have htotal : ∑ k ∈ Finset.range t.packets, packetSize t.bytesToSend.toNat k =
      t.bytesToSend.toNat := sum_packetSize_packetCount _
  have hread : ∀ n, ∀ k ∈ Finset.range n,
      (t.packetData k).length ≤ packetSize t.bytesToSend.toNat k :=
    fun _ k _ => t.length_packetData_le k
  rw [hfinished, h.bytesSent]
  constructor
  · intro hall
    have hleft : s.leftBound = t.packets := by
      refine h.leftBound_le.eq_of_not_lt fun hlt => ?_
      -- the packet at the left bound alone still misses at least one byte
      have hstep := Finset.sum_range_succ (packetSize t.bytesToSend.toNat) s.leftBound
      have hpos := packetSize_pos hlt
      have hmono : ∑ k ∈ Finset.range (s.leftBound + 1), packetSize t.bytesToSend.toNat k ≤
          ∑ k ∈ Finset.range t.packets, packetSize t.bytesToSend.toNat k := by
        rw [sum_packetSize, htotal]
        exact Nat.min_le_right _ _
      have hle := Finset.sum_le_sum (hread s.leftBound)
      omega
    refine ⟨hleft, fun k hk => ?_⟩
    rw [hleft, ← htotal] at hall
    -- equal sums of terms that are smaller one by one have equal terms
    exact (Finset.sum_eq_sum_iff_of_le (hread t.packets)).mp hall k (Finset.mem_range.mpr hk)
  · rintro ⟨hleft, hfull⟩
    rw [hleft, ← htotal]
    exact Finset.sum_congr rfl fun k hk => hfull k (Finset.mem_range.mp hk)

end ReliablePacket
