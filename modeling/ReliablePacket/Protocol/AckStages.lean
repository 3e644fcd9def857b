/-
# The stages of `ackArrived`

An acknowledgement goes through five stages: its selective field marks one item, the
fast retransmission counts it, the window slides, the congestion window may grow, and the
window is filled up. Each loop has a closed form on numbered items, and each stage is
described by what it does to the item of each number and to the window's edges.
-/
import ReliablePacket.Protocol.SenderSpec

set_option autoImplicit false

namespace ReliablePacket

open NumberedQueue

namespace SlideWindowSender

variable {s : SlideWindowSender} {debug : Bool}
variable {item : SlideWindowSenderItem} {items : List SlideWindowSenderItem} {n i : ℕ}
variable {ackPacket : AckPacket} {shrink : CongestionShrink}

/-! ## The selective field -/

/-- The state after the selective field. -/
def selected (ackPacket : AckPacket) (s : SlideWindowSender) : SlideWindowSender :=
  if ackPacket.cumulativeSeqNum ≠ ackPacket.selectiveSeqNum ∧
      s.leftBound ≤ ackPacket.selectiveSeqNum.toNat then
    { s with
      slideWindow := s.slideWindow.modify (ackPacket.selectiveSeqNum.toNat - s.leftBound)
        fun item => { item with state := .acked } }
  else s

theorem selectiveAck_eq (h : s.Numbered) :
    s.selectiveAck debug ackPacket = .ok (s.selected ackPacket) := by
  simp only [selectiveAck, selected]
  by_cases hsel : ackPacket.cumulativeSeqNum ≠ ackPacket.selectiveSeqNum ∧
      s.slideWindowLeftBoundSeqNum ≤ ackPacket.selectiveSeqNum
  · have hle : s.leftBound ≤ ackPacket.selectiveSeqNum.toNat := hsel.2
    have hoffset : (ackPacket.selectiveSeqNum - s.slideWindowLeftBoundSeqNum).toNat =
        ackPacket.selectiveSeqNum.toNat - s.leftBound := UInt32.toNat_sub_of_le _ _ hsel.2
    have hedge := h.rightEdge_lt
    rw [rightEdge] at hedge
    rw [if_pos hsel, if_pos ⟨hsel.1, hle⟩]
    simp only [sizeOfInt_intOfUnsigned, hoffset]
    by_cases hint : ackPacket.selectiveSeqNum.toNat - s.leftBound < 2 ^ 31
    · rw [if_pos hint]
      cases hitem : s.slideWindow[ackPacket.selectiveSeqNum.toNat - s.leftBound]? with
      | none =>
        rw [List.modify_eq_self (List.getElem?_eq_none_iff.mp hitem)]
      | some item =>
        have hnum := h.seqNum_getElem? hitem
        rw [← hoffset, UInt32.ofNat_toNat] at hnum
        simp only [ensureCorrectness_of_eq debug hnum.symm]
        rfl
    · -- a negative `int` becomes a size beyond the end of the deque
      have hlen : s.slideWindow.length ≤ ackPacket.selectiveSeqNum.toNat - s.leftBound := by omega
      rw [if_neg hint, List.getElem?_eq_none (by omega)]
      simp only [List.modify_eq_self hlen]
  · rw [if_neg hsel]
    exact congrArg Except.ok (if_neg hsel).symm

@[simp] theorem leftBound_selected : (s.selected ackPacket).leftBound = s.leftBound := by
  simp only [selected]
  split_ifs <;> rfl

@[simp] theorem rightEdge_selected : (s.selected ackPacket).rightEdge = s.rightEdge := by
  rw [rightEdge, leftBound_selected, rightEdge, selected]
  split_ifs
  · rw [List.length_modify]
  · rfl

theorem itemAt_selected (n : ℕ) :
    (s.selected ackPacket).itemAt n = (s.itemAt n).map fun item =>
      if ackPacket.cumulativeSeqNum ≠ ackPacket.selectiveSeqNum ∧
          n = ackPacket.selectiveSeqNum.toNat then
        { item with state := .acked }
      else item := by
  by_cases hne : ackPacket.cumulativeSeqNum ≠ ackPacket.selectiveSeqNum
  · by_cases hle : s.leftBound ≤ ackPacket.selectiveSeqNum.toNat
    · rw [itemAt, leftBound_selected, selected, if_pos ⟨hne, hle⟩, lookup_modify,
        Nat.add_sub_of_le hle]
      by_cases hn : n = ackPacket.selectiveSeqNum.toNat
      · simp only [hn, hne, ne_eq, not_false_eq_true, and_self, if_true]
        rfl
      · simp only [hn, and_false, if_false, Option.map_id']
        rfl
    · rw [selected, if_neg fun h => hle h.2]
      cases hitem : s.itemAt n with
      | none => rfl
      | some item =>
        have hn := (itemAt_bounds hitem).1
        simp only [Option.map_some, show n ≠ ackPacket.selectiveSeqNum.toNat by omega, and_false,
          if_false]
  · simp only [selected, hne, false_and, if_false, Option.map_id']

/-! ## Fast retransmission -/

/-- The penalty changes the congestion variables and the penalty flag only. -/
theorem punishDuplicateAck_cases (shrink : CongestionShrink) (s : SlideWindowSender) :
    s.punishDuplicateAck shrink = s ∨
      (s.curCongestionWindowTimeouted = false ∧
        s.punishDuplicateAck shrink =
          { s.setCongestionWindow (s.shrunkThreshold shrink) with
            curCongestionThreshold := s.shrunkThreshold shrink
            curCongestionWindowTimeouted := true }) := by
  simp only [punishDuplicateAck]
  split_ifs with h
  · exact .inl rfl
  · exact .inr ⟨Bool.not_eq_true _ ▸ h, rfl⟩

theorem punishDuplicateAck_frame (shrink : CongestionShrink) (s : SlideWindowSender) :
    ∃ window threshold bound timeouted, s.punishDuplicateAck shrink =
      { s with
        curCongestionWindow := window
        curCongestionThreshold := threshold
        congestionLeftBoundSeqNum := bound
        curCongestionWindowTimeouted := timeouted } := by
  rcases punishDuplicateAck_cases shrink s with heq | ⟨-, heq⟩
  · exact ⟨_, _, _, _, heq⟩
  · exact ⟨_, _, _, _, heq⟩

/-- Retransmitting the first item changes its state and the data flag only. -/
theorem timeoutFirstItem_eq (s : SlideWindowSender) :
    ∃ items ready, s.timeoutFirstItem = { s with slideWindow := items, newDataReady := ready } ∧
      items.length = s.slideWindow.length ∧
      ∀ n, lookup s.leftBound items n = (s.itemAt n).map fun item =>
        if n = s.leftBound ∧ item.isInFlight then { item with state := .timeout } else item := by
  simp only [timeoutFirstItem, itemAt]
  cases hwindow : s.slideWindow with
  | nil => exact ⟨s.slideWindow, s.newDataReady, rfl, by rw [hwindow], fun n => by simp [hwindow]⟩
  | cons item items =>
    -- only an item in flight is marked; of the others nothing changes
    by_cases hflight : item.isInFlight
    · refine ⟨{ item with state := .timeout } :: items, true, by simp only [hflight, if_true],
        rfl, fun n => ?_⟩
      by_cases hn : n = s.leftBound
      · simp [hn, hflight]
      · rcases Nat.lt_or_gt_of_ne hn with hlt | hgt
        · rw [lookup_of_lt hlt, lookup_of_lt hlt]
          rfl
        · simp only [hn, false_and, if_false, Option.map_id', lookup_cons_of_lt hgt]
    · refine ⟨s.slideWindow, s.newDataReady, if_neg hflight, by rw [hwindow], fun n => ?_⟩
      rw [hwindow]
      by_cases hn : n = s.leftBound
      · simp [hn, hflight]
      · simp only [hn, false_and, if_false, Option.map_id']

/-- The four ways through fast retransmission, with their guards. -/
theorem fastRetransmit_cases (shrink : CongestionShrink) (ackPacket : AckPacket)
    (s : SlideWindowSender) :
    (s.fastRetransmit shrink ackPacket = s ∧
        (s.fastRetransmission = true → ackPacket.cumulativeSeqNum < s.lastAck)) ∨
      (s.fastRetransmission = true ∧ s.lastAck = ackPacket.cumulativeSeqNum ∧
        s.lastAckAckedCount + 1 ≠ fastRetransmissionThreshold ∧
        s.fastRetransmit shrink ackPacket =
          { s with lastAckAckedCount := s.lastAckAckedCount + 1 }) ∨
      (s.fastRetransmission = true ∧ s.lastAck = ackPacket.cumulativeSeqNum ∧
        s.lastAckAckedCount + 1 = fastRetransmissionThreshold ∧
        s.fastRetransmit shrink ackPacket =
          ({ s with lastAckAckedCount := s.lastAckAckedCount + 1 }.punishDuplicateAck
            shrink).timeoutFirstItem) ∨
      (s.fastRetransmission = true ∧ s.lastAck < ackPacket.cumulativeSeqNum ∧
        s.fastRetransmit shrink ackPacket =
          { s with lastAck := ackPacket.cumulativeSeqNum, lastAckAckedCount := 0 }) := by
  simp only [fastRetransmit]
  split_ifs with hfast heq hcount hlt
  · exact .inr (.inr (.inl ⟨hfast, heq, hcount, rfl⟩))
  · exact .inr (.inl ⟨hfast, heq, hcount, rfl⟩)
  · exact .inr (.inr (.inr ⟨hfast, hlt, rfl⟩))
  · -- neither equal to nor above the last one means older
    refine .inl ⟨rfl, fun _ => ?_⟩
    rw [UInt32.lt_iff_toNat_lt] at hlt ⊢
    rw [← UInt32.toNat_inj] at heq
    omega
  · exact .inl ⟨rfl, fun h => absurd h hfast⟩

/-! ## Sliding -/

/-- The state after the cumulative field. -/
def slid (ackPacket : AckPacket) (s : SlideWindowSender) : SlideWindowSender :=
  if s.slideWindowLeftBoundSeqNum < ackPacket.cumulativeSeqNum then
    let k := ackPacket.cumulativeSeqNum.toNat - s.leftBound
    { s with
      bytesSent := s.bytesSent + .ofNat ((s.slideWindow.take k).map (·.dataSize)).sum
      slideWindow := s.slideWindow.drop k
      slideWindowLeftBoundSeqNum := ackPacket.cumulativeSeqNum }
  else s

theorem slideLoop_eq {cumulativeSeqNum i : UInt32} {bytesSent : UInt64}
    (hlen : cumulativeSeqNum.toNat - i.toNat ≤ items.length)
    (hnum : ∀ j item, items[j]? = some item → item.seqNum = i + .ofNat j) :
    s.slideLoop debug cumulativeSeqNum i bytesSent items = .ok
      (bytesSent + .ofNat ((items.take (cumulativeSeqNum.toNat - i.toNat)).map (·.dataSize)).sum,
        items.drop (cumulativeSeqNum.toNat - i.toNat)) := by
  -- the number reached and the bytes counted vary with every item popped
  induction items generalizing i bytesSent with
  | nil =>
    rw [List.length_nil] at hlen
    have hge : ¬ i < cumulativeSeqNum := by
      rw [UInt32.lt_iff_toNat_lt]
      omega
    simp [slideLoop, hge]
  | cons item items ih =>
    by_cases hlt : i < cumulativeSeqNum
    · have hsucc := toNat_add_one_of_lt hlt
      have hstep : cumulativeSeqNum.toNat - i.toNat =
          cumulativeSeqNum.toNat - (i + 1).toNat + 1 := by
        rw [UInt32.lt_iff_toNat_lt] at hlt
        omega
      have hrest := @ih (i + 1) (bytesSent + .ofNat item.dataSize)
        (by rw [List.length_cons] at hlen; omega) fun j item hj => by
          rw [hnum (j + 1) item hj, UInt32.add_assoc, UInt32.ofNat_add, UInt32.add_comm 1]
          rfl
      have hcheck : s.ensureCorrectness debug item (i - s.slideWindowLeftBoundSeqNum) = .ok () := by
        refine ensureCorrectness_of_eq debug ?_
        rw [add_sub_self, hnum 0 item rfl, show UInt32.ofNat 0 = 0 from rfl, UInt32.add_zero]
      rw [slideLoop, if_pos hlt, hcheck, hstep, List.take_succ_cons, List.drop_succ_cons,
        List.map_cons, List.sum_cons, UInt64.ofNat_add, ← UInt64.add_assoc]
      exact hrest
    · have hzero : cumulativeSeqNum.toNat - i.toNat = 0 := by
        rw [UInt32.lt_iff_toNat_lt] at hlt
        omega
      rw [slideLoop, if_neg hlt, hzero]
      simp

theorem slide_eq (h : s.Numbered) (hcum : ackPacket.cumulativeSeqNum.toNat ≤ s.rightEdge) :
    s.slide debug ackPacket = .ok (s.slid ackPacket) := by
  rw [rightEdge] at hcum
  simp only [slide, slid]
  split_ifs with hlt hdebug
  · -- the debug assertion compares the distance with the size of the deque
    have hdist := UInt32.toNat_sub_of_le _ _ (UInt32.le_of_lt hlt)
    rw [leftBound] at hcum
    have := hdebug.2
    omega
  · rw [slideLoop_eq (by rw [leftBound] at hcum; omega) fun j item hj => h.seqNum_getElem? hj]
    rfl
  · rfl

theorem leftBound_slid : (s.slid ackPacket).leftBound =
    max s.leftBound ackPacket.cumulativeSeqNum.toNat := by
  simp only [slid]
  split_ifs with hlt
  · exact (max_eq_right (le_of_lt hlt)).symm
  · exact (max_eq_left (not_lt.mp hlt)).symm

theorem rightEdge_slid (hcum : ackPacket.cumulativeSeqNum.toNat ≤ s.rightEdge) :
    (s.slid ackPacket).rightEdge = s.rightEdge := by
  rw [rightEdge] at hcum
  rw [rightEdge, leftBound_slid, rightEdge, slid]
  split_ifs with hlt
  · have hlt' : s.leftBound < ackPacket.cumulativeSeqNum.toNat := hlt
    rw [List.length_drop]
    omega
  · have hge : ¬ s.leftBound < ackPacket.cumulativeSeqNum.toNat := hlt
    omega

theorem itemAt_slid (n : ℕ) : (s.slid ackPacket).itemAt n =
    if n < ackPacket.cumulativeSeqNum.toNat then none else s.itemAt n := by
  rw [itemAt, leftBound_slid, slid]
  split_ifs with hlt hn hn
  · have hlt' : s.leftBound < ackPacket.cumulativeSeqNum.toNat := hlt
    exact lookup_of_lt (by omega)
  · have hlt' : s.leftBound < ackPacket.cumulativeSeqNum.toNat := hlt
    rw [max_eq_right hlt'.le]
    -- popping forgets the numbers below the new bound and no other
    obtain ⟨k, hk⟩ : ∃ k, ackPacket.cumulativeSeqNum.toNat = s.leftBound + k :=
      ⟨_, (Nat.add_sub_of_le hlt'.le).symm⟩
    simp only [hk, Nat.add_sub_cancel_left, lookup_drop]
    rw [if_neg (by omega), itemAt]
  · have hge : ¬ s.leftBound < ackPacket.cumulativeSeqNum.toNat := hlt
    exact lookup_of_lt (by omega)
  · have hge : ¬ s.leftBound < ackPacket.cumulativeSeqNum.toNat := hlt
    rw [max_eq_left (by omega), itemAt]

/-! ## Growing and filling -/

/-- Growth changes the congestion window and its left bound only. -/
theorem growCongestionWindow_cases (s : SlideWindowSender) :
    s.growCongestionWindow = s ∨
      ∃ window, s.congestionLeftBoundSeqNum ≤ s.slideWindowLeftBoundSeqNum ∧
        s.growCongestionWindow = s.setCongestionWindow window ∧
        (s.curCongestionWindow < s.curCongestionThreshold ∧
            (window = s.curCongestionThreshold ∧
                s.curCongestionThreshold ≤ s.curCongestionWindow * 2 ∨
              window = s.curCongestionWindow * 2 ∧
                s.curCongestionWindow * 2 < s.curCongestionThreshold) ∨
          window = s.curCongestionWindow + congestionThresholdMin) := by
  simp only [growCongestionWindow]
  split_ifs with hbound hlt hle
  · exact .inr ⟨_, hbound, rfl, .inl ⟨hlt, .inl ⟨rfl, hle⟩⟩⟩
  · exact .inr ⟨_, hbound, rfl, .inl ⟨hlt, .inr ⟨rfl, UInt32.not_le.mp hle⟩⟩⟩
  · exact .inr ⟨_, hbound, rfl, .inr rfl⟩
  · exact .inl rfl

/-- Growth leaves everything else alone. -/
theorem growCongestionWindow_frame (s : SlideWindowSender) : ∃ window bound,
    s.growCongestionWindow =
      { s with curCongestionWindow := window, congestionLeftBoundSeqNum := bound } := by
  rcases growCongestionWindow_cases s with heq | ⟨window, -, heq, -⟩
  · exact ⟨s.curCongestionWindow, s.congestionLeftBoundSeqNum, heq⟩
  · exact ⟨window, _, heq⟩

/-- The fill loop appends the items that follow the window, up to the last packet. -/
theorem fillLoop_eq (hlast : s.lastPacketSeqNum.toNat + 1 < 2 ^ 32)
    (hedge : s.leftBound + items.length ≤ s.lastPacketSeqNum.toNat + 1) :
    s.fillLoop n items = items ++
      (List.range (min n (s.lastPacketSeqNum.toNat + 1 - (s.leftBound + items.length)))).map
        fun j => s.newItem (.ofNat (s.leftBound + items.length + j)) := by
  -- every round appends one item, so the deque varies in the induction
  induction n generalizing items with
  | zero => simp [fillLoop]
  | succ n ih =>
    have hseqNum : s.slideWindowLeftBoundSeqNum + .ofNat items.length =
        .ofNat (s.leftBound + items.length) := add_ofNat _ _
    rw [fillLoop, hseqNum]
    by_cases hpast : s.lastPacketSeqNum < .ofNat (s.leftBound + items.length)
    · rw [UInt32.lt_iff_toNat_lt, toNat_ofNat (by omega)] at hpast
      -- the number of the next round is past the last packet, so the loop stops
      have hzero : min (n + 1)
          (s.lastPacketSeqNum.toNat + 1 - (s.leftBound + items.length)) = 0 := by omega
      rw [if_pos (by rw [UInt32.lt_iff_toNat_lt, toNat_ofNat (by omega)]; omega), hzero]
      simp
    · rw [if_neg hpast]
      rw [UInt32.lt_iff_toNat_lt, toNat_ofNat (by omega)] at hpast
      have hlen : (items ++ [s.newItem (.ofNat (s.leftBound + items.length))]).length =
          items.length + 1 := by simp
      have hsucc : min (n + 1) (s.lastPacketSeqNum.toNat + 1 - (s.leftBound + items.length)) =
          min n (s.lastPacketSeqNum.toNat + 1 - (s.leftBound + (items.length + 1))) + 1 := by
        omega
      -- the appended item is the first of the range, the other rounds give the rest
      rw [ih (by rw [hlen]; omega), hlen, hsucc, List.range_succ_eq_map, List.map_cons,
        List.map_map, List.append_assoc, List.singleton_append, Nat.add_zero]
      congr 3
      funext j
      simp only [Function.comp_apply]
      congr 2
      omega

@[simp] theorem leftBound_fill (s : SlideWindowSender) : s.fill.leftBound = s.leftBound := rfl

/-- Filling moves the right edge to the end of the congestion window or of the
transfer, and never back. -/
theorem rightEdge_fill (hlast : s.lastPacketSeqNum.toNat + 1 < 2 ^ 32)
    (hedge : s.rightEdge ≤ s.lastPacketSeqNum.toNat + 1) :
    s.fill.rightEdge = max s.rightEdge
      (min (s.leftBound + s.curCongestionWindow.toNat) (s.lastPacketSeqNum.toNat + 1)) := by
  rw [rightEdge] at hedge
  rw [rightEdge, leftBound_fill, fill, fillLoop_eq hlast hedge, rightEdge]
  simp only [List.length_append, List.length_map, List.length_range]
  omega

theorem itemAt_fill (hlast : s.lastPacketSeqNum.toNat + 1 < 2 ^ 32)
    (hedge : s.rightEdge ≤ s.lastPacketSeqNum.toNat + 1) (n : ℕ) :
    s.fill.itemAt n =
      if n < s.rightEdge then s.itemAt n
      else if n < s.fill.rightEdge then some (s.newItem (.ofNat n)) else none := by
  rw [rightEdge_fill hlast hedge]
  rw [rightEdge] at hedge ⊢
  rw [itemAt, leftBound_fill, fill, fillLoop_eq hlast hedge, lookup_append]
  split_ifs with hold hnew
  · rfl
  · rw [lookup_map, lookup_of_le (by omega), List.getElem?_range (by omega), Option.map_some,
      show s.leftBound + s.slideWindow.length + (n - (s.leftBound + s.slideWindow.length)) = n
        by omega]
  · rw [lookup_of_le (by omega), List.getElem?_eq_none]
    simp only [List.length_map, List.length_range]
    omega

@[simp] theorem curCongestionWindow_fill (s : SlideWindowSender) :
    s.fill.curCongestionWindow = s.curCongestionWindow := rfl

/-! ## The readiness flag -/

@[simp] theorem leftBound_updateNewDataReady (s : SlideWindowSender) :
    s.updateNewDataReady.leftBound = s.leftBound := rfl

@[simp] theorem rightEdge_updateNewDataReady (s : SlideWindowSender) :
    s.updateNewDataReady.rightEdge = s.rightEdge := rfl

@[simp] theorem itemAt_updateNewDataReady (s : SlideWindowSender) :
    s.updateNewDataReady.itemAt n = s.itemAt n := rfl

@[simp] theorem curCongestionWindow_updateNewDataReady (s : SlideWindowSender) :
    s.updateNewDataReady.curCongestionWindow = s.curCongestionWindow := rfl

end SlideWindowSender

end ReliablePacket
