/-
# What the sender's operations do

As long as every item carries the number of its place, the loops of the sender
have closed forms and never fail, with or without the debug checks. Each
operation is then described by what it does to the item of each number, to the
left bound and to the right edge of the window, and later proofs use these
descriptions only.
-/
import ReliablePacket.Math.NumberedQueue
import ReliablePacket.Protocol.SlideWindowSender

set_option autoImplicit false

namespace ReliablePacket

open NumberedQueue

namespace SlideWindowSenderItem

/-- What a sending round does to an item inside the congestion window. -/
def markIfSendable (now : Timeval) (item : SlideWindowSenderItem) : SlideWindowSenderItem :=
  if item.isSendable then item.markSent now else item

/-- What the timeout sweep does to an item. -/
def markIfExpired (timeoutThresholdUs : UInt64) (now : Timeval) (item : SlideWindowSenderItem) :
    SlideWindowSenderItem :=
  if item.hasExpired timeoutThresholdUs now then { item with state := .timeout } else item

/-- What an acknowledgement does to item `n` of a window that starts at `left`,
when `retransmit` says that fast retransmission applies. -/
def markAcked (ackPacket : AckPacket) (retransmit : Bool) (left n : ℕ)
    (item : SlideWindowSenderItem) : SlideWindowSenderItem :=
  let item :=
    if ackPacket.cumulativeSeqNum ≠ ackPacket.selectiveSeqNum ∧
        n = ackPacket.selectiveSeqNum.toNat then
      { item with state := .acked }
    else item
  if retransmit ∧ n = left ∧ item.isInFlight then { item with state := .timeout } else item

variable {item : SlideWindowSenderItem} {now : Timeval} {timeoutThresholdUs : UInt64}

/-- A sending round leaves acknowledged items acknowledged, and makes no new ones. -/
theorem markIfSendable_acked_iff :
    (item.markIfSendable now).state = .acked ↔ item.state = .acked := by
  simp only [markIfSendable]
  split_ifs with hsend
  · have hne : item.state ≠ .acked := by
      intro hacked
      simp [isSendable, hacked] at hsend
    refine iff_of_false ?_ hne
    simp only [markSent]
    split_ifs <;> exact nofun
  · rfl

/-- After a sending round the item is no longer sendable. -/
theorem isSendable_markIfSendable : (item.markIfSendable now).isSendable = false := by
  simp only [markIfSendable]
  split_ifs with hsend
  · simp only [isSendable, markSent]
    split_ifs <;> rfl
  · exact Bool.not_eq_true _ ▸ hsend

theorem markIfExpired_acked_iff :
    (item.markIfExpired timeoutThresholdUs now).state = .acked ↔ item.state = .acked := by
  simp only [markIfExpired]
  split_ifs with hexp
  · have hne : item.state ≠ .acked := by
      intro hacked
      simp [hasExpired, isInFlight, hacked] at hexp
    exact iff_of_false nofun hne
  · rfl

theorem markAcked_acked_iff {ackPacket : AckPacket} {retransmit : Bool} {left n : ℕ} :
    (item.markAcked ackPacket retransmit left n).state = .acked ↔
      item.state = .acked ∨ ackPacket.cumulativeSeqNum ≠ ackPacket.selectiveSeqNum ∧
        n = ackPacket.selectiveSeqNum.toNat := by
  simp only [markAcked]
  split_ifs with hsel hflight hflight
  · simp [isInFlight] at hflight
  · exact iff_of_true rfl (.inr hsel)
  · have hne : item.state ≠ .acked := by
      intro hacked
      simp [isInFlight, hacked] at hflight
    exact iff_of_false nofun (not_or.mpr ⟨hne, hsel⟩)
  · exact ⟨.inl, fun h => h.resolve_right hsel⟩

end SlideWindowSenderItem

namespace SlideWindowSender

variable {s : SlideWindowSender} {debug : Bool} {now : Timeval} {timeoutThresholdUs : UInt64}
variable {item : SlideWindowSenderItem} {items : List SlideWindowSenderItem} {n i : ℕ}
variable {ackPacket : AckPacket} {shrink : CongestionShrink}

/-! ## Observations -/

/-- The left bound of the window as a number. -/
def leftBound (s : SlideWindowSender) : ℕ := s.slideWindowLeftBoundSeqNum.toNat

/-- The first number to the right of the window. -/
def rightEdge (s : SlideWindowSender) : ℕ := s.leftBound + s.slideWindow.length

/-- The item with number `n`. -/
def itemAt (s : SlideWindowSender) (n : ℕ) : Option SlideWindowSenderItem :=
  lookup s.leftBound s.slideWindow n

/-- Every item carries the number of its place, and the numbers fit an `int`. -/
structure Numbered (s : SlideWindowSender) : Prop where
  seqNum : ∀ n item, s.itemAt n = some item → item.seqNum = .ofNat n
  rightEdge_lt : s.rightEdge < 2 ^ 31

theorem itemAt_bounds (h : s.itemAt n = some item) : s.leftBound ≤ n ∧ n < s.rightEdge :=
  lookup_bounds h

theorem exists_itemAt_iff :
    (∃ item, s.itemAt n = some item) ↔ s.leftBound ≤ n ∧ n < s.rightEdge :=
  exists_lookup_iff

theorem mem_iff_itemAt : item ∈ s.slideWindow ↔ ∃ n, s.itemAt n = some item :=
  ⟨exists_lookup_of_mem s.leftBound, fun ⟨_, h⟩ => mem_of_lookup h⟩

theorem leftBound_le_rightEdge (s : SlideWindowSender) : s.leftBound ≤ s.rightEdge :=
  Nat.le_add_right _ _

/-- A finished sender has no data to send. -/
theorem hasDataToSend_of_finished (h : s.finished = true) : s.hasDataToSend = false := by
  rw [hasDataToSend, h]
  rfl

/-- The members the constructor sets for good. -/
def params (s : SlideWindowSender) : ByteFile × UInt64 × UInt32 × ℤ × Bool :=
  (s.fileToSend, s.bytesToSend, s.lastPacketSeqNum, s.lastPacketSize, s.fastRetransmission)

theorem newItem_congr {s' : SlideWindowSender} (h : s'.params = s.params) :
    s'.newItem = s.newItem := by
  simp only [params, Prod.mk.injEq] at h
  funext seqNum
  simp only [newItem, readFile, h]

theorem ensureCorrectness_of_eq (debug : Bool) {position : UInt32}
    (h : s.slideWindowLeftBoundSeqNum + position = item.seqNum) :
    s.ensureCorrectness debug item position = .ok () :=
  if_neg fun hne => hne.2 h

theorem ensureCorrectness_false (position : UInt32) :
    s.ensureCorrectness false item position = .ok () :=
  if_neg fun h => Bool.false_ne_true h.1

/-- The number of an item, in terms of its position in the deque. -/
theorem Numbered.seqNum_getElem? (h : s.Numbered) (hi : s.slideWindow[i]? = some item) :
    item.seqNum = s.slideWindowLeftBoundSeqNum + .ofNat i := by
  rw [add_ofNat]
  refine h.seqNum _ _ ?_
  rw [itemAt, leftBound, lookup_add, hi]

/-! ## `prepareDataPacketsToSend` -/

/-- The loop takes the items inside the congestion window, as long as no check of the
debug build fails. -/
theorem prepareLoop_eq_of_check (hi : i < 2 ^ 32)
    (hcheck : ∀ j item, items[j]? = some item →
      s.ensureCorrectness debug item (.ofNat (i + j)) = .ok ()) :
    s.prepareLoop debug now i items = .ok
      (((items.take (s.curCongestionWindow.toNat - i)).filter (·.isSendable)).map
          (s.toDataPacket now),
        (items.take (s.curCongestionWindow.toNat - i)).map (·.markIfSendable now) ++
          items.drop (s.curCongestionWindow.toNat - i)) := by
  -- the position grows with every item looked at, so it varies in the induction
  induction items generalizing i with
  | nil => simp [prepareLoop]
  | cons item items ih =>
    rw [prepareLoop]
    by_cases hcw : UInt32.ofNat i < s.curCongestionWindow
    · have hlt : i < s.curCongestionWindow.toNat := (ofNat_lt_iff hi).mp hcw
      have hword := s.curCongestionWindow.toNat_lt
      have hrest := ih (i := i + 1) (by omega) fun j item hj => by
        rw [show i + 1 + j = i + (j + 1) by omega]
        exact hcheck (j + 1) item hj
      have hhead : s.ensureCorrectness debug item (.ofNat i) = .ok () := hcheck 0 item rfl
      rw [if_pos hcw, hhead, hrest,
        show s.curCongestionWindow.toNat - i = s.curCongestionWindow.toNat - (i + 1) + 1 by omega]
      by_cases hsend : item.isSendable
      · simp only [List.take_succ_cons, List.drop_succ_cons, List.filter_cons, hsend, if_true,
          List.map_cons, SlideWindowSenderItem.markIfSendable, List.cons_append]
        rfl
      · simp only [List.take_succ_cons, List.drop_succ_cons, List.filter_cons, hsend,
          List.map_cons, SlideWindowSenderItem.markIfSendable, List.cons_append]
        rfl
    · -- past the congestion window the loop returns the rest as it is
      have hle : s.curCongestionWindow.toNat - i = 0 := by
        rw [ofNat_lt_iff hi] at hcw
        omega
      rw [if_neg hcw, hle]
      rfl

theorem prepareLoop_eq (hlen : i + items.length < 2 ^ 32)
    (hnum : ∀ j item, items[j]? = some item →
      item.seqNum = s.slideWindowLeftBoundSeqNum + .ofNat (i + j)) :
    s.prepareLoop debug now i items = .ok
      (((items.take (s.curCongestionWindow.toNat - i)).filter (·.isSendable)).map
          (s.toDataPacket now),
        (items.take (s.curCongestionWindow.toNat - i)).map (·.markIfSendable now) ++
          items.drop (s.curCongestionWindow.toNat - i)) :=
  prepareLoop_eq_of_check (by omega) fun j item hj =>
    ensureCorrectness_of_eq debug (hnum j item hj).symm

/-- The packets a sending round returns. -/
def preparedPackets (now : Timeval) (s : SlideWindowSender) : List (DataPacket ItemData) :=
  ((s.slideWindow.take s.curCongestionWindow.toNat).filter (·.isSendable)).map (s.toDataPacket now)

/-- The state after a sending round. -/
def prepared (now : Timeval) (s : SlideWindowSender) : SlideWindowSender :=
  { s with
    slideWindow := (s.slideWindow.take s.curCongestionWindow.toNat).map (·.markIfSendable now) ++
      s.slideWindow.drop s.curCongestionWindow.toNat
    newDataReady := false
    curCongestionWindowTimeouted := false }

theorem prepareDataPacketsToSend_eq (h : s.Numbered) :
    s.prepareDataPacketsToSend debug now = .ok (s.preparedPackets now, s.prepared now) := by
  have hlen := h.rightEdge_lt
  rw [rightEdge] at hlen
  rw [prepareDataPacketsToSend, prepareLoop_eq (by omega) fun j item hj => by
    rw [h.seqNum_getElem? hj, Nat.zero_add], Nat.sub_zero]
  rfl

/-- Without the debug checks a sending round never fails. -/
theorem prepareDataPacketsToSend_release (now : Timeval) (s : SlideWindowSender) :
    s.prepareDataPacketsToSend false now = .ok (s.preparedPackets now, s.prepared now) := by
  have hcheck : ∀ j item, s.slideWindow[j]? = some item →
      s.ensureCorrectness false item (.ofNat (0 + j)) = .ok () :=
    fun _ _ _ => ensureCorrectness_false _
  rw [prepareDataPacketsToSend, prepareLoop_eq_of_check (by decide) hcheck, Nat.sub_zero]
  rfl

@[simp] theorem leftBound_prepared : (s.prepared now).leftBound = s.leftBound := rfl

@[simp] theorem rightEdge_prepared : (s.prepared now).rightEdge = s.rightEdge := by
  change s.leftBound + (_ ++ _ : List _).length = _
  simp only [rightEdge, List.length_append, List.length_map, List.length_take, List.length_drop]
  omega

theorem itemAt_prepared (n : ℕ) :
    (s.prepared now).itemAt n = (s.itemAt n).map fun item =>
      if n < s.leftBound + s.curCongestionWindow.toNat then item.markIfSendable now else item := by
  -- split the window where the congestion window ends
  have hsplit : s.itemAt n = lookup s.leftBound
      (s.slideWindow.take s.curCongestionWindow.toNat ++
        s.slideWindow.drop s.curCongestionWindow.toNat) n := by
    rw [List.take_append_drop]
    rfl
  rw [hsplit]
  change lookup s.leftBound (_ ++ _) n = _
  rw [lookup_append, lookup_append, List.length_map, lookup_map, List.length_take]
  by_cases hcw : n < s.leftBound + s.curCongestionWindow.toNat
  · simp only [hcw, if_true]
    by_cases hlen : n < s.leftBound + min s.curCongestionWindow.toNat s.slideWindow.length
    · rw [if_pos hlen, if_pos hlen]
    · -- the number lies right of a window shorter than the congestion window
      have hshort : s.slideWindow.length ≤ s.curCongestionWindow.toNat := by omega
      rw [if_neg hlen, if_neg hlen, List.drop_eq_nil_of_le hshort, lookup_nil]
      rfl
  · have hge : ¬ n < s.leftBound + min s.curCongestionWindow.toNat s.slideWindow.length := by omega
    simp only [hcw, if_false, hge, Option.map_id']

/-- A prepared packet is made of a sendable item inside the congestion window. -/
theorem mem_preparedPackets_iff {packet : DataPacket ItemData} :
    packet ∈ s.preparedPackets now ↔
      ∃ n item, s.itemAt n = some item ∧ n < s.leftBound + s.curCongestionWindow.toNat ∧
        item.isSendable ∧ s.toDataPacket now item = packet := by
  simp only [preparedPackets, List.mem_map, List.mem_filter]
  constructor
  · rintro ⟨item, ⟨hmem, hsend⟩, heq⟩
    obtain ⟨i, hi⟩ := List.mem_iff_getElem?.mp hmem
    have hlt : i < s.curCongestionWindow.toNat := by
      have := (List.getElem?_eq_some_iff.mp hi).1
      rw [List.length_take] at this
      omega
    rw [List.getElem?_take_of_lt hlt] at hi
    exact ⟨s.leftBound + i, item, by rw [itemAt, lookup_add, hi], by omega, hsend, heq⟩
  · rintro ⟨n, item, hitem, hlt, hsend, heq⟩
    have hle := (itemAt_bounds hitem).1
    rw [itemAt, lookup_of_le hle] at hitem
    refine ⟨item, ⟨List.mem_iff_getElem?.mpr ⟨n - s.leftBound, ?_⟩, hsend⟩, heq⟩
    rw [List.getElem?_take_of_lt (by omega), hitem]

/-! ## `checkTimeout` -/

/-- The sweep looks at every item, as long as no check of the debug build fails. -/
theorem timeoutLoop_eq_of_check (hcheck : ∀ j item, items[j]? = some item →
      s.ensureCorrectness debug item (.ofNat (i + j)) = .ok ()) :
    s.timeoutLoop debug timeoutThresholdUs now i items = .ok
      (items.any (·.hasExpired timeoutThresholdUs now),
        items.map (·.markIfExpired timeoutThresholdUs now)) := by
  induction items generalizing i with
  | nil => rfl
  | cons item items ih =>
    have hrest := ih (i := i + 1) fun j item hj => by
      rw [show i + 1 + j = i + (j + 1) by omega]
      exact hcheck (j + 1) item hj
    have hhead : s.ensureCorrectness debug item (.ofNat i) = .ok () := hcheck 0 item rfl
    rw [timeoutLoop, hhead, hrest]
    -- the flag of the rest is kept or overwritten, the items are consed either way
    by_cases hexp : item.hasExpired timeoutThresholdUs now
    · simp only [List.any_cons, List.map_cons, SlideWindowSenderItem.markIfExpired, hexp,
        if_true, Bool.true_or]
      rfl
    · simp only [List.any_cons, List.map_cons, SlideWindowSenderItem.markIfExpired, hexp,
        Bool.false_or]
      rfl

theorem timeoutLoop_eq (hnum : ∀ j item, items[j]? = some item →
      item.seqNum = s.slideWindowLeftBoundSeqNum + .ofNat (i + j)) :
    s.timeoutLoop debug timeoutThresholdUs now i items = .ok
      (items.any (·.hasExpired timeoutThresholdUs now),
        items.map (·.markIfExpired timeoutThresholdUs now)) :=
  timeoutLoop_eq_of_check fun j item hj => ensureCorrectness_of_eq debug (hnum j item hj).symm

/-- The state after a timeout sweep and before the penalty. -/
def swept (timeoutThresholdUs : UInt64) (now : Timeval) (s : SlideWindowSender) :
    SlideWindowSender :=
  { s with slideWindow := s.slideWindow.map (·.markIfExpired timeoutThresholdUs now) }

/-- Some item times out in the sweep. -/
def someExpired (timeoutThresholdUs : UInt64) (now : Timeval) (s : SlideWindowSender) : Bool :=
  s.slideWindow.any (·.hasExpired timeoutThresholdUs now)

/-- The state after `checkTimeout`. -/
def timeoutChecked (shrink : CongestionShrink) (timeoutThresholdUs : UInt64) (now : Timeval)
    (s : SlideWindowSender) : SlideWindowSender :=
  ((s.swept timeoutThresholdUs now).punishTimeout shrink
    (s.someExpired timeoutThresholdUs now)).updateNewDataReady

theorem checkTimeout_eq (h : s.Numbered) :
    s.checkTimeout shrink debug timeoutThresholdUs now =
      .ok (s.timeoutChecked shrink timeoutThresholdUs now) := by
  rw [checkTimeout, timeoutLoop_eq fun j item hj => by rw [h.seqNum_getElem? hj, Nat.zero_add]]
  rfl

/-- Without the debug checks a timeout sweep never fails. -/
theorem checkTimeout_release (shrink : CongestionShrink) (timeoutThresholdUs : UInt64)
    (now : Timeval) (s : SlideWindowSender) :
    s.checkTimeout shrink false timeoutThresholdUs now =
      .ok (s.timeoutChecked shrink timeoutThresholdUs now) := by
  rw [checkTimeout, timeoutLoop_eq_of_check fun _ _ _ => ensureCorrectness_false _]
  rfl

/-- In a sweep that ends every check of the debug build has passed. -/
theorem check_of_timeoutLoop {swept : Bool × List SlideWindowSenderItem}
    (hloop : s.timeoutLoop debug timeoutThresholdUs now i items = .ok swept) {j : ℕ}
    (hj : items[j]? = some item) : s.ensureCorrectness debug item (.ofNat (i + j)) = .ok () := by
  induction items generalizing i j swept with
  | nil => cases hj
  | cons head items ih =>
    rw [timeoutLoop] at hloop
    cases hcheck : s.ensureCorrectness debug head (.ofNat i) with
    | error fault =>
      rw [hcheck] at hloop
      cases hloop
    | ok _ =>
      cases hrest : s.timeoutLoop debug timeoutThresholdUs now (i + 1) items with
      | error fault =>
        rw [hcheck, hrest] at hloop
        cases hloop
      | ok rest =>
        cases j with
        | zero =>
          cases hj
          exact hcheck
        | succ j =>
          rw [show i + (j + 1) = i + 1 + j by omega]
          exact ih hrest hj

/-- A timeout sweep that ends did what it does without the debug checks. -/
theorem checkTimeout_of_ok {s' : SlideWindowSender}
    (hsweep : s.checkTimeout shrink debug timeoutThresholdUs now = .ok s') :
    s' = s.timeoutChecked shrink timeoutThresholdUs now := by
  cases hloop : s.timeoutLoop debug timeoutThresholdUs now 0 s.slideWindow with
  | error fault =>
    rw [checkTimeout, hloop] at hsweep
    cases hsweep
  | ok swept =>
    rw [checkTimeout, timeoutLoop_eq_of_check fun _ _ hj => check_of_timeoutLoop hloop hj] at hsweep
    exact (Except.ok.inj hsweep).symm

/-- The penalty changes the congestion variables and the penalty flag only. -/
theorem punishTimeout_cases (shrink : CongestionShrink) (some : Bool) (s : SlideWindowSender) :
    s.punishTimeout shrink some = s ∨
      (s.curCongestionWindowTimeouted = false ∧ some = true ∧
        s.punishTimeout shrink some =
          { s.setCongestionWindow congestionWindowMin with
            curCongestionThreshold := s.shrunkThreshold shrink
            curCongestionWindowTimeouted := true }) := by
  simp only [punishTimeout]
  split_ifs with h
  · rw [Bool.and_eq_true, Bool.not_eq_true'] at h
    exact .inr ⟨h.1, h.2, rfl⟩
  · exact .inl rfl

/-- The sweep marks items; the penalty and the readiness flag leave all but the
congestion variables alone. -/
theorem timeoutChecked_frame (shrink : CongestionShrink) (timeoutThresholdUs : UInt64)
    (now : Timeval) (s : SlideWindowSender) : ∃ window threshold bound timeouted ready,
    s.timeoutChecked shrink timeoutThresholdUs now =
      { s with
        slideWindow := s.slideWindow.map (·.markIfExpired timeoutThresholdUs now)
        curCongestionWindow := window
        curCongestionThreshold := threshold
        congestionLeftBoundSeqNum := bound
        curCongestionWindowTimeouted := timeouted
        newDataReady := ready } := by
  simp only [timeoutChecked]
  rcases punishTimeout_cases shrink (s.someExpired timeoutThresholdUs now)
    (s.swept timeoutThresholdUs now) with heq | ⟨-, -, heq⟩
  · rw [heq]
    exact ⟨_, _, _, _, _, rfl⟩
  · rw [heq]
    exact ⟨_, _, _, _, _, rfl⟩

@[simp] theorem leftBound_timeoutChecked :
    (s.timeoutChecked shrink timeoutThresholdUs now).leftBound = s.leftBound := by
  obtain ⟨_, _, _, _, _, heq⟩ := timeoutChecked_frame shrink timeoutThresholdUs now s
  rw [heq]
  rfl

@[simp] theorem slideWindow_timeoutChecked :
    (s.timeoutChecked shrink timeoutThresholdUs now).slideWindow =
      s.slideWindow.map (·.markIfExpired timeoutThresholdUs now) := by
  obtain ⟨_, _, _, _, _, heq⟩ := timeoutChecked_frame shrink timeoutThresholdUs now s
  rw [heq]

@[simp] theorem rightEdge_timeoutChecked :
    (s.timeoutChecked shrink timeoutThresholdUs now).rightEdge = s.rightEdge := by
  rw [rightEdge, leftBound_timeoutChecked, slideWindow_timeoutChecked, List.length_map, rightEdge]

theorem itemAt_timeoutChecked (n : ℕ) :
    (s.timeoutChecked shrink timeoutThresholdUs now).itemAt n =
      (s.itemAt n).map (·.markIfExpired timeoutThresholdUs now) := by
  rw [itemAt, leftBound_timeoutChecked, slideWindow_timeoutChecked, lookup_map, itemAt]

/-! ## Following a packet's pointer -/

/-- The pointer of an item in the window leads to that item's data. -/
theorem readItemData_eq (h : s.Numbered) (hitem : s.itemAt n = some item) :
    s.readItemData ⟨.ofNat n⟩ = some item.data := by
  have hseq := h.seqNum n item hitem
  cases hfind : s.slideWindow.find? (fun item => decide (item.seqNum = .ofNat n)) with
  | none =>
    rw [List.find?_eq_none] at hfind
    exact absurd (decide_eq_true hseq) (hfind item (mem_iff_itemAt.mpr ⟨n, hitem⟩))
  | some found =>
    obtain ⟨m, hm⟩ := mem_iff_itemAt.mp (List.mem_of_find?_eq_some hfind)
    have hsame : found.seqNum = .ofNat n := by
      simpa using List.find?_some hfind
    -- numbers inside the window determine their items
    have hnm : m = n := by
      rw [h.seqNum m found hm, ← UInt32.toNat_inj,
        toNat_ofNat ((itemAt_bounds hm).2.trans (h.rightEdge_lt.trans (by decide))),
        toNat_ofNat ((itemAt_bounds hitem).2.trans (h.rightEdge_lt.trans (by decide)))] at hsame
      exact hsame
    subst hnm
    rw [hitem] at hm
    cases hm
    rw [readItemData]
    simp only [hfind, Option.map_some]

/-- The pointer of an item that has left the window leads nowhere. -/
theorem readItemData_eq_none (h : s.Numbered) (hn : n < s.leftBound) :
    s.readItemData ⟨.ofNat n⟩ = none := by
  have hedge := h.rightEdge_lt
  have hle := s.leftBound_le_rightEdge
  have hfind : s.slideWindow.find? (fun item => decide (item.seqNum = .ofNat n)) = none := by
    rw [List.find?_eq_none]
    intro item hmem
    obtain ⟨m, hm⟩ := mem_iff_itemAt.mp hmem
    obtain ⟨hleft, hright⟩ := itemAt_bounds hm
    rw [decide_eq_true_iff, h.seqNum m item hm, ← UInt32.toNat_inj, toNat_ofNat (by omega),
      toNat_ofNat (by omega)]
    omega
  rw [readItemData]
  simp only [hfind, Option.map_none]

end SlideWindowSender

end ReliablePacket
