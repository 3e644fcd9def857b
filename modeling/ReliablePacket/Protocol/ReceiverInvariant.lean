/-
# The receiver's invariant

The receiver keeps 200 numbered items, and an item is marked received exactly
when its payload has been written. The expected number is the lowest number that
has not been written. This holds for any packets whatsoever, since a packet is
taken only when its number lies inside the window and the range test does not
wrap.

A packet inside the buffer adds its number to the written ones; a packet outside
leaves the window and the file alone.
-/
import ReliablePacket.Math.NumberedQueue
import ReliablePacket.Protocol.SlideWindowReceiver
import ReliablePacket.Semantics.SelectiveRepeat

set_option autoImplicit false

namespace ReliablePacket

open NumberedQueue SelectiveRepeat

namespace SlideWindowReceiver

variable {r : SlideWindowReceiver} {debug : Bool} {seqNum nextSeqNum : UInt32}
variable {item : SlideWindowReceiverItem} {items : List SlideWindowReceiverItem} {i k n : ℕ}
variable {dataPacket : DataPacket (List UInt8)}

/-! ## Observations -/

/-- The expected sequence number as a number. -/
def nextExpected (r : SlideWindowReceiver) : ℕ := r.nextExpectedPacketSeqNum.toNat

/-- The item with number `n`. -/
def itemAt (r : SlideWindowReceiver) (n : ℕ) : Option SlideWindowReceiverItem :=
  lookup r.nextExpected r.slideWindow n

/-- The sequence numbers whose payload has been written. -/
def written (r : SlideWindowReceiver) : Set ℕ := {n | ∃ w ∈ r.fileToWrite, w.seqNum.toNat = n}

/-- An item as the fill loops create it. -/
def freshItem (n : ℕ) : SlideWindowReceiverItem := ⟨.ofNat n, .notReceived⟩

/-- The items from number `n` on, none of them received. -/
def freshItems (n count : ℕ) : List SlideWindowReceiverItem :=
  (List.range count).map fun j => freshItem (n + j)

/-- What every state of a receiver satisfies between operations. -/
structure Inv (r : SlideWindowReceiver) : Prop where
  windowSize : r.curWindowSize = initWindowSize
  length : r.slideWindow.length = 200
  items : ∀ n item, r.itemAt n = some item →
    item.seqNum = .ofNat n ∧ (item.state = .received ↔ n ∈ r.written)
  hole : FirstHole r.written r.nextExpected
  written_lt : ∀ n ∈ r.written, n < r.nextExpected + 200
  nodup : (r.fileToWrite.map (·.seqNum)).Nodup

theorem lookup_freshItems (base count n : ℕ) :
    lookup base (freshItems base count) n =
      if base ≤ n ∧ n < base + count then some (freshItem n) else none := by
  simp only [freshItems]
  rw [lookup_map]
  split_ifs with hn
  · rw [lookup_of_le hn.1, List.getElem?_range (by omega), Option.map_some, Nat.add_sub_of_le hn.1]
  · rcases not_and_or.mp hn with hlt | hge
    · rw [lookup_of_lt (not_le.mp hlt)]
      rfl
    · by_cases hle : base ≤ n
      · rw [lookup_of_le hle, List.getElem?_eq_none (by rw [List.length_range]; omega)]
        rfl
      · rw [lookup_of_lt (not_le.mp hle)]
        rfl

/-! ## The loops -/

theorem fillLoop_eq : fillLoop nextSeqNum n items =
    items ++ freshItems (nextSeqNum.toNat + items.length) n := by
  -- every round appends one item, so the deque varies in the induction
  induction n generalizing items with
  | zero => simp [fillLoop, freshItems]
  | succ n ih =>
    have hstart : nextSeqNum + .ofNat items.length = .ofNat (nextSeqNum.toNat + items.length) :=
      add_ofNat _ _
    rw [fillLoop, hstart, ih, List.length_append, List.length_singleton, List.append_assoc]
    simp only [freshItems]
    rw [List.range_succ_eq_map, List.map_cons, List.map_map, Nat.add_zero]
    refine congrArg (items ++ freshItem _ :: ·) (List.map_congr_left fun j _ => ?_)
    exact congrArg freshItem (by omega)

/-- The slide loop pops the received items at the front, and no other. -/
theorem slideLoop_eq (debug : Bool) (hnum : ∀ j item, items[j]? = some item →
      item.seqNum = nextSeqNum + .ofNat j) :
    ∃ k ≤ items.length, slideLoop debug nextSeqNum items =
        .ok (nextSeqNum + .ofNat k, items.drop k) ∧
      (∀ j < k, ∀ item, items[j]? = some item → item.state = .received) ∧
      (∀ item, items[k]? = some item → item.state = .notReceived) := by
  -- the expected number grows with every item popped, so it varies in the induction
  induction items generalizing nextSeqNum with
  | nil =>
    refine ⟨0, le_rfl, ?_, fun j hj => absurd hj (Nat.not_lt_zero j), fun item h => by cases h⟩
    rw [slideLoop, List.drop_nil, show UInt32.ofNat 0 = 0 from rfl, UInt32.add_zero]
  | cons head items ih =>
    have hhead : head.seqNum = nextSeqNum := by
      rw [hnum 0 head rfl, show UInt32.ofNat 0 = 0 from rfl, UInt32.add_zero]
    -- an item that was not received stops the loop, a received one is popped
    cases hstate : head.state with
    | notReceived =>
      refine ⟨0, Nat.zero_le _, ?_, fun j hj => absurd hj (Nat.not_lt_zero j), ?_⟩
      · rw [slideLoop, hstate, if_neg (by decide), show UInt32.ofNat 0 = 0 from rfl,
          UInt32.add_zero]
        rfl
      · intro item hitem
        cases hitem
        exact hstate
    | received =>
      have hshift : ∀ j, nextSeqNum + 1 + .ofNat j = nextSeqNum + .ofNat (j + 1) := by
        intro j
        rw [UInt32.add_assoc, UInt32.ofNat_add, UInt32.add_comm 1]
        rfl
      obtain ⟨k, hk, heq, hfront, hstop⟩ := @ih (nextSeqNum + 1) fun j item hj => by
        rw [hnum (j + 1) item hj, hshift]
      refine ⟨k + 1, Nat.succ_le_succ hk, ?_, ?_, hstop⟩
      · -- the check of the debug build holds for a numbered window
        have hcheck : ensureCorrectness debug nextSeqNum head 0 = .ok () := by
          refine if_neg fun hne => hne.2 ?_
          rw [hhead, UInt32.add_zero]
        rw [slideLoop, hstate, if_pos rfl, hcheck, ← hshift]
        exact heq
      · intro j hj item hitem
        cases j with
        | zero =>
          cases hitem
          exact hstate
        | succ j => exact hfront j (Nat.lt_of_succ_lt_succ hj) item hitem

/-! ## The constructor -/

theorem slideWindow_new : new.slideWindow = freshItems 0 200 := by
  have hcount : initWindowSize.toNat - ([] : List SlideWindowReceiverItem).length = 200 := rfl
  rw [new, fill]
  dsimp only
  rw [hcount, fillLoop_eq, List.nil_append]
  rfl

theorem inv_new : Inv new where
  windowSize := rfl
  length := by
    rw [slideWindow_new, freshItems, List.length_map, List.length_range]
  items := by
    intro n item hn
    rw [itemAt, slideWindow_new] at hn
    change lookup 0 _ n = _ at hn
    rw [lookup_freshItems] at hn
    split_ifs at hn
    cases hn
    refine ⟨rfl, ?_, ?_⟩
    · intro hstate
      cases hstate
    · rintro ⟨w, hw, -⟩
      cases hw
  hole := by
    refine ⟨fun m hm => absurd hm (Nat.not_lt_zero m), ?_⟩
    rintro ⟨w, hw, -⟩
    cases hw
  written_lt := by
    rintro n ⟨w, hw, -⟩
    cases hw
  nodup := List.nodup_nil

/-! ## Packets outside the buffer -/

/-- The receiver's state after a packet that it does not buffer. -/
theorem fill_eq_self (h : r.Inv) : r.fill = r := by
  have hnone : r.curWindowSize.toNat - r.slideWindow.length = 0 := by
    rw [h.windowSize, h.length]
    rfl
  rw [fill, hnone]
  rfl

@[simp] theorem written_recordFinish : (r.recordFinish dataPacket).written = r.written := by
  simp only [recordFinish]
  split_ifs <;> rfl

theorem Inv.recordFinish (h : r.Inv) : (r.recordFinish dataPacket).Inv := by
  simp only [SlideWindowReceiver.recordFinish]
  split_ifs
  · exact ⟨h.windowSize, h.length, h.items, h.hole, h.written_lt, h.nodup⟩
  · exact h

/-- A packet passes the range test when its number is at least the expected one
and the end of the buffer, which does not wrap, lies behind it. -/
theorem Inv.outOfBuffer_eq_false_iff (h : r.Inv) :
    r.outOfBuffer seqNum = false ↔
      r.nextExpected ≤ seqNum.toNat ∧ seqNum.toNat < r.nextExpected + 200 ∧
        r.nextExpected + 200 < 2 ^ 32 := by
  have hseq := seqNum.toNat_lt
  have hend : (r.nextExpectedPacketSeqNum + r.curWindowSize).toNat =
      (r.nextExpected + 200) % 2 ^ 32 := by
    rw [UInt32.toNat_add, h.windowSize]
    rfl
  have hnext : r.nextExpected < 2 ^ 32 := r.nextExpectedPacketSeqNum.toNat_lt
  rw [outOfBuffer, Bool.or_eq_false_iff, decide_eq_false_iff_not, decide_eq_false_iff_not,
    UInt32.lt_iff_toNat_lt, UInt32.le_iff_toNat_le, hend]
  change ¬ seqNum.toNat < r.nextExpected ∧ _ ↔ _
  omega

theorem receiveDataPacket_outOfBuffer (h : r.Inv)
    (htype : dataPacket.type = .regular ∨ dataPacket.type = .finish)
    (hout : r.outOfBuffer dataPacket.seqNum = true) :
    r.receiveDataPacket debug dataPacket =
      .ok (⟨r.nextExpectedPacketSeqNum, r.nextExpectedPacketSeqNum⟩,
        r.recordFinish dataPacket) := by
  have hsame : (r.recordFinish dataPacket).nextExpectedPacketSeqNum =
      r.nextExpectedPacketSeqNum ∧
        (r.recordFinish dataPacket).outOfBuffer dataPacket.seqNum =
          r.outOfBuffer dataPacket.seqNum := by
    simp only [SlideWindowReceiver.recordFinish]
    split_ifs <;> exact ⟨rfl, rfl⟩
  rw [receiveDataPacket, if_pos htype]
  dsimp only
  rw [hsame.2, hout, if_pos rfl, hsame.1, fill_eq_self h.recordFinish]

/-! ## Packets inside the buffer -/

/-- The call that writes a packet's payload. -/
def fileWriteOf (dataPacket : DataPacket (List UInt8)) : FileWrite :=
  ⟨dataPacket.seqNum, writeOffset dataPacket.seqNum, dataPacket.data.take dataPacket.dataSize⟩

/-- The writes after a packet inside the buffer. -/
def writesAfter (dataPacket : DataPacket (List UInt8)) (r : SlideWindowReceiver) :
    List FileWrite :=
  if dataPacket.seqNum ∈ r.fileToWrite.map (·.seqNum) then r.fileToWrite
  else fileWriteOf dataPacket :: r.fileToWrite

theorem mem_written_iff : seqNum.toNat ∈ r.written ↔ seqNum ∈ r.fileToWrite.map (·.seqNum) := by
  rw [List.mem_map]
  refine exists_congr fun w => and_congr_right fun _ => ?_
  exact UInt32.toNat_inj

/-- The numbers that were written depend on the file only. -/
theorem written_congr {r' : SlideWindowReceiver} (hfile : r'.fileToWrite = r.fileToWrite) :
    r'.written = r.written := by
  rw [written, written, hfile]

/-- The distance to the expected number does not wrap and indexes the packet's item. -/
theorem Inv.index_eq (h : r.Inv) (hin : r.outOfBuffer seqNum = false) :
    sizeOfInt (intOfUnsigned (seqNum - r.nextExpectedPacketSeqNum)) =
      seqNum.toNat - r.nextExpected := by
  obtain ⟨hle, hlt, -⟩ := h.outOfBuffer_eq_false_iff.mp hin
  have hdist : (seqNum - r.nextExpectedPacketSeqNum).toNat = seqNum.toNat - r.nextExpected :=
    UInt32.toNat_sub_of_le _ _ (UInt32.le_iff_toNat_le.mpr hle)
  rw [sizeOfInt_intOfUnsigned, hdist, if_pos (by omega)]

/-- Buffering marks the item received and writes the payload, unless the item was
received before. -/
theorem bufferData_eq (h : r.Inv) (hin : r.outOfBuffer dataPacket.seqNum = false) :
    ∃ window, r.bufferData dataPacket =
        .ok { r with slideWindow := window, fileToWrite := r.writesAfter dataPacket } ∧
      window.length = 200 ∧
      ∀ n item, lookup r.nextExpected window n = some item → item.seqNum = .ofNat n ∧
        (item.state = .received ↔ n ∈ insert dataPacket.seqNum.toNat r.written) := by
  obtain ⟨hle, hlt, -⟩ := h.outOfBuffer_eq_false_iff.mp hin
  have hindex := h.index_eq hin
  obtain ⟨item, hitem⟩ : ∃ item, r.itemAt dataPacket.seqNum.toNat = some item :=
    exists_lookup_iff.mpr ⟨hle, by rw [h.length]; omega⟩
  obtain ⟨hseq, hstate⟩ := h.items _ item hitem
  rw [UInt32.ofNat_toNat] at hseq
  rw [itemAt, lookup_of_le hle] at hitem
  rw [bufferData]
  simp only [hindex, hitem]
  by_cases hold : dataPacket.seqNum.toNat ∈ r.written
  · -- a duplicate: the item is marked already, and its payload stays
    refine ⟨r.slideWindow, ?_, h.length, ?_⟩
    · rw [hstate.mpr hold, if_neg (by decide), writesAfter, if_pos (mem_written_iff.mp hold)]
    · rw [Set.insert_eq_of_mem hold]
      exact h.items
  · have hnew : item.state = .notReceived := by
      cases hs : item.state with
      | received => exact absurd (hstate.mp hs) hold
      | notReceived => rfl
    refine ⟨r.slideWindow.set (dataPacket.seqNum.toNat - r.nextExpected)
      { item with state := .received }, ?_, ?_, ?_⟩
    · rw [hnew, if_pos rfl, writesAfter, if_neg fun hmem => hold (mem_written_iff.mpr hmem),
        fileWriteOf, hseq]
    · rw [List.length_set, h.length]
    · intro n item' hn
      -- only the packet's own item changes
      rw [lookup_set] at hn
      split_ifs at hn with hat
      · cases hn
        have hn' : n = dataPacket.seqNum.toNat := by omega
        rw [hn', UInt32.ofNat_toNat]
        exact ⟨hseq, by simp⟩
      · have hne : n ≠ dataPacket.seqNum.toNat := by
          rw [h.length] at hat
          omega
        rw [Set.mem_insert_iff, or_iff_right hne]
        exact h.items n item' hn

theorem Inv.nodup_writesAfter (h : r.Inv) :
    ((r.writesAfter dataPacket).map (·.seqNum)).Nodup := by
  simp only [writesAfter]
  split_ifs with hold
  · exact h.nodup
  · exact List.nodup_cons.mpr ⟨hold, h.nodup⟩

/-- The state after a packet inside the buffer, apart from the finish mark. -/
def bufferedState (dataPacket : DataPacket (List UInt8)) (next : UInt32)
    (window : List SlideWindowReceiverItem) (r : SlideWindowReceiver) : SlideWindowReceiver :=
  { r with
    fileToWrite := r.writesAfter dataPacket
    nextExpectedPacketSeqNum := next
    slideWindow := window }

@[simp] theorem nextExpected_bufferedState {next : UInt32}
    {window : List SlideWindowReceiverItem} :
    (r.bufferedState dataPacket next window).nextExpected = next.toNat := rfl

@[simp] theorem itemAt_bufferedState {next : UInt32} {window : List SlideWindowReceiverItem} :
    (r.bufferedState dataPacket next window).itemAt n = lookup next.toNat window n := rfl

@[simp] theorem written_bufferedState {next : UInt32}
    {window : List SlideWindowReceiverItem} :
    (r.bufferedState dataPacket next window).written =
      insert dataPacket.seqNum.toNat r.written := by
  change {n | ∃ w ∈ r.writesAfter dataPacket, w.seqNum.toNat = n} = _
  simp only [writesAfter]
  split_ifs with hold
  · exact (Set.insert_eq_of_mem (mem_written_iff.mpr hold)).symm
  · ext n
    simp only [List.mem_cons, exists_eq_or_imp, Set.mem_ofPred_eq, Set.mem_insert_iff, written,
      eq_comm (a := n)]
    rfl

/-! ## Sliding and filling -/

/-- Popping `k` items and filling up again moves the window up by `k` numbers. -/
theorem lookup_slidWindow {window : List SlideWindowReceiverItem} (hlen : window.length = 200)
    (hk : k ≤ 200) (base n : ℕ) :
    lookup (base + k) (window.drop k ++ freshItems (base + 200) k) n =
      if n < base + 200 then if n < base + k then none else lookup base window n
      else if n < base + 200 + k then some (freshItem n) else none := by
  have hedge : base + k + (window.drop k).length = base + 200 := by
    rw [List.length_drop, hlen]
    omega
  rw [lookup_append, hedge, lookup_drop, lookup_freshItems]
  split_ifs <;> first | rfl | omega

/-- The slide loop stops at the lowest number that is not written: the items it
popped were received, and the one it stopped at was not. -/
theorem firstHole_slid {window : List SlideWindowReceiverItem} {next : ℕ} {S S' : Set ℕ}
    (hhole : FirstHole S next) (hsub : S ⊆ S') (hlen : window.length = 200)
    (hlt : ∀ n ∈ S', n < next + 200)
    (hitems : ∀ n item, lookup next window n = some item → (item.state = .received ↔ n ∈ S'))
    (hk : k ≤ 200) (hfront : ∀ j < k, ∀ item, window[j]? = some item → item.state = .received)
    (hstop : ∀ item, window[k]? = some item → item.state = .notReceived) :
    FirstHole S' (next + k) := by
  have hexists : ∀ j < 200, ∃ item, lookup next window (next + j) = some item := by
    intro j hj
    exact exists_lookup_iff.mpr ⟨Nat.le_add_right _ _, by omega⟩
  refine ⟨fun m hm => ?_, fun hmem => ?_⟩
  · rcases Nat.lt_or_ge m next with hbelow | habove
    · exact hsub (hhole.1 m hbelow)
    · obtain ⟨j, rfl⟩ : ∃ j, m = next + j := ⟨_, (Nat.add_sub_of_le habove).symm⟩
      obtain ⟨item, hitem⟩ := hexists j (by omega)
      refine (hitems _ item hitem).mp (hfront j (by omega) item ?_)
      rw [← lookup_add next, hitem]
  · -- a written number lies in the buffer, so the loop stopped at its item
    have hshort : k < 200 := by
      have := hlt _ hmem
      omega
    obtain ⟨item, hitem⟩ := hexists k hshort
    have hreceived := (hitems _ item hitem).mpr hmem
    rw [lookup_add] at hitem
    rw [hstop item hitem] at hreceived
    cases hreceived

/-- The invariant after the window has moved up by `k` numbers. -/
theorem Inv.bufferedState (h : r.Inv) (hin : r.outOfBuffer dataPacket.seqNum = false)
    {window : List SlideWindowReceiverItem} (hlen : window.length = 200)
    (hitems : ∀ n item, lookup r.nextExpected window n = some item → item.seqNum = .ofNat n ∧
      (item.state = .received ↔ n ∈ insert dataPacket.seqNum.toNat r.written))
    (hk : k ≤ 200) (hfront : ∀ j < k, ∀ item, window[j]? = some item → item.state = .received)
    (hstop : ∀ item, window[k]? = some item → item.state = .notReceived) {next : UInt32}
    (hnext : next.toNat = r.nextExpected + k) :
    (r.bufferedState dataPacket next
      (window.drop k ++ freshItems (r.nextExpected + 200) k)).Inv := by
  obtain ⟨-, hlt, -⟩ := h.outOfBuffer_eq_false_iff.mp hin
  have hwritten : ∀ n ∈ insert dataPacket.seqNum.toNat r.written, n < r.nextExpected + 200 := by
    rintro n (rfl | hmem)
    · exact hlt
    · exact h.written_lt n hmem
  exact
    { windowSize := h.windowSize
      length := by
        change (window.drop k ++ freshItems (r.nextExpected + 200) k).length = 200
        rw [List.length_append, List.length_drop, hlen, freshItems, List.length_map,
          List.length_range]
        omega
      items := by
        intro n item hn
        rw [itemAt_bufferedState, hnext, lookup_slidWindow hlen hk] at hn
        rw [written_bufferedState]
        split_ifs at hn with hold hpopped hnew
        · exact hitems n item hn
        · -- an item that was filled in lies behind everything written
          cases hn
          refine ⟨rfl, fun hstate => ?_, fun hmem => absurd (hwritten n hmem) hold⟩
          cases hstate
      hole := by
        rw [written_bufferedState, nextExpected_bufferedState, hnext]
        exact firstHole_slid h.hole (Set.subset_insert _ _) hlen hwritten
          (fun n item hn => (hitems n item hn).2) hk hfront hstop
      written_lt := by
        rw [written_bufferedState, nextExpected_bufferedState, hnext]
        intro n hmem
        have := hwritten n hmem
        omega
      nodup := h.nodup_writesAfter }

/-- Buffering, sliding and filling make the number written and keep the invariant. -/
theorem buffered (debug : Bool) (h : r.Inv) (hin : r.outOfBuffer dataPacket.seqNum = false) :
    ∃ next window,
      (do
        let r ← r.bufferData dataPacket
        let r ← r.slide debug
        return ((⟨r.nextExpectedPacketSeqNum, dataPacket.seqNum⟩ : RetAckPacket), r.fill)) =
        .ok (⟨next, dataPacket.seqNum⟩, r.bufferedState dataPacket next window) ∧
      (r.bufferedState dataPacket next window).Inv := by
  obtain ⟨window, hbuffer, hlen, hitems⟩ := bufferData_eq h hin
  obtain ⟨-, -, hwrap⟩ := h.outOfBuffer_eq_false_iff.mp hin
  have hnum : ∀ j item, window[j]? = some item →
      item.seqNum = r.nextExpectedPacketSeqNum + .ofNat j := by
    intro j item hj
    rw [← lookup_add r.nextExpected] at hj
    rw [(hitems _ item hj).1, add_ofNat]
    rfl
  obtain ⟨k, hk, hslide, hfront, hstop⟩ := slideLoop_eq debug hnum
  rw [hlen] at hk
  -- the expected number does not wrap, because the end of the buffer does not
  have hnext : (r.nextExpectedPacketSeqNum + .ofNat k).toNat = r.nextExpected + k := by
    rw [add_ofNat, toNat_ofNat (by change r.nextExpected + k < _; omega)]
    rfl
  refine ⟨r.nextExpectedPacketSeqNum + .ofNat k,
    window.drop k ++ freshItems (r.nextExpected + 200) k, ?_,
    h.bufferedState hin hlen hitems hk hfront hstop hnext⟩
  have hcount : r.curWindowSize.toNat - (window.drop k).length = k := by
    rw [h.windowSize, List.length_drop, hlen, show initWindowSize.toNat = 200 from rfl]
    omega
  have hedge : r.nextExpected + k + (window.drop k).length = r.nextExpected + 200 := by
    rw [List.length_drop, hlen]
    omega
  have hfill : fillLoop (r.nextExpectedPacketSeqNum + .ofNat k)
      (r.curWindowSize.toNat - (window.drop k).length) (window.drop k) =
        window.drop k ++ freshItems (r.nextExpected + 200) k := by
    rw [hcount, fillLoop_eq, hnext, hedge]
  rw [hbuffer]
  change ({ r with slideWindow := window, fileToWrite := r.writesAfter dataPacket } :
    SlideWindowReceiver).slide debug >>= _ = _
  rw [slide, hslide, ← hfill]
  rfl

/-- **What a packet inside the buffer does.** Its number becomes written, the
reply names it and the new expected number, and the invariant is kept. -/
theorem receiveDataPacket_inBuffer (debug : Bool) (h : r.Inv)
    (htype : dataPacket.type = .regular ∨ dataPacket.type = .finish)
    (hin : r.outOfBuffer dataPacket.seqNum = false) :
    ∃ next window, r.receiveDataPacket debug dataPacket =
        .ok (⟨next, dataPacket.seqNum⟩,
          (r.recordFinish dataPacket).bufferedState dataPacket next window) ∧
      ((r.recordFinish dataPacket).bufferedState dataPacket next window).Inv := by
  have hsame : (r.recordFinish dataPacket).outOfBuffer dataPacket.seqNum = false := by
    rw [← hin]
    simp only [SlideWindowReceiver.recordFinish]
    split_ifs <;> rfl
  obtain ⟨next, window, heq, hinv⟩ := buffered debug h.recordFinish hsame
  refine ⟨next, window, ?_, hinv⟩
  rw [receiveDataPacket, if_pos htype]
  dsimp only
  rw [hsame, if_neg Bool.false_ne_true]
  exact heq

/-- **Everything `receiveDataPacket` can do.** It never fails on a data packet and
keeps the invariant. Either the packet lies outside the buffer, or its number
becomes written; the reply carries the new expected number in both cases. -/
theorem receiveDataPacket_cases (debug : Bool) (h : r.Inv)
    (htype : dataPacket.type = .regular ∨ dataPacket.type = .finish) :
    ∃ ret r', r.receiveDataPacket debug dataPacket = .ok (ret, r') ∧ r'.Inv ∧
      ret.cumulativeSeqNum = r'.nextExpectedPacketSeqNum ∧
      r'.lastPacketSeqNumReceived = (r.recordFinish dataPacket).lastPacketSeqNumReceived ∧
      r'.lastPacketSeqNum = (r.recordFinish dataPacket).lastPacketSeqNum ∧
      (r.outOfBuffer dataPacket.seqNum = true ∧
          ret.selectiveSeqNum = r'.nextExpectedPacketSeqNum ∧
          r'.nextExpectedPacketSeqNum = r.nextExpectedPacketSeqNum ∧
          r'.fileToWrite = r.fileToWrite ∨
        r.outOfBuffer dataPacket.seqNum = false ∧ ret.selectiveSeqNum = dataPacket.seqNum ∧
          r'.written = insert dataPacket.seqNum.toNat r.written ∧
          r'.fileToWrite = r.writesAfter dataPacket) := by
  have hrecord : (r.recordFinish dataPacket).nextExpectedPacketSeqNum =
      r.nextExpectedPacketSeqNum ∧ (r.recordFinish dataPacket).fileToWrite = r.fileToWrite ∧
        (r.recordFinish dataPacket).writesAfter dataPacket = r.writesAfter dataPacket := by
    simp only [SlideWindowReceiver.recordFinish]
    split_ifs <;> exact ⟨rfl, rfl, rfl⟩
  cases hout : r.outOfBuffer dataPacket.seqNum with
  | true =>
    refine ⟨_, _, receiveDataPacket_outOfBuffer h htype hout, h.recordFinish, hrecord.1.symm,
      rfl, rfl, .inl ⟨rfl, hrecord.1.symm, hrecord.1, hrecord.2.1⟩⟩
  | false =>
    obtain ⟨next, window, heq, hinv⟩ := receiveDataPacket_inBuffer debug h htype hout
    refine ⟨_, _, heq, hinv, rfl, rfl, rfl, .inr ⟨rfl, rfl, ?_, hrecord.2.2⟩⟩
    rw [written_bufferedState, written_recordFinish]

end SlideWindowReceiver

end ReliablePacket
