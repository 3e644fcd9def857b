/-
# The order of acknowledgements does not matter

What the sender regards as delivered is a function of the set of acknowledgements
it has processed: the left bound is their largest cumulative number, the bytes
sent are those of the packets below it, and the items marked acknowledged are
those that some acknowledgement named. Order, repetition, timeouts and sending
rounds in between leave no trace in it, although the congestion window, the right
edge and the duplicate counter do depend on them.

When no acknowledgement is left to be processed, that state is the receiver's own.
-/
import ReliablePacket.System.Integrity

set_option autoImplicit false

namespace ReliablePacket

open SlideWindowSender

variable {t : Transfer} {sys sys' : System} {seqNum : UInt32}

/-- The largest cumulative number among the acknowledgements, 0 without any. -/
def largestCumulative (acks : List AckPacket) : ℕ :=
  (acks.map (·.cumulativeSeqNum.toNat)).foldr max 0

/-- The numbers of the items in state `acked`. -/
def SlideWindowSender.ackedSeqNums (s : SlideWindowSender) : Set UInt32 :=
  {seqNum | ∃ item ∈ s.slideWindow, item.seqNum = seqNum ∧ item.state = .acked}

namespace System.Inv

/-- The left bound is an upper bound of the processed cumulative numbers and is
attained by one of them. -/
theorem leftBound_eq (h : sys.Inv t) :
    sys.sender.leftBound = largestCumulative sys.acksProcessed := by
  refine le_antisymm ?_ ?_
  · rcases h.protocol.inv.base_attained with hzero | ⟨a, ha, heq⟩
    · have hzero' : sys.sender.leftBound = 0 := hzero
      omega
    · obtain ⟨ackPacket, hmem, rfl⟩ := List.mem_map.mp ha
      exact List.le_max_of_le (List.mem_map.mpr ⟨ackPacket, hmem, rfl⟩) heq.ge
  · refine List.max_le_of_forall_le _ _ fun n hn => ?_
    obtain ⟨ackPacket, hmem, rfl⟩ := List.mem_map.mp hn
    exact h.protocol.inv.processed_le _ (toAck_mem_processed hmem)

/-- No acknowledgement named a number right of the window, so none was ignored. -/
theorem mem_ackedSeqNums_iff (h : sys.Inv t) (ht : t.InRange) :
    seqNum ∈ sys.sender.ackedSeqNums ↔
      sys.sender.leftBound ≤ seqNum.toNat ∧ sys.SelectivelyAcked seqNum.toNat := by
  have hlt := (h.sender.numbered ht).rightEdge_lt
  constructor
  · rintro ⟨item, hmem, hseq, hacked⟩
    obtain ⟨n, hitem⟩ := mem_iff_itemAt.mp hmem
    obtain ⟨hleft, hright⟩ := itemAt_bounds hitem
    have hn : seqNum.toNat = n := by
      rw [← hseq, (h.sender.items n item hitem).seqNum, toNat_ofNat (by omega)]
    rw [hn]
    exact ⟨hleft, (h.acked n item hitem).mp hacked⟩
  · rintro ⟨hleft, hselected⟩
    have hright : seqNum.toNat < sys.sender.rightEdge := by
      by_contra hge
      exact h.not_selectivelyAcked (not_lt.mp hge) hselected
    obtain ⟨item, hitem⟩ := exists_itemAt_iff.mpr ⟨hleft, hright⟩
    refine ⟨item, mem_iff_itemAt.mpr ⟨_, hitem⟩, ?_, (h.acked _ item hitem).mpr hselected⟩
    rw [(h.sender.items _ item hitem).seqNum, UInt32.ofNat_toNat]

/-- Senders that processed the same acknowledgements have the same left bound. -/
theorem leftBound_congr (h : sys.Inv t) (h' : sys'.Inv t)
    (hsame : sys'.abs.processed = sys.abs.processed) :
    sys'.sender.leftBound = sys.sender.leftBound :=
  le_antisymm (h'.protocol.inv.base_le_of_processed_subset h.protocol.inv hsame.subset)
    (h.protocol.inv.base_le_of_processed_subset h'.protocol.inv hsame.superset)

end System.Inv

/-- **The delivery state is a function of the acknowledgements processed.** Two runs
that processed the same ones, in whatever order and however often, agree on the
left bound, on the bytes sent and on what is acknowledged inside the window. -/
theorem deliveryState_of_acksProcessed (ht : t.InRange) (hreach : t.system.Reachable sys) :
    sys.sender.slideWindowLeftBoundSeqNum.toNat = largestCumulative sys.acksProcessed ∧
      sys.sender.bytesSent.toNat = ∑ k ∈ Finset.range
        sys.sender.slideWindowLeftBoundSeqNum.toNat, (t.packetData k).length ∧
      (∀ item ∈ sys.sender.slideWindow, item.state = .acked ↔
        ∃ ackPacket ∈ sys.acksProcessed, ackPacket.selectiveSeqNum = item.seqNum ∧
          ackPacket.cumulativeSeqNum ≠ item.seqNum) ∧
      ∀ sys', t.system.Reachable sys' →
        (∀ a, a ∈ sys'.acksProcessed.map (·.toAck) ↔ a ∈ sys.acksProcessed.map (·.toAck)) →
        sys'.sender.slideWindowLeftBoundSeqNum = sys.sender.slideWindowLeftBoundSeqNum ∧
          sys'.sender.bytesSent = sys.sender.bytesSent ∧
          sys'.sender.ackedSeqNums = sys.sender.ackedSeqNums := by
  have h := System.inv_of_reachable ht hreach
  refine ⟨h.leftBound_eq, h.sender.bytesSent, fun item hmem => ?_, fun sys' hreach' hacks => ?_⟩
  · obtain ⟨n, hitem⟩ := mem_iff_itemAt.mp hmem
    have hlt := (h.sender.numbered ht).rightEdge_lt
    have hseq : item.seqNum.toNat = n := by
      have hright := (itemAt_bounds hitem).2
      rw [(h.sender.items n item hitem).seqNum, toNat_ofNat (by omega)]
    rw [h.acked n item hitem, ← hseq]
    refine exists_congr fun ackPacket => and_congr_right fun _ => ?_
    rw [UInt32.toNat_inj]
    refine and_congr_right fun hsel => ?_
    rw [hsel]
  · have h' := System.inv_of_reachable ht hreach'
    have hsame : sys'.abs.processed = sys.abs.processed := Set.ext hacks
    have hleft := h.leftBound_congr h' hsame
    refine ⟨UInt32.toNat_inj.mp hleft, UInt64.toNat_inj.mp ?_, Set.ext fun seqNum => ?_⟩
    · rw [h'.sender.bytesSent, h.sender.bytesSent, hleft]
    · rw [h'.mem_ackedSeqNums_iff ht, h.mem_ackedSeqNums_iff ht, hleft,
        System.selectivelyAcked_iff, System.selectivelyAcked_iff, hsame]

/-- A repeated acknowledgement, processed after a sweep, changes nothing. -/
theorem deliveryState_of_acksProcessed_oneByte :
    (Transfer.oneByte.system.endOf (System.oneByteRun ++ [.checkTimeout 0 ⟨1, 0⟩,
      .ackArrived ⟨.regular, 1, 0, ⟨0, 0⟩⟩])).sender.bytesSent =
        (Transfer.oneByte.system.endOf System.oneByteRun).sender.bytesSent := by
  have hall := deliveryState_of_acksProcessed Transfer.oneByte_inRange
    (Transfer.oneByte.system.reachable_endOf System.oneByteRun)
  refine (hall.2.2.2 _ (Transfer.oneByte.system.reachable_endOf _) fun a => ?_).2.1
  rw [show (Transfer.oneByte.system.endOf (System.oneByteRun ++ [.checkTimeout 0 ⟨1, 0⟩,
      .ackArrived ⟨.regular, 1, 0, ⟨0, 0⟩⟩])).acksProcessed.map (·.toAck) = [⟨1, 0⟩, ⟨1, 0⟩] by
    decide +kernel,
    show (Transfer.oneByte.system.endOf System.oneByteRun).acksProcessed.map (·.toAck) = [⟨1, 0⟩] by
    decide +kernel]
  simp

/-! ## When no acknowledgement is outstanding -/

/-- Every acknowledgement the receiver sent has been processed. -/
def System.Quiet (sys : System) : Prop := ∀ ackPacket ∈ sys.acksSent, ackPacket ∈ sys.acksProcessed

instance (sys : System) : Decidable sys.Quiet := inferInstanceAs (Decidable (∀ _ ∈ _, _))

/-- The abstract parties are quiet when the windows are. -/
theorem System.Quiet.acks_subset (hquiet : sys.Quiet) : sys.abs.acks ⊆ sys.abs.processed := by
  intro a ha
  obtain ⟨ackPacket, hmem, rfl⟩ := List.mem_map.mp ha
  exact toAck_mem_processed (hquiet ackPacket hmem)

/-- What is written at or behind the expected number is marked in the receiver's window. -/
theorem SlideWindowReceiver.Inv.mem_written_iff_item {r : SlideWindowReceiver} (h : r.Inv)
    (hle : r.nextExpected ≤ seqNum.toNat) :
    seqNum.toNat ∈ r.written ↔
      ∃ item ∈ r.slideWindow, item.seqNum = seqNum ∧ item.state = .received := by
  constructor
  · intro hwritten
    obtain ⟨item, hitem⟩ : ∃ item, r.itemAt seqNum.toNat = some item :=
      NumberedQueue.exists_lookup_iff.mpr ⟨hle, by
        rw [h.length]
        exact h.written_lt _ hwritten⟩
    obtain ⟨hseq, hstate⟩ := h.items _ item hitem
    rw [UInt32.ofNat_toNat] at hseq
    exact ⟨item, NumberedQueue.mem_of_lookup hitem, hseq, hstate.mpr hwritten⟩
  · rintro ⟨item, hmem, rfl, hreceived⟩
    obtain ⟨n, hitem⟩ := NumberedQueue.exists_lookup_of_mem r.nextExpected hmem
    obtain ⟨hseq, hstate⟩ := h.items n item hitem
    have hwritten := hstate.mp hreceived
    obtain ⟨w, hw, hn⟩ := hwritten
    rw [hseq, ← hn, UInt32.ofNat_toNat]
    exact ⟨w, hw, rfl⟩

/-- **The windows agree when no acknowledgement is outstanding.** The left bound is the
expected number, an item is acknowledged exactly when the receiver has it, and with a
file that is long enough the sender is finished exactly when the receiver is. -/
theorem windows_agree_of_quiet (ht : t.InRange) (hreach : t.system.Reachable sys)
    (hquiet : sys.Quiet) :
    sys.sender.slideWindowLeftBoundSeqNum = sys.receiver.nextExpectedPacketSeqNum ∧
      (∀ item ∈ sys.sender.slideWindow, item.state = .acked ↔
        ∃ item' ∈ sys.receiver.slideWindow, item'.seqNum = item.seqNum ∧
          item'.state = .received) ∧
      (t.LongEnough → (sys.sender.finished = true ↔ sys.receiver.finished = true)) := by
  have h := System.inv_of_reachable ht hreach
  obtain ⟨hbase, hreceived⟩ := h.protocol.agree hquiet.acks_subset
  change sys.sender.leftBound = sys.receiver.nextExpected at hbase
  refine ⟨UInt32.toNat_inj.mp hbase, fun item hmem => ?_, fun hlong => ⟨fun hfinished => ?_,
    fun hfinished => ?_⟩⟩
  · obtain ⟨n, hitem⟩ := mem_iff_itemAt.mp hmem
    obtain ⟨hleft, hright⟩ := itemAt_bounds hitem
    have hlt := (h.sender.numbered ht).rightEdge_lt
    have hseq : item.seqNum.toNat = n := by
      rw [(h.sender.items n item hitem).seqNum, toNat_ofNat (by omega)]
    have hle : sys.receiver.nextExpected ≤ item.seqNum.toNat := by omega
    rw [h.acked n item hitem, System.selectivelyAcked_iff, ← hreceived n hleft,
      ← h.receiver.mem_written_iff_item hle, hseq]
    rfl
  · exact (h.receiver_finished ht hfinished).1
  · have hnext := h.nextExpected_of_finished ht hfinished
    refine h.sender.finished_iff.mpr ⟨hbase.trans hnext, fun k hk => ?_⟩
    exact hlong.length_packetData hk

/-- The acknowledgement of the only packet was processed. -/
theorem windows_agree_of_quiet_oneByte :
    (Transfer.oneByte.system.endOf System.oneByteRun).receiver.nextExpectedPacketSeqNum = 1 ∧
      (Transfer.oneByte.system.endOf System.oneByteRun).sender.slideWindowLeftBoundSeqNum = 1 := by
  have hagree := (windows_agree_of_quiet Transfer.oneByte_inRange
    (Transfer.oneByte.system.reachable_endOf System.oneByteRun) (by decide +kernel)).1
  have hnext : (Transfer.oneByte.system.endOf
      System.oneByteRun).receiver.nextExpectedPacketSeqNum = 1 := by decide +kernel
  exact ⟨hnext, hagree.trans hnext⟩

end ReliablePacket
