/-
# The order of data packets does not matter

The receiver drops what lies behind its buffer of 200 packets, and the sender is never
told how large that buffer is. It sends what its congestion window allows. As long as
that window is not larger than the buffer when a round is sent, nothing new is ever
dropped: the receiver stands at least where the sender stood.

Then the receiver's state is a function of the set of numbers that have arrived. The
order in which packets arrive, repetitions, and everything the sender does in between
leave no trace in it but the order of the writes, and that does not show in the file.
-/
import ReliablePacket.System.Integrity

set_option autoImplicit false

namespace ReliablePacket

open SelectiveRepeat SlideWindowSender SlideWindowReceiver

variable {t : Transfer} {sys : System} {a : System.Action} {n : ℕ}

/-! ## Arrivals -/

/-- The two windows with the data packets that have arrived, the latest first. -/
structure Arrivals where
  sys : System
  arrived : List (DataPacket (List UInt8))

/-- What has arrived after one more step. -/
def System.Action.arrivedAfter (arrived : List (DataPacket (List UInt8))) :
    System.Action → List (DataPacket (List UInt8))
  | .receiveDataPacket dataPacket => dataPacket :: arrived
  | _ => arrived

/-- The composed system of a transfer, with a record of the arrivals. -/
def Transfer.arrivals (t : Transfer) : TransitionSystem Arrivals System.Action where
  init := ⟨.init t, []⟩
  step a h := (t.system.step a h.sys).map fun sys => ⟨sys, a.arrivedAfter h.arrived⟩

namespace Arrivals

variable {h h' : Arrivals}

/-- The numbers that have arrived. -/
def numbers (h : Arrivals) : Set ℕ := {n | n ∈ h.arrived.map (·.seqNum.toNat)}

/-- A round is sent only while the congestion window is not larger than the buffer. -/
def FitsBuffer (h : Arrivals) : System.Action → Prop
  | .prepareDataPacketsToSend _ => h.sys.sender.curCongestionWindow ≤ initWindowSize
  | _ => True

instance (h : Arrivals) (a : System.Action) : Decidable (h.FitsBuffer a) :=
  match a with
  | .prepareDataPacketsToSend _ => inferInstanceAs (Decidable (_ ≤ _))
  | .checkTimeout _ _ => .isTrue trivial
  | .ackArrived _ => .isTrue trivial
  | .receiveDataPacket _ => .isTrue trivial

theorem step_eq_some (hstep : t.arrivals.step a h = some h') :
    t.system.step a h.sys = some h'.sys ∧ h'.arrived = a.arrivedAfter h.arrived := by
  obtain ⟨sys, hsys, rfl⟩ := Option.map_eq_some_iff.mp hstep
  exact ⟨hsys, rfl⟩

/-- The record changes nothing. -/
theorem sys_reachable (hreach : t.arrivals.Reachable h) : t.system.Reachable h.sys :=
  hreach.map rfl fun _ a _ _ hstep => .inl ⟨a, (step_eq_some hstep).1⟩

/-- What every run that fits the buffer satisfies. -/
structure Inv (t : Transfer) (h : Arrivals) : Prop where
  /-- Everything on the network is old or fits the buffer. -/
  fits : ∀ dataPacket ∈ h.sys.dataSent,
    dataPacket.seqNum.toNat < h.sys.receiver.nextExpected + 200
  written : h.sys.receiver.written = h.numbers
  /-- The last packet is known from the moment it was written. -/
  marked : h.sys.receiver.lastPacketSeqNumReceived = true →
    (lastPacketSeqNumOf t.bytesToSend).toNat ∈ h.sys.receiver.written
  unmarked : h.sys.receiver.lastPacketSeqNumReceived = false →
    h.sys.receiver.lastPacketSeqNum = 0

theorem inv_init (t : Transfer) : Inv t t.arrivals.init where
  fits dataPacket hmem := by cases hmem
  written := by
    ext n
    refine iff_of_false ?_ ?_
    · rintro ⟨w, hw, -⟩
      cases hw
    · exact List.not_mem_nil
  marked hmark := by cases hmark
  unmarked _ := rfl

/-- A round that fits sends nothing behind the buffer. -/
theorem fits_wirePackets (hs : sys.Inv t) (ht : t.InRange) {now : Timeval}
    (hfits : sys.sender.curCongestionWindow ≤ initWindowSize)
    {dataPacket : DataPacket (List UInt8)}
    (hmem : dataPacket ∈ System.wirePackets t now sys.sender) :
    dataPacket.seqNum.toNat < sys.receiver.nextExpected + 200 := by
  obtain ⟨packet, hpacket, rfl⟩ := List.mem_map.mp hmem
  obtain ⟨n, item, hitem, hwindow, -, rfl⟩ := mem_preparedPackets_iff.mp hpacket
  have hlt := (hs.sender.numbered ht).rightEdge_lt
  have hright := (itemAt_bounds hitem).2
  have hbase := hs.base_le_next
  have hwindow' : sys.sender.curCongestionWindow.toNat ≤ 200 := UInt32.le_iff_toNat_le.mp hfits
  simp only [Transfer.wirePacket, toDataPacket, (hs.sender.items n item hitem).seqNum]
  rw [UInt32.ofNat_toNat, toNat_ofNat (by omega)]
  omega

/-- What was not written yet is taken. -/
theorem Inv.inBuffer_or_written (hinv : h.Inv t) (hs : h.sys.Inv t) (ht : t.InRange)
    {dataPacket : DataPacket (List UInt8)} (hmem : dataPacket ∈ h.sys.dataSent) :
    h.sys.receiver.outOfBuffer dataPacket.seqNum = false ∨
      dataPacket.seqNum.toNat ∈ h.sys.receiver.written := by
  by_cases hold : dataPacket.seqNum.toNat < h.sys.receiver.nextExpected
  · exact .inr (hs.receiver.hole.1 _ hold)
  · refine .inl (hs.receiver.outOfBuffer_eq_false_iff.mpr ?_)
    exact ⟨not_lt.mp hold, hinv.fits dataPacket hmem, hs.next_add_lt ht⟩

/-- A packet that was sent adds its number, also when it is dropped. -/
theorem Inv.written_received (hinv : h.Inv t) (hs : h.sys.Inv t) (ht : t.InRange)
    {dataPacket : DataPacket (List UInt8)} (hmem : dataPacket ∈ h.sys.dataSent)
    {ret : RetAckPacket} {receiver : SlideWindowReceiver}
    (hreceive : h.sys.receiver.receiveDataPacket false dataPacket = .ok (ret, receiver)) :
    receiver.written = insert dataPacket.seqNum.toNat h.sys.receiver.written := by
  obtain ⟨_, _, heq, -, -, -, -, hcases⟩ :=
    receiveDataPacket_cases false hs.receiver (hs.isData hmem)
  rw [hreceive] at heq
  cases heq
  rcases hcases with ⟨hout, -, -, hfile⟩ | ⟨-, -, hinsert, -⟩
  · -- what is dropped was written before
    rw [written_congr hfile]
    refine (Set.insert_eq_of_mem ?_).symm
    refine (hinv.inBuffer_or_written hs ht hmem).resolve_left fun hin => ?_
    rw [hout] at hin
    cases hin
  · exact hinsert

theorem Inv.received (hinv : h.Inv t) (hs : h.sys.Inv t) (ht : t.InRange)
    {dataPacket : DataPacket (List UInt8)} (hmem : dataPacket ∈ h.sys.dataSent)
    {ret : RetAckPacket} {receiver : SlideWindowReceiver}
    (hreceive : h.sys.receiver.receiveDataPacket false dataPacket = .ok (ret, receiver)) :
    Inv t ⟨{ h.sys with
      receiver := receiver
      acksSent := replyAck dataPacket ret :: h.sys.acksSent }, dataPacket :: h.arrived⟩ := by
  have hwritten := hinv.written_received hs ht hmem hreceive
  have hhole := (hs.received hmem hreceive).receiver.hole
  obtain ⟨_, _, heq, -, -, hflag, hlast, -⟩ :=
    receiveDataPacket_cases false hs.receiver (hs.isData hmem)
  rw [hreceive] at heq
  cases heq
  simp only [recordFinish] at hflag hlast
  refine ⟨fun packet hpacket => ?_, ?_, fun hmark => ?_, fun hmark => ?_⟩
  · -- the receiver only moves up
    have hnext : h.sys.receiver.nextExpected ≤ receiver.nextExpected :=
      hs.receiver.hole.le_of_insert (hwritten ▸ hhole)
    have hold := hinv.fits packet hpacket
    change packet.seqNum.toNat < receiver.nextExpected + 200
    omega
  · change receiver.written = _
    rw [hwritten, hinv.written]
    exact (System.setOf_mem_map_cons (·.seqNum.toNat) dataPacket h.arrived).symm
  · change _ ∈ receiver.written
    change receiver.lastPacketSeqNumReceived = true at hmark
    rw [hwritten]
    split_ifs at hflag with hfinish
    · -- only the last packet is sent with the finish type
      have hheader := hs.header dataPacket hmem
      rw [Transfer.HeaderOk, hfinish] at hheader
      split_ifs at hheader with hseq
      rw [hseq]
      exact Set.mem_insert _ _
    · exact Set.mem_insert_of_mem _ (hinv.marked (hflag ▸ hmark))
  · change receiver.lastPacketSeqNum = 0
    change receiver.lastPacketSeqNumReceived = false at hmark
    split_ifs at hflag hlast with hfinish
    · rw [hmark] at hflag
      cases hflag
    · rw [hlast]
      exact hinv.unmarked (hflag ▸ hmark)

/-- Every step that fits keeps it. -/
theorem Inv.step (hinv : h.Inv t) (hs : h.sys.Inv t) (ht : t.InRange) (hfits : h.FitsBuffer a)
    (hstep : t.arrivals.step a h = some h') : h'.Inv t := by
  obtain ⟨hsys, harrived⟩ := step_eq_some hstep
  obtain ⟨sys', arrived'⟩ := h'
  cases harrived
  rcases System.step_cases hs ht hsys with ⟨now, rfl, rfl⟩ | ⟨_, _, rfl, rfl⟩ | ⟨_, _, rfl, rfl⟩ |
    ⟨packet, hmem, ret, receiver, rfl, hreceive, rfl⟩
  · refine ⟨fun packet hpacket => ?_, hinv.written, hinv.marked, hinv.unmarked⟩
    rcases List.mem_append.mp hpacket with hnew | hold
    · exact fits_wirePackets hs ht hfits hnew
    · exact hinv.fits packet hold
  · exact ⟨hinv.fits, hinv.written, hinv.marked, hinv.unmarked⟩
  · exact ⟨hinv.fits, hinv.written, hinv.marked, hinv.unmarked⟩
  · exact hinv.received hs ht hmem hreceive

theorem inv_of_reachable (ht : t.InRange) (hreach : t.arrivals.ReachableVia FitsBuffer h) :
    h.Inv t := by
  refine hreach.invariant (inv_init t) fun u a u' hu hinv hfits hstep => ?_
  have hs := System.inv_of_reachable ht (sys_reachable hu.reachable)
  exact hinv.step hs ht hfits hstep

end Arrivals

/-! ## The receiver is a function of what was written -/

/-- Whether an item is marked tells its state. -/
theorem SlideWindowReceiverItem.ext_of_received {item item' : SlideWindowReceiverItem}
    (hseq : item'.seqNum = item.seqNum)
    (hstate : item'.state = .received ↔ item.state = .received) : item' = item := by
  obtain ⟨seqNum, state⟩ := item
  obtain ⟨seqNum', state'⟩ := item'
  cases hseq
  cases state <;> cases state' <;> simp at hstate ⊢

/-- Receivers that wrote the same packets have the same window. -/
theorem SlideWindowReceiver.Inv.congr {r r' : SlideWindowReceiver} (h : r.Inv) (h' : r'.Inv)
    (hsame : r'.written = r.written) :
    r'.nextExpectedPacketSeqNum = r.nextExpectedPacketSeqNum ∧ r'.slideWindow = r.slideWindow := by
  -- the expected number is the first one that is missing
  have hnext : r'.nextExpected = r.nextExpected := by
    have hhole := h'.hole
    rw [hsame] at hhole
    exact hhole.unique h.hole
  refine ⟨UInt32.toNat_inj.mp hnext, List.ext_getElem (h'.length.trans h.length.symm) ?_⟩
  intro i hi' hi
  have hitem : r.itemAt (r.nextExpected + i) = some r.slideWindow[i] := by
    rw [itemAt, NumberedQueue.lookup_add, List.getElem?_eq_getElem hi]
  have hitem' : r'.itemAt (r.nextExpected + i) = some r'.slideWindow[i] := by
    rw [itemAt, hnext, NumberedQueue.lookup_add, List.getElem?_eq_getElem hi']
  obtain ⟨hseq, hstate⟩ := h.items _ _ hitem
  obtain ⟨hseq', hstate'⟩ := h'.items _ _ hitem'
  rw [hsame] at hstate'
  exact SlideWindowReceiverItem.ext_of_received (hseq'.trans hseq.symm) (hstate'.trans hstate.symm)

/-- The writes are those of the packets that were written. -/
theorem System.Intact.mem_fileToWrite_iff (hintact : sys.Intact t) (ht : t.InRange)
    {w : FileWrite} : w ∈ sys.receiver.fileToWrite ↔
      ∃ n ∈ sys.receiver.written, w = t.fileWrite n := by
  have hlt := ht.lt
  constructor
  · intro hw
    obtain ⟨n, hn, rfl⟩ := hintact.fileToWrite w hw
    exact ⟨n, ⟨_, hw, toNat_ofNat (by omega)⟩, rfl⟩
  · rintro ⟨n, ⟨w, hw, hseq⟩, rfl⟩
    obtain ⟨m, hm, rfl⟩ := hintact.fileToWrite w hw
    have hmn : m = n := by
      rw [← hseq]
      exact (toNat_ofNat (by omega)).symm
    exact hmn ▸ hw

/-- The receiver knows the last packet and has all others exactly when it is finished. -/
theorem System.Inv.finished_iff (h : sys.Inv t) (ht : t.InRange) :
    sys.receiver.finished = true ↔ ∀ n < t.packets, n ∈ sys.receiver.written := by
  have hlast := ht.toNat_lastPacketSeqNum
  have hlt := ht.lt
  have hpos := ht.pos
  constructor
  · intro hfinished n hn
    rw [← h.nextExpected_of_finished ht hfinished] at hn
    exact h.receiver.hole.1 n hn
  · intro hall
    -- the last packet is among them and carries the finish type
    have hseen := h.finishSeen (hall _ (by omega))
    have hedge := h.next_le_rightEdge.trans h.sender.rightEdge_le
    have hnext : ¬ sys.receiver.nextExpected < t.packets := fun hmissing =>
      h.receiver.hole.2 (hall _ hmissing)
    rw [SlideWindowReceiver.finished, hseen, Bool.true_and, decide_eq_true_iff,
      h.finishMark hseen, ← UInt32.toNat_inj, UInt32.toNat_add, UInt32.toNat_one]
    change sys.receiver.nextExpected = _
    omega

/-! ## Results -/

open Arrivals

/-- Receivers at which the same numbers arrived differ in the order of the writes only. -/
theorem Arrivals.Inv.receiver_congr {h h' : Arrivals} (hinv : h.Inv t) (hinv' : h'.Inv t)
    (hs : h.sys.Inv t) (hs' : h'.sys.Inv t) (hsame : h'.numbers = h.numbers) :
    h'.sys.receiver = { h.sys.receiver with fileToWrite := h'.sys.receiver.fileToWrite } := by
  have hwritten : h'.sys.receiver.written = h.sys.receiver.written :=
    calc h'.sys.receiver.written = h'.numbers := hinv'.written
      _ = h.numbers := hsame
      _ = h.sys.receiver.written := hinv.written.symm
  obtain ⟨hnext, hwindow⟩ := hs.receiver.congr hs'.receiver hwritten
  have hmark : h'.sys.receiver.lastPacketSeqNumReceived =
      h.sys.receiver.lastPacketSeqNumReceived := by
    rw [Bool.eq_iff_iff]
    exact ⟨fun hmark => hs.finishSeen (hwritten ▸ hinv'.marked hmark),
      fun hmark => hs'.finishSeen (hwritten ▸ hinv.marked hmark)⟩
  have hlast : h'.sys.receiver.lastPacketSeqNum = h.sys.receiver.lastPacketSeqNum := by
    cases hseen : h.sys.receiver.lastPacketSeqNumReceived with
    | false => rw [hinv.unmarked hseen, hinv'.unmarked (hmark.trans hseen)]
    | true => rw [hs.finishMark hseen, hs'.finishMark (hmark.trans hseen)]
  have hsize := hs'.receiver.windowSize.trans hs.receiver.windowSize.symm
  cases hreceiver : h'.sys.receiver with
  | mk fileToWrite lastPacketSeqNumReceived lastPacketSeqNum nextExpectedPacketSeqNum
      curWindowSize slideWindow =>
    rw [hreceiver] at hnext hwindow hmark hlast hsize
    cases hnext
    cases hwindow
    cases hmark
    cases hlast
    cases hsize
    rfl

/-- The same packets were written, each once. -/
theorem System.Intact.perm {sys' : System} (hintact : sys.Intact t) (hintact' : sys'.Intact t)
    (hs : sys.Inv t) (hs' : sys'.Inv t) (ht : t.InRange)
    (hsame : sys'.receiver.written = sys.receiver.written) :
    sys'.receiver.fileToWrite.Perm sys.receiver.fileToWrite := by
  refine (List.perm_ext_iff_of_nodup (.of_map _ hs'.receiver.nodup)
    (.of_map _ hs.receiver.nodup)).mpr fun w => ?_
  rw [hintact.mem_fileToWrite_iff ht, hintact'.mem_fileToWrite_iff ht, hsame]

/-- The congestion window of a short transfer never outgrows the buffer. -/
theorem Arrivals.reachableVia_of_packets_le (ht : t.InRange) (hshort : t.packets ≤ 180)
    {h : Arrivals} (hreach : t.arrivals.Reachable h) : t.arrivals.ReachableVia FitsBuffer h := by
  refine TransitionSystem.ReachableVia.invariant .init (fun u a u' hu hvia _ hstep => ?_) hreach
  refine hvia.step ?_ hstep
  cases a with
  | prepareDataPacketsToSend now =>
    have hs := System.inv_of_reachable ht (sys_reachable hu)
    have hwindow := hs.sender.congestion.window_le_left
    have hleft := hs.base_le_next.trans (hs.next_le_rightEdge.trans hs.sender.rightEdge_le)
    change u.sys.sender.curCongestionWindow ≤ 200
    rw [UInt32.le_iff_toNat_le]
    exact (hwindow.trans (Nat.add_le_add_right (hleft.trans hshort) 20)).trans le_rfl
  | _ => trivial

/-- **The receiver is a function of what has arrived.** In every run in which the
congestion window is never larger than the buffer when a round is sent, no packet is
dropped that has not arrived before; the expected number is the lowest that has not
arrived, and the receiver is finished when all have. Two such runs in which the same
numbers arrived, in whatever order and however often, lead to the same receiver, up to
the order of the writes, and to the same file. In a transfer of at most 180 packets every
run is of that kind. -/
theorem receiver_of_arrived (ht : t.InRange) :
    (∀ h, t.arrivals.ReachableVia FitsBuffer h →
      (∀ dataPacket ∈ h.sys.dataSent,
        h.sys.receiver.outOfBuffer dataPacket.seqNum = true →
          dataPacket.seqNum.toNat ∈ h.numbers) ∧
      FirstHole h.numbers h.sys.receiver.nextExpectedPacketSeqNum.toNat ∧
      (h.sys.receiver.finished = true ↔ ∀ n < t.packets, n ∈ h.numbers) ∧
      ∀ h', t.arrivals.ReachableVia FitsBuffer h' → h'.numbers = h.numbers →
        h'.sys.receiver = { h.sys.receiver with fileToWrite := h'.sys.receiver.fileToWrite } ∧
        h'.sys.receiver.fileToWrite.Perm h.sys.receiver.fileToWrite ∧
        h'.sys.receiver.outputFile = h.sys.receiver.outputFile) ∧
    (t.packets ≤ 180 → ∀ h, t.arrivals.Reachable h → t.arrivals.ReachableVia FitsBuffer h) := by
  refine ⟨fun h hreach => ?_, fun hshort h => reachableVia_of_packets_le ht hshort⟩
  have hinv := inv_of_reachable ht hreach
  have hs := System.inv_of_reachable ht (sys_reachable hreach.reachable)
  have hintact := System.intact_of_reachable ht (sys_reachable hreach.reachable)
  refine ⟨fun dataPacket hmem hout => ?_, ?_, ?_, fun h' hreach' hsame => ?_⟩
  · rw [← hinv.written]
    refine (hinv.inBuffer_or_written hs ht hmem).resolve_left fun hin => ?_
    rw [hout] at hin
    cases hin
  · rw [← hinv.written]
    exact hs.receiver.hole
  · rw [← hinv.written]
    exact hs.finished_iff ht
  · have hinv' := inv_of_reachable ht hreach'
    have hs' := System.inv_of_reachable ht (sys_reachable hreach'.reachable)
    have hintact' := System.intact_of_reachable ht (sys_reachable hreach'.reachable)
    have hwritten := hinv'.written.trans (hsame.trans hinv.written.symm)
    have hperm := hintact.perm hintact' hs hs' ht hwritten
    refine ⟨hinv.receiver_congr hinv' hs hs' hsame, hperm, ?_⟩
    exact ByteFile.ofWrites_congr hintact.agrees fun w => (hperm.map _).mem_iff

/-- Both packets of a transfer are sent, and those of `ns` arrive in this order. -/
def Arrivals.twoPacketsRun (ns : List ℕ) : List System.Action :=
  .prepareDataPacketsToSend ⟨0, 0⟩ ::
    ns.map fun n => .receiveDataPacket (Transfer.twoPackets.wirePacket ⟨0, 0⟩ n)

/-- The last packet arrives before the first, or after it and before it again. -/
theorem receiver_of_arrived_twoPackets :
    (Transfer.twoPackets.arrivals.endOf (twoPacketsRun [0, 1, 0])).sys.receiver.outputFile =
        (Transfer.twoPackets.arrivals.endOf (twoPacketsRun [1, 0])).sys.receiver.outputFile ∧
      (Transfer.twoPackets.arrivals.endOf (twoPacketsRun [1, 0])).sys.receiver.finished = true := by
  have hall := receiver_of_arrived Transfer.twoPackets_inRange
  have hvia (ns : List ℕ) := hall.2 (by decide) _
    (Transfer.twoPackets.arrivals.reachable_endOf (twoPacketsRun ns))
  refine ⟨((hall.1 _ (hvia [1, 0])).2.2.2 _ (hvia [0, 1, 0]) ?_).2.2, by decide +kernel⟩
  have hfirst : (Transfer.twoPackets.arrivals.endOf (twoPacketsRun [1, 0])).arrived.map
      (·.seqNum.toNat) = [0, 1] := by decide +kernel
  have hsecond : (Transfer.twoPackets.arrivals.endOf (twoPacketsRun [0, 1, 0])).arrived.map
      (·.seqNum.toNat) = [0, 1, 0] := by decide +kernel
  have hsame (n : ℕ) : n ∈ [0, 1, 0] ↔ n ∈ [0, 1] := by
    simp only [List.mem_cons, List.not_mem_nil, or_false]
    omega
  rw [← hfirst, ← hsecond] at hsame
  exact Set.ext hsame

end ReliablePacket
