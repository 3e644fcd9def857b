/-
# Runs of the receiver alone

The receiver as a system of its own, together with the history of its calls.
Whoever sends the packets, and with whatever numbers and payloads, every number
is written at most once and with the payload of the first packet that had it
inside the buffer; every reply names the first number that is still missing.

The numbers never wrap in effect: once the end of the buffer would wrap, the range
test refuses every packet.
-/
import ReliablePacket.Protocol.ReceiverInvariant
import ReliablePacket.Semantics.Transition

set_option autoImplicit false

namespace ReliablePacket

open NumberedQueue

/-! ## Histories -/

/-- Only data packets are given to `receiveDataPacket`. -/
def DataPacket.IsData {Data : Type} (dataPacket : DataPacket Data) : Prop :=
  dataPacket.type = .regular ∨ dataPacket.type = .finish

instance {Data : Type} (dataPacket : DataPacket Data) : Decidable dataPacket.IsData :=
  inferInstanceAs (Decidable (_ ∨ _))

namespace SlideWindowReceiver

/-- One call of `receiveDataPacket`: its argument, whether the number lay inside the
buffer, and the reply. -/
structure Call where
  dataPacket : DataPacket (List UInt8)
  inBuffer : Bool
  retAckPacket : RetAckPacket

/-- A receiver with the calls made so far, the earliest first. -/
structure History where
  receiver : SlideWindowReceiver
  calls : List Call

namespace History

variable {debug : Bool} {h h' : History} {dataPacket : DataPacket (List UInt8)}
variable {packets : List (DataPacket (List UInt8))} {seqNum : UInt32}

/-- The first packet with this number that came while the number lay in the buffer. -/
def firstInBuffer (h : History) (seqNum : UInt32) : Option (DataPacket (List UInt8)) :=
  (h.calls.find? fun call => call.inBuffer && call.dataPacket.seqNum == seqNum).map (·.dataPacket)

/-- Some call took a packet with this number into the buffer. -/
def Accepted (h : History) (seqNum : UInt32) : Prop :=
  ∃ call ∈ h.calls, call.inBuffer = true ∧ call.dataPacket.seqNum = seqNum

/-- The history after one more call, if the call does not fail. -/
def receiveDataPacket (debug : Bool) (dataPacket : DataPacket (List UInt8)) (h : History) :
    Option History :=
  match h.receiver.receiveDataPacket debug dataPacket with
  | .ok (retAckPacket, receiver) =>
    some
      { receiver
        calls := h.calls ++
          [⟨dataPacket, !h.receiver.outOfBuffer dataPacket.seqNum, retAckPacket⟩] }
  | .error _ => none

end History

/-- The histories of a fresh receiver. -/
def histories (debug : Bool) : TransitionSystem History (DataPacket (List UInt8)) where
  init := ⟨.new, []⟩
  step := History.receiveDataPacket debug

namespace History

variable {debug : Bool} {h h' : History} {dataPacket : DataPacket (List UInt8)}
variable {packets : List (DataPacket (List UInt8))} {seqNum : UInt32}

/-- What the calls so far and the receiver's state have to do with each other. -/
structure Inv (h : History) : Prop where
  receiver : h.receiver.Inv
  payload : ∀ w ∈ h.receiver.fileToWrite,
    ∃ dataPacket, h.firstInBuffer w.seqNum = some dataPacket ∧ w = fileWriteOf dataPacket
  inBuffer : ∀ call ∈ h.calls, call.inBuffer = true →
    call.dataPacket.seqNum ∈ h.receiver.fileToWrite.map (·.seqNum)
  cumulative : ∀ call ∈ h.calls,
    call.retAckPacket.cumulativeSeqNum ≤ h.receiver.nextExpectedPacketSeqNum

theorem inv_new : Inv ⟨.new, []⟩ where
  receiver := SlideWindowReceiver.inv_new
  payload := fun _ hw => absurd hw List.not_mem_nil
  inBuffer := fun _ hcall => absurd hcall List.not_mem_nil
  cumulative := fun _ hcall => absurd hcall List.not_mem_nil

/-- A later call does not change what came first. -/
theorem firstInBuffer_append {calls : List Call} {receiver : SlideWindowReceiver}
    (hfirst : h.firstInBuffer seqNum = some dataPacket) :
    firstInBuffer ⟨receiver, h.calls ++ calls⟩ seqNum = some dataPacket := by
  obtain ⟨call, hfind, rfl⟩ := Option.map_eq_some_iff.mp hfirst
  simp only [firstInBuffer]
  rw [List.find?_append, hfind]
  rfl

/-- A packet whose number was never written comes first. -/
theorem Inv.firstInBuffer_new (hinv : h.Inv) {receiver : SlideWindowReceiver}
    {retAckPacket : RetAckPacket}
    (hnew : dataPacket.seqNum ∉ h.receiver.fileToWrite.map (·.seqNum)) :
    firstInBuffer ⟨receiver, h.calls ++ [⟨dataPacket, true, retAckPacket⟩]⟩ dataPacket.seqNum =
      some dataPacket := by
  have hnone : (h.calls.find? fun call =>
      call.inBuffer && call.dataPacket.seqNum == dataPacket.seqNum) = none := by
    refine List.find?_eq_none.mpr fun call hcall hmatch => hnew ?_
    obtain ⟨hin, hseq⟩ := Bool.and_eq_true_iff.mp hmatch
    exact beq_iff_eq.mp hseq ▸ hinv.inBuffer call hcall hin
  simp only [firstInBuffer]
  rw [List.find?_append, hnone, List.find?_singleton, beq_self_eq_true]
  rfl

/-- What is in the file after a call came first, whether written now or earlier. -/
theorem Inv.payload_writesAfter (hinv : h.Inv) {receiver : SlideWindowReceiver}
    {retAckPacket : RetAckPacket} {w : FileWrite} (hw : w ∈ h.receiver.writesAfter dataPacket) :
    ∃ first, firstInBuffer ⟨receiver, h.calls ++ [⟨dataPacket, true, retAckPacket⟩]⟩ w.seqNum =
      some first ∧ w = fileWriteOf first := by
  have hold : ∀ w ∈ h.receiver.fileToWrite, ∃ first,
      firstInBuffer ⟨receiver, h.calls ++ [⟨dataPacket, true, retAckPacket⟩]⟩ w.seqNum =
        some first ∧ w = fileWriteOf first := by
    intro w hw
    obtain ⟨first, hfirst, rfl⟩ := hinv.payload w hw
    exact ⟨first, firstInBuffer_append hfirst, rfl⟩
  rw [writesAfter] at hw
  split_ifs at hw with hmem
  · exact hold w hw
  · rcases List.mem_cons.mp hw with rfl | hw
    · exact ⟨dataPacket, hinv.firstInBuffer_new hmem, rfl⟩
    · exact hold w hw

/-- Accepting a packet and writing its number are the same. -/
theorem Inv.accepted_iff (hinv : h.Inv) :
    h.Accepted seqNum ↔ seqNum.toNat ∈ h.receiver.written := by
  rw [mem_written_iff]
  constructor
  · rintro ⟨call, hcall, hin, rfl⟩
    exact hinv.inBuffer call hcall hin
  · intro hmem
    obtain ⟨w, hw, rfl⟩ := List.mem_map.mp hmem
    obtain ⟨_, hfirst, -⟩ := hinv.payload w hw
    obtain ⟨call, hfind, -⟩ := Option.map_eq_some_iff.mp hfirst
    have hmatch := List.find?_some hfind
    obtain ⟨hin, hseq⟩ := Bool.and_eq_true_iff.mp hmatch
    exact ⟨call, List.mem_of_find?_eq_some hfind, hin, beq_iff_eq.mp hseq⟩

/-- **Everything one call does to a history.** -/
theorem Inv.receiveDataPacket (debug : Bool) (hinv : h.Inv) (htype : dataPacket.IsData) :
    ∃ ret h', h.receiver.receiveDataPacket debug dataPacket = .ok (ret, h'.receiver) ∧
      h.receiveDataPacket debug dataPacket = some h' ∧ h'.Inv ∧
      h'.calls = h.calls ++ [⟨dataPacket, !h.receiver.outOfBuffer dataPacket.seqNum, ret⟩] ∧
      h.receiver.nextExpectedPacketSeqNum ≤ h'.receiver.nextExpectedPacketSeqNum ∧
      ret.cumulativeSeqNum = h'.receiver.nextExpectedPacketSeqNum ∧
      (h.receiver.outOfBuffer dataPacket.seqNum = true ∧
          ret.selectiveSeqNum = ret.cumulativeSeqNum ∧
          h'.receiver.written = h.receiver.written ∨
        h.receiver.outOfBuffer dataPacket.seqNum = false ∧
          ret.selectiveSeqNum = dataPacket.seqNum ∧
          h'.receiver.written = insert dataPacket.seqNum.toNat h.receiver.written) := by
  obtain ⟨ret, r', heq, hinv', hcum, -, -, hcase⟩ :=
    receiveDataPacket_cases debug hinv.receiver htype
  have hwritten : h.receiver.outOfBuffer dataPacket.seqNum = true ∧
        ret.selectiveSeqNum = ret.cumulativeSeqNum ∧ r'.written = h.receiver.written ∨
      h.receiver.outOfBuffer dataPacket.seqNum = false ∧ ret.selectiveSeqNum = dataPacket.seqNum ∧
        r'.written = insert dataPacket.seqNum.toNat h.receiver.written := by
    rcases hcase with ⟨hout, hsel, -, hfile⟩ | ⟨hin, hsel, hwritten, -⟩
    · exact .inl ⟨hout, hsel.trans hcum.symm, written_congr hfile⟩
    · exact .inr ⟨hin, hsel, hwritten⟩
  -- what was written stays written, so the first missing number only grows
  have hsub : h.receiver.written ⊆ r'.written := by
    rcases hwritten with ⟨-, -, hsame⟩ | ⟨-, -, hinsert⟩
    · rw [hsame]
    · rw [hinsert]
      exact Set.subset_insert _ _
  have hnext : h.receiver.nextExpectedPacketSeqNum ≤ r'.nextExpectedPacketSeqNum :=
    UInt32.le_iff_toNat_le.mpr (hinv.receiver.hole.le_of_notMem fun hmem =>
      hinv'.hole.2 (hsub hmem))
  have hstep : h.receiveDataPacket debug dataPacket = some ⟨r', h.calls ++
      [⟨dataPacket, !h.receiver.outOfBuffer dataPacket.seqNum, ret⟩]⟩ := by
    rw [History.receiveDataPacket, heq]
  refine ⟨ret, _, heq, hstep, ⟨hinv', fun w hw => ?_, fun call hcall hin => ?_,
    fun call hcall => ?_⟩, rfl, hnext, hcum, hwritten⟩
  · rcases hcase with ⟨-, -, -, hfile⟩ | ⟨hin, -, -, hfile⟩
    · obtain ⟨first, hfirst, rfl⟩ := hinv.payload w (hfile ▸ hw)
      exact ⟨first, firstInBuffer_append hfirst, rfl⟩
    · rw [hin]
      exact hinv.payload_writesAfter (hfile ▸ hw)
  · rw [← mem_written_iff]
    rcases List.mem_append.mp hcall with hold | hnew
    · exact hsub (mem_written_iff.mpr (hinv.inBuffer call hold hin))
    · rw [List.mem_singleton.mp hnew] at hin ⊢
      rcases hwritten with ⟨hout, -⟩ | ⟨-, -, hinsert⟩
      · rw [hout] at hin
        cases hin
      · change _ ∈ r'.written
        rw [hinsert]
        exact Set.mem_insert _ _
  · rcases List.mem_append.mp hcall with hold | hnew
    · exact UInt32.le_trans (hinv.cumulative call hold) hnext
    · rw [List.mem_singleton.mp hnew]
      exact hcum ▸ UInt32.le_refl _

/-- **Data packets never make the receiver fail**, and every history of data packets
satisfies the invariant. -/
theorem exists_run (debug : Bool) (hinv : h.Inv) (hdata : ∀ packet ∈ packets, packet.IsData) :
    ∃ h', (histories debug).run packets h = some h' ∧ h'.Inv := by
  induction packets generalizing h with
  | nil => exact ⟨h, rfl, hinv⟩
  | cons packet packets ih =>
    obtain ⟨ret, h₁, -, hstep, hinv₁, -⟩ :=
      hinv.receiveDataPacket debug (hdata packet List.mem_cons_self)
    obtain ⟨h', hrun, hend⟩ := ih hinv₁ fun p hp => hdata p (List.mem_cons_of_mem _ hp)
    refine ⟨h', ?_, hend⟩
    have hstep' : (histories debug).step packet h = some h₁ := hstep
    rw [TransitionSystem.run, hstep']
    exact hrun

/-! ## Every number is written once -/

/-- The receiver's window and file agree with the packets that were given to it. -/
structure ExactlyOnce (h : History) : Prop where
  length : h.receiver.slideWindow.length = 200
  seqNum : ∀ i item, h.receiver.slideWindow[i]? = some item →
    item.seqNum = h.receiver.nextExpectedPacketSeqNum + .ofNat i
  head : ∀ item, h.receiver.slideWindow.head? = some item → item.state = .notReceived
  nodup : (h.receiver.fileToWrite.map (·.seqNum)).Nodup
  payload : ∀ w ∈ h.receiver.fileToWrite,
    ∃ dataPacket, h.firstInBuffer w.seqNum = some dataPacket ∧ w = fileWriteOf dataPacket
  below : ∀ seqNum < h.receiver.nextExpectedPacketSeqNum,
    (h.receiver.fileToWrite.map (·.seqNum)).count seqNum = 1
  received : ∀ i item, h.receiver.slideWindow[i]? = some item →
    h.receiver.nextExpectedPacketSeqNum.toNat + i < 2 ^ 32 →
    (item.state = .received ↔ ∃ w ∈ h.receiver.fileToWrite, w.seqNum = item.seqNum)
  index : ∀ seqNum, h.receiver.outOfBuffer seqNum = false →
    sizeOfInt (intOfUnsigned (seqNum - h.receiver.nextExpectedPacketSeqNum)) <
      h.receiver.slideWindow.length

theorem Inv.exactlyOnce (hinv : h.Inv) : h.ExactlyOnce := by
  have hr := hinv.receiver
  have hat : ∀ i item, h.receiver.slideWindow[i]? = some item →
      h.receiver.itemAt (h.receiver.nextExpected + i) = some item := by
    intro i item hi
    rw [itemAt, lookup_add, hi]
  exact
    { length := hr.length
      seqNum := by
        intro i item hi
        rw [(hr.items _ item (hat i item hi)).1, add_ofNat]
        rfl
      head := by
        intro item hhead
        have hzero := hat 0 item (by rw [← List.head?_eq_getElem?, hhead])
        cases hstate : item.state with
        | notReceived => rfl
        | received => exact absurd ((hr.items _ item hzero).2.mp hstate) hr.hole.2
      nodup := hr.nodup
      payload := hinv.payload
      below := by
        intro seqNum hlt
        refine List.nodup_iff_count_eq_one.mp hr.nodup seqNum (mem_written_iff.mp ?_)
        exact hr.hole.1 _ hlt
      received := by
        intro i item hi hbound
        obtain ⟨hseq, hstate⟩ := hr.items _ item (hat i item hi)
        have hn : item.seqNum.toNat = h.receiver.nextExpected + i := by
          rw [hseq]
          exact toNat_ofNat hbound
        rw [hstate, ← hn, mem_written_iff, List.mem_map]
      index := by
        intro seqNum hin
        obtain ⟨hle, hlt, -⟩ := hr.outOfBuffer_eq_false_iff.mp hin
        rw [hr.index_eq hin, hr.length]
        omega }

/-- **Exactly-once writes.** Whatever data packets a fresh receiver is given, no call
fails, and its window and file agree with them. -/
theorem exactlyOnce_of_dataPackets (debug : Bool) (packets : List (DataPacket (List UInt8)))
    (hdata : ∀ packet ∈ packets, packet.IsData) :
    ∃ h, (histories debug).run packets (histories debug).init = some h ∧ h.ExactlyOnce := by
  obtain ⟨h, hrun, hinv⟩ := exists_run debug inv_new hdata
  exact ⟨h, hrun, hinv.exactlyOnce⟩

/-- Packet 1 arrives twice with different payloads, then packet 0, then one far off. -/
def hostilePackets : List (DataPacket (List UInt8)) :=
  [⟨.regular, 1, ⟨0, 0⟩, 1, [7]⟩, ⟨.finish, 1, ⟨0, 0⟩, 1, [8]⟩, ⟨.regular, 0, ⟨0, 0⟩, 1, [9]⟩,
    ⟨.regular, 4294967295, ⟨0, 0⟩, 1, [10]⟩]

/-- The first payload of packet 1 is the one in the file. -/
theorem exactlyOnce_of_dataPackets_hostilePackets :
    ∃ h, (histories false).run hostilePackets (histories false).init = some h ∧
      h.ExactlyOnce ∧ h.receiver.fileToWrite = [⟨0, 0, [9]⟩, ⟨1, 1450, [7]⟩] := by
  obtain ⟨h, hrun, honce⟩ := exactlyOnce_of_dataPackets false hostilePackets (by decide)
  refine ⟨h, hrun, honce, ?_⟩
  have hfile : ((histories false).run hostilePackets (histories false).init).map
      (·.receiver.fileToWrite) = some [⟨0, 0, [9]⟩, ⟨1, 1450, [7]⟩] := by
    decide +kernel
  rw [hrun] at hfile
  exact Option.some.inj hfile

/-! ## Replies -/

/-- **Truthful replies.** After any data packets, the reply to the next one names the
first number that is not accepted; it is no smaller than earlier replies; and its two
fields agree exactly when the packet lay outside the buffer, where no packet is
accepted. Otherwise the selective number is the packet's own, and it is accepted. -/
theorem reply_truthful (debug : Bool) (packets : List (DataPacket (List UInt8)))
    (hdata : ∀ packet ∈ packets, packet.IsData) (dataPacket : DataPacket (List UInt8))
    (htype : dataPacket.IsData) :
    ∃ h ret h', (histories debug).run packets (histories debug).init = some h ∧
      (histories debug).step dataPacket h = some h' ∧
      h.receiver.receiveDataPacket debug dataPacket = .ok (ret, h'.receiver) ∧
      (∀ seqNum < ret.cumulativeSeqNum, h'.Accepted seqNum) ∧
      ¬ h'.Accepted ret.cumulativeSeqNum ∧
      (∀ call ∈ h.calls, call.retAckPacket.cumulativeSeqNum ≤ ret.cumulativeSeqNum) ∧
      (ret.cumulativeSeqNum = ret.selectiveSeqNum ↔
        h.receiver.outOfBuffer dataPacket.seqNum = true) ∧
      (h.receiver.outOfBuffer dataPacket.seqNum = true →
        ∀ seqNum, h'.Accepted seqNum ↔ h.Accepted seqNum) ∧
      (h.receiver.outOfBuffer dataPacket.seqNum = false →
        ret.selectiveSeqNum = dataPacket.seqNum ∧ h'.Accepted ret.selectiveSeqNum) := by
  obtain ⟨h, hrun, hinv⟩ := exists_run debug inv_new hdata
  obtain ⟨ret, h', heq, hstep, hinv', -, hnext, hcum, hcase⟩ := hinv.receiveDataPacket debug htype
  have hmissing : ¬ h'.Accepted ret.cumulativeSeqNum := by
    rw [hinv'.accepted_iff, hcum]
    exact hinv'.receiver.hole.2
  refine ⟨h, ret, h', hrun, hstep, heq, fun seqNum hlt => ?_, hmissing, fun call hcall => ?_, ?_⟩
  · rw [hinv'.accepted_iff]
    exact hinv'.receiver.hole.1 _ (UInt32.lt_iff_toNat_lt.mp (hcum ▸ hlt))
  · exact hcum ▸ UInt32.le_trans (hinv.cumulative call hcall) hnext
  · rcases hcase with ⟨hout, hsel, hsame⟩ | ⟨hin, hsel, hinsert⟩
    · refine ⟨iff_of_true hsel.symm hout, fun _ seqNum => ?_, fun hin => ?_⟩
      · rw [hinv'.accepted_iff, hinv.accepted_iff, hsame]
      · rw [hout] at hin
        cases hin
    · -- an accepted number is not the missing one, so the fields differ
      have haccepted : h'.Accepted ret.selectiveSeqNum := by
        rw [hinv'.accepted_iff, hsel, hinsert]
        exact Set.mem_insert _ _
      refine ⟨iff_of_false (fun hsame => hmissing (hsame ▸ haccepted)) ?_, fun hout => ?_,
        fun _ => ⟨hsel, haccepted⟩⟩
      · rw [hin]
        exact Bool.false_ne_true
      · rw [hin] at hout
        cases hout

/-- Packet 1 comes a third time, when it has been passed: the reply is the marker. -/
theorem reply_truthful_hostilePackets :
    ∃ (h : History) (ret : RetAckPacket) (h' : History),
      (histories false).run hostilePackets (histories false).init = some h ∧
      h.receiver.receiveDataPacket false ⟨.regular, 1, ⟨0, 0⟩, 1, [11]⟩ = .ok (ret, h'.receiver) ∧
      ¬ h'.Accepted ret.cumulativeSeqNum := by
  obtain ⟨h, ret, h', hrun, -, heq, -, hmissing, -⟩ := reply_truthful false hostilePackets
    (by decide) ⟨.regular, 1, ⟨0, 0⟩, 1, [11]⟩ (.inl rfl)
  exact ⟨h, ret, h', hrun, heq, hmissing⟩

/-! ## The end of the sequence numbers -/

/-- A call that does not fail is given a data packet. -/
theorem isData_of_step (hstep : (histories debug).step dataPacket h = some h') :
    dataPacket.IsData := by
  by_contra hother
  have hfault : h.receiver.receiveDataPacket debug dataPacket = .error .assertionFailed :=
    if_neg hother
  change h.receiveDataPacket debug dataPacket = some h' at hstep
  rw [History.receiveDataPacket, hfault] at hstep
  cases hstep

theorem inv_of_reachable (hreach : (histories debug).Reachable h) : h.Inv := by
  refine hreach.invariant inv_new fun h dataPacket h' hinv hstep => ?_
  obtain ⟨_, h₁, -, hstep₁, hinv₁, -⟩ := hinv.receiveDataPacket debug (isData_of_step hstep)
  change h.receiveDataPacket debug dataPacket = some h' at hstep
  rw [hstep] at hstep₁
  exact Option.some.inj hstep₁ ▸ hinv₁

/-- The expected number passes the range test as long as the end of the buffer does
not wrap. -/
theorem Inv.expected_inBuffer_iff (hinv : h.Inv) :
    h.receiver.outOfBuffer h.receiver.nextExpectedPacketSeqNum = false ↔
      h.receiver.nextExpectedPacketSeqNum.toNat + 200 < 2 ^ 32 := by
  rw [hinv.receiver.outOfBuffer_eq_false_iff, nextExpected]
  omega

/-- **When the expected packet is accepted.** In every reachable state it is, its payload
written and the window moved on, exactly as long as the sum of the expected number
and the window size does not wrap. -/
theorem expected_accepted_iff (hreach : (histories debug).Reachable h)
    (htype : dataPacket.IsData) (hseq : dataPacket.seqNum = h.receiver.nextExpectedPacketSeqNum) :
    (∃ ret receiver, h.receiver.receiveDataPacket debug dataPacket = .ok (ret, receiver) ∧
        h.receiver.outOfBuffer dataPacket.seqNum = false ∧
        receiver.fileToWrite = fileWriteOf dataPacket :: h.receiver.fileToWrite ∧
        h.receiver.nextExpectedPacketSeqNum < receiver.nextExpectedPacketSeqNum) ↔
      h.receiver.nextExpectedPacketSeqNum.toNat + h.receiver.curWindowSize.toNat < 2 ^ 32 := by
  have hinv := inv_of_reachable hreach
  have hsize : h.receiver.curWindowSize.toNat = 200 := by
    rw [hinv.receiver.windowSize]
    rfl
  rw [hsize, ← hinv.expected_inBuffer_iff]
  constructor
  · rintro ⟨_, _, -, hin, -⟩
    exact hseq ▸ hin
  · intro hin
    rw [← hseq] at hin
    obtain ⟨ret, r', heq, hinv', -, -, -, hcase⟩ :=
      receiveDataPacket_cases debug hinv.receiver htype
    rcases hcase with ⟨hout, -⟩ | ⟨-, -, hwritten, hfile⟩
    · rw [hout] at hin
      cases hin
    · have hhole := hinv'.hole
      rw [hwritten, hseq] at hhole
      refine ⟨ret, r', heq, hin, ?_, UInt32.lt_iff_toNat_lt.mpr ?_⟩
      · -- the expected number was never written
        rw [hfile, writesAfter, if_neg]
        rw [← mem_written_iff, hseq]
        exact hinv.receiver.hole.2
      · exact hinv.receiver.hole.lt_of_insert_self hhole

/-- The first packet of a transfer is accepted. -/
theorem expected_accepted_iff_first :
    ∃ ret receiver, new.receiveDataPacket false ⟨.regular, 0, ⟨0, 0⟩, 1, [7]⟩ =
        .ok (ret, receiver) ∧
      receiver.fileToWrite = [⟨0, 0, [7]⟩] := by
  have hinit : (histories false).Reachable ⟨new, []⟩ := .init
  have hdata : (⟨.regular, 0, ⟨0, 0⟩, 1, [7]⟩ : DataPacket (List UInt8)).IsData := .inl rfl
  obtain ⟨ret, receiver, heq, -, hfile, -⟩ :=
    (expected_accepted_iff hinit hdata rfl).mpr (by decide)
  exact ⟨ret, receiver, heq, hfile⟩

/-- **At the end of the sequence numbers the receiver stands still.** Once the end of
the buffer wraps, no run writes anything or moves the window. -/
theorem standsStill_of_wraps {h₀ : History} (hreach : (histories debug).Reachable h₀)
    (hwraps : 2 ^ 32 ≤ h₀.receiver.nextExpectedPacketSeqNum.toNat + 200)
    (hrun : (histories debug).run packets h₀ = some h) :
    h.receiver.nextExpectedPacketSeqNum = h₀.receiver.nextExpectedPacketSeqNum ∧
      h.receiver.fileToWrite = h₀.receiver.fileToWrite := by
  refine hreach.stable (I := fun h =>
    h.receiver.nextExpectedPacketSeqNum = h₀.receiver.nextExpectedPacketSeqNum ∧
      h.receiver.fileToWrite = h₀.receiver.fileToWrite)
    (fun h dataPacket h' hreach' hsame hstep => ?_) ⟨rfl, rfl⟩ hrun
  have hinv := inv_of_reachable hreach'
  have htype := isData_of_step hstep
  obtain ⟨ret, r', heq, -, -, -, -, hcase⟩ := receiveDataPacket_cases debug hinv.receiver htype
  have hreceiver : h'.receiver = r' := by
    change h.receiveDataPacket debug dataPacket = some h' at hstep
    rw [History.receiveDataPacket, heq] at hstep
    cases hstep
    rfl
  rw [hreceiver]
  rcases hcase with ⟨-, -, hnext, hfile⟩ | ⟨hin, -⟩
  · exact ⟨hnext.trans hsame.1, hfile.trans hsame.2⟩
  · obtain ⟨-, -, hlimit⟩ := hinv.receiver.outOfBuffer_eq_false_iff.mp hin
    rw [nextExpected, hsame.1] at hlimit
    omega

/-- Packet `n` of a long transfer, with a payload of one byte. -/
def inOrderPacket (n : ℕ) : DataPacket (List UInt8) := ⟨.regular, .ofNat n, ⟨0, 0⟩, 1, [7]⟩

/-- Packets in order take the receiver to every number up to the one where the end of
the buffer wraps. -/
theorem exists_inOrder_run (debug : Bool) {n : ℕ} (hn : n ≤ 4294967096) :
    ∃ h, (histories debug).run ((List.range n).map inOrderPacket) (histories debug).init = some h ∧
      h.Inv ∧ h.receiver.written = Set.Iio n ∧
      h.receiver.nextExpectedPacketSeqNum = .ofNat n := by
  induction n with
  | zero =>
    refine ⟨_, rfl, inv_new, ?_, rfl⟩
    ext k
    exact iff_of_false (fun ⟨_, hw, _⟩ => absurd hw List.not_mem_nil) (Nat.not_lt_zero k)
  | succ n ih =>
    obtain ⟨h, hrun, hinv, hwritten, hnext⟩ := ih (by omega)
    have hdata : (inOrderPacket n).IsData := .inl rfl
    obtain ⟨ret, h', -, hstep, hinv', -, -, -, hcase⟩ := hinv.receiveDataPacket debug hdata
    have hseq : (inOrderPacket n).seqNum.toNat = n := toNat_ofNat (by omega)
    have hin : h.receiver.outOfBuffer (inOrderPacket n).seqNum = false := by
      rw [hinv.receiver.outOfBuffer_eq_false_iff, hseq, nextExpected, hnext, toNat_ofNat (by omega)]
      omega
    have hgrown : h'.receiver.written = Set.Iio (n + 1) := by
      rcases hcase with ⟨hout, -⟩ | ⟨-, -, hinsert⟩
      · rw [hout] at hin
        cases hin
      · rw [hinsert, hwritten, hseq]
        ext k
        simp only [Set.mem_insert_iff, Set.mem_Iio]
        omega
    refine ⟨h', ?_, hinv', hgrown, ?_⟩
    · rw [List.range_succ, List.map_append, TransitionSystem.run_append, hrun, Option.bind_some]
      change ((histories debug).step (inOrderPacket n) h).bind _ = _
      rw [show (histories debug).step (inOrderPacket n) h = some h' from hstep]
      rfl
    · -- the first missing number is the one behind those written
      have hhole := hinv'.receiver.hole
      rw [hgrown] at hhole
      have hle : h'.receiver.nextExpected ≤ n + 1 := hhole.le_of_notMem (lt_irrefl (n + 1))
      have hge : n + 1 ≤ h'.receiver.nextExpected := not_lt.mp hhole.2
      rw [← UInt32.toNat_inj, toNat_ofNat (by omega)]
      exact le_antisymm hle hge

/-- After 4294967096 packets in order the next one is refused. -/
theorem expected_refused_inOrderPacket :
    ∃ h ret receiver, (histories false).Reachable h ∧
      (inOrderPacket 4294967096).seqNum = h.receiver.nextExpectedPacketSeqNum ∧
      h.receiver.receiveDataPacket false (inOrderPacket 4294967096) = .ok (ret, receiver) ∧
      h.receiver.outOfBuffer (inOrderPacket 4294967096).seqNum = true ∧
      receiver.fileToWrite = h.receiver.fileToWrite ∧
      receiver.nextExpectedPacketSeqNum = h.receiver.nextExpectedPacketSeqNum := by
  obtain ⟨h, hrun, hinv, -, hnext⟩ := exists_inOrder_run false (le_refl 4294967096)
  have hout : h.receiver.outOfBuffer (inOrderPacket 4294967096).seqNum = true := by
    rw [← Bool.not_eq_false, show (inOrderPacket 4294967096).seqNum =
      h.receiver.nextExpectedPacketSeqNum from hnext.symm, hinv.expected_inBuffer_iff, hnext]
    decide
  have hreach := TransitionSystem.Reachable.init.run hrun
  refine ⟨h, _, _, hreach, hnext.symm,
    receiveDataPacket_outOfBuffer hinv.receiver (.inl rfl) hout, hout, rfl, rfl⟩

end History

end SlideWindowReceiver

end ReliablePacket
