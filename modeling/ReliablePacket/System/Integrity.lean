/-
# Integrity of the output file

Every datagram on the network carries the payload of its packet, and every write
of the receiver puts a payload where the sender read it. So the output file
agrees with the source wherever it was written, whatever order the writes came
in. Where the offsets are exact, the writes below the expected number cover the
beginning of the file without a gap.

A receiver that is finished takes no further packet, since every packet of the
transfer lies below the expected number.
-/
import ReliablePacket.System.Agreement

set_option autoImplicit false

namespace ReliablePacket

open SlideWindowSender SlideWindowReceiver

variable {t : Transfer} {sys sys' : System} {n i : ℕ} {a : System.Action}

/-- The write that puts packet `n` into the output file. -/
def Transfer.fileWrite (t : Transfer) (n : ℕ) : FileWrite :=
  ⟨.ofNat n, writeOffset (.ofNat n), t.packetData n⟩

/-- A transfer whose offsets fit 32 bits has few packets. -/
theorem Transfer.inRange_of_le (hpos : 1 ≤ t.bytesToSend.toNat)
    (hsize : t.bytesToSend.toNat ≤ 2 ^ 32) : t.InRange := by
  refine ⟨packetCount_pos_iff.mpr hpos, ?_⟩
  rw [Transfer.packets_eq]
  omega

/-- Every datagram and every write is that of a packet of the transfer. -/
structure System.Intact (t : Transfer) (sys : System) : Prop where
  dataSent : ∀ dataPacket ∈ sys.dataSent, ∃ now, ∃ n < t.packets,
    dataPacket = t.wirePacket now n
  fileToWrite : ∀ w ∈ sys.receiver.fileToWrite, ∃ n < t.packets, w = t.fileWrite n

/-- Buffering a packet of the transfer writes that packet. -/
theorem fileWriteOf_wirePacket (t : Transfer) (now : Timeval) (n : ℕ) :
    fileWriteOf (t.wirePacket now n) = t.fileWrite n := by
  simp only [fileWriteOf, Transfer.wirePacket, Transfer.fileWrite]
  rw [List.take_length]

namespace System

theorem Intact.init (t : Transfer) : (System.init t).Intact t where
  dataSent := by
    intro dataPacket hmem
    cases hmem
  fileToWrite := by
    intro w hw
    cases hw

/-- Every step keeps the payloads intact. -/
theorem Intact.step (hintact : sys.Intact t) (h : sys.Inv t) (ht : t.InRange)
    (hstep : t.system.step a sys = some sys') : sys'.Intact t := by
  rcases step_cases h ht hstep with ⟨now, -, rfl⟩ | ⟨_, _, -, rfl⟩ | ⟨_, _, -, rfl⟩ |
    ⟨packet, hmem, ret, receiver, -, hreceive, rfl⟩
  · refine ⟨fun packet hpacket => ?_, hintact.fileToWrite⟩
    rcases List.mem_append.mp hpacket with hnew | hold
    · obtain ⟨n, -, hright, rfl⟩ := exists_of_mem_wirePackets h.sender ht hnew
      exact ⟨now, n, hright.trans_le h.sender.rightEdge_le, rfl⟩
    · exact hintact.dataSent packet hold
  · exact ⟨hintact.dataSent, hintact.fileToWrite⟩
  · exact ⟨hintact.dataSent, hintact.fileToWrite⟩
  · obtain ⟨now, n, hn, rfl⟩ := hintact.dataSent packet hmem
    obtain ⟨_, _, heq, -, -, -, -, hcases⟩ :=
      receiveDataPacket_cases false h.receiver (h.isData hmem)
    rw [hreceive] at heq
    cases heq
    refine ⟨hintact.dataSent, fun w hw => ?_⟩
    rcases hcases with ⟨-, -, -, hfile⟩ | ⟨-, -, -, hfile⟩
    · exact hintact.fileToWrite w (hfile ▸ hw)
    · -- the one new write is that of a packet the sender sent
      change w ∈ receiver.fileToWrite at hw
      rw [hfile, writesAfter] at hw
      split_ifs at hw
      · exact hintact.fileToWrite w hw
      · rcases List.mem_cons.mp hw with rfl | hold
        · exact ⟨n, hn, fileWriteOf_wirePacket t now n⟩
        · exact hintact.fileToWrite w hold

theorem intact_of_reachable (ht : t.InRange) (hreach : t.system.Reachable sys) :
    sys.Intact t :=
  TransitionSystem.ReachableVia.invariant (Intact.init t)
    (fun _ _ _ hs hintact _ hstep => hintact.step (inv_of_reachable ht hs) ht hstep) hreach

/-! ## The bytes of the output file -/

/-- Both sides use the same offset, so a payload agrees with the source where it
is written, even where offsets wrap. -/
theorem Intact.agrees (hintact : sys.Intact t) :
    ∀ w ∈ sys.receiver.fileToWrite.map fun w => (w.offset, w.data),
      ByteFile.Agrees t.fileToSend.byte w := by
  intro w hw i hi
  obtain ⟨call, hcall, rfl⟩ := List.mem_map.mp hw
  obtain ⟨n, -, rfl⟩ := hintact.fileToWrite call hcall
  exact ByteFile.getD_read hi

/-- The offsets of a transfer of at most 2 ^ 32 bytes do not wrap. -/
theorem writeOffset_ofNat (hsize : t.bytesToSend.toNat ≤ 2 ^ 32) (hn : n < t.packets) :
    writeOffset (.ofNat n) = dataPacketDataSize * n := by
  rw [Transfer.packets_eq] at hn
  rw [writeOffset, UInt32.toNat_mul, toNat_dataPacketDataSize, toNat_ofNat (by omega),
    dataPacketDataSize_eq]
  omega

/-- An offset lies in the packet that its quotient numbers. -/
theorem mem_packet_iff (hlong : t.LongEnough) (hn : n < t.packets) :
    dataPacketDataSize * n ≤ i ∧ i < dataPacketDataSize * n + (t.packetData n).length ↔
      n = i / dataPacketDataSize ∧ i < t.bytesToSend.toNat := by
  rw [hlong.length_packetData hn]
  rw [Transfer.packets_eq] at hn
  rw [packetSize_eq, dataPacketDataSize_eq]
  omega

/-- **Which bytes have been written.** Those of the packets that were written. -/
theorem Intact.covered_iff (hintact : sys.Intact t) (hsize : t.bytesToSend.toNat ≤ 2 ^ 32)
    (hlong : t.LongEnough) :
    (∃ w ∈ sys.receiver.fileToWrite.map fun w => (w.offset, w.data), ByteFile.Covers w i) ↔
      i < t.bytesToSend.toNat ∧ i / dataPacketDataSize ∈ sys.receiver.written := by
  have hcount : t.packets < 2 ^ 32 := by
    rw [Transfer.packets_eq]
    omega
  constructor
  · rintro ⟨_, hw, hcovers⟩
    obtain ⟨call, hcall, rfl⟩ := List.mem_map.mp hw
    obtain ⟨n, hn, rfl⟩ := hintact.fileToWrite call hcall
    simp only [ByteFile.Covers, Transfer.fileWrite] at hcovers
    rw [writeOffset_ofNat hsize hn, mem_packet_iff hlong hn] at hcovers
    refine ⟨hcovers.2, _, hcall, ?_⟩
    rw [← hcovers.1]
    exact toNat_ofNat (by omega)
  · rintro ⟨hi, call, hcall, hseq⟩
    obtain ⟨n, hn, rfl⟩ := hintact.fileToWrite call hcall
    have hquot : n = i / dataPacketDataSize := by
      rw [← hseq]
      exact (toNat_ofNat (by omega)).symm
    refine ⟨_, List.mem_map.mpr ⟨_, hcall, rfl⟩, ?_⟩
    simp only [ByteFile.Covers, Transfer.fileWrite]
    rw [writeOffset_ofNat hsize hn, mem_packet_iff hlong hn]
    exact ⟨hquot, hi⟩

/-- A byte of a packet that was written is in the output file and is that of the
source. -/
theorem Intact.byte_eq (hintact : sys.Intact t) (hsize : t.bytesToSend.toNat ≤ 2 ^ 32)
    (hlong : t.LongEnough) (hi : i < t.bytesToSend.toNat)
    (hwritten : i / dataPacketDataSize ∈ sys.receiver.written) :
    i < sys.receiver.outputFile.size ∧
      sys.receiver.outputFile.byte i = t.fileToSend.byte i := by
  have hcovered := (hintact.covered_iff hsize hlong).mpr ⟨hi, hwritten⟩
  refine ⟨?_, ByteFile.byte_ofWrites hintact.agrees hcovered⟩
  obtain ⟨w, hw, hle, hlt⟩ := hcovered
  refine ByteFile.lt_size_ofWrites_iff.mpr ⟨w, hw, ?_, hlt⟩
  rintro hnil
  rw [hnil, List.length_nil] at hlt
  omega

/-- The output file never grows beyond the transfer. -/
theorem Intact.size_le (hintact : sys.Intact t) (hsize : t.bytesToSend.toNat ≤ 2 ^ 32)
    (hlong : t.LongEnough) : sys.receiver.outputFile.size ≤ t.bytesToSend.toNat := by
  by_contra hlt
  obtain ⟨_, hw, hdata, hend⟩ := ByteFile.lt_size_ofWrites_iff.mp (not_le.mp hlt)
  obtain ⟨call, hcall, rfl⟩ := List.mem_map.mp hw
  -- the write ends where its packet ends, which lies inside the transfer
  obtain ⟨n, hn, rfl⟩ := hintact.fileToWrite call hcall
  simp only [Transfer.fileWrite] at hend
  rw [writeOffset_ofNat hsize hn, hlong.length_packetData hn] at hend
  rw [packetSize_eq, dataPacketDataSize_eq] at hend
  rw [Transfer.packets_eq] at hn
  omega

/-! ## After the receiver has finished -/

theorem Inv.nextExpected_of_finished (h : sys.Inv t) (ht : t.InRange)
    (hfinished : sys.receiver.finished = true) : sys.receiver.nextExpected = t.packets := by
  rw [SlideWindowReceiver.finished, Bool.and_eq_true, decide_eq_true_iff] at hfinished
  have hlast := ht.toNat_lastPacketSeqNum
  have hlt := ht.lt
  rw [nextExpected, hfinished.2, h.finishMark hfinished.1, UInt32.toNat_add, UInt32.toNat_one]
  omega

/-- A finished receiver stays finished and writes nothing more. -/
theorem Inv.finished_received (h : sys.Inv t) (ht : t.InRange)
    (hfinished : sys.receiver.finished = true) {dataPacket : DataPacket (List UInt8)}
    (hmem : dataPacket ∈ sys.dataSent) {ret : RetAckPacket} {receiver : SlideWindowReceiver}
    (hreceive : sys.receiver.receiveDataPacket false dataPacket = .ok (ret, receiver)) :
    receiver.finished = true ∧ receiver.fileToWrite = sys.receiver.fileToWrite := by
  have h' := h.received hmem hreceive
  have hnext := h.nextExpected_of_finished ht hfinished
  have hout : sys.receiver.outOfBuffer dataPacket.seqNum = true := by
    -- every packet of the transfer lies below the expected number
    have hseq := (h.seqNum_lt hmem).trans_le h.sender.rightEdge_le
    rw [← hnext] at hseq
    rw [outOfBuffer, Bool.or_eq_true, decide_eq_true_iff]
    exact .inl hseq
  obtain ⟨_, _, heq, -, -, hflag, -, hcases⟩ :=
    receiveDataPacket_cases false h.receiver (h.isData hmem)
  rw [hreceive] at heq
  cases heq
  rcases hcases with ⟨-, -, hsame, hfile⟩ | ⟨hin, -⟩
  · rw [SlideWindowReceiver.finished, Bool.and_eq_true, decide_eq_true_iff] at hfinished
    have hmark : receiver.lastPacketSeqNumReceived = true := by
      rw [hflag]
      simp only [recordFinish]
      split_ifs
      · rfl
      · exact hfinished.1
    refine ⟨?_, hfile⟩
    rw [SlideWindowReceiver.finished, Bool.and_eq_true, decide_eq_true_iff]
    refine ⟨hmark, ?_⟩
    rw [hsame, hfinished.2, h.finishMark hfinished.1, h'.finishMark hmark]
  · rw [hout] at hin
    cases hin

/-- A finished receiver stays finished whatever the system does next. -/
theorem finished_step (h : sys.Inv t) (ht : t.InRange)
    (hfinished : sys.receiver.finished = true) (hstep : t.system.step a sys = some sys') :
    sys'.receiver.finished = true ∧ sys'.receiver.fileToWrite = sys.receiver.fileToWrite := by
  rcases step_cases h ht hstep with ⟨_, -, rfl⟩ | ⟨_, _, -, rfl⟩ | ⟨_, _, -, rfl⟩ |
    ⟨packet, hmem, ret, receiver, -, hreceive, rfl⟩
  · exact ⟨hfinished, rfl⟩
  · exact ⟨hfinished, rfl⟩
  · exact ⟨hfinished, rfl⟩
  · exact h.finished_received ht hfinished hmem hreceive

theorem finished_run {as : List Action} (ht : t.InRange) (hreach : t.system.Reachable sys)
    (hfinished : sys.receiver.finished = true) (hrun : t.system.run as sys = some sys') :
    sys'.receiver.finished = true ∧ sys'.receiver.fileToWrite = sys.receiver.fileToWrite := by
  refine hreach.stable (I := fun u => u.receiver.finished = true ∧
    u.receiver.fileToWrite = sys.receiver.fileToWrite) ?_ ⟨hfinished, rfl⟩ hrun
  rintro u a u' hu ⟨hdone, hfile⟩ hstep
  obtain ⟨hdone', hfile'⟩ := finished_step (inv_of_reachable ht hu) ht hdone hstep
  exact ⟨hdone', hfile'.trans hfile⟩

end System

/-- **End-to-end integrity.** The output file agrees with the source up to the
expected number, a finished receiver has exactly the bytes to send, and nothing
changes that afterwards. -/
theorem outputFile_intact (hpos : 1 ≤ t.bytesToSend.toNat)
    (hsize : t.bytesToSend.toNat ≤ 2 ^ 32) (hlong : t.LongEnough)
    (hreach : t.system.Reachable sys) :
    (∀ i < min (dataPacketDataSize * sys.receiver.nextExpectedPacketSeqNum.toNat)
          t.bytesToSend.toNat,
        i < sys.receiver.outputFile.size ∧
          sys.receiver.outputFile.byte i = t.fileToSend.byte i) ∧
      (sys.receiver.finished = true →
        sys.receiver.outputFile.size = t.bytesToSend.toNat ∧
          (∀ i < t.bytesToSend.toNat,
            sys.receiver.outputFile.byte i = t.fileToSend.byte i) ∧
          ∀ as sys', t.system.run as sys = some sys' → sys'.receiver.finished = true ∧
            sys'.receiver.outputFile = sys.receiver.outputFile) := by
  have ht := Transfer.inRange_of_le hpos hsize
  have h := System.inv_of_reachable ht hreach
  have hintact := System.intact_of_reachable ht hreach
  have hbelow : ∀ i < min (dataPacketDataSize * sys.receiver.nextExpected) t.bytesToSend.toNat,
      i < sys.receiver.outputFile.size ∧
        sys.receiver.outputFile.byte i = t.fileToSend.byte i := by
    intro i hi
    -- below the expected number everything is written
    refine hintact.byte_eq hsize hlong (lt_min_iff.mp hi).2 (h.receiver.hole.1 _ ?_)
    rw [dataPacketDataSize_eq] at *
    omega
  refine ⟨hbelow, fun hfinished => ?_⟩
  have hnext := h.nextExpected_of_finished ht hfinished
  have hall : ∀ i < t.bytesToSend.toNat, i < sys.receiver.outputFile.size ∧
      sys.receiver.outputFile.byte i = t.fileToSend.byte i := by
    intro i hi
    refine hbelow i (lt_min ?_ hi)
    rw [hnext, Transfer.packets_eq, dataPacketDataSize_eq]
    omega
  refine ⟨?_, fun i hi => (hall i hi).2, fun as sys' hrun => ?_⟩
  · -- the last byte is in the file, and none behind it
    refine le_antisymm (hintact.size_le hsize hlong) ?_
    by_contra hlt
    exact absurd (hall _ (not_le.mp hlt)).1 (lt_irrefl _)
  · obtain ⟨hdone, hfile⟩ := System.finished_run ht hreach hfinished hrun
    refine ⟨hdone, ?_⟩
    rw [outputFile, outputFile, hfile]

/-- The output of the transfer of one byte is that byte. -/
theorem outputFile_intact_oneByte :
    (Transfer.oneByte.system.endOf System.oneByteRun).receiver.outputFile.size = 1 :=
  ((outputFile_intact (t := Transfer.oneByte) (by decide) (by decide) (le_refl 1)
    (Transfer.oneByte.system.reachable_endOf System.oneByteRun)).2 (by decide +kernel)).1

end ReliablePacket
