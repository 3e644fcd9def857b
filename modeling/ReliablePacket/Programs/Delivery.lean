/-
# Delivery by the threads

A retransmission may be marshalled after its item was deleted, and then any bytes
go out under its number. This does no harm. The item is deleted by a cumulative
acknowledgement, so the number lies below the left bound and below what the
receiver expects, and the receiver drops the packet. Every other packet carries its
payload. So the output file is intact in every interleaving of the threads.

The thread `sendData` ends the program only when the sender is finished, and then
the receiver has the whole file.
-/
import ReliablePacket.Programs.Borrow
import ReliablePacket.System.Integrity

set_option autoImplicit false

namespace ReliablePacket

open SlideWindowSender SlideWindowReceiver

variable {t : Transfer} {p p' : Programs} {sys sys' : System} {a : Programs.Action} {now : Timeval}
variable {timeoutThresholdUs : UInt64} {freed : List UInt8} {i : ℕ}
variable {dataPacket : DataPacket (List UInt8)}

/-! ## The windows of the threads -/

/-- What one step of the threads can do to the windows and to what was sent. -/
inductive System.Change (t : Transfer) (sys : System) : System → Prop
  | none : Change t sys sys
  | prepared (now : Timeval) : Change t sys { sys with sender := sys.sender.prepared now }
  | sent (now : Timeval) {n : ℕ} (hn : n < t.packets) :
      Change t sys (sys.send [t.wirePacket now n])
  /-- The item was deleted before its packet was marshalled. -/
  | sentFreed {dataPacket : DataPacket (List UInt8)}
      (hlt : dataPacket.seqNum < sys.sender.slideWindowLeftBoundSeqNum) :
      Change t sys (sys.send [dataPacket])
  | timeoutChecked (timeoutThresholdUs : UInt64) (now : Timeval) :
      Change t sys
        { sys with sender := sys.sender.timeoutChecked t.shrink timeoutThresholdUs now }
  | acked {ackPacket : AckPacket} (hmem : ackPacket ∈ sys.acksSent) :
      Change t sys { sys with
        sender := sys.sender.acked t.shrink ackPacket
        acksProcessed := ackPacket :: sys.acksProcessed }
  | received {dataPacket : DataPacket (List UInt8)} {ret : RetAckPacket}
      {receiver : SlideWindowReceiver} (hmem : dataPacket ∈ sys.dataSent)
      (hreceive : sys.receiver.receiveDataPacket false dataPacket = .ok (ret, receiver)) :
      Change t sys { sys with
        receiver := receiver
        acksSent := replyAck dataPacket ret :: sys.acksSent }

namespace Programs

/-- What `sendData` transmits is the packet as it is marshalled, unless the item is
gone. -/
theorem marshal_of_transmit {packet : DataPacket ItemData} {packets : List (DataPacket ItemData)}
    (hmarshal : p.sendData = .marshal (packet :: packets))
    (hstep : p.sendDataStep now freed = some (p.transmit dataPacket packets)) :
    p.sys.sender.marshal packet = some dataPacket ∨ p.sys.sender.marshal packet = none := by
  cases hread : p.sys.sender.marshal packet with
  | none => exact .inr rfl
  | some marshalled =>
    simp only [sendDataStep, hmarshal, hread, Option.some.injEq] at hstep
    have hflight := congrArg Programs.dataInFlight hstep
    exact .inl (congrArg some (List.cons_eq_cons.mp hflight).1)

namespace Inv

theorem change_of_sendDataStep (h : p.Inv t) (ht : t.InRange)
    (hstep : p.sendDataStep now freed = some p') : p.sys.Change t p'.sys := by
  rcases sendDataStep_cases hstep with ⟨done, location, rfl, -⟩ |
    ⟨packets, sys, hprepare, rfl, -⟩ | ⟨packet, packets, dataPacket, hmarshal, -, hseq, rfl⟩
  · exact .none
  · rw [System.prepareDataPacketsToSend_eq h.system ht] at hprepare
    cases hprepare
    exact .prepared now
  · have hmem : packet ∈ p.sendData.queue := by
      rw [hmarshal]
      exact List.mem_cons_self
    rcases marshal_of_transmit hmarshal hstep with hread | hgone
    · -- the item is in the window, so its payload was read
      obtain ⟨sent, n, hright, rfl⟩ := h.queue packet hmem
      have hedge := h.system.sender.rightEdge_le
      have hlt := ht.lt
      have hnum : (t.preparedPacket sent n).seqNum.toNat = n := toNat_ofNat (by omega)
      have hleft : p.sys.sender.leftBound ≤ n := by
        by_contra hbelow
        have hnone := (h.marshal_eq_none_iff ht hmem).mpr
          (UInt32.lt_iff_toNat_lt.mpr (hnum.trans_lt (not_le.mp hbelow)))
        rw [hread] at hnone
        cases hnone
      rw [h.system.sender.marshal_eq ht hleft hright] at hread
      cases hread
      exact .sent sent (hright.trans_le hedge)
    · refine .sentFreed ?_
      rw [hseq]
      exact (h.marshal_eq_none_iff ht hmem).mp hgone

theorem change_of_receiveAckStep {i : Fin receiveAckThreadNum} (h : p.Inv t) (ht : t.InRange)
    (hstep : p.receiveAckStep t i = some p') : p.sys.Change t p'.sys := by
  rcases receiveAckStep_cases hstep with ⟨location, rfl, -⟩ |
    ⟨ackPacket, sys, hreceived, hack, rfl⟩ | ⟨-, rfl⟩
  · exact .none
  · have hmem := h.receiveAck i ackPacket hreceived
    rw [System.ackArrived_eq h.system ht hmem] at hack
    cases hack
    exact .acked hmem
  · obtain ⟨location, heq, -⟩ := notifyAll_eq p
    rw [heq]
    exact .none

theorem change_of_checkTimeoutStep (h : p.Inv t) (ht : t.InRange)
    (hstep : p.checkTimeoutStep t timeoutThresholdUs now = some p') :
    p.sys.Change t p'.sys := by
  rcases checkTimeoutStep_cases hstep with ⟨location, rfl⟩ | ⟨sys, hsys, rfl⟩ | rfl
  · exact .none
  · rw [System.checkTimeout_eq h.system ht] at hsys
    cases hsys
    exact .timeoutChecked timeoutThresholdUs now
  · obtain ⟨location, heq, -⟩ := notifyAll_eq p
    rw [heq]
    exact .none

theorem change_of_receiveDataStep {i : Fin receiveThreadNum} (h : p.Inv t)
    (hstep : p.receiveDataStep i = some p') : p.sys.Change t p'.sys := by
  rcases receiveDataStep_cases hstep with ⟨location, rfl, -⟩ |
    ⟨dataPacket, ackPacket, sys, hreceived, hsys, rfl⟩ | ⟨ackPacket, -, rfl⟩ |
    ⟨ackPacket, copies, -, rfl⟩
  · exact .none
  · have hmem : dataPacket ∈ p.sys.dataSent := by
      have hok := h.receiveData i
      rw [hreceived] at hok
      exact hok
    obtain ⟨ret, receiver, hreceive, heq⟩ := System.receiveDataPacket_eq h.system hmem
    rw [heq] at hsys
    cases hsys
    exact .received hmem hreceive
  · exact .none
  · exact .none

/-- **Everything a step of the threads does to the windows.** -/
theorem change (h : p.Inv t) (ht : t.InRange) (hstep : t.programs.step a p = some p') :
    p.sys.Change t p'.sys := by
  change Programs.step t a p = some p' at hstep
  cases a with
  | sendData now freed => exact h.change_of_sendDataStep ht hstep
  | spuriousWakeup =>
    obtain ⟨-, rfl⟩ := spuriousWakeup_eq_some hstep
    exact .none
  | receiveAck i => exact h.change_of_receiveAckStep ht hstep
  | deliverAck i ackPacket =>
    obtain ⟨-, -, location, rfl, -⟩ := deliverAck_eq_some hstep
    exact .none
  | checkTimeout timeoutThresholdUs now => exact h.change_of_checkTimeoutStep ht hstep
  | receiveData i => exact h.change_of_receiveDataStep hstep
  | deliverData i dataPacket =>
    obtain ⟨-, -, rfl⟩ := deliverData_eq_some hstep
    exact .none
  | deliverHandshake i sentTime =>
    obtain ⟨-, rfl⟩ := deliverHandshake_eq_some hstep
    exact .none
  | network action =>
    obtain ⟨_, _, _, rfl, -⟩ := networkStep_frame hstep
    exact .none

end Inv

end Programs

/-! ## Below the left bound -/

/-- A packet below the left bound is not written again, whatever its payload is. -/
theorem System.Inv.fileToWrite_of_lt (h : sys.Inv t) (hmem : dataPacket ∈ sys.dataSent)
    (hlt : dataPacket.seqNum < sys.sender.slideWindowLeftBoundSeqNum) {ret : RetAckPacket}
    {receiver : SlideWindowReceiver}
    (hreceive : sys.receiver.receiveDataPacket false dataPacket = .ok (ret, receiver)) :
    receiver.fileToWrite = sys.receiver.fileToWrite := by
  have hbase : sys.sender.slideWindowLeftBoundSeqNum ≤ sys.receiver.nextExpectedPacketSeqNum :=
    UInt32.le_iff_toNat_le.mpr h.base_le_next
  have hout : sys.receiver.outOfBuffer dataPacket.seqNum = true := by
    rw [outOfBuffer, Bool.or_eq_true, decide_eq_true_iff]
    exact .inl (UInt32.lt_of_lt_of_le hlt hbase)
  obtain ⟨_, _, heq, -, -, -, -, hcases⟩ :=
    receiveDataPacket_cases false h.receiver (h.isData hmem)
  rw [hreceive] at heq
  cases heq
  rcases hcases with ⟨-, -, -, hfile⟩ | ⟨hin, -⟩
  · exact hfile
  · rw [hout] at hin
    cases hin

/-! ## Intact packets and writes -/

/-- Every packet sent is intact or lies below the left bound, and every write is that
of a packet of the transfer. -/
structure System.WritesIntact (t : Transfer) (sys : System) : Prop where
  dataSent : ∀ dataPacket ∈ sys.dataSent,
    dataPacket.seqNum < sys.sender.slideWindowLeftBoundSeqNum ∨
      ∃ now, ∃ n < t.packets, dataPacket = t.wirePacket now n
  fileToWrite : ∀ w ∈ sys.receiver.fileToWrite, ∃ n < t.packets, w = t.fileWrite n

namespace System.WritesIntact

/-- As far as the output file is concerned, the system is intact. -/
theorem intact (h : sys.WritesIntact t) : { sys with dataSent := [] }.Intact t where
  dataSent := by
    intro dataPacket hmem
    cases hmem
  fileToWrite := h.fileToWrite

theorem init (t : Transfer) : (System.init t).WritesIntact t where
  dataSent := by
    intro dataPacket hmem
    cases hmem
  fileToWrite := by
    intro w hw
    cases hw

/-- A sender whose left bound has not moved back keeps the packets intact. -/
theorem withSender {sender : SlideWindowSender} (h : sys.WritesIntact t)
    (hleft : sys.sender.leftBound ≤ sender.leftBound) :
    { sys with sender := sender }.WritesIntact t where
  dataSent := fun dataPacket hmem => (h.dataSent dataPacket hmem).imp_left fun hlt =>
    UInt32.lt_of_lt_of_le hlt (UInt32.le_iff_toNat_le.mpr hleft)
  fileToWrite := h.fileToWrite

/-- Taking a packet writes nothing but a packet of the transfer. -/
theorem received (hintact : sys.WritesIntact t) (h : sys.Inv t)
    (hmem : dataPacket ∈ sys.dataSent) {ret : RetAckPacket} {receiver : SlideWindowReceiver}
    (hreceive : sys.receiver.receiveDataPacket false dataPacket = .ok (ret, receiver)) :
    ∀ w ∈ receiver.fileToWrite, ∃ n < t.packets, w = t.fileWrite n := by
  intro w hw
  rcases hintact.dataSent dataPacket hmem with hlt | ⟨sent, n, hn, rfl⟩
  · rw [h.fileToWrite_of_lt hmem hlt hreceive] at hw
    exact hintact.fileToWrite w hw
  · obtain ⟨_, _, hsame, -, -, -, -, hcases⟩ :=
      receiveDataPacket_cases false h.receiver (h.isData hmem)
    rw [hreceive] at hsame
    cases hsame
    rcases hcases with ⟨-, -, -, hfile⟩ | ⟨-, -, -, hfile⟩
    · exact hintact.fileToWrite w (hfile ▸ hw)
    · -- the one new write is that of the packet
      rw [hfile, writesAfter] at hw
      split_ifs at hw
      · exact hintact.fileToWrite w hw
      · rcases List.mem_cons.mp hw with rfl | hold
        · exact ⟨n, hn, fileWriteOf_wirePacket t sent n⟩
        · exact hintact.fileToWrite w hold

/-- Every step of the threads keeps packets and writes intact. -/
theorem change (hintact : sys.WritesIntact t) (h : sys.Inv t) (hchange : sys.Change t sys') :
    sys'.WritesIntact t := by
  cases hchange with
  | none => exact hintact
  | prepared now => exact hintact.withSender leftBound_prepared.ge
  | sent now hn =>
    refine ⟨fun dataPacket hmem => ?_, hintact.fileToWrite⟩
    rcases List.mem_cons.mp hmem with rfl | hold
    · exact .inr ⟨now, _, hn, rfl⟩
    · exact hintact.dataSent dataPacket hold
  | sentFreed hlt =>
    refine ⟨fun dataPacket hmem => ?_, hintact.fileToWrite⟩
    rcases List.mem_cons.mp hmem with rfl | hold
    · exact .inl hlt
    · exact hintact.dataSent dataPacket hold
  | timeoutChecked timeoutThresholdUs now => exact hintact.withSender leftBound_timeoutChecked.ge
  | @acked ackPacket hmem =>
    have hleft := leftBound_acked t.shrink (h.cumulativeSeqNum_le hmem)
    have hmoved : { sys with sender := sys.sender.acked t.shrink ackPacket }.WritesIntact t :=
      hintact.withSender (le_of_le_of_eq (le_max_left _ _) hleft.symm)
    exact ⟨hmoved.dataSent, hmoved.fileToWrite⟩
  | received hmem hreceive => exact ⟨hintact.dataSent, hintact.received h hmem hreceive⟩

/-- Below the expected number the output file agrees with the source. -/
theorem byte_eq_of_lt (hintact : sys.WritesIntact t) (h : sys.Inv t)
    (hsize : t.bytesToSend.toNat ≤ 2 ^ 32) (hlong : t.LongEnough)
    (hi : i < min (dataPacketDataSize * sys.receiver.nextExpected) t.bytesToSend.toNat) :
    i < sys.receiver.outputFile.size ∧
      sys.receiver.outputFile.byte i = t.fileToSend.byte i := by
  refine hintact.intact.byte_eq hsize hlong (lt_min_iff.mp hi).2 (h.receiver.hole.1 _ ?_)
  have hbelow := (lt_min_iff.mp hi).1
  rw [dataPacketDataSize_eq] at *
  omega

/-- The output file of a finished receiver is the beginning of the source. -/
theorem output_of_finished (hintact : sys.WritesIntact t) (h : sys.Inv t) (ht : t.InRange)
    (hsize : t.bytesToSend.toNat ≤ 2 ^ 32) (hlong : t.LongEnough)
    (hfinished : sys.receiver.finished = true) :
    sys.receiver.outputFile.size = t.bytesToSend.toNat ∧
      ∀ i < t.bytesToSend.toNat, sys.receiver.outputFile.byte i = t.fileToSend.byte i := by
  have hnext := h.nextExpected_of_finished ht hfinished
  have hall : ∀ i < t.bytesToSend.toNat, i < sys.receiver.outputFile.size ∧
      sys.receiver.outputFile.byte i = t.fileToSend.byte i := by
    intro i hi
    refine hintact.byte_eq_of_lt h hsize hlong (lt_min ?_ hi)
    rw [hnext, Transfer.packets_eq, dataPacketDataSize_eq]
    omega
  refine ⟨le_antisymm (hintact.intact.size_le hsize hlong) ?_, fun i hi => (hall i hi).2⟩
  by_contra hlt
  exact absurd (hall _ (not_le.mp hlt)).1 (lt_irrefl _)

end System.WritesIntact

theorem Programs.writesIntact_of_reachable (ht : t.InRange) (hreach : t.programs.Reachable p) :
    p.sys.WritesIntact t :=
  TransitionSystem.ReachableVia.invariant (I := fun p : Programs => p.sys.WritesIntact t)
    (System.WritesIntact.init t)
    (fun _ _ _ hs hintact _ hstep => hintact.change (inv_of_reachable ht hs).system
      ((inv_of_reachable ht hs).change ht hstep)) hreach

/-! ## Finished sides stay finished -/

namespace System.Change

/-- A finished receiver stays finished and writes nothing more. -/
theorem receiver_finished (hchange : sys.Change t sys') (h : sys.Inv t) (ht : t.InRange)
    (hfinished : sys.receiver.finished = true) :
    sys'.receiver.finished = true ∧ sys'.receiver.fileToWrite = sys.receiver.fileToWrite := by
  cases hchange with
  | none => exact ⟨hfinished, rfl⟩
  | prepared now => exact ⟨hfinished, rfl⟩
  | sent now hn => exact ⟨hfinished, rfl⟩
  | sentFreed hlt => exact ⟨hfinished, rfl⟩
  | timeoutChecked timeoutThresholdUs now => exact ⟨hfinished, rfl⟩
  | acked hmem => exact ⟨hfinished, rfl⟩
  | received hmem hreceive => exact h.finished_received ht hfinished hmem hreceive

/-- The left bound never moves back. -/
theorem leftBound_le (hchange : sys.Change t sys') (h : sys.Inv t) :
    sys.sender.leftBound ≤ sys'.sender.leftBound := by
  cases hchange with
  | none => exact le_rfl
  | prepared now => exact leftBound_prepared.ge
  | sent now hn => exact le_rfl
  | sentFreed hlt => exact le_rfl
  | timeoutChecked timeoutThresholdUs now => exact leftBound_timeoutChecked.ge
  | acked hmem =>
    have hleft := leftBound_acked t.shrink (h.cumulativeSeqNum_le hmem)
    exact le_of_le_of_eq (le_max_left _ _) hleft.symm
  | received hmem hreceive => exact le_rfl

/-- A finished sender stays finished. -/
theorem sender_finished (hchange : sys.Change t sys') (h : sys.Inv t) (h' : sys'.Inv t)
    (hfinished : sys.sender.finished = true) : sys'.sender.finished = true := by
  obtain ⟨hleft, hdata⟩ := h.sender.finished_iff.mp hfinished
  refine h'.sender.finished_iff.mpr ⟨?_, hdata⟩
  exact le_antisymm h'.sender.leftBound_le (hleft.ge.trans (hchange.leftBound_le h))

end System.Change

namespace Programs

/-- A finished receiver stays finished whatever the threads do next. -/
theorem receiver_finished_run {as : List Action} (ht : t.InRange)
    (hreach : t.programs.Reachable p) (hfinished : p.sys.receiver.finished = true)
    (hrun : t.programs.run as p = some p') :
    p'.sys.receiver.finished = true ∧
      p'.sys.receiver.fileToWrite = p.sys.receiver.fileToWrite := by
  refine hreach.stable (I := fun u => u.sys.receiver.finished = true ∧
    u.sys.receiver.fileToWrite = p.sys.receiver.fileToWrite) ?_ ⟨hfinished, rfl⟩ hrun
  rintro u a u' hu ⟨hdone, hfile⟩ hstep
  have h := inv_of_reachable ht hu
  obtain ⟨hdone', hfile'⟩ := (h.change ht hstep).receiver_finished h.system ht hdone
  exact ⟨hdone', hfile'.trans hfile⟩

/-! ## The end of the sender's program -/

/-- `sendData` leaves its loop for a finished sender only, then it sets `done` and
exits. -/
structure Concludes (p : Programs) : Prop where
  setDone : p.sendData = .setDone → p.sys.sender.finished = true
  done : p.done = true → p.sys.sender.finished = true
  exited : p.sendData = .exited ↔ p.done = true

/-- `sendData` decides to set `done`, sets it, or does neither. -/
theorem sendDataStep_conclusion (hstep : p.sendDataStep now freed = some p') :
    (p.sendData = .setDone ∧ p' = { p with done := true, sendData := .exited }) ∨
      (p.sendData ≠ .exited ∧ p'.done = p.done ∧ p'.sendData ≠ .exited ∧
        (p'.sendData = .setDone → p.sys.sender.finished = true)) := by
  simp only [sendDataStep] at hstep
  cases hlocation : p.sendData with
  | loopTest =>
    simp only [hlocation, Option.some.injEq] at hstep
    subst hstep
    refine .inr ⟨by simp, rfl, ?_, fun hset => ?_⟩
    · dsimp only
      split_ifs <;> simp
    · by_contra hfinished
      rw [if_neg hfinished] at hset
      cases hset
  | predicateHasData =>
    simp only [hlocation, Option.some.injEq] at hstep
    subst hstep
    refine .inr ⟨by simp, rfl, ?_, ?_⟩ <;> dsimp only <;> split_ifs <;> simp
  | predicateFinished =>
    simp only [hlocation, Option.some.injEq] at hstep
    subst hstep
    refine .inr ⟨by simp, rfl, ?_, ?_⟩ <;> dsimp only <;> split_ifs <;> simp
  | aboutToWait =>
    simp only [hlocation, Option.some.injEq] at hstep
    subst hstep
    exact .inr ⟨by simp, rfl, by simp, by simp⟩
  | waiting => simp [hlocation] at hstep
  | hasDataTest =>
    simp only [hlocation, Option.some.injEq] at hstep
    subst hstep
    refine .inr ⟨by simp, rfl, ?_, ?_⟩ <;> dsimp only <;> split_ifs <;> simp
  | prepare =>
    simp only [hlocation] at hstep
    obtain ⟨⟨packets, sys⟩, -, heq⟩ := Option.bind_eq_some_iff.mp hstep
    cases heq
    exact .inr ⟨by simp, rfl, by simp, by simp⟩
  | marshal packets =>
    cases packets with
    | nil =>
      simp only [hlocation, Option.some.injEq] at hstep
      subst hstep
      exact .inr ⟨by simp, rfl, by simp, by simp⟩
    | cons packet packets =>
      simp only [hlocation] at hstep
      cases hread : p.sys.sender.marshal packet with
      | some dataPacket =>
        simp only [hread, Option.some.injEq] at hstep
        subst hstep
        exact .inr ⟨by simp, rfl, by simp [transmit], by simp [transmit]⟩
      | none =>
        simp only [hread, Option.ite_none_right_eq_some, Option.some.injEq] at hstep
        obtain ⟨-, rfl⟩ := hstep
        exact .inr ⟨by simp, rfl, by simp [transmit], by simp [transmit]⟩
  | setDone =>
    simp only [hlocation, Option.some.injEq] at hstep
    exact .inl ⟨rfl, hstep.symm⟩
  | exited => simp [hlocation] at hstep

/-- No other thread sets `done`, and all they do to `sendData` is to wake it up. -/
theorem step_sendData (hstep : t.programs.step a p = some p')
    (hother : ∀ now freed, a ≠ .sendData now freed) :
    p'.done = p.done ∧ (p'.sendData = p.sendData ∨
      p.sendData = .waiting ∧ p'.sendData = .predicateHasData) := by
  have hnotify : p.notifyAll.done = p.done ∧ (p.notifyAll.sendData = p.sendData ∨
      p.sendData = .waiting ∧ p.notifyAll.sendData = .predicateHasData) := by
    simp only [notifyAll]
    split_ifs with hwaiting
    · exact ⟨rfl, .inr ⟨hwaiting, rfl⟩⟩
    · exact ⟨rfl, .inl rfl⟩
  change Programs.step t a p = some p' at hstep
  cases a with
  | sendData now freed => exact absurd rfl (hother now freed)
  | spuriousWakeup =>
    obtain ⟨hwaiting, rfl⟩ := spuriousWakeup_eq_some hstep
    exact ⟨rfl, .inr ⟨hwaiting, rfl⟩⟩
  | receiveAck i =>
    rcases receiveAckStep_cases hstep with ⟨location, rfl, -⟩ | ⟨_, _, -, -, rfl⟩ | ⟨-, rfl⟩
    · exact ⟨rfl, .inl rfl⟩
    · exact ⟨rfl, .inl rfl⟩
    · exact hnotify
  | deliverAck i ackPacket =>
    obtain ⟨-, -, location, rfl, -⟩ := deliverAck_eq_some hstep
    exact ⟨rfl, .inl rfl⟩
  | checkTimeout timeoutThresholdUs now =>
    rcases checkTimeoutStep_cases hstep with ⟨location, rfl⟩ | ⟨_, -, rfl⟩ | rfl
    · exact ⟨rfl, .inl rfl⟩
    · exact ⟨rfl, .inl rfl⟩
    · exact hnotify
  | receiveData i =>
    rcases receiveDataStep_cases hstep with ⟨location, rfl, -⟩ | ⟨_, _, _, -, -, rfl⟩ |
      ⟨_, -, rfl⟩ | ⟨_, _, -, rfl⟩ <;> exact ⟨rfl, .inl rfl⟩
  | deliverData i dataPacket =>
    obtain ⟨-, -, rfl⟩ := deliverData_eq_some hstep
    exact ⟨rfl, .inl rfl⟩
  | deliverHandshake i sentTime =>
    obtain ⟨-, rfl⟩ := deliverHandshake_eq_some hstep
    exact ⟨rfl, .inl rfl⟩
  | network action =>
    obtain ⟨_, _, _, rfl, -⟩ := networkStep_frame hstep
    exact ⟨rfl, .inl rfl⟩

namespace Concludes

theorem init (t : Transfer) : (Programs.init t).Concludes where
  setDone := nofun
  done := nofun
  exited := iff_of_false nofun nofun

/-- Every step keeps `done` tied to a finished sender. -/
theorem step (hends : p.Concludes) (h : p.Inv t) (ht : t.InRange)
    (hstep : t.programs.step a p = some p') : p'.Concludes := by
  have hkeep : p.sys.sender.finished = true → p'.sys.sender.finished = true :=
    (h.change ht hstep).sender_finished h.system (h.step ht hstep).system
  by_cases hother : ∀ now freed, a ≠ .sendData now freed
  · obtain ⟨hdone, hsame⟩ := step_sendData hstep hother
    refine ⟨fun hset => ?_, fun hset => hkeep (hends.done (hdone ▸ hset)), ?_⟩
    · rcases hsame with heq | ⟨-, heq⟩
      · exact hkeep (hends.setDone (heq ▸ hset))
      · rw [heq] at hset
        cases hset
    · rw [hdone, ← hends.exited]
      rcases hsame with heq | ⟨hwaiting, heq⟩
      · rw [heq]
      · rw [heq, hwaiting]
        exact iff_of_false nofun nofun
  · push Not at hother
    obtain ⟨now, freed, rfl⟩ := hother
    rcases sendDataStep_conclusion hstep with ⟨hset, rfl⟩ | ⟨hrunning, hdone, hrunning', hset⟩
    · exact ⟨nofun, fun _ => hends.setDone hset, iff_of_true rfl rfl⟩
    · refine ⟨fun hset' => hkeep (hset hset'), fun hset' => hkeep (hends.done (hdone ▸ hset')), ?_⟩
      rw [hdone, ← hends.exited]
      exact iff_of_false hrunning' hrunning

end Concludes

theorem concludes_of_reachable (ht : t.InRange) (hreach : t.programs.Reachable p) :
    p.Concludes :=
  TransitionSystem.ReachableVia.invariant (Concludes.init t)
    (fun _ _ _ hs hends _ hstep => hends.step (inv_of_reachable ht hs) ht hstep) hreach

/-- A sender that is finished has read the whole file. -/
theorem Inv.longEnough (h : p.Inv t) (ht : t.InRange) (hsize : t.bytesToSend.toNat ≤ 2 ^ 32)
    (hfinished : p.sys.sender.finished = true) : t.LongEnough := by
  have hpos := ht.pos
  have hcount := t.packets_eq
  have hdata := (h.system.sender.finished_iff.mp hfinished).2 (t.packets - 1) (by omega)
  -- the last packet was read to its end, and that is the end of the transfer
  rw [Transfer.length_packetData_eq_iff (by omega)] at hdata
  have hoffset : readOffset (.ofNat (t.packets - 1)) = dataPacketDataSize * (t.packets - 1) := by
    have hnum : (UInt32.ofNat (t.packets - 1)).toNat = t.packets - 1 := toNat_ofNat (by omega)
    rw [readOffset_eq_iff.mpr, hnum]
    rw [hnum, dataPacketDataSize_eq]
    omega
  rw [hoffset, dataPacketDataSize_eq, packetSize_eq] at hdata
  rw [Transfer.LongEnough]
  omega

end Programs

/-! ## Delivery -/

/-- **The threads deliver the file intact**, also when packets are marshalled from freed
memory. In every interleaving the output file agrees with the source up to the
expected number, a finished receiver has exactly the bytes to send, and nothing
changes that afterwards. -/
theorem programs_output_intact (hpos : 1 ≤ t.bytesToSend.toNat)
    (hsize : t.bytesToSend.toNat ≤ 2 ^ 32) (hlong : t.LongEnough)
    (hreach : t.programs.Reachable p) :
    (∀ i < min (dataPacketDataSize * p.sys.receiver.nextExpectedPacketSeqNum.toNat)
          t.bytesToSend.toNat,
        i < p.sys.receiver.outputFile.size ∧
          p.sys.receiver.outputFile.byte i = t.fileToSend.byte i) ∧
      (p.sys.receiver.finished = true →
        p.sys.receiver.outputFile.size = t.bytesToSend.toNat ∧
          (∀ i < t.bytesToSend.toNat,
            p.sys.receiver.outputFile.byte i = t.fileToSend.byte i) ∧
          ∀ as p', t.programs.run as p = some p' → p'.sys.receiver.finished = true ∧
            p'.sys.receiver.outputFile = p.sys.receiver.outputFile) := by
  have ht := Transfer.inRange_of_le hpos hsize
  have h := (Programs.inv_of_reachable ht hreach).system
  have hintact := Programs.writesIntact_of_reachable ht hreach
  refine ⟨fun i hi => hintact.byte_eq_of_lt h hsize hlong hi, fun hfinished => ?_⟩
  obtain ⟨hend, hbytes⟩ := hintact.output_of_finished h ht hsize hlong hfinished
  refine ⟨hend, hbytes, fun as p' hrun => ?_⟩
  obtain ⟨hdone, hfile⟩ := Programs.receiver_finished_run ht hreach hfinished hrun
  refine ⟨hdone, ?_⟩
  rw [outputFile, outputFile, hfile]

/-- A wrong byte goes out under the number of the retransmission, and the output of the
transfer of one byte is right all the same. -/
theorem programs_output_intact_retransmission :
    (Transfer.oneByte.programs.endOf (Programs.retransmissionRun ++
        [.receiveAck 0, .sendData ⟨1, 0⟩ [0]])).dataInFlight =
      [⟨.finish, 0, ⟨0, 0⟩, 1, [0]⟩] ∧
    (Transfer.oneByte.programs.endOf (Programs.retransmissionRun ++
        [.receiveAck 0, .sendData ⟨1, 0⟩ [0]])).sys.receiver.outputFile.byte 0 = 7 :=
  ⟨by decide +kernel, ((programs_output_intact (t := Transfer.oneByte) (by decide) (by decide)
    (le_refl 1) (Transfer.oneByte.programs.reachable_endOf _)).2 (by decide +kernel)).2.1 0
    (by decide)⟩

/-- **A sender that is done has delivered.** Whatever the source file is, when the
sender's program ends the receiver is finished and its file is exactly the beginning
of the source. -/
theorem programs_output_of_done (hpos : 1 ≤ t.bytesToSend.toNat)
    (hsize : t.bytesToSend.toNat ≤ 2 ^ 32) (hreach : t.programs.Reachable p)
    (hdone : p.done = true) :
    t.LongEnough ∧ p.sys.sender.finished = true ∧ p.sys.receiver.finished = true ∧
      p.sys.receiver.outputFile.size = t.bytesToSend.toNat ∧
      ∀ i < t.bytesToSend.toNat, p.sys.receiver.outputFile.byte i = t.fileToSend.byte i := by
  have ht := Transfer.inRange_of_le hpos hsize
  have h := Programs.inv_of_reachable ht hreach
  have hsender := (Programs.concludes_of_reachable ht hreach).done hdone
  have hreceiver := (h.system.receiver_finished ht hsender).1
  have hlong := h.longEnough ht hsize hsender
  have hintact := Programs.writesIntact_of_reachable ht hreach
  exact ⟨hlong, hsender, hreceiver, hintact.output_of_finished h.system ht hsize hlong hreceiver⟩

/-- The transfer of one byte is done with its byte delivered. -/
theorem programs_output_of_done_notifiedRun :
    (Transfer.oneByte.programs.endOf Programs.notifiedRun).sys.receiver.outputFile.size = 1 :=
  (programs_output_of_done (t := Transfer.oneByte) (by decide) (by decide)
    (Transfer.oneByte.programs.reachable_endOf Programs.notifiedRun)
    (by decide +kernel)).2.2.2.1

end ReliablePacket
