/-
# Where the time stamps come from

Every packet carries the clock reading of the sending round that prepared it, and every
reply carries the stamp of the packet it answers. So a stamp that arrives at the sender
was read from the sender's own clock, when the packet that the acknowledgement names was
prepared. Retransmissions are stamped anew, and the network does not change stamps.

Handshakes are stamped apart from that; the answer to a handshake carries its stamp.
-/
import ReliablePacket.Programs.Delivery

set_option autoImplicit false

namespace ReliablePacket

open SlideWindowSender

variable {t : Transfer} {p p' : Programs} {sys sys' : System} {a : Programs.Action}
variable {now : Timeval} {timeoutThresholdUs : UInt64} {freed : List UInt8}
variable {dataPacket : DataPacket (List UInt8)}

/-! ## What an acknowledgement answers -/

/-- Some packet that was sent has the stamp of the acknowledgement, and the number it
selects if it selects one. -/
def System.Answers (sys : System) (ackPacket : AckPacket) : Prop :=
  ∃ dataPacket ∈ sys.dataSent, dataPacket.sentTime = ackPacket.sentTime ∧
    (ackPacket.cumulativeSeqNum ≠ ackPacket.selectiveSeqNum →
      dataPacket.seqNum = ackPacket.selectiveSeqNum)

theorem System.Answers.mono {ackPacket : AckPacket} (h : sys.Answers ackPacket)
    (hsent : sys.dataSent ⊆ sys'.dataSent) : sys'.Answers ackPacket := by
  obtain ⟨dataPacket, hmem, hanswers⟩ := h
  exact ⟨dataPacket, hsent hmem, hanswers⟩

/-- A reply answers the packet it is made for. -/
theorem System.Inv.answers_replyAck (h : sys.Inv t) (hmem : dataPacket ∈ sys.dataSent)
    {ret : RetAckPacket} {receiver : SlideWindowReceiver}
    (hreceive : sys.receiver.receiveDataPacket false dataPacket = .ok (ret, receiver)) :
    sys.Answers (replyAck dataPacket ret) := by
  refine ⟨dataPacket, hmem, rfl, fun hne => ?_⟩
  obtain ⟨_, _, hsame, -, hcum, -, -, hcases⟩ :=
    SlideWindowReceiver.receiveDataPacket_cases false h.receiver (h.isData hmem)
  rw [hreceive] at hsame
  cases hsame
  rcases hcases with ⟨-, hselective, -, -⟩ | ⟨-, hselective, -, -⟩
  · -- out of the buffer both numbers are the expected one
    exact absurd (hcum.trans hselective.symm) hne
  · exact hselective.symm

/-- What was sent stays sent. -/
theorem System.Change.sent_subset (hchange : sys.Change t sys') :
    sys.dataSent ⊆ sys'.dataSent ∧ sys.acksSent ⊆ sys'.acksSent := by
  cases hchange with
  | sent now hn => exact ⟨List.subset_cons_self _ _, List.Subset.refl _⟩
  | sentFreed hlt => exact ⟨List.subset_cons_self _ _, List.Subset.refl _⟩
  | received hdata hreceive => exact ⟨List.Subset.refl _, List.subset_cons_self _ _⟩
  | _ => exact ⟨List.Subset.refl _, List.Subset.refl _⟩

/-- **Every acknowledgement answers a packet.** -/
theorem Programs.answers_of_reachable (ht : t.InRange) (hreach : t.programs.Reachable p) :
    ∀ ackPacket ∈ p.sys.acksSent, p.sys.Answers ackPacket := by
  apply TransitionSystem.ReachableVia.invariant
    (I := fun p : Programs => ∀ ackPacket ∈ p.sys.acksSent, p.sys.Answers ackPacket) ?_ ?_ hreach
  · intro ackPacket hmem
    cases hmem
  intro p a p' hreach h _ hstep
  have hinv := inv_of_reachable ht hreach
  have hchange := hinv.change ht hstep
  have hsent := hchange.sent_subset.1
  generalize p'.sys = sys' at hchange hsent ⊢
  intro ackPacket hmem
  cases hchange with
  | received hdata hreceive =>
    rcases List.mem_cons.mp hmem with rfl | hold
    · exact hinv.system.answers_replyAck hdata hreceive
    · exact (h ackPacket hold).mono hsent
  | _ => exact (h ackPacket hmem).mono hsent

/-! ## Stamps -/

/-- The reply a receiver thread has to send. -/
def ReceiveDataLocation.answer : ReceiveDataLocation → Option AckPacket
  | .reply ackPacket => some ackPacket
  | .sending ackPacket _ => some ackPacket
  | _ => none

namespace Programs

/-- `sendData` fills its queue only where it reads the clock. -/
theorem sendData_eq_prepare {packets : List (DataPacket ItemData)}
    (hstep : p.sendDataStep now freed = some { p with sys := sys, sendData := .marshal packets })
    (hqueue : p.sendData.queue = []) : p.sendData = .prepare := by
  have hmoved := congrArg (Option.map Programs.sendData) hstep
  simp only [sendDataStep] at hmoved
  cases hlocation : p.sendData with
  | prepare => rfl
  | marshal queue =>
    rw [hlocation] at hqueue
    obtain rfl : queue = [] := hqueue
    simp [hlocation] at hmoved
  | loopTest =>
    simp only [hlocation, Option.map_some, Option.some.injEq] at hmoved
    split_ifs at hmoved
  | predicateHasData =>
    simp only [hlocation, Option.map_some, Option.some.injEq] at hmoved
    split_ifs at hmoved
  | predicateFinished =>
    simp only [hlocation, Option.map_some, Option.some.injEq] at hmoved
    split_ifs at hmoved
  | hasDataTest =>
    simp only [hlocation, Option.map_some, Option.some.injEq] at hmoved
    split_ifs at hmoved
  | aboutToWait => simp [hlocation] at hmoved
  | waiting => simp [hlocation] at hmoved
  | setDone => simp [hlocation] at hmoved
  | exited => simp [hlocation] at hmoved

/-- Marshalling keeps the stamp. -/
theorem sentTime_of_transmit {packet : DataPacket ItemData} {packets : List (DataPacket ItemData)}
    (hmarshal : p.sendData = .marshal (packet :: packets))
    (hstep : p.sendDataStep now freed = some (p.transmit dataPacket packets)) :
    dataPacket.sentTime = packet.sentTime := by
  have hflight := congrArg (Option.map Programs.dataInFlight) hstep
  simp only [sendDataStep, hmarshal] at hflight
  cases hread : p.sys.sender.marshal packet with
  | some marshalled =>
    simp only [hread, Option.map_some, Option.some.injEq] at hflight
    obtain ⟨rfl, -⟩ := List.cons_eq_cons.mp hflight
    obtain ⟨data, -, rfl⟩ := Option.map_eq_some_iff.mp hread
    rfl
  | none =>
    simp only [hread] at hflight
    split_ifs at hflight
    · simp only [Option.map_some, Option.some.injEq] at hflight
      obtain ⟨rfl, -⟩ := List.cons_eq_cons.mp hflight
      rfl
    · cases hflight

/-- The stamps of data packets are listed readings of the clock, and those of answers to
handshakes are listed stamps of handshakes. -/
structure Stamped (times handshakeTimes : List Timeval) (p : Programs) : Prop where
  queue : ∀ packet ∈ p.sendData.queue, packet.sentTime ∈ times
  dataSent : ∀ dataPacket ∈ p.sys.dataSent, dataPacket.sentTime ∈ times
  answer : ∀ i ackPacket, (p.receiveData i).answer = some ackPacket →
    ackPacket.type = .handshake → ackPacket.sentTime ∈ handshakeTimes
  acksInFlight : ∀ ackPacket ∈ p.acksInFlight, ackPacket.type = .handshake →
    ackPacket.sentTime ∈ handshakeTimes

namespace Stamped

variable {times times' handshakeTimes handshakeTimes' : List Timeval}

/-- More readings, and more handshakes. -/
theorem mono (h : p.Stamped times handshakeTimes) (htimes : times ⊆ times')
    (hhandshakes : handshakeTimes ⊆ handshakeTimes') : p.Stamped times' handshakeTimes' where
  queue packet hmem := htimes (h.queue packet hmem)
  dataSent dataPacket hmem := htimes (h.dataSent dataPacket hmem)
  answer i ackPacket hi htype := hhandshakes (h.answer i ackPacket hi htype)
  acksInFlight ackPacket hmem htype := hhandshakes (h.acksInFlight ackPacket hmem htype)

theorem init (t : Transfer) : (Programs.init t).Stamped times handshakeTimes where
  queue packet hmem := by cases hmem
  dataSent dataPacket hmem := by cases hmem
  answer i ackPacket hi := by cases hi
  acksInFlight ackPacket hmem := by cases hmem

theorem notifyAll (h : p.Stamped times handshakeTimes) :
    p.notifyAll.Stamped times handshakeTimes := by
  obtain ⟨location, heq, hqueue, -⟩ := notifyAll_eq p
  rw [heq]
  exact { h with queue := hqueue ▸ h.queue }

theorem setReceiveData (h : p.Stamped times handshakeTimes) (i : Fin receiveThreadNum)
    {location : ReceiveDataLocation}
    (hlocation : ∀ ackPacket, location.answer = some ackPacket → ackPacket.type = .handshake →
      ackPacket.sentTime ∈ handshakeTimes) :
    (p.setReceiveData i location).Stamped times handshakeTimes :=
  { h with
    answer := by
      intro j ackPacket hj
      rw [receiveData_setReceiveData] at hj
      split_ifs at hj
      · exact hlocation ackPacket hj
      · exact h.answer j ackPacket hj }

theorem sendDataStep (h : p.Stamped times handshakeTimes) (hinv : p.Inv t) (ht : t.InRange)
    (hreading : p.sendData = .prepare → now ∈ times)
    (hstep : p.sendDataStep now freed = some p') : p'.Stamped times handshakeTimes := by
  rcases sendDataStep_cases hstep with ⟨done, location, rfl, hqueue, -⟩ |
    ⟨packets, sys, hprepare, rfl, hqueue⟩ | ⟨packet, packets, dataPacket, hmarshal, -, -, rfl⟩
  · refine { h with queue := ?_ }
    intro packet hmem
    rw [hqueue] at hmem
    cases hmem
  · have hnow := hreading (sendData_eq_prepare hstep hqueue)
    rw [System.prepareDataPacketsToSend_eq hinv.system ht] at hprepare
    cases hprepare
    refine { h with queue := ?_ }
    intro packet hmem
    -- every packet of the round is stamped with its reading
    obtain ⟨n, -, -, rfl⟩ := hinv.system.sender.exists_of_mem_preparedPackets hmem
    exact hnow
  · have hqueue : ∀ other ∈ packet :: packets, other.sentTime ∈ times := by
      intro other hmem
      apply h.queue other
      rw [hmarshal]
      exact hmem
    refine { h with queue := fun other hmem => hqueue other (List.mem_cons_of_mem _ hmem),
                    dataSent := ?_ }
    intro other hmem
    rcases List.mem_cons.mp hmem with rfl | hold
    · rw [sentTime_of_transmit hmarshal hstep]
      exact hqueue packet List.mem_cons_self
    · exact h.dataSent other hold

/-- The receiver's threads pass the stamp of a handshake on. -/
theorem receiveDataStep {i : Fin receiveThreadNum} (h : p.Stamped times handshakeTimes)
    (hinv : p.Inv t) (hstep : p.receiveDataStep i = some p') :
    p'.Stamped times handshakeTimes := by
  rcases receiveDataStep_cases hstep with ⟨location, rfl, hidle, -⟩ |
    ⟨dataPacket, ackPacket, sys, hreceived, hsys, rfl⟩ | ⟨ackPacket, hreply, rfl⟩ |
    ⟨ackPacket, copies, hsending, rfl⟩
  · apply h.setReceiveData i
    intro ackPacket hanswer
    rcases hidle with rfl | rfl | rfl <;> cases hanswer
  · have hmem : dataPacket ∈ p.sys.dataSent := by
      have hok := hinv.receiveData i
      rw [hreceived] at hok
      exact hok
    obtain ⟨ret, receiver, -, heq⟩ := System.receiveDataPacket_eq hinv.system hmem
    rw [heq] at hsys
    cases hsys
    -- the reply to a data packet is regular
    have hsame : { p with sys := { p.sys with
        receiver := receiver
        acksSent := replyAck dataPacket ret :: p.sys.acksSent } }.Stamped times handshakeTimes :=
      { h with }
    apply hsame.setReceiveData i
    intro ackPacket hanswer htype
    cases hanswer
    cases htype
  · apply h.setReceiveData i
    intro other hanswer
    cases hanswer
    exact h.answer i ackPacket (by rw [hreply]; rfl)
  · have hcopy : ackPacket.type = .handshake → ackPacket.sentTime ∈ handshakeTimes :=
      h.answer i ackPacket (by rw [hsending]; rfl)
    have hsent : { p with acksInFlight := ackPacket :: p.acksInFlight }.Stamped times
        handshakeTimes :=
      { h with
        acksInFlight := by
          intro other hmem
          rcases List.mem_cons.mp hmem with rfl | hold
          · exact hcopy
          · exact h.acksInFlight other hold }
    apply hsent.setReceiveData i
    intro other hanswer
    cases hanswer
    exact hcopy

/-- Every step keeps the stamps among the readings and handshakes. -/
theorem step (h : p.Stamped times handshakeTimes) (hinv : p.Inv t) (ht : t.InRange)
    (hreading : ∀ now freed, a = .sendData now freed → p.sendData = .prepare → now ∈ times)
    (hhandshake : ∀ i sentTime, a = .deliverHandshake i sentTime → sentTime ∈ handshakeTimes)
    (hstep : t.programs.step a p = some p') : p'.Stamped times handshakeTimes := by
  change Programs.step t a p = some p' at hstep
  cases a with
  | sendData now freed => exact h.sendDataStep hinv ht (hreading now freed rfl) hstep
  | spuriousWakeup =>
    obtain ⟨-, rfl⟩ := spuriousWakeup_eq_some hstep
    exact { h with queue := fun packet hmem => by cases hmem }
  | receiveAck i =>
    rcases receiveAckStep_cases hstep with ⟨location, rfl, -⟩ | ⟨ackPacket, sys, hread, hack, rfl⟩ |
      ⟨-, rfl⟩
    · exact { h with }
    · rw [System.ackArrived_eq hinv.system ht (hinv.receiveAck i ackPacket hread)] at hack
      cases hack
      exact { h with }
    · exact { h.notifyAll with }
  | deliverAck i ackPacket =>
    obtain ⟨-, -, location, rfl, -⟩ := deliverAck_eq_some hstep
    exact
      { h with
        acksInFlight := fun other hother => h.acksInFlight other (List.mem_of_mem_erase hother) }
  | checkTimeout timeoutThresholdUs now =>
    rcases checkTimeoutStep_cases hstep with ⟨location, rfl⟩ | ⟨sys, hsys, rfl⟩ | rfl
    · exact { h with }
    · rw [System.checkTimeout_eq hinv.system ht] at hsys
      cases hsys
      exact { h with }
    · exact { h.notifyAll with }
  | receiveData i => exact h.receiveDataStep hinv hstep
  | deliverData i dataPacket =>
    obtain ⟨-, -, rfl⟩ := deliverData_eq_some hstep
    have hread : { p with dataInFlight := p.dataInFlight.erase dataPacket }.Stamped times
        handshakeTimes :=
      { h with }
    exact hread.setReceiveData i fun ackPacket hanswer => by cases hanswer
  | deliverHandshake i sentTime =>
    obtain ⟨-, rfl⟩ := deliverHandshake_eq_some hstep
    apply h.setReceiveData i
    intro ackPacket hanswer _
    cases hanswer
    exact hhandshake i sentTime rfl
  | network action =>
    obtain ⟨_, _, _, rfl, -, hacks, -⟩ := networkStep_frame hstep
    exact { h with acksInFlight := fun ackPacket hmem => h.acksInFlight ackPacket (hacks hmem) }

end Stamped

end Programs

end ReliablePacket
