/-
# The joint invariant of the programs

Every step of a thread performs at most one operation on a window, so the joint
invariant of the composed system carries over. Besides it, what the threads have
in hand and what is in flight comes from the operations: queued packets were
prepared, data packets in flight were sent, and regular acknowledgements in flight
are replies of the receiver.

Only the right edge, the packets sent and the replies made matter for that, and
all three only grow.
-/
import ReliablePacket.Programs.Steps
import ReliablePacket.System.Invariant

set_option autoImplicit false

namespace ReliablePacket

open SlideWindowSender

variable {t : Transfer} {p p' : Programs} {sys sys' : System} {now : Timeval}
variable {timeoutThresholdUs : UInt64} {freed : List UInt8}

/-! ## Growth -/

/-- What was sent and may be sent in `sys` was and may be in `sys'`. -/
structure System.GrowsTo (sys sys' : System) : Prop where
  rightEdge_le : sys.sender.rightEdge ≤ sys'.sender.rightEdge
  dataSent : sys.dataSent ⊆ sys'.dataSent
  acksSent : sys.acksSent ⊆ sys'.acksSent

theorem System.GrowsTo.refl (sys : System) : sys.GrowsTo sys :=
  ⟨le_rfl, List.Subset.refl _, List.Subset.refl _⟩

/-- Processing an acknowledgement does not move the right edge back. -/
theorem System.Inv.rightEdge_le_acked {ackPacket : AckPacket} (h : sys.Inv t) (ht : t.InRange)
    (hmem : ackPacket ∈ sys.acksSent) :
    sys.sender.rightEdge ≤ (sys.sender.acked t.shrink ackPacket).rightEdge := by
  have hlast := h.sender.toNat_lastPacketSeqNum ht
  have hedge := h.sender.rightEdge_le
  have hlt := ht.lt
  rw [rightEdge_acked t.shrink (h.cumulativeSeqNum_le hmem) (by omega) (by omega)]
  exact le_max_left _ _

/-! ## The invariant -/

/-- What a receiver thread has in hand was sent or made. -/
def ReceiveDataLocation.OkIn (sys : System) : ReceiveDataLocation → Prop
  | .received dataPacket => dataPacket ∈ sys.dataSent
  | .reply ackPacket => ackPacket.type = .regular → ackPacket ∈ sys.acksSent
  | .sending ackPacket _ => ackPacket.type = .regular → ackPacket ∈ sys.acksSent
  | _ => True

theorem ReceiveDataLocation.Idle.okIn {location : ReceiveDataLocation} (h : location.Idle)
    (sys : System) : location.OkIn sys := by
  rcases h with rfl | rfl | rfl <;> exact trivial

theorem ReceiveDataLocation.OkIn.mono {location : ReceiveDataLocation} (h : location.OkIn sys)
    (hgrow : sys.GrowsTo sys') : location.OkIn sys' := by
  cases location with
  | received dataPacket => exact hgrow.dataSent h
  | reply ackPacket => exact fun hregular => hgrow.acksSent (h hregular)
  | sending ackPacket copies => exact fun hregular => hgrow.acksSent (h hregular)
  | loopTest => trivial
  | receive => trivial
  | exited => trivial

/-- The packets of the queue were prepared from the window. -/
def QueueOk (t : Transfer) (sys : System) (packets : List (DataPacket ItemData)) : Prop :=
  ∀ packet ∈ packets, ∃ now n, n < sys.sender.rightEdge ∧ packet = t.preparedPacket now n

/-- What every reachable state of the programs satisfies. -/
structure Programs.Inv (t : Transfer) (p : Programs) : Prop where
  system : p.sys.Inv t
  queue : QueueOk t p.sys p.sendData.queue
  dataInFlight : p.dataInFlight ⊆ p.sys.dataSent
  acksInFlight : ∀ ackPacket ∈ p.acksInFlight, ackPacket.type = .regular →
    ackPacket ∈ p.sys.acksSent
  receiveAck : ∀ i ackPacket, p.receiveAck i = .received ackPacket →
    ackPacket ∈ p.sys.acksSent
  receiveData : ∀ i, (p.receiveData i).OkIn p.sys

namespace Programs

/-- Looking up one thread after another, or the same one, has moved. -/
@[simp] theorem receiveAck_setReceiveAck {i j : Fin receiveAckThreadNum}
    {location : ReceiveAckLocation} :
    (p.setReceiveAck i location).receiveAck j = if j = i then location else p.receiveAck j := by
  simp only [setReceiveAck]
  exact Function.update_apply _ _ _ _

@[simp] theorem receiveData_setReceiveData {i j : Fin receiveThreadNum}
    {location : ReceiveDataLocation} :
    (p.setReceiveData i location).receiveData j =
      if j = i then location else p.receiveData j := by
  simp only [setReceiveData]
  exact Function.update_apply _ _ _ _

namespace Inv

theorem init (ht : t.InRange) : (Programs.init t).Inv t where
  system := .init ht
  queue := nofun
  dataInFlight := List.Subset.refl _
  acksInFlight := nofun
  receiveAck := nofun
  receiveData _ := trivial

/-- An operation on the windows that only lets the system grow. -/
theorem withSys (h : p.Inv t) (hsys : sys.Inv t) (hgrow : p.sys.GrowsTo sys) :
    { p with sys := sys }.Inv t where
  system := hsys
  queue := by
    intro packet hmem
    obtain ⟨now, n, hn, rfl⟩ := h.queue packet hmem
    exact ⟨now, n, hn.trans_le hgrow.rightEdge_le, rfl⟩
  dataInFlight := List.Subset.trans h.dataInFlight hgrow.dataSent
  acksInFlight := fun ackPacket hmem hregular =>
    hgrow.acksSent (h.acksInFlight ackPacket hmem hregular)
  receiveAck := fun i ackPacket hi => hgrow.acksSent (h.receiveAck i ackPacket hi)
  receiveData := fun i => (h.receiveData i).mono hgrow

theorem setReceiveAck (h : p.Inv t) (i : Fin receiveAckThreadNum) {location : ReceiveAckLocation}
    (hlocation : ∀ ackPacket, location = .received ackPacket → ackPacket ∈ p.sys.acksSent) :
    (p.setReceiveAck i location).Inv t :=
  { h with
    receiveAck := by
      intro j ackPacket hj
      rw [receiveAck_setReceiveAck] at hj
      split_ifs at hj
      · exact hlocation ackPacket hj
      · exact h.receiveAck j ackPacket hj }

theorem setReceiveData (h : p.Inv t) (i : Fin receiveThreadNum) {location : ReceiveDataLocation}
    (hlocation : location.OkIn p.sys) : (p.setReceiveData i location).Inv t :=
  { h with
    receiveData := by
      intro j
      rw [receiveData_setReceiveData]
      split_ifs
      · exact hlocation
      · exact h.receiveData j }

theorem notifyAll (h : p.Inv t) : p.notifyAll.Inv t := by
  obtain ⟨location, heq, hqueue, -⟩ := notifyAll_eq p
  rw [heq]
  exact { h with queue := hqueue ▸ h.queue }

/-! ## One step -/

theorem sendDataStep (h : p.Inv t) (ht : t.InRange) (hstep : p.sendDataStep now freed = some p') :
    p'.Inv t := by
  rcases sendDataStep_cases hstep with ⟨done, location, rfl, hqueue, -⟩ |
    ⟨packets, sys, hprepare, rfl, -⟩ | ⟨packet, packets, dataPacket, hmarshal, htype, hseq, rfl⟩
  · exact { h with queue := by rw [hqueue]; exact nofun }
  · rw [System.prepareDataPacketsToSend_eq h.system ht] at hprepare
    cases hprepare
    have hgrow : p.sys.GrowsTo { p.sys with sender := p.sys.sender.prepared now } :=
      ⟨rightEdge_prepared.ge, List.Subset.refl _, List.Subset.refl _⟩
    exact
      { h.withSys h.system.prepared hgrow with
        queue := by
          intro packet hmem
          obtain ⟨n, -, hright, rfl⟩ := h.system.sender.exists_of_mem_preparedPackets hmem
          exact ⟨now, n, hright.trans_eq rightEdge_prepared.symm, rfl⟩ }
  · have hqueue := h.queue
    rw [hmarshal] at hqueue
    obtain ⟨sent, n, hn, rfl⟩ := hqueue packet List.mem_cons_self
    -- the packet was prepared from the window, and the right edge has not moved back
    have hlt : dataPacket.seqNum.toNat < p.sys.sender.rightEdge := by
      have hedge := h.system.sender.rightEdge_le
      have hbound := ht.lt
      rw [hseq, Transfer.preparedPacket, toNat_ofNat (by omega)]
      exact hn
    have hheader : t.HeaderOk dataPacket := by
      rw [Transfer.HeaderOk, htype, hseq]
      rfl
    have hgrow : p.sys.GrowsTo (p.sys.send [dataPacket]) :=
      ⟨le_rfl, List.subset_cons_self _ _, List.Subset.refl _⟩
    exact
      { h.withSys (h.system.sendOne hheader hlt) hgrow with
        queue := fun other hmem => hqueue other (List.mem_cons_of_mem _ hmem)
        dataInFlight := List.cons_subset_cons _ h.dataInFlight }

theorem receiveAckStep {i : Fin receiveAckThreadNum} (h : p.Inv t) (ht : t.InRange)
    (hstep : p.receiveAckStep t i = some p') : p'.Inv t := by
  rcases receiveAckStep_cases hstep with ⟨location, rfl, -, hlocation, -⟩ |
    ⟨ackPacket, sys, hreceived, hack, rfl⟩ | ⟨-, rfl⟩
  · exact h.setReceiveAck i fun ackPacket heq => absurd heq (hlocation ackPacket)
  · have hmem := h.receiveAck i ackPacket hreceived
    rw [System.ackArrived_eq h.system ht hmem] at hack
    cases hack
    have hgrow : p.sys.GrowsTo { p.sys with
        sender := p.sys.sender.acked t.shrink ackPacket
        acksProcessed := ackPacket :: p.sys.acksProcessed } :=
      ⟨h.system.rightEdge_le_acked ht hmem, List.Subset.refl _, List.Subset.refl _⟩
    exact (h.withSys (h.system.ackProcessed ht hmem) hgrow).setReceiveAck i nofun
  · exact h.notifyAll.setReceiveAck i nofun

theorem checkTimeoutStep (h : p.Inv t) (ht : t.InRange)
    (hstep : p.checkTimeoutStep t timeoutThresholdUs now = some p') : p'.Inv t := by
  rcases checkTimeoutStep_cases hstep with ⟨location, rfl⟩ | ⟨sys, hsys, rfl⟩ | rfl
  · exact { h with }
  · rw [System.checkTimeout_eq h.system ht] at hsys
    cases hsys
    have hgrow : p.sys.GrowsTo { p.sys with
        sender := p.sys.sender.timeoutChecked t.shrink timeoutThresholdUs now } :=
      ⟨rightEdge_timeoutChecked.ge, List.Subset.refl _, List.Subset.refl _⟩
    exact { h.withSys (h.system.timeoutChecked ht) hgrow with }
  · exact { h.notifyAll with }

theorem receiveDataStep {i : Fin receiveThreadNum} (h : p.Inv t)
    (hstep : p.receiveDataStep i = some p') : p'.Inv t := by
  rcases receiveDataStep_cases hstep with ⟨location, rfl, hidle, -⟩ |
    ⟨dataPacket, ackPacket, sys, hreceived, hsys, rfl⟩ | ⟨ackPacket, hreply, rfl⟩ |
    ⟨ackPacket, copies, hsending, rfl⟩
  · exact h.setReceiveData i (hidle.okIn _)
  · -- what the thread has in hand was sent
    have hmem : dataPacket ∈ p.sys.dataSent := by
      have hok := h.receiveData i
      rw [hreceived] at hok
      exact hok
    obtain ⟨ret, receiver, hreceive, heq⟩ := System.receiveDataPacket_eq h.system hmem
    rw [heq] at hsys
    cases hsys
    have hgrow : p.sys.GrowsTo { p.sys with
        receiver := receiver
        acksSent := replyAck dataPacket ret :: p.sys.acksSent } :=
      ⟨le_rfl, List.Subset.refl _, List.subset_cons_self _ _⟩
    exact (h.withSys (h.system.received hmem hreceive) hgrow).setReceiveData i
      fun _ => List.mem_cons_self
  · have hok := h.receiveData i
    rw [hreply] at hok
    exact h.setReceiveData i hok
  · have hok := h.receiveData i
    rw [hsending] at hok
    have hsent : { p with acksInFlight := ackPacket :: p.acksInFlight }.Inv t :=
      { h with
        acksInFlight := by
          intro other hmem hregular
          rcases List.mem_cons.mp hmem with rfl | hold
          · exact hok hregular
          · exact h.acksInFlight other hold hregular }
    exact hsent.setReceiveData i hok

theorem step {a : Action} (h : p.Inv t) (ht : t.InRange)
    (hstep : t.programs.step a p = some p') : p'.Inv t := by
  change Programs.step t a p = some p' at hstep
  cases a with
  | sendData now freed => exact h.sendDataStep ht hstep
  | spuriousWakeup =>
    obtain ⟨-, rfl⟩ := spuriousWakeup_eq_some hstep
    exact { h with queue := nofun }
  | receiveAck i => exact h.receiveAckStep ht hstep
  | deliverAck i ackPacket =>
    obtain ⟨-, hmem, location, rfl, hlocation⟩ := deliverAck_eq_some hstep
    have hread : { p with
        acksInFlight := p.acksInFlight.erase ackPacket
        acksTaken := ackPacket :: p.acksTaken }.Inv t :=
      { h with
        acksInFlight := fun other hother => h.acksInFlight other (List.mem_of_mem_erase hother) }
    refine hread.setReceiveAck i fun other heq => ?_
    rcases hlocation with ⟨hregular, rfl⟩ | ⟨-, rfl⟩
    · cases heq
      exact h.acksInFlight ackPacket hmem hregular
    · cases heq
  | checkTimeout timeoutThresholdUs now => exact h.checkTimeoutStep ht hstep
  | receiveData i => exact h.receiveDataStep hstep
  | deliverData i dataPacket =>
    obtain ⟨-, hmem, rfl⟩ := deliverData_eq_some hstep
    have hread : { p with dataInFlight := p.dataInFlight.erase dataPacket }.Inv t :=
      { h with
        dataInFlight := List.Subset.trans List.erase_subset h.dataInFlight }
    exact hread.setReceiveData i (h.dataInFlight hmem)
  | deliverHandshake i sentTime =>
    obtain ⟨-, rfl⟩ := deliverHandshake_eq_some hstep
    exact h.setReceiveData i nofun
  | network action =>
    obtain ⟨_, _, _, rfl, hdata, hacks, -⟩ := networkStep_frame hstep
    exact
      { h with
        dataInFlight := List.Subset.trans hdata h.dataInFlight
        acksInFlight := fun ackPacket hmem => h.acksInFlight ackPacket (hacks hmem) }

end Inv

/-- **The joint invariant holds in every reachable state of the programs.** -/
theorem inv_of_reachable (ht : t.InRange) (hreach : t.programs.Reachable p) : p.Inv t :=
  hreach.invariant (Inv.init ht) fun _ _ _ h hstep => h.step ht hstep

end Programs

end ReliablePacket
