/-
# A transfer that nothing disturbs

When every datagram arrives, nothing has to be sent twice. From the start of the threads
the transfer can be brought to its end without a single sweep and without a moment
passing: `sendData` sends a round, the packet at the left bound arrives, its
acknowledgement arrives, and so on. `sendData` is never at the condition variable when the
window moves, so no notification can be missed.

Together with the handshake this is the whole session. Wherever the handshake stands, the
threads can be started, and then both programs come to their ends with the file complete.
-/
import ReliablePacket.Programs.Ending
import ReliablePacket.Programs.HandshakeRuns
import ReliablePacket.Protocol.Retransmissions

set_option autoImplicit false

namespace ReliablePacket

open SlideWindowSender

variable {t : Transfer} {p p' q : Programs} {s s' : Session} {a : Programs.Action}
variable {now later : Timeval} {dataPacket : DataPacket (List UInt8)}

namespace Programs

/-- A step of a thread other than `checkTimeout`, or the arrival of a datagram of the
transfer. The sender's clock, where it is read, shows `now`. -/
def Action.Proceeds (now : Timeval) : Action → Prop
  | .sendData reading _ => reading = now
  | .receiveAck _ => True
  | .deliverAck _ _ => True
  | .receiveData _ => True
  | .deliverData _ _ => True
  | _ => False

theorem Action.MovesSendData.proceeds (h : a.MovesSendData now) : a.Proceeds now := by
  cases a with
  | sendData reading freed => exact h
  | _ => exact h.elim

theorem Action.MovesReader.proceeds (h : a.MovesReader) : a.Proceeds now := by
  cases a with
  | receiveAck i => trivial
  | receiveData i => trivial
  | _ => exact h.elim

/-! ## A sending round -/

/-- Only `sendData` has worked. -/
structure SendsOnly (p q : Programs) : Prop where
  receiver : q.sys.receiver = p.sys.receiver
  receiveAck : q.receiveAck = p.receiveAck
  receiveData : q.receiveData = p.receiveData
  dataInFlight : p.dataInFlight ⊆ q.dataInFlight

namespace SendsOnly

theorem refl (p : Programs) : p.SendsOnly p := ⟨rfl, rfl, rfl, List.Subset.refl _⟩

theorem trans (h : p.SendsOnly p') (h' : p'.SendsOnly q) : p.SendsOnly q where
  receiver := h'.receiver.trans h.receiver
  receiveAck := h'.receiveAck.trans h.receiveAck
  receiveData := h'.receiveData.trans h.receiveData
  dataInFlight _ hmem := h'.dataInFlight (h.dataInFlight hmem)

theorem of_step (ha : a.MovesSendData now) (hstep : t.programs.step a p = some p') :
    p.SendsOnly p' := by
  cases a with
  | sendData reading freed =>
    rcases sendDataStep_cases hstep with ⟨_, _, rfl, -⟩ | ⟨packets, sys, hprepare, rfl, -⟩ |
      ⟨_, _, _, -, -, -, rfl⟩
    · exact ⟨rfl, rfl, rfl, List.Subset.refl _⟩
    · obtain ⟨⟨_, sender⟩, -, heq⟩ := Option.bind_eq_some_iff.mp hprepare
      cases heq
      exact ⟨rfl, rfl, rfl, List.Subset.refl _⟩
    · exact ⟨rfl, rfl, rfl, List.subset_cons_self _ _⟩
  | _ => exact ha.elim

/-- A run of `sendData` moves nothing else. -/
theorem canReach {goal : Programs → Prop}
    (h : t.programs.CanReach (Action.MovesSendData now) p goal) :
    t.programs.CanReach (Action.Proceeds now) p fun q => goal q ∧ p.SendsOnly q :=
  (h.and_of_step .refl (fun _ _ _ => .trans) fun _ _ _ => .of_step).mono fun _ ha => ha.proceeds

end SendsOnly

/-- A `sendData` that is awake sends everything that can be sent. -/
theorem canReach_roundSent (ht : t.InRange) (hreach : t.programs.Reachable p)
    (hdata : p.sys.sender.hasDataToSend = true) (hpredicate : p.sendData ≠ .predicateFinished)
    (hawake : ¬ p.sendData.Blocks) :
    t.programs.CanReach (Action.Proceeds now) p fun q =>
      (q.sendData = .marshal [] ∧ q.sys.sender = p.sys.sender.prepared now ∧
        ∀ packet ∈ p.sys.sender.preparedPackets now, ∀ dataPacket,
          (p.sys.sender.prepared now).marshal packet = some dataPacket →
            dataPacket ∈ q.dataInFlight) ∧ p.SendsOnly q := by
  refine SendsOnly.canReach ((canReach_prepare now hreach (concludes_of_reachable ht hreach) hdata
    hpredicate hawake).trans hreach ?_)
  rintro p₁ hreach₁ ⟨hprepare, hquiet₁⟩
  have h₁ := (inv_of_reachable ht hreach₁).system
  have hstep : t.programs.step (.sendData now []) p₁ =
      some { p₁ with
        sys := { p₁.sys with sender := p₁.sys.sender.prepared now }
        sendData := .marshal (p₁.sys.sender.preparedPackets now) } := by
    simp [Transfer.programs, Programs.step, sendDataStep, hprepare,
      System.prepareDataPacketsToSend_eq h₁ ht]
  refine .step hstep rfl ((canReach_marshalled now rfl).imp ?_)
  rintro q ⟨⟨hnil, -, hsent⟩, hquiet₂⟩
  rw [hquiet₁.sender] at hsent
  refine ⟨hnil, ?_, hsent⟩
  rw [hquiet₂.sender, ← hquiet₁.sender]

/-! ## One packet after another -/

/-- Between two packets: every packet in flight at the sender is on the network, a thread
of each kind is in `recvfrom`, and `sendData` is awake. -/
structure Undisturbed (p : Programs) : Prop where
  ready : p.sys.sender.ReadyFlagOk
  inFlight : ∀ n item, p.sys.sender.itemAt n = some item → item.isInFlight = true →
    ∃ dataPacket ∈ p.dataInFlight, dataPacket.seqNum.toNat = n
  receiveAck : p.receiveAck 0 = .receive
  receiveData : p.receiveData 0 = .receive
  awake : ¬ p.sendData.Blocks
  predicate : p.sendData ≠ .predicateFinished

namespace Undisturbed

/-- A round puts everything it sends on the network. -/
theorem canReach_sent (h : p.Undisturbed) (ht : t.InRange) (hreach : t.programs.Reachable p)
    (hdata : p.sys.sender.hasDataToSend = true) :
    t.programs.CanReach (Action.Proceeds now) p fun q =>
      q.Undisturbed ∧ q.sys.sender = p.sys.sender.prepared now := by
  refine (canReach_roundSent ht hreach hdata h.predicate h.awake).imp ?_
  rintro q ⟨⟨hnil, hsender, hsent⟩, hsends⟩
  have hinv := (inv_of_reachable ht hreach).system.sender
  refine ⟨⟨?_, fun n item hitem hflight => ?_, ?_, ?_, ?_, ?_⟩, hsender⟩
  · rw [hsender]
    exact readyFlagOk_prepared _
  · rw [hsender, itemAt_prepared] at hitem
    obtain ⟨old, hold, rfl⟩ := Option.map_eq_some_iff.mp hitem
    by_cases hround : n < p.sys.sender.leftBound + p.sys.sender.curCongestionWindow.toNat ∧
        old.isSendable = true
    · -- the round has sent it
      obtain ⟨hleft, hright⟩ := itemAt_bounds hold
      have hpacket : t.preparedPacket now n ∈ p.sys.sender.preparedPackets now :=
        mem_preparedPackets_iff.mpr
          ⟨n, old, hold, hround.1, hround.2, hinv.toDataPacket_eq hold⟩
      have hmarshal : (p.sys.sender.prepared now).marshal (t.preparedPacket now n) =
          some (t.wirePacket now n) := by
        refine hinv.prepared.marshal_eq ht ?_ ?_
        · rwa [leftBound_prepared]
        · rwa [rightEdge_prepared]
      have hlt := (hinv.numbered ht).rightEdge_lt
      exact ⟨_, hsent _ hpacket _ hmarshal, toNat_ofNat (hright.trans (by omega))⟩
    · -- it was in flight before
      have hsame : (if n < p.sys.sender.leftBound + p.sys.sender.curCongestionWindow.toNat then
          old.markIfSendable now else old) = old := by
        split_ifs with hwindow
        · exact if_neg fun hsend => hround ⟨hwindow, hsend⟩
        · rfl
      rw [hsame] at hflight
      obtain ⟨dataPacket, hmem, hseq⟩ := h.inFlight n old hold hflight
      exact ⟨dataPacket, hsends.dataInFlight hmem, hseq⟩
  · rw [hsends.receiveAck]
    exact h.receiveAck
  · rw [hsends.receiveData]
    exact h.receiveData
  · rw [hnil]
    simp [SendDataLocation.Blocks]
  · rw [hnil]
    simp

/-- The packet at the left bound is on the network, or `sendData` puts it there. -/
theorem canReach_headInFlight (h : p.Undisturbed) (ht : t.InRange) (hlong : t.LongEnough)
    (hreach : t.programs.Reachable p) (hsender : p.sys.sender.finished = false) :
    t.programs.CanReach (Action.Proceeds now) p fun q =>
      q.Undisturbed ∧ q.sys.sender.leftBound = p.sys.sender.leftBound ∧
        ∃ dataPacket ∈ q.dataInFlight, dataPacket.seqNum.toNat = q.sys.sender.leftBound := by
  have hinv := (inv_of_reachable ht hreach).system
  obtain ⟨item, hitem, hacked⟩ := hinv.exists_head hlong hsender
  by_cases hflight : item.isInFlight = true
  · exact .here ⟨h, rfl, h.inFlight _ item hitem hflight⟩
  have hsend : item.isSendable = true := by
    by_contra hsend
    exact hacked (state_eq_acked (Bool.eq_false_iff.mpr hsend) (Bool.eq_false_iff.mpr hflight))
  have hdata := hasDataToSend_of_head hinv.sender h.ready hitem hsend
  refine (h.canReach_sent ht hreach hdata).imp ?_
  rintro q ⟨hq, hsender'⟩
  have hleft : q.sys.sender.leftBound = p.sys.sender.leftBound := by
    rw [hsender', leftBound_prepared]
  have hwindow := hinv.sender.congestion.windowMin
  have hhead : q.sys.sender.itemAt q.sys.sender.leftBound = some (item.markSent now) := by
    rw [hleft, hsender', itemAt_prepared, hitem, Option.map_some, if_pos (by omega),
      SlideWindowSenderItem.markIfSendable, if_pos hsend]
  refine ⟨hq, hleft, hq.inFlight _ _ hhead ?_⟩
  simp only [SlideWindowSenderItem.isInFlight, SlideWindowSenderItem.markSent]
  split_ifs <;> rfl

/-- A packet at the left bound arrives, and the acknowledgement that passes it is sent. -/
theorem canReach_replied (h : p.Undisturbed) (ht : t.InRange) (hreach : t.programs.Reachable p)
    (hmem : dataPacket ∈ p.dataInFlight)
    (hseq : dataPacket.seqNum.toNat = p.sys.sender.leftBound) :
    t.programs.CanReach (Action.Proceeds now) p fun q =>
      ∃ ackPacket copies, ackPacket ∈ q.acksInFlight ∧ ackPacket.type = .regular ∧
        p.sys.sender.leftBound < ackPacket.cumulativeSeqNum.toNat ∧
        (q.sys.receiver.finished = true → t.isFinal ackPacket = true) ∧
        (q.sys.receiver.finished = false → copies = 0) ∧
        q.receiveData 0 = .sending ackPacket copies ∧ q.receiveAck = p.receiveAck ∧
        q.sys.sender = p.sys.sender ∧ q.sendData = p.sendData ∧
        q.dataInFlight = p.dataInFlight.erase dataPacket := by
  have hinv := inv_of_reachable ht hreach
  have hsent := hinv.dataInFlight hmem
  obtain ⟨ret, receiver, hreceive, htaken⟩ := System.receiveDataPacket_eq hinv.system hsent
  obtain ⟨copies, hcopies, hone⟩ : ∃ copies,
      (if receiver.finished then finAckNum else 1) = copies + 1 ∧
        (receiver.finished = false → copies = 0) := by
    split_ifs with hfinished
    · exact ⟨3, rfl, fun hnot => absurd hfinished (Bool.eq_false_iff.mp hnot)⟩
    · exact ⟨0, rfl, fun _ => rfl⟩
  have hread := step_deliverData (t := t) h.receiveData hmem
  set ackPacket := replyAck dataPacket ret
  set p₁ : Programs := { p with
    sys := { p.sys with receiver := receiver, acksSent := ackPacket :: p.sys.acksSent }
    dataInFlight := p.dataInFlight.erase dataPacket }.setReceiveData 0 (.reply ackPacket) with hp₁
  have htake : t.programs.step (.receiveData 0)
      ({ p with dataInFlight := p.dataInFlight.erase dataPacket }.setReceiveData 0
        (.received dataPacket)) = some p₁ := by
    simp [Transfer.programs, Programs.step, receiveDataStep, setReceiveData, htaken, hp₁]
  have hreply : t.programs.step (.receiveData 0) p₁ =
      some (p₁.setReceiveData 0 (.sending ackPacket (copies + 1))) := by
    simp [Transfer.programs, Programs.step, receiveDataStep, setReceiveData, hp₁, hcopies]
  have hsending : (p₁.setReceiveData 0 (.sending ackPacket (copies + 1))).receiveData 0 =
      .sending ackPacket (copies + 1) := by
    simp
  have hsend := step_sending (t := t) hsending
  refine .step hread trivial (.step htake trivial (.step hreply trivial (.step hsend trivial
    (.here ⟨ackPacket, copies, List.mem_cons_self, rfl, ?_, ?_, hone, ?_, rfl, rfl, rfl, rfl⟩))))
  · exact hinv.system.lt_cumulativeSeqNum ht hsent hseq hreceive
  · exact hinv.system.isFinal_replyAck hsent hreceive
  · simp

end Undisturbed

/-- With the reply sent, the receiver thread comes back to `recvfrom`. -/
theorem canReach_receiveData_back {ackPacket : AckPacket}
    (hreceiver : p.sys.receiver.finished = false)
    (hsending : p.receiveData 0 = .sending ackPacket 0) :
    t.programs.CanReach (Action.Proceeds now) p fun q => q = p.setReceiveData 0 .receive := by
  have hstep₁ : t.programs.step (.receiveData 0) p = some (p.setReceiveData 0 .loopTest) := by
    simp [Transfer.programs, Programs.step, receiveDataStep, hsending]
  have hstep₂ : t.programs.step (.receiveData 0) (p.setReceiveData 0 .loopTest) =
      some (p.setReceiveData 0 .receive) := by
    simp [Transfer.programs, Programs.step, receiveDataStep, setReceiveData, hreceiver]
  exact .step hstep₁ trivial (.step hstep₂ trivial (.here rfl))

/-- With the acknowledgement processed, the `receiveAck` thread comes back to `recvfrom`.
A `sendData` that is not at the condition variable does not notice. -/
theorem canReach_receiveAck_back (hdone : p.done = false)
    (hsender : p.sys.sender.finished = false) (hawake : ¬ p.sendData.Blocks)
    (htest : p.receiveAck 0 = .testHasData) :
    t.programs.CanReach (Action.Proceeds now) p fun q => q = p.setReceiveAck 0 .receive := by
  have hloop : t.programs.step (.receiveAck 0) (p.setReceiveAck 0 .loopTest) =
      some (p.setReceiveAck 0 .receive) := by
    simp [Transfer.programs, Programs.step, receiveAckStep, setReceiveAck, hdone]
  by_cases hdata : p.sys.sender.hasDataToSend = true
  · have hstep₁ : t.programs.step (.receiveAck 0) p = some (p.setReceiveAck 0 .notify) := by
      simp [Transfer.programs, Programs.step, receiveAckStep, htest, hdata]
    have hstep₂ : t.programs.step (.receiveAck 0) (p.setReceiveAck 0 .notify) =
        some (p.setReceiveAck 0 .loopTest) := by
      have hwaits : p.sendData ≠ .waiting := fun hwaits => hawake (.inr hwaits)
      simp [Transfer.programs, Programs.step, receiveAckStep, setReceiveAck, notifyAll, hwaits]
    exact .step hstep₁ trivial (.step hstep₂ trivial (.step hloop trivial (.here rfl)))
  · have hstep₁ : t.programs.step (.receiveAck 0) p = some (p.setReceiveAck 0 .testFinished) := by
      simp [Transfer.programs, Programs.step, receiveAckStep, htest, hdata]
    have hstep₂ : t.programs.step (.receiveAck 0) (p.setReceiveAck 0 .testFinished) =
        some (p.setReceiveAck 0 .loopTest) := by
      simp [Transfer.programs, Programs.step, receiveAckStep, setReceiveAck, hsender]
    exact .step hstep₁ trivial (.step hstep₂ trivial (.step hloop trivial (.here rfl)))

namespace Undisturbed

/-- **One packet further.** The left bound moves, and unless that was the end nothing is
disturbed. -/
theorem canReach_advanced (h : p.Undisturbed) (ht : t.InRange) (hlong : t.LongEnough)
    (hreach : t.programs.Reachable p) (hmem : dataPacket ∈ p.dataInFlight)
    (hseq : dataPacket.seqNum.toNat = p.sys.sender.leftBound) :
    t.programs.CanReach (Action.Proceeds now) p fun q =>
      q.sys.sender.finished = true ∧ ¬ q.sendData.Blocks ∨
        q.Undisturbed ∧ p.sys.sender.leftBound < q.sys.sender.leftBound := by
  refine (h.canReach_replied ht hreach hmem hseq).trans hreach ?_
  rintro p₁ hreach₁ ⟨ackPacket, copies, hack, hregular, hpasses, hfinal, hone, hsending, hacks,
    hsender₁, hsendData₁, hflight₁⟩
  have hreceive : p₁.receiveAck 0 = .receive := by
    rw [hacks]
    exact h.receiveAck
  refine (canReach_processed trivial trivial ht hreach₁ hreceive hack hregular).trans hreach₁ ?_
  rintro p₂ hreach₂ ⟨hsender₂, hreceiver₂, htest, hdata₂, hsendData₂, hflight₂⟩
  have hinv := inv_of_reachable ht hreach
  have hinv₂ := inv_of_reachable ht hreach₂
  rw [hsender₁] at hsender₂
  have hcum : ackPacket.cumulativeSeqNum.toNat ≤ p.sys.sender.rightEdge := by
    have hsent := (inv_of_reachable ht hreach₁).acksInFlight ackPacket hack hregular
    rw [← hsender₁]
    exact (inv_of_reachable ht hreach₁).system.cumulativeSeqNum_le hsent
  have hleft : p₂.sys.sender.leftBound =
      max p.sys.sender.leftBound ackPacket.cumulativeSeqNum.toNat := by
    rw [hsender₂, leftBound_acked t.shrink hcum]
  have hawake : ¬ p₂.sendData.Blocks := by
    rw [hsendData₂, hsendData₁]
    exact h.awake
  cases hfinished : p₂.sys.sender.finished with
  | true => exact .here (.inl ⟨hfinished, hawake⟩)
  | false =>
    -- the reply was not final, so the receiver goes on
    have hreceiver : p₁.sys.receiver.finished = false := by
      by_contra hend
      have hall := hinv₂.finished_of_le_leftBound ht hlong
        (hfinal (Bool.not_eq_false _ ▸ hend)) (hleft ▸ le_max_right _ _)
      rw [hall] at hfinished
      cases hfinished
    have hdone : p₂.done = false := by
      by_contra hdone
      rw [(concludes_of_reachable ht hreach₂).done (Bool.not_eq_false _ ▸ hdone)] at hfinished
      cases hfinished
    rw [hone hreceiver, ← hdata₂] at hsending
    rw [← hreceiver₂] at hreceiver
    refine (canReach_receiveData_back hreceiver hsending).trans hreach₂ ?_
    rintro _ hreach₃ rfl
    refine (canReach_receiveAck_back (p := p₂.setReceiveData 0 .receive) hdone hfinished hawake
      htest).imp ?_
    rintro _ rfl
    refine .inr ⟨⟨?_, fun n item hitem hflight => ?_, by simp, ?_, hawake, ?_⟩, ?_⟩
    · change p₂.sys.sender.ReadyFlagOk
      rw [hsender₂]
      exact readyFlagOk_updateNewDataReady _
    · change p₂.sys.sender.itemAt n = some item at hitem
      have hbound := (itemAt_bounds hitem).1
      rw [hsender₂] at hitem
      have hkept : p.sys.sender.itemAt n = some item := by
        rcases acked_cases hinv.system.sender ht hcum n with
          hsettled | ⟨-, -, old, -, -, hnew⟩ | hkept | ⟨-, hnew⟩
        · rw [(hsettled item hitem).2] at hflight
          cases hflight
        · rw [hnew] at hitem
          cases hitem
          exact absurd rfl (state_ne_timeout hflight)
        · rw [← hkept]
          exact hitem
        · rw [hnew] at hitem
          cases hitem
          cases hflight
      obtain ⟨other, hother, hn⟩ := h.inFlight n item hkept hflight
      refine ⟨other, ?_, hn⟩
      change other ∈ p₂.dataInFlight
      rw [hflight₂, hflight₁]
      refine (List.mem_erase_of_ne ?_).mpr hother
      -- the packet that arrived lies to the left of the window now
      rintro rfl
      omega
    · change (p₂.setReceiveData 0 .receive).receiveData 0 = .receive
      simp
    · change p₂.sendData ≠ _
      rw [hsendData₂, hsendData₁]
      exact h.predicate
    · change p.sys.sender.leftBound < p₂.sys.sender.leftBound
      omega

/-- Packet after packet the sender is finished, with `sendData` awake. -/
theorem canReach_finished (h : p.Undisturbed) (ht : t.InRange) (hlong : t.LongEnough)
    (hreach : t.programs.Reachable p) :
    t.programs.CanReach (Action.Proceeds now) p fun q =>
      q.sys.sender.finished = true ∧ ¬ q.sendData.Blocks := by
  refine .of_rank Undisturbed (fun q => t.packets - q.sys.sender.leftBound) ?_ hreach h
  intro q hq hcalm
  cases hsender : q.sys.sender.finished with
  | true => exact .here (.inl ⟨hsender, hcalm.awake⟩)
  | false =>
    refine (hcalm.canReach_headInFlight ht hlong hq hsender).trans hq ?_
    rintro u hu ⟨hcalm', hleft, dataPacket, hmem, hseq⟩
    refine (hcalm'.canReach_advanced ht hlong hu hmem hseq).trans hu ?_
    rintro v hv (hend | ⟨hcalm'', hlt⟩)
    · exact .here (.inl hend)
    · have hbound := (inv_of_reachable ht hv).system.sender.leftBound_le
      exact .here (.inr ⟨hcalm'', by omega⟩)

end Undisturbed

/-- No permitted step concerns `checkTimeout`. -/
theorem Action.Proceeds.checkTimeout (ha : a.Proceeds now) (hstep : t.programs.step a p = some p') :
    p'.checkTimeout = p.checkTimeout := by
  change Programs.step t a p = some p' at hstep
  cases a with
  | sendData reading freed =>
    rcases sendDataStep_cases hstep with ⟨_, _, rfl, -⟩ | ⟨_, _, -, rfl, -⟩ |
      ⟨_, _, _, -, -, -, rfl⟩ <;> rfl
  | receiveAck i =>
    obtain ⟨_, -, -, -, hsame⟩ := receiveAckStep_location hstep
    exact hsame
  | deliverAck i ackPacket =>
    obtain ⟨-, -, _, rfl, -⟩ := deliverAck_eq_some hstep
    rfl
  | receiveData i =>
    rcases receiveDataStep_cases hstep with ⟨_, rfl, -⟩ | ⟨_, _, _, -, -, rfl⟩ | ⟨_, -, rfl⟩ |
      ⟨_, _, -, rfl⟩ <;> rfl
  | deliverData i dataPacket =>
    obtain ⟨-, -, rfl⟩ := deliverData_eq_some hstep
    rfl
  | _ => exact ha.elim

/-- All threads but `checkTimeout` come to their ends. -/
theorem Undisturbed.canReach_ended (h : p.Undisturbed) (ht : t.InRange) (hlong : t.LongEnough)
    (hreach : t.programs.Reachable p) :
    t.programs.CanReach (Action.Proceeds now) p fun q =>
      (q.done = true ∧ (∀ i, q.receiveAck i = .exited) ∧ ∀ i, q.receiveData i = .exited) ∧
        q.checkTimeout = p.checkTimeout := by
  have hended : t.programs.CanReach (Action.Proceeds now) p fun q =>
      q.done = true ∧ (∀ i, q.receiveAck i = .exited) ∧ ∀ i, q.receiveData i = .exited := by
    refine (h.canReach_finished ht hlong hreach).trans hreach ?_
    rintro p₁ hreach₁ ⟨hsender, hawake⟩
    refine ((canReach_done_of_awake now ht hreach₁ hsender hawake).mono
      fun _ ha => ha.proceeds).trans hreach₁ fun p₂ hreach₂ hdone => ?_
    exact (canReach_readersExited ht hreach₂ hdone).mono fun _ ha => ha.proceeds
  exact hended.and_of_step (R := fun p q : Programs => q.checkTimeout = p.checkTimeout)
    (fun _ => rfl) (fun _ _ _ h h' => h'.trans h) fun _ _ _ ha hstep => ha.checkTimeout hstep

/-- The state that the handshake hands over becomes undisturbed. -/
theorem Untouched.canReach_undisturbed (h : p.Untouched t) (ht : t.InRange)
    (hreach : t.programs.Reachable p) :
    t.programs.CanReach (Action.Proceeds now) p fun q =>
      q.Undisturbed ∧ q.checkTimeout = .loopTest := by
  refine ((h.canReach_receive hreach 0).mono fun a ha => ?_).trans hreach ?_
  · rw [ha]
    trivial
  rintro q - ⟨hreceive, -, hsame⟩
  have hall := h.same.trans hsame
  have hstep : t.programs.step (.receiveAck 0) q = some (q.setReceiveAck 0 .receive) := by
    simp [Transfer.programs, Programs.step, receiveAckStep, hall.receiveAck, hall.done, init]
  refine .step hstep trivial (.here ⟨⟨?_, fun n item hitem hflight => ?_, by simp, hreceive, ?_,
    ?_⟩, hall.checkTimeout⟩)
  · change q.sys.sender.ReadyFlagOk
    rw [hall.sys]
    exact fun _ _ _ => rfl
  · -- nothing has been sent
    change q.sys.sender.itemAt n = some item at hitem
    rw [hall.sys] at hitem
    obtain ⟨-, rfl⟩ := ht.itemAt_new hitem
    cases hflight
  · change ¬ q.sendData.Blocks
    rw [hall.sendData]
    simp [init, SendDataLocation.Blocks]
  · change q.sendData ≠ _
    rw [hall.sendData]
    simp [init]

end Programs

/-! ## The session -/

/-- A step of a thread, of the estimator, or the arrival of a datagram of the transfer.
The sender's clock, where it is read, shows `now`. -/
def Session.Action.Transfers (now : Timeval) : Session.Action → Prop
  | .estimate _ reading => reading = now
  | .thread (.checkTimeout _ reading) => reading = now
  | .thread a => a.Proceeds now
  | _ => False

namespace Session

/-- A step of the programs that the estimator does not hold up. -/
theorem exists_step {a : Programs.Action} (hstarted : s.rttEstimator.isSome = true)
    (ha : a.Proceeds now) (hstep : t.programs.step a s.programs = some p)
    (hready : ∀ i, a = .receiveAck i →
      (s.programs.receiveAck i).inHand = none ∨ s.estimated i = true) :
    ∃ u, t.sessions.step (.thread a) s = some u ∧ u.programs = p ∧
      u.rttEstimator.isSome = true := by
  have hallows : s.allows a = true := by
    cases a with
    | receiveAck i =>
      rcases hready i rfl with hnone | hestimated
      · simp [allows, hstarted, hnone]
      · simp [allows, hstarted, hestimated]
    | sendData reading freed => simp [allows, hstarted]
    | deliverAck i ackPacket => simp [allows, hstarted]
    | receiveData i => simp [allows, hstarted]
    | deliverData i dataPacket => simp [allows, hstarted]
    | _ => exact ha.elim
  change Programs.step t a s.programs = some p at hstep
  change ∃ u, s.threadStep t a = some u ∧ _
  unfold threadStep
  rw [if_pos hallows, hstep]
  exact ⟨_, rfl, rfl, hstarted⟩

theorem Action.transfers_of_proceeds {a : Programs.Action} (ha : a.Proceeds now) :
    Action.Transfers now (.thread a) := by
  cases a with
  | checkTimeout timeoutThresholdUs reading => exact ha.elim
  | _ => exact ha

/-- What the programs can do the session can do, once the threads are started. An
acknowledgement goes to the estimator before it is processed. -/
theorem canReach_thread (ht : t.InRange) {a : Programs.Action} (hreach : t.sessions.Reachable s)
    (hstarted : s.rttEstimator.isSome = true) (ha : a.Proceeds now)
    (hstep : t.programs.step a s.programs = some p) :
    t.sessions.CanReach (Action.Transfers now) s fun u =>
      u.programs = p ∧ u.rttEstimator.isSome = true := by
  by_cases hready : ∀ i, a = .receiveAck i →
      (s.programs.receiveAck i).inHand = none ∨ s.estimated i = true
  · obtain ⟨u, hu, hgoal⟩ := exists_step hstarted ha hstep hready
    exact .step hu (Action.transfers_of_proceeds ha) (.here hgoal)
  · simp only [not_forall, not_or] at hready
    obtain ⟨i, rfl, hhand, hestimated⟩ := hready
    obtain ⟨ackPacket, hreceived⟩ : ∃ ackPacket, s.programs.receiveAck i = .received ackPacket := by
      by_contra hnone
      exact hhand (ReceiveAckLocation.inHand_eq_none_iff.mpr (not_exists.mp hnone))
    obtain ⟨r, hestimate⟩ := exists_estimate ht hreach hreceived
      (Bool.eq_false_iff.mpr hestimated) now
    obtain ⟨u, hu, hgoal⟩ := exists_step (t := t) (s := { s with
      rttEstimator := some r
      estimated := Function.update s.estimated i true
      readings := now :: s.readings }) rfl ha hstep fun j hj => by
        cases hj
        exact .inr (Function.update_self _ _ _)
    exact .step hestimate rfl (.step hu (Action.transfers_of_proceeds ha) (.here hgoal))

/-- What the programs can reach without sweeps the session can reach. -/
theorem canReach_programs (now : Timeval) (ht : t.InRange) {goal : Programs → Prop}
    (hreach : t.sessions.Reachable s) (hstarted : s.rttEstimator.isSome = true)
    (h : t.programs.CanReach (Programs.Action.Proceeds now) s.programs goal) :
    t.sessions.CanReach (Action.Transfers now) s fun u =>
      goal u.programs ∧ u.rttEstimator.isSome = true := by
  obtain ⟨as, p, has, hrun, hgoal⟩ := h
  induction as generalizing s with
  | nil =>
    cases hrun
    exact .here ⟨hgoal, hstarted⟩
  | cons a as ih =>
    obtain ⟨ha, has'⟩ := List.forall_mem_cons.mp has
    obtain ⟨p₁, hstep, hrest⟩ := Option.bind_eq_some_iff.mp hrun
    refine (canReach_thread ht hreach hstarted ha hstep).trans hreach ?_
    rintro u hu ⟨rfl, hstarted'⟩
    exact ih hu hstarted' has' hrest

/-- From the start of the threads both programs come to their ends at one reading. -/
theorem canReach_ended (hpos : 1 ≤ t.bytesToSend.toNat) (hsize : t.bytesToSend.toNat ≤ 2 ^ 32)
    (hlong : t.LongEnough) (hreach : t.sessions.Reachable s)
    (hstarted : s.rttEstimator.isSome = true) (huntouched : s.programs.Untouched t) :
    t.sessions.CanReach (Action.Transfers now) s fun u =>
      (u.programs.done = true ∧ u.programs.sendData = .exited ∧
        (∀ i, u.programs.receiveAck i = .exited) ∧ u.programs.checkTimeout = .exited ∧
        ∀ i, u.programs.receiveData i = .exited) ∧
      u.programs.sys.receiver.outputFile.size = t.bytesToSend.toNat ∧
      ∀ i < t.bytesToSend.toNat,
        u.programs.sys.receiver.outputFile.byte i = t.fileToSend.byte i := by
  have ht := Transfer.inRange_of_le hpos hsize
  refine (canReach_programs now ht hreach hstarted
    (huntouched.canReach_undisturbed ht (programs_reachable hreach))).trans hreach ?_
  rintro u hu ⟨⟨hcalm, hcheck⟩, hstarted'⟩
  refine (canReach_programs now ht hu hstarted'
    (hcalm.canReach_ended ht hlong (programs_reachable hu))).trans hu ?_
  rintro v hv ⟨⟨⟨hdone, hacks, hdata⟩, hsame⟩, hstarted''⟩
  have hstep : t.sessions.step (.thread (.checkTimeout 0 now)) v = some { v with
      programs := { v.programs with checkTimeout := .exited }
      currentTimeoutThresholdUs := none } := by
    -- `checkTimeout` looks at `done` for the first time
    simp [Transfer.sessions, Session.step, threadStep, allows, hstarted'', hsame, hcheck,
      Programs.step, Programs.checkTimeoutStep, hdone, Programs.reading]
  have hprograms := programs_reachable (hv.step hstep)
  have hends := Programs.concludes_of_reachable ht hprograms
  have hinv := (Programs.inv_of_reachable ht hprograms).system
  refine .step hstep rfl (.here ⟨⟨hdone, hends.exited.mpr hdone, hacks, rfl, hdata⟩, ?_⟩)
  exact (Programs.writesIntact_of_reachable ht hprograms).output_of_finished hinv ht hsize hlong
    (hinv.receiver_finished ht (hends.done hdone)).1

end Session

/-- **The session can always be completed.** In every reachable state before the threads
are started, let the clock show first the end of the present wait of the handshake, if
there is one, and then a time that is at least `HANDSHAKE_TIMEOUT_US` later. Then steps of
both programs and arrivals of what was sent, without a loss or a duplicate, lead to the
end of both programs with the output file complete. -/
theorem session_completable (hpos : 1 ≤ t.bytesToSend.toNat)
    (hsize : t.bytesToSend.toNat ≤ 2 ^ 32) (hlong : t.LongEnough)
    (hreach : t.sessions.Reachable s) (hnone : s.rttEstimator = none)
    (hover : ∀ start, s.handshake.waitsSince = some start →
      handshakeTimeoutUs ≤ getElapsedUs start now)
    (hlater : handshakeTimeoutUs ≤ getElapsedUs now later) :
    t.sessions.CanReach (Session.Action.Answers now) s fun u =>
      t.sessions.CanReach (Session.Action.Answers later) u fun v =>
        t.sessions.CanReach (Session.Action.Transfers later) v fun s' =>
          (s'.programs.done = true ∧ s'.programs.sendData = .exited ∧
            (∀ i, s'.programs.receiveAck i = .exited) ∧ s'.programs.checkTimeout = .exited ∧
            ∀ i, s'.programs.receiveData i = .exited) ∧
          s'.programs.sys.receiver.outputFile.size = t.bytesToSend.toNat ∧
          ∀ i < t.bytesToSend.toNat,
            s'.programs.sys.receiver.outputFile.byte i = t.fileToSend.byte i := by
  refine (Session.canReach_handedOver hreach hnone hover hlater).trans hreach ?_
  intro u hu hstarts
  refine .here (hstarts.trans hu ?_)
  rintro v hv ⟨hstarted, huntouched⟩
  exact .here (Session.canReach_ended hpos hsize hlong hv hstarted huntouched)

/-- All four copies of the first round are lost, and the file of one byte still arrives. -/
theorem session_completable_lostHandshakesRun :
    Transfer.oneByte.sessions.CanReach (Session.Action.Answers ⟨100, 60000⟩)
      (Transfer.oneByte.sessions.endOf Session.lostHandshakesRun) fun u =>
        Transfer.oneByte.sessions.CanReach (Session.Action.Answers ⟨100, 120000⟩) u fun v =>
          Transfer.oneByte.sessions.CanReach (Session.Action.Transfers ⟨100, 120000⟩) v fun s' =>
            s'.programs.done = true ∧ s'.programs.sys.receiver.outputFile.size = 1 := by
  have hwaits : (Transfer.oneByte.sessions.endOf
      Session.lostHandshakesRun).handshake.waitsSince = some ⟨100, 0⟩ := by decide +kernel
  refine (session_completable (by decide) (by decide) (le_refl 1)
    (Transfer.oneByte.sessions.reachable_endOf _) (by decide +kernel) (fun start hstart => ?_)
    (by decide)).imp fun u hu => hu.imp fun v hv => hv.imp fun s' hs =>
      ⟨hs.1.1, hs.2.1⟩
  rw [hwaits] at hstart
  cases hstart
  decide

end ReliablePacket
