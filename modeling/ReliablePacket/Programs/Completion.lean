/-
# Which transfers can be completed

A transfer that goes on is never stuck, and a transfer that is stuck can be told from
the state. As long as the receiver is not finished, the threads and the network can
bring the transfer to its end by ordinary steps: nothing needs to be lost or
duplicated, nobody needs to wake up without being notified. A round moves the left
bound: a sweep finds the head too old, `sendData` is woken and sends it again, a
receiver thread answers, and a `receiveAck` thread processes the answer.

Once the receiver is finished everything depends on a final acknowledgement. It has
to be on its way, or a receiver thread has to be in a position to make one more.
Without that no step leads back.
-/
import ReliablePacket.Programs.Replies

set_option autoImplicit false

namespace ReliablePacket

open SlideWindowSender

variable {t : Transfer} {p p' q : Programs} {a : Programs.Action} {now : Timeval}
variable {timeoutThresholdUs : UInt64} {freed : List UInt8}

/-- The thread can still send a final acknowledgement, although the receiver is finished. -/
def ReceiveDataLocation.CanConfirm (t : Transfer) : ReceiveDataLocation → Prop
  | .receive => True
  | .received _ => True
  | .reply ackPacket => t.isFinal ackPacket = true
  | .sending ackPacket copies => t.isFinal ackPacket = true ∧ copies ≠ 0
  | _ => False

/-- The cumulative number of a final acknowledgement. -/
theorem Transfer.InRange.cumulativeSeqNum_of_isFinal (ht : t.InRange) {ackPacket : AckPacket}
    (hfinal : t.isFinal ackPacket = true) :
    ackPacket.cumulativeSeqNum.toNat = t.packets := by
  have hlast := ht.toNat_lastPacketSeqNum
  have hlt := ht.lt
  rw [(Transfer.isFinal_iff.mp hfinal).2, UInt32.toNat_add, UInt32.toNat_one]
  omega

namespace Programs

/-! ## The whole transfer -/

/-- From a receiver that is not finished the threads come to a final reply. -/
theorem canReach_finalReply (ht : t.InRange) (hlong : t.LongEnough)
    (hreach : t.programs.Reachable p) (hreceiver : p.sys.receiver.finished = false) :
    t.programs.CanReach Action.Cooperates p fun q =>
      ∃ i ackPacket, q.receiveData i = .reply ackPacket ∧ t.isFinal ackPacket = true := by
  refine .of_rank (fun q => q.sys.receiver.finished = false)
    (fun q => t.packets - q.sys.sender.leftBound) ?_ hreach hreceiver
  -- one round of the head moves the left bound or brings the final reply
  intro u hu hunfinished
  have hsender : u.sys.sender.finished = false := by
    by_contra hfinished
    have hboth := ((inv_of_reachable ht hu).system.receiver_finished ht
      (Bool.not_eq_false _ ▸ hfinished)).1
    rw [hboth] at hunfinished
    cases hunfinished
  refine (canReach_receive ht hu 0 hunfinished).trans hu ?_
  rintro u₁ hu₁ ⟨⟨hreceive, hunfinished₁⟩ | ⟨ackPacket, hreply, hfinal⟩, hsame⟩
  · have hsender₁ : u₁.sys.sender.finished = false := by
      rw [hsame]
      exact hsender
    refine (canReach_headTaken ht hlong hu₁ hreceive hsender₁).trans hu₁ ?_
    rintro u₂ hu₂ ⟨⟨ackPacket, hreply, hregular, hlt, hfinal⟩, -⟩
    cases hfinished : u₂.sys.receiver.finished with
    | true => exact .here (.inl ⟨0, ackPacket, hreply, hfinal hfinished⟩)
    | false =>
      -- the reply moves the left bound
      refine (canReach_replied ht hu₂ hreply hregular).trans hu₂ ?_
      rintro u₃ hu₃ ⟨hle, hreceiver₃⟩
      have hbound := (inv_of_reachable ht hu₃).system.sender.leftBound_le
      rw [hsame] at hlt
      exact .here (.inr ⟨by rw [hreceiver₃, hfinished], by omega⟩)
  · exact .here (.inl ⟨0, ackPacket, hreply, hfinal⟩)

/-- The sender is finished, or the receiver is not, or a final acknowledgement is on its
way to the sender, or a receiver thread can still make one. -/
def Completable (t : Transfer) (p : Programs) : Prop :=
  p.sys.sender.finished = true ∨ p.sys.receiver.finished = false ∨
    (∃ ackPacket ∈ p.acksInFlight, t.isFinal ackPacket = true) ∨
    (∃ i ackPacket, p.receiveAck i = .received ackPacket ∧ t.isFinal ackPacket = true) ∨
    ∃ i, (p.receiveData i).CanConfirm t

/-- A left bound behind a final cumulative number finishes the sender. -/
theorem Inv.finished_of_le_leftBound (h : p.Inv t) (ht : t.InRange) (hlong : t.LongEnough)
    {ackPacket : AckPacket} (hfinal : t.isFinal ackPacket = true)
    (hle : ackPacket.cumulativeSeqNum.toNat ≤ p.sys.sender.leftBound) :
    p.sys.sender.finished = true := by
  have hcum := ht.cumulativeSeqNum_of_isFinal hfinal
  refine h.system.sender.finished_iff.mpr ⟨?_, fun k hk => hlong.length_packetData hk⟩
  exact le_antisymm h.system.sender.leftBound_le (hcum ▸ hle)

/-- A final acknowledgement that can arrive can finish the sender. -/
theorem canReach_finished_of_acked (ht : t.InRange) (hlong : t.LongEnough)
    (hreach : t.programs.Reachable p) {ackPacket : AckPacket}
    (hfinal : t.isFinal ackPacket = true)
    (hcan : t.programs.CanReach Action.Cooperates p fun q =>
      ackPacket.cumulativeSeqNum.toNat ≤ q.sys.sender.leftBound ∧
        q.sys.receiver = p.sys.receiver) :
    t.programs.CanReach Action.Cooperates p fun q => q.sys.sender.finished = true :=
  hcan.trans hreach fun _ hq hle =>
    .here ((inv_of_reachable ht hq).finished_of_le_leftBound ht hlong hfinal hle.1)

theorem canReach_finished_of_reply (ht : t.InRange) (hlong : t.LongEnough)
    (hreach : t.programs.Reachable p) {i : Fin receiveThreadNum} {ackPacket : AckPacket}
    (hreply : p.receiveData i = .reply ackPacket) (hfinal : t.isFinal ackPacket = true) :
    t.programs.CanReach Action.Cooperates p fun q => q.sys.sender.finished = true :=
  canReach_finished_of_acked ht hlong hreach hfinal
    (canReach_replied ht hreach hreply (Transfer.isFinal_iff.mp hfinal).1)

/-- A receiver thread that can still confirm can finish the sender. -/
theorem canReach_finished_of_canConfirm (ht : t.InRange) (hlong : t.LongEnough)
    (hreach : t.programs.Reachable p) (hsender : p.sys.sender.finished = false)
    (hreceiver : p.sys.receiver.finished = true) {i : Fin receiveThreadNum}
    (hconfirm : (p.receiveData i).CanConfirm t) :
    t.programs.CanReach Action.Cooperates p fun q => q.sys.sender.finished = true := by
  cases hlocation : p.receiveData i with
  | receive =>
    -- the head is sent again, and the finished receiver replies with the final number
    refine (canReach_headTaken ht hlong hreach hlocation hsender).trans hreach ?_
    rintro q hq ⟨⟨ackPacket, hreply, -, -, hfinal⟩, hkeep⟩
    exact canReach_finished_of_reply ht hlong hq hreply (hfinal (hkeep hreceiver))
  | received dataPacket =>
    obtain ⟨ackPacket, p', hstep, hreply, -, -, hfinal, hkeep, -⟩ :=
      exists_receiveDataStep_received ht (inv_of_reachable ht hreach) hlocation
    exact .step hstep trivial (canReach_finished_of_reply ht hlong (hreach.step hstep) hreply
      (hfinal (hkeep hreceiver)))
  | reply ackPacket =>
    rw [hlocation] at hconfirm
    exact canReach_finished_of_reply ht hlong hreach hlocation hconfirm
  | sending ackPacket copies =>
    rw [hlocation] at hconfirm
    obtain ⟨hfinal, hcopies⟩ := hconfirm
    obtain ⟨copies, rfl⟩ := Nat.exists_eq_succ_of_ne_zero hcopies
    exact canReach_finished_of_acked ht hlong hreach hfinal
      (canReach_sent ht hreach hlocation (Transfer.isFinal_iff.mp hfinal).1)
  | loopTest =>
    rw [hlocation] at hconfirm
    exact hconfirm.elim
  | exited =>
    rw [hlocation] at hconfirm
    exact hconfirm.elim

/-- From every state that allows it the threads can finish the sender. -/
theorem Completable.canReach_finished (h : p.Completable t) (ht : t.InRange)
    (hlong : t.LongEnough) (hreach : t.programs.Reachable p) :
    t.programs.CanReach Action.Cooperates p fun q => q.sys.sender.finished = true := by
  cases hsender : p.sys.sender.finished with
  | true => exact .here hsender
  | false =>
    cases hreceiver : p.sys.receiver.finished with
    | false =>
      refine (canReach_finalReply ht hlong hreach hreceiver).trans hreach ?_
      rintro q hq ⟨i, ackPacket, hlocation, hfinal⟩
      exact canReach_finished_of_reply ht hlong hq hlocation hfinal
    | true =>
      rcases h with hfinished | hunfinished | ⟨ackPacket, hmem, hfinal⟩ |
        ⟨i, ackPacket, hread, hfinal⟩ | ⟨i, hconfirm⟩
      · rw [hsender] at hfinished
        cases hfinished
      · rw [hreceiver] at hunfinished
        cases hunfinished
      · exact canReach_finished_of_acked ht hlong hreach hfinal
          (canReach_acked ht hreach hmem (Transfer.isFinal_iff.mp hfinal).1)
      · have hinv := inv_of_reachable ht hreach
        have hstep := step_receiveAck_received ht hinv hread
        refine .step hstep trivial (.here ?_)
        exact (hinv.step ht hstep).finished_of_isFinal ht hlong List.mem_cons_self hfinal
      · exact canReach_finished_of_canConfirm ht hlong hreach hsender hreceiver hconfirm

/-! ## Transfers that cannot be completed -/

/-- The receiver has everything, and nothing is left that could tell the sender. -/
structure Doomed (t : Transfer) (p : Programs) : Prop where
  sender : p.sys.sender.finished = false
  receiver : p.sys.receiver.finished = true
  acksInFlight : ∀ ackPacket ∈ p.acksInFlight, ¬ t.isFinal ackPacket = true
  receiveAck : ∀ i ackPacket, p.receiveAck i = .received ackPacket →
    ¬ t.isFinal ackPacket = true
  receiveData : ∀ i, ¬ (p.receiveData i).CanConfirm t

theorem doomed_of_not_completable (h : ¬ p.Completable t) : p.Doomed t := by
  simp only [Completable, not_or, not_exists, not_and, Bool.not_eq_true, Bool.not_eq_false] at h
  obtain ⟨hsender, hreceiver, hflight, hread, hthreads⟩ := h
  exact
    { sender := hsender
      receiver := hreceiver
      acksInFlight := fun ackPacket hmem => by simp [hflight ackPacket hmem]
      receiveAck := fun i ackPacket hi => by simp [hread i ackPacket hi]
      receiveData := hthreads }

namespace Doomed

theorem setReceiveAck (h : p.Doomed t) (i : Fin receiveAckThreadNum)
    {location : ReceiveAckLocation}
    (hlocation : ∀ ackPacket, location = .received ackPacket → ¬ t.isFinal ackPacket = true) :
    (p.setReceiveAck i location).Doomed t :=
  { h with
    receiveAck := by
      intro j ackPacket hj
      rw [receiveAck_setReceiveAck] at hj
      split_ifs at hj
      · exact hlocation ackPacket hj
      · exact h.receiveAck j ackPacket hj }

theorem setReceiveData (h : p.Doomed t) (i : Fin receiveThreadNum)
    {location : ReceiveDataLocation} (hlocation : ¬ location.CanConfirm t) :
    (p.setReceiveData i location).Doomed t :=
  { h with
    receiveData := by
      intro j
      rw [receiveData_setReceiveData]
      split_ifs
      · exact hlocation
      · exact h.receiveData j }

theorem notifyAll (h : p.Doomed t) : p.notifyAll.Doomed t := by
  obtain ⟨location, heq, -⟩ := notifyAll_eq p
  rw [heq]
  exact { h with }

theorem sendDataStep (h : p.Doomed t) (hinv : p.Inv t) (ht : t.InRange)
    (hstep : p.sendDataStep now freed = some p') : p'.Doomed t := by
  rcases sendDataStep_cases hstep with ⟨done, location, rfl, -⟩ |
    ⟨packets, sys, hprepare, rfl, -⟩ | ⟨packet, packets, dataPacket, -, -, -, rfl⟩
  · exact { h with }
  · have hsame := finished_prepared hinv.system ht hprepare
    rw [System.prepareDataPacketsToSend_eq hinv.system ht] at hprepare
    cases hprepare
    exact { h with sender := hsame.trans h.sender }
  · exact { h with }

/-- An acknowledgement that is not final does not finish the sender. -/
theorem receiveAckStep {i : Fin receiveAckThreadNum} (h : p.Doomed t) (hinv : p.Inv t)
    (ht : t.InRange) (hlong : t.LongEnough) (hstep : p.receiveAckStep t i = some p') :
    p'.Doomed t := by
  have hinv' := hinv.receiveAckStep ht hstep
  rcases receiveAckStep_cases hstep with ⟨location, rfl, -, hlocation, -⟩ |
    ⟨ackPacket, sys, hread, hack, rfl⟩ | ⟨-, rfl⟩
  · exact h.setReceiveAck i fun ackPacket heq => absurd heq (hlocation ackPacket)
  · have hmem := hinv.receiveAck i ackPacket hread
    rw [System.ackArrived_eq hinv.system ht hmem] at hack
    cases hack
    have hprocessed : { p with
        sys := { p.sys with
          sender := p.sys.sender.acked t.shrink ackPacket
          acksProcessed := ackPacket :: p.sys.acksProcessed } }.Doomed t := by
      refine { h with sender := ?_ }
      by_contra hfinished
      have hleft := (hinv'.system.sender.finished_iff.mp (Bool.not_eq_false _ ▸ hfinished)).1
      change (p.sys.sender.acked t.shrink ackPacket).leftBound = t.packets at hleft
      rw [leftBound_acked t.shrink (hinv.system.cumulativeSeqNum_le hmem)] at hleft
      rcases max_choice p.sys.sender.leftBound ackPacket.cumulativeSeqNum.toNat with hold | hcum
      · -- the left bound was there before
        have hsender := h.sender
        rw [hinv.system.sender.finished_iff.mpr
          ⟨hold.symm.trans hleft, fun k hk => hlong.length_packetData hk⟩] at hsender
        cases hsender
      · -- the acknowledgement has moved it to the end, so it is a final one
        refine h.receiveAck i ackPacket hread (Transfer.isFinal_iff.mpr
          ⟨hinv.system.ackType ackPacket hmem, UInt32.toNat_inj.mp ?_⟩)
        have hlast := ht.toNat_lastPacketSeqNum
        have hlt := ht.lt
        rw [UInt32.toNat_add, UInt32.toNat_one]
        omega
    exact hprocessed.setReceiveAck i (by simp)
  · exact h.notifyAll.setReceiveAck i (by simp)

theorem checkTimeoutStep (h : p.Doomed t) (hinv : p.Inv t) (ht : t.InRange)
    (hstep : p.checkTimeoutStep t timeoutThresholdUs now = some p') : p'.Doomed t := by
  rcases checkTimeoutStep_cases hstep with ⟨location, rfl⟩ | ⟨sys, hsys, rfl⟩ | rfl
  · exact { h with }
  · have hsame := finished_checkTimeout hsys
    rw [System.checkTimeout_eq hinv.system ht] at hsys
    cases hsys
    exact { h with sender := hsame.trans h.sender }
  · exact { h.notifyAll with }

/-- A receiver thread that cannot confirm will not, since it does not go back to
`recvfrom`. -/
theorem receiveDataStep {i : Fin receiveThreadNum} (h : p.Doomed t)
    (hstep : p.receiveDataStep i = some p') : p'.Doomed t := by
  have hi := h.receiveData i
  simp only [Programs.receiveDataStep] at hstep
  cases hlocation : p.receiveData i with
  | loopTest =>
    -- the receiver is finished, so the thread exits
    simp only [hlocation, h.receiver, if_true, Option.some.injEq] at hstep
    subst hstep
    exact h.setReceiveData i id
  | receive =>
    rw [hlocation] at hi
    exact absurd trivial hi
  | received dataPacket =>
    rw [hlocation] at hi
    exact absurd trivial hi
  | reply ackPacket =>
    simp only [hlocation, Option.some.injEq] at hstep hi
    subst hstep
    exact h.setReceiveData i fun hconfirm => hi hconfirm.1
  | sending ackPacket copies =>
    cases copies with
    | zero =>
      simp only [hlocation, Option.some.injEq] at hstep
      subst hstep
      exact h.setReceiveData i id
    | succ copies =>
      simp only [hlocation, Option.some.injEq] at hstep hi
      subst hstep
      have hfinal : ¬ t.isFinal ackPacket = true := fun hfinal => hi ⟨hfinal, Nat.succ_ne_zero _⟩
      have hsent : { p with acksInFlight := ackPacket :: p.acksInFlight }.Doomed t :=
        { h with
          acksInFlight := by
            intro other hmem
            rcases List.mem_cons.mp hmem with rfl | hold
            · exact hfinal
            · exact h.acksInFlight other hold }
      exact hsent.setReceiveData i fun hconfirm => hfinal hconfirm.1
  | exited => simp [hlocation] at hstep

/-- Nothing that may still happen changes that. -/
theorem step (h : p.Doomed t) (hinv : p.Inv t) (ht : t.InRange) (hlong : t.LongEnough)
    (hstep : t.programs.step a p = some p') : p'.Doomed t := by
  change Programs.step t a p = some p' at hstep
  cases a with
  | sendData now freed => exact h.sendDataStep hinv ht hstep
  | spuriousWakeup =>
    obtain ⟨-, rfl⟩ := spuriousWakeup_eq_some hstep
    exact { h with }
  | receiveAck i => exact h.receiveAckStep hinv ht hlong hstep
  | deliverAck i ackPacket =>
    obtain ⟨-, hmem, location, rfl, hlocation⟩ := deliverAck_eq_some hstep
    have hread : { p with
        acksInFlight := p.acksInFlight.erase ackPacket
        acksTaken := ackPacket :: p.acksTaken }.Doomed t :=
      { h with
        acksInFlight := fun other hother => h.acksInFlight other (List.mem_of_mem_erase hother) }
    refine hread.setReceiveAck i fun other heq => ?_
    rcases hlocation with ⟨-, rfl⟩ | ⟨-, rfl⟩
    · cases heq
      exact h.acksInFlight ackPacket hmem
    · cases heq
  | checkTimeout timeoutThresholdUs now => exact h.checkTimeoutStep hinv ht hstep
  | receiveData i => exact h.receiveDataStep hstep
  | deliverData i dataPacket =>
    obtain ⟨hreceive, -, -⟩ := deliverData_eq_some hstep
    have hi := h.receiveData i
    rw [hreceive] at hi
    exact absurd trivial hi
  | deliverHandshake i sentTime =>
    obtain ⟨hreceive, -⟩ := deliverHandshake_eq_some hstep
    have hi := h.receiveData i
    rw [hreceive] at hi
    exact absurd trivial hi
  | network action =>
    obtain ⟨_, _, _, rfl, -, hacks, -⟩ := networkStep_frame hstep
    exact { h with acksInFlight := fun ackPacket hmem => h.acksInFlight ackPacket (hacks hmem) }

end Doomed

/-- A doomed sender is never finished. -/
theorem Doomed.run {as : List Action} (h : p.Doomed t) (ht : t.InRange) (hlong : t.LongEnough)
    (hreach : t.programs.Reachable p) (hrun : t.programs.run as p = some p') : p'.Doomed t :=
  hreach.stable (fun _ _ _ hu hdoomed hstep =>
    hdoomed.step (inv_of_reachable ht hu) ht hlong hstep) h hrun

end Programs

/-- **Exactly these transfers can be completed.** From a reachable state the sender can be
finished, without losses, duplicates or wake-ups that nobody caused, if and only if it is
finished, the receiver is not, a final acknowledgement is on its way to it, or a receiver
thread can still make one. In every other state nothing that may happen finishes it. -/
theorem sender_completable_iff (ht : t.InRange) (hlong : t.LongEnough)
    (hreach : t.programs.Reachable p) :
    (t.programs.CanReach Programs.Action.Cooperates p (fun q => q.sys.sender.finished = true) ↔
        p.Completable t) ∧
      (¬ p.Completable t → ∀ as p', t.programs.run as p = some p' →
        p'.sys.sender.finished = false) := by
  have hdoomed : ¬ p.Completable t → ∀ as p', t.programs.run as p = some p' →
      p'.sys.sender.finished = false := fun hnot as p' hrun =>
    ((Programs.doomed_of_not_completable hnot).run ht hlong hreach hrun).sender
  refine ⟨⟨fun hcan => ?_, fun h => h.canReach_finished ht hlong hreach⟩, hdoomed⟩
  by_contra hnot
  obtain ⟨as, q, -, hrun, hfinished⟩ := hcan
  rw [hdoomed hnot as q hrun] at hfinished
  cases hfinished

/-- All but one of the final acknowledgements are lost; the last one is enough. -/
theorem sender_completable_iff_lostRepliesRun :
    Transfer.oneByte.programs.CanReach Programs.Action.Cooperates
      (Transfer.oneByte.programs.endOf Programs.lostRepliesRun.dropLast)
      fun q => q.sys.sender.finished = true :=
  (sender_completable_iff Transfer.oneByte_inRange (le_refl 1)
    (Transfer.oneByte.programs.reachable_endOf _)).1.mpr
    (.inr (.inr (.inl (by decide +kernel))))

end ReliablePacket
