/-
# Nothing to send

`main` passes any number on, also zero. Then `bytesSent` equals `bytesToSend` from the
beginning: `sendData` leaves its loop at the first test and sets `done`, and not even a
final packet is sent. The receiver is never told: its window stays as the constructor
left it, and its threads wait for ever.
-/
import ReliablePacket.Programs.Handshake

set_option autoImplicit false

namespace ReliablePacket

variable {t : Transfer} {p p' : Programs} {a : Programs.Action}

/-- How many steps `sendData` still takes when there is nothing to send. -/
def SendDataLocation.stepsToDone : SendDataLocation → ℕ
  | .exited => 0
  | .setDone => 1
  | _ => 2

namespace Programs

/-- The steps of `sendData`. -/
def Action.ofSendData : Action → Bool
  | .sendData _ _ => true
  | _ => false

/-- Nothing was sent, and nothing but handshakes was answered. -/
structure NothingSent (p : Programs) : Prop extends p.HandshakesOnly where
  finished : p.sys.sender.finished = true
  dataSent : p.sys.dataSent = []
  sendData : p.sendData = .loopTest ∨ p.sendData = .setDone ∨ p.sendData = .exited
  done : p.sendData = .exited ↔ p.done = true
  receiveAck : ∀ i, (p.receiveAck i).inHand = none

namespace NothingSent

theorem init (hempty : t.bytesToSend = 0) : (Programs.init t).NothingSent where
  toHandshakesOnly := .init t
  finished := decide_eq_true hempty.symm
  dataSent := rfl
  sendData := .inl rfl
  done := iff_of_false (by simp [Programs.init]) (by simp [Programs.init])
  receiveAck _ := rfl

/-- What leaves the sender's program alone. -/
theorem mono (h : p.NothingSent) (hnext : p'.HandshakesOnly ∧ p.SameSender p') :
    p'.NothingSent where
  toHandshakesOnly := hnext.1
  finished := hnext.2.sys ▸ h.finished
  dataSent := hnext.2.sys ▸ h.dataSent
  sendData := hnext.2.sendData ▸ h.sendData
  done := by
    rw [hnext.2.sendData, hnext.2.done]
    exact h.done
  receiveAck := hnext.2.receiveAck ▸ h.receiveAck

/-- `sendData` has two steps to take, and takes them. -/
theorem sendDataStep (h : p.NothingSent) (hexited : p.sendData ≠ .exited) (now : Timeval)
    (freed : List UInt8) :
    ∃ p', p.sendDataStep now freed = some p' ∧ p'.NothingSent ∧
      p'.sendData.stepsToDone + 1 ≤ p.sendData.stepsToDone := by
  rcases h.sendData with hloop | hset | hout
  · have hdone : ¬ p.done = true := fun hdone => hexited (h.done.mpr hdone)
    refine ⟨{ p with sendData := .setDone }, ?_, ?_, ?_⟩
    · rw [Programs.sendDataStep, hloop]
      simp only [h.finished, if_true]
    · exact { h with sendData := .inr (.inl rfl), done := iff_of_false (by simp) hdone }
    · rw [hloop]
      exact le_rfl
  · refine ⟨{ p with done := true, sendData := .exited }, ?_, ?_, ?_⟩
    · rw [Programs.sendDataStep, hset]
    · exact { h with sendData := .inr (.inr rfl), done := iff_of_true rfl rfl }
    · rw [hset]
      exact le_rfl
  · exact absurd hout hexited

/-- A notification finds nobody blocked. -/
theorem sendData_ne_waiting (h : p.NothingSent) : p.sendData ≠ .waiting := by
  intro hwaiting
  have hsendData := h.sendData
  rw [hwaiting] at hsendData
  rcases hsendData with heq | heq | heq <;> cases heq

theorem notifyAll (h : p.NothingSent) : p.notifyAll = p := by
  rw [Programs.notifyAll, if_neg h.sendData_ne_waiting]

theorem setReceiveAck (h : p.NothingSent) (i : Fin receiveAckThreadNum)
    {location : ReceiveAckLocation} (hlocation : location.inHand = none) :
    (p.setReceiveAck i location).NothingSent :=
  { h with
    receiveAck := fun j => by
      change (Function.update p.receiveAck i location j).inHand = none
      rw [Function.update_apply]
      split_ifs
      · exact hlocation
      · exact h.receiveAck j }

theorem receiveAckStep {i : Fin receiveAckThreadNum} (h : p.NothingSent)
    (hstep : p.receiveAckStep t i = some p') : p'.NothingSent ∧ p'.sendData = p.sendData := by
  rcases receiveAckStep_cases hstep with
    ⟨location, rfl, -, hhand, -⟩ | ⟨ackPacket, _, hreceived, -, -⟩ | ⟨-, rfl⟩
  · exact ⟨h.setReceiveAck i (ReceiveAckLocation.inHand_eq_none_iff.mpr hhand), rfl⟩
  · have hnone := h.receiveAck i
    rw [hreceived] at hnone
    cases hnone
  · rw [h.notifyAll]
    exact ⟨h.setReceiveAck i rfl, rfl⟩

/-- What a thread reads is the answer to a handshake, which it passes over. -/
theorem deliverAck {i : Fin receiveAckThreadNum} {ackPacket : AckPacket} (h : p.NothingSent)
    (hstep : p.deliverAck i ackPacket = some p') :
    p'.NothingSent ∧ p'.sendData = p.sendData := by
  obtain ⟨-, hmem, location, rfl, hlocation⟩ := deliverAck_eq_some hstep
  have hhandshake := h.acks ackPacket hmem
  obtain ⟨-, rfl⟩ := hlocation.resolve_left fun hregular => by
    rw [hhandshake] at hregular
    cases hregular.1
  have htaken : NothingSent { p with
      acksInFlight := p.acksInFlight.erase ackPacket
      acksTaken := ackPacket :: p.acksTaken } :=
    { h with acks := fun other hother => h.acks other (List.mem_of_mem_erase hother) }
  exact ⟨htaken.setReceiveAck i rfl, rfl⟩

theorem checkTimeoutStep {timeoutThresholdUs : UInt64} {now : Timeval} (h : p.NothingSent)
    (hstep : p.checkTimeoutStep t timeoutThresholdUs now = some p') :
    p'.NothingSent ∧ p'.sendData = p.sendData := by
  rcases checkTimeoutStep_cases hstep with ⟨location, rfl⟩ | ⟨sys, hsys, rfl⟩ | rfl
  · exact ⟨{ h with }, rfl⟩
  · -- a sweep changes the window, but not what it has sent
    have hfinished := finished_checkTimeout hsys
    obtain ⟨sender, -, heq⟩ := Option.bind_eq_some_iff.mp hsys
    cases heq
    exact ⟨{ h with finished := hfinished.trans h.finished }, rfl⟩
  · rw [h.notifyAll]
    exact ⟨{ h with }, rfl⟩

/-- No step leads out of it, and `sendData` never starts over. -/
theorem step (h : p.NothingSent) (hstep : t.programs.step a p = some p') : p'.NothingSent ∧
    p'.sendData.stepsToDone + (if a.ofSendData then 1 else 0) ≤ p.sendData.stepsToDone := by
  change Programs.step t a p = some p' at hstep
  have hquiet (hnext : p'.NothingSent ∧ p'.sendData = p.sendData) :
      p'.NothingSent ∧ p'.sendData.stepsToDone + 0 ≤ p.sendData.stepsToDone :=
    ⟨hnext.1, (congrArg SendDataLocation.stepsToDone hnext.2).le⟩
  have hother (hreceiver : a.ofSender = false) :
      p'.NothingSent ∧ p'.sendData.stepsToDone + 0 ≤ p.sendData.stepsToDone := by
    have hnext := h.toHandshakesOnly.step hreceiver hstep
    exact hquiet ⟨h.mono hnext, hnext.2.sendData⟩
  cases a with
  | sendData now freed =>
    have hexited : p.sendData ≠ .exited := by
      intro hexited
      simp [Programs.step, Programs.sendDataStep, hexited] at hstep
    obtain ⟨p'', hp'', hkeep, hfall⟩ := h.sendDataStep hexited now freed
    cases hstep.symm.trans hp''
    exact ⟨hkeep, hfall⟩
  | spuriousWakeup =>
    obtain ⟨hwaiting, -⟩ := spuriousWakeup_eq_some hstep
    exact absurd hwaiting h.sendData_ne_waiting
  | receiveAck i => exact hquiet (h.receiveAckStep hstep)
  | deliverAck i ackPacket => exact hquiet (h.deliverAck hstep)
  | checkTimeout timeoutThresholdUs now => exact hquiet (h.checkTimeoutStep hstep)
  | receiveData i => exact hother rfl
  | deliverData i dataPacket => exact hother rfl
  | deliverHandshake i sentTime => exact hother rfl
  | network action => exact hother rfl

end NothingSent

theorem nothingSent_of_reachable (hempty : t.bytesToSend = 0) (hreach : t.programs.Reachable p) :
    p.NothingSent :=
  hreach.invariant (NothingSent.init hempty) fun _ _ _ h hstep => (h.step hstep).1

end Programs

/-- **Nothing to send.** Whatever the threads and the network do, no data packet is ever
sent and the receiver stays as its constructor left it, so that none of its threads ever
exits. `sendData` can always take its next step, takes two at the most, and its exit is
what sets `done`. -/
theorem empty_transfer (hempty : t.bytesToSend = 0) (hreach : t.programs.Reachable p) :
    p.sys.sender.finished = true ∧ p.sys.dataSent = [] ∧ p.dataInFlight = [] ∧
      p.sys.receiver = .new ∧ p.sys.receiver.finished = false ∧
      (∀ i, p.receiveData i ≠ .exited) ∧
      (p.done = true ↔ p.sendData = .exited) ∧
      (p.sendData ≠ .exited →
        ∀ now freed, ∃ p', t.programs.step (.sendData now freed) p = some p') ∧
      ∀ as p', t.programs.run as p = some p' → as.countP (·.ofSendData) ≤ 2 := by
  have h := Programs.nothingSent_of_reachable hempty hreach
  refine ⟨h.finished, h.dataSent, h.dataInFlight, h.receiver, ?_, fun i hexited => ?_,
    h.done.symm, fun hexited now freed => ?_, fun as p' hrun => ?_⟩
  · rw [h.receiver]
    rfl
  · have hi := h.receiveData i
    rw [hexited] at hi
    exact hi
  · obtain ⟨p', hp', -⟩ := h.sendDataStep hexited now freed
    exact ⟨p', hp'⟩
  · have hcount : as.countP (·.ofSendData) + p'.sendData.stepsToDone ≤ p.sendData.stepsToDone :=
      hreach.countP_add_rank_le (I := Programs.NothingSent)
        (fun _ _ _ _ h hstep => h.step hstep) h hrun
    have hrank : p.sendData.stepsToDone ≤ 2 := by
      rcases h.sendData with heq | heq | heq <;> rw [heq] <;> decide
    omega

/-- A transfer of no bytes. -/
def Transfer.noBytes : Transfer := { Transfer.oneByte with bytesToSend := 0 }

/-- The first receiver thread goes to `recvfrom`, and `sendData` runs to its end. -/
def Programs.noBytesRun : List Programs.Action :=
  [.receiveData 0, .sendData ⟨0, 0⟩ [], .sendData ⟨0, 0⟩ []]

theorem empty_transfer_noBytes :
    (Transfer.noBytes.programs.endOf Programs.noBytesRun).done = true ∧
      (Transfer.noBytes.programs.endOf Programs.noBytesRun).sys.receiver.finished = false := by
  refine ⟨by decide +kernel, ?_⟩
  exact (empty_transfer rfl (Transfer.noBytes.programs.reachable_endOf _)).2.2.2.2.1

end ReliablePacket
