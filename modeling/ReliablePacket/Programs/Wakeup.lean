/-
# Waking up at completion

`receiveAck` calls `notify_all` without holding the mutex of the condition
variable. When the transfer becomes finished after `sendData` has found its
predicate false and before it blocks, the notification wakes nobody, and
`checkTimeout` sends none for a finished transfer.

This is the only way to miss it. In a run in which no `receiveAck` thread notifies
during that interval, a `sendData` thread that is about to block or blocked while
the transfer is finished always has a notification coming.
-/
import ReliablePacket.Programs.Steps
import ReliablePacket.System.Agreement

set_option autoImplicit false

namespace ReliablePacket

variable {t : Transfer} {p p' : Programs} {a : Programs.Action}

namespace Programs

/-- Some `receiveAck` thread has a notification pending. -/
def NotifyPending (p : Programs) : Prop := ∃ i, (p.receiveAck i).NotifyPending

instance (p : Programs) : Decidable p.NotifyPending :=
  inferInstanceAs (Decidable (∃ i, (p.receiveAck i).NotifyPending))

/-- The transfer is finished, `sendData` is blocked, and nothing is left that would
wake it. -/
def AsleepAtCompletion (p : Programs) : Prop :=
  p.sys.sender.finished = true ∧ p.sendData = .waiting ∧ ¬ p.NotifyPending ∧
    p.checkTimeout ≠ .notify ∧ p.acksInFlight = []

instance (p : Programs) : Decidable p.AsleepAtCompletion :=
  inferInstanceAs (Decidable (_ ∧ _ ∧ _ ∧ _ ∧ _))

/-- No `receiveAck` thread calls `notify_all` for a finished transfer while
`sendData` is between a false predicate and blocking. -/
def NotifiesInTime (p : Programs) (a : Action) : Prop :=
  ∀ i, a = .receiveAck i → p.receiveAck i = .notify → p.sys.sender.finished = true →
    p.sendData ≠ .aboutToWait

instance (p : Programs) (a : Action) : Decidable (p.NotifiesInTime a) :=
  inferInstanceAs (Decidable (∀ i, a = .receiveAck i → p.receiveAck i = .notify →
    p.sys.sender.finished = true → p.sendData ≠ .aboutToWait))

/-- While the transfer is finished, a `sendData` thread that blocks or is about to
has a notification coming. -/
def WillBeNotified (p : Programs) : Prop :=
  p.sys.sender.finished = true → p.sendData.Blocks → p.NotifyPending

/-! ## Frames -/

/-- Moving a thread that has no notification pending loses none. -/
theorem NotifyPending.setReceiveAck {i : Fin receiveAckThreadNum}
    {location : ReceiveAckLocation} (h : p.NotifyPending)
    (hi : ¬ (p.receiveAck i).NotifyPending) : (p.setReceiveAck i location).NotifyPending := by
  obtain ⟨j, hj⟩ := h
  have hne : j ≠ i := by
    rintro rfl
    exact hi hj
  refine ⟨j, ?_⟩
  change (Function.update p.receiveAck i location j).NotifyPending
  rw [Function.update_of_ne hne]
  exact hj

/-- Moving a thread to a place with a notification pending makes one. -/
theorem notifyPending_setReceiveAck {i : Fin receiveAckThreadNum}
    {location : ReceiveAckLocation} (hlocation : location.NotifyPending) :
    (p.setReceiveAck i location).NotifyPending := by
  refine ⟨i, ?_⟩
  change (Function.update p.receiveAck i location i).NotifyPending
  rw [Function.update_self]
  exact hlocation

/-- The timeout sweep counts no bytes. -/
theorem finished_checkTimeout {sys sys' : System} {timeoutThresholdUs : UInt64} {now : Timeval}
    (h : sys.checkTimeout t timeoutThresholdUs now = some sys') :
    sys'.sender.finished = sys.sender.finished := by
  simp only [System.checkTimeout, SlideWindowSender.checkTimeout] at h
  cases hloop : sys.sender.timeoutLoop false timeoutThresholdUs now 0 sys.sender.slideWindow with
  | error fault =>
    rw [hloop] at h
    cases h
  | ok result =>
    rw [hloop] at h
    cases h
    rcases SlideWindowSender.punishTimeout_cases t.shrink result.1
      { sys.sender with slideWindow := result.2 } with heq | ⟨-, -, heq⟩
    · change (SlideWindowSender.updateNewDataReady _).finished = _
      rw [heq]
      rfl
    · change (SlideWindowSender.updateNewDataReady _).finished = _
      rw [heq]
      rfl

theorem sender_receiveDataPacket {sys sys' : System} {dataPacket : DataPacket (List UInt8)}
    {ackPacket : AckPacket} (h : sys.receiveDataPacket dataPacket = some (ackPacket, sys')) :
    sys'.sender = sys.sender := by
  simp only [System.receiveDataPacket] at h
  obtain ⟨⟨ret, receiver⟩, -, heq⟩ := Option.bind_eq_some_iff.mp h
  cases heq
  rfl

/-! ## One step -/

namespace WillBeNotified

theorem sendData {now : Timeval} {freed : List UInt8} (h : p.WillBeNotified)
    (hstep : p.sendDataStep now freed = some p') : p'.WillBeNotified := by
  intro hfinished hblocks
  rcases sendDataStep_cases hstep with ⟨done, location, rfl, -, hmove⟩ |
    ⟨packets, sys, -, rfl, -⟩ | ⟨packet, packets, dataPacket, -, -, -, rfl⟩
  · exact h hfinished (hmove hfinished hblocks)
  · rcases hblocks with hblocks | hblocks <;> cases hblocks
  · rcases hblocks with hblocks | hblocks <;> cases hblocks

/-- A notification takes `sendData` out of its wait, unless it has not blocked yet. -/
theorem not_blocks_notifyAll (habout : p.sendData ≠ .aboutToWait) :
    ¬ p.notifyAll.sendData.Blocks := by
  obtain ⟨location, heq, -, hmoved⟩ := notifyAll_eq p
  rintro (hblocks | hblocks)
  · rw [heq] at hblocks
    exact habout (hmoved hblocks)
  · exact sendData_notifyAll hblocks

theorem receiveAck {i : Fin receiveAckThreadNum} (h : p.WillBeNotified)
    (hallowed : p.NotifiesInTime (.receiveAck i))
    (hstep : p.receiveAckStep t i = some p') : p'.WillBeNotified := by
  intro hfinished hblocks
  rcases receiveAckStep_cases hstep with ⟨location, rfl, -, -, hmove⟩ |
    ⟨ackPacket, sys, -, -, rfl⟩ | ⟨hnotify, rfl⟩
  · -- a pending notification stays pending until it is made
    by_cases hi : (p.receiveAck i).NotifyPending
    · exact notifyPending_setReceiveAck (hmove hfinished hi)
    · exact (h hfinished hblocks).setReceiveAck hi
  · exact notifyPending_setReceiveAck (.inl rfl)
  · -- the notification came in time, so nobody blocks any more
    have hsys : p.notifyAll.sys = p.sys := by
      obtain ⟨location, heq, -, -⟩ := notifyAll_eq p
      rw [heq]
    change p.notifyAll.sys.sender.finished = true at hfinished
    rw [hsys] at hfinished
    exact absurd hblocks (not_blocks_notifyAll (hallowed i rfl hnotify hfinished))

theorem checkTimeout {timeoutThresholdUs : UInt64} {now : Timeval} (h : p.WillBeNotified)
    (hstep : p.checkTimeoutStep t timeoutThresholdUs now = some p') : p'.WillBeNotified := by
  intro hfinished hblocks
  rcases checkTimeoutStep_cases hstep with ⟨location, rfl⟩ | ⟨sys, hsys, rfl⟩ | rfl
  · exact h hfinished hblocks
  · exact h ((finished_checkTimeout hsys).symm.trans hfinished) hblocks
  · -- this notification may come too early, but then another one is still coming
    by_cases habout : p.sendData = .aboutToWait
    · obtain ⟨location, heq, -, -⟩ := notifyAll_eq p
      rw [heq] at hfinished ⊢
      exact h hfinished (.inl habout)
    · exact absurd hblocks (not_blocks_notifyAll habout)

theorem receiveData {i : Fin receiveThreadNum} (h : p.WillBeNotified)
    (hstep : p.receiveDataStep i = some p') : p'.WillBeNotified := by
  rcases receiveDataStep_cases hstep with ⟨location, rfl, -⟩ |
    ⟨dataPacket, ackPacket, sys, -, hsys, rfl⟩ | ⟨ackPacket, -, rfl⟩ |
    ⟨ackPacket, copies, -, rfl⟩
  · exact h
  · intro hfinished hblocks
    refine h ?_ hblocks
    rw [← sender_receiveDataPacket hsys]
    exact hfinished
  · exact h
  · exact h

/-- Every step that notifies in time keeps a notification coming. -/
theorem step (h : p.WillBeNotified) (hallowed : p.NotifiesInTime a)
    (hstep : t.programs.step a p = some p') : p'.WillBeNotified := by
  change Programs.step t a p = some p' at hstep
  cases a with
  | sendData now freed => exact h.sendData hstep
  | spuriousWakeup =>
    obtain ⟨-, rfl⟩ := spuriousWakeup_eq_some hstep
    intro _ hblocks
    rcases hblocks with hblocks | hblocks <;> cases hblocks
  | receiveAck i => exact h.receiveAck hallowed hstep
  | deliverAck i ackPacket =>
    obtain ⟨hreceive, -, location, rfl, -⟩ := deliverAck_eq_some hstep
    intro hfinished hblocks
    refine (h hfinished hblocks).setReceiveAck ?_
    rw [hreceive]
    simp [ReceiveAckLocation.NotifyPending]
  | checkTimeout timeoutThresholdUs now => exact h.checkTimeout hstep
  | receiveData i => exact h.receiveData hstep
  | deliverData i dataPacket =>
    obtain ⟨-, -, rfl⟩ := deliverData_eq_some hstep
    exact h
  | deliverHandshake i sentTime =>
    obtain ⟨-, rfl⟩ := deliverHandshake_eq_some hstep
    exact h
  | network action =>
    obtain ⟨_, _, _, rfl, -⟩ := networkStep_frame hstep
    exact h

end WillBeNotified

end Programs

/-! ## Runs -/

namespace Programs

/-- `sendData` takes `n` steps. -/
def sendDataSteps (n : ℕ) : List Action := List.replicate n (.sendData ⟨0, 0⟩ [])

/-- A `receiveAck` thread reads the acknowledgement of the only packet, processes
it, evaluates both conditions and notifies. -/
def receiveAckRound : List Action :=
  [.receiveAck 0, .deliverAck 0 ⟨.regular, 1, 0, ⟨0, 0⟩⟩, .receiveAck 0, .receiveAck 0,
    .receiveAck 0, .receiveAck 0]

/-- The receiver takes the only packet, sends the final acknowledgement four times
and exits. -/
def receiverRun : List Action :=
  [.receiveData 0, .deliverData 0 ⟨.finish, 0, ⟨0, 0⟩, 1, [7]⟩, .receiveData 0, .receiveData 0] ++
    List.replicate 6 (.receiveData 0) ++ [.receiveData 1]

/-- `sendData` sends the only packet and blocks; the acknowledgement wakes it and
it sets `done`. -/
def notifiedRun : List Action :=
  sendDataSteps 11 ++ receiverRun ++ receiveAckRound ++ sendDataSteps 5

/-- `sendData` sends the only packet and finds its predicate false; all four final
acknowledgements are processed before it blocks. -/
def missedNotificationRun : List Action :=
  sendDataSteps 10 ++ receiverRun ++ (List.replicate 4 receiveAckRound).flatten ++
    sendDataSteps 1

end Programs

/-- **No lost wake-up unless a notification falls into the interval.** In every run
whose notifications come in time, `sendData` is never left asleep in a finished
transfer. -/
theorem not_asleepAtCompletion (hreach : t.programs.ReachableVia Programs.NotifiesInTime p) :
    ¬ p.AsleepAtCompletion := by
  have hinv : p.WillBeNotified := by
    refine hreach.invariant ?_ fun _ _ _ _ h hallowed hstep => h.step hallowed hstep
    intro _ hblocks
    rcases hblocks with hblocks | hblocks <;> cases hblocks
  rintro ⟨hfinished, hwaiting, hpending, -, -⟩
  exact hpending (hinv hfinished (.inr hwaiting))

/-- A run in which the notification comes in time and the sender is done. -/
theorem not_asleepAtCompletion_notifiedRun :
    ∃ p, Transfer.oneByte.programs.ReachableVia Programs.NotifiesInTime p ∧ p.done = true ∧
      ¬ p.AsleepAtCompletion := by
  have hrun : (Transfer.oneByte.programs.runVia (fun p a => decide (p.NotifiesInTime a))
      Programs.notifiedRun (.init Transfer.oneByte)).map (·.done) = some true := by
    decide +kernel
  obtain ⟨p, hp, hdone⟩ := Option.map_eq_some_iff.mp hrun
  have hinit : Transfer.oneByte.programs.ReachableVia Programs.NotifiesInTime
      (.init Transfer.oneByte) := .init
  have hreach := hinit.runVia (fun _ _ => of_decide_eq_true) hp
  exact ⟨p, hreach, hdone, not_asleepAtCompletion hreach⟩

/-- With all four notifications in the interval `sendData` blocks in a finished
transfer, no acknowledgement is in flight, and the receiver has exited. -/
theorem asleepAtCompletion_missedNotificationRun :
    ∃ p, Transfer.oneByte.programs.Reachable p ∧ p.AsleepAtCompletion ∧
      ∀ i, p.receiveData i = .exited := by
  refine ⟨Transfer.oneByte.programs.endOf Programs.missedNotificationRun,
    Transfer.oneByte.programs.reachable_endOf _, ?_, ?_⟩ <;> decide +kernel

end ReliablePacket
