/-
# Running and shutting down

No thread of either program ever fails. Whatever it is about to do it can do, in
every interleaving; `sendData` alone may block, in `condVar.wait`.

Both programs join their threads before they return. Once `done` is set, every step
of a `receiveAck` or `checkTimeout` thread brings it closer to its exit; once the
receiver is finished, so does every step of a receiver thread. So the joins return
after a bounded number of steps.
-/
import Mathlib.Algebra.Order.BigOperators.Group.Finset
import ReliablePacket.Programs.Delivery

set_option autoImplicit false

namespace ReliablePacket

variable {t : Transfer} {p p' : Programs} {a : Programs.Action} {now : Timeval}
variable {timeoutThresholdUs : UInt64} {freed : List UInt8}

namespace Programs

/-! ## No thread fails -/

/-- Where the item of the next packet was deleted, `freed` are the bytes that stand in its
memory, as many as are read. -/
def FreedFits (freed : List UInt8) (p : Programs) : Prop :=
  ∀ packet packets, p.sendData = .marshal (packet :: packets) →
    p.sys.sender.marshal packet = none → freed.length = packet.dataSize

namespace Inv

/-- `sendData` can go on unless it waits or has exited. -/
theorem exists_sendDataStep (h : p.Inv t) (ht : t.InRange) (hwaiting : p.sendData ≠ .waiting)
    (hexited : p.sendData ≠ .exited) (now : Timeval) (hfreed : p.FreedFits freed) :
    ∃ p', p.sendDataStep now freed = some p' := by
  simp only [Programs.sendDataStep]
  cases hlocation : p.sendData with
  | waiting => exact absurd hlocation hwaiting
  | exited => exact absurd hlocation hexited
  | prepare =>
    simp only [System.prepareDataPacketsToSend_eq h.system ht]
    exact ⟨_, rfl⟩
  | marshal packets =>
    cases packets with
    | nil => exact ⟨_, rfl⟩
    | cons packet packets =>
      cases hread : p.sys.sender.marshal packet with
      | some dataPacket =>
        simp only [hread]
        exact ⟨_, rfl⟩
      | none =>
        -- freed memory is as readable as any other
        simp only [hread, hfreed packet packets hlocation hread, if_true]
        exact ⟨_, rfl⟩
  | loopTest => exact ⟨_, rfl⟩
  | predicateHasData => exact ⟨_, rfl⟩
  | predicateFinished => exact ⟨_, rfl⟩
  | aboutToWait => exact ⟨_, rfl⟩
  | hasDataTest => exact ⟨_, rfl⟩
  | setDone => exact ⟨_, rfl⟩

/-- A `receiveAck` thread can go on unless it has exited. -/
theorem exists_receiveAckStep (h : p.Inv t) (ht : t.InRange) (i : Fin receiveAckThreadNum)
    (hexited : p.receiveAck i ≠ .exited) : ∃ p', p.receiveAckStep t i = some p' := by
  simp only [Programs.receiveAckStep]
  cases hlocation : p.receiveAck i with
  | exited => exact absurd hlocation hexited
  | received ackPacket =>
    simp only [System.ackArrived_eq h.system ht (h.receiveAck i ackPacket hlocation)]
    exact ⟨_, rfl⟩
  | loopTest => exact ⟨_, rfl⟩
  | receive => exact ⟨_, rfl⟩
  | testHasData => exact ⟨_, rfl⟩
  | testFinished => exact ⟨_, rfl⟩
  | notify => exact ⟨_, rfl⟩

/-- `checkTimeout` can go on unless it has exited. -/
theorem exists_checkTimeoutStep (h : p.Inv t) (ht : t.InRange)
    (hexited : p.checkTimeout ≠ .exited) (timeoutThresholdUs : UInt64) (now : Timeval) :
    ∃ p', p.checkTimeoutStep t timeoutThresholdUs now = some p' := by
  simp only [Programs.checkTimeoutStep]
  cases hlocation : p.checkTimeout with
  | exited => exact absurd hlocation hexited
  | sweep =>
    simp only [System.checkTimeout_eq h.system ht]
    exact ⟨_, rfl⟩
  | loopTest => exact ⟨_, rfl⟩
  | testHasData => exact ⟨_, rfl⟩
  | notify => exact ⟨_, rfl⟩

/-- A receiver thread can go on unless it has exited. -/
theorem exists_receiveDataStep (h : p.Inv t) (i : Fin receiveThreadNum)
    (hexited : p.receiveData i ≠ .exited) : ∃ p', p.receiveDataStep i = some p' := by
  simp only [Programs.receiveDataStep]
  cases hlocation : p.receiveData i with
  | exited => exact absurd hlocation hexited
  | received dataPacket =>
    have hmem : dataPacket ∈ p.sys.dataSent := by
      have hok := h.receiveData i
      rw [hlocation] at hok
      exact hok
    obtain ⟨ret, receiver, -, heq⟩ := System.receiveDataPacket_eq h.system hmem
    simp only [heq]
    exact ⟨_, rfl⟩
  | sending ackPacket copies =>
    cases copies with
    | zero => exact ⟨_, rfl⟩
    | succ copies => exact ⟨_, rfl⟩
  | loopTest => exact ⟨_, rfl⟩
  | receive => exact ⟨_, rfl⟩
  | reply ackPacket => exact ⟨_, rfl⟩

end Inv

end Programs

/-- **No thread fails.** In every interleaving each thread that has not exited can take
its next step, whatever the clock and the estimator say and whatever bytes stand in freed
memory. Only `sendData` blocks, in `condVar.wait`. -/
theorem threads_enabled (ht : t.InRange) (hreach : t.programs.Reachable p) :
    (p.sendData ≠ .waiting → p.sendData ≠ .exited → ∀ now freed, p.FreedFits freed →
        ∃ p', t.programs.step (.sendData now freed) p = some p') ∧
      (∀ i, p.receiveAck i ≠ .exited → ∃ p', t.programs.step (.receiveAck i) p = some p') ∧
      (p.checkTimeout ≠ .exited → ∀ timeoutThresholdUs now,
        ∃ p', t.programs.step (.checkTimeout timeoutThresholdUs now) p = some p') ∧
      ∀ i, p.receiveData i ≠ .exited → ∃ p', t.programs.step (.receiveData i) p = some p' := by
  have h := Programs.inv_of_reachable ht hreach
  refine ⟨fun hwaiting hexited now freed hfreed => ?_, h.exists_receiveAckStep ht,
    h.exists_checkTimeoutStep ht, h.exists_receiveDataStep⟩
  exact h.exists_sendDataStep ht hwaiting hexited now hfreed

/-- A retransmission whose item was deleted is marshalled without failing, here from a byte
that has been overwritten. -/
theorem threads_enabled_retransmission :
    ∃ p', Transfer.oneByte.programs.step (.sendData ⟨1, 0⟩ [255])
      (Transfer.oneByte.programs.endOf (Programs.retransmissionRun ++ [.receiveAck 0])) =
        some p' := by
  have hreach := Transfer.oneByte.programs.reachable_endOf
    (Programs.retransmissionRun ++ [.receiveAck 0])
  refine (threads_enabled Transfer.oneByte_inRange hreach).1 (by decide +kernel)
    (by decide +kernel) _ _ fun packet packets hmarshal _ => ?_
  -- one byte is read for the packet that is left in the queue
  have hqueue : (Transfer.oneByte.programs.endOf (Programs.retransmissionRun ++
      [.receiveAck 0])).sendData.queue.head?.map (·.dataSize) = some 1 := by
    decide +kernel
  rw [hmarshal] at hqueue
  exact (Option.some.inj hqueue).symm

/-! ## Steps to the exit -/

/-- How many steps a `receiveAck` thread can still take once `done` is set. -/
def ReceiveAckLocation.stepsLeft : ReceiveAckLocation → ℕ
  | .exited => 0
  | .loopTest => 1
  | .notify => 2
  | .testFinished => 3
  | .testHasData => 4
  | .received _ => 5
  | .receive => 6

/-- How many steps `checkTimeout` can still take once `done` is set. -/
def CheckTimeoutLocation.stepsLeft : CheckTimeoutLocation → ℕ
  | .exited => 0
  | .loopTest => 1
  | .notify => 2
  | .testHasData => 3
  | .sweep => 4

/-- How many steps a receiver thread can still take once the receiver is finished. -/
def ReceiveDataLocation.stepsLeft : ReceiveDataLocation → ℕ
  | .exited => 0
  | .loopTest => 1
  | .sending _ copies => copies + 2
  | .reply _ => finAckNum + 3
  | .received _ => finAckNum + 4
  | .receive => finAckNum + 5

theorem ReceiveAckLocation.stepsLeft_le (location : ReceiveAckLocation) :
    location.stepsLeft ≤ 6 := by
  cases location <;> simp [stepsLeft]

theorem CheckTimeoutLocation.stepsLeft_le (location : CheckTimeoutLocation) :
    location.stepsLeft ≤ 4 := by
  cases location <;> simp [stepsLeft]

/-- The thread has no more copies to send than `FIN_ACK_NUM`. -/
def ReceiveDataLocation.CopiesBounded : ReceiveDataLocation → Prop
  | .sending _ copies => copies ≤ finAckNum
  | _ => True

theorem ReceiveDataLocation.CopiesBounded.stepsLeft_le {location : ReceiveDataLocation}
    (h : location.CopiesBounded) : location.stepsLeft ≤ finAckNum + 5 := by
  cases location with
  | sending ackPacket copies => exact Nat.add_le_add h (by decide)
  | _ => simp [stepsLeft]

/-- Moving one of several threads to a place of smaller rank lowers the sum. -/
theorem sum_update_add_one_le {n : ℕ} {α : Type} {f : Fin n → α} {rank : α → ℕ} {i : Fin n}
    {x : α} (h : rank x < rank (f i)) :
    ∑ j, rank (Function.update f i x j) + 1 ≤ ∑ j, rank (f j) := by
  have hle : ∀ j, rank (Function.update f i x j) ≤ rank (f j) := by
    intro j
    rw [Function.update_apply]
    split_ifs with hj
    · rw [hj]
      exact h.le
    · exact le_rfl
  have hlt : rank (Function.update f i x i) < rank (f i) := by
    rw [Function.update_self]
    exact h
  exact Nat.succ_le_of_lt
    (Finset.sum_lt_sum (fun j _ => hle j) ⟨i, Finset.mem_univ i, hlt⟩)

namespace Programs

/-- The steps of the sender's program. -/
def Action.ofSender : Action → Bool
  | .sendData _ _ | .spuriousWakeup | .receiveAck _ | .deliverAck _ _ | .checkTimeout _ _ => true
  | _ => false

/-- The steps of the receiver's program. -/
def Action.ofReceiver : Action → Bool
  | .receiveData _ | .deliverData _ _ | .deliverHandshake _ _ => true
  | _ => false

def senderStepsLeft (p : Programs) : ℕ :=
  ∑ i, (p.receiveAck i).stepsLeft + p.checkTimeout.stepsLeft

def receiverStepsLeft (p : Programs) : ℕ := ∑ i, (p.receiveData i).stepsLeft

/-! ## The sender's program -/

/-- Nobody clears `done`. -/
theorem step_done (hstep : t.programs.step a p = some p') (hdone : p.done = true) :
    p'.done = true := by
  by_cases hother : ∀ now freed, a ≠ .sendData now freed
  · rw [(step_sendData hstep hother).1]
    exact hdone
  · push Not at hother
    obtain ⟨now, freed, rfl⟩ := hother
    rcases sendDataStep_conclusion hstep with ⟨-, rfl⟩ | ⟨-, hsame, -⟩
    · rfl
    · rw [hsame]
      exact hdone

/-- Where a step takes a `receiveAck` thread: to its exit only once `done` is set, and
then it comes closer to it. -/
theorem receiveAckStep_location {i : Fin receiveAckThreadNum}
    (hstep : p.receiveAckStep t i = some p') :
    ∃ location, p'.receiveAck = Function.update p.receiveAck i location ∧
      (location = .exited → p.done = true) ∧
      (p.done = true → location.stepsLeft < (p.receiveAck i).stepsLeft) ∧
      p'.checkTimeout = p.checkTimeout := by
  simp only [receiveAckStep] at hstep
  cases hlocation : p.receiveAck i with
  | loopTest =>
    simp only [hlocation, Option.some.injEq] at hstep
    subst hstep
    refine ⟨_, rfl, ?_, fun hdone => ?_, rfl⟩
    · split_ifs <;> simp_all
    · rw [if_pos hdone]
      decide
  | receive =>
    simp only [hlocation, Option.some.injEq] at hstep
    subst hstep
    exact ⟨.loopTest, rfl, by simp, fun _ => by decide, rfl⟩
  | received ackPacket =>
    simp only [hlocation] at hstep
    obtain ⟨sys, -, heq⟩ := Option.bind_eq_some_iff.mp hstep
    cases heq
    exact ⟨.testHasData, rfl, by simp, fun _ => by simp [ReceiveAckLocation.stepsLeft], rfl⟩
  | testHasData =>
    simp only [hlocation, Option.some.injEq] at hstep
    subst hstep
    refine ⟨_, rfl, ?_, fun _ => ?_, rfl⟩
    · split_ifs <;> simp
    · split_ifs <;> decide
  | testFinished =>
    simp only [hlocation, Option.some.injEq] at hstep
    subst hstep
    refine ⟨_, rfl, ?_, fun _ => ?_, rfl⟩
    · split_ifs <;> simp
    · split_ifs <;> decide
  | notify =>
    simp only [hlocation, Option.some.injEq] at hstep
    subst hstep
    obtain ⟨location, heq, -⟩ := notifyAll_eq p
    rw [heq]
    exact ⟨.loopTest, rfl, by simp, fun _ => by decide, rfl⟩
  | exited => simp [hlocation] at hstep

/-- Where a step takes the `checkTimeout` thread. -/
theorem checkTimeoutStep_location (hstep : p.checkTimeoutStep t timeoutThresholdUs now = some p') :
    (p'.checkTimeout = .exited → p.done = true) ∧
      (p.done = true → p'.checkTimeout.stepsLeft < p.checkTimeout.stepsLeft) ∧
      p'.receiveAck = p.receiveAck := by
  simp only [checkTimeoutStep] at hstep
  cases hlocation : p.checkTimeout with
  | loopTest =>
    simp only [hlocation, Option.some.injEq] at hstep
    subst hstep
    refine ⟨?_, fun hdone => ?_, rfl⟩
    · dsimp only
      split_ifs <;> simp_all
    · dsimp only
      rw [if_pos hdone]
      decide
  | sweep =>
    simp only [hlocation] at hstep
    obtain ⟨sys, -, heq⟩ := Option.bind_eq_some_iff.mp hstep
    cases heq
    exact ⟨by simp, fun _ => by simp [CheckTimeoutLocation.stepsLeft], rfl⟩
  | testHasData =>
    simp only [hlocation, Option.some.injEq] at hstep
    subst hstep
    refine ⟨?_, fun _ => ?_, rfl⟩ <;> dsimp only <;> split_ifs <;>
      simp [CheckTimeoutLocation.stepsLeft]
  | notify =>
    simp only [hlocation, Option.some.injEq] at hstep
    subst hstep
    obtain ⟨location, heq, -⟩ := notifyAll_eq p
    rw [heq]
    exact ⟨by simp, fun _ => by simp [CheckTimeoutLocation.stepsLeft], rfl⟩
  | exited => simp [hlocation] at hstep

/-- Once `done` is set, every step of the sender's program is one of the steps left,
and no other step adds to them. -/
theorem step_senderStepsLeft (hends : p.Concludes) (hdone : p.done = true)
    (hstep : t.programs.step a p = some p') :
    p'.senderStepsLeft + (if a.ofSender then 1 else 0) ≤ p.senderStepsLeft := by
  have hexited := hends.exited.mpr hdone
  change Programs.step t a p = some p' at hstep
  cases a with
  | sendData now freed =>
    change p.sendDataStep now freed = some p' at hstep
    rw [sendDataStep, hexited] at hstep
    cases hstep
  | spuriousWakeup =>
    obtain ⟨hwaiting, -⟩ := spuriousWakeup_eq_some hstep
    rw [hexited] at hwaiting
    cases hwaiting
  | receiveAck i =>
    obtain ⟨location, hreceiveAck, -, hlower, hsame⟩ := receiveAckStep_location hstep
    have hsum := sum_update_add_one_le (hlower hdone)
    rw [← hreceiveAck] at hsum
    simp only [senderStepsLeft, hsame, Action.ofSender, if_true]
    omega
  | deliverAck i ackPacket =>
    obtain ⟨hreceive, -, location, rfl, hlocation⟩ := deliverAck_eq_some hstep
    have hlower : location.stepsLeft < (p.receiveAck i).stepsLeft := by
      rw [hreceive]
      rcases hlocation with ⟨-, rfl⟩ | ⟨-, rfl⟩ <;> simp [ReceiveAckLocation.stepsLeft]
    have hsum := sum_update_add_one_le hlower
    simp only [senderStepsLeft, setReceiveAck, Action.ofSender, if_true]
    omega
  | checkTimeout timeoutThresholdUs now =>
    obtain ⟨-, hlower, hsame⟩ := checkTimeoutStep_location hstep
    have hlower' := hlower hdone
    simp only [senderStepsLeft, hsame, Action.ofSender, if_true]
    omega
  | receiveData i =>
    rcases receiveDataStep_cases hstep with ⟨location, rfl, -⟩ | ⟨_, _, _, -, -, rfl⟩ |
      ⟨_, -, rfl⟩ | ⟨_, _, -, rfl⟩ <;> exact le_rfl
  | deliverData i dataPacket =>
    obtain ⟨-, -, rfl⟩ := deliverData_eq_some hstep
    exact le_rfl
  | deliverHandshake i sentTime =>
    obtain ⟨-, rfl⟩ := deliverHandshake_eq_some hstep
    exact le_rfl
  | network action =>
    obtain ⟨_, _, _, rfl, -⟩ := networkStep_frame hstep
    exact le_rfl

/-! ## The receiver's program -/

theorem receiveDataStep_stepsLeft {i : Fin receiveThreadNum}
    (hfinished : p.sys.receiver.finished = true) (hstep : p.receiveDataStep i = some p') :
    ∃ location, p'.receiveData = Function.update p.receiveData i location ∧
      location.stepsLeft < (p.receiveData i).stepsLeft := by
  simp only [receiveDataStep] at hstep
  cases hlocation : p.receiveData i with
  | loopTest =>
    simp only [hlocation, hfinished, if_true, Option.some.injEq] at hstep
    subst hstep
    exact ⟨.exited, rfl, by decide⟩
  | receive =>
    simp only [hlocation, Option.some.injEq] at hstep
    subst hstep
    exact ⟨.loopTest, rfl, by decide⟩
  | received dataPacket =>
    simp only [hlocation] at hstep
    obtain ⟨⟨ackPacket, sys⟩, -, heq⟩ := Option.bind_eq_some_iff.mp hstep
    cases heq
    exact ⟨.reply ackPacket, rfl, Nat.lt_succ_self _⟩
  | reply ackPacket =>
    simp only [hlocation, hfinished, if_true, Option.some.injEq] at hstep
    subst hstep
    exact ⟨.sending ackPacket finAckNum, rfl, Nat.lt_succ_self _⟩
  | sending ackPacket copies =>
    cases copies with
    | zero =>
      simp only [hlocation, Option.some.injEq] at hstep
      subst hstep
      exact ⟨.loopTest, rfl, Nat.lt_succ_self _⟩
    | succ copies =>
      simp only [hlocation, Option.some.injEq] at hstep
      subst hstep
      exact ⟨.sending ackPacket copies, rfl, Nat.lt_succ_self _⟩
  | exited => simp [hlocation] at hstep

/-- The steps of the sender's program and of the network leave the receiver's threads
where they are. -/
theorem step_receiveData (hstep : t.programs.step a p = some p')
    (hother : a.ofReceiver = false) : p'.receiveData = p.receiveData := by
  have hnotify : p.notifyAll.receiveData = p.receiveData := by
    obtain ⟨location, heq, -⟩ := notifyAll_eq p
    rw [heq]
  change Programs.step t a p = some p' at hstep
  cases a with
  | receiveData i => cases hother
  | deliverData i dataPacket => cases hother
  | deliverHandshake i sentTime => cases hother
  | sendData now freed =>
    rcases sendDataStep_cases hstep with ⟨_, _, rfl, -⟩ | ⟨_, _, -, rfl, -⟩ |
      ⟨_, _, _, -, -, -, rfl⟩ <;> rfl
  | spuriousWakeup =>
    obtain ⟨-, rfl⟩ := spuriousWakeup_eq_some hstep
    rfl
  | receiveAck i =>
    rcases receiveAckStep_cases hstep with ⟨location, rfl, -⟩ | ⟨_, _, -, -, rfl⟩ | ⟨-, rfl⟩
    · rfl
    · rfl
    · exact hnotify
  | deliverAck i ackPacket =>
    obtain ⟨-, -, location, rfl, -⟩ := deliverAck_eq_some hstep
    rfl
  | checkTimeout timeoutThresholdUs now =>
    rcases checkTimeoutStep_cases hstep with ⟨location, rfl⟩ | ⟨_, -, rfl⟩ | rfl
    · rfl
    · rfl
    · exact hnotify
  | network action =>
    obtain ⟨_, _, _, rfl, -⟩ := networkStep_frame hstep
    rfl

/-- Once the receiver is finished, every step of its program is one of the steps left,
and no other step adds to them. -/
theorem step_receiverStepsLeft (hfinished : p.sys.receiver.finished = true)
    (hstep : t.programs.step a p = some p') :
    p'.receiverStepsLeft + (if a.ofReceiver then 1 else 0) ≤ p.receiverStepsLeft := by
  by_cases hother : a.ofReceiver = false
  · rw [receiverStepsLeft, step_receiveData hstep hother, hother]
    exact le_rfl
  change Programs.step t a p = some p' at hstep
  cases a with
  | receiveData i =>
    obtain ⟨location, hreceiveData, hlower⟩ := receiveDataStep_stepsLeft hfinished hstep
    have hsum := sum_update_add_one_le hlower
    rw [← hreceiveData] at hsum
    exact hsum
  | deliverData i dataPacket =>
    obtain ⟨hreceive, -, rfl⟩ := deliverData_eq_some hstep
    refine sum_update_add_one_le ?_
    rw [hreceive]
    exact Nat.lt_succ_self _
  | deliverHandshake i sentTime =>
    obtain ⟨hreceive, rfl⟩ := deliverHandshake_eq_some hstep
    refine sum_update_add_one_le ?_
    rw [hreceive]
    change finAckNum + 3 < finAckNum + 5
    omega
  | _ => exact absurd rfl hother

/-- No thread ever has more than `FIN_ACK_NUM` copies to send. -/
theorem copiesBounded_of_reachable (hreach : t.programs.Reachable p) (i : Fin receiveThreadNum) :
    (p.receiveData i).CopiesBounded := by
  refine hreach.invariant (I := fun p => ∀ i, (p.receiveData i).CopiesBounded)
    (fun _ => trivial) ?_ i
  intro p a p' h hstep i
  by_cases hother : a.ofReceiver = false
  · rw [step_receiveData hstep hother]
    exact h i
  have hmove : ∀ {q : Programs} {j : Fin receiveThreadNum} {location : ReceiveDataLocation},
      q.receiveData = p.receiveData → location.CopiesBounded →
        ((q.setReceiveData j location).receiveData i).CopiesBounded := by
    intro q j location hsame hlocation
    rw [receiveData_setReceiveData]
    split_ifs
    · exact hlocation
    · rw [hsame]
      exact h i
  change Programs.step t a p = some p' at hstep
  cases a with
  | receiveData j =>
    rcases receiveDataStep_cases hstep with ⟨location, rfl, hidle, -⟩ |
      ⟨_, _, _, -, -, rfl⟩ | ⟨ackPacket, -, rfl⟩ | ⟨ackPacket, copies, hsending, rfl⟩
    · refine hmove rfl ?_
      rcases hidle with rfl | rfl | rfl <;> exact trivial
    · exact hmove rfl trivial
    · refine hmove rfl ?_
      change (if _ then _ else _) ≤ _
      split_ifs <;> decide
    · refine hmove rfl ?_
      have hbound := h j
      rw [hsending] at hbound
      exact (Nat.le_succ _).trans hbound
  | deliverData j dataPacket =>
    obtain ⟨-, -, rfl⟩ := deliverData_eq_some hstep
    exact hmove rfl trivial
  | deliverHandshake j sentTime =>
    obtain ⟨-, rfl⟩ := deliverHandshake_eq_some hstep
    exact hmove rfl trivial
  | _ => exact absurd rfl hother

end Programs

/-! ## Shutdown -/

/-- **The sender's program shuts down.** Once `done` is set its threads take at most 16
more steps, in every run, and as long as one of them has not exited it can take a
step. -/
theorem sender_shutdown {as : List Programs.Action} (ht : t.InRange)
    (hreach : t.programs.Reachable p) (hdone : p.done = true)
    (hrun : t.programs.run as p = some p') :
    as.countP (·.ofSender) ≤ 16 ∧
      ((∀ i, p'.receiveAck i = .exited) ∧ p'.checkTimeout = .exited ∨
        ∃ a, a.ofSender = true ∧ ∃ p'', t.programs.step a p' = some p'') := by
  have hstep : ∀ u a u', t.programs.Reachable u → u.done = true →
      t.programs.step a u = some u' → u'.done = true ∧
        u'.senderStepsLeft + (if a.ofSender then 1 else 0) ≤ u.senderStepsLeft := by
    intro u a u' hu hset hstep
    have hends := Programs.concludes_of_reachable ht hu
    exact ⟨Programs.step_done hstep hset, Programs.step_senderStepsLeft hends hset hstep⟩
  have hcount : as.countP (·.ofSender) + p'.senderStepsLeft ≤ p.senderStepsLeft :=
    hreach.countP_add_rank_le hstep hdone hrun
  have hinitial : p.senderStepsLeft ≤ 16 := by
    have hsum : ∑ i, (p.receiveAck i).stepsLeft ≤ 2 * 6 :=
      (Finset.sum_le_card_nsmul _ _ 6 fun i _ => (p.receiveAck i).stepsLeft_le).trans le_rfl
    have htimeout := p.checkTimeout.stepsLeft_le
    rw [Programs.senderStepsLeft]
    omega
  refine ⟨by omega, ?_⟩
  have hinv := Programs.inv_of_reachable ht (hreach.run hrun)
  by_cases hexited : (∀ i, p'.receiveAck i = .exited) ∧ p'.checkTimeout = .exited
  · exact .inl hexited
  · right
    rw [not_and_or] at hexited
    rcases hexited with hthreads | hthread
    · obtain ⟨i, hi⟩ := not_forall.mp hthreads
      exact ⟨.receiveAck i, rfl, hinv.exists_receiveAckStep ht i hi⟩
    · exact ⟨.checkTimeout 0 ⟨0, 0⟩, rfl, hinv.exists_checkTimeoutStep ht hthread _ _⟩

/-- The threads that exit after the transfer of one byte. -/
def Programs.exitRun : List Programs.Action :=
  [.receiveAck 0, .receiveAck 1, .checkTimeout 0 ⟨0, 0⟩]

theorem sender_shutdown_notifiedRun :
    ∃ p', Transfer.oneByte.programs.run Programs.exitRun
        (Transfer.oneByte.programs.endOf Programs.notifiedRun) = some p' ∧
      Programs.exitRun.countP (·.ofSender) ≤ 16 := by
  have hrun : (Transfer.oneByte.programs.run Programs.exitRun
      (Transfer.oneByte.programs.endOf Programs.notifiedRun)).isSome = true := by
    decide +kernel
  obtain ⟨p', hp⟩ := Option.isSome_iff_exists.mp hrun
  exact ⟨p', hp, (sender_shutdown Transfer.oneByte_inRange
    (Transfer.oneByte.programs.reachable_endOf _) (by decide +kernel) hp).1⟩

/-- **The receiver's program shuts down.** Once the receiver is finished its threads take
at most 18 more steps, in every run, and as long as one of them has not exited it can
take a step. -/
theorem receiver_shutdown {as : List Programs.Action} (ht : t.InRange)
    (hreach : t.programs.Reachable p) (hfinished : p.sys.receiver.finished = true)
    (hrun : t.programs.run as p = some p') :
    as.countP (·.ofReceiver) ≤ 18 ∧
      ((∀ i, p'.receiveData i = .exited) ∨
        ∃ a, a.ofReceiver = true ∧ ∃ p'', t.programs.step a p' = some p'') := by
  have hstep : ∀ u a u', t.programs.Reachable u → u.sys.receiver.finished = true →
      t.programs.step a u = some u' → u'.sys.receiver.finished = true ∧
        u'.receiverStepsLeft + (if a.ofReceiver then 1 else 0) ≤ u.receiverStepsLeft := by
    intro u a u' hu hset hstep
    have h := Programs.inv_of_reachable ht hu
    exact ⟨((h.change ht hstep).receiver_finished h.system ht hset).1,
      Programs.step_receiverStepsLeft hset hstep⟩
  have hcount : as.countP (·.ofReceiver) + p'.receiverStepsLeft ≤ p.receiverStepsLeft :=
    hreach.countP_add_rank_le hstep hfinished hrun
  have hinitial : p.receiverStepsLeft ≤ 18 :=
    (Finset.sum_le_card_nsmul _ _ (finAckNum + 5) fun i _ =>
      (Programs.copiesBounded_of_reachable hreach i).stepsLeft_le).trans le_rfl
  refine ⟨by omega, ?_⟩
  have hinv := Programs.inv_of_reachable ht (hreach.run hrun)
  by_cases hexited : ∀ i, p'.receiveData i = .exited
  · exact .inl hexited
  · obtain ⟨i, hi⟩ := not_forall.mp hexited
    exact .inr ⟨.receiveData i, rfl, hinv.exists_receiveDataStep i hi⟩

/-- The receiver of one byte has just taken its packet and runs to its end. -/
theorem receiver_shutdown_receiverRun :
    ∃ p', Transfer.oneByte.programs.run (Programs.receiverRun.drop 3)
        (Transfer.oneByte.programs.endOf
          (Programs.sendDataSteps 6 ++ Programs.receiverRun.take 3)) = some p' ∧
      (Programs.receiverRun.drop 3).countP (·.ofReceiver) ≤ 18 := by
  have hrun : (Transfer.oneByte.programs.run (Programs.receiverRun.drop 3)
      (Transfer.oneByte.programs.endOf
        (Programs.sendDataSteps 6 ++ Programs.receiverRun.take 3))).isSome = true := by
    decide +kernel
  obtain ⟨p', hp⟩ := Option.isSome_iff_exists.mp hrun
  exact ⟨p', hp, (receiver_shutdown Transfer.oneByte_inRange
    (Transfer.oneByte.programs.reachable_endOf _) (by decide +kernel) hp).1⟩

end ReliablePacket
