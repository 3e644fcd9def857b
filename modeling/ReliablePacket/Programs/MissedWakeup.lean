/-
# What a missed notification costs

A notification that comes before `sendData` blocks wakes nobody. If the sender is finished
then, another notification may still come: a `receiveAck` thread may have an
acknowledgement to process, one may be in flight, or a receiver thread may send one more
copy of its reply. When none of these is left, `sendData` sleeps for good, and every other
thread of the sender goes round in its loop, unless `sendData` wakes up by itself.

This is the only way in which a transfer that can be completed does not end. From every
other state in which the sender can still be finished, ordinary steps end both programs.
-/
import ReliablePacket.Programs.Ending
import ReliablePacket.Programs.Wakeup

set_option autoImplicit false

namespace ReliablePacket

open SlideWindowSender

variable {t : Transfer} {p p' : Programs} {a : Programs.Action} {now : Timeval}
variable {timeoutThresholdUs : UInt64} {freed : List UInt8}
variable {dataInFlight dataInFlight' : List (DataPacket (List UInt8))}

/-- The thread has an acknowledgement to process, or has processed one and not come to
`notify_all` yet. -/
def ReceiveAckLocation.WillNotify (location : ReceiveAckLocation) : Prop :=
  location.inHand.isSome = true ∨ location.NotifyPending

instance (location : ReceiveAckLocation) : Decidable location.WillNotify :=
  inferInstanceAs (Decidable (_ ∨ _))

/-- The thread can still acknowledge a data packet, although the receiver is finished. -/
def ReceiveDataLocation.CanAcknowledge (dataInFlight : List (DataPacket (List UInt8))) :
    ReceiveDataLocation → Prop
  | .receive => dataInFlight ≠ []
  | .received _ => True
  | .reply ackPacket => ackPacket.type = .regular
  | .sending ackPacket copies => ackPacket.type = .regular ∧ copies ≠ 0
  | _ => False

instance : ∀ location : ReceiveDataLocation, Decidable (location.CanAcknowledge dataInFlight)
  | .receive => inferInstanceAs (Decidable (_ ≠ _))
  | .received _ => inferInstanceAs (Decidable True)
  | .reply _ => inferInstanceAs (Decidable (_ = _))
  | .sending _ _ => inferInstanceAs (Decidable (_ ∧ _))
  | .loopTest => inferInstanceAs (Decidable False)
  | .exited => inferInstanceAs (Decidable False)

/-- Fewer packets in flight make fewer acknowledgements. -/
theorem ReceiveDataLocation.CanAcknowledge.mono {location : ReceiveDataLocation}
    (hsubset : dataInFlight' ⊆ dataInFlight) (h : location.CanAcknowledge dataInFlight') :
    location.CanAcknowledge dataInFlight := by
  cases location with
  | receive =>
    intro hnil
    rw [hnil] at hsubset
    exact h (List.subset_nil.mp hsubset)
  | _ => exact h

namespace Programs

/-- The sender is finished, `sendData` blocks or is about to, and no thread and no
datagram is left that leads to a notification. -/
structure AsleepForGood (p : Programs) : Prop where
  sender : p.sys.sender.finished = true
  blocks : p.sendData.Blocks
  receiveAck : ∀ i, ¬ (p.receiveAck i).WillNotify
  checkTimeout : p.checkTimeout ≠ .notify
  acksInFlight : ∀ ackPacket ∈ p.acksInFlight, ackPacket.type ≠ .regular
  receiveData : ∀ i, ¬ (p.receiveData i).CanAcknowledge p.dataInFlight

/-! ## Nobody wakes it -/

namespace AsleepForGood

theorem setReceiveAck (h : p.AsleepForGood) (i : Fin receiveAckThreadNum)
    {location : ReceiveAckLocation} (hlocation : ¬ location.WillNotify) :
    (p.setReceiveAck i location).AsleepForGood :=
  { h with
    receiveAck := by
      intro j
      rw [receiveAck_setReceiveAck]
      split_ifs
      · exact hlocation
      · exact h.receiveAck j }

theorem setReceiveData (h : p.AsleepForGood) (i : Fin receiveThreadNum)
    {location : ReceiveDataLocation} (hlocation : ¬ location.CanAcknowledge p.dataInFlight) :
    (p.setReceiveData i location).AsleepForGood :=
  { h with
    receiveData := by
      intro j
      rw [receiveData_setReceiveData]
      split_ifs
      · exact hlocation
      · exact h.receiveData j }

/-- All that `sendData` can do is block. -/
theorem sendDataStep (h : p.AsleepForGood) (hstep : p.sendDataStep now freed = some p') :
    p'.AsleepForGood := by
  rcases h.blocks with hlocation | hlocation
  · simp only [Programs.sendDataStep, hlocation, Option.some.injEq] at hstep
    subst hstep
    exact { h with blocks := .inr rfl }
  · simp [Programs.sendDataStep, hlocation] at hstep

/-- A `receiveAck` thread goes round in its loop. -/
theorem receiveAckStep {i : Fin receiveAckThreadNum} (h : p.AsleepForGood)
    (hstep : p.receiveAckStep t i = some p') : p'.AsleepForGood := by
  have hi := h.receiveAck i
  simp only [Programs.receiveAckStep] at hstep
  cases hlocation : p.receiveAck i with
  | loopTest =>
    simp only [hlocation, Option.some.injEq] at hstep
    subst hstep
    apply h.setReceiveAck i
    split_ifs <;> decide
  | receive =>
    simp only [hlocation, Option.some.injEq] at hstep
    subst hstep
    exact h.setReceiveAck i (by decide)
  | received ackPacket =>
    rw [hlocation] at hi
    exact absurd (.inl rfl) hi
  | testHasData =>
    rw [hlocation] at hi
    exact absurd (.inr (.inl rfl)) hi
  | testFinished =>
    rw [hlocation] at hi
    exact absurd (.inr (.inr (.inl rfl))) hi
  | notify =>
    rw [hlocation] at hi
    exact absurd (.inr (.inr (.inr rfl))) hi
  | exited => simp [hlocation] at hstep

/-- `checkTimeout` finds no data to send in a finished sender, so it does not notify. -/
theorem checkTimeoutStep (h : p.AsleepForGood)
    (hstep : p.checkTimeoutStep t timeoutThresholdUs now = some p') : p'.AsleepForGood := by
  have hdata := hasDataToSend_of_finished h.sender
  simp only [Programs.checkTimeoutStep] at hstep
  cases hlocation : p.checkTimeout with
  | loopTest =>
    simp only [hlocation, Option.some.injEq] at hstep
    subst hstep
    refine { h with checkTimeout := ?_ }
    dsimp only
    split_ifs <;> decide
  | sweep =>
    simp only [hlocation] at hstep
    obtain ⟨sys, hsys, heq⟩ := Option.bind_eq_some_iff.mp hstep
    cases heq
    exact { h with
      sender := (finished_checkTimeout hsys).trans h.sender
      checkTimeout := by simp }
  | testHasData =>
    simp only [hlocation, hdata, Option.some.injEq] at hstep
    subst hstep
    exact { h with checkTimeout := by simp }
  | notify => exact absurd hlocation h.checkTimeout
  | exited => simp [hlocation] at hstep

/-- A receiver thread sends no acknowledgement of a data packet any more. -/
theorem receiveDataStep {i : Fin receiveThreadNum} (h : p.AsleepForGood) (hinv : p.Inv t)
    (ht : t.InRange) (hstep : p.receiveDataStep i = some p') : p'.AsleepForGood := by
  have hi := h.receiveData i
  have hreceiver := (hinv.system.receiver_finished ht h.sender).1
  simp only [Programs.receiveDataStep] at hstep
  cases hlocation : p.receiveData i with
  | loopTest =>
    -- the receiver of a finished sender is finished, so the thread exits
    simp only [hlocation, hreceiver, if_true, Option.some.injEq] at hstep
    subst hstep
    exact h.setReceiveData i id
  | receive =>
    simp only [hlocation, Option.some.injEq] at hstep
    subst hstep
    exact h.setReceiveData i id
  | received dataPacket =>
    rw [hlocation] at hi
    exact absurd trivial hi
  | reply ackPacket =>
    simp only [hlocation, Option.some.injEq] at hstep hi
    subst hstep
    exact h.setReceiveData i fun hcan => hi hcan.1
  | sending ackPacket copies =>
    cases copies with
    | zero =>
      simp only [hlocation, Option.some.injEq] at hstep
      subst hstep
      exact h.setReceiveData i id
    | succ copies =>
      simp only [hlocation, Option.some.injEq] at hstep hi
      subst hstep
      -- only the reply to a handshake can still be on its way out
      have hother : ackPacket.type ≠ .regular := fun hregular =>
        hi ⟨hregular, Nat.succ_ne_zero _⟩
      have hsent : { p with acksInFlight := ackPacket :: p.acksInFlight }.AsleepForGood :=
        { h with acksInFlight := List.forall_mem_cons.mpr ⟨hother, h.acksInFlight⟩ }
      exact hsent.setReceiveData i fun hcan => hother hcan.1
  | exited => simp [hlocation] at hstep

/-- **Only a spurious wakeup changes that.** -/
theorem step (h : p.AsleepForGood) (hinv : p.Inv t) (ht : t.InRange)
    (ha : a ≠ .spuriousWakeup) (hstep : t.programs.step a p = some p') : p'.AsleepForGood := by
  change Programs.step t a p = some p' at hstep
  cases a with
  | sendData now freed => exact h.sendDataStep hstep
  | spuriousWakeup => exact absurd rfl ha
  | receiveAck i => exact h.receiveAckStep hstep
  | deliverAck i ackPacket =>
    obtain ⟨-, hmem, location, rfl, hlocation⟩ := deliverAck_eq_some hstep
    have hread : { p with
        acksInFlight := p.acksInFlight.erase ackPacket
        acksTaken := ackPacket :: p.acksTaken }.AsleepForGood :=
      { h with
        acksInFlight := fun other hother => h.acksInFlight other (List.mem_of_mem_erase hother) }
    -- the reply to a handshake is read and dropped
    rcases hlocation with ⟨hregular, -⟩ | ⟨-, rfl⟩
    · exact absurd hregular (h.acksInFlight ackPacket hmem)
    · exact hread.setReceiveAck i (by decide)
  | checkTimeout timeoutThresholdUs now => exact h.checkTimeoutStep hstep
  | receiveData i => exact h.receiveDataStep hinv ht hstep
  | deliverData i dataPacket =>
    -- a thread in `recvfrom` means that no data packet is in flight
    obtain ⟨hreceive, hmem, -⟩ := deliverData_eq_some hstep
    have hi := h.receiveData i
    rw [hreceive] at hi
    exact absurd (List.ne_nil_of_mem hmem) hi
  | deliverHandshake i sentTime =>
    obtain ⟨-, rfl⟩ := deliverHandshake_eq_some hstep
    exact h.setReceiveData i (by simp [ReceiveDataLocation.CanAcknowledge])
  | network action =>
    -- a duplicate is a copy of what is in flight already
    obtain ⟨_, _, _, rfl, hdata, hacks, -⟩ := networkStep_frame hstep
    exact { h with
      acksInFlight := fun ackPacket hmem => h.acksInFlight ackPacket (hacks hmem)
      receiveData := fun i hcan => h.receiveData i (hcan.mono hdata) }

/-- Without a spurious wakeup the programs do not end. -/
theorem not_canReach_ended (h : p.AsleepForGood) (ht : t.InRange)
    (hreach : t.programs.Reachable p) :
    ¬ t.programs.CanReach (· ≠ .spuriousWakeup) p (Ended t) := by
  intro hcan
  obtain ⟨_, q, -, -, hended, hasleep⟩ := hcan.and_invariant (I := AsleepForGood)
    (fun _ _ _ hu hasleep ha hstep => hasleep.step (inv_of_reachable ht hu) ht ha hstep) hreach h
  -- at the end `sendData` has returned, but it blocks along the whole run
  have hblocks := hasleep.blocks
  rw [hended.sendData] at hblocks
  rcases hblocks with hblocks | hblocks <;> cases hblocks

end AsleepForGood

/-! ## Somebody wakes it -/

/-- A finished sender stays finished along a run. -/
theorem canReach_stillFinished {permitted : Action → Prop} {goal : Programs → Prop}
    (ht : t.InRange) (hreach : t.programs.Reachable p) (hsender : p.sys.sender.finished = true)
    (h : t.programs.CanReach permitted p goal) :
    t.programs.CanReach permitted p fun q => goal q ∧ q.sys.sender.finished = true := by
  refine h.and_invariant (fun u a u' hu hfinished _ hstep => ?_) hreach hsender
  have hinv := inv_of_reachable ht hu
  exact (hinv.change ht hstep).sender_finished hinv.system (hinv.step ht hstep).system hfinished

/-- A `sendData` that is about to block blocks. -/
theorem canReach_waiting_or_awake (hsender : p.sys.sender.finished = true) :
    t.programs.CanReach Action.Cooperates p fun q =>
      (q.sendData = .waiting ∨ ¬ q.sendData.Blocks) ∧ q.receiveAck = p.receiveAck ∧
        q.sys.sender.finished = true := by
  by_cases hblocks : p.sendData.Blocks
  · rcases hblocks with hlocation | hlocation
    · exact .step (step_block ⟨0, 0⟩ hlocation) trivial (.here ⟨.inl rfl, rfl, hsender⟩)
    · exact .here ⟨.inl hlocation, rfl, hsender⟩
  · exact .here ⟨.inr hblocks, rfl, hsender⟩

/-- `notify_all` wakes a blocked `sendData`. -/
theorem not_blocks_notifyAll_of_waiting (h : p.sendData = .waiting ∨ ¬ p.sendData.Blocks) :
    ¬ p.notifyAll.sendData.Blocks := by
  refine WillBeNotified.not_blocks_notifyAll fun habout => ?_
  rcases h with hwaiting | hawake
  · rw [hwaiting] at habout
    cases habout
  · exact hawake (.inl habout)

/-- A `receiveAck` thread with a notification pending makes it. -/
theorem canReach_awake_of_notifyPending (hreach : t.programs.Reachable p)
    (hsender : p.sys.sender.finished = true) {i : Fin receiveAckThreadNum}
    (hpending : (p.receiveAck i).NotifyPending) :
    t.programs.CanReach Action.Cooperates p fun q => ¬ q.sendData.Blocks := by
  have hnotify : ∀ p : Programs, p.sendData = .waiting ∨ ¬ p.sendData.Blocks →
      p.receiveAck i = .notify →
      t.programs.CanReach Action.Cooperates p fun q => ¬ q.sendData.Blocks := by
    intro p hwakeable hlocation
    have hstep : t.programs.step (.receiveAck i) p =
        some (p.notifyAll.setReceiveAck i .loopTest) := by
      simp [Transfer.programs, Programs.step, receiveAckStep, hlocation]
    exact .step hstep trivial (.here (not_blocks_notifyAll_of_waiting hwakeable))
  have htest : ∀ p : Programs, p.sendData = .waiting ∨ ¬ p.sendData.Blocks →
      p.sys.sender.finished = true → p.receiveAck i = .testFinished →
      t.programs.CanReach Action.Cooperates p fun q => ¬ q.sendData.Blocks := by
    intro p hwakeable hsender hlocation
    have hstep : t.programs.step (.receiveAck i) p = some (p.setReceiveAck i .notify) := by
      simp [Transfer.programs, Programs.step, receiveAckStep, hlocation, hsender]
    exact .step hstep trivial (hnotify _ hwakeable (by simp))
  -- the notification must not come before `sendData` blocks
  refine (canReach_waiting_or_awake hsender).trans hreach ?_
  rintro q - ⟨hwakeable, hsame, hfinished⟩
  rw [← hsame] at hpending
  rcases hpending with hlocation | hlocation | hlocation
  · have hdata := hasDataToSend_of_finished hfinished
    have hstep : t.programs.step (.receiveAck i) q = some (q.setReceiveAck i .testFinished) := by
      simp [Transfer.programs, Programs.step, receiveAckStep, hlocation, hdata]
    exact .step hstep trivial (htest _ hwakeable hfinished (by simp))
  · exact htest q hwakeable hfinished hlocation
  · exact hnotify q hwakeable hlocation

/-- The processing of an acknowledgement leads to a notification. -/
theorem canReach_awake_of_processed (ht : t.InRange) (hreach : t.programs.Reachable p)
    (hsender : p.sys.sender.finished = true) {i : Fin receiveAckThreadNum}
    (hprocessed : t.programs.CanReach Action.Cooperates p fun q =>
      q.receiveAck i = .testHasData) :
    t.programs.CanReach Action.Cooperates p fun q => ¬ q.sendData.Blocks := by
  refine (canReach_stillFinished ht hreach hsender hprocessed).trans hreach ?_
  rintro q hq ⟨hlocation, hfinished⟩
  exact canReach_awake_of_notifyPending hq hfinished (.inl hlocation)

/-- An acknowledgement that a thread has read is processed. -/
theorem canReach_awake_of_received (ht : t.InRange) (hreach : t.programs.Reachable p)
    (hsender : p.sys.sender.finished = true) {i : Fin receiveAckThreadNum}
    {ackPacket : AckPacket} (hreceived : p.receiveAck i = .received ackPacket) :
    t.programs.CanReach Action.Cooperates p fun q => ¬ q.sendData.Blocks := by
  have hstep := step_receiveAck_received ht (inv_of_reachable ht hreach) hreceived
  apply canReach_awake_of_processed (i := i) ht hreach hsender
  exact .step hstep trivial (.here (by simp))

/-- An acknowledgement in flight arrives and is processed. -/
theorem canReach_awake_of_ackInFlight (ht : t.InRange) (hreach : t.programs.Reachable p)
    (hsender : p.sys.sender.finished = true) {ackPacket : AckPacket}
    (hmem : ackPacket ∈ p.acksInFlight) (hregular : ackPacket.type = .regular) :
    t.programs.CanReach Action.Cooperates p fun q => ¬ q.sendData.Blocks := by
  by_cases hblocks : p.sendData.Blocks
  swap
  · exact .here hblocks
  -- `done` is not set while `sendData` blocks, so the thread comes back to `recvfrom`
  have hdone : p.done = false := by
    refine Bool.eq_false_iff.mpr fun hdone => ?_
    rw [(concludes_of_reachable ht hreach).exited.mpr hdone] at hblocks
    rcases hblocks with hblocks | hblocks <;> cases hblocks
  apply canReach_awake_of_processed (i := 0) ht hreach hsender
  refine (canReach_receiveAck ht hreach 0 hdone).trans hreach ?_
  rintro q hq ⟨hreceive, hround⟩
  rw [← hround.acksInFlight] at hmem
  exact (canReach_processed trivial trivial ht hq hreceive hmem hregular).imp
    fun _ hprocessed => hprocessed.2.2.1

/-- A receiver thread that has to send an acknowledgement sends it. -/
theorem canReach_awake_of_sending (ht : t.InRange) (hreach : t.programs.Reachable p)
    (hsender : p.sys.sender.finished = true) {i : Fin receiveThreadNum}
    {ackPacket : AckPacket} {copies : ℕ}
    (hsending : p.receiveData i = .sending ackPacket (copies + 1))
    (hregular : ackPacket.type = .regular) :
    t.programs.CanReach Action.Cooperates p fun q => ¬ q.sendData.Blocks := by
  have hstep := step_sending (t := t) hsending
  exact .step hstep trivial
    (canReach_awake_of_ackInFlight ht (hreach.step hstep) hsender List.mem_cons_self hregular)

theorem canReach_awake_of_reply (ht : t.InRange) (hreach : t.programs.Reachable p)
    (hsender : p.sys.sender.finished = true) {i : Fin receiveThreadNum} {ackPacket : AckPacket}
    (hreply : p.receiveData i = .reply ackPacket) (hregular : ackPacket.type = .regular) :
    t.programs.CanReach Action.Cooperates p fun q => ¬ q.sendData.Blocks := by
  obtain ⟨copies, hstep⟩ := exists_step_reply (t := t) hreply
  have hsending : (p.setReceiveData i (.sending ackPacket (copies + 1))).receiveData i =
      .sending ackPacket (copies + 1) := by
    simp
  exact .step hstep trivial
    (canReach_awake_of_sending ht (hreach.step hstep) hsender hsending hregular)

/-- A packet that a receiver thread has read is answered. -/
theorem canReach_awake_of_dataReceived (ht : t.InRange) (hreach : t.programs.Reachable p)
    (hsender : p.sys.sender.finished = true) {i : Fin receiveThreadNum}
    {dataPacket : DataPacket (List UInt8)} (hreceived : p.receiveData i = .received dataPacket) :
    t.programs.CanReach Action.Cooperates p fun q => ¬ q.sendData.Blocks := by
  obtain ⟨ackPacket, q, hstep, hreply, hregular, hsame, -⟩ :=
    exists_receiveDataStep_received ht (inv_of_reachable ht hreach) hreceived
  exact .step hstep trivial
    (canReach_awake_of_reply ht (hreach.step hstep) (hsame ▸ hsender) hreply hregular)

/-- A receiver thread that can acknowledge does so. -/
theorem canReach_awake_of_canAcknowledge (ht : t.InRange) (hreach : t.programs.Reachable p)
    (hsender : p.sys.sender.finished = true) {i : Fin receiveThreadNum}
    (hcan : (p.receiveData i).CanAcknowledge p.dataInFlight) :
    t.programs.CanReach Action.Cooperates p fun q => ¬ q.sendData.Blocks := by
  cases hlocation : p.receiveData i with
  | receive =>
    rw [hlocation] at hcan
    obtain ⟨dataPacket, hmem⟩ := List.exists_mem_of_ne_nil _ hcan
    have hstep := step_deliverData (t := t) hlocation hmem
    have hreceived : ({ p with dataInFlight := p.dataInFlight.erase dataPacket }.setReceiveData i
        (.received dataPacket)).receiveData i = .received dataPacket := by
      simp
    exact .step hstep trivial
      (canReach_awake_of_dataReceived ht (hreach.step hstep) hsender hreceived)
  | received dataPacket => exact canReach_awake_of_dataReceived ht hreach hsender hlocation
  | reply ackPacket =>
    rw [hlocation] at hcan
    exact canReach_awake_of_reply ht hreach hsender hlocation hcan
  | sending ackPacket copies =>
    rw [hlocation] at hcan
    obtain ⟨hregular, hcopies⟩ := hcan
    obtain ⟨copies, rfl⟩ := Nat.exists_eq_succ_of_ne_zero hcopies
    exact canReach_awake_of_sending ht hreach hsender hlocation hregular
  | loopTest =>
    rw [hlocation] at hcan
    exact hcan.elim
  | exited =>
    rw [hlocation] at hcan
    exact hcan.elim

/-- `checkTimeout` makes the notification that it is about to make. -/
theorem canReach_awake_of_checkTimeout (hblocks : p.sendData.Blocks)
    (hnotify : p.checkTimeout = .notify) :
    t.programs.CanReach Action.Cooperates p fun q => ¬ q.sendData.Blocks := by
  have hwaits : ∀ p : Programs, p.sendData = .waiting → p.checkTimeout = .notify →
      t.programs.CanReach Action.Cooperates p fun q => ¬ q.sendData.Blocks := by
    intro p hwaiting hnotify
    have hstep : t.programs.step (.checkTimeout 0 ⟨0, 0⟩) p =
        some { p.notifyAll with checkTimeout := .loopTest } := by
      simp [Transfer.programs, Programs.step, checkTimeoutStep, hnotify]
    exact .step hstep trivial (.here (not_blocks_notifyAll_of_waiting (.inl hwaiting)))
  rcases hblocks with hlocation | hlocation
  · exact .step (step_block ⟨0, 0⟩ hlocation) trivial (hwaits _ rfl hnotify)
  · exact hwaits p hlocation hnotify

/-- **Whoever does not sleep for good can be woken.** -/
theorem canReach_awake (ht : t.InRange) (hreach : t.programs.Reachable p)
    (hsender : p.sys.sender.finished = true) (hnot : ¬ p.AsleepForGood) :
    t.programs.CanReach Action.Cooperates p fun q => ¬ q.sendData.Blocks := by
  by_contra hno
  -- whatever could notify would wake it, so each of them is missing
  have hblocks : p.sendData.Blocks := by
    by_contra hawake
    exact hno (.here hawake)
  refine hnot
    { sender := hsender
      blocks := hblocks
      receiveAck := fun i hi => hno ?_
      checkTimeout := fun hnotify => hno (canReach_awake_of_checkTimeout hblocks hnotify)
      acksInFlight := fun ackPacket hmem hregular =>
        hno (canReach_awake_of_ackInFlight ht hreach hsender hmem hregular)
      receiveData := fun i hcan =>
        hno (canReach_awake_of_canAcknowledge ht hreach hsender hcan) }
  rcases hi with hinHand | hpending
  · cases hlocation : p.receiveAck i with
    | received ackPacket => exact canReach_awake_of_received ht hreach hsender hlocation
    | _ =>
      rw [hlocation] at hinHand
      cases hinHand
  · exact canReach_awake_of_notifyPending hreach hsender hpending

/-- A transfer that can be completed can be completed with `sendData` awake. -/
theorem Completable.canReach_awake (h : p.Completable t) (ht : t.InRange) (hlong : t.LongEnough)
    (hreach : t.programs.Reachable p) (hnot : ¬ p.AsleepForGood) :
    t.programs.CanReach Action.Cooperates p fun q =>
      ¬ q.sendData.Blocks ∧ q.sys.sender.finished = true := by
  by_cases hsender : p.sys.sender.finished = true
  · exact canReach_stillFinished ht hreach hsender
      (Programs.canReach_awake ht hreach hsender hnot)
  -- the step that finishes the sender leaves a notification pending
  refine ((h.canReach_finished ht hlong hreach).first_entry hsender hreach).trans hreach ?_
  rintro q hq ⟨hfinished, u, a, -, hunfinished, hstep⟩
  have hwill : q.WillBeNotified :=
    WillBeNotified.step (fun hdone => absurd hdone hunfinished)
      (fun _ _ _ hdone => absurd hdone hunfinished) hstep
  apply canReach_stillFinished ht hq hfinished
  by_cases hblocks : q.sendData.Blocks
  · obtain ⟨i, hpending⟩ := hwill hfinished hblocks
    exact canReach_awake_of_notifyPending hq hfinished hpending
  · exact .here hblocks

/-- Programs that can end have a sender that can be finished. -/
theorem completable_of_canReach_ended {permitted : Action → Prop} (ht : t.InRange)
    (hlong : t.LongEnough) (hreach : t.programs.Reachable p)
    (h : t.programs.CanReach permitted p (Ended t)) : p.Completable t := by
  obtain ⟨as, q, -, hrun, hended⟩ := h
  by_contra hnot
  -- `done` is set after the sender is finished, which a doomed one never is
  have hfinished := (concludes_of_reachable ht (hreach.run hrun)).done hended.done
  rw [((doomed_of_not_completable hnot).run ht hlong hreach hrun).sender] at hfinished
  cases hfinished

/-- A spurious wakeup is enough to wake `sendData`. -/
theorem AsleepForGood.canReach_awake (h : p.AsleepForGood) :
    t.programs.CanReach (fun _ => True) p fun q =>
      ¬ q.sendData.Blocks ∧ q.sys.sender.finished = true := by
  have hwakes : ∀ p : Programs, p.sys.sender.finished = true → p.sendData = .waiting →
      t.programs.CanReach (fun _ => True) p fun q =>
        ¬ q.sendData.Blocks ∧ q.sys.sender.finished = true := by
    intro p hsender hlocation
    have hstep : t.programs.step .spuriousWakeup p =
        some { p with sendData := .predicateHasData } := by
      simp [Transfer.programs, Programs.step, hlocation]
    exact .step hstep trivial (.here ⟨by simp [SendDataLocation.Blocks], hsender⟩)
  rcases h.blocks with hlocation | hlocation
  · exact .step (step_block ⟨0, 0⟩ hlocation) trivial (hwakes _ h.sender rfl)
  · exact hwakes p h.sender hlocation

end Programs

/-- **Exactly these transfers can end.** Both programs can still end, with the file
complete, if and only if the sender can still be finished and `sendData` does not sleep
for good. Ordinary steps are enough then, and losses and duplicates end no other
transfer. One that sleeps for good ends only if `sendData` wakes up by itself. -/
theorem programs_end_iff (hpos : 1 ≤ t.bytesToSend.toNat) (hsize : t.bytesToSend.toNat ≤ 2 ^ 32)
    (hlong : t.LongEnough) (hreach : t.programs.Reachable p) :
    (t.programs.CanReach Programs.Action.Cooperates p (Programs.Ended t) ↔
        p.Completable t ∧ ¬ p.AsleepForGood) ∧
      (t.programs.CanReach (· ≠ .spuriousWakeup) p (Programs.Ended t) ↔
        p.Completable t ∧ ¬ p.AsleepForGood) ∧
      (t.programs.CanReach (fun _ => True) p (Programs.Ended t) ↔ p.Completable t) := by
  have ht := Transfer.inRange_of_le hpos hsize
  have hends : p.Completable t → ¬ p.AsleepForGood →
      t.programs.CanReach Programs.Action.Cooperates p (Programs.Ended t) := by
    intro h hnot
    refine (h.canReach_awake ht hlong hreach hnot).trans hreach ?_
    rintro q hq ⟨hawake, hfinished⟩
    exact Programs.canReach_ended_of_awake ht hsize hlong hq hfinished hawake
  have hordinary : ∀ a : Programs.Action, a.Cooperates → a ≠ .spuriousWakeup := by
    rintro a ha rfl
    exact ha
  have honly : t.programs.CanReach (· ≠ .spuriousWakeup) p (Programs.Ended t) →
      p.Completable t ∧ ¬ p.AsleepForGood := fun hcan =>
    ⟨Programs.completable_of_canReach_ended ht hlong hreach hcan,
      fun hasleep => hasleep.not_canReach_ended ht hreach hcan⟩
  refine ⟨⟨fun hcan => honly (hcan.mono hordinary), fun h => hends h.1 h.2⟩,
    ⟨honly, fun h => (hends h.1 h.2).mono hordinary⟩,
    Programs.completable_of_canReach_ended ht hlong hreach, fun h => ?_⟩
  by_cases hasleep : p.AsleepForGood
  · refine hasleep.canReach_awake.trans hreach ?_
    rintro q hq ⟨hawake, hfinished⟩
    exact (Programs.canReach_ended_of_awake ht hsize hlong hq hfinished hawake).mono
      fun _ _ => trivial
  · exact (hends h hasleep).mono fun _ _ => trivial

/-- A `sendData` that missed its notification sleeps for good; it can wake up by itself,
and then both programs end. -/
theorem programs_end_iff_missedNotificationRun :
    ¬ Transfer.oneByte.programs.CanReach (· ≠ .spuriousWakeup)
        (Transfer.oneByte.programs.endOf Programs.missedNotificationRun)
        (Programs.Ended Transfer.oneByte) ∧
      Transfer.oneByte.programs.CanReach (fun _ => True)
        (Transfer.oneByte.programs.endOf Programs.missedNotificationRun)
        (Programs.Ended Transfer.oneByte) := by
  have hreach := Transfer.oneByte.programs.reachable_endOf Programs.missedNotificationRun
  obtain ⟨-, hwithout, hwith⟩ :=
    programs_end_iff (t := Transfer.oneByte) (by decide) (by decide) (le_refl 1) hreach
  refine ⟨fun hcan => (hwithout.mp hcan).2 ?_, hwith.mpr (.inl (by decide +kernel))⟩
  exact
    { sender := by decide +kernel
      blocks := .inr (by decide +kernel)
      receiveAck := by decide +kernel
      checkTimeout := by decide +kernel
      acksInFlight := by decide +kernel
      receiveData := by decide +kernel }

end ReliablePacket
