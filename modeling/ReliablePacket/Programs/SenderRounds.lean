/-
# One round of the sender

The sender can always send its head again, without any help from the network or the
receiver: a sweep finds the head too old, `sendData` is woken and prepares it, and the
packet goes out. No notification is needed that nobody makes, since `checkTimeout`
notifies when there is data to send.
-/
import ReliablePacket.Programs.Shutdown
import ReliablePacket.Programs.Teardown
import ReliablePacket.System.Progress

set_option autoImplicit false

namespace ReliablePacket

open SlideWindowSender

variable {t : Transfer} {p p' q : Programs} {a : Programs.Action} {now : Timeval}

namespace Programs

/-- A step of a thread or the arrival of a datagram of the transfer. Losses,
duplicates, late handshakes and wake-ups without notification are excluded. -/
def Action.Cooperates : Action → Prop
  | .spuriousWakeup => False
  | .deliverHandshake _ _ => False
  | .network _ => False
  | _ => True

/-- A step of `sendData` in which the clock, if it is read, shows `now`. -/
def Action.MovesSendData (now : Timeval) : Action → Prop
  | .sendData reading _ => reading = now
  | _ => False

theorem Action.MovesSendData.cooperates (h : a.MovesSendData now) : a.Cooperates := by
  cases a with
  | sendData reading freed => trivial
  | _ => exact h.elim

/-! ## Exits -/

/-- A `receiveAck` or `checkTimeout` thread exits after `done` is set. -/
theorem step_exits (hstep : t.programs.step a p = some p') :
    (∀ i, p'.receiveAck i = .exited → p.receiveAck i = .exited ∨ p.done = true) ∧
      (p'.checkTimeout = .exited → p.checkTimeout = .exited ∨ p.done = true) := by
  change Programs.step t a p = some p' at hstep
  cases a with
  | sendData now freed =>
    rcases sendDataStep_cases hstep with ⟨_, _, rfl, -⟩ | ⟨_, _, -, rfl, -⟩ |
      ⟨_, _, _, -, -, -, rfl⟩ <;> exact ⟨fun _ => .inl, .inl⟩
  | spuriousWakeup =>
    obtain ⟨-, rfl⟩ := spuriousWakeup_eq_some hstep
    exact ⟨fun _ => .inl, .inl⟩
  | receiveAck i =>
    obtain ⟨location, hreceiveAck, hexited, -, hsame⟩ := receiveAckStep_location hstep
    refine ⟨fun j hj => ?_, fun hj => .inl (hsame ▸ hj)⟩
    rw [hreceiveAck, Function.update_apply] at hj
    split_ifs at hj
    · exact .inr (hexited hj)
    · exact .inl hj
  | deliverAck i ackPacket =>
    obtain ⟨-, -, location, rfl, hlocation⟩ := deliverAck_eq_some hstep
    refine ⟨fun j hj => ?_, .inl⟩
    rw [receiveAck_setReceiveAck] at hj
    split_ifs at hj
    · rcases hlocation with ⟨-, rfl⟩ | ⟨-, rfl⟩ <;> cases hj
    · exact .inl hj
  | checkTimeout timeoutThresholdUs now =>
    obtain ⟨hexited, -, hsame⟩ := checkTimeoutStep_location hstep
    exact ⟨fun j hj => .inl (hsame ▸ hj), fun hj => .inr (hexited hj)⟩
  | receiveData i =>
    rcases receiveDataStep_cases hstep with ⟨location, rfl, -⟩ | ⟨_, _, _, -, -, rfl⟩ |
      ⟨_, -, rfl⟩ | ⟨_, _, -, rfl⟩ <;> exact ⟨fun _ => .inl, .inl⟩
  | deliverData i dataPacket =>
    obtain ⟨-, -, rfl⟩ := deliverData_eq_some hstep
    exact ⟨fun _ => .inl, .inl⟩
  | deliverHandshake i sentTime =>
    obtain ⟨-, rfl⟩ := deliverHandshake_eq_some hstep
    exact ⟨fun _ => .inl, .inl⟩
  | network action =>
    obtain ⟨_, _, _, rfl, -⟩ := networkStep_frame hstep
    exact ⟨fun _ => .inl, .inl⟩

theorem done_of_exited (hreach : t.programs.Reachable p) :
    (∀ i, p.receiveAck i = .exited → p.done = true) ∧
      (p.checkTimeout = .exited → p.done = true) := by
  refine hreach.invariant (I := fun p : Programs =>
    (∀ i, p.receiveAck i = .exited → p.done = true) ∧ (p.checkTimeout = .exited → p.done = true))
    ⟨by simp [Transfer.programs, init], by simp [Transfer.programs, init]⟩ ?_
  rintro p a p' ⟨hacks, hcheck⟩ hstep
  obtain ⟨hacks', hcheck'⟩ := step_exits hstep
  exact ⟨fun i hi => step_done hstep ((hacks' i hi).elim (hacks i) id),
    fun hi => step_done hstep ((hcheck' hi).elim hcheck id)⟩

/-! ## Moves -/

/-- Between the two states no operation on a window has been made, `done` was not set
and only `sendData` and `checkTimeout` have moved. -/
structure Quiet (p q : Programs) : Prop where
  done : q.done = p.done
  sender : q.sys.sender = p.sys.sender
  receiver : q.sys.receiver = p.sys.receiver
  receiveData : q.receiveData = p.receiveData

theorem Quiet.refl (p : Programs) : p.Quiet p := ⟨rfl, rfl, rfl, rfl⟩

theorem Quiet.trans (h : p.Quiet p') (h' : p'.Quiet q) : p.Quiet q :=
  ⟨h'.done.trans h.done, h'.sender.trans h.sender, h'.receiver.trans h.receiver,
    h'.receiveData.trans h.receiveData⟩

/-- A notification is quiet. -/
theorem quiet_notifyAll (p : Programs) (location : CheckTimeoutLocation) :
    p.Quiet { p.notifyAll with checkTimeout := location } := by
  obtain ⟨location', heq, -⟩ := notifyAll_eq p
  rw [heq]
  exact ⟨rfl, rfl, rfl, rfl⟩

/-- What is quiet from the later state on is quiet from the earlier one on. -/
theorem Quiet.canReach {permitted : Action → Prop} {goal : Programs → Prop} (h : p.Quiet p')
    (hgoal : t.programs.CanReach permitted p' fun q => goal q ∧ p'.Quiet q) :
    t.programs.CanReach permitted p' fun q => goal q ∧ p.Quiet q :=
  hgoal.imp fun _ hq => ⟨hq.1, h.trans hq.2⟩

/-- A quiet step towards a goal. -/
theorem Quiet.step {permitted : Action → Prop} {goal : Programs → Prop}
    (hstep : t.programs.step a p = some p') (ha : permitted a) (h : p.Quiet p')
    (hgoal : t.programs.CanReach permitted p' fun q => goal q ∧ p'.Quiet q) :
    t.programs.CanReach permitted p fun q => goal q ∧ p.Quiet q :=
  .step hstep ha (h.canReach hgoal)

/-- A `sendData` that is about to block blocks. -/
theorem step_block (now : Timeval) (hlocation : p.sendData = .aboutToWait) :
    t.programs.step (.sendData now []) p = some { p with sendData := .waiting } := by
  simp [Transfer.programs, Programs.step, sendDataStep, hlocation]

/-! ## One round of the sender -/

/-- `checkTimeout` comes to its next sweep. -/
theorem canReach_sweep (hdone : p.done = false) (hexited : p.checkTimeout ≠ .exited) :
    t.programs.CanReach Action.Cooperates p fun q => q.checkTimeout = .sweep ∧ p.Quiet q := by
  have hloop : ∀ p : Programs, p.done = false → p.checkTimeout = .loopTest →
      t.programs.CanReach Action.Cooperates p fun q => q.checkTimeout = .sweep ∧ p.Quiet q := by
    intro p hdone hlocation
    have hstep : t.programs.step (.checkTimeout 0 ⟨0, 0⟩) p =
        some { p with checkTimeout := .sweep } := by
      simp [Transfer.programs, Programs.step, checkTimeoutStep, hlocation, hdone]
    exact .step hstep trivial (.here ⟨rfl, rfl, rfl, rfl, rfl⟩)
  have hnotify : ∀ p : Programs, p.done = false → p.checkTimeout = .notify →
      t.programs.CanReach Action.Cooperates p fun q => q.checkTimeout = .sweep ∧ p.Quiet q := by
    intro p hdone hlocation
    have hquiet := quiet_notifyAll p .loopTest
    have hstep : t.programs.step (.checkTimeout 0 ⟨0, 0⟩) p =
        some { p.notifyAll with checkTimeout := .loopTest } := by
      simp [Transfer.programs, Programs.step, checkTimeoutStep, hlocation]
    exact Quiet.step hstep trivial hquiet (hloop _ (hquiet.done.trans hdone) rfl)
  -- whichever way the tests go, the thread comes back to its loop
  cases hlocation : p.checkTimeout with
  | sweep => exact .here ⟨hlocation, .refl p⟩
  | loopTest => exact hloop p hdone hlocation
  | notify => exact hnotify p hdone hlocation
  | exited => exact absurd hlocation hexited
  | testHasData =>
    by_cases hdata : p.sys.sender.hasDataToSend = true
    · have hstep : t.programs.step (.checkTimeout 0 ⟨0, 0⟩) p =
          some { p with checkTimeout := .notify } := by
        simp [Transfer.programs, Programs.step, checkTimeoutStep, hlocation, hdata]
      exact Quiet.step hstep trivial ⟨rfl, rfl, rfl, rfl⟩ (hnotify _ hdone rfl)
    · have hstep : t.programs.step (.checkTimeout 0 ⟨0, 0⟩) p =
          some { p with checkTimeout := .loopTest } := by
        simp [Transfer.programs, Programs.step, checkTimeoutStep, hlocation, hdata]
      exact Quiet.step hstep trivial ⟨rfl, rfl, rfl, rfl⟩ (hloop _ hdone rfl)

/-- A `sendData` that is on its way to block comes to where it can be woken. -/
theorem canReach_wakeable (hsender : p.sys.sender.finished = false) :
    t.programs.CanReach Action.Cooperates p fun q =>
      (q.sendData ≠ .predicateFinished ∧ q.sendData ≠ .aboutToWait ∧
        q.checkTimeout = p.checkTimeout) ∧ p.Quiet q := by
  have hblock : ∀ p : Programs, p.sendData = .aboutToWait →
      t.programs.CanReach Action.Cooperates p fun q =>
        (q.sendData ≠ .predicateFinished ∧ q.sendData ≠ .aboutToWait ∧
          q.checkTimeout = p.checkTimeout) ∧ p.Quiet q := by
    intro p hlocation
    exact .step (step_block ⟨0, 0⟩ hlocation) trivial
      (.here ⟨⟨by simp, by simp, rfl⟩, rfl, rfl, rfl, rfl⟩)
  by_cases hwaits : p.sendData = .aboutToWait
  · exact hblock p hwaits
  by_cases hpredicate : p.sendData = .predicateFinished
  · have hstep : t.programs.step (.sendData ⟨0, 0⟩ []) p =
        some { p with sendData := .aboutToWait } := by
      simp [Transfer.programs, Programs.step, sendDataStep, hpredicate, hsender]
    exact Quiet.step hstep trivial ⟨rfl, rfl, rfl, rfl⟩ (hblock _ rfl)
  · exact .here ⟨⟨hpredicate, hwaits, rfl⟩, .refl p⟩

/-- The next packet of the queue is sent, from freed memory if its item is gone. -/
theorem exists_transmit (now : Timeval) {packet : DataPacket ItemData}
    {packets : List (DataPacket ItemData)}
    (hlocation : p.sendData = .marshal (packet :: packets)) :
    ∃ freed dataPacket, t.programs.step (.sendData now freed) p =
        some (p.transmit dataPacket packets) ∧
      ∀ marshalled, p.sys.sender.marshal packet = some marshalled → marshalled = dataPacket := by
  cases hread : p.sys.sender.marshal packet with
  | some dataPacket =>
    refine ⟨[], dataPacket, ?_, fun marshalled heq => (Option.some.inj heq).symm⟩
    simp [Transfer.programs, Programs.step, sendDataStep, hlocation, hread]
  | none =>
    refine ⟨List.replicate packet.dataSize 0,
      ⟨packet.type, packet.seqNum, packet.sentTime, packet.dataSize,
        List.replicate packet.dataSize 0⟩, ?_, fun marshalled heq => by cases heq⟩
    simp [Transfer.programs, Programs.step, sendDataStep, hlocation, hread]

/-- `sendData` marshals and sends what is left in its queue. -/
theorem canReach_marshalled (now : Timeval) {packets : List (DataPacket ItemData)}
    (hlocation : p.sendData = .marshal packets) :
    t.programs.CanReach (Action.MovesSendData now) p fun q =>
      (q.sendData = .marshal [] ∧ p.dataInFlight ⊆ q.dataInFlight ∧
        ∀ packet ∈ packets, ∀ dataPacket, p.sys.sender.marshal packet = some dataPacket →
          dataPacket ∈ q.dataInFlight) ∧ p.Quiet q := by
  induction packets generalizing p with
  | nil =>
    refine .here ⟨⟨hlocation, List.Subset.refl _, ?_⟩, .refl p⟩
    intro packet hmem
    cases hmem
  | cons packet packets ih =>
    obtain ⟨freed, dataPacket, hstep, hread⟩ := exists_transmit (t := t) now hlocation
    have hquiet : p.Quiet (p.transmit dataPacket packets) := ⟨rfl, rfl, rfl, rfl⟩
    refine .step hstep rfl ((ih (p := p.transmit dataPacket packets) rfl).imp ?_)
    rintro q ⟨⟨hnil, hflight, hsent⟩, hquiet'⟩
    refine ⟨⟨hnil, fun other hmem => hflight (List.mem_cons_of_mem _ hmem), ?_⟩,
      hquiet.trans hquiet'⟩
    intro other hmem marshalled hother
    rcases List.mem_cons.mp hmem with rfl | hmem
    · rw [hread marshalled hother]
      exact hflight List.mem_cons_self
    · exact hsent other hmem marshalled hother

/-- With data to send, a `sendData` that is awake comes to the next sending round. -/
theorem canReach_prepare (now : Timeval) (hreach : t.programs.Reachable p) (hends : p.Concludes)
    (hdata : p.sys.sender.hasDataToSend = true) (hpredicate : p.sendData ≠ .predicateFinished)
    (hawake : ¬ p.sendData.Blocks) :
    t.programs.CanReach (Action.MovesSendData now) p fun q =>
      q.sendData = .prepare ∧ p.Quiet q := by
  have hsender : p.sys.sender.finished = false := by
    simp only [hasDataToSend, Bool.and_eq_true, Bool.not_eq_true'] at hdata
    exact hdata.1
  have htest : ∀ p : Programs, p.sys.sender.hasDataToSend = true → p.sendData = .hasDataTest →
      t.programs.CanReach (Action.MovesSendData now) p fun q =>
        q.sendData = .prepare ∧ p.Quiet q := by
    intro p hdata hlocation
    have hstep : t.programs.step (.sendData now []) p =
        some { p with sendData := .prepare } := by
      simp [Transfer.programs, Programs.step, sendDataStep, hlocation, hdata]
    exact .step hstep rfl (.here ⟨rfl, rfl, rfl, rfl, rfl⟩)
  have hlook : ∀ p : Programs, p.sys.sender.hasDataToSend = true →
      p.sendData = .predicateHasData →
      t.programs.CanReach (Action.MovesSendData now) p fun q =>
        q.sendData = .prepare ∧ p.Quiet q := by
    intro p hdata hlocation
    have hstep : t.programs.step (.sendData now []) p =
        some { p with sendData := .hasDataTest } := by
      simp [Transfer.programs, Programs.step, sendDataStep, hlocation, hdata]
    exact Quiet.step hstep rfl ⟨rfl, rfl, rfl, rfl⟩ (htest _ hdata rfl)
  cases hlocation : p.sendData with
  | prepare => exact .here ⟨hlocation, .refl p⟩
  | hasDataTest => exact htest p hdata hlocation
  | predicateHasData => exact hlook p hdata hlocation
  | loopTest =>
    have hstep : t.programs.step (.sendData now []) p =
        some { p with sendData := .predicateHasData } := by
      simp [Transfer.programs, Programs.step, sendDataStep, hlocation, hsender]
    exact Quiet.step hstep rfl ⟨rfl, rfl, rfl, rfl⟩ (hlook _ hdata rfl)
  | marshal packets =>
    -- the queue is emptied first
    refine (canReach_marshalled now hlocation).trans hreach ?_
    rintro q - ⟨⟨hnil, -⟩, hquiet⟩
    have hdata' : q.sys.sender.hasDataToSend = true := by
      rw [hquiet.sender]
      exact hdata
    have hstep : t.programs.step (.sendData now []) q =
        some { q with sendData := .hasDataTest } := by
      simp [Transfer.programs, Programs.step, sendDataStep, hnil]
    exact hquiet.canReach
      (Quiet.step hstep rfl ⟨rfl, rfl, rfl, rfl⟩ (htest _ hdata' rfl))
  | predicateFinished => exact absurd hlocation hpredicate
  | aboutToWait => exact absurd (.inl hlocation) hawake
  | waiting => exact absurd (.inr hlocation) hawake
  | setDone =>
    rw [hends.setDone hlocation] at hsender
    cases hsender
  | exited =>
    rw [hends.done (hends.exited.mp hlocation)] at hsender
    cases hsender

/-- Only the sender's own threads have worked, and its left bound has not moved. -/
structure SenderRound (p q : Programs) : Prop where
  leftBound : q.sys.sender.leftBound = p.sys.sender.leftBound
  receiver : q.sys.receiver = p.sys.receiver
  receiveData : q.receiveData = p.receiveData

theorem Quiet.senderRound (h : p.Quiet q) : p.SenderRound q :=
  ⟨congrArg leftBound h.sender, h.receiver, h.receiveData⟩

theorem SenderRound.trans (h : p.SenderRound p') (h' : p'.SenderRound q) : p.SenderRound q :=
  ⟨h'.leftBound.trans h.leftBound, h'.receiver.trans h.receiver,
    h'.receiveData.trans h.receiveData⟩

/-- A sender with the same left bound is finished or not as before. -/
theorem SenderRound.finished (h : p.SenderRound q) (hp : p.Inv t) (hq : q.Inv t) :
    q.sys.sender.finished = p.sys.sender.finished := by
  rw [Bool.eq_iff_iff, hq.system.sender.finished_iff, hp.system.sender.finished_iff, h.leftBound]

/-- A microsecond later a microsecond has passed. -/
theorem getElapsedUs_add_one (time : Timeval) :
    getElapsedUs time ⟨time.tvSec, time.tvUsec + 1⟩ = 1 := by
  simp only [getElapsedUs]
  rw [Int64.sub_self, Int64.zero_mul, Int64.zero_mul, Int64.zero_add, Int64.add_comm,
    Int64.add_sub_cancel]
  rfl

/-- A sweep that finds the head too old makes it sendable, and `sendData` is woken. -/
theorem canReach_notified (ht : t.InRange) (hlong : t.LongEnough)
    (hreach : t.programs.Reachable p) (hsender : p.sys.sender.finished = false)
    (hsweep : p.checkTimeout = .sweep) (hpredicate : p.sendData ≠ .predicateFinished)
    (hwait : p.sendData ≠ .aboutToWait) :
    t.programs.CanReach Action.Cooperates p fun q =>
      ((∃ item, q.sys.sender.itemAt q.sys.sender.leftBound = some item ∧
        item.isSendable = true) ∧ q.sys.sender.hasDataToSend = true ∧
          q.sendData ≠ .predicateFinished ∧ ¬ q.sendData.Blocks) ∧ p.SenderRound q := by
  have h := (inv_of_reachable ht hreach).system
  obtain ⟨item, hitem, hacked⟩ := h.exists_head hlong hsender
  -- a threshold of zero, one microsecond after the head was sent
  set now : Timeval := ⟨item.lastSentTime.tvSec, item.lastSentTime.tvUsec + 1⟩ with hnow
  have hold : (0 : UInt64) < getElapsedUs item.lastSentTime now := by
    rw [hnow, getElapsedUs_add_one]
    decide
  obtain ⟨hdata, hhead⟩ := h.timeoutChecked_head ht hsender hitem hacked fun _ => hold
  set sender := p.sys.sender.timeoutChecked t.shrink 0 now with hsender₁
  have hleft : sender.leftBound = p.sys.sender.leftBound := leftBound_timeoutChecked
  have hstep₁ : t.programs.step (.checkTimeout 0 now) p =
      some { p with
        sys := { p.sys with sender := sender }
        checkTimeout := .testHasData } := by
    simp [Transfer.programs, Programs.step, checkTimeoutStep, hsweep,
      System.checkTimeout_eq h ht, hsender₁]
  have hstep₂ : t.programs.step (.checkTimeout 0 now)
      { p with
        sys := { p.sys with sender := sender }
        checkTimeout := .testHasData } =
      some { p with
        sys := { p.sys with sender := sender }
        checkTimeout := .notify } := by
    simp [Transfer.programs, Programs.step, checkTimeoutStep, hdata]
  set p₂ : Programs := { p with
    sys := { p.sys with sender := sender }
    checkTimeout := .notify } with hp₂
  have hstep₃ : t.programs.step (.checkTimeout 0 now) p₂ =
      some { p₂.notifyAll with checkTimeout := .loopTest } := by
    simp [Transfer.programs, Programs.step, checkTimeoutStep, hp₂]
  -- sweep, find data to send, notify
  have hquiet := quiet_notifyAll p₂ .loopTest
  refine .step hstep₁ trivial (.step hstep₂ trivial (.step hstep₃ trivial (.here ?_)))
  refine ⟨⟨?_, ?_, ?_⟩, ?_⟩
  · rw [hquiet.sender]
    rw [← hleft] at hhead
    exact hhead
  · rw [hquiet.sender]
    exact hdata
  · change p₂.notifyAll.sendData ≠ _ ∧ ¬ p₂.notifyAll.sendData.Blocks
    simp only [notifyAll]
    split_ifs with hwaiting
    · exact ⟨by simp, by simp [SendDataLocation.Blocks]⟩
    · exact ⟨hpredicate, fun hblocks => hblocks.elim hwait hwaiting⟩
  · have hswept : p.SenderRound p₂ := ⟨hleft, rfl, rfl⟩
    exact hswept.trans hquiet.senderRound

/-- `canReach_notified`, from wherever the threads stand. -/
theorem canReach_headSendable (ht : t.InRange) (hlong : t.LongEnough)
    (hreach : t.programs.Reachable p) (hsender : p.sys.sender.finished = false) :
    t.programs.CanReach Action.Cooperates p fun q =>
      ((∃ item, q.sys.sender.itemAt q.sys.sender.leftBound = some item ∧
        item.isSendable = true) ∧ q.sys.sender.hasDataToSend = true ∧
          q.sendData ≠ .predicateFinished ∧ ¬ q.sendData.Blocks) ∧ p.SenderRound q := by
  -- as long as the sender is not finished, `done` is not set and `checkTimeout` is running
  have hends := concludes_of_reachable ht hreach
  have hdone : p.done = false := by
    by_contra hdone
    rw [hends.done (Bool.not_eq_false _ ▸ hdone)] at hsender
    cases hsender
  have hexited : p.checkTimeout ≠ .exited := by
    intro hexited
    rw [(done_of_exited hreach).2 hexited] at hdone
    cases hdone
  refine (canReach_sweep hdone hexited).trans hreach ?_
  rintro p₁ hreach₁ ⟨hsweep, hquiet₁⟩
  -- a `sendData` that has seen the predicate false must block before it can be notified
  have hsender₁ : p₁.sys.sender.finished = false := by
    rw [hquiet₁.sender]
    exact hsender
  refine (canReach_wakeable hsender₁).trans hreach₁ ?_
  rintro p₂ hreach₂ ⟨⟨hpredicate, hwait, hsame⟩, hquiet₂⟩
  have hsender₂ : p₂.sys.sender.finished = false := by
    rw [hquiet₂.sender]
    exact hsender₁
  have hround := hquiet₁.senderRound.trans hquiet₂.senderRound
  exact (canReach_notified ht hlong hreach₂ hsender₂ (hsame.trans hsweep) hpredicate hwait).imp
    fun q hq => ⟨hq.1, hround.trans hq.2⟩

/-- **The head goes out again.** -/
theorem canReach_headSent (ht : t.InRange) (hlong : t.LongEnough)
    (hreach : t.programs.Reachable p) (hsender : p.sys.sender.finished = false) :
    t.programs.CanReach Action.Cooperates p fun q =>
      (∃ dataPacket ∈ q.dataInFlight, dataPacket.seqNum.toNat = q.sys.sender.leftBound) ∧
        p.SenderRound q := by
  refine (canReach_headSendable ht hlong hreach hsender).trans hreach ?_
  rintro p₁ hreach₁ ⟨⟨⟨item, hitem, hsend⟩, hdata, hpredicate, hawake⟩, hround⟩
  refine ((canReach_prepare ⟨0, 0⟩ hreach₁ (concludes_of_reachable ht hreach₁) hdata hpredicate
    hawake).mono fun _ ha => ha.cooperates).trans hreach₁ ?_
  rintro p₂ hreach₂ ⟨hprepare, hquiet⟩
  have h₂ := (inv_of_reachable ht hreach₂).system
  rw [← hquiet.sender] at hitem
  -- the head is among the prepared packets, and its item is still there
  obtain ⟨hpacket, hmarshal, -⟩ := h₂.prepared_head ⟨0, 0⟩ ht hitem hsend
  have hstep : t.programs.step (.sendData ⟨0, 0⟩ []) p₂ =
      some { p₂ with
        sys := { p₂.sys with sender := p₂.sys.sender.prepared ⟨0, 0⟩ }
        sendData := .marshal (p₂.sys.sender.preparedPackets ⟨0, 0⟩) } := by
    simp [Transfer.programs, Programs.step, sendDataStep, hprepare,
      System.prepareDataPacketsToSend_eq h₂ ht]
  set p₃ : Programs := { p₂ with
    sys := { p₂.sys with sender := p₂.sys.sender.prepared ⟨0, 0⟩ }
    sendData := .marshal (p₂.sys.sender.preparedPackets ⟨0, 0⟩) } with hp₃
  refine .step hstep trivial (((canReach_marshalled ⟨0, 0⟩ (p := p₃) rfl).mono
    fun _ ha => ha.cooperates).imp ?_)
  rintro q ⟨⟨-, -, hsent⟩, hquiet'⟩
  have hround' : p₂.SenderRound p₃ := ⟨leftBound_prepared, rfl, rfl⟩
  have hlast := hround'.trans hquiet'.senderRound
  refine ⟨⟨_, hsent _ hpacket _ hmarshal, ?_⟩, (hround.trans hquiet.senderRound).trans hlast⟩
  rw [hlast.leftBound, Transfer.wirePacket, leftBound, UInt32.ofNat_toNat]

end Programs

end ReliablePacket
