/-
# The end of both programs

Once the sender is finished, a `sendData` that is awake comes to its exit by itself and
sets `done` on the way. From then on every step of a thread brings both programs closer
to their end, so nothing but the scheduler is needed to end them.
-/
import ReliablePacket.Programs.Completion

set_option autoImplicit false

namespace ReliablePacket

open SlideWindowSender

variable {t : Transfer} {p p' : Programs} {a : Programs.Action} {now : Timeval}

/-- How many steps `sendData` is away from its exit once the sender is finished, where
sending a queue counts as one step. -/
def SendDataLocation.untilExit : SendDataLocation → ℕ
  | .exited => 0
  | .setDone => 1
  | .loopTest => 2
  | .hasDataTest => 3
  | .marshal _ => 4
  | .predicateFinished => 4
  | .predicateHasData => 5
  | .prepare => 5
  | .waiting => 6
  | .aboutToWait => 7

namespace Programs

/-! ## A finished sender -/

/-- `sendData` of a finished sender comes closer to its exit, unless it blocks. -/
theorem canReach_untilExit_lt_of_awake (now : Timeval) (ht : t.InRange)
    (hreach : t.programs.Reachable p) (hsender : p.sys.sender.finished = true)
    (hexited : p.sendData ≠ .exited) (hawake : ¬ p.sendData.Blocks) :
    t.programs.CanReach (Action.MovesSendData now) p fun q =>
      (q.sys.sender.finished = true ∧ ¬ q.sendData.Blocks) ∧
        q.sendData.untilExit < p.sendData.untilExit := by
  have hdata := hasDataToSend_of_finished hsender
  have hmove : ∀ done location, p.sendDataStep now [] =
      some { p with done := done, sendData := location } → ¬ location.Blocks →
      location.untilExit < p.sendData.untilExit →
      t.programs.CanReach (Action.MovesSendData now) p fun q =>
        (q.sys.sender.finished = true ∧ ¬ q.sendData.Blocks) ∧
          q.sendData.untilExit < p.sendData.untilExit := by
    intro done location hstep hawake' hlt
    have hstep' : t.programs.step (.sendData now []) p =
        some { p with done := done, sendData := location } := hstep
    exact .step hstep' rfl (.here ⟨⟨hsender, hawake'⟩, hlt⟩)
  cases hlocation : p.sendData with
  | exited => exact absurd hlocation hexited
  | aboutToWait => exact absurd (.inl hlocation) hawake
  | waiting => exact absurd (.inr hlocation) hawake
  | setDone =>
    rw [hlocation] at hmove
    exact hmove true .exited (by simp [sendDataStep, hlocation])
      (by simp [SendDataLocation.Blocks]) (by decide)
  | loopTest =>
    rw [hlocation] at hmove
    exact hmove p.done .setDone (by simp [sendDataStep, hlocation, hsender])
      (by simp [SendDataLocation.Blocks]) (by decide)
  | hasDataTest =>
    rw [hlocation] at hmove
    exact hmove p.done .loopTest (by simp [sendDataStep, hlocation, hdata])
      (by simp [SendDataLocation.Blocks]) (by decide)
  | predicateHasData =>
    rw [hlocation] at hmove
    exact hmove p.done .predicateFinished (by simp [sendDataStep, hlocation, hdata])
      (by simp [SendDataLocation.Blocks]) (by decide)
  | predicateFinished =>
    rw [hlocation] at hmove
    exact hmove p.done .hasDataTest (by simp [sendDataStep, hlocation, hsender])
      (by simp [SendDataLocation.Blocks]) (by decide)
  | prepare =>
    have h := (inv_of_reachable ht hreach).system
    have hstep : t.programs.step (.sendData now []) p =
        some { p with
          sys := { p.sys with sender := p.sys.sender.prepared now }
          sendData := .marshal (p.sys.sender.preparedPackets now) } := by
      simp [Transfer.programs, Programs.step, sendDataStep, hlocation,
        System.prepareDataPacketsToSend_eq h ht]
    exact .step hstep rfl (.here ⟨⟨hsender, by simp [SendDataLocation.Blocks]⟩,
      by simp [SendDataLocation.untilExit]⟩)
  | marshal packets =>
    -- the whole queue counts as one step
    refine (canReach_marshalled now hlocation).trans hreach ?_
    rintro q - ⟨⟨hnil, -⟩, hquiet⟩
    have hstep : t.programs.step (.sendData now []) q =
        some { q with sendData := .hasDataTest } := by
      simp [Transfer.programs, Programs.step, sendDataStep, hnil]
    refine .step hstep rfl (.here ⟨⟨?_, by simp [SendDataLocation.Blocks]⟩,
      by simp [SendDataLocation.untilExit]⟩)
    change q.sys.sender.finished = true
    rw [hquiet.sender]
    exact hsender

/-- An awake `sendData` of a finished sender sets `done`. -/
theorem canReach_done_of_awake (now : Timeval) (ht : t.InRange) (hreach : t.programs.Reachable p)
    (hsender : p.sys.sender.finished = true) (hawake : ¬ p.sendData.Blocks) :
    t.programs.CanReach (Action.MovesSendData now) p fun q => q.done = true := by
  refine .of_rank (fun q => q.sys.sender.finished = true ∧ ¬ q.sendData.Blocks)
    (fun q => q.sendData.untilExit) ?_ hreach ⟨hsender, hawake⟩
  rintro q hq ⟨hfinished, hawake'⟩
  by_cases hexited : q.sendData = .exited
  · exact .here (.inl ((concludes_of_reachable ht hq).exited.mp hexited))
  · exact (canReach_untilExit_lt_of_awake now ht hq hfinished hexited hawake').imp fun _ => .inr

/-! ## Exits -/

/-- Once `done` is set, every step of a thread brings both programs closer to their end. -/
theorem stepsLeft_lt (ht : t.InRange) (hreach : t.programs.Reachable p) (hdone : p.done = true)
    (hside : a.ofSender = true ∨ a.ofReceiver = true) (hstep : t.programs.step a p = some p') :
    p'.done = true ∧
      p'.senderStepsLeft + p'.receiverStepsLeft < p.senderStepsLeft + p.receiverStepsLeft := by
  have hends := concludes_of_reachable ht hreach
  have hreceiver :=
    ((inv_of_reachable ht hreach).system.receiver_finished ht (hends.done hdone)).1
  have hs := step_senderStepsLeft hends hdone hstep
  have hr := step_receiverStepsLeft hreceiver hstep
  refine ⟨step_done hstep hdone, ?_⟩
  rcases hside with hside | hside
  · rw [hside, if_pos rfl] at hs
    omega
  · rw [hside, if_pos rfl] at hr
    omega

/-- A step of a `receiveAck` thread or of a receiver thread. -/
def Action.MovesReader : Action → Prop
  | .receiveAck _ => True
  | .receiveData _ => True
  | _ => False

theorem Action.MovesReader.cooperates (h : a.MovesReader) : a.Cooperates := by
  cases a with
  | receiveAck i => trivial
  | receiveData i => trivial
  | _ => exact h.elim

/-- Once `done` is set all threads that read from the socket can exit. -/
theorem canReach_readersExited (ht : t.InRange) (hreach : t.programs.Reachable p)
    (hdone : p.done = true) :
    t.programs.CanReach Action.MovesReader p fun q =>
      q.done = true ∧ (∀ i, q.receiveAck i = .exited) ∧ ∀ i, q.receiveData i = .exited := by
  refine .of_rank (fun q => q.done = true) (fun q => q.senderStepsLeft + q.receiverStepsLeft) ?_
    hreach hdone
  intro q hq hset
  have hinv := inv_of_reachable ht hq
  -- some reader has not exited, and it can always take a step
  by_cases hacks : ∀ i, q.receiveAck i = .exited
  · by_cases hdata : ∀ i, q.receiveData i = .exited
    · exact .here (.inl ⟨hset, hacks, hdata⟩)
    · obtain ⟨i, hi⟩ := not_forall.mp hdata
      obtain ⟨q', hstep⟩ := hinv.exists_receiveDataStep i hi
      have hstep' : t.programs.step (.receiveData i) q = some q' := hstep
      exact .step hstep' trivial (.here (.inr (stepsLeft_lt ht hq hset (.inr rfl) hstep')))
  · obtain ⟨i, hi⟩ := not_forall.mp hacks
    obtain ⟨q', hstep⟩ := hinv.exists_receiveAckStep ht i hi
    have hstep' : t.programs.step (.receiveAck i) q = some q' := hstep
    exact .step hstep' trivial (.here (.inr (stepsLeft_lt ht hq hset (.inl rfl) hstep')))

/-- Once `done` is set all threads can exit. -/
theorem canReach_exited (ht : t.InRange) (hreach : t.programs.Reachable p)
    (hdone : p.done = true) :
    t.programs.CanReach Action.Cooperates p fun q =>
      q.done = true ∧ (∀ i, q.receiveAck i = .exited) ∧ q.checkTimeout = .exited ∧
        ∀ i, q.receiveData i = .exited := by
  refine ((canReach_readersExited ht hreach hdone).mono fun _ ha => ha.cooperates).trans hreach ?_
  intro u hu hexited
  -- `checkTimeout` is left, and its steps move no other thread
  refine .of_rank (fun q => q.done = true ∧ (∀ i, q.receiveAck i = .exited) ∧
    ∀ i, q.receiveData i = .exited) (fun q => q.senderStepsLeft + q.receiverStepsLeft) ?_ hu hexited
  rintro q hq ⟨hset, hacks, hdata⟩
  by_cases hcheck : q.checkTimeout = .exited
  · exact .here (.inl ⟨hset, hacks, hcheck, hdata⟩)
  · obtain ⟨q', hstep⟩ := (inv_of_reachable ht hq).exists_checkTimeoutStep ht hcheck 0 ⟨0, 0⟩
    have hstep' : t.programs.step (.checkTimeout 0 ⟨0, 0⟩) q = some q' := hstep
    obtain ⟨hset', hlt⟩ := stepsLeft_lt ht hq hset (.inl rfl) hstep'
    have hsame := (checkTimeoutStep_location hstep).2.2
    have hother := step_receiveData hstep' rfl
    exact .step hstep' trivial (.here (.inr ⟨⟨hset', hsame ▸ hacks, hother ▸ hdata⟩, hlt⟩))

/-- Both programs have come to their end, and the file has arrived. -/
structure Ended (t : Transfer) (p : Programs) : Prop where
  done : p.done = true
  sendData : p.sendData = .exited
  receiveAck : ∀ i, p.receiveAck i = .exited
  checkTimeout : p.checkTimeout = .exited
  receiveData : ∀ i, p.receiveData i = .exited
  size_outputFile : p.sys.receiver.outputFile.size = t.bytesToSend.toNat
  byte_outputFile : ∀ i < t.bytesToSend.toNat,
    p.sys.receiver.outputFile.byte i = t.fileToSend.byte i

/-- **A finished sender ends both programs** as soon as `sendData` is awake. -/
theorem canReach_ended_of_awake (ht : t.InRange) (hsize : t.bytesToSend.toNat ≤ 2 ^ 32)
    (hlong : t.LongEnough) (hreach : t.programs.Reachable p)
    (hsender : p.sys.sender.finished = true) (hawake : ¬ p.sendData.Blocks) :
    t.programs.CanReach Action.Cooperates p (Ended t) := by
  refine ((canReach_done_of_awake ⟨0, 0⟩ ht hreach hsender hawake).mono
    fun _ ha => ha.cooperates).trans hreach fun p₁ hreach₁ hdone => ?_
  refine (canReach_exited ht hreach₁ hdone).trans hreach₁ ?_
  rintro q hq ⟨hdone', hacks, hcheck, hdata⟩
  have hinv := (inv_of_reachable ht hq).system
  have hends := concludes_of_reachable ht hq
  have hreceiver := (hinv.receiver_finished ht (hends.done hdone')).1
  obtain ⟨hfileSize, hbytes⟩ :=
    (writesIntact_of_reachable ht hq).output_of_finished hinv ht hsize hlong hreceiver
  exact .here ⟨hdone', hends.exited.mpr hdone', hacks, hcheck, hdata, hfileSize, hbytes⟩

end Programs

end ReliablePacket
