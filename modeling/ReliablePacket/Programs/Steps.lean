/-
# What one step of a thread can do

Most steps move a thread from one place to another and leave the windows and the
network alone. For each thread the lemma here names the few steps that do more,
and says of the moves what later invariants need. Later proofs use these lemmas
and do not unfold the threads again.
-/
import ReliablePacket.Programs.Basic

set_option autoImplicit false

namespace ReliablePacket

/-! ## Places -/

/-- The packets that are prepared and not yet marshalled. -/
def SendDataLocation.queue : SendDataLocation → List (DataPacket ItemData)
  | .marshal packets => packets
  | _ => []

/-- `sendData` has found its predicate false and blocks or is about to. -/
def SendDataLocation.Blocks (location : SendDataLocation) : Prop :=
  location = .aboutToWait ∨ location = .waiting

/-- The thread has processed an acknowledgement and, when the transfer is
finished, will call `notify_all`. -/
def ReceiveAckLocation.NotifyPending (location : ReceiveAckLocation) : Prop :=
  location = .testHasData ∨ location = .testFinished ∨ location = .notify

instance (location : ReceiveAckLocation) : Decidable location.NotifyPending :=
  inferInstanceAs (Decidable (_ ∨ _ ∨ _))

/-- The acknowledgement a thread has read and not yet processed. -/
def ReceiveAckLocation.inHand : ReceiveAckLocation → Option AckPacket
  | .received ackPacket => some ackPacket
  | _ => none

/-- A thread has nothing in hand unless it has read an acknowledgement. -/
theorem ReceiveAckLocation.inHand_eq_none_iff {location : ReceiveAckLocation} :
    location.inHand = none ↔ ∀ ackPacket, location ≠ .received ackPacket := by
  constructor
  · rintro hnone ackPacket rfl
    cases hnone
  · intro hne
    cases location with
    | received ackPacket => exact absurd rfl (hne ackPacket)
    | _ => rfl

/-- The thread has no datagram and no reply in hand. -/
def ReceiveDataLocation.Idle (location : ReceiveDataLocation) : Prop :=
  location = .loopTest ∨ location = .receive ∨ location = .exited

namespace Programs

variable {t : Transfer} {p p' : Programs} {now : Timeval} {timeoutThresholdUs : UInt64}
variable {freed : List UInt8}

/-! ## The sender's threads -/

/-- `sendData` moves, prepares packets, or transmits the first packet of its queue. -/
theorem sendDataStep_cases (hstep : p.sendDataStep now freed = some p') :
    (∃ done location, p' = { p with done := done, sendData := location } ∧
        location.queue = [] ∧
        (p.sys.sender.finished = true → location.Blocks → p.sendData.Blocks)) ∨
      (∃ packets sys, p.sys.prepareDataPacketsToSend now = some (packets, sys) ∧
        p' = { p with sys := sys, sendData := .marshal packets } ∧
        p.sendData.queue = []) ∨
      ∃ packet packets dataPacket, p.sendData = .marshal (packet :: packets) ∧
        dataPacket.type = packet.type ∧ dataPacket.seqNum = packet.seqNum ∧
        p' = p.transmit dataPacket packets := by
  simp only [sendDataStep] at hstep
  cases hlocation : p.sendData with
  | loopTest =>
    simp only [hlocation, Option.some.injEq] at hstep
    subst hstep
    -- the test of the outer loop leads to no place where the thread blocks
    refine .inl ⟨p.done, _, rfl, ?_, fun hfinished => ?_⟩
    · split_ifs <;> rfl
    · rw [if_pos hfinished]
      simp [SendDataLocation.Blocks]
  | predicateHasData =>
    simp only [hlocation, Option.some.injEq] at hstep
    subst hstep
    refine .inl ⟨p.done, _, rfl, ?_, fun _ => ?_⟩
    · split_ifs <;> rfl
    · split_ifs <;> simp [SendDataLocation.Blocks]
  | predicateFinished =>
    -- the predicate is false only if the transfer is not finished
    simp only [hlocation, Option.some.injEq] at hstep
    subst hstep
    refine .inl ⟨p.done, _, rfl, ?_, fun hfinished => ?_⟩
    · split_ifs <;> rfl
    · rw [if_pos hfinished]
      simp [SendDataLocation.Blocks]
  | aboutToWait =>
    simp only [hlocation, Option.some.injEq] at hstep
    subst hstep
    exact .inl ⟨p.done, .waiting, rfl, rfl, fun _ _ => .inl rfl⟩
  | waiting => simp [hlocation] at hstep
  | hasDataTest =>
    simp only [hlocation, Option.some.injEq] at hstep
    subst hstep
    refine .inl ⟨p.done, _, rfl, ?_, fun _ => ?_⟩
    · split_ifs <;> rfl
    · split_ifs <;> simp [SendDataLocation.Blocks]
  | prepare =>
    simp only [hlocation] at hstep
    obtain ⟨⟨packets, sys⟩, hprepare, heq⟩ := Option.bind_eq_some_iff.mp hstep
    cases heq
    exact .inr (.inl ⟨packets, sys, hprepare, rfl, rfl⟩)
  | marshal packets =>
    cases packets with
    | nil =>
      simp only [hlocation, Option.some.injEq] at hstep
      subst hstep
      exact .inl ⟨p.done, .hasDataTest, rfl, rfl, by simp [SendDataLocation.Blocks]⟩
    | cons packet packets =>
      simp only [hlocation] at hstep
      cases hmarshal : p.sys.sender.marshal packet with
      | some dataPacket =>
        simp only [hmarshal, Option.some.injEq] at hstep
        subst hstep
        -- whatever the payload is, the header is that of the packet
        obtain ⟨data, -, rfl⟩ := Option.map_eq_some_iff.mp hmarshal
        exact .inr (.inr ⟨packet, packets, _, rfl, rfl, rfl, rfl⟩)
      | none =>
        simp only [hmarshal, Option.ite_none_right_eq_some, Option.some.injEq] at hstep
        obtain ⟨-, rfl⟩ := hstep
        exact .inr (.inr ⟨packet, packets, _, rfl, rfl, rfl, rfl⟩)
  | setDone =>
    simp only [hlocation, Option.some.injEq] at hstep
    subst hstep
    exact .inl ⟨true, .exited, rfl, rfl, by simp [SendDataLocation.Blocks]⟩
  | exited => simp [hlocation] at hstep

/-- A `receiveAck` thread moves, processes the acknowledgement it read, or
notifies. -/
theorem receiveAckStep_cases {i : Fin receiveAckThreadNum}
    (hstep : p.receiveAckStep t i = some p') :
    (∃ location, p' = p.setReceiveAck i location ∧
        (∀ ackPacket, p.receiveAck i ≠ .received ackPacket) ∧
        (∀ ackPacket, location ≠ .received ackPacket) ∧
        (p.sys.sender.finished = true → (p.receiveAck i).NotifyPending →
          location.NotifyPending)) ∨
      (∃ ackPacket sys, p.receiveAck i = .received ackPacket ∧
        p.sys.ackArrived t ackPacket = some sys ∧
        p' = { p with sys := sys }.setReceiveAck i .testHasData) ∨
      (p.receiveAck i = .notify ∧ p' = p.notifyAll.setReceiveAck i .loopTest) := by
  simp only [receiveAckStep] at hstep
  cases hlocation : p.receiveAck i with
  | loopTest =>
    simp only [hlocation, Option.some.injEq] at hstep
    subst hstep
    refine .inl ⟨_, rfl, nofun, ?_, by simp [ReceiveAckLocation.NotifyPending]⟩
    split_ifs <;> exact nofun
  | receive =>
    simp only [hlocation, Option.some.injEq] at hstep
    subst hstep
    exact .inl ⟨_, rfl, nofun, nofun, by simp [ReceiveAckLocation.NotifyPending]⟩
  | received ackPacket =>
    simp only [hlocation] at hstep
    obtain ⟨sys, hsys, heq⟩ := Option.bind_eq_some_iff.mp hstep
    cases heq
    exact .inr (.inl ⟨ackPacket, sys, rfl, hsys, rfl⟩)
  | testHasData =>
    -- a finished transfer has no data to send, so `finished()` is evaluated next
    simp only [hlocation, Option.some.injEq] at hstep
    subst hstep
    refine .inl ⟨_, rfl, nofun, ?_, fun hfinished _ => ?_⟩
    · split_ifs <;> exact nofun
    · rw [SlideWindowSender.hasDataToSend, hfinished]
      exact .inr (.inl rfl)
  | testFinished =>
    simp only [hlocation, Option.some.injEq] at hstep
    subst hstep
    refine .inl ⟨_, rfl, nofun, ?_, fun hfinished _ => ?_⟩
    · split_ifs <;> exact nofun
    · rw [if_pos hfinished]
      exact .inr (.inr rfl)
  | notify =>
    simp only [hlocation, Option.some.injEq] at hstep
    subst hstep
    exact .inr (.inr ⟨rfl, rfl⟩)
  | exited => simp [hlocation] at hstep

/-- The `checkTimeout` thread moves, sweeps the window, or notifies. -/
theorem checkTimeoutStep_cases (hstep : p.checkTimeoutStep t timeoutThresholdUs now = some p') :
    (∃ location, p' = { p with checkTimeout := location }) ∨
      (∃ sys, p.sys.checkTimeout t timeoutThresholdUs now = some sys ∧
        p' = { p with sys := sys, checkTimeout := .testHasData }) ∨
      p' = { p.notifyAll with checkTimeout := .loopTest } := by
  simp only [checkTimeoutStep] at hstep
  cases hlocation : p.checkTimeout with
  | loopTest =>
    simp only [hlocation, Option.some.injEq] at hstep
    exact .inl ⟨_, hstep.symm⟩
  | sweep =>
    simp only [hlocation] at hstep
    obtain ⟨sys, hsys, heq⟩ := Option.bind_eq_some_iff.mp hstep
    cases heq
    exact .inr (.inl ⟨sys, hsys, rfl⟩)
  | testHasData =>
    simp only [hlocation, Option.some.injEq] at hstep
    exact .inl ⟨_, hstep.symm⟩
  | notify =>
    simp only [hlocation, Option.some.injEq] at hstep
    exact .inr (.inr hstep.symm)
  | exited => simp [hlocation] at hstep

/-- A wake-up without notification makes a blocked `sendData` look again. -/
theorem spuriousWakeup_eq_some (hstep : step t .spuriousWakeup p = some p') :
    p.sendData = .waiting ∧ p' = { p with sendData := .predicateHasData } := by
  simp only [step, Option.ite_none_right_eq_some, Option.some.injEq] at hstep
  exact ⟨hstep.1, hstep.2.symm⟩

/-! ## The receiver's threads -/

/-- A receiver thread moves, takes the packet it read, decides how often to send
the reply, or sends it once. It exits only when the receiver is finished. -/
theorem receiveDataStep_cases {i : Fin receiveThreadNum} (hstep : p.receiveDataStep i = some p') :
    (∃ location, p' = p.setReceiveData i location ∧ location.Idle ∧
        (location = .exited → p.sys.receiver.finished = true) ∧
        ((p.receiveData i).Idle ∨ ∃ ackPacket, p.receiveData i = .sending ackPacket 0)) ∨
      (∃ dataPacket ackPacket sys, p.receiveData i = .received dataPacket ∧
        p.sys.receiveDataPacket dataPacket = some (ackPacket, sys) ∧
        p' = { p with sys := sys }.setReceiveData i (.reply ackPacket)) ∨
      (∃ ackPacket, p.receiveData i = .reply ackPacket ∧
        p' = p.setReceiveData i
          (.sending ackPacket (if p.sys.receiver.finished then finAckNum else 1))) ∨
      ∃ ackPacket copies, p.receiveData i = .sending ackPacket (copies + 1) ∧
        p' = { p with acksInFlight := ackPacket :: p.acksInFlight }.setReceiveData i
          (.sending ackPacket copies) := by
  simp only [receiveDataStep] at hstep
  cases hlocation : p.receiveData i with
  | loopTest =>
    simp only [hlocation, Option.some.injEq] at hstep
    subst hstep
    refine .inl ⟨_, rfl, ?_, ?_, .inl (.inl rfl)⟩
    · split_ifs
      · exact .inr (.inr rfl)
      · exact .inr (.inl rfl)
    · -- the loop is left only when the receiver is finished
      intro hexited
      by_contra hfinished
      rw [if_neg hfinished] at hexited
      cases hexited
  | receive =>
    simp only [hlocation, Option.some.injEq] at hstep
    subst hstep
    exact .inl ⟨_, rfl, .inl rfl, nofun, .inl (.inr (.inl rfl))⟩
  | received dataPacket =>
    simp only [hlocation] at hstep
    obtain ⟨⟨ackPacket, sys⟩, hsys, heq⟩ := Option.bind_eq_some_iff.mp hstep
    cases heq
    exact .inr (.inl ⟨dataPacket, ackPacket, sys, rfl, hsys, rfl⟩)
  | reply ackPacket =>
    simp only [hlocation, Option.some.injEq] at hstep
    subst hstep
    exact .inr (.inr (.inl ⟨ackPacket, rfl, rfl⟩))
  | sending ackPacket copies =>
    cases copies with
    | zero =>
      simp only [hlocation, Option.some.injEq] at hstep
      subst hstep
      exact .inl ⟨_, rfl, .inl rfl, nofun, .inr ⟨ackPacket, rfl⟩⟩
    | succ copies =>
      simp only [hlocation, Option.some.injEq] at hstep
      subst hstep
      exact .inr (.inr (.inr ⟨ackPacket, copies, rfl, rfl⟩))
  | exited => simp [hlocation] at hstep

/-! ## Arrivals and the network -/

theorem deliverAck_eq_some {i : Fin receiveAckThreadNum} {ackPacket : AckPacket}
    (hstep : p.deliverAck i ackPacket = some p') :
    p.receiveAck i = .receive ∧ ackPacket ∈ p.acksInFlight ∧
      ∃ location, p' = { p with
          acksInFlight := p.acksInFlight.erase ackPacket
          acksTaken := ackPacket :: p.acksTaken }.setReceiveAck i location ∧
        (ackPacket.type = .regular ∧ location = .received ackPacket ∨
          ackPacket.type ≠ .regular ∧ location = .loopTest) := by
  simp only [deliverAck] at hstep
  split_ifs at hstep with hreceive hregular
  · cases hstep
    exact ⟨hreceive.1, hreceive.2, _, rfl, .inl ⟨hregular, rfl⟩⟩
  · cases hstep
    exact ⟨hreceive.1, hreceive.2, _, rfl, .inr ⟨hregular, rfl⟩⟩

theorem deliverData_eq_some {i : Fin receiveThreadNum} {dataPacket : DataPacket (List UInt8)}
    (hstep : p.deliverData i dataPacket = some p') :
    p.receiveData i = .receive ∧ dataPacket ∈ p.dataInFlight ∧
      p' = { p with dataInFlight := p.dataInFlight.erase dataPacket }.setReceiveData i
        (.received dataPacket) := by
  simp only [deliverData] at hstep
  split_ifs at hstep with hreceive
  cases hstep
  exact ⟨hreceive.1, hreceive.2, rfl⟩

theorem deliverHandshake_eq_some {i : Fin receiveThreadNum} {sentTime : Timeval}
    (hstep : p.deliverHandshake i sentTime = some p') :
    p.receiveData i = .receive ∧
      p' = p.setReceiveData i (.reply ⟨.handshake, 0, 0, sentTime⟩) := by
  simp only [deliverHandshake] at hstep
  split_ifs at hstep with hreceive
  cases hstep
  exact ⟨hreceive, rfl⟩

/-- The network invents nothing, and what it takes away of the acknowledgements it
records as lost. -/
theorem networkStep_frame {action : NetworkAction} (hstep : p.networkStep action = some p') :
    ∃ dataInFlight acksInFlight acksLost,
      p' = { p with
        dataInFlight := dataInFlight, acksInFlight := acksInFlight, acksLost := acksLost } ∧
      dataInFlight ⊆ p.dataInFlight ∧ acksInFlight ⊆ p.acksInFlight ∧
      ∀ final : AckPacket → Bool,
        p.acksInFlight.countP final + p.acksLost.countP final ≤
          acksInFlight.countP final + acksLost.countP final := by
  simp only [networkStep] at hstep
  cases action with
  | loseData dataPacket =>
    dsimp only at hstep
    split_ifs at hstep
    cases hstep
    exact ⟨_, _, _, rfl, List.erase_subset, List.Subset.refl _, fun _ => le_rfl⟩
  | duplicateData dataPacket =>
    dsimp only at hstep
    split_ifs at hstep with hmem
    cases hstep
    exact ⟨_, _, _, rfl, List.cons_subset.mpr ⟨hmem, List.Subset.refl _⟩, List.Subset.refl _,
      fun _ => le_rfl⟩
  | loseAck ackPacket =>
    dsimp only at hstep
    split_ifs at hstep with hmem
    cases hstep
    -- what leaves the list in flight enters the list of losses
    refine ⟨_, _, _, rfl, List.Subset.refl _, List.erase_subset, fun final => ?_⟩
    have hcount := (List.perm_cons_erase hmem).countP_eq final
    rw [List.countP_cons] at hcount ⊢
    omega
  | duplicateAck ackPacket =>
    dsimp only at hstep
    split_ifs at hstep with hmem
    cases hstep
    refine ⟨_, _, _, rfl, List.Subset.refl _,
      List.cons_subset.mpr ⟨hmem, List.Subset.refl _⟩, fun final => ?_⟩
    -- a duplicate only adds to the count
    rw [List.countP_cons]
    omega

/-! ## Notification -/

/-- A notification leaves nobody blocked. -/
theorem sendData_notifyAll : p.notifyAll.sendData ≠ .waiting := by
  simp only [notifyAll]
  split_ifs with hwaiting
  · exact nofun
  · exact hwaiting

/-- A notification concerns `sendData` only, and takes nothing from its queue. -/
theorem notifyAll_eq (p : Programs) : ∃ location,
    p.notifyAll = { p with sendData := location } ∧ location.queue = p.sendData.queue ∧
      (location = .aboutToWait → p.sendData = .aboutToWait) := by
  simp only [notifyAll]
  split_ifs with hwaiting
  · refine ⟨_, rfl, ?_, nofun⟩
    rw [hwaiting]
    rfl
  · exact ⟨p.sendData, rfl, rfl, id⟩

end Programs

end ReliablePacket
