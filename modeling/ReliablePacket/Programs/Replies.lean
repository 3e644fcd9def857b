/-
# Acknowledgements and replies that arrive

An acknowledgement on its way can arrive and be processed, and then the left bound is
not below its cumulative number. A receiver thread can answer what it has read, and the
reply to the packet at the left bound passes the left bound.
-/
import ReliablePacket.Programs.SenderRounds

set_option autoImplicit false

namespace ReliablePacket

open SlideWindowSender

variable {t : Transfer} {p p' q : Programs} {a : Programs.Action} {now : Timeval}

/-- How many steps a `receiveAck` thread is away from `recvfrom`. -/
def ReceiveAckLocation.untilReceive : ReceiveAckLocation → ℕ
  | .receive => 0
  | .loopTest => 1
  | .notify => 2
  | .testFinished => 3
  | .testHasData => 4
  | .received _ => 5
  | .exited => 0

/-- How many steps a receiver thread is away from `recvfrom`. -/
def ReceiveDataLocation.untilReceive : ReceiveDataLocation → ℕ
  | .receive => 0
  | .loopTest => 1
  | .sending _ copies => copies + 2
  | .reply _ => 4
  | .received _ => 5
  | .exited => 0

namespace Programs

/-! ## One acknowledgement -/

/-- Only `receiveAck` threads have worked, and none of them has read an
acknowledgement. -/
structure AckRound (p q : Programs) : Prop where
  done : q.done = p.done
  acksInFlight : q.acksInFlight = p.acksInFlight
  receiver : q.sys.receiver = p.sys.receiver
  leftBound_le : p.sys.sender.leftBound ≤ q.sys.sender.leftBound

theorem AckRound.refl (p : Programs) : p.AckRound p := ⟨rfl, rfl, rfl, le_rfl⟩

theorem AckRound.trans (h : p.AckRound p') (h' : p'.AckRound q) : p.AckRound q :=
  ⟨h'.done.trans h.done, h'.acksInFlight.trans h.acksInFlight, h'.receiver.trans h.receiver,
    h.leftBound_le.trans h'.leftBound_le⟩

/-- Until it is in `recvfrom`, a `receiveAck` thread comes closer to it by every step. -/
theorem exists_receiveAckStep_lt (ht : t.InRange) (h : p.Inv t) {i : Fin receiveAckThreadNum}
    (hdone : p.done = false) (hexited : p.receiveAck i ≠ .exited)
    (hreceive : p.receiveAck i ≠ .receive) :
    ∃ p', t.programs.step (.receiveAck i) p = some p' ∧ p.AckRound p' ∧
      p'.receiveAck i ≠ .exited ∧
      (p'.receiveAck i).untilReceive < (p.receiveAck i).untilReceive := by
  simp only [Transfer.programs, Programs.step, receiveAckStep]
  cases hlocation : p.receiveAck i with
  | receive => exact absurd hlocation hreceive
  | exited => exact absurd hlocation hexited
  | loopTest =>
    rw [if_neg (by simp [hdone])]
    exact ⟨_, rfl, ⟨rfl, rfl, rfl, le_rfl⟩, by simp, by simp [ReceiveAckLocation.untilReceive]⟩
  | received ackPacket =>
    have hmem := h.receiveAck i ackPacket hlocation
    have hleft := leftBound_acked t.shrink (h.system.cumulativeSeqNum_le hmem)
    simp only [System.ackArrived_eq h.system ht hmem]
    refine ⟨_, rfl, ⟨rfl, rfl, rfl, ?_⟩, by simp, by simp [ReceiveAckLocation.untilReceive]⟩
    exact le_of_le_of_eq (le_max_left _ _) hleft.symm
  | testHasData =>
    refine ⟨_, rfl, ⟨rfl, rfl, rfl, le_rfl⟩, ?_, ?_⟩ <;>
      rw [receiveAck_setReceiveAck, if_pos rfl] <;> split_ifs <;>
      simp [ReceiveAckLocation.untilReceive]
  | testFinished =>
    refine ⟨_, rfl, ⟨rfl, rfl, rfl, le_rfl⟩, ?_, ?_⟩ <;>
      rw [receiveAck_setReceiveAck, if_pos rfl] <;> split_ifs <;>
      simp [ReceiveAckLocation.untilReceive]
  | notify =>
    obtain ⟨location, heq, -⟩ := notifyAll_eq p
    rw [heq]
    exact ⟨_, rfl, ⟨rfl, rfl, rfl, le_rfl⟩, by simp, by simp [ReceiveAckLocation.untilReceive]⟩

/-- A `receiveAck` thread comes to `recvfrom`. -/
theorem canReach_receiveAck (ht : t.InRange) (hreach : t.programs.Reachable p)
    (i : Fin receiveAckThreadNum) (hdone : p.done = false) :
    t.programs.CanReach Action.Cooperates p fun q =>
      q.receiveAck i = .receive ∧ p.AckRound q := by
  have hexited : p.receiveAck i ≠ .exited := by
    intro hexited
    rw [(done_of_exited hreach).1 i hexited] at hdone
    cases hdone
  refine .of_rank (fun q => p.AckRound q ∧ q.receiveAck i ≠ .exited)
    (fun q => (q.receiveAck i).untilReceive) ?_ hreach ⟨.refl p, hexited⟩
  rintro q hreach' ⟨hround, hexited'⟩
  by_cases hreceive : q.receiveAck i = .receive
  · exact .here (.inl ⟨hreceive, hround⟩)
  · obtain ⟨q', hstep, hround', hexited'', hlt⟩ := exists_receiveAckStep_lt ht
      (inv_of_reachable ht hreach') (hround.done.trans hdone) hexited' hreceive
    exact .step hstep trivial (.here (.inr ⟨⟨hround.trans hround', hexited''⟩, hlt⟩))

/-- An acknowledgement that a thread has read is processed. -/
theorem step_receiveAck_received (ht : t.InRange) (h : p.Inv t) {i : Fin receiveAckThreadNum}
    {ackPacket : AckPacket} (hreceived : p.receiveAck i = .received ackPacket) :
    t.programs.step (.receiveAck i) p = some ({ p with
      sys := { p.sys with
        sender := p.sys.sender.acked t.shrink ackPacket
        acksProcessed := ackPacket :: p.sys.acksProcessed } }.setReceiveAck i .testHasData) := by
  simp [Transfer.programs, Programs.step, receiveAckStep, hreceived,
    System.ackArrived_eq h.system ht (h.receiveAck i ackPacket hreceived)]

/-- A thread in `recvfrom` reads an acknowledgement that is on its way and processes it. -/
theorem canReach_processed {permitted : Action → Prop} {i : Fin receiveAckThreadNum}
    {ackPacket : AckPacket} (hdeliver : permitted (.deliverAck i ackPacket))
    (hprocess : permitted (.receiveAck i)) (ht : t.InRange) (hreach : t.programs.Reachable p)
    (hreceive : p.receiveAck i = .receive) (hmem : ackPacket ∈ p.acksInFlight)
    (hregular : ackPacket.type = .regular) :
    t.programs.CanReach permitted p fun q =>
      q.sys.sender = p.sys.sender.acked t.shrink ackPacket ∧
        q.sys.receiver = p.sys.receiver ∧ q.receiveAck i = .testHasData ∧
        q.receiveData = p.receiveData ∧ q.sendData = p.sendData ∧
        q.dataInFlight = p.dataInFlight := by
  set p₁ : Programs := { p with
    acksInFlight := p.acksInFlight.erase ackPacket
    acksTaken := ackPacket :: p.acksTaken }.setReceiveAck i (.received ackPacket) with hp₁
  have hstep₁ : t.programs.step (.deliverAck i ackPacket) p = some p₁ := by
    simp [Transfer.programs, Programs.step, deliverAck, hreceive, hmem, hregular, hp₁]
  have hreceived : p₁.receiveAck i = .received ackPacket := by
    rw [hp₁, receiveAck_setReceiveAck, if_pos rfl]
  have hstep₂ :=
    step_receiveAck_received ht (inv_of_reachable ht (hreach.step hstep₁)) hreceived
  exact .step hstep₁ hdeliver (.step hstep₂ hprocess (.here ⟨rfl, rfl, by simp, rfl, rfl, rfl⟩))

/-- **An acknowledgement on its way can arrive.** Then the left bound is not below its
cumulative number. -/
theorem canReach_acked (ht : t.InRange) (hreach : t.programs.Reachable p) {ackPacket : AckPacket}
    (hmem : ackPacket ∈ p.acksInFlight) (hregular : ackPacket.type = .regular) :
    t.programs.CanReach Action.Cooperates p fun q =>
      ackPacket.cumulativeSeqNum.toNat ≤ q.sys.sender.leftBound ∧
        q.sys.receiver = p.sys.receiver := by
  have h := inv_of_reachable ht hreach
  cases hdone : p.done with
  | true =>
    -- a sender that is done has everything acknowledged
    have hfinished := (concludes_of_reachable ht hreach).done hdone
    have hleft := (h.system.sender.finished_iff.mp hfinished).1
    have hedge := h.system.sender.rightEdge_le
    have hcum := h.system.cumulativeSeqNum_le (h.acksInFlight ackPacket hmem hregular)
    exact .here ⟨by omega, rfl⟩
  | false =>
    refine (canReach_receiveAck ht hreach 0 hdone).trans hreach ?_
    rintro p₁ hreach₁ ⟨hreceive, hround⟩
    rw [← hround.acksInFlight] at hmem
    refine (canReach_processed trivial trivial ht hreach₁ hreceive hmem hregular).imp ?_
    rintro q ⟨hsender, hreceiver, -⟩
    have h₁ := inv_of_reachable ht hreach₁
    have hleft := leftBound_acked t.shrink
      (h₁.system.cumulativeSeqNum_le (h₁.acksInFlight ackPacket hmem hregular))
    refine ⟨?_, hreceiver.trans hround.receiver⟩
    rw [hsender]
    exact le_of_le_of_eq (le_max_right _ _) hleft.symm

/-! ## One reply -/

section Steps

variable {i : Fin receiveThreadNum} {ackPacket : AckPacket} {copies : ℕ}
variable {dataPacket : DataPacket (List UInt8)}

/-- A receiver thread in `recvfrom` reads a packet that is on its way. -/
theorem step_deliverData (hreceive : p.receiveData i = .receive)
    (hmem : dataPacket ∈ p.dataInFlight) : t.programs.step (.deliverData i dataPacket) p =
      some ({ p with dataInFlight := p.dataInFlight.erase dataPacket }.setReceiveData i
        (.received dataPacket)) := by
  simp [Transfer.programs, Programs.step, deliverData, hmem, hreceive]

/-- Whether the receiver is finished or not, at least one copy of a reply is sent. -/
theorem exists_step_reply (hreply : p.receiveData i = .reply ackPacket) :
    ∃ copies, t.programs.step (.receiveData i) p =
      some (p.setReceiveData i (.sending ackPacket (copies + 1))) := by
  simp only [Transfer.programs, Programs.step, receiveDataStep, hreply]
  split_ifs
  · exact ⟨3, rfl⟩
  · exact ⟨0, rfl⟩

/-- One copy of a reply is sent. -/
theorem step_sending (hsending : p.receiveData i = .sending ackPacket (copies + 1)) :
    t.programs.step (.receiveData i) p =
      some ({ p with acksInFlight := ackPacket :: p.acksInFlight }.setReceiveData i
        (.sending ackPacket copies)) := by
  simp [Transfer.programs, Programs.step, receiveDataStep, hsending]

end Steps

/-- **A reply can arrive**: a receiver thread that has to send it sends it. -/
theorem canReach_sent (ht : t.InRange) (hreach : t.programs.Reachable p)
    {i : Fin receiveThreadNum} {ackPacket : AckPacket} {copies : ℕ}
    (hsending : p.receiveData i = .sending ackPacket (copies + 1))
    (hregular : ackPacket.type = .regular) :
    t.programs.CanReach Action.Cooperates p fun q =>
      ackPacket.cumulativeSeqNum.toNat ≤ q.sys.sender.leftBound ∧
        q.sys.receiver = p.sys.receiver := by
  have hstep := step_sending (t := t) hsending
  exact .step hstep trivial
    (canReach_acked ht (hreach.step hstep) List.mem_cons_self hregular)

theorem canReach_replied (ht : t.InRange) (hreach : t.programs.Reachable p)
    {i : Fin receiveThreadNum} {ackPacket : AckPacket} (hreply : p.receiveData i = .reply ackPacket)
    (hregular : ackPacket.type = .regular) :
    t.programs.CanReach Action.Cooperates p fun q =>
      ackPacket.cumulativeSeqNum.toNat ≤ q.sys.sender.leftBound ∧
        q.sys.receiver = p.sys.receiver := by
  obtain ⟨copies, hstep⟩ := exists_step_reply (t := t) hreply
  have hsending : (p.setReceiveData i (.sending ackPacket (copies + 1))).receiveData i =
      .sending ackPacket (copies + 1) := by
    simp
  exact .step hstep trivial (canReach_sent ht (hreach.step hstep) hsending hregular)

/-- What a receiver thread has read it takes, and its reply is final if the receiver is
finished then. -/
theorem exists_receiveDataStep_received (ht : t.InRange) (h : p.Inv t) {i : Fin receiveThreadNum}
    {dataPacket : DataPacket (List UInt8)} (hreceived : p.receiveData i = .received dataPacket) :
    ∃ ackPacket p', t.programs.step (.receiveData i) p = some p' ∧
      p'.receiveData i = .reply ackPacket ∧ ackPacket.type = .regular ∧
      p'.sys.sender = p.sys.sender ∧
      (p'.sys.receiver.finished = true → t.isFinal ackPacket = true) ∧
      (p.sys.receiver.finished = true → p'.sys.receiver.finished = true) ∧
      (dataPacket.seqNum.toNat = p.sys.sender.leftBound →
        p.sys.sender.leftBound < ackPacket.cumulativeSeqNum.toNat) := by
  have hmem : dataPacket ∈ p.sys.dataSent := by
    have hok := h.receiveData i
    rw [hreceived] at hok
    exact hok
  obtain ⟨ret, receiver, hreceive, heq⟩ := System.receiveDataPacket_eq h.system hmem
  have hstep : t.programs.step (.receiveData i) p = some ({ p with
      sys := { p.sys with
        receiver := receiver
        acksSent := replyAck dataPacket ret :: p.sys.acksSent } }.setReceiveData i
          (.reply (replyAck dataPacket ret))) := by
    simp [Transfer.programs, Programs.step, receiveDataStep, hreceived, heq]
  exact ⟨_, _, hstep, by simp, rfl, rfl, h.system.isFinal_replyAck hmem hreceive,
    fun hfinished => (h.system.finished_received ht hfinished hmem hreceive).1,
    fun hseq => h.system.lt_cumulativeSeqNum ht hmem hseq hreceive⟩

/-- While the receiver is not finished, a thread outside `recvfrom` comes closer to it by
its next step, or makes a final reply. -/
theorem exists_receiveDataStep_lt (ht : t.InRange) (hreach : t.programs.Reachable p)
    {i : Fin receiveThreadNum} (hreceiver : p.sys.receiver.finished = false)
    (hreceive : p.receiveData i ≠ .receive) :
    ∃ p', t.programs.step (.receiveData i) p = some p' ∧ p'.sys.sender = p.sys.sender ∧
      ((∃ ackPacket, p'.receiveData i = .reply ackPacket ∧ t.isFinal ackPacket = true) ∨
        p'.sys.receiver.finished = false ∧
          (p'.receiveData i).untilReceive < (p.receiveData i).untilReceive) := by
  have hmove : ∀ location, p.receiveDataStep i = some (p.setReceiveData i location) →
      location.untilReceive < (p.receiveData i).untilReceive →
      ∃ p', t.programs.step (.receiveData i) p = some p' ∧ p'.sys.sender = p.sys.sender ∧
        ((∃ ackPacket, p'.receiveData i = .reply ackPacket ∧ t.isFinal ackPacket = true) ∨
          p'.sys.receiver.finished = false ∧
            (p'.receiveData i).untilReceive < (p.receiveData i).untilReceive) := by
    intro location hstep hlt
    refine ⟨_, hstep, rfl, .inr ⟨hreceiver, ?_⟩⟩
    rw [receiveData_setReceiveData, if_pos rfl]
    exact hlt
  cases hlocation : p.receiveData i with
  | receive => exact absurd hlocation hreceive
  | loopTest =>
    rw [hlocation] at hmove
    exact hmove .receive (by simp [receiveDataStep, hlocation, hreceiver]) (by decide)
  | reply ackPacket =>
    rw [hlocation] at hmove
    exact hmove (.sending ackPacket 1) (by simp [receiveDataStep, hlocation, hreceiver])
      (by simp [ReceiveDataLocation.untilReceive])
  | sending ackPacket copies =>
    cases copies with
    | zero =>
      rw [hlocation] at hmove
      exact hmove .loopTest (by simp [receiveDataStep, hlocation])
        (by simp [ReceiveDataLocation.untilReceive])
    | succ copies =>
      exact ⟨_, step_sending hlocation, rfl,
        .inr ⟨hreceiver, by simp [ReceiveDataLocation.untilReceive]⟩⟩
  | received dataPacket =>
    obtain ⟨ackPacket, p', hstep, hreply, -, hsame, hfinal, -⟩ :=
      exists_receiveDataStep_received ht (inv_of_reachable ht hreach) hlocation
    refine ⟨p', hstep, hsame, ?_⟩
    cases hfinished : p'.sys.receiver.finished with
    | true => exact .inl ⟨ackPacket, hreply, hfinal hfinished⟩
    | false => exact .inr ⟨rfl, by simp [hreply, ReceiveDataLocation.untilReceive]⟩
  | exited =>
    -- a thread exits only when the receiver is finished
    rw [(teardownInv_of_reachable ht hreach).exited i hlocation] at hreceiver
    cases hreceiver

/-- While the receiver is not finished, each of its threads comes to `recvfrom`, or to a
final reply. -/
theorem canReach_receive (ht : t.InRange) (hreach : t.programs.Reachable p)
    (i : Fin receiveThreadNum) (hreceiver : p.sys.receiver.finished = false) :
    t.programs.CanReach Action.Cooperates p fun q =>
      (q.receiveData i = .receive ∧ q.sys.receiver.finished = false ∨
        ∃ ackPacket, q.receiveData i = .reply ackPacket ∧ t.isFinal ackPacket = true) ∧
      q.sys.sender = p.sys.sender := by
  refine .of_rank
    (fun q => q.sys.receiver.finished = false ∧ q.sys.sender = p.sys.sender)
    (fun q => (q.receiveData i).untilReceive) ?_ hreach ⟨hreceiver, rfl⟩
  rintro q hreach' ⟨hreceiver', hsame⟩
  by_cases hreceive : q.receiveData i = .receive
  · exact .here (.inl ⟨.inl ⟨hreceive, hreceiver'⟩, hsame⟩)
  obtain ⟨q', hstep, hsame', hfinal | ⟨hreceiver'', hlt⟩⟩ :=
    exists_receiveDataStep_lt ht hreach' hreceiver' hreceive
  · exact .step hstep trivial (.here (.inl ⟨.inr hfinal, hsame'.trans hsame⟩))
  · exact .step hstep trivial (.here (.inr ⟨⟨hreceiver'', hsame'.trans hsame⟩, hlt⟩))

/-- A receiver thread in `recvfrom` reads the packet at the left bound, and the reply to
it passes the left bound. -/
theorem canReach_headTaken (ht : t.InRange) (hlong : t.LongEnough)
    (hreach : t.programs.Reachable p) {i : Fin receiveThreadNum}
    (hreceive : p.receiveData i = .receive) (hsender : p.sys.sender.finished = false) :
    t.programs.CanReach Action.Cooperates p fun q =>
      (∃ ackPacket, q.receiveData i = .reply ackPacket ∧ ackPacket.type = .regular ∧
        p.sys.sender.leftBound < ackPacket.cumulativeSeqNum.toNat ∧
          (q.sys.receiver.finished = true → t.isFinal ackPacket = true)) ∧
      (p.sys.receiver.finished = true → q.sys.receiver.finished = true) := by
  refine (canReach_headSent ht hlong hreach hsender).trans hreach ?_
  rintro p₁ hreach₁ ⟨⟨dataPacket, hmem, hseq⟩, hround⟩
  rw [← hround.receiveData] at hreceive
  have hstep₁ := step_deliverData (t := t) hreceive hmem
  have hreach₂ := hreach₁.step hstep₁
  have hreceived : ({ p₁ with dataInFlight := p₁.dataInFlight.erase dataPacket }.setReceiveData i
      (.received dataPacket)).receiveData i = .received dataPacket := by
    simp
  obtain ⟨ackPacket, p₃, hstep₂, hreply, hregular, -, hfinal, hkeep, hlt⟩ :=
    exists_receiveDataStep_received ht (inv_of_reachable ht hreach₂) hreceived
  refine .step hstep₁ trivial (.step hstep₂ trivial (.here
    ⟨⟨ackPacket, hreply, hregular, ?_, hfinal⟩, fun hfinished => hkeep ?_⟩))
  · rw [← hround.leftBound]
    exact hlt hseq
  · change p₁.sys.receiver.finished = true
    rw [hround.receiver]
    exact hfinished

end Programs

end ReliablePacket
