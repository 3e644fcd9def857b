/-
# Teardown

The receiver's threads exit once the receiver is finished; nobody answers a
retransmission after that. The thread that takes the last packet repeats the final
acknowledgement `FIN_ACK_NUM` times, and that is all the sender can hope for.

Copies are not destroyed except by loss. The final acknowledgements in flight, lost
and read, together with those a receiver thread still has to send, are at least
`FIN_ACK_NUM` from the moment the receiver is finished. A final acknowledgement that
is processed finishes the sender. So an unfinished sender that is left alone has
lost all of them, and such a state is never left again.
-/
import ReliablePacket.Programs.Invariant
import ReliablePacket.Programs.Wakeup
import ReliablePacket.System.Integrity

set_option autoImplicit false

namespace ReliablePacket

open SlideWindowSender

variable {t : Transfer} {p p' : Programs} {a : Programs.Action} {now : Timeval}
variable {timeoutThresholdUs : UInt64} {freed : List UInt8}

/-! ## Final acknowledgements -/

/-- The acknowledgement passes every packet of the transfer. -/
def Transfer.isFinal (t : Transfer) (ackPacket : AckPacket) : Bool :=
  decide (ackPacket.type = .regular ∧
    ackPacket.cumulativeSeqNum = lastPacketSeqNumOf t.bytesToSend + 1)

theorem Transfer.isFinal_iff {ackPacket : AckPacket} :
    t.isFinal ackPacket = true ↔ ackPacket.type = .regular ∧
      ackPacket.cumulativeSeqNum = lastPacketSeqNumOf t.bytesToSend + 1 :=
  decide_eq_true_iff

/-- The reply that goes with the last packet is final. -/
theorem System.Inv.isFinal_replyAck {sys : System} (h : sys.Inv t)
    {dataPacket : DataPacket (List UInt8)} (hmem : dataPacket ∈ sys.dataSent)
    {ret : RetAckPacket} {receiver : SlideWindowReceiver}
    (hreceive : sys.receiver.receiveDataPacket false dataPacket = .ok (ret, receiver))
    (hfinished : receiver.finished = true) : t.isFinal (replyAck dataPacket ret) = true := by
  have hmark := (h.received hmem hreceive).finishMark
  obtain ⟨_, _, heq, -, hcum, -⟩ :=
    SlideWindowReceiver.receiveDataPacket_cases false h.receiver (h.isData hmem)
  rw [hreceive] at heq
  cases heq
  rw [SlideWindowReceiver.finished, Bool.and_eq_true, decide_eq_true_iff] at hfinished
  refine Transfer.isFinal_iff.mpr ⟨rfl, ?_⟩
  change ret.cumulativeSeqNum = _
  rw [hcum, hfinished.2, hmark hfinished.1]

/-- How many final acknowledgements the thread will still send, if the receiver is
finished. -/
def ReceiveDataLocation.finalsLeft (t : Transfer) : ReceiveDataLocation → ℕ
  | .reply ackPacket => if t.isFinal ackPacket then finAckNum else 0
  | .sending ackPacket copies => if t.isFinal ackPacket then copies else 0
  | _ => 0

/-- An idle thread will send nothing. -/
theorem ReceiveDataLocation.Idle.finalsLeft_eq {location : ReceiveDataLocation}
    (h : location.Idle) : location.finalsLeft t = 0 := by
  rcases h with rfl | rfl | rfl <;> rfl

namespace Programs

/-- The final acknowledgements that were sent, duplicates included. -/
def finalAcks (t : Transfer) (p : Programs) : ℕ :=
  p.acksInFlight.countP t.isFinal + p.acksLost.countP t.isFinal + p.acksTaken.countP t.isFinal

/-- What every reachable state satisfies about final acknowledgements. -/
structure TeardownInv (t : Transfer) (p : Programs) : Prop where
  /-- Some thread makes the final acknowledgements complete. -/
  finals : p.sys.receiver.finished = true →
    ∃ i, finAckNum ≤ (p.receiveData i).finalsLeft t + p.finalAcks t
  exited : ∀ i, p.receiveData i = .exited → p.sys.receiver.finished = true
  /-- What was read was processed, or is in hand. -/
  taken : ∀ ackPacket ∈ p.acksTaken, ackPacket.type = .regular →
    ackPacket ∈ p.sys.acksProcessed ∨ ∃ i, p.receiveAck i = .received ackPacket

/-- The receiver is gone, no acknowledgement is on its way, and the sender is not
finished. -/
def Stranded (p : Programs) : Prop :=
  (∀ i, p.receiveData i = .exited) ∧ p.acksInFlight = [] ∧
    (∀ i, (p.receiveAck i).inHand = none) ∧ p.sys.sender.finished = false

instance (p : Programs) : Decidable p.Stranded :=
  inferInstanceAs (Decidable (_ ∧ _ ∧ _ ∧ _))

namespace TeardownInv

/-! ## Frames -/

/-- A receiver thread moves and sends as much as it then need no longer send. -/
theorem moveReceiveData {i : Fin receiveThreadNum} {location : ReceiveDataLocation}
    {acksInFlight : List AckPacket} (h : p.TeardownInv t)
    (hsent : p.acksInFlight.countP t.isFinal ≤ acksInFlight.countP t.isFinal)
    (hfinals : p.sys.receiver.finished = true →
      (p.receiveData i).finalsLeft t + p.acksInFlight.countP t.isFinal ≤
        location.finalsLeft t + acksInFlight.countP t.isFinal)
    (hexited : location = .exited → p.sys.receiver.finished = true) :
    ({ p with acksInFlight := acksInFlight }.setReceiveData i location).TeardownInv t := by
  refine ⟨fun hfinished => ?_, fun j hj => ?_, h.taken⟩
  · obtain ⟨j, hj⟩ := h.finals hfinished
    have hmoved := hfinals hfinished
    refine ⟨j, ?_⟩
    rw [receiveData_setReceiveData]
    unfold finalAcks at hj ⊢
    change _ ≤ _ + (acksInFlight.countP t.isFinal + p.acksLost.countP t.isFinal +
      p.acksTaken.countP t.isFinal)
    -- the thread that moved answers for itself, another one for what it did before
    split_ifs with hji
    · subst hji
      omega
    · change _ ≤ (p.receiveData j).finalsLeft t + _
      omega
  · rw [receiveData_setReceiveData] at hj
    split_ifs at hj
    · exact hexited hj
    · exact h.exited j hj

/-- A `receiveAck` thread moves and keeps or has processed what it has in hand. -/
theorem moveReceiveAck {i : Fin receiveAckThreadNum} {location : ReceiveAckLocation}
    (h : p.TeardownInv t)
    (hi : ∀ ackPacket, p.receiveAck i = .received ackPacket →
      ackPacket ∈ p.sys.acksProcessed) :
    (p.setReceiveAck i location).TeardownInv t := by
  refine ⟨h.finals, h.exited, fun ackPacket hmem hregular => ?_⟩
  -- another thread's acknowledgement stays in its hand
  rcases h.taken ackPacket hmem hregular with hprocessed | ⟨j, hj⟩
  · exact .inl hprocessed
  · by_cases hji : j = i
    · exact .inl (hi ackPacket (hji ▸ hj))
    · refine .inr ⟨j, ?_⟩
      rw [receiveAck_setReceiveAck, if_neg hji]
      exact hj

theorem notifyAll (h : p.TeardownInv t) : p.notifyAll.TeardownInv t := by
  obtain ⟨location, heq, -, -⟩ := notifyAll_eq p
  rw [heq]
  exact ⟨h.finals, h.exited, h.taken⟩

/-! ## One step -/

theorem init (t : Transfer) : (Programs.init t).TeardownInv t where
  finals := nofun
  exited := nofun
  taken := nofun

theorem sendDataStep (h : p.TeardownInv t) (hinv : p.Inv t) (ht : t.InRange)
    (hstep : p.sendDataStep now freed = some p') : p'.TeardownInv t := by
  rcases sendDataStep_cases hstep with ⟨done, location, rfl, -⟩ |
    ⟨packets, sys, hprepare, rfl, -⟩ | ⟨packet, packets, dataPacket, -, -, -, rfl⟩
  · exact ⟨h.finals, h.exited, h.taken⟩
  · rw [System.prepareDataPacketsToSend_eq hinv.system ht] at hprepare
    cases hprepare
    exact ⟨h.finals, h.exited, h.taken⟩
  · exact ⟨h.finals, h.exited, h.taken⟩

theorem receiveAckStep {i : Fin receiveAckThreadNum} (h : p.TeardownInv t) (hinv : p.Inv t)
    (ht : t.InRange) (hstep : p.receiveAckStep t i = some p') : p'.TeardownInv t := by
  rcases receiveAckStep_cases hstep with ⟨location, rfl, hnone, -⟩ |
    ⟨ackPacket, sys, hreceived, hack, rfl⟩ | ⟨hnotify, rfl⟩
  · exact h.moveReceiveAck fun ackPacket heq => absurd heq (hnone ackPacket)
  · rw [System.ackArrived_eq hinv.system ht (hinv.receiveAck i ackPacket hreceived)] at hack
    cases hack
    have hprocessed : { p with sys := { p.sys with
        sender := p.sys.sender.acked t.shrink ackPacket
        acksProcessed := ackPacket :: p.sys.acksProcessed } }.TeardownInv t :=
      ⟨h.finals, h.exited, fun other hmem hregular =>
        (h.taken other hmem hregular).imp_left (List.mem_cons_of_mem ackPacket)⟩
    refine hprocessed.moveReceiveAck fun other heq => ?_
    change p.receiveAck i = .received other at heq
    rw [hreceived] at heq
    cases heq
    exact List.mem_cons_self
  · refine h.notifyAll.moveReceiveAck fun ackPacket heq => ?_
    obtain ⟨location, hsame, -, -⟩ := notifyAll_eq p
    rw [hsame] at heq
    change p.receiveAck i = _ at heq
    rw [hnotify] at heq
    cases heq

theorem deliverAck {i : Fin receiveAckThreadNum} {ackPacket : AckPacket} (h : p.TeardownInv t)
    (hstep : p.deliverAck i ackPacket = some p') : p'.TeardownInv t := by
  obtain ⟨hreceive, hmem, location, rfl, hlocation⟩ := deliverAck_eq_some hstep
  refine ⟨fun hfinished => ?_, h.exited, fun other hother hregular => ?_⟩
  · -- what leaves the network is counted as read
    obtain ⟨j, hj⟩ := h.finals hfinished
    refine ⟨j, hj.trans (Nat.add_le_add_left ?_ _)⟩
    have hcount := (List.perm_cons_erase hmem).countP_eq t.isFinal
    rw [List.countP_cons] at hcount
    change p.acksInFlight.countP t.isFinal + p.acksLost.countP t.isFinal +
      p.acksTaken.countP t.isFinal ≤ (p.acksInFlight.erase ackPacket).countP t.isFinal +
        p.acksLost.countP t.isFinal + (ackPacket :: p.acksTaken).countP t.isFinal
    rw [List.countP_cons]
    omega
  · rcases List.mem_cons.mp hother with rfl | hold
    · rcases hlocation with ⟨-, rfl⟩ | ⟨hirregular, -⟩
      · refine .inr ⟨i, ?_⟩
        rw [receiveAck_setReceiveAck, if_pos rfl]
      · exact absurd hregular hirregular
    · refine (h.taken other hold hregular).imp_right fun ⟨j, hj⟩ => ⟨j, ?_⟩
      have hji : j ≠ i := by
        rintro rfl
        rw [hreceive] at hj
        cases hj
      rw [receiveAck_setReceiveAck, if_neg hji]
      exact hj

theorem checkTimeoutStep (h : p.TeardownInv t) (hinv : p.Inv t) (ht : t.InRange)
    (hstep : p.checkTimeoutStep t timeoutThresholdUs now = some p') : p'.TeardownInv t := by
  rcases checkTimeoutStep_cases hstep with ⟨location, rfl⟩ | ⟨sys, hsys, rfl⟩ | rfl
  · exact ⟨h.finals, h.exited, h.taken⟩
  · rw [System.checkTimeout_eq hinv.system ht] at hsys
    cases hsys
    exact ⟨h.finals, h.exited, h.taken⟩
  · exact ⟨h.notifyAll.finals, h.notifyAll.exited, h.notifyAll.taken⟩

theorem receiveDataStep {i : Fin receiveThreadNum} (h : p.TeardownInv t) (hinv : p.Inv t)
    (ht : t.InRange) (hstep : p.receiveDataStep i = some p') : p'.TeardownInv t := by
  rcases receiveDataStep_cases hstep with ⟨location, rfl, hidle, hexited, hfrom⟩ |
    ⟨dataPacket, ackPacket, sys, hreceived, hsys, rfl⟩ | ⟨ackPacket, hreply, rfl⟩ |
    ⟨ackPacket, copies, hsending, rfl⟩
  · refine h.moveReceiveData le_rfl (fun _ => ?_) hexited
    -- a thread leaves its reply only after the last copy
    have hzero : (p.receiveData i).finalsLeft t = 0 := by
      rcases hfrom with hidle | ⟨ackPacket, hsent⟩
      · exact hidle.finalsLeft_eq
      · rw [hsent]
        exact ite_self 0
    rw [hzero, hidle.finalsLeft_eq]
  · have hmem : dataPacket ∈ p.sys.dataSent := by
      have hok := hinv.receiveData i
      rw [hreceived] at hok
      exact hok
    obtain ⟨ret, receiver, hreceive, heq⟩ := System.receiveDataPacket_eq hinv.system hmem
    rw [heq] at hsys
    cases hsys
    refine ⟨fun hfinished => ⟨i, ?_⟩, fun j hj => ?_, fun other hmem hregular => ?_⟩
    · -- finished before or not, the thread's reply passes every packet
      rw [receiveData_setReceiveData, if_pos rfl]
      change _ ≤ (if t.isFinal (replyAck dataPacket ret) then finAckNum else 0) + _
      rw [if_pos (hinv.system.isFinal_replyAck hmem hreceive hfinished)]
      exact Nat.le_add_right _ _
    · rw [receiveData_setReceiveData] at hj
      split_ifs at hj
      exact (hinv.system.finished_received ht (h.exited j hj) hmem hreceive).1
    · exact h.taken other hmem hregular
  · refine h.moveReceiveData le_rfl (fun hfinished => ?_) nofun
    -- the thread that completes the transfer sends `FIN_ACK_NUM` copies
    rw [hreply, if_pos hfinished]
    rfl
  · refine h.moveReceiveData ?_ (fun _ => ?_) nofun
    · rw [List.countP_cons]
      exact Nat.le_add_right _ _
    · rw [hsending, List.countP_cons]
      simp only [ReceiveDataLocation.finalsLeft]
      split_ifs
      · omega
      · omega

/-- Every step of the programs keeps the final acknowledgements accounted for. -/
theorem step (h : p.TeardownInv t) (hinv : p.Inv t) (ht : t.InRange)
    (hstep : t.programs.step a p = some p') : p'.TeardownInv t := by
  change Programs.step t a p = some p' at hstep
  cases a with
  | sendData now freed => exact h.sendDataStep hinv ht hstep
  | spuriousWakeup =>
    obtain ⟨-, rfl⟩ := spuriousWakeup_eq_some hstep
    exact ⟨h.finals, h.exited, h.taken⟩
  | receiveAck i => exact h.receiveAckStep hinv ht hstep
  | deliverAck i ackPacket => exact h.deliverAck hstep
  | checkTimeout timeoutThresholdUs now => exact h.checkTimeoutStep hinv ht hstep
  | receiveData i => exact h.receiveDataStep hinv ht hstep
  | deliverData i dataPacket =>
    obtain ⟨hreceive, -, rfl⟩ := deliverData_eq_some hstep
    have hread : { p with dataInFlight := p.dataInFlight.erase dataPacket }.TeardownInv t :=
      ⟨h.finals, h.exited, h.taken⟩
    refine hread.moveReceiveData le_rfl (fun _ => ?_) fun hexited => ?_
    · change (p.receiveData i).finalsLeft t + _ ≤ _
      rw [hreceive]
      rfl
    · cases hexited
  | deliverHandshake i sentTime =>
    obtain ⟨hreceive, rfl⟩ := deliverHandshake_eq_some hstep
    refine h.moveReceiveData le_rfl (fun _ => ?_) fun hexited => ?_
    · rw [hreceive]
      rfl
    · cases hexited
  | network action =>
    obtain ⟨_, _, _, rfl, -, -, hcount⟩ := networkStep_frame hstep
    refine ⟨fun hfinished => ?_, h.exited, h.taken⟩
    obtain ⟨i, hi⟩ := h.finals hfinished
    exact ⟨i, hi.trans (Nat.add_le_add_left (Nat.add_le_add_right (hcount t.isFinal) _) _)⟩

end TeardownInv

theorem teardownInv_of_reachable (ht : t.InRange) (hreach : t.programs.Reachable p) :
    p.TeardownInv t :=
  TransitionSystem.ReachableVia.invariant (TeardownInv.init t)
    (fun _ _ _ hs h _ hstep => h.step (inv_of_reachable ht hs) ht hstep) hreach

/-- **A final acknowledgement that is processed finishes the sender**, if the file
is long enough. -/
theorem Inv.finished_of_isFinal (h : p.Inv t) (ht : t.InRange) (hlong : t.LongEnough)
    {ackPacket : AckPacket} (hmem : ackPacket ∈ p.sys.acksProcessed)
    (hfinal : t.isFinal ackPacket = true) : p.sys.sender.finished = true := by
  have hle := h.system.protocol.inv.processed_le _ (System.toAck_mem_processed hmem)
  have hlast := ht.toNat_lastPacketSeqNum
  have hlt := ht.lt
  -- a final cumulative number is behind the last packet, and the left bound follows it
  have hcum : ackPacket.cumulativeSeqNum.toNat = t.packets := by
    rw [(Transfer.isFinal_iff.mp hfinal).2, UInt32.toNat_add, UInt32.toNat_one]
    omega
  refine h.system.sender.finished_iff.mpr ⟨?_, fun k hk => hlong.length_packetData hk⟩
  exact le_antisymm h.system.sender.leftBound_le (hcum ▸ hle)

/-- An unfinished sender that has no acknowledgement in hand has read no final one. -/
theorem TeardownInv.countP_acksTaken (h : p.TeardownInv t) (hinv : p.Inv t) (ht : t.InRange)
    (hlong : t.LongEnough) (hhand : ∀ i, (p.receiveAck i).inHand = none)
    (hfinished : p.sys.sender.finished = false) : p.acksTaken.countP t.isFinal = 0 := by
  refine List.countP_eq_zero.mpr fun ackPacket hmem hfinal => ?_
  rcases h.taken ackPacket hmem (Transfer.isFinal_iff.mp hfinal).1 with hprocessed | ⟨i, hi⟩
  · rw [hinv.finished_of_isFinal ht hlong hprocessed hfinal] at hfinished
    cases hfinished
  · exact ReceiveAckLocation.inHand_eq_none_iff.mp (hhand i) ackPacket hi

/-! ## The state is permanent -/

/-- Preparing packets counts no bytes. -/
theorem finished_prepared {sys sys' : System} {packets : List (DataPacket ItemData)}
    (h : sys.Inv t) (ht : t.InRange)
    (hprepare : sys.prepareDataPacketsToSend now = some (packets, sys')) :
    sys'.sender.finished = sys.sender.finished := by
  rw [System.prepareDataPacketsToSend_eq h ht] at hprepare
  cases hprepare
  rfl

namespace Stranded

theorem sendDataStep (h : p.Stranded) (hinv : p.Inv t) (ht : t.InRange)
    (hstep : p.sendDataStep now freed = some p') : p'.Stranded := by
  obtain ⟨hexited, hflight, hhand, hsender⟩ := h
  rcases sendDataStep_cases hstep with ⟨done, location, rfl, -⟩ |
    ⟨packets, sys, hprepare, rfl, -⟩ | ⟨packet, packets, dataPacket, -, -, -, rfl⟩
  · exact ⟨hexited, hflight, hhand, hsender⟩
  · exact ⟨hexited, hflight, hhand, (finished_prepared hinv.system ht hprepare).trans hsender⟩
  · exact ⟨hexited, hflight, hhand, hsender⟩

theorem receiveAckStep {i : Fin receiveAckThreadNum} (h : p.Stranded)
    (hstep : p.receiveAckStep t i = some p') : p'.Stranded := by
  obtain ⟨hexited, hflight, hhand, hsender⟩ := h
  rcases receiveAckStep_cases hstep with ⟨location, rfl, -, hlocation, -⟩ |
    ⟨ackPacket, sys, hreceived, -, -⟩ | ⟨-, rfl⟩
  · refine ⟨hexited, hflight, fun j => ?_, hsender⟩
    rw [receiveAck_setReceiveAck]
    split_ifs
    · exact ReceiveAckLocation.inHand_eq_none_iff.mpr hlocation
    · exact hhand j
  · -- there is no acknowledgement left to process
    exact absurd hreceived (ReceiveAckLocation.inHand_eq_none_iff.mp (hhand i) ackPacket)
  · obtain ⟨location, heq, -, -⟩ := notifyAll_eq p
    rw [heq]
    refine ⟨hexited, hflight, fun j => ?_, hsender⟩
    rw [receiveAck_setReceiveAck]
    split_ifs
    · rfl
    · exact hhand j

theorem checkTimeoutStep (h : p.Stranded)
    (hstep : p.checkTimeoutStep t timeoutThresholdUs now = some p') : p'.Stranded := by
  obtain ⟨hexited, hflight, hhand, hsender⟩ := h
  rcases checkTimeoutStep_cases hstep with ⟨location, rfl⟩ | ⟨sys, hsys, rfl⟩ | rfl
  · exact ⟨hexited, hflight, hhand, hsender⟩
  · exact ⟨hexited, hflight, hhand, (finished_checkTimeout hsys).trans hsender⟩
  · obtain ⟨location, heq, -, -⟩ := notifyAll_eq p
    rw [heq]
    exact ⟨hexited, hflight, hhand, hsender⟩

/-- Nothing that may still happen finishes the sender. -/
theorem step (h : p.Stranded) (hinv : p.Inv t) (ht : t.InRange)
    (hstep : t.programs.step a p = some p') : p'.Stranded := by
  have ⟨hexited, hflight, hhand, hsender⟩ := h
  change Programs.step t a p = some p' at hstep
  cases a with
  | sendData now freed => exact h.sendDataStep hinv ht hstep
  | spuriousWakeup =>
    obtain ⟨-, rfl⟩ := spuriousWakeup_eq_some hstep
    exact ⟨hexited, hflight, hhand, hsender⟩
  | receiveAck i => exact h.receiveAckStep hstep
  | deliverAck i ackPacket =>
    obtain ⟨-, hmem, -⟩ := deliverAck_eq_some hstep
    rw [hflight] at hmem
    cases hmem
  | checkTimeout timeoutThresholdUs now => exact h.checkTimeoutStep hstep
  | receiveData i =>
    change p.receiveDataStep i = some p' at hstep
    rw [receiveDataStep, hexited i] at hstep
    cases hstep
  | deliverData i dataPacket =>
    obtain ⟨hreceive, -, -⟩ := deliverData_eq_some hstep
    rw [hexited i] at hreceive
    cases hreceive
  | deliverHandshake i sentTime =>
    obtain ⟨hreceive, -⟩ := deliverHandshake_eq_some hstep
    rw [hexited i] at hreceive
    cases hreceive
  | network action =>
    obtain ⟨_, acksInFlight, _, rfl, -, hacks, -⟩ := networkStep_frame hstep
    rw [hflight] at hacks
    exact ⟨hexited, List.subset_nil.mp hacks, hhand, hsender⟩

/-- A sender left alone is never finished. -/
theorem run {as : List Action} (h : p.Stranded) (ht : t.InRange)
    (hreach : t.programs.Reachable p) (hrun : t.programs.run as p = some p') : p'.Stranded :=
  hreach.stable (fun _ _ _ hu hstranded hstep =>
    hstranded.step (inv_of_reachable ht hu) ht hstep) h hrun

end Stranded

end Programs

/-- **Teardown costs at least `FIN_ACK_NUM` losses.** When the receiver's threads
have exited, no acknowledgement is on its way and the sender is not finished, the
network has lost at least `FIN_ACK_NUM` final acknowledgements. The receiver then
has every packet of the transfer. -/
theorem finAckNum_le_lost_of_stranded (ht : t.InRange) (hlong : t.LongEnough)
    (hreach : t.programs.Reachable p) (hstranded : p.Stranded) :
    finAckNum ≤ p.acksLost.countP t.isFinal ∧ p.sys.receiver.finished = true ∧
      ∀ n < t.packets, n ∈ p.sys.receiver.written := by
  obtain ⟨hexited, hflight, hhand, hsender⟩ := hstranded
  have hinv := Programs.inv_of_reachable ht hreach
  have h := Programs.teardownInv_of_reachable ht hreach
  have hreceiver := h.exited 0 (hexited 0)
  obtain ⟨i, hi⟩ := h.finals hreceiver
  have htaken := h.countP_acksTaken hinv ht hlong hhand hsender
  refine ⟨?_, hreceiver, fun n hn => hinv.system.receiver.hole.1 n ?_⟩
  · calc finAckNum
        ≤ (p.receiveData i).finalsLeft t + p.finalAcks t := hi
      _ = 0 + ((List.countP t.isFinal []) + p.acksLost.countP t.isFinal + 0) := by
        rw [hexited i, Programs.finalAcks, hflight, htaken]
        rfl
      _ = p.acksLost.countP t.isFinal := by simp
  · rw [hinv.system.nextExpected_of_finished ht hreceiver]
    exact hn

/-! ## Left alone -/

namespace Programs

/-- The only packet is sent and taken, and all four final acknowledgements are
lost. -/
def lostRepliesRun : List Action :=
  sendDataSteps 6 ++ receiverRun ++
    List.replicate 4 (.network (.loseAck ⟨.regular, 1, 0, ⟨0, 0⟩⟩))

/-- The only packet is sent and taken, and all four final acknowledgements are
processed without finishing the sender. -/
def processedRepliesRun : List Action :=
  sendDataSteps 6 ++ receiverRun ++ (List.replicate 4 receiveAckRound.dropLast).flatten

end Programs

/-- In the transfer of one byte, all four are lost. -/
theorem finAckNum_le_lost_of_stranded_lostRepliesRun :
    finAckNum ≤ (Transfer.oneByte.programs.endOf
      Programs.lostRepliesRun).acksLost.countP Transfer.oneByte.isFinal :=
  (finAckNum_le_lost_of_stranded Transfer.oneByte_inRange (le_refl 1)
    (Transfer.oneByte.programs.reachable_endOf _) (by decide +kernel)).1

/-- One packet more than there are sequence numbers; the last one is 0 again. -/
def Transfer.wrapped : Transfer :=
  ⟨⟨6227702579201, fun _ => 7⟩, 6227702579201, slideWindowFastRetransmission, .truncated⟩

/-- With all final acknowledgements lost the sender is left alone for good. Where
sequence numbers wrap the same happens with nothing lost. -/
theorem stranded_lostRepliesRun :
    (∃ p, Transfer.oneByte.programs.Reachable p ∧ p.Stranded ∧
        ∀ as p', Transfer.oneByte.programs.run as p = some p' →
          p'.sys.sender.finished = false) ∧
      Transfer.wrapped.LongEnough ∧ 0 < Transfer.wrapped.packets ∧
      ∃ p, Transfer.wrapped.programs.Reachable p ∧ p.Stranded ∧ p.acksLost = [] := by
  have hreach := Transfer.oneByte.programs.reachable_endOf Programs.lostRepliesRun
  have hstranded : (Transfer.oneByte.programs.endOf Programs.lostRepliesRun).Stranded := by
    decide +kernel
  refine ⟨⟨_, hreach, hstranded, fun as p' hrun => ?_⟩, le_refl _, by decide +kernel,
    _, Transfer.wrapped.programs.reachable_endOf Programs.processedRepliesRun, ?_, ?_⟩
  · exact (hstranded.run Transfer.oneByte_inRange hreach hrun).2.2.2
  · decide +kernel
  · decide +kernel

end ReliablePacket
