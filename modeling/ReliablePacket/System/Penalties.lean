/-
# Congestion penalties

A penalty sets the flag that keeps the next one away until the sender has sent
again. The flag is reset by every sending round, also by one that finds nothing
to send, so two penalties can follow each other without a packet between them.

The penalty of a timeout sets the congestion window to its minimum. The penalty of
fast retransmission sets it to the new threshold, which is never below 20, so
that it can enlarge a window that was smaller.
-/
import ReliablePacket.Protocol.CongestionControl
import ReliablePacket.System.Invariant

set_option autoImplicit false

namespace ReliablePacket

open SlideWindowSender

namespace System

variable {t : Transfer} {sys sys' sys₁ sys₂ sys₃ : System} {a b : Action} {as : List Action}

/-- The action applies a congestion penalty. -/
def punishes (sys : System) : Action → Bool
  | .checkTimeout timeoutThresholdUs now => sys.sender.punishesTimeout timeoutThresholdUs now
  | .ackArrived ackPacket => sys.sender.punishesDuplicateAck ackPacket
  | _ => false

/-- The action is a sending round that returns a packet. -/
def sends (sys : System) : Action → Bool
  | .prepareDataPacketsToSend now =>
    (sys.prepareDataPacketsToSend now).any fun result => !result.1.isEmpty
  | _ => false

/-! ## Between two penalties -/

/-- The action is not a sending round after a penalty that finds nothing to send. -/
def findsWork (sys : System) : Action → Bool
  | .prepareDataPacketsToSend _ =>
    !sys.sender.curCongestionWindowTimeouted ||
      (sys.sender.slideWindow.take (min sys.sender.curCongestionWindow.toNat
        sys.sender.slideWindow.length)).any (·.isSendable)
  | _ => true

/-- A sending round that has work returns a packet. -/
theorem sends_of_findsWork {now : Timeval}
    (hflag : sys.sender.curCongestionWindowTimeouted = true)
    (hwork : sys.findsWork (.prepareDataPacketsToSend now) = true) :
    sys.sends (.prepareDataPacketsToSend now) = true := by
  rw [findsWork, hflag, Bool.not_true, Bool.false_or, ← List.take_take, List.take_length] at hwork
  obtain ⟨item, hmem, hsendable⟩ := List.any_eq_true.mp hwork
  have hround : sys.prepareDataPacketsToSend now = some (sys.sender.preparedPackets now,
      { sys with sender := sys.sender.prepared now }) := by
    rw [System.prepareDataPacketsToSend, prepareDataPacketsToSend_release]
    rfl
  have hpacket : sys.sender.toDataPacket now item ∈ sys.sender.preparedPackets now :=
    List.mem_map_of_mem (List.mem_filter.mpr ⟨hmem, hsendable⟩)
  rw [sends, hround]
  change (!(sys.sender.preparedPackets now).isEmpty) = true
  rw [Bool.not_eq_true', List.isEmpty_eq_false_iff]
  exact List.ne_nil_of_mem hpacket

/-- What one step does to the sender, in any state. -/
theorem sender_cases (hstep : t.system.step a sys = some sys') :
    (∃ now, a = .prepareDataPacketsToSend now ∧ sys'.sender = sys.sender.prepared now) ∨
      (∃ timeoutThresholdUs now, a = .checkTimeout timeoutThresholdUs now ∧
        sys'.sender = sys.sender.timeoutChecked t.shrink timeoutThresholdUs now) ∨
      (∃ ackPacket, a = .ackArrived ackPacket ∧
        sys.sender.ackArrived t.shrink false ackPacket = .ok sys'.sender) ∨
      (∃ dataPacket, a = .receiveDataPacket dataPacket ∧ sys'.sender = sys.sender) := by
  cases a with
  | prepareDataPacketsToSend now =>
    obtain ⟨⟨packets, prepared⟩, hprepare, hsend⟩ := Option.bind_eq_some_iff.mp hstep
    obtain ⟨marshalled, -, heq⟩ := Option.bind_eq_some_iff.mp hsend
    rw [System.prepareDataPacketsToSend, prepareDataPacketsToSend_release] at hprepare
    cases hprepare
    cases heq
    exact .inl ⟨now, rfl, rfl⟩
  | checkTimeout timeoutThresholdUs now =>
    change sys.checkTimeout t timeoutThresholdUs now = _ at hstep
    rw [System.checkTimeout, checkTimeout_release] at hstep
    cases hstep
    exact .inr (.inl ⟨timeoutThresholdUs, now, rfl, rfl⟩)
  | ackArrived ackPacket =>
    obtain ⟨-, harrived⟩ := Option.ite_none_right_eq_some.mp hstep
    obtain ⟨s', hack, heq⟩ := Option.bind_eq_some_iff.mp harrived
    cases heq
    cases hresult : sys.sender.ackArrived t.shrink false ackPacket with
    | error fault => rw [hresult] at hack; cases hack
    | ok s =>
      rw [hresult] at hack
      cases hack
      exact .inr (.inr (.inl ⟨ackPacket, rfl, hresult⟩))
  | receiveDataPacket dataPacket =>
    obtain ⟨-, hreceived⟩ := Option.ite_none_right_eq_some.mp hstep
    obtain ⟨⟨ack, received⟩, hreceive, rfl⟩ := Option.map_eq_some_iff.mp hreceived
    obtain ⟨⟨ret, receiver⟩, -, heq⟩ := Option.bind_eq_some_iff.mp hreceive
    cases heq
    exact .inr (.inr (.inr ⟨dataPacket, rfl, rfl⟩))

/-- A step that is not a sending round leaves the flag set or sets it. -/
theorem timeouted_step (hstep : t.system.step a sys = some sys')
    (hround : ∀ now, a ≠ .prepareDataPacketsToSend now) :
    sys'.sender.curCongestionWindowTimeouted =
      (sys.sender.curCongestionWindowTimeouted || sys.punishes a) := by
  rcases sender_cases hstep with ⟨now, rfl, -⟩ | ⟨_, _, rfl, hsender⟩ | ⟨_, rfl, hack⟩ |
    ⟨_, rfl, hsender⟩
  · exact absurd rfl (hround now)
  · rw [hsender]
    exact timeouted_timeoutChecked
  · exact timeouted_of_ackArrived hack
  · rw [hsender]
    exact (Bool.or_false _).symm

/-- A penalty finds the flag clear and leaves it set. -/
theorem timeouted_of_punishes (hstep : t.system.step a sys = some sys')
    (hpunishes : sys.punishes a = true) :
    sys.sender.curCongestionWindowTimeouted = false ∧
      sys'.sender.curCongestionWindowTimeouted = true := by
  refine ⟨?_, ?_⟩
  · cases a with
    | checkTimeout timeoutThresholdUs now =>
      exact Bool.not_eq_true' _ ▸ (Bool.and_eq_true_iff.mp hpunishes).1
    | ackArrived ackPacket => exact (punishesDuplicateAck_iff.mp hpunishes).2.2.2
    | prepareDataPacketsToSend now => cases hpunishes
    | receiveDataPacket dataPacket => cases hpunishes
  · rw [timeouted_step hstep, hpunishes, Bool.or_true]
    rintro now rfl
    cases hpunishes

/-- **At most one penalty in a round of sending.** Between two penalties some sending
round returns a packet, provided that no sending round after a penalty finds nothing
to send. -/
theorem sends_between_penalties (hstep : t.system.step a sys = some sys₁)
    (hfirst : sys.punishes a = true) (hrun : t.system.runVia findsWork as sys₁ = some sys₂)
    (hnext : t.system.step b sys₂ = some sys₃) (hsecond : sys₂.punishes b = true) :
    t.system.someStep sends as sys₁ = true := by
  have hset := (timeouted_of_punishes hstep hfirst).2
  have hclear := (timeouted_of_punishes hnext hsecond).1
  -- some step of the run clears the flag, which only a sending round can do
  obtain ⟨as₁, c, as₂, u, u', rfl, hreach, hu, hwork, hturn, hu'⟩ :=
    TransitionSystem.exists_exit
      (I := fun sys : System => sys.sender.curCongestionWindowTimeouted = true) hset
      (by rw [hclear]; exact Bool.false_ne_true) hrun
  refine TransitionSystem.someStep_of_run hreach ?_
  cases c with
  | prepareDataPacketsToSend now => exact sends_of_findsWork hu hwork
  | checkTimeout | ackArrived | receiveDataPacket =>
    refine absurd ?_ hu'
    rw [timeouted_step hturn (fun _ h => by cases h), hu, Bool.true_or]

/-! ### Packet 0 arrives late -/

/-- Three full packets and one byte. -/
def fourPackets : Transfer :=
  ⟨⟨4351, fun _ => 7⟩, 4351, slideWindowFastRetransmission, .truncated⟩

theorem fourPackets_inRange : fourPackets.InRange := ⟨by decide, by decide⟩

/-- A full packet on the network. -/
def fullPacket (seqNum : UInt32) : DataPacket (List UInt8) :=
  ⟨.regular, seqNum, ⟨0, 0⟩, 1450, List.replicate 1450 7⟩

/-- All four packets are sent, packets 1 and 2 arrive, and the first of their two
acknowledgements is processed. -/
def latePacketRun : List Action :=
  [.prepareDataPacketsToSend ⟨0, 0⟩, .receiveDataPacket (fullPacket 1),
    .receiveDataPacket (fullPacket 2), .ackArrived ⟨.regular, 0, 1, ⟨0, 0⟩⟩]

/-- The second acknowledgement. -/
def duplicateAck : Action := .ackArrived ⟨.regular, 0, 2, ⟨0, 0⟩⟩

/-- Packet 0 arrives after all and its acknowledgement takes packets 0 to 2 out of the
window, so the next sending round finds only packet 3, which is under way. -/
def emptyRoundRun : List Action :=
  [.receiveDataPacket (fullPacket 0), .ackArrived ⟨.regular, 3, 0, ⟨0, 0⟩⟩,
    .prepareDataPacketsToSend ⟨1, 0⟩]

/-- When packet 0 is sent again at once, it is the packet between the two penalties. -/
theorem sends_between_penalties_latePacketRun :
    ∃ sys₁, fourPackets.system.step duplicateAck (fourPackets.system.endOf latePacketRun) =
        some sys₁ ∧
      fourPackets.system.someStep sends [.prepareDataPacketsToSend ⟨1, 0⟩] sys₁ = true := by
  have hrun : ((fourPackets.system.step duplicateAck
      (fourPackets.system.endOf latePacketRun)).bind fun sys₁ =>
        (fourPackets.system.runVia findsWork [.prepareDataPacketsToSend ⟨1, 0⟩] sys₁).bind
          fun sys₂ => (fourPackets.system.step (.checkTimeout 1000 ⟨2, 0⟩) sys₂).map fun _ =>
            ((fourPackets.system.endOf latePacketRun).punishes duplicateAck,
              sys₂.punishes (.checkTimeout 1000 ⟨2, 0⟩))) = some (true, true) := by
    decide +kernel
  obtain ⟨sys₁, hstep, hrest⟩ := Option.bind_eq_some_iff.mp hrun
  obtain ⟨sys₂, hround, hend⟩ := Option.bind_eq_some_iff.mp hrest
  obtain ⟨sys₃, hnext, heq⟩ := Option.map_eq_some_iff.mp hend
  obtain ⟨hfirst, hsecond⟩ := Prod.mk.inj heq
  exact ⟨sys₁, hstep, sends_between_penalties hstep hfirst hround hnext hsecond⟩

/-- The empty round comes although `hasDataToSend` holds, and the timeout after it is
punished again. -/
theorem penalized_twice_emptyRoundRun :
    ∃ sys sys₁ sys₂ sys₃, fourPackets.system.Reachable sys ∧
      fourPackets.system.step duplicateAck sys = some sys₁ ∧ sys.punishes duplicateAck = true ∧
      fourPackets.system.run emptyRoundRun sys₁ = some sys₂ ∧
      fourPackets.system.step (.checkTimeout 1000 ⟨2, 0⟩) sys₂ = some sys₃ ∧
      sys₂.punishes (.checkTimeout 1000 ⟨2, 0⟩) = true ∧
      fourPackets.system.someStep sends emptyRoundRun sys₁ = false ∧
      (fourPackets.system.run (emptyRoundRun.take 2) sys₁).any (·.sender.hasDataToSend) = true := by
  have hrun : ((fourPackets.system.step duplicateAck
      (fourPackets.system.endOf latePacketRun)).bind fun sys₁ =>
        (fourPackets.system.run emptyRoundRun sys₁).bind fun sys₂ =>
          (fourPackets.system.step (.checkTimeout 1000 ⟨2, 0⟩) sys₂).map fun _ =>
            ((fourPackets.system.endOf latePacketRun).punishes duplicateAck,
              sys₂.punishes (.checkTimeout 1000 ⟨2, 0⟩),
              fourPackets.system.someStep sends emptyRoundRun sys₁,
              (fourPackets.system.run (emptyRoundRun.take 2) sys₁).any
                (·.sender.hasDataToSend))) = some (true, true, false, true) := by
    decide +kernel
  obtain ⟨sys₁, hstep, hrest⟩ := Option.bind_eq_some_iff.mp hrun
  obtain ⟨sys₂, hround, hend⟩ := Option.bind_eq_some_iff.mp hrest
  obtain ⟨sys₃, hnext, heq⟩ := Option.map_eq_some_iff.mp hend
  simp only [Prod.mk.injEq] at heq
  exact ⟨_, sys₁, sys₂, sys₃, fourPackets.system.reachable_endOf latePacketRun, hstep, heq.1,
    hround, hnext, heq.2.1, heq.2.2.1, heq.2.2.2⟩

/-! ## The size of the window -/

/-- Before a penalty: it will not enlarge the congestion window. The penalty of a timeout
needs the smallest window for that, the penalty of fast retransmission the smallest
threshold; where the new bound wraps, the window also grows by as much at once. -/
def penaltyShrinks (t : Transfer) (sys : System) : Action → Prop
  | .checkTimeout _ _ => congestionWindowMin ≤ sys.sender.curCongestionWindow
  | .ackArrived _ =>
    if sys.sender.slideWindowLeftBoundSeqNum + sys.sender.shrunkThreshold t.shrink ≤
        sys.sender.slideWindowLeftBoundSeqNum then
      sys.sender.shrunkThreshold t.shrink + congestionThresholdMin ≤ sys.sender.curCongestionWindow
    else congestionThresholdMin ≤ sys.sender.curCongestionWindow
  | _ => True

theorem lastAckOk_of_reachable (hreach : t.system.Reachable sys) : sys.sender.LastAckOk := by
  refine hreach.invariant (I := fun sys => sys.sender.LastAckOk) (fun _ => rfl)
    fun sys a sys' h hstep => ?_
  rcases sender_cases hstep with ⟨now, -, hsender⟩ | ⟨thr, now, -, hsender⟩ | ⟨_, -, hack⟩ |
    ⟨_, -, hsender⟩
  · rw [hsender]
    exact h
  · obtain ⟨_, _, _, _, _, hframe⟩ := timeoutChecked_frame t.shrink thr now sys.sender
    rw [hsender, hframe]
    exact h
  · exact h.ackArrived hack
  · rw [hsender]
    exact h

/-- In a transfer of ordinary size no bound wraps and no window is below 10. -/
theorem penaltyShrinks_iff_of_inRange (ht : t.InRange) (hreach : t.system.Reachable sys)
    (hpunishes : sys.punishes a = true) :
    sys.penaltyShrinks t a ↔ (∃ timeoutThresholdUs now, a = .checkTimeout timeoutThresholdUs now) ∨
      congestionThresholdMin ≤ sys.sender.curCongestionWindow := by
  have h := (inv_of_reachable ht hreach).sender
  cases a with
  | prepareDataPacketsToSend now => cases hpunishes
  | receiveDataPacket dataPacket => cases hpunishes
  | checkTimeout thr now =>
    exact iff_of_true (UInt32.le_iff_toNat_le.mpr h.congestion.windowMin) (.inl ⟨thr, now, rfl⟩)
  | ackArrived ack =>
    have hsum := (h.congestion.penaltySumsOk (h.leftBound_lt ht) t.shrink).duplicateAck
    have hmin := (h.congestion.shrunkThreshold t.shrink).1
    have hbound : ¬ sys.sender.slideWindowLeftBoundSeqNum + sys.sender.shrunkThreshold t.shrink ≤
        sys.sender.slideWindowLeftBoundSeqNum := by
      rw [UInt32.le_iff_toNat_le, hsum, leftBound]
      omega
    rw [penaltyShrinks, if_neg hbound]
    refine ⟨.inr, ?_⟩
    rintro (⟨_, _, hop⟩ | hwindow)
    · cases hop
    · exact hwindow

/-- **When a penalty does not enlarge the window.** In a transfer of ordinary size the
penalty of a timeout never does, and that of fast retransmission does not when the
window is at least 20. -/
theorem curCongestionWindow_le_iff_of_punishes (hreach : t.system.Reachable sys)
    (hstep : t.system.step a sys = some sys') (hpunishes : sys.punishes a = true) :
    (sys'.sender.curCongestionWindow ≤ sys.sender.curCongestionWindow ↔
        sys.penaltyShrinks t a) ∧
      (t.InRange → (sys.penaltyShrinks t a ↔
        (∃ timeoutThresholdUs now, a = .checkTimeout timeoutThresholdUs now) ∨
          congestionThresholdMin ≤ sys.sender.curCongestionWindow)) := by
  refine ⟨?_, fun ht => penaltyShrinks_iff_of_inRange ht hreach hpunishes⟩
  rcases sender_cases hstep with ⟨now, rfl, -⟩ | ⟨thr, now, rfl, hsender⟩ | ⟨ack, rfl, hack⟩ |
    ⟨_, rfl, -⟩
  · cases hpunishes
  · rw [hsender, curCongestionWindow_timeoutChecked t.shrink hpunishes]
    exact Iff.rfl
  · rw [curCongestionWindow_of_ackArrived (lastAckOk_of_reachable hreach) hack hpunishes,
      penaltyShrinks]
    split_ifs
    · exact Iff.rfl
    · exact shrunkThreshold_le_iff t.shrink
  · cases hpunishes

/-- A timeout at the smallest window leaves it at that. -/
theorem curCongestionWindow_le_iff_of_punishes_timeout :
    ∃ sys sys', fourPackets.system.Reachable sys ∧
      fourPackets.system.step (.checkTimeout 1000 ⟨2, 0⟩) sys = some sys' ∧
      sys'.sender.curCongestionWindow ≤ sys.sender.curCongestionWindow := by
  have hrun : (fourPackets.system.step (.checkTimeout 1000 ⟨2, 0⟩)
      (fourPackets.system.endOf (latePacketRun.take 1))).map (fun _ =>
        (fourPackets.system.endOf (latePacketRun.take 1)).punishes
          (.checkTimeout 1000 ⟨2, 0⟩)) = some true := by
    decide +kernel
  obtain ⟨sys', hstep, hpunishes⟩ := Option.map_eq_some_iff.mp hrun
  have hreach := fourPackets.system.reachable_endOf (latePacketRun.take 1)
  have hall := curCongestionWindow_le_iff_of_punishes hreach hstep hpunishes
  exact ⟨_, sys', hreach, hstep,
    hall.1.mpr ((hall.2 fourPackets_inRange).mpr (.inl ⟨1000, ⟨2, 0⟩, rfl⟩))⟩

/-- The second duplicate acknowledgement doubles the window instead of shrinking it. -/
theorem curCongestionWindow_grows_duplicateAck :
    ∃ sys sys', fourPackets.system.Reachable sys ∧
      fourPackets.system.step duplicateAck sys = some sys' ∧ sys.punishes duplicateAck = true ∧
      sys.sender.curCongestionWindow = 10 ∧ sys'.sender.curCongestionWindow = 20 ∧
      ¬ sys'.sender.curCongestionWindow ≤ sys.sender.curCongestionWindow := by
  have hrun : (fourPackets.system.step duplicateAck
      (fourPackets.system.endOf latePacketRun)).map (fun sys' =>
        ((fourPackets.system.endOf latePacketRun).punishes duplicateAck,
          (fourPackets.system.endOf latePacketRun).sender.curCongestionWindow,
          sys'.sender.curCongestionWindow)) = some (true, 10, 20) := by
    decide +kernel
  obtain ⟨sys', hstep, heq⟩ := Option.map_eq_some_iff.mp hrun
  simp only [Prod.mk.injEq] at heq
  obtain ⟨hpunishes, hbefore, hafter⟩ := heq
  refine ⟨_, sys', fourPackets.system.reachable_endOf latePacketRun, hstep, hpunishes, hbefore,
    hafter, ?_⟩
  rw [hbefore, hafter]
  decide

end System

end ReliablePacket
