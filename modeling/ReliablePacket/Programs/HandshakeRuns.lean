/-
# The handshake can always be completed

`performHandshake` sends its handshakes again every 60 milliseconds, as long as it has
fewer than three answers. Whatever was lost before, and wherever it stands, one more
round whose datagrams arrive brings the remaining answers, and then the threads are
started. Nothing needs to be duplicated, and the clock needs to be read at two moments
only, the end of the present wait and 60 milliseconds later.
-/
import ReliablePacket.Programs.Replies
import ReliablePacket.Programs.Handshake

set_option autoImplicit false

namespace ReliablePacket

variable {t : Transfer} {p p' : Programs} {s s' : Session} {now later start : Timeval}
variable {i : Fin receiveThreadNum}

/-- The beginning of the wait that `performHandshake` is in. -/
def HandshakeLocation.waitsSince : HandshakeLocation → Option Timeval
  | .waitTest start _ => some start
  | .receive start => some start
  | .received start _ => some start
  | .measure start => some start
  | _ => none

/-- A step of the handshake, of a receiver thread that answers it, or the arrival of a
handshake or of an answer. The sender's clock, where it is read, shows `now`. -/
def Session.Action.Answers (now : Timeval) : Session.Action → Prop
  | .handshake reading => reading = now
  | .deliverHandshakeAck _ => True
  | .startThreads => True
  | .deliverHandshake _ _ => True
  | .thread (.receiveData _) => True
  | _ => False

/-! ## A receiver thread comes to `recvfrom` -/

namespace Programs

/-- A thread that is not in `recvfrom` comes closer to it. -/
theorem HandshakesOnly.exists_step_lt (h : p.HandshakesOnly)
    (hreceive : p.receiveData i ≠ .receive) : ∃ p', t.programs.step (.receiveData i) p = some p' ∧
      (p'.receiveData i).untilReceive < (p.receiveData i).untilReceive := by
  have hi := h.receiveData i
  have hfinished : p.sys.receiver.finished = false := by
    rw [h.receiver]
    rfl
  change ∃ p', p.receiveDataStep i = some p' ∧ _
  simp only [Programs.receiveDataStep]
  cases hlocation : p.receiveData i with
  | loopTest =>
    refine ⟨_, rfl, ?_⟩
    simp [hfinished, ReceiveDataLocation.untilReceive]
  | receive => exact absurd hlocation hreceive
  | received dataPacket =>
    rw [hlocation] at hi
    exact hi.elim
  | reply ackPacket =>
    refine ⟨_, rfl, ?_⟩
    simp [hfinished, ReceiveDataLocation.untilReceive]
  | sending ackPacket copies =>
    cases copies with
    | zero => exact ⟨_, rfl, by simp [ReceiveDataLocation.untilReceive]⟩
    | succ copies => exact ⟨_, rfl, by simp [ReceiveDataLocation.untilReceive]⟩
  | exited =>
    rw [hlocation] at hi
    exact hi.elim

theorem HandshakesOnly.canReach_receive (h : p.HandshakesOnly) (hreach : t.programs.Reachable p)
    (i : Fin receiveThreadNum) :
    t.programs.CanReach (· = .receiveData i) p fun q =>
      q.receiveData i = .receive ∧ q.HandshakesOnly ∧ p.SameSender q := by
  refine .of_rank (fun q => q.HandshakesOnly ∧ p.SameSender q)
    (fun q => (q.receiveData i).untilReceive) ?_ hreach ⟨h, .refl p⟩
  rintro q _ ⟨hq, hsame⟩
  by_cases hreceive : q.receiveData i = .receive
  · exact .here (.inl ⟨hreceive, hq, hsame⟩)
  · obtain ⟨q', hstep, hlt⟩ := hq.exists_step_lt hreceive
    obtain ⟨hq', hsame'⟩ := hq.receiveDataStep hstep
    exact .step hstep rfl (.here (.inr ⟨⟨hq', hsame.trans hsame'⟩, hlt⟩))

end Programs

namespace Session

/-- A receiver thread is always allowed to move, and a session moves with it. -/
theorem step_receiveData (hstep : t.programs.step (.receiveData i) s.programs = some p') :
    t.sessions.step (.thread (.receiveData i)) s = some { s with programs := p' } := by
  change s.threadStep t (.receiveData i) = _
  change Programs.step t (.receiveData i) s.programs = some p' at hstep
  simp [threadStep, allows, Programs.Action.ofSender, hstep, Programs.reading]

theorem run_receiveData {as : List Programs.Action} (has : ∀ a ∈ as, a = .receiveData i)
    (hrun : t.programs.run as s.programs = some p') :
    t.sessions.run (as.map .thread) s = some { s with programs := p' } := by
  induction as generalizing s with
  | nil =>
    cases hrun
    rfl
  | cons a as ih =>
    obtain ⟨rfl, hrest⟩ := List.forall_mem_cons.mp has
    obtain ⟨u, hu, hrun'⟩ := Option.bind_eq_some_iff.mp hrun
    rw [List.map_cons, TransitionSystem.run, step_receiveData hu]
    exact ih hrest hrun'

/-! ## The end of the present wait -/

/-- An answer in hand is stored. -/
theorem exists_stored (h : s.Inv t) {ackPacket : AckPacket}
    (hlocation : s.handshake = .received start ackPacket) (now : Timeval) :
    s.initTimeoutUs.length < handshakeDuplicate ∧
      ∃ location, t.sessions.step (.handshake now) s = some { s with
          handshake := location
          initTimeoutUs := s.initTimeoutUs ++ [getElapsedUs ackPacket.sentTime now]
          readings := now :: s.readings } ∧
        (s.initTimeoutUs.length + 1 = handshakeDuplicate ∧ location = .loopTest ∨
          s.initTimeoutUs.length + 1 ≠ handshakeDuplicate ∧ location = .measure start) := by
  have hroom := h.collected
  rw [hlocation] at hroom
  change s.initTimeoutUs.length < handshakeDuplicate at hroom
  refine ⟨hroom, ?_⟩
  by_cases hfull : s.initTimeoutUs.length + 1 = handshakeDuplicate
  · refine ⟨.loopTest, ?_, .inl ⟨hfull, rfl⟩⟩
    simp [Transfer.sessions, Session.step, performHandshake, hlocation, hroom, hfull]
  · refine ⟨.measure start, ?_, .inr ⟨hfull, rfl⟩⟩
    simp [Transfer.sessions, Session.step, performHandshake, hlocation, hroom, hfull]

/-- A wait that has lasted long enough ends. -/
theorem canReach_loopTest (h : s.Inv t) (hnone : s.rttEstimator = none)
    (hwaits : s.handshake.waitsSince = some start)
    (hlate : handshakeTimeoutUs ≤ getElapsedUs start now) :
    t.sessions.CanReach (Action.Answers now) s fun u =>
      u.rttEstimator = none ∧ u.handshake = .loopTest := by
  -- the places of the inner loop, the last one first
  have htest : ∀ (s : Session) (us : UInt64), handshakeTimeoutUs ≤ us → s.rttEstimator = none →
      s.handshake = .waitTest start us → t.sessions.CanReach (Action.Answers now) s fun u =>
        u.rttEstimator = none ∧ u.handshake = .loopTest := by
    intro s us hover hnone hlocation
    have hstep : t.sessions.step (.handshake now) s = some { s with handshake := .loopTest } := by
      simp [Transfer.sessions, Session.step, performHandshake, hlocation, UInt64.not_lt.mpr hover]
    exact .step hstep rfl (.here ⟨hnone, rfl⟩)
  have hmeasure : ∀ s : Session, s.rttEstimator = none → s.handshake = .measure start →
      t.sessions.CanReach (Action.Answers now) s fun u =>
        u.rttEstimator = none ∧ u.handshake = .loopTest := by
    intro s hnone hlocation
    have hstep : t.sessions.step (.handshake now) s = some { s with
        handshake := .waitTest start (getElapsedUs start now)
        readings := now :: s.readings } := by
      simp [Transfer.sessions, Session.step, performHandshake, hlocation]
    exact .step hstep rfl (htest _ _ hlate hnone rfl)
  have hreceive : ∀ s : Session, s.rttEstimator = none → s.handshake = .receive start →
      t.sessions.CanReach (Action.Answers now) s fun u =>
        u.rttEstimator = none ∧ u.handshake = .loopTest := by
    intro s hnone hlocation
    have hstep : t.sessions.step (.handshake now) s =
        some { s with handshake := .measure start } := by
      simp [Transfer.sessions, Session.step, performHandshake, hlocation]
    exact .step hstep rfl (hmeasure _ hnone rfl)
  cases hlocation : s.handshake with
  | measure start' =>
    rw [hlocation] at hwaits
    cases hwaits
    exact hmeasure s hnone hlocation
  | receive start' =>
    rw [hlocation] at hwaits
    cases hwaits
    exact hreceive s hnone hlocation
  | waitTest start' us =>
    rw [hlocation] at hwaits
    cases hwaits
    by_cases hlt : us < handshakeTimeoutUs
    · have hstep : t.sessions.step (.handshake now) s =
          some { s with handshake := .receive start } := by
        simp [Transfer.sessions, Session.step, performHandshake, hlocation, hlt]
      exact .step hstep rfl (hreceive _ hnone rfl)
    · exact htest s us (UInt64.not_lt.mp hlt) hnone hlocation
  | received start' ackPacket =>
    rw [hlocation] at hwaits
    cases hwaits
    -- the answer in hand is stored first
    obtain ⟨-, location, hstep, ⟨-, rfl⟩ | ⟨-, rfl⟩⟩ := exists_stored h hlocation now
    · exact .step hstep rfl (.here ⟨hnone, rfl⟩)
    · exact .step hstep rfl (hmeasure _ hnone rfl)
  | _ =>
    rw [hlocation] at hwaits
    cases hwaits

/-- The other places before a wait lead to its beginning. -/
theorem canReach_waiting (hnone : s.rttEstimator = none) (hreturned : s.handshake ≠ .returned)
    (hwaits : s.handshake.waitsSince = none) :
    t.sessions.CanReach (Action.Answers now) s fun u =>
      u.rttEstimator = none ∧ (u.handshake = .loopTest ∨ u.handshake = .receive now) := by
  have hstart : ∀ s : Session, s.rttEstimator = none → s.handshake = .startWaiting →
      t.sessions.CanReach (Action.Answers now) s fun u =>
        u.rttEstimator = none ∧ (u.handshake = .loopTest ∨ u.handshake = .receive now) := by
    intro s hnone hlocation
    have hstep₁ : t.sessions.step (.handshake now) s =
        some { s with handshake := .waitTest now 0, readings := now :: s.readings } := by
      simp [Transfer.sessions, Session.step, performHandshake, hlocation]
    have hstep₂ : t.sessions.step (.handshake now)
        { s with handshake := .waitTest now 0, readings := now :: s.readings } =
          some { s with handshake := .receive now, readings := now :: s.readings } := by
      simp [Transfer.sessions, Session.step, performHandshake, handshakeTimeoutUs]
    exact .step hstep₁ rfl (.step hstep₂ rfl (.here ⟨hnone, .inr rfl⟩))
  have hsend : ∀ (copies : ℕ) (s : Session) (dataPacket : DataPacket (List UInt8)),
      s.rttEstimator = none → s.handshake = .send dataPacket copies →
      t.sessions.CanReach (Action.Answers now) s fun u =>
        u.rttEstimator = none ∧ (u.handshake = .loopTest ∨ u.handshake = .receive now) := by
    intro copies
    induction copies with
    | zero =>
      intro s dataPacket hnone hlocation
      have hstep : t.sessions.step (.handshake now) s =
          some { s with handshake := .startWaiting } := by
        simp [Transfer.sessions, Session.step, performHandshake, hlocation]
      exact .step hstep rfl (hstart _ hnone rfl)
    | succ copies ih =>
      intro s dataPacket hnone hlocation
      have hstep : t.sessions.step (.handshake now) s = some { s with
          handshake := .send dataPacket copies
          handshakesInFlight := dataPacket :: s.handshakesInFlight
          handshakesSent := dataPacket :: s.handshakesSent } := by
        simp [Transfer.sessions, Session.step, performHandshake, hlocation]
      exact .step hstep rfl (ih _ dataPacket hnone rfl)
  cases hlocation : s.handshake with
  | loopTest => exact .here ⟨hnone, .inl hlocation⟩
  | stamp =>
    have hstep : t.sessions.step (.handshake now) s = some { s with
        handshake := .send (handshakePacket now) handshakeNumAtATime
        readings := now :: s.readings } := by
      simp [Transfer.sessions, Session.step, performHandshake, hlocation]
    exact .step hstep rfl (hsend _ _ _ hnone rfl)
  | send dataPacket copies => exact hsend copies s dataPacket hnone hlocation
  | startWaiting => exact hstart s hnone hlocation
  | returned => exact absurd hlocation hreturned
  | _ =>
    rw [hlocation] at hwaits
    cases hwaits

/-! ## One round whose datagrams arrive -/

/-- A round is sent: its copies are on the network, and `performHandshake` is waiting. -/
theorem canReach_sent (hnone : s.rttEstimator = none) (hlocation : s.handshake = .loopTest)
    (hroom : s.initTimeoutUs.length < handshakeDuplicate) :
    t.sessions.CanReach (Action.Answers now) s fun u =>
      u.rttEstimator = none ∧ u.handshake = .receive now ∧
        u.initTimeoutUs = s.initTimeoutUs ∧
        handshakeNumAtATime ≤ u.handshakesInFlight.count (handshakePacket now) := by
  -- the two tests, the stamp, four copies, the end of the loop and the start of the wait
  have hrun : t.sessions.run (List.replicate 9 (.handshake now)) s = some { s with
      handshake := .receive now
      handshakesInFlight :=
        List.replicate handshakeNumAtATime (handshakePacket now) ++ s.handshakesInFlight
      handshakesSent := List.replicate handshakeNumAtATime (handshakePacket now) ++ s.handshakesSent
      readings := now :: now :: s.readings } := by
    simp [List.replicate, TransitionSystem.run, Transfer.sessions, Session.step, performHandshake,
      hlocation, hroom, handshakeNumAtATime, handshakeTimeoutUs]
  refine ⟨_, _, fun a ha => ?_, hrun, hnone, rfl, rfl, ?_⟩
  · rw [List.eq_of_mem_replicate ha]
    rfl
  · rw [List.count_append, List.count_replicate_self]
    exact Nat.le_add_right _ _

/-- The answer to the handshake that is stamped with the reading. -/
def handshakeAnswer (sentTime : Timeval) : AckPacket := ⟨.handshake, 0, 0, sentTime⟩

/-- A thread that is in `recvfrom` reads a copy and answers it. -/
theorem canReach_answered (h : s.programs.HandshakesOnly)
    (hreceive : s.programs.receiveData 0 = .receive)
    (hmem : handshakePacket now ∈ s.handshakesInFlight) :
    t.sessions.CanReach (Action.Answers now) s fun u =>
      handshakeAnswer now ∈ u.programs.acksInFlight ∧ u.rttEstimator = s.rttEstimator ∧
        u.handshake = s.handshake ∧ u.initTimeoutUs = s.initTimeoutUs ∧
        u.handshakesInFlight = s.handshakesInFlight.erase (handshakePacket now) := by
  have hfinished : s.programs.sys.receiver.finished = false := by
    rw [h.receiver]
    rfl
  have hread : t.sessions.step (.deliverHandshake 0 (handshakePacket now)) s = some { s with
      programs := s.programs.setReceiveData 0 (.reply (handshakeAnswer now))
      handshakesInFlight := s.handshakesInFlight.erase (handshakePacket now) } := by
    have hdeliver : s.programs.deliverHandshake 0 (handshakePacket now).sentTime =
        some (s.programs.setReceiveData 0 (.reply (handshakeAnswer now))) := if_pos hreceive
    simp [Transfer.sessions, Session.step, deliverHandshake, hmem, hdeliver]
  have hreply : t.programs.step (.receiveData 0)
      (s.programs.setReceiveData 0 (.reply (handshakeAnswer now))) =
        some ((s.programs.setReceiveData 0 (.reply (handshakeAnswer now))).setReceiveData 0
          (.sending (handshakeAnswer now) 1)) := by
    simp [Transfer.programs, Programs.step, Programs.receiveDataStep, Programs.setReceiveData,
      hfinished]
  have hsend : t.programs.step (.receiveData 0)
      ((s.programs.setReceiveData 0 (.reply (handshakeAnswer now))).setReceiveData 0
        (.sending (handshakeAnswer now) 1)) =
        some (({ (s.programs.setReceiveData 0 (.reply (handshakeAnswer now))).setReceiveData 0
          (.sending (handshakeAnswer now) 1) with
            acksInFlight := handshakeAnswer now :: s.programs.acksInFlight }).setReceiveData 0
              (.sending (handshakeAnswer now) 0)) := by
    simp [Transfer.programs, Programs.step, Programs.receiveDataStep, Programs.setReceiveData]
  refine .step hread trivial (.step (step_receiveData hreply) trivial
    (.step (step_receiveData hsend) trivial (.here ⟨?_, rfl, rfl, rfl, rfl⟩)))
  exact List.mem_cons_self

/-- A copy arrives, the answer arrives, and `performHandshake` has it in hand. -/
theorem canReach_received (hreach : t.sessions.Reachable s) (hnone : s.rttEstimator = none)
    (hlocation : s.handshake = .receive now) (hmem : handshakePacket now ∈ s.handshakesInFlight) :
    t.sessions.CanReach (Action.Answers now) s fun u =>
      u.rttEstimator = none ∧ u.handshake = .received now (handshakeAnswer now) ∧
        u.initTimeoutUs = s.initTimeoutUs ∧
        u.handshakesInFlight = s.handshakesInFlight.erase (handshakePacket now) := by
  have huntouched := (inv_of_reachable hreach).untouched hnone
  obtain ⟨as, p, has, hrun, hreceive, -⟩ :=
    huntouched.canReach_receive (programs_reachable hreach) 0
  have hready : t.sessions.CanReach (Action.Answers now) s fun u =>
      u = { s with programs := p } := by
    refine ⟨as.map .thread, _, fun a ha => ?_, run_receiveData has hrun, rfl⟩
    obtain ⟨b, hb, rfl⟩ := List.mem_map.mp ha
    rw [has b hb]
    trivial
  refine hready.trans hreach ?_
  rintro _ hreach₁ rfl
  have hanswers := ((inv_of_reachable hreach₁).untouched hnone).toHandshakesOnly
  refine (canReach_answered hanswers hreceive hmem).trans hreach₁ ?_
  rintro u - ⟨hack, hnone', hlocation', hcollected, hflight⟩
  have hstep : t.sessions.step (.deliverHandshakeAck (handshakeAnswer now)) u = some { u with
      programs := { u.programs with
        acksInFlight := u.programs.acksInFlight.erase (handshakeAnswer now)
        acksLost := handshakeAnswer now :: u.programs.acksLost }
      handshake := .received now (handshakeAnswer now) } := by
    simp [Transfer.sessions, Session.step, deliverHandshakeAck, hlocation'.trans hlocation,
      Programs.networkStep, hack]
    rfl
  exact .step hstep trivial (.here ⟨hnone'.trans hnone, rfl, hcollected, hflight⟩)

/-- A wait in which no time has passed goes on. -/
theorem canReach_resumed (hlocation : s.handshake = .measure now) :
    t.sessions.CanReach (Action.Answers now) s fun u =>
      u.rttEstimator = s.rttEstimator ∧ u.handshake = .receive now ∧
        u.initTimeoutUs = s.initTimeoutUs ∧ u.handshakesInFlight = s.handshakesInFlight := by
  have hzero : getElapsedUs now now = 0 := by
    simp only [getElapsedUs, Int64.sub_self]
    rfl
  have hstep₁ : t.sessions.step (.handshake now) s =
      some { s with handshake := .waitTest now 0, readings := now :: s.readings } := by
    simp [Transfer.sessions, Session.step, performHandshake, hlocation, hzero]
  have hstep₂ : t.sessions.step (.handshake now)
      { s with handshake := .waitTest now 0, readings := now :: s.readings } =
        some { s with handshake := .receive now, readings := now :: s.readings } := by
    simp [Transfer.sessions, Session.step, performHandshake, handshakeTimeoutUs]
  exact .step hstep₁ rfl (.step hstep₂ rfl (.here ⟨rfl, rfl, rfl, rfl⟩))

/-- Its time is stored. With three times the wait is over, otherwise it goes on. -/
theorem canReach_stored (hreach : t.sessions.Reachable s) (hnone : s.rttEstimator = none)
    (hlocation : s.handshake = .receive now) (hmem : handshakePacket now ∈ s.handshakesInFlight) :
    t.sessions.CanReach (Action.Answers now) s fun u =>
      u.rttEstimator = none ∧ u.initTimeoutUs.length = s.initTimeoutUs.length + 1 ∧
        u.handshakesInFlight = s.handshakesInFlight.erase (handshakePacket now) ∧
        (u.initTimeoutUs.length = handshakeDuplicate ∧ u.handshake = .loopTest ∨
          u.initTimeoutUs.length < handshakeDuplicate ∧ u.handshake = .receive now) := by
  refine (canReach_received hreach hnone hlocation hmem).trans hreach ?_
  rintro u hreach' ⟨hnone', hreceived, hcollected, hflight⟩
  obtain ⟨hroom, location, hstep, hcases⟩ := exists_stored (inv_of_reachable hreach') hreceived now
  have hlength : (u.initTimeoutUs ++ [getElapsedUs (handshakeAnswer now).sentTime now]).length =
      s.initTimeoutUs.length + 1 := by
    rw [hcollected, List.length_append, List.length_singleton]
  rcases hcases with ⟨hfull, rfl⟩ | ⟨hmore, rfl⟩
  · refine .step hstep rfl (.here ⟨hnone', hlength, hflight, .inl ⟨?_, rfl⟩⟩)
    rw [hlength, ← hcollected]
    exact hfull
  · -- no time passes, so the wait goes on
    refine .step hstep rfl ((canReach_resumed rfl).imp ?_)
    rintro v ⟨hnone'', hreceive, hcollected', hflight'⟩
    refine ⟨hnone''.trans hnone', (congrArg List.length hcollected').trans hlength,
      hflight'.trans hflight, .inr ⟨?_, hreceive⟩⟩
    rw [hcollected', hlength, ← hcollected]
    exact lt_of_le_of_ne hroom hmore

/-- The copies of one round bring all answers that are missing. -/
theorem canReach_full (hreach : t.sessions.Reachable s) (hnone : s.rttEstimator = none)
    (hlocation : s.handshake = .receive now) (hroom : s.initTimeoutUs.length < handshakeDuplicate)
    (hcopies : handshakeDuplicate ≤
      s.initTimeoutUs.length + s.handshakesInFlight.count (handshakePacket now)) :
    t.sessions.CanReach (Action.Answers now) s fun u =>
      u.rttEstimator = none ∧ u.handshake = .loopTest ∧
        u.initTimeoutUs.length = handshakeDuplicate := by
  refine .of_rank
    (fun u => u.rttEstimator = none ∧ u.handshake = .receive now ∧
      u.initTimeoutUs.length < handshakeDuplicate ∧ handshakeDuplicate ≤
        u.initTimeoutUs.length + u.handshakesInFlight.count (handshakePacket now))
    (fun u => handshakeDuplicate - u.initTimeoutUs.length) ?_ hreach
    ⟨hnone, hlocation, hroom, hcopies⟩
  rintro u hu ⟨hnone', hlocation', hroom', hcopies'⟩
  have hmem : handshakePacket now ∈ u.handshakesInFlight := List.count_pos_iff.mp (by omega)
  refine (canReach_stored hu hnone' hlocation' hmem).imp ?_
  rintro v ⟨hnone'', hlength, hflight, ⟨hfull, hloop⟩ | ⟨hmore, hreceive⟩⟩
  · exact .inl ⟨hnone'', hloop, hfull⟩
  · refine .inr ⟨⟨hnone'', hreceive, hmore, ?_⟩, by omega⟩
    rw [hflight, List.count_erase_self]
    omega

/-! ## The threads are started -/

/-- The threads start with both programs as the handshake leaves them. -/
theorem canReach_started (hreach : t.sessions.Reachable s) (hnone : s.rttEstimator = none)
    (hreturned : s.handshake = .returned) (hfull : s.initTimeoutUs.length = handshakeDuplicate) :
    t.sessions.CanReach (Action.Answers now) s fun u =>
      u.rttEstimator.isSome = true ∧ u.programs.Untouched t := by
  obtain ⟨us, hus, -⟩ := initTimeoutSmlstUs_eq hfull
  have hstep : t.sessions.step .startThreads s = some { s with
      rttEstimator := some (.new us estimatorAlpha estimatorBeta) } := by
    simp [Transfer.sessions, Session.step, startThreads, hreturned, hnone, hus]
  exact .step hstep trivial (.here ⟨rfl, (inv_of_reachable hreach).untouched hnone⟩)

/-- From the beginning of a round the threads can be started at one reading of the clock. -/
theorem canReach_started_of_loopTest (hreach : t.sessions.Reachable s)
    (hnone : s.rttEstimator = none) (hlocation : s.handshake = .loopTest) :
    t.sessions.CanReach (Action.Answers now) s fun u =>
      u.rttEstimator.isSome = true ∧ u.programs.Untouched t := by
  have hlast : ∀ s : Session, t.sessions.Reachable s → s.rttEstimator = none →
      s.handshake = .loopTest → s.initTimeoutUs.length = handshakeDuplicate →
      t.sessions.CanReach (Action.Answers now) s fun u =>
        u.rttEstimator.isSome = true ∧ u.programs.Untouched t := by
    intro s hreach hnone hlocation hfull
    have hstep : t.sessions.step (.handshake now) s =
        some { s with handshake := .returned } := by
      simp [Transfer.sessions, Session.step, performHandshake, hlocation, hfull]
    exact .step hstep rfl (canReach_started (hreach.step hstep) hnone rfl hfull)
  have hcollected := (inv_of_reachable hreach).collected
  rw [hlocation] at hcollected
  rcases Nat.lt_or_eq_of_le hcollected with hroom | hfull
  · refine (canReach_sent hnone hlocation hroom).trans hreach ?_
    rintro u hu ⟨hnone', hreceive, hsame, hcopies⟩
    rw [← hsame] at hroom
    refine (canReach_full hu hnone' hreceive hroom ?_).trans hu ?_
    · exact le_trans (by decide) (hcopies.trans (Nat.le_add_left _ _))
    · rintro v hv ⟨hnone'', hloop, hfull⟩
      exact hlast v hv hnone'' hloop hfull
  · exact hlast s hreach hnone hlocation hfull

/-- From wherever the handshake stands the threads can be started at two readings. -/
theorem canReach_handedOver (hreach : t.sessions.Reachable s) (hnone : s.rttEstimator = none)
    (hover : ∀ start, s.handshake.waitsSince = some start →
      handshakeTimeoutUs ≤ getElapsedUs start now)
    (hlater : handshakeTimeoutUs ≤ getElapsedUs now later) :
    t.sessions.CanReach (Action.Answers now) s fun u =>
      t.sessions.CanReach (Action.Answers later) u fun s' =>
        s'.rttEstimator.isSome = true ∧ s'.programs.Untouched t := by
  have h := inv_of_reachable hreach
  cases hwaits : s.handshake.waitsSince with
  | some start =>
    refine (canReach_loopTest h hnone hwaits (hover start hwaits)).trans hreach ?_
    rintro u hu ⟨hnone', hloop⟩
    exact .here (canReach_started_of_loopTest hu hnone' hloop)
  | none =>
    by_cases hreturned : s.handshake = .returned
    · have hfull := h.collected
      rw [hreturned] at hfull
      exact .here (canReach_started hreach hnone hreturned hfull)
    · refine (canReach_waiting hnone hreturned hwaits).trans hreach ?_
      rintro u hu ⟨hnone', hloop | hreceive⟩
      · exact .here (canReach_started_of_loopTest hu hnone' hloop)
      · -- the wait that begins now is over at the later reading
        have hwaits' : u.handshake.waitsSince = some now := by
          rw [hreceive]
          rfl
        refine .here ((canReach_loopTest (inv_of_reachable hu) hnone' hwaits' hlater).trans hu ?_)
        rintro v hv ⟨hnone'', hloop⟩
        exact canReach_started_of_loopTest hv hnone'' hloop

end Session

/-- **The handshake can always be completed.** In every reachable state before the threads
are started, let the clock show first the end of the present wait, if there is one, and
then a time that is at least `HANDSHAKE_TIMEOUT_US` later. Then steps of the handshake and
of the receiver's threads and arrivals of what was sent lead to the start of the threads,
without a loss or a duplicate. -/
theorem handshake_completable (hreach : t.sessions.Reachable s) (hnone : s.rttEstimator = none)
    (hover : ∀ start, s.handshake.waitsSince = some start →
      handshakeTimeoutUs ≤ getElapsedUs start now)
    (hlater : handshakeTimeoutUs ≤ getElapsedUs now later) :
    t.sessions.CanReach (Session.Action.Answers now) s fun u =>
      t.sessions.CanReach (Session.Action.Answers later) u fun s' =>
        s'.rttEstimator.isSome = true :=
  (Session.canReach_handedOver hreach hnone hover hlater).imp fun _ hu => hu.imp fun _ hs => hs.1

/-- All four copies of the first round are lost. -/
def Session.lostHandshakesRun : List Session.Action :=
  List.replicate 9 (.handshake ⟨100, 0⟩) ++
    List.replicate 4 (.loseHandshake (handshakePacket ⟨100, 0⟩))

theorem handshake_completable_lostHandshakesRun :
    (Transfer.oneByte.sessions.endOf Session.lostHandshakesRun).handshakesInFlight = [] ∧
      Transfer.oneByte.sessions.CanReach (Session.Action.Answers ⟨100, 60000⟩)
        (Transfer.oneByte.sessions.endOf Session.lostHandshakesRun) fun u =>
          Transfer.oneByte.sessions.CanReach (Session.Action.Answers ⟨100, 120000⟩) u fun s' =>
            s'.rttEstimator.isSome = true := by
  refine ⟨by decide +kernel, ?_⟩
  have hwaits : (Transfer.oneByte.sessions.endOf
      Session.lostHandshakesRun).handshake.waitsSince = some ⟨100, 0⟩ := by decide +kernel
  refine handshake_completable (Transfer.oneByte.sessions.reachable_endOf _) (by decide +kernel)
    (fun start hstart => ?_) (by decide)
  rw [hwaits] at hstart
  cases hstart
  decide

end ReliablePacket
