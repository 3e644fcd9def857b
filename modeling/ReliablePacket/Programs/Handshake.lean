/-
# The handshake

Before the threads are started the sender's program does nothing but measure, and the
receiver's program does nothing but answer handshakes. Its window takes no packet, so
both windows are as their constructors leave them when the threads start. The state
that is handed over is one the threads could have reached by themselves: what is
proved of them holds from the first handshake on.

The array of measured times is never overrun, and it is full when the smallest of them
is looked for.
-/
import ReliablePacket.Programs.Session

set_option autoImplicit false

namespace ReliablePacket

variable {t : Transfer} {p p' p'' : Programs} {s s' : Session} {a : Session.Action} {now : Timeval}

/-! ## Both programs before the threads are started -/

/-- The thread has nothing in hand but a reply to a handshake, and has not exited. -/
def ReceiveDataLocation.Handshakes : ReceiveDataLocation → Prop
  | .received _ => False
  | .reply ackPacket => ackPacket.type = .handshake
  | .sending ackPacket _ => ackPacket.type = .handshake
  | .exited => False
  | _ => True

namespace Programs

/-- The receiver's program and the network have dealt with handshakes only. -/
structure HandshakesOnly (p : Programs) : Prop where
  receiver : p.sys.receiver = .new
  dataInFlight : p.dataInFlight = []
  receiveData : ∀ i, (p.receiveData i).Handshakes
  acks : ∀ ackPacket ∈ p.acksInFlight, ackPacket.type = .handshake

/-- The windows and the sender's program stand as before. -/
structure SameSender (p p' : Programs) : Prop where
  sys : p'.sys = p.sys
  sendData : p'.sendData = p.sendData
  receiveAck : p'.receiveAck = p.receiveAck
  checkTimeout : p'.checkTimeout = p.checkTimeout
  done : p'.done = p.done

theorem SameSender.refl (p : Programs) : p.SameSender p := ⟨rfl, rfl, rfl, rfl, rfl⟩

theorem SameSender.trans (h : p.SameSender p') (h' : p'.SameSender p'') : p.SameSender p'' where
  sys := h'.sys.trans h.sys
  sendData := h'.sendData.trans h.sendData
  receiveAck := h'.receiveAck.trans h.receiveAck
  checkTimeout := h'.checkTimeout.trans h.checkTimeout
  done := h'.done.trans h.done

namespace HandshakesOnly

theorem init (t : Transfer) : (Programs.init t).HandshakesOnly where
  receiver := rfl
  dataInFlight := rfl
  receiveData _ := trivial
  acks _ hmem := by cases hmem

/-- A receiver thread that moves on has still answered handshakes only. -/
theorem setReceiveData (h : p.HandshakesOnly) (i : Fin receiveThreadNum)
    {location : ReceiveDataLocation} (hlocation : location.Handshakes) :
    (p.setReceiveData i location).HandshakesOnly :=
  { h with
    receiveData := fun j => by
      change (Function.update p.receiveData i location j).Handshakes
      rw [Function.update_apply]
      split_ifs
      · exact hlocation
      · exact h.receiveData j }

/-- The network may do what it likes with the acknowledgements. -/
theorem networkStep {action : NetworkAction} (h : p.HandshakesOnly)
    (hstep : p.networkStep action = some p') : p'.HandshakesOnly ∧ p.SameSender p' := by
  obtain ⟨dataInFlight, acksInFlight, acksLost, rfl, hdata, hsub, -⟩ := networkStep_frame hstep
  rw [h.dataInFlight] at hdata
  refine ⟨{ h with dataInFlight := List.subset_nil.mp hdata, acks := ?_ },
    ⟨rfl, rfl, rfl, rfl, rfl⟩⟩
  exact fun ackPacket hmem => h.acks ackPacket (hsub hmem)

theorem receiveDataStep {i : Fin receiveThreadNum} (h : p.HandshakesOnly)
    (hstep : p.receiveDataStep i = some p') : p'.HandshakesOnly ∧ p.SameSender p' := by
  have hi := h.receiveData i
  rcases receiveDataStep_cases hstep with ⟨location, rfl, hidle, hexited, -⟩ |
    ⟨dataPacket, _, _, hreceived, -, -⟩ | ⟨ackPacket, hreply, rfl⟩ |
    ⟨ackPacket, copies, hsending, rfl⟩
  · refine ⟨h.setReceiveData i ?_, ⟨rfl, rfl, rfl, rfl, rfl⟩⟩
    rcases hidle with rfl | rfl | rfl
    · exact trivial
    · exact trivial
    · -- a fresh receiver is not finished
      have hfinished := hexited rfl
      rw [h.receiver] at hfinished
      cases hfinished
  · rw [hreceived] at hi
    exact hi.elim
  · rw [hreply] at hi
    exact ⟨h.setReceiveData i hi, ⟨rfl, rfl, rfl, rfl, rfl⟩⟩
  · rw [hsending] at hi
    have hsent : HandshakesOnly { p with acksInFlight := ackPacket :: p.acksInFlight } :=
      { h with acks := List.forall_mem_cons.mpr ⟨hi, h.acks⟩ }
    exact ⟨hsent.setReceiveData i hi, ⟨rfl, rfl, rfl, rfl, rfl⟩⟩

theorem deliverHandshake {i : Fin receiveThreadNum} {sentTime : Timeval} (h : p.HandshakesOnly)
    (hstep : p.deliverHandshake i sentTime = some p') :
    p'.HandshakesOnly ∧ p.SameSender p' := by
  obtain ⟨-, rfl⟩ := deliverHandshake_eq_some hstep
  exact ⟨h.setReceiveData i rfl, ⟨rfl, rfl, rfl, rfl, rfl⟩⟩

/-- No step of the receiver's threads or of the network touches the windows or the
sender's program. -/
theorem step {b : Programs.Action} (h : p.HandshakesOnly) (hother : b.ofSender = false)
    (hstep : Programs.step t b p = some p') : p'.HandshakesOnly ∧ p.SameSender p' := by
  cases b with
  | receiveData i => exact h.receiveDataStep hstep
  | deliverData i dataPacket =>
    -- there are no data packets to deliver
    obtain ⟨-, hmem, -⟩ := deliverData_eq_some hstep
    rw [h.dataInFlight] at hmem
    cases hmem
  | deliverHandshake i sentTime => exact h.deliverHandshake hstep
  | network action => exact h.networkStep hstep
  | _ => cases hother

end HandshakesOnly

/-- Nothing has happened but that handshakes were answered. -/
structure Untouched (t : Transfer) (p : Programs) : Prop extends p.HandshakesOnly where
  same : (Programs.init t).SameSender p

/-- Nothing happens before the sender's threads are started. -/
theorem Untouched.mono (h : p.Untouched t) (hnext : p'.HandshakesOnly ∧ p.SameSender p') :
    p'.Untouched t where
  toHandshakesOnly := hnext.1
  same := h.same.trans hnext.2

end Programs

/-! ## What a step does -/

/-- How many times have been stored when `performHandshake` stands there. -/
def HandshakeLocation.Collected (n : ℕ) : HandshakeLocation → Prop
  | .loopTest => n ≤ handshakeDuplicate
  | .returned => n = handshakeDuplicate
  | _ => n < handshakeDuplicate

namespace Session

/-- `performHandshake` moves, sends a handshake, or stores a time. -/
theorem performHandshake_cases (hstep : s.performHandshake now = some s') :
    (∃ location readings, s' = { s with handshake := location, readings := readings } ∧
        (readings = s.readings ∨ readings = now :: s.readings) ∧
        (s.handshake.Collected s.initTimeoutUs.length →
          location.Collected s.initTimeoutUs.length) ∧
        (∀ dataPacket copies, location = .send dataPacket copies →
          dataPacket = handshakePacket now ∧ now ∈ readings) ∧
        ∀ start ackPacket, location ≠ .received start ackPacket) ∨
      (∃ dataPacket copies, s.handshake = .send dataPacket (copies + 1) ∧
        s' = { s with
          handshake := .send dataPacket copies
          handshakesInFlight := dataPacket :: s.handshakesInFlight
          handshakesSent := dataPacket :: s.handshakesSent }) ∨
      ∃ start ackPacket location, s.handshake = .received start ackPacket ∧
        s.initTimeoutUs.length < handshakeDuplicate ∧
        (s.initTimeoutUs.length + 1 = handshakeDuplicate ∧ location = .loopTest ∨
          s.initTimeoutUs.length + 1 ≠ handshakeDuplicate ∧ location = .measure start) ∧
        s' = { s with
          handshake := location
          initTimeoutUs := s.initTimeoutUs ++ [getElapsedUs ackPacket.sentTime now]
          readings := now :: s.readings } := by
  simp only [performHandshake] at hstep
  cases hlocation : s.handshake with
  | loopTest =>
    simp only [hlocation, Option.some.injEq] at hstep
    subst hstep
    refine .inl ⟨_, s.readings, rfl, .inl rfl, fun hle => ?_, ?_, ?_⟩
    · -- the loop is left with a full array only
      split_ifs with hlt
      · exact hlt
      · exact le_antisymm hle (not_lt.mp hlt)
    · split_ifs <;> simp
    · split_ifs <;> simp
  | stamp =>
    simp only [hlocation, Option.some.injEq] at hstep
    subst hstep
    refine .inl ⟨_, _, rfl, .inr rfl, id, fun dataPacket copies heq => ?_, by simp⟩
    cases heq
    exact ⟨rfl, List.mem_cons_self⟩
  | send dataPacket copies =>
    cases copies with
    | zero =>
      simp only [hlocation, Option.some.injEq] at hstep
      subst hstep
      exact .inl ⟨.startWaiting, s.readings, rfl, .inl rfl, id, by simp, by simp⟩
    | succ copies =>
      simp only [hlocation, Option.some.injEq] at hstep
      exact .inr (.inl ⟨dataPacket, copies, rfl, hstep.symm⟩)
  | startWaiting =>
    simp only [hlocation, Option.some.injEq] at hstep
    subst hstep
    exact .inl ⟨.waitTest now 0, _, rfl, .inr rfl, id, by simp, by simp⟩
  | waitTest start timePassUs =>
    simp only [hlocation, Option.some.injEq] at hstep
    subst hstep
    refine .inl ⟨_, s.readings, rfl, .inl rfl, fun hlt => ?_, ?_, ?_⟩
    · split_ifs
      · exact hlt
      · exact le_of_lt hlt
    · split_ifs <;> simp
    · split_ifs <;> simp
  | receive start =>
    simp only [hlocation, Option.some.injEq] at hstep
    subst hstep
    exact .inl ⟨.measure start, s.readings, rfl, .inl rfl, id, by simp, by simp⟩
  | received start ackPacket =>
    simp only [hlocation, Option.ite_none_right_eq_some, Option.some.injEq] at hstep
    obtain ⟨hroom, rfl⟩ := hstep
    refine .inr (.inr ⟨start, ackPacket, _, rfl, hroom, ?_, rfl⟩)
    rw [List.length_append, List.length_singleton]
    split_ifs with hfull
    · exact .inl ⟨hfull, rfl⟩
    · exact .inr ⟨hfull, rfl⟩
  | measure start =>
    simp only [hlocation, Option.some.injEq] at hstep
    subst hstep
    exact .inl ⟨.waitTest start _, _, rfl, .inr rfl, id, by simp, by simp⟩
  | returned => simp [hlocation] at hstep

theorem deliverHandshakeAck_eq_some {ackPacket : AckPacket}
    (hstep : s.deliverHandshakeAck ackPacket = some s') :
    ∃ start programs location, s.handshake = .receive start ∧
      s.programs.networkStep (.loseAck ackPacket) = some programs ∧
      (ackPacket.type = .handshake ∧ location = .received start ackPacket ∨
        ackPacket.type ≠ .handshake ∧ location = .measure start) ∧
      s' = { s with programs := programs, handshake := location } := by
  simp only [deliverHandshakeAck] at hstep
  cases hlocation : s.handshake with
  | receive start =>
    simp only [hlocation] at hstep
    obtain ⟨programs, hprograms, heq⟩ := Option.bind_eq_some_iff.mp hstep
    cases heq
    refine ⟨start, programs, _, rfl, hprograms, ?_, rfl⟩
    split_ifs with htype
    · exact .inl ⟨htype, rfl⟩
    · exact .inr ⟨htype, rfl⟩
  | _ => simp [hlocation] at hstep

theorem startThreads_eq_some (hstep : s.startThreads = some s') :
    s.handshake = .returned ∧ s.rttEstimator = none ∧
      ∃ initTimeoutUs, initTimeoutSmlstUs s.initTimeoutUs = some initTimeoutUs ∧
        s' = { s with
          rttEstimator := some (.new initTimeoutUs estimatorAlpha estimatorBeta) } := by
  simp only [startThreads] at hstep
  split_ifs at hstep with hready
  obtain ⟨initTimeoutUs, hinit, heq⟩ := Option.bind_eq_some_iff.mp hstep
  cases heq
  exact ⟨hready.1, Option.isNone_iff_eq_none.mp hready.2, initTimeoutUs, hinit, rfl⟩

theorem deliverHandshake_eq_some {i : Fin receiveThreadNum} {dataPacket : DataPacket (List UInt8)}
    (hstep : s.deliverHandshake i dataPacket = some s') :
    dataPacket ∈ s.handshakesInFlight ∧
      ∃ programs, s.programs.deliverHandshake i dataPacket.sentTime = some programs ∧
        s' = { s with
          programs := programs
          handshakesInFlight := s.handshakesInFlight.erase dataPacket } := by
  simp only [deliverHandshake] at hstep
  split_ifs at hstep with hmem
  obtain ⟨programs, hprograms, heq⟩ := Option.bind_eq_some_iff.mp hstep
  cases heq
  exact ⟨hmem, programs, hprograms, rfl⟩

theorem estimate_eq_some {i : Fin receiveAckThreadNum} (hstep : s.estimate i now = some s') :
    ∃ r ackPacket r', s.rttEstimator = some r ∧
      s.programs.receiveAck i = .received ackPacket ∧ r.ackArrived ackPacket now = .ok r' ∧
      s' = { s with
        rttEstimator := some r'
        estimated := Function.update s.estimated i true
        readings := now :: s.readings } := by
  simp only [estimate] at hstep
  obtain ⟨r, hr, hstep⟩ := Option.bind_eq_some_iff.mp hstep
  obtain ⟨ackPacket, hhand, hstep⟩ := Option.bind_eq_some_iff.mp hstep
  split_ifs at hstep
  obtain ⟨r', hr', heq⟩ := Option.bind_eq_some_iff.mp hstep
  cases heq
  have hreceived : s.programs.receiveAck i = .received ackPacket := by
    cases hlocation : s.programs.receiveAck i with
    | received other =>
      rw [hlocation] at hhand
      cases hhand
      rfl
    | _ =>
      rw [hlocation] at hhand
      cases hhand
  have hok : r.ackArrived ackPacket now = .ok r' := by
    cases hresult : r.ackArrived ackPacket now with
    | error fault =>
      rw [hresult] at hr'
      cases hr'
    | ok result =>
      rw [hresult] at hr'
      cases hr'
      rfl
  exact ⟨r, ackPacket, r', hr, hreceived, hok, rfl⟩

theorem getCurrentTimeoutUs_eq_some (hstep : s.getCurrentTimeoutUs = some s') :
    ∃ r, s.rttEstimator = some r ∧
      s' = { s with currentTimeoutThresholdUs := some r.getCurrentTimeoutUs } := by
  simp only [getCurrentTimeoutUs] at hstep
  obtain ⟨r, hr, hstep⟩ := Option.bind_eq_some_iff.mp hstep
  split_ifs at hstep
  cases hstep
  exact ⟨r, hr, rfl⟩

theorem threadStep_eq_some {b : Programs.Action} (hstep : s.threadStep t b = some s') :
    s.allows b = true ∧ ∃ programs estimated currentTimeoutThresholdUs,
      Programs.step t b s.programs = some programs ∧
      (currentTimeoutThresholdUs = none ∨
        currentTimeoutThresholdUs = s.currentTimeoutThresholdUs) ∧
      s' = { s with
        programs := programs
        estimated := estimated
        currentTimeoutThresholdUs := currentTimeoutThresholdUs
        readings := (s.programs.reading b).toList ++ s.readings } := by
  simp only [threadStep] at hstep
  split_ifs at hstep with hallows
  obtain ⟨programs, hprograms, heq⟩ := Option.bind_eq_some_iff.mp hstep
  cases heq
  refine ⟨hallows, programs, _, _, hprograms, ?_, rfl⟩
  split
  · exact .inl rfl
  · exact .inr rfl

/-- The sender's threads run only once the estimator is there. -/
theorem isSome_of_allows {b : Programs.Action} (hallows : s.allows b = true)
    (hsender : b.ofSender = true) : s.rttEstimator.isSome = true := by
  change ((!b.ofSender || s.rttEstimator.isSome) && _) = true at hallows
  rw [hsender] at hallows
  exact (Bool.and_eq_true_iff.mp hallows).1

/-- Every step of a session is a step of the programs or leaves them as they are. -/
theorem programs_step (hstep : t.sessions.step a s = some s') :
    (∃ b, t.programs.step b s.programs = some s'.programs) ∨ s'.programs = s.programs := by
  change Session.step t a s = some s' at hstep
  cases a with
  | handshake now =>
    rcases performHandshake_cases hstep with ⟨_, _, rfl, -⟩ | ⟨_, _, -, rfl⟩ |
      ⟨_, _, _, -, -, -, rfl⟩ <;> exact .inr rfl
  | deliverHandshakeAck ackPacket =>
    obtain ⟨_, programs, _, -, hprograms, -, rfl⟩ := deliverHandshakeAck_eq_some hstep
    exact .inl ⟨.network (.loseAck ackPacket), hprograms⟩
  | startThreads =>
    obtain ⟨-, -, _, -, rfl⟩ := startThreads_eq_some hstep
    exact .inr rfl
  | deliverHandshake i dataPacket =>
    obtain ⟨-, programs, hprograms, rfl⟩ := deliverHandshake_eq_some hstep
    exact .inl ⟨.deliverHandshake i dataPacket.sentTime, hprograms⟩
  | loseHandshake dataPacket =>
    simp only [Session.step, Option.ite_none_right_eq_some, Option.some.injEq] at hstep
    obtain ⟨-, rfl⟩ := hstep
    exact .inr rfl
  | duplicateHandshake dataPacket =>
    simp only [Session.step, Option.ite_none_right_eq_some, Option.some.injEq] at hstep
    obtain ⟨-, rfl⟩ := hstep
    exact .inr rfl
  | estimate i now =>
    obtain ⟨_, _, _, -, -, -, rfl⟩ := estimate_eq_some hstep
    exact .inr rfl
  | getCurrentTimeoutUs =>
    obtain ⟨_, -, rfl⟩ := getCurrentTimeoutUs_eq_some hstep
    exact .inr rfl
  | thread b =>
    obtain ⟨-, programs, _, _, hprograms, -, rfl⟩ := threadStep_eq_some hstep
    exact .inl ⟨b, hprograms⟩

/-- The programs of a reachable session are reachable by themselves. -/
theorem programs_reachable (hreach : t.sessions.Reachable s) : t.programs.Reachable s.programs :=
  hreach.map rfl fun _ _ _ _ hstep => programs_step hstep

/-! ## What every session satisfies -/

/-- Before the threads start nothing is touched; they start when the handshake has
returned; and the array has as many times as the place in the loop says. -/
structure Inv (t : Transfer) (s : Session) : Prop where
  untouched : s.rttEstimator = none → s.programs.Untouched t
  returned : s.rttEstimator ≠ none → s.handshake = .returned
  collected : s.handshake.Collected s.initTimeoutUs.length

namespace Inv

theorem init (t : Transfer) : (Session.init t).Inv t where
  untouched _ := ⟨.init t, ⟨rfl, rfl, rfl, rfl, rfl⟩⟩
  returned hstarted := absurd rfl hstarted
  collected := Nat.zero_le _

/-- A session in which only the programs have changed, and these within what is allowed
before the threads are started. -/
theorem withPrograms {programs : Programs} (h : s.Inv t) (hprograms : s'.programs = programs)
    (hsame : s'.handshake = s.handshake ∧ s'.initTimeoutUs = s.initTimeoutUs ∧
      s'.rttEstimator = s.rttEstimator)
    (hkeep : s.rttEstimator = none → programs.Untouched t) : s'.Inv t where
  untouched hnone := by
    rw [hprograms]
    exact hkeep (hsame.2.2 ▸ hnone)
  returned hstarted := hsame.1.trans (h.returned (hsame.2.2 ▸ hstarted))
  collected := by
    rw [hsame.1, hsame.2.1]
    exact h.collected

theorem performHandshake (h : s.Inv t) (hstep : s.performHandshake now = some s') :
    s'.Inv t := by
  have hstarted : s.rttEstimator ≠ none → s'.Inv t := by
    intro hstarted
    rw [Session.performHandshake, h.returned hstarted] at hstep
    cases hstep
  rcases performHandshake_cases hstep with ⟨location, readings, rfl, -, hcollected, -⟩ |
    ⟨dataPacket, copies, hsend, rfl⟩ | ⟨start, ackPacket, location, -, hroom, hlocation, rfl⟩
  · exact ⟨h.untouched, fun hsome => (hstarted hsome).returned hsome, hcollected h.collected⟩
  · refine ⟨h.untouched, fun hsome => (hstarted hsome).returned hsome, ?_⟩
    have hcollected := h.collected
    rw [hsend] at hcollected
    exact hcollected
  · refine ⟨h.untouched, fun hsome => (hstarted hsome).returned hsome, ?_⟩
    change location.Collected (s.initTimeoutUs ++ [_]).length
    rw [List.length_append, List.length_singleton]
    -- the third time ends the inner loop
    rcases hlocation with ⟨hfull, rfl⟩ | ⟨hmore, rfl⟩
    · exact hfull.le
    · exact lt_of_le_of_ne hroom hmore

/-- Every step keeps the invariant. -/
theorem step (h : s.Inv t) (hstep : t.sessions.step a s = some s') : s'.Inv t := by
  change Session.step t a s = some s' at hstep
  cases a with
  | handshake now => exact h.performHandshake hstep
  | deliverHandshakeAck ackPacket =>
    obtain ⟨start, programs, location, hreceive, hprograms, hlocation, rfl⟩ :=
      deliverHandshakeAck_eq_some hstep
    have hcollected := h.collected
    rw [hreceive] at hcollected
    refine ⟨fun hnone => (h.untouched hnone).mono ((h.untouched hnone).networkStep hprograms),
      fun hstarted => ?_, ?_⟩
    · have hreturned := h.returned hstarted
      rw [hreceive] at hreturned
      cases hreturned
    · rcases hlocation with ⟨-, rfl⟩ | ⟨-, rfl⟩ <;> exact hcollected
  | startThreads =>
    obtain ⟨hreturned, -, _, -, rfl⟩ := startThreads_eq_some hstep
    exact ⟨nofun, fun _ => hreturned, h.collected⟩
  | deliverHandshake i dataPacket =>
    obtain ⟨-, programs, hprograms, rfl⟩ := deliverHandshake_eq_some hstep
    exact h.withPrograms rfl ⟨rfl, rfl, rfl⟩
      fun hnone => (h.untouched hnone).mono ((h.untouched hnone).deliverHandshake hprograms)
  | loseHandshake dataPacket =>
    simp only [Session.step, Option.ite_none_right_eq_some, Option.some.injEq] at hstep
    obtain ⟨-, rfl⟩ := hstep
    exact h.withPrograms rfl ⟨rfl, rfl, rfl⟩ h.untouched
  | duplicateHandshake dataPacket =>
    simp only [Session.step, Option.ite_none_right_eq_some, Option.some.injEq] at hstep
    obtain ⟨-, rfl⟩ := hstep
    exact h.withPrograms rfl ⟨rfl, rfl, rfl⟩ h.untouched
  | estimate i now =>
    obtain ⟨r, _, _, hr, -, -, rfl⟩ := estimate_eq_some hstep
    have hstarted : s.rttEstimator ≠ none := by
      rw [hr]
      exact nofun
    exact ⟨nofun, fun _ => h.returned hstarted, h.collected⟩
  | getCurrentTimeoutUs =>
    obtain ⟨_, -, rfl⟩ := getCurrentTimeoutUs_eq_some hstep
    exact h.withPrograms rfl ⟨rfl, rfl, rfl⟩ h.untouched
  | thread b =>
    obtain ⟨hallows, programs, _, _, hprograms, -, rfl⟩ := threadStep_eq_some hstep
    refine h.withPrograms rfl ⟨rfl, rfl, rfl⟩ fun hnone => ?_
    -- without the estimator the sender's threads do not run
    refine (h.untouched hnone).mono ((h.untouched hnone).step ?_ hprograms)
    by_contra hsender
    have hsome := isSome_of_allows hallows (Bool.not_eq_false _ ▸ hsender)
    rw [hnone] at hsome
    cases hsome

end Inv

theorem inv_of_reachable (hreach : t.sessions.Reachable s) : s.Inv t :=
  hreach.invariant (Inv.init t) fun _ _ _ h hstep => h.step hstep

/-- The estimator takes every acknowledgement that a thread has in hand. -/
theorem exists_estimate (ht : t.InRange) (hreach : t.sessions.Reachable s)
    {i : Fin receiveAckThreadNum} {ackPacket : AckPacket}
    (hreceived : s.programs.receiveAck i = .received ackPacket) (hestimated : s.estimated i = false)
    (now : Timeval) : ∃ r, t.sessions.step (.estimate i now) s = some { s with
      rttEstimator := some r
      estimated := Function.update s.estimated i true
      readings := now :: s.readings } := by
  have hinv := Programs.inv_of_reachable ht (programs_reachable hreach)
  have hregular := hinv.system.ackType ackPacket (hinv.receiveAck i ackPacket hreceived)
  -- a thread has an acknowledgement in hand only once the threads are started
  cases hstarted : s.rttEstimator with
  | none =>
    have huntouched := (inv_of_reachable hreach).untouched hstarted
    rw [huntouched.same.receiveAck] at hreceived
    cases hreceived
  | some r =>
    obtain ⟨r', hok⟩ : ∃ r', r.ackArrived ackPacket now = .ok r' := ⟨_, if_pos hregular⟩
    refine ⟨r', ?_⟩
    change s.estimate i now = _
    simp [estimate, hstarted, hreceived, ReceiveAckLocation.inHand, hestimated, hok,
      Except.toOption]

end Session

/-! ## The result of the handshake -/

/-- One comparison of the loop keeps the smaller time. -/
theorem smaller_spec (us smlst : UInt64) :
    (if us < smlst then us else smlst) ≤ us ∧ (if us < smlst then us else smlst) ≤ smlst ∧
      ((if us < smlst then us else smlst) = us ∨ (if us < smlst then us else smlst) = smlst) := by
  split_ifs with hlt
  · exact ⟨UInt64.le_refl _, UInt64.le_of_lt hlt, .inl rfl⟩
  · exact ⟨UInt64.not_lt.mp hlt, UInt64.le_refl _, .inr rfl⟩

/-- What is found in a full array is the smallest of its times and of the time the
handshake waits. -/
theorem initTimeoutSmlstUs_eq {initTimeoutUs : List UInt64}
    (hfull : initTimeoutUs.length = handshakeDuplicate) :
    ∃ us, initTimeoutSmlstUs initTimeoutUs = some us ∧ us ≤ handshakeTimeoutUs ∧
      (∀ collected ∈ initTimeoutUs, us ≤ collected) ∧
      (us = handshakeTimeoutUs ∨ us ∈ initTimeoutUs) := by
  obtain ⟨first, second, third, rfl⟩ := List.length_eq_three.mp hfull
  -- the comparisons one after the other
  obtain ⟨hsecond, hfirst, hpair⟩ := smaller_spec second first
  set pair := if second < first then second else first with hpairdef
  obtain ⟨hthird, hle, htriple⟩ := smaller_spec third pair
  set triple := if third < pair then third else pair with htripledef
  obtain ⟨hcap, hle', hresult⟩ := smaller_spec handshakeTimeoutUs triple
  refine ⟨if handshakeTimeoutUs < triple then handshakeTimeoutUs else triple, rfl, hcap, ?_, ?_⟩
  · intro collected hmem
    rcases List.mem_cons.mp hmem with rfl | hmem
    · exact UInt64.le_trans hle' (UInt64.le_trans hle hfirst)
    rcases List.mem_cons.mp hmem with rfl | hmem
    · exact UInt64.le_trans hle' (UInt64.le_trans hle hsecond)
    rw [List.mem_singleton.mp hmem]
    exact UInt64.le_trans hle' hthird
  · refine hresult.imp_right fun heq => ?_
    rw [heq]
    rcases htriple with heq | heq
    · rw [heq]
      simp
    · rcases hpair with heq' | heq' <;> rw [heq, heq'] <;> simp

/-- **The result of the handshake.** In every interleaving the array takes every time
that is stored in it; when the handshake has returned the array is full, and the result
is the smallest of the three times, or the time the handshake waits if that is less. -/
theorem performHandshake_result (hreach : t.sessions.Reachable s) :
    s.initTimeoutUs.length ≤ handshakeDuplicate ∧
      (∀ start ackPacket, s.handshake = .received start ackPacket →
        ∀ now, ∃ s', t.sessions.step (.handshake now) s = some s') ∧
      (s.handshake = .returned →
        s.initTimeoutUs.length = handshakeDuplicate ∧
          ∃ us, initTimeoutSmlstUs s.initTimeoutUs = some us ∧ us ≤ handshakeTimeoutUs ∧
            (∀ collected ∈ s.initTimeoutUs, us ≤ collected) ∧
            (us = handshakeTimeoutUs ∨ us ∈ s.initTimeoutUs)) ∧
      (s.rttEstimator ≠ none → s.handshake = .returned) := by
  have h := Session.inv_of_reachable hreach
  have hcollected := h.collected
  refine ⟨?_, fun start ackPacket hreceived now => ?_, fun hreturned => ?_, h.returned⟩
  · cases hlocation : s.handshake with
    | loopTest =>
      rw [hlocation] at hcollected
      exact hcollected
    | returned =>
      rw [hlocation] at hcollected
      exact le_of_eq hcollected
    | _ =>
      rw [hlocation] at hcollected
      exact le_of_lt hcollected
  · rw [hreceived] at hcollected
    have hroom : s.initTimeoutUs.length < handshakeDuplicate := hcollected
    change ∃ s', s.performHandshake now = some s'
    simp only [Session.performHandshake, hreceived]
    rw [if_pos hroom]
    exact ⟨_, rfl⟩
  · rw [hreturned] at hcollected
    exact ⟨hcollected, initTimeoutSmlstUs_eq hcollected⟩

/-- The first receiver thread reads the handshake stamped `start` and answers it, the
answer is read and its time is taken at `now`. -/
def Session.measurement (start now : Timeval) : List Session.Action :=
  [.thread (.receiveData 0), .deliverHandshake 0 (handshakePacket start), .thread (.receiveData 0),
    .thread (.receiveData 0), .thread (.receiveData 0),
    .deliverHandshakeAck ⟨.handshake, 0, 0, start⟩, .handshake now]

/-- One round of the handshake: three answers arrive after 700, 900 and 950 microseconds. -/
def Session.handshakeRun : List Session.Action :=
  List.replicate 9 (.handshake ⟨100, 0⟩) ++ measurement ⟨100, 0⟩ ⟨100, 700⟩ ++
    List.replicate 2 (.handshake ⟨100, 700⟩) ++ measurement ⟨100, 0⟩ ⟨100, 900⟩ ++
    List.replicate 2 (.handshake ⟨100, 900⟩) ++ measurement ⟨100, 0⟩ ⟨100, 950⟩ ++
    [.handshake ⟨100, 950⟩]

/-- Three answers are collected and the smallest time is the result. -/
theorem performHandshake_result_handshakeRun :
    initTimeoutSmlstUs (Transfer.oneByte.sessions.endOf Session.handshakeRun).initTimeoutUs =
        some 700 ∧
      (Transfer.oneByte.sessions.endOf Session.handshakeRun).initTimeoutUs.length =
        handshakeDuplicate := by
  refine ⟨by decide +kernel, ?_⟩
  exact ((performHandshake_result (Transfer.oneByte.sessions.reachable_endOf
    Session.handshakeRun)).2.2.1 (by decide +kernel)).1

/-! ## The state that is handed over -/

/-- **A session refines the programs.** Its programs are always in a state the threads
can reach by themselves. Until the threads are started the windows are as their
constructors leave them, no data packet is on the network and every acknowledgement on
it answers a handshake. -/
theorem session_refines_programs (hreach : t.sessions.Reachable s) :
    t.programs.Reachable s.programs ∧
      (s.rttEstimator = none → s.programs.sys = .init t ∧ s.programs.sendData = .loopTest ∧
        (∀ i, s.programs.receiveAck i = .loopTest) ∧ s.programs.checkTimeout = .loopTest ∧
        s.programs.dataInFlight = [] ∧
        ∀ ackPacket ∈ s.programs.acksInFlight, ackPacket.type = .handshake) := by
  refine ⟨Session.programs_reachable hreach, fun hnone => ?_⟩
  have h := (Session.inv_of_reachable hreach).untouched hnone
  exact ⟨h.same.sys, h.same.sendData, fun i => congrFun h.same.receiveAck i, h.same.checkTimeout,
    h.dataInFlight, h.acks⟩

/-- The threads have not been started, and one copy of the handshake is still in flight. -/
theorem session_refines_programs_handshakeRun :
    (Transfer.oneByte.sessions.endOf Session.handshakeRun).handshakesInFlight =
        [handshakePacket ⟨100, 0⟩] ∧
      (Transfer.oneByte.sessions.endOf Session.handshakeRun).programs.sys =
        .init Transfer.oneByte := by
  refine ⟨by decide +kernel, ?_⟩
  exact ((session_refines_programs (Transfer.oneByte.sessions.reachable_endOf
    Session.handshakeRun)).2 (by decide +kernel)).1

end ReliablePacket
