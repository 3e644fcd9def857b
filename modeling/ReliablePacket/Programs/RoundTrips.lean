/-
# Round-trip times

What the handshake stores and what the estimator takes in are round-trip times: the time
between two readings of the sender's clock, one when a datagram was stamped and one when
an answer to it was read. An acknowledgement that names a packet was made for a datagram
with the number of that packet, and since retransmissions carry stamps of their own,
its time is that of the copy the receiver took.

So what is known of the round trips is known of the timeouts. If they lie between two
bounds, the threshold of every sweep is bounded, and no sweep gives up a packet that
was sent no longer ago than the shortest round trip.
-/
import ReliablePacket.Programs.Handshake
import ReliablePacket.Programs.Stamps
import ReliablePacket.Protocol.Clock
import ReliablePacket.Protocol.RttEstimates

set_option autoImplicit false

namespace ReliablePacket

open SlideWindowSender TruncatedMean

variable {t : Transfer} {p p' : Programs} {s s' : Session} {a : Session.Action} {now : Timeval}
variable {readings readings' : List Timeval}

/-! ## The clock -/

/-- The readings, the latest first, do not go back and span no more than can be
written as microseconds. -/
def ClockForward (readings : List Timeval) : Prop :=
  ClockMono readings.reverse ∧ ClockSpan readings.reverse

/-- The earlier readings of a forward clock. -/
theorem ClockForward.of_append {later : List Timeval} (h : ClockForward (later ++ readings)) :
    ClockForward readings := by
  obtain ⟨⟨hnormalised, hmono⟩, hspan⟩ := h
  rw [List.reverse_append] at hnormalised hmono
  rw [ClockSpan, List.reverse_append] at hspan
  refine ⟨⟨fun time hmem => ?_, (List.pairwise_append.mp hmono).1⟩,
    (List.pairwise_append.mp hspan).1⟩
  exact hnormalised time (List.mem_append_left _ hmem)

/-- The time that has passed since an earlier reading. -/
theorem ClockForward.toNat_getElapsedUs {before : Timeval} (h : ClockForward (now :: readings))
    (hmem : before ∈ readings) :
    ((getElapsedUs before now).toNat : ℤ) = now.usecs - before.usecs := by
  obtain ⟨⟨-, hmono⟩, hspan⟩ := h
  rw [List.reverse_cons] at hmono
  rw [ClockSpan, List.reverse_cons] at hspan
  have hbefore := List.mem_reverse.mpr hmem
  apply toNat_getElapsedUs_of_le
  · exact (List.pairwise_append.mp hmono).2.2 before hbefore now List.mem_cons_self
  · exact (List.pairwise_append.mp hspan).2.2 before hbefore now List.mem_cons_self

/-! ## What a session has measured -/

/-- The place holds stamps of the clock and answers to handshakes only. -/
def HandshakeLocation.Stamped (times handshakeTimes : List Timeval) : HandshakeLocation → Prop
  | .send dataPacket _ => dataPacket.sentTime ∈ times
  | .received _ ackPacket => ackPacket.sentTime ∈ handshakeTimes
  | _ => True

theorem HandshakeLocation.Stamped.mono {location : HandshakeLocation}
    {handshakeTimes : List Timeval} (h : location.Stamped readings handshakeTimes)
    (htimes : readings ⊆ readings') : location.Stamped readings' handshakeTimes := by
  cases location with
  | send dataPacket copies => exact htimes h
  | _ => exact h

/-- One more arrival. -/
theorem RttEstimatorJacobson.ackAllArrived_concat {r r₁ r' : RttEstimatorJacobson}
    {arrivals : List Arrival} {arrival : Arrival} (hrun : r.ackAllArrived arrivals = .ok r₁)
    (hok : r₁.ackArrived arrival.ackPacket arrival.now = .ok r') :
    r.ackAllArrived (arrivals ++ [arrival]) = .ok r' := by
  rw [ackAllArrived] at hrun
  calc r.ackAllArrived (arrivals ++ [arrival])
      = (r₁.ackArrived arrival.ackPacket arrival.now >>= pure) := by
        rw [ackAllArrived, List.foldlM_append, hrun]
        rfl
    _ = .ok r' := by rw [bind_pure, hok]

namespace Session

/-- The stamps of the handshakes that were sent. -/
def handshakeTimes (s : Session) : List Timeval := s.handshakesSent.map (·.sentTime)

/-- The time was measured from the stamp of a handshake. -/
def MeasuresHandshake (s : Session) (us : UInt64) : Prop :=
  ∃ dataPacket ∈ s.handshakesSent, ∃ now ∈ s.readings,
    us = getElapsedUs dataPacket.sentTime now ∧
      (ClockForward s.readings → (us.toNat : ℤ) = now.usecs - dataPacket.sentTime.usecs)

/-- The arrival is that of a reply the receiver made, and its time was measured from the
stamp of the packet that the reply answers. -/
def Measures (s : Session) (arrival : Arrival) : Prop :=
  arrival.ackPacket ∈ s.programs.sys.acksSent ∧ s.programs.sys.Answers arrival.ackPacket ∧
    arrival.ackPacket.sentTime ∈ s.readings ∧ arrival.now ∈ s.readings ∧
      (ClockForward s.readings →
        (arrival.elapsedUs : ℤ) = arrival.now.usecs - arrival.ackPacket.sentTime.usecs)

/-- Everything the session knows of the past, it still knows. -/
structure GrowsTo (s s' : Session) : Prop where
  dataSent : s.programs.sys.dataSent ⊆ s'.programs.sys.dataSent
  acksSent : s.programs.sys.acksSent ⊆ s'.programs.sys.acksSent
  handshakesSent : s.handshakesSent ⊆ s'.handshakesSent
  readings : ∃ later, s'.readings = later ++ s.readings

namespace GrowsTo

theorem clockForward (h : s.GrowsTo s') (hclock : ClockForward s'.readings) :
    ClockForward s.readings := by
  obtain ⟨later, heq⟩ := h.readings
  rw [heq] at hclock
  exact hclock.of_append

theorem readings_subset (h : s.GrowsTo s') : s.readings ⊆ s'.readings := by
  obtain ⟨later, heq⟩ := h.readings
  rw [heq]
  exact List.subset_append_right _ _

theorem measuresHandshake (h : s.GrowsTo s') {us : UInt64} (hus : s.MeasuresHandshake us) :
    s'.MeasuresHandshake us := by
  obtain ⟨dataPacket, hsent, now, hnow, heq, hexact⟩ := hus
  exact ⟨dataPacket, h.handshakesSent hsent, now, h.readings_subset hnow, heq,
    fun hclock => hexact (h.clockForward hclock)⟩

theorem measures (h : s.GrowsTo s') {arrival : Arrival} (harrival : s.Measures arrival) :
    s'.Measures arrival := by
  obtain ⟨hsent, hanswers, hstamp, hnow, hexact⟩ := harrival
  exact ⟨h.acksSent hsent, hanswers.mono h.dataSent, h.readings_subset hstamp,
    h.readings_subset hnow, fun hclock => hexact (h.clockForward hclock)⟩

end GrowsTo

/-- What every session satisfies about stamps and samples. -/
structure Sampled (s : Session) : Prop where
  programs : s.programs.Stamped s.readings s.handshakeTimes
  handshakesSent : ∀ dataPacket ∈ s.handshakesSent, dataPacket.sentTime ∈ s.readings
  handshakesInFlight : s.handshakesInFlight ⊆ s.handshakesSent
  handshake : s.handshake.Stamped s.readings s.handshakeTimes
  collected : ∀ us ∈ s.initTimeoutUs, s.MeasuresHandshake us
  /-- The estimator is the initial one with the arrivals so far. -/
  estimator : ∀ r, s.rttEstimator = some r → ∃ us arrivals,
    initTimeoutSmlstUs s.initTimeoutUs = some us ∧
      (RttEstimatorJacobson.new us estimatorAlpha estimatorBeta).ackAllArrived arrivals = .ok r ∧
        ∀ arrival ∈ arrivals, s.Measures arrival

namespace Sampled

theorem init (t : Transfer) : (Session.init t).Sampled where
  programs := .init t
  handshakesSent := nofun
  handshakesInFlight := List.Subset.refl _
  handshake := trivial
  collected := nofun
  estimator := nofun

/-- A step that measures nothing. -/
theorem frame (h : s.Sampled) (hgrow : s.GrowsTo s')
    (hinit : s'.initTimeoutUs = s.initTimeoutUs) (hestimator : s'.rttEstimator = s.rttEstimator)
    (hprograms : s'.programs.Stamped s'.readings s'.handshakeTimes)
    (hsent : ∀ dataPacket ∈ s'.handshakesSent, dataPacket.sentTime ∈ s'.readings)
    (hflight : s'.handshakesInFlight ⊆ s'.handshakesSent)
    (hhandshake : s'.handshake.Stamped s'.readings s'.handshakeTimes) : s'.Sampled where
  programs := hprograms
  handshakesSent := hsent
  handshakesInFlight := hflight
  handshake := hhandshake
  collected us hus := hgrow.measuresHandshake (h.collected us (hinit ▸ hus))
  estimator r hr := by
    obtain ⟨us, arrivals, hus, hrun, harrivals⟩ := h.estimator r (hestimator ▸ hr)
    exact ⟨us, arrivals, hinit ▸ hus, hrun, fun arrival hmem =>
      hgrow.measures (harrivals arrival hmem)⟩

/-- A step of the handshake. -/
theorem performHandshake (h : s.Sampled) (hinv : s.Inv t)
    (hstep : s.performHandshake now = some s') : s'.Sampled := by
  have hnone : s.rttEstimator = none := by
    by_contra hstarted
    rw [Session.performHandshake, hinv.returned hstarted] at hstep
    cases hstep
  rcases performHandshake_cases hstep with ⟨location, readings, rfl, hreadings, -, hsend, hread⟩ |
    ⟨dataPacket, copies, hsend, rfl⟩ | ⟨start, ackPacket, location, hreceived, -, hlocation, rfl⟩
  · have hgrow : s.GrowsTo { s with handshake := location, readings := readings } := by
      refine ⟨List.Subset.refl _, List.Subset.refl _, List.Subset.refl _, ?_⟩
      rcases hreadings with rfl | rfl
      · exact ⟨[], rfl⟩
      · exact ⟨[now], rfl⟩
    apply h.frame hgrow rfl rfl
    · exact h.programs.mono hgrow.readings_subset (List.Subset.refl _)
    · exact fun dataPacket hmem => hgrow.readings_subset (h.handshakesSent dataPacket hmem)
    · exact h.handshakesInFlight
    · cases location with
      | send dataPacket copies =>
        -- the packet has just been stamped
        obtain ⟨rfl, hnow⟩ := hsend dataPacket copies rfl
        exact hnow
      | received start ackPacket => exact absurd rfl (hread start ackPacket)
      | _ => trivial
  · have hstamp := h.handshake
    rw [hsend] at hstamp
    have htimes : s.handshakeTimes ⊆
        (dataPacket :: s.handshakesSent).map (·.sentTime) :=
      List.map_subset _ (List.subset_cons_self _ _)
    have hgrow : s.GrowsTo { s with
        handshake := .send dataPacket copies
        handshakesInFlight := dataPacket :: s.handshakesInFlight
        handshakesSent := dataPacket :: s.handshakesSent } :=
      ⟨List.Subset.refl _, List.Subset.refl _, List.subset_cons_self _ _, [], rfl⟩
    apply h.frame hgrow rfl rfl
    · exact h.programs.mono (List.Subset.refl _) htimes
    · exact List.forall_mem_cons.mpr ⟨hstamp, h.handshakesSent⟩
    · exact List.cons_subset_cons _ h.handshakesInFlight
    · exact hstamp
  · have hstamp := h.handshake
    rw [hreceived] at hstamp
    obtain ⟨dataPacket, hsent, hsame⟩ := List.mem_map.mp hstamp
    have hgrow : s.GrowsTo { s with
        handshake := location
        initTimeoutUs := s.initTimeoutUs ++ [getElapsedUs ackPacket.sentTime now]
        readings := now :: s.readings } :=
      ⟨List.Subset.refl _, List.Subset.refl _, List.Subset.refl _, [now], rfl⟩
    refine ⟨?_, ?_, h.handshakesInFlight, ?_, ?_, fun r hr => ?_⟩
    · exact h.programs.mono hgrow.readings_subset (List.Subset.refl _)
    · exact fun other hmem => hgrow.readings_subset (h.handshakesSent other hmem)
    · rcases hlocation with ⟨-, rfl⟩ | ⟨-, rfl⟩ <;> trivial
    · intro us hus
      rcases List.mem_append.mp hus with hold | hnew
      · exact hgrow.measuresHandshake (h.collected us hold)
      · rw [List.mem_singleton.mp hnew]
        refine ⟨dataPacket, hsent, now, List.mem_cons_self, by rw [hsame], fun hclock => ?_⟩
        rw [← hsame]
        exact hclock.toNat_getElapsedUs (h.handshakesSent dataPacket hsent)
    · rw [hnone] at hr
      cases hr

/-- The estimator takes in one more round-trip time. -/
theorem estimate {i : Fin receiveAckThreadNum} (h : s.Sampled) (ht : t.InRange)
    (hreach : t.sessions.Reachable s) (hstep : s.estimate i now = some s') : s'.Sampled := by
  obtain ⟨r, ackPacket, r', hr, hreceived, hok, rfl⟩ := estimate_eq_some hstep
  have hprograms := programs_reachable hreach
  have hmem := (Programs.inv_of_reachable ht hprograms).receiveAck i ackPacket hreceived
  have hanswers := Programs.answers_of_reachable ht hprograms ackPacket hmem
  obtain ⟨us, arrivals, hus, hrun, harrivals⟩ := h.estimator r hr
  have hgrow : s.GrowsTo { s with
      rttEstimator := some r'
      estimated := Function.update s.estimated i true
      readings := now :: s.readings } :=
    ⟨List.Subset.refl _, List.Subset.refl _, List.Subset.refl _, [now], rfl⟩
  -- the stamp of the acknowledgement is that of a packet, which the clock has read
  have hstamp : ackPacket.sentTime ∈ s.readings := by
    obtain ⟨dataPacket, hsent, hsame, -⟩ := hanswers
    rw [← hsame]
    exact h.programs.dataSent dataPacket hsent
  refine ⟨?_, ?_, h.handshakesInFlight, ?_, ?_, fun r₁ hr₁ => ?_⟩
  · exact h.programs.mono hgrow.readings_subset (List.Subset.refl _)
  · exact fun other hother => hgrow.readings_subset (h.handshakesSent other hother)
  · exact h.handshake.mono hgrow.readings_subset
  · exact fun us hus => hgrow.measuresHandshake (h.collected us hus)
  · cases hr₁
    refine ⟨us, arrivals ++ [⟨ackPacket, now⟩], hus, ?_, ?_⟩
    · exact RttEstimatorJacobson.ackAllArrived_concat hrun hok
    · intro arrival hmem'
      rcases List.mem_append.mp hmem' with hold | hnew
      · exact hgrow.measures (harrivals arrival hold)
      · rw [List.mem_singleton.mp hnew]
        exact ⟨hmem, hanswers, List.mem_cons_of_mem _ hstamp, List.mem_cons_self,
          fun hclock => hclock.toNat_getElapsedUs hstamp⟩

/-- Every step keeps stamps and samples as they should be. -/
theorem step (h : s.Sampled) (ht : t.InRange) (hreach : t.sessions.Reachable s)
    (hstep : t.sessions.step a s = some s') : s'.Sampled := by
  have hinv := inv_of_reachable hreach
  have hprograms := programs_reachable hreach
  have hprogramsInv := Programs.inv_of_reachable ht hprograms
  change Session.step t a s = some s' at hstep
  cases a with
  | handshake now => exact h.performHandshake hinv hstep
  | deliverHandshakeAck ackPacket =>
    obtain ⟨start, programs, location, -, hlost, hlocation, rfl⟩ :=
      deliverHandshakeAck_eq_some hstep
    have hstep' : t.programs.step (.network (.loseAck ackPacket)) s.programs = some programs :=
      hlost
    obtain ⟨hdata, hacks⟩ := (hprogramsInv.change ht hstep').sent_subset
    have hgrow : s.GrowsTo { s with programs := programs, handshake := location } :=
      ⟨hdata, hacks, List.Subset.refl _, [], rfl⟩
    apply h.frame hgrow rfl rfl
    · exact h.programs.step hprogramsInv ht (fun _ _ heq => by cases heq)
        (fun _ _ heq => by cases heq) hstep'
    · exact h.handshakesSent
    · exact h.handshakesInFlight
    · rcases hlocation with ⟨htype, rfl⟩ | ⟨-, rfl⟩
      · -- what was read was in flight, and it answers a handshake
        have hmem : ackPacket ∈ s.programs.acksInFlight := by
          simp only [Programs.networkStep, Option.ite_none_right_eq_some] at hlost
          exact hlost.1
        exact h.programs.acksInFlight ackPacket hmem htype
      · trivial
  | startThreads =>
    obtain ⟨-, -, us, hus, rfl⟩ := startThreads_eq_some hstep
    refine ⟨h.programs, h.handshakesSent, h.handshakesInFlight, h.handshake, h.collected, ?_⟩
    intro r hr
    cases hr
    exact ⟨us, [], hus, rfl, fun arrival hmem => by cases hmem⟩
  | deliverHandshake i dataPacket =>
    obtain ⟨hmem, programs, hdelivered, rfl⟩ := deliverHandshake_eq_some hstep
    have hstep' : t.programs.step (.deliverHandshake i dataPacket.sentTime) s.programs =
        some programs := hdelivered
    obtain ⟨hdata, hacks⟩ := (hprogramsInv.change ht hstep').sent_subset
    have hgrow : s.GrowsTo { s with
        programs := programs
        handshakesInFlight := s.handshakesInFlight.erase dataPacket } :=
      ⟨hdata, hacks, List.Subset.refl _, [], rfl⟩
    apply h.frame hgrow rfl rfl
    · apply h.programs.step hprogramsInv ht (fun _ _ heq => by cases heq) ?_ hstep'
      intro j sentTime heq
      cases heq
      exact List.mem_map_of_mem (h.handshakesInFlight hmem)
    · exact h.handshakesSent
    · exact List.Subset.trans List.erase_subset h.handshakesInFlight
    · exact h.handshake
  | loseHandshake dataPacket =>
    simp only [Session.step, Option.ite_none_right_eq_some, Option.some.injEq] at hstep
    obtain ⟨-, rfl⟩ := hstep
    exact { h with
      handshakesInFlight := List.Subset.trans List.erase_subset h.handshakesInFlight }
  | duplicateHandshake dataPacket =>
    simp only [Session.step, Option.ite_none_right_eq_some, Option.some.injEq] at hstep
    obtain ⟨hmem, rfl⟩ := hstep
    exact { h with
      handshakesInFlight :=
        List.cons_subset.mpr ⟨h.handshakesInFlight hmem, h.handshakesInFlight⟩ }
  | estimate i now => exact h.estimate ht hreach hstep
  | getCurrentTimeoutUs =>
    obtain ⟨_, -, rfl⟩ := getCurrentTimeoutUs_eq_some hstep
    exact { h with }
  | thread b =>
    obtain ⟨hallows, programs, estimated, threshold, hthread, -, rfl⟩ := threadStep_eq_some hstep
    have hstep' : t.programs.step b s.programs = some programs := hthread
    obtain ⟨hdata, hacks⟩ := (hprogramsInv.change ht hstep').sent_subset
    have hgrow : s.GrowsTo { s with
        programs := programs
        estimated := estimated
        currentTimeoutThresholdUs := threshold
        readings := (s.programs.reading b).toList ++ s.readings } :=
      ⟨hdata, hacks, List.Subset.refl _, _, rfl⟩
    apply h.frame hgrow rfl rfl
    · apply (h.programs.mono hgrow.readings_subset (List.Subset.refl _)).step hprogramsInv ht ?_ ?_
        hstep'
      · -- the reading of a sending round is recorded
        rintro now freed rfl hprepare
        simp [Programs.reading, hprepare]
      · rintro i sentTime rfl
        -- handshakes are not delivered by a step of the threads
        simp [allows] at hallows
    · exact fun other hother => hgrow.readings_subset (h.handshakesSent other hother)
    · exact h.handshakesInFlight
    · exact h.handshake.mono hgrow.readings_subset

end Sampled

/-- The round-trip time that a step measures. -/
def roundTripUs (s : Session) : Action → Option UInt64
  | .handshake now =>
    match s.handshake with
    | .received _ ackPacket => some (getElapsedUs ackPacket.sentTime now)
    | _ => none
  | .estimate i now =>
    (s.programs.receiveAck i).inHand.map fun ackPacket => getElapsedUs ackPacket.sentTime now
  | _ => none

/-- What the step measures lies between the bounds. -/
def RoundTripWithin (lo hi : ℕ) (s : Session) (a : Action) : Prop :=
  ∀ us ∈ s.roundTripUs a, lo ≤ us.toNat ∧ us.toNat ≤ hi

instance (lo hi : ℕ) (s : Session) (a : Action) : Decidable (s.RoundTripWithin lo hi a) :=
  decidable_of_iff ((s.roundTripUs a).all fun us => lo ≤ us.toNat ∧ us.toNat ≤ hi) <| by
    simp [RoundTripWithin, Option.all_eq_true]

/-- The bound of the deviation: a quarter of the initial timeout, or the width of the
interval. -/
def spreadUs (initTimeoutUs : UInt64) (lo hi : ℕ) : ℕ := max (initTimeoutUs.toNat / 4) (hi - lo)

/-- What follows for the estimator and the threshold of the next sweep. -/
structure TimeoutsWithin (lo hi : ℕ) (s : Session) : Prop where
  collected : ∀ us ∈ s.initTimeoutUs, lo ≤ us.toNat ∧ us.toNat ≤ hi
  estimator : ∀ r, s.rttEstimator = some r →
    ∃ initTimeoutUs, initTimeoutSmlstUs s.initTimeoutUs = some initTimeoutUs ∧
      initTimeoutUs.toNat ≤ hi ∧ r.Weighted ∧ r.estimate.Within lo hi (spreadUs initTimeoutUs lo hi)
  threshold : ∀ us, s.currentTimeoutThresholdUs = some us → s.rttEstimator ≠ none ∧
    ∃ initTimeoutUs, initTimeoutSmlstUs s.initTimeoutUs = some initTimeoutUs ∧
      lo ≤ us.toNat ∧ us.toNat ≤ 11 * hi / 10 + 4 * spreadUs initTimeoutUs lo hi

namespace TimeoutsWithin

variable {lo hi : ℕ}

theorem init (t : Transfer) : (Session.init t).TimeoutsWithin lo hi where
  collected := nofun
  estimator := nofun
  threshold := nofun

/-- The estimator begins with the result of the handshake. -/
theorem startThreads (h : s.TimeoutsWithin lo hi) (hlo : lo ≤ handshakeTimeoutUs.toNat)
    (hinv : s.Inv t) (hstep : s.startThreads = some s') : s'.TimeoutsWithin lo hi := by
  obtain ⟨hreturned, hnone, us, hus, rfl⟩ := startThreads_eq_some hstep
  have hfull := hinv.collected
  rw [hreturned] at hfull
  obtain ⟨us', hus', hcap, hsmallest, hresult⟩ := initTimeoutSmlstUs_eq hfull
  obtain rfl : us' = us := Option.some.inj (hus'.symm.trans hus)
  refine
    { collected := h.collected
      estimator := fun r hr => ?_
      threshold := fun us hthreshold => absurd hnone (h.threshold us hthreshold).1 }
  cases hr
  -- the array is full, so some collected time bounds the result
  have hlt : 0 < s.initTimeoutUs.length := by
    rw [hfull]
    decide
  have hmem := List.getElem_mem hlt
  have hhi : us'.toNat ≤ hi :=
    (UInt64.le_iff_toNat_le.mp (hsmallest _ hmem)).trans (h.collected _ hmem).2
  have hlow : lo ≤ us'.toNat := by
    rcases hresult with rfl | hcollected
    · exact hlo
    · exact (h.collected us' hcollected).1
  exact ⟨us', hus, hhi, RttEstimatorJacobson.weighted_new _,
    RttEstimatorJacobson.within_new hlow hhi⟩

theorem step (h : s.TimeoutsWithin lo hi) (hlo : lo ≤ handshakeTimeoutUs.toNat)
    (hhi : hi ≤ 2 ^ 50) (hinv : s.Inv t) (hwithin : s.RoundTripWithin lo hi a)
    (hstep : t.sessions.step a s = some s') : s'.TimeoutsWithin lo hi := by
  change Session.step t a s = some s' at hstep
  cases a with
  | handshake now =>
    rcases performHandshake_cases hstep with ⟨_, _, rfl, -⟩ | ⟨_, _, -, rfl⟩ |
      ⟨start, ackPacket, _, hreceived, -, -, rfl⟩
    · exact { h with }
    · exact { h with }
    · -- the estimator does not exist yet
      have hnone : s.rttEstimator = none := by
        by_contra hstarted
        rw [hinv.returned hstarted] at hreceived
        cases hreceived
      refine
        { collected := fun us hus => ?_
          estimator := fun r hr => absurd (hnone.symm.trans hr) nofun
          threshold := fun us hthreshold => absurd hnone (h.threshold us hthreshold).1 }
      rcases List.mem_append.mp hus with hold | hnew
      · exact h.collected us hold
      · rw [List.mem_singleton.mp hnew]
        apply hwithin
        simp [roundTripUs, hreceived]
  | deliverHandshakeAck ackPacket =>
    obtain ⟨_, _, _, -, -, -, rfl⟩ := deliverHandshakeAck_eq_some hstep
    exact { h with }
  | startThreads => exact h.startThreads hlo hinv hstep
  | deliverHandshake i dataPacket =>
    obtain ⟨-, _, -, rfl⟩ := deliverHandshake_eq_some hstep
    exact { h with }
  | loseHandshake dataPacket =>
    simp only [Session.step, Option.ite_none_right_eq_some, Option.some.injEq] at hstep
    obtain ⟨-, rfl⟩ := hstep
    exact { h with }
  | duplicateHandshake dataPacket =>
    simp only [Session.step, Option.ite_none_right_eq_some, Option.some.injEq] at hstep
    obtain ⟨-, rfl⟩ := hstep
    exact { h with }
  | estimate i now =>
    obtain ⟨r, ackPacket, r', hr, hreceived, hok, rfl⟩ := estimate_eq_some hstep
    obtain ⟨us, hus, hle, hweighted, hestimate⟩ := h.estimator r hr
    refine
      { collected := h.collected
        estimator := fun r₁ hr₁ => ?_
        threshold := fun thr hthr => ⟨by simp, (h.threshold thr hthr).2⟩ }
    cases hr₁
    have hregular : (Arrival.mk ackPacket now).ackPacket.type = .regular := by
      by_contra hother
      rw [RttEstimatorJacobson.ackArrived, if_neg hother] at hok
      cases hok
    obtain ⟨r₂, hok', hweighted', hobserve⟩ := hweighted.ackArrived hregular
    rw [hok] at hok'
    cases hok'
    have hsample := hwithin (getElapsedUs ackPacket.sentTime now) (by
      simp [roundTripUs, hreceived, ReceiveAckLocation.inHand])
    refine ⟨us, hus, hle, hweighted', ?_⟩
    rw [hobserve]
    exact hestimate.observe (le_max_right _ _) hsample.1 hsample.2
  | getCurrentTimeoutUs =>
    obtain ⟨r, hr, rfl⟩ := getCurrentTimeoutUs_eq_some hstep
    refine { h with threshold := fun thr hthr => ⟨by simp [hr], ?_⟩ }
    cases hthr
    obtain ⟨us, hus, hle, -, hestimate⟩ := h.estimator r hr
    have htimeout := RttEstimatorJacobson.timeoutUs_le hestimate
    have hspread : spreadUs us lo hi ≤ 2 ^ 50 := by
      rw [spreadUs]
      omega
    -- the bound leaves room in 64 bits
    rw [RttEstimatorJacobson.toNat_getCurrentTimeoutUs (by omega)]
    exact ⟨us, hus, hestimate.le_mean.trans (RttEstimatorJacobson.mean_le_timeoutUs _), htimeout⟩
  | thread b =>
    obtain ⟨-, _, _, threshold, -, hthreshold, rfl⟩ := threadStep_eq_some hstep
    refine { h with threshold := fun us hus => ?_ }
    rcases hthreshold with rfl | rfl
    · cases hus
    · exact h.threshold us hus

end TimeoutsWithin

theorem timeoutsWithin_of_reachableVia {lo hi : ℕ} (hlo : lo ≤ handshakeTimeoutUs.toNat)
    (hhi : hi ≤ 2 ^ 50) (hreach : t.sessions.ReachableVia (RoundTripWithin lo hi) s) :
    s.TimeoutsWithin lo hi :=
  hreach.invariant (TimeoutsWithin.init t) fun _ _ _ hs h hwithin hstep =>
    h.step hlo hhi (inv_of_reachable hs.reachable) hwithin hstep

end Session

/-- Between its sweeps `checkTimeout` leaves the windows alone. -/
theorem Programs.sys_checkTimeoutStep {timeoutThresholdUs : UInt64}
    (hsweep : p.checkTimeout ≠ .sweep)
    (hstep : p.checkTimeoutStep t timeoutThresholdUs now = some p') : p'.sys = p.sys := by
  simp only [checkTimeoutStep] at hstep
  cases hlocation : p.checkTimeout with
  | sweep => exact absurd hlocation hsweep
  | loopTest =>
    simp only [hlocation, Option.some.injEq] at hstep
    rw [← hstep]
  | testHasData =>
    simp only [hlocation, Option.some.injEq] at hstep
    rw [← hstep]
  | notify =>
    simp only [hlocation, Option.some.injEq] at hstep
    obtain ⟨location, heq, -⟩ := notifyAll_eq p
    rw [← hstep, heq]
  | exited => simp [hlocation] at hstep

/-- After the handshake the only packet is sent, taken 300 and acknowledged 800 microseconds
later, and `checkTimeout` asks for its threshold. -/
def Session.sampleRun : List Session.Action :=
  handshakeRun ++ [.startThreads] ++ List.replicate 5 (.thread (.sendData ⟨100, 1000⟩ [])) ++
    [.thread (.receiveData 0), .thread (.deliverData 0 ⟨.finish, 0, ⟨100, 1000⟩, 1, [7]⟩),
      .thread (.receiveData 0), .thread (.receiveData 0), .thread (.receiveData 0),
      .thread (.receiveAck 0), .thread (.deliverAck 0 ⟨.regular, 1, 0, ⟨100, 1000⟩⟩),
      .estimate 0 ⟨100, 1800⟩, .thread (.checkTimeout 0 ⟨0, 0⟩), .getCurrentTimeoutUs]

/-- **Bounded round trips bound the timeouts.** In a session whose round-trip times all lie
between two bounds, of which the lower one does not exceed the time the handshake waits,
so does the mean of the estimator. Every threshold lies between the lower bound and 1.1
times the upper one plus four times the larger of a quarter of the initial timeout and the
width of the interval. No sweep gives up an item that was sent no longer ago than the
shortest round trip. -/
theorem thresholds_within {lo hi : ℕ} (ht : t.InRange) (hlo : lo ≤ handshakeTimeoutUs.toNat)
    (hhi : hi ≤ 2 ^ 50)
    (hreach : t.sessions.ReachableVia (Session.RoundTripWithin lo hi) s) :
    (∀ r, s.rttEstimator = some r → lo ≤ r.curTimeoutUs.toNat ∧ r.curTimeoutUs.toNat ≤ hi) ∧
      (∀ us, s.currentTimeoutThresholdUs = some us →
        ∃ initTimeoutUs, initTimeoutSmlstUs s.initTimeoutUs = some initTimeoutUs ∧
          lo ≤ us.toNat ∧
          us.toNat ≤ 11 * hi / 10 + 4 * max (initTimeoutUs.toNat / 4) (hi - lo)) ∧
      ∀ us now s', t.sessions.step (.thread (.checkTimeout us now)) s = some s' →
        ∀ n item, s.programs.sys.sender.itemAt n = some item →
          (getElapsedUs item.lastSentTime now).toNat ≤ lo →
          s'.programs.sys.sender.itemAt n = some item := by
  have h := Session.timeoutsWithin_of_reachableVia hlo hhi hreach
  refine ⟨fun r hr => ?_, fun us hus => (h.threshold us hus).2,
    fun us now s' hstep n item hitem hrecent => ?_⟩
  · obtain ⟨_, -, -, -, hestimate⟩ := h.estimator r hr
    exact ⟨hestimate.le_mean, hestimate.mean_le⟩
  · obtain ⟨hallows, programs, _, _, hthread, -, rfl⟩ := Session.threadStep_eq_some hstep
    have hinv := Programs.inv_of_reachable ht (Session.programs_reachable hreach.reachable)
    by_cases hsweep : s.programs.checkTimeout = .sweep
    · -- the threshold is the one the estimator gave, and it is not below the shortest round trip
      have hgiven : s.currentTimeoutThresholdUs = some us := by
        simp only [Session.allows, Bool.and_eq_true, Bool.or_eq_true, decide_eq_true_iff] at hallows
        exact hallows.2.resolve_left fun hother => hother hsweep
      obtain ⟨-, _, -, hlow, -⟩ := h.threshold us hgiven
      have hkept : item.hasExpired us now = false := by
        rw [SlideWindowSenderItem.hasExpired, Bool.and_eq_false_iff, decide_eq_false_iff_not,
          UInt64.lt_iff_toNat_lt]
        exact .inr (by omega)
      change s.programs.checkTimeoutStep t us now = some programs at hthread
      simp only [Programs.checkTimeoutStep, hsweep,
        System.checkTimeout_eq hinv.system ht] at hthread
      cases hthread
      change (s.programs.sys.sender.timeoutChecked t.shrink us now).itemAt n = some item
      rw [itemAt_timeoutChecked, hitem, Option.map_some, SlideWindowSenderItem.markIfExpired, hkept]
      rfl
    · change programs.sys.sender.itemAt n = some item
      rw [Programs.sys_checkTimeoutStep hsweep hthread]
      exact hitem

/-- With round trips of 700 to 950 microseconds and an initial timeout of 700 the first
threshold is 1407. -/
theorem thresholds_within_sampleRun :
    (Transfer.oneByte.sessions.endOf Session.sampleRun).currentTimeoutThresholdUs = some 1407 ∧
      700 ≤ (1407 : UInt64).toNat ∧
      (1407 : UInt64).toNat ≤ 11 * 950 / 10 + 4 * max (700 / 4) (950 - 700) := by
  have hrun : (Transfer.oneByte.sessions.runVia
      (fun s a => decide (s.RoundTripWithin 700 950 a)) Session.sampleRun
      (.init Transfer.oneByte)).map (fun s => (s.currentTimeoutThresholdUs, s.initTimeoutUs)) =
        some (some 1407, [700, 900, 950]) := by
    decide +kernel
  obtain ⟨s, hs, hboth⟩ := Option.map_eq_some_iff.mp hrun
  obtain ⟨hthreshold, hcollected⟩ := Prod.mk.inj hboth
  have hreach : Transfer.oneByte.sessions.ReachableVia (Session.RoundTripWithin 700 950) s :=
    TransitionSystem.ReachableVia.init.runVia (fun _ _ => of_decide_eq_true) hs
  obtain ⟨initTimeoutUs, hinit, hlo, hhi⟩ :=
    (thresholds_within Transfer.oneByte_inRange (by decide) (by decide) hreach).2.1 1407 hthreshold
  have hsmallest : initTimeoutUs = 700 := by
    rw [hcollected] at hinit
    exact Option.some.inj (hinit.symm.trans (by decide))
  rw [hsmallest] at hhi
  exact ⟨by decide +kernel, hlo, hhi⟩

end ReliablePacket
