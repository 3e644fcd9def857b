/-
# A session

Both programs from the first handshake to the end. The sender's main thread measures
the round-trip time in `performHandshake`, makes the estimator from the result and
starts the threads. From then on `receiveAck` hands every acknowledgement to the
estimator before the window sees it, and `checkTimeout` asks the estimator for the
threshold of its sweep.

The windows, the threads and the network are those of the program model, with the
sender's threads standing at their beginning until they are started. What was left
open there is decided here: which handshakes the receiver may read, and which
threshold a sweep has. Two lists record the handshakes that were sent and the
readings of the sender's clock; no step depends on them.
-/
import ReliablePacket.Programs.Shutdown
import ReliablePacket.Protocol.RttEstimatorJacobson

set_option autoImplicit false

namespace ReliablePacket

/-- `HANDSHAKE_NUM_AT_A_TIME`. -/
def handshakeNumAtATime : ℕ := 4

/-- `HANDSHAKE_DUPLICATE`. -/
def handshakeDuplicate : ℕ := 3

/-- `HANDSHAKE_TIMEOUT_US`. -/
def handshakeTimeoutUs : UInt64 := 60 * 1000

/-- The packet that `performHandshake` sends. -/
def handshakePacket (sentTime : Timeval) : DataPacket (List UInt8) :=
  ⟨.handshake, 0, sentTime, 0, []⟩

/-- What `performHandshake` returns: the smallest of the times it has collected, but no
more than the time it waits. An element that was not filled cannot be read. -/
def initTimeoutSmlstUs (initTimeoutUs : List UInt64) : Option UInt64 := do
  let first ← initTimeoutUs[0]?
  let smlst ← (List.range' 1 (handshakeDuplicate - 1)).foldlM
    (fun smlst i => do
      let us ← initTimeoutUs[i]?
      return if us < smlst then us else smlst) first
  return if handshakeTimeoutUs < smlst then handshakeTimeoutUs else smlst

/-- Where `performHandshake` stands. -/
inductive HandshakeLocation
  /-- About to test `handshakeAckReceived` in the outer loop. -/
  | loopTest
  /-- About to read the clock and fill the buffer. -/
  | stamp
  /-- About to send the handshake `copies` more times. -/
  | send (dataPacket : DataPacket (List UInt8)) (copies : ℕ)
  /-- About to read the clock at the beginning of the wait. -/
  | startWaiting
  /-- About to test `timePassUs` in the inner loop. -/
  | waitTest (now : Timeval) (timePassUs : UInt64)
  /-- In `recvfrom`. -/
  | receive (now : Timeval)
  /-- The acknowledgement of a handshake was read; about to read the clock. -/
  | received (now : Timeval) (ackPacket : AckPacket)
  /-- About to read the clock for the time that has passed. -/
  | measure (now : Timeval)
  | returned
  deriving DecidableEq

/-- Both programs, the handshake and the estimator. -/
structure Session where
  programs : Programs
  handshake : HandshakeLocation
  /-- The part of the array that has been filled. -/
  initTimeoutUs : List UInt64
  handshakesInFlight : List (DataPacket (List UInt8))
  /-- The estimator, once the threads are started. -/
  rttEstimator : Option RttEstimatorJacobson
  /-- The thread has handed the acknowledgement it read to the estimator. -/
  estimated : Fin receiveAckThreadNum → Bool
  /-- The threshold of the next sweep, once `checkTimeout` has asked for it. -/
  currentTimeoutThresholdUs : Option UInt64
  /-- The handshakes that were sent. -/
  handshakesSent : List (DataPacket (List UInt8))
  /-- The readings of the sender's clock, the latest first. -/
  readings : List Timeval

/-- The clock reading inside the step of a thread, if it makes one. -/
def Programs.reading (p : Programs) : Programs.Action → Option Timeval
  | .sendData now _ => if p.sendData = .prepare then some now else none
  | .checkTimeout _ now => if p.checkTimeout = .sweep then some now else none
  | _ => none

namespace Session

/-- Nothing sent, the threads of the receiver started. -/
def init (t : Transfer) : Session where
  programs := .init t
  handshake := .loopTest
  initTimeoutUs := []
  handshakesInFlight := []
  rttEstimator := none
  estimated _ := false
  currentTimeoutThresholdUs := none
  handshakesSent := []
  readings := []

/-! ## The handshake -/

/-- `performHandshake`, except that `recvfrom` only times out here. A time that does not
fit the array cannot be stored. -/
def performHandshake (now : Timeval) (s : Session) : Option Session :=
  match s.handshake with
  | .loopTest =>
    some { s with
      handshake := if s.initTimeoutUs.length < handshakeDuplicate then .stamp else .returned }
  | .stamp =>
    some { s with
      handshake := .send (handshakePacket now) handshakeNumAtATime
      readings := now :: s.readings }
  | .send _ 0 => some { s with handshake := .startWaiting }
  | .send dataPacket (copies + 1) =>
    some { s with
      handshake := .send dataPacket copies
      handshakesInFlight := dataPacket :: s.handshakesInFlight
      handshakesSent := dataPacket :: s.handshakesSent }
  | .startWaiting => some { s with handshake := .waitTest now 0, readings := now :: s.readings }
  | .waitTest start timePassUs =>
    some { s with
      handshake := if timePassUs < handshakeTimeoutUs then .receive start else .loopTest }
  | .receive start => some { s with handshake := .measure start }
  | .received start ackPacket =>
    if s.initTimeoutUs.length < handshakeDuplicate then
      let initTimeoutUs := s.initTimeoutUs ++ [getElapsedUs ackPacket.sentTime now]
      some { s with
        -- the `break` leaves the inner loop as soon as the array is full
        handshake := if initTimeoutUs.length = handshakeDuplicate then .loopTest else .measure start
        initTimeoutUs := initTimeoutUs
        readings := now :: s.readings }
    else none
  | .measure start =>
    some { s with
      handshake := .waitTest start (getElapsedUs start now)
      readings := now :: s.readings }
  | .returned => none

/-- `recvfrom` in `performHandshake` returns an acknowledgement, which leaves the
network. Only that of a handshake is processed. -/
def deliverHandshakeAck (ackPacket : AckPacket) (s : Session) : Option Session :=
  match s.handshake with
  | .receive start => do
    let programs ← s.programs.networkStep (.loseAck ackPacket)
    return { s with
      programs := programs
      handshake := if ackPacket.type = .handshake then .received start ackPacket
        else .measure start }
  | _ => none

/-- `reliablyTransfer` makes the estimator and starts the threads. -/
def startThreads (s : Session) : Option Session :=
  if s.handshake = .returned ∧ s.rttEstimator.isNone then do
    let initTimeoutUs ← initTimeoutSmlstUs s.initTimeoutUs
    return { s with rttEstimator := some (.new initTimeoutUs estimatorAlpha estimatorBeta) }
  else none

/-- `recvfrom` of a receiver thread returns a handshake. -/
def deliverHandshake (i : Fin receiveThreadNum) (dataPacket : DataPacket (List UInt8))
    (s : Session) : Option Session :=
  if dataPacket ∈ s.handshakesInFlight then do
    let programs ← s.programs.deliverHandshake i dataPacket.sentTime
    return { s with
      programs := programs
      handshakesInFlight := s.handshakesInFlight.erase dataPacket }
  else none

/-! ## The estimator -/

/-- A `receiveAck` thread calls `rttEstimator->ackArrived`. -/
def estimate (i : Fin receiveAckThreadNum) (now : Timeval) (s : Session) : Option Session := do
  let rttEstimator ← s.rttEstimator
  let ackPacket ← (s.programs.receiveAck i).inHand
  if s.estimated i then none
  else
    let rttEstimator ← (rttEstimator.ackArrived ackPacket now).toOption
    return { s with
      rttEstimator := some rttEstimator
      estimated := Function.update s.estimated i true
      readings := now :: s.readings }

/-- `checkTimeout` calls `rttEstimator->getCurrentTimeoutUs`. -/
def getCurrentTimeoutUs (s : Session) : Option Session := do
  let rttEstimator ← s.rttEstimator
  if s.programs.checkTimeout = .sweep ∧ s.currentTimeoutThresholdUs.isNone then
    return { s with currentTimeoutThresholdUs := some rttEstimator.getCurrentTimeoutUs }
  else none

/-- Whether a thread or the network may take the step now. The sender's threads run once
they are started; an acknowledgement goes to the estimator first; a sweep has the
threshold of the estimator; handshakes are delivered by a step of their own. -/
def allows (s : Session) (a : Programs.Action) : Bool :=
  (!a.ofSender || s.rttEstimator.isSome) &&
    match a with
    | .receiveAck i => (s.programs.receiveAck i).inHand.isNone || s.estimated i
    | .checkTimeout timeoutThresholdUs _ =>
      decide (s.programs.checkTimeout ≠ .sweep) ||
        decide (s.currentTimeoutThresholdUs = some timeoutThresholdUs)
    | .deliverHandshake _ _ => false
    | _ => true

/-- A step of a thread or of the network. -/
def threadStep (t : Transfer) (a : Programs.Action) (s : Session) : Option Session :=
  if s.allows a then do
    let programs ← Programs.step t a s.programs
    return { s with
      programs := programs
      estimated :=
        match a with
        | .receiveAck i => Function.update s.estimated i false
        | _ => s.estimated
      currentTimeoutThresholdUs :=
        match a with
        | .checkTimeout _ _ => none
        | _ => s.currentTimeoutThresholdUs
      readings := (s.programs.reading a).toList ++ s.readings }
  else none

/-! ## The transition system -/

/-- The choices of the scheduler, the clock and the network. -/
inductive Action
  | handshake (now : Timeval)
  | deliverHandshakeAck (ackPacket : AckPacket)
  | startThreads
  | deliverHandshake (i : Fin receiveThreadNum) (dataPacket : DataPacket (List UInt8))
  | loseHandshake (dataPacket : DataPacket (List UInt8))
  | duplicateHandshake (dataPacket : DataPacket (List UInt8))
  | estimate (i : Fin receiveAckThreadNum) (now : Timeval)
  | getCurrentTimeoutUs
  | thread (a : Programs.Action)
  deriving DecidableEq

/-- One step of a session. -/
def step (t : Transfer) : Action → Session → Option Session
  | .handshake now, s => s.performHandshake now
  | .deliverHandshakeAck ackPacket, s => s.deliverHandshakeAck ackPacket
  | .startThreads, s => s.startThreads
  | .deliverHandshake i dataPacket, s => s.deliverHandshake i dataPacket
  | .loseHandshake dataPacket, s =>
    if dataPacket ∈ s.handshakesInFlight then
      some { s with handshakesInFlight := s.handshakesInFlight.erase dataPacket }
    else none
  | .duplicateHandshake dataPacket, s =>
    if dataPacket ∈ s.handshakesInFlight then
      some { s with handshakesInFlight := dataPacket :: s.handshakesInFlight }
    else none
  | .estimate i now, s => s.estimate i now
  | .getCurrentTimeoutUs, s => s.getCurrentTimeoutUs
  | .thread a, s => s.threadStep t a

end Session

/-- A session of a transfer. -/
def Transfer.sessions (t : Transfer) : TransitionSystem Session Session.Action where
  init := .init t
  step := Session.step t

end ReliablePacket
