/-
# The threads of both programs

After the handshake the sender's program runs one `sendData` thread, two
`receiveAck` threads and one `checkTimeout` thread, the receiver's program two
`receiveDataReplyAck` threads. A thread's state is the point in its source where
it stands, with the local values that are still needed there. Each call on a
window, each test of `done`, each `recvfrom`, each `sendto` and each operation of
the condition variable is one step.

The condition variable follows the C++ rules: releasing the mutex and blocking
are one step, `notify_all` wakes a thread that is blocked at that moment, and a
blocked thread may also wake up by itself. The mutex is left out, because
`sendData` is the only thread that takes it.

The network holds the datagrams in flight, which it may lose, duplicate and
deliver in any order. Handshake datagrams that were delayed may still arrive at
any time. Two lists record which acknowledgements were lost and which were
received; no step depends on them.
-/
import ReliablePacket.System.Basic

set_option autoImplicit false

namespace ReliablePacket

/-- `RECEIVE_ACK_THREAD_NUM`. -/
abbrev receiveAckThreadNum : ℕ := 2

/-- `RECEIVE_THREAD_NUM`. -/
abbrev receiveThreadNum : ℕ := 2

instance : NeZero receiveAckThreadNum := ⟨by decide⟩

instance : NeZero receiveThreadNum := ⟨by decide⟩

/-- `FIN_ACK_NUM`. -/
def finAckNum : ℕ := 4

/-! ## Where the threads stand -/

/-- Where `sendData` stands. -/
inductive SendDataLocation
  /-- About to test `finished()` in the outer loop. -/
  | loopTest
  /-- In the wait predicate, about to evaluate `hasDataToSend()`. -/
  | predicateHasData
  /-- In the wait predicate, about to evaluate `finished()`. -/
  | predicateFinished
  /-- The predicate was false; about to release the mutex and block. -/
  | aboutToWait
  /-- Blocked in `condVar.wait`. -/
  | waiting
  /-- About to test `hasDataToSend()` in the inner loop. -/
  | hasDataTest
  /-- About to call `prepareDataPacketsToSend()`. -/
  | prepare
  /-- Marshalling and sending the packets one by one; these are left. -/
  | marshal (packets : List (DataPacket ItemData))
  /-- About to set `done`. -/
  | setDone
  | exited
  deriving DecidableEq

/-- Where a `receiveAck` thread stands. -/
inductive ReceiveAckLocation
  /-- About to test `done`. -/
  | loopTest
  /-- In `recvfrom`. -/
  | receive
  /-- An acknowledgement was read; about to call `ackArrived`. -/
  | received (ackPacket : AckPacket)
  /-- About to evaluate `hasDataToSend()`. -/
  | testHasData
  /-- About to evaluate `finished()`. -/
  | testFinished
  /-- About to call `notify_all`. -/
  | notify
  | exited
  deriving DecidableEq

/-- Where the `checkTimeout` thread stands. -/
inductive CheckTimeoutLocation
  /-- About to test `done`. -/
  | loopTest
  /-- About to call `checkTimeout`. -/
  | sweep
  /-- About to evaluate `hasDataToSend()`. -/
  | testHasData
  /-- About to call `notify_all`. -/
  | notify
  | exited
  deriving DecidableEq

/-- Where a `receiveDataReplyAck` thread stands. -/
inductive ReceiveDataLocation
  /-- About to test `finished()` in the loop. -/
  | loopTest
  /-- In `recvfrom`. -/
  | receive
  /-- A data packet was read; about to call `receiveDataPacket`. -/
  | received (dataPacket : DataPacket (List UInt8))
  /-- The reply is in the buffer; about to test `finished()`. -/
  | reply (ackPacket : AckPacket)
  /-- About to send the reply `copies` more times. -/
  | sending (ackPacket : AckPacket) (copies : ℕ)
  | exited
  deriving DecidableEq

/-- Both programs and the network. -/
structure Programs where
  sys : System
  sendData : SendDataLocation
  receiveAck : Fin receiveAckThreadNum → ReceiveAckLocation
  checkTimeout : CheckTimeoutLocation
  receiveData : Fin receiveThreadNum → ReceiveDataLocation
  done : Bool
  dataInFlight : List (DataPacket (List UInt8))
  acksInFlight : List AckPacket
  /-- The acknowledgements the network has lost. -/
  acksLost : List AckPacket
  /-- The acknowledgements the `receiveAck` threads have read. -/
  acksTaken : List AckPacket

namespace Programs

/-- All threads started, nothing sent. -/
def init (t : Transfer) : Programs where
  sys := .init t
  sendData := .loopTest
  receiveAck _ := .loopTest
  checkTimeout := .loopTest
  receiveData _ := .loopTest
  done := false
  dataInFlight := []
  acksInFlight := []
  acksLost := []
  acksTaken := []

def setReceiveAck (i : Fin receiveAckThreadNum) (location : ReceiveAckLocation) (p : Programs) :
    Programs :=
  { p with receiveAck := Function.update p.receiveAck i location }

def setReceiveData (i : Fin receiveThreadNum) (location : ReceiveDataLocation) (p : Programs) :
    Programs :=
  { p with receiveData := Function.update p.receiveData i location }

/-- `condVar.notify_all()`: a blocked `sendData` evaluates its predicate again. -/
def notifyAll (p : Programs) : Programs :=
  if p.sendData = .waiting then { p with sendData := .predicateHasData } else p

/-- `sendto` of a data packet, with the packets that are left. -/
def transmit (dataPacket : DataPacket (List UInt8)) (packets : List (DataPacket ItemData))
    (p : Programs) : Programs :=
  { p with
    sys := p.sys.send [dataPacket]
    dataInFlight := dataPacket :: p.dataInFlight
    sendData := .marshal packets }

/-! ## The steps of each thread -/

/-- `sendData`. A packet whose item was deleted is marshalled from freed memory,
which may hold any bytes. -/
def sendDataStep (now : Timeval) (freed : List UInt8) (p : Programs) : Option Programs :=
  match p.sendData with
  | .loopTest =>
    some { p with
      sendData := if p.sys.sender.finished then .setDone else .predicateHasData }
  | .predicateHasData =>
    some { p with
      sendData := if p.sys.sender.hasDataToSend then .hasDataTest else .predicateFinished }
  | .predicateFinished =>
    some { p with sendData := if p.sys.sender.finished then .hasDataTest else .aboutToWait }
  | .aboutToWait => some { p with sendData := .waiting }
  | .waiting => none
  | .hasDataTest =>
    some { p with sendData := if p.sys.sender.hasDataToSend then .prepare else .loopTest }
  | .prepare => do
    let (packets, sys) ← p.sys.prepareDataPacketsToSend now
    return { p with sys := sys, sendData := .marshal packets }
  | .marshal [] => some { p with sendData := .hasDataTest }
  | .marshal (packet :: packets) =>
    match p.sys.sender.marshal packet with
    | some dataPacket => some (p.transmit dataPacket packets)
    | none =>
      -- `data` points into an item that `ackArrived` has deleted
      if freed.length = packet.dataSize then
        some (p.transmit
          { type := packet.type
            seqNum := packet.seqNum
            sentTime := packet.sentTime
            dataSize := packet.dataSize
            data := freed } packets)
      else none
  | .setDone => some { p with done := true, sendData := .exited }
  | .exited => none

/-- `receiveAck`, except that `recvfrom` only times out here. -/
def receiveAckStep (t : Transfer) (i : Fin receiveAckThreadNum) (p : Programs) :
    Option Programs :=
  match p.receiveAck i with
  | .loopTest => some (p.setReceiveAck i (if p.done then .exited else .receive))
  | .receive => some (p.setReceiveAck i .loopTest)
  | .received ackPacket => do
    let sys ← p.sys.ackArrived t ackPacket
    return { p with sys := sys }.setReceiveAck i .testHasData
  | .testHasData =>
    some (p.setReceiveAck i (if p.sys.sender.hasDataToSend then .notify else .testFinished))
  | .testFinished =>
    some (p.setReceiveAck i (if p.sys.sender.finished then .notify else .loopTest))
  | .notify => some (p.notifyAll.setReceiveAck i .loopTest)
  | .exited => none

/-- `recvfrom` of a `receiveAck` thread returns an acknowledgement; only a regular
one is processed. -/
def deliverAck (i : Fin receiveAckThreadNum) (ackPacket : AckPacket) (p : Programs) :
    Option Programs :=
  if p.receiveAck i = .receive ∧ ackPacket ∈ p.acksInFlight then
    let location : ReceiveAckLocation :=
      if ackPacket.type = .regular then .received ackPacket else .loopTest
    some ({ p with
      acksInFlight := p.acksInFlight.erase ackPacket
      acksTaken := ackPacket :: p.acksTaken }.setReceiveAck i location)
  else none

/-- `checkTimeout`, with the threshold the estimator returns. -/
def checkTimeoutStep (t : Transfer) (timeoutThresholdUs : UInt64) (now : Timeval)
    (p : Programs) : Option Programs :=
  match p.checkTimeout with
  | .loopTest => some { p with checkTimeout := if p.done then .exited else .sweep }
  | .sweep => do
    let sys ← p.sys.checkTimeout t timeoutThresholdUs now
    return { p with sys := sys, checkTimeout := .testHasData }
  | .testHasData =>
    some { p with checkTimeout := if p.sys.sender.hasDataToSend then .notify else .loopTest }
  | .notify => some { p.notifyAll with checkTimeout := .loopTest }
  | .exited => none

/-- `receiveDataReplyAck`, except that `recvfrom` only times out here. -/
def receiveDataStep (i : Fin receiveThreadNum) (p : Programs) : Option Programs :=
  match p.receiveData i with
  | .loopTest =>
    some (p.setReceiveData i (if p.sys.receiver.finished then .exited else .receive))
  | .receive => some (p.setReceiveData i .loopTest)
  | .received dataPacket => do
    let (ackPacket, sys) ← p.sys.receiveDataPacket dataPacket
    return { p with sys := sys }.setReceiveData i (.reply ackPacket)
  | .reply ackPacket =>
    some (p.setReceiveData i
      (.sending ackPacket (if p.sys.receiver.finished then finAckNum else 1)))
  | .sending _ 0 => some (p.setReceiveData i .loopTest)
  | .sending ackPacket (copies + 1) =>
    some ({ p with acksInFlight := ackPacket :: p.acksInFlight }.setReceiveData i
      (.sending ackPacket copies))
  | .exited => none

/-- `recvfrom` of a receiver thread returns a data packet. -/
def deliverData (i : Fin receiveThreadNum) (dataPacket : DataPacket (List UInt8))
    (p : Programs) : Option Programs :=
  if p.receiveData i = .receive ∧ dataPacket ∈ p.dataInFlight then
    some ({ p with dataInFlight := p.dataInFlight.erase dataPacket }.setReceiveData i
      (.received dataPacket))
  else none

/-- `recvfrom` of a receiver thread returns a handshake; the reply is ready at once. -/
def deliverHandshake (i : Fin receiveThreadNum) (sentTime : Timeval) (p : Programs) :
    Option Programs :=
  if p.receiveData i = .receive then
    some (p.setReceiveData i (.reply ⟨.handshake, 0, 0, sentTime⟩))
  else none

/-! ## The network -/

/-- What the network may do by itself. -/
inductive NetworkAction
  | loseData (dataPacket : DataPacket (List UInt8))
  | duplicateData (dataPacket : DataPacket (List UInt8))
  | loseAck (ackPacket : AckPacket)
  | duplicateAck (ackPacket : AckPacket)
  deriving DecidableEq

def networkStep (action : NetworkAction) (p : Programs) : Option Programs :=
  match action with
  | .loseData dataPacket =>
    if dataPacket ∈ p.dataInFlight then
      some { p with dataInFlight := p.dataInFlight.erase dataPacket }
    else none
  | .duplicateData dataPacket =>
    if dataPacket ∈ p.dataInFlight then
      some { p with dataInFlight := dataPacket :: p.dataInFlight }
    else none
  | .loseAck ackPacket =>
    if ackPacket ∈ p.acksInFlight then
      some { p with
        acksInFlight := p.acksInFlight.erase ackPacket
        acksLost := ackPacket :: p.acksLost }
    else none
  | .duplicateAck ackPacket =>
    if ackPacket ∈ p.acksInFlight then
      some { p with acksInFlight := ackPacket :: p.acksInFlight }
    else none

/-! ## The transition system -/

/-- The choices of the scheduler, the clock, the estimator and the network. -/
inductive Action
  | sendData (now : Timeval) (freed : List UInt8)
  | spuriousWakeup
  | receiveAck (i : Fin receiveAckThreadNum)
  | deliverAck (i : Fin receiveAckThreadNum) (ackPacket : AckPacket)
  | checkTimeout (timeoutThresholdUs : UInt64) (now : Timeval)
  | receiveData (i : Fin receiveThreadNum)
  | deliverData (i : Fin receiveThreadNum) (dataPacket : DataPacket (List UInt8))
  | deliverHandshake (i : Fin receiveThreadNum) (sentTime : Timeval)
  | network (action : NetworkAction)
  deriving DecidableEq

/-- One step of one thread or of the network. -/
def step (t : Transfer) : Action → Programs → Option Programs
  | .sendData now freed, p => p.sendDataStep now freed
  | .spuriousWakeup, p =>
    if p.sendData = .waiting then some { p with sendData := .predicateHasData } else none
  | .receiveAck i, p => p.receiveAckStep t i
  | .deliverAck i ackPacket, p => p.deliverAck i ackPacket
  | .checkTimeout timeoutThresholdUs now, p => p.checkTimeoutStep t timeoutThresholdUs now
  | .receiveData i, p => p.receiveDataStep i
  | .deliverData i dataPacket, p => p.deliverData i dataPacket
  | .deliverHandshake i sentTime, p => p.deliverHandshake i sentTime
  | .network action, p => p.networkStep action

end Programs

/-- Both programs of a transfer. -/
def Transfer.programs (t : Transfer) : TransitionSystem Programs Programs.Action where
  init := .init t
  step := Programs.step t

end ReliablePacket
