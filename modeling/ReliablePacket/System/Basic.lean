/-
# The two windows over a network

One sender window and one receiver window exchange datagrams over a network that
may lose, duplicate, delay and reorder them but neither forges nor corrupts them.
The network is the list of everything ever handed to it: a datagram on the list
may arrive at any later moment, any number of times or never.

The four operations are atomic, since each holds its window's lock throughout. An
operation that fails has no successor state. The system here marshals prepared
packets at once; that the programs do so later, packet by packet, is the subject
of the program model.
-/
import ReliablePacket.Protocol.Segmentation
import ReliablePacket.Semantics.Transition

set_option autoImplicit false

namespace ReliablePacket

/-- What `receiveDataReplyAck` makes of a reply: a regular acknowledgement that
carries the time stamp of the packet it answers. -/
def replyAck (dataPacket : DataPacket (List UInt8)) (retAckPacket : RetAckPacket) :
    AckPacket where
  type := .regular
  cumulativeSeqNum := retAckPacket.cumulativeSeqNum
  selectiveSeqNum := retAckPacket.selectiveSeqNum
  sentTime := dataPacket.sentTime

/-- `fillBufferDataPacket` followed by `readBufferDataPacket` on the other side:
`dataSize` bytes are copied from where `data` points. -/
def SlideWindowSender.marshal (s : SlideWindowSender) (dataPacket : DataPacket ItemData) :
    Option (DataPacket (List UInt8)) :=
  (s.readItemData dataPacket.data).map fun data =>
    { type := dataPacket.type
      seqNum := dataPacket.seqNum
      sentTime := dataPacket.sentTime
      dataSize := dataPacket.dataSize
      data := data.take dataPacket.dataSize }

/-- The windows of both programs, every datagram ever sent and every
acknowledgement the sender has processed. -/
structure System where
  sender : SlideWindowSender
  receiver : SlideWindowReceiver
  dataSent : List (DataPacket (List UInt8))
  acksSent : List AckPacket
  acksProcessed : List AckPacket

namespace System

/-- Both windows as their constructors leave them. -/
def init (t : Transfer) : System where
  sender := .new t.fileToSend t.bytesToSend t.fastRetransmission
  receiver := .new
  dataSent := []
  acksSent := []
  acksProcessed := []

/-! ## The operations -/

/-- The sender prepares packets; they are not on the network yet. -/
def prepareDataPacketsToSend (now : Timeval) (sys : System) :
    Option (List (DataPacket ItemData) × System) := do
  let (packets, sender) ← (sys.sender.prepareDataPacketsToSend false now).toOption
  return (packets, { sys with sender := sender })

/-- Packets are handed to the network. -/
def send (packets : List (DataPacket (List UInt8))) (sys : System) : System :=
  { sys with dataSent := packets ++ sys.dataSent }

/-- The sender sweeps its window for timeouts. -/
def checkTimeout (t : Transfer) (timeoutThresholdUs : UInt64) (now : Timeval) (sys : System) :
    Option System := do
  let sender ← (sys.sender.checkTimeout t.shrink false timeoutThresholdUs now).toOption
  return { sys with sender := sender }

/-- The sender processes an acknowledgement. -/
def ackArrived (t : Transfer) (ackPacket : AckPacket) (sys : System) : Option System := do
  let sender ← (sys.sender.ackArrived t.shrink false ackPacket).toOption
  return { sys with sender := sender, acksProcessed := ackPacket :: sys.acksProcessed }

/-- The receiver takes a packet and makes its reply. -/
def receiveDataPacket (dataPacket : DataPacket (List UInt8)) (sys : System) :
    Option (AckPacket × System) := do
  let (retAckPacket, receiver) ← (sys.receiver.receiveDataPacket false dataPacket).toOption
  let ackPacket := replyAck dataPacket retAckPacket
  return (ackPacket, { sys with receiver := receiver, acksSent := ackPacket :: sys.acksSent })

/-! ## The transition system -/

/-- The choices of the scheduler, the clock and the network. -/
inductive Action
  | prepareDataPacketsToSend (now : Timeval)
  | checkTimeout (timeoutThresholdUs : UInt64) (now : Timeval)
  | ackArrived (ackPacket : AckPacket)
  | receiveDataPacket (dataPacket : DataPacket (List UInt8))
  deriving DecidableEq

/-- One operation of the composed system. -/
def step (t : Transfer) : Action → System → Option System
  | .prepareDataPacketsToSend now, sys => do
    let (packets, sys) ← sys.prepareDataPacketsToSend now
    let marshalled ← packets.mapM sys.sender.marshal
    return sys.send marshalled
  | .checkTimeout timeoutThresholdUs now, sys => sys.checkTimeout t timeoutThresholdUs now
  | .ackArrived ackPacket, sys =>
    -- only acknowledgements the receiver sent can arrive
    if ackPacket ∈ sys.acksSent then sys.ackArrived t ackPacket else none
  | .receiveDataPacket dataPacket, sys =>
    if dataPacket ∈ sys.dataSent then (sys.receiveDataPacket dataPacket).map (·.2) else none

end System

/-- The composed system of a transfer. -/
def Transfer.system (t : Transfer) : TransitionSystem System System.Action where
  init := .init t
  step := System.step t

end ReliablePacket
