/-
# The receiver's sliding window

The class `SlideWindowReceiver`: a deque with one item for each of the next 200
sequence numbers and the file the payloads are written to. Its member functions
hold the lock throughout, so each is one function from state to state.

The output file is kept as the calls that wrote to it, together with the
sequence number each call was made for; the content of the file is computed from
the calls.
-/
import ReliablePacket.Math.ByteFile
import ReliablePacket.Protocol.Packet

set_option autoImplicit false

namespace ReliablePacket

/-! ## Data -/

/-- The `ITEM_STATE_*` values of the receiver. -/
inductive ReceiverItemState
  | received
  | notReceived
  deriving DecidableEq, Repr

/-- `struct SlideWindowReceiverItem`. -/
structure SlideWindowReceiverItem where
  seqNum : UInt32
  state : ReceiverItemState
  deriving DecidableEq, Repr

/-- One `lseek` and `write` to the output file, for the item `seqNum`. -/
structure FileWrite where
  seqNum : UInt32
  offset : ℕ
  data : List UInt8
  deriving DecidableEq, Repr

/-- The members of class `SlideWindowReceiver`. The file descriptor stands for
the writes made through it, the latest first. -/
structure SlideWindowReceiver where
  fileToWrite : List FileWrite
  lastPacketSeqNumReceived : Bool
  lastPacketSeqNum : UInt32
  nextExpectedPacketSeqNum : UInt32
  curWindowSize : UInt32
  slideWindow : List SlideWindowReceiverItem
  deriving DecidableEq, Repr

/-- The fields of the returned `AckPacket` that `receiveDataPacket` sets. -/
structure RetAckPacket where
  cumulativeSeqNum : UInt32
  selectiveSeqNum : UInt32
  deriving DecidableEq, Repr

def initWindowSize : UInt32 := 200

namespace SlideWindowReceiver

/-- The content of the output file. -/
def outputFile (r : SlideWindowReceiver) : ByteFile :=
  .ofWrites (r.fileToWrite.map fun w => (w.offset, w.data))

/-! ## Helpers -/

/-- The offset `receiveDataPacket` seeks to: an `unsigned int` product. -/
def writeOffset (seqNum : UInt32) : ℕ := (seqNum * .ofNat dataPacketDataSize).toNat

/-- `ensureCorrectness`, called under `_DEBUG` only. -/
def ensureCorrectness (debug : Bool) (nextExpectedPacketSeqNum : UInt32)
    (item : SlideWindowReceiverItem) (slideWindowPosition : UInt32) : Except Fault Unit :=
  if debug ∧ nextExpectedPacketSeqNum + slideWindowPosition ≠ item.seqNum then
    .error .assertionFailed
  else .ok ()

/-- The loop that pushes items at the right end, for `n` rounds. The constructor
runs the same loop on an empty window. -/
def fillLoop (nextExpectedPacketSeqNum : UInt32) :
    ℕ → List SlideWindowReceiverItem → List SlideWindowReceiverItem
  | 0, items => items
  | n + 1, items =>
    -- `i` equals the size of the deque in every round
    let item := { seqNum := nextExpectedPacketSeqNum + .ofNat items.length, state := .notReceived }
    fillLoop nextExpectedPacketSeqNum n (items ++ [item])

/-- Buffer control: fill the deque up to the window size. -/
def fill (r : SlideWindowReceiver) : SlideWindowReceiver :=
  { r with
    slideWindow := fillLoop r.nextExpectedPacketSeqNum
      (r.curWindowSize.toNat - r.slideWindow.length) r.slideWindow }

/-! ## Basic implementation -/

/-- The constructor, on a file that was opened truncated. -/
def new : SlideWindowReceiver :=
  fill
    { fileToWrite := []
      lastPacketSeqNumReceived := false
      lastPacketSeqNum := 0
      nextExpectedPacketSeqNum := 0
      curWindowSize := initWindowSize
      slideWindow := [] }

/-- `finished`. -/
def finished (r : SlideWindowReceiver) : Bool :=
  r.lastPacketSeqNumReceived && r.nextExpectedPacketSeqNum = r.lastPacketSeqNum + 1

/-! ## `receiveDataPacket` -/

/-- A FINISH packet tells the sequence number of the last packet. -/
def recordFinish (dataPacket : DataPacket (List UInt8)) (r : SlideWindowReceiver) :
    SlideWindowReceiver :=
  if dataPacket.type = .finish then
    { r with lastPacketSeqNum := dataPacket.seqNum, lastPacketSeqNumReceived := true }
  else r

/-- The range test: the sum is an `unsigned int` sum. -/
def outOfBuffer (r : SlideWindowReceiver) (seqNum : UInt32) : Bool :=
  seqNum < r.nextExpectedPacketSeqNum ||
    r.nextExpectedPacketSeqNum + r.curWindowSize ≤ seqNum

/-- Write a payload to the file the first time its packet arrives. -/
def bufferData (dataPacket : DataPacket (List UInt8)) (r : SlideWindowReceiver) :
    Except Fault SlideWindowReceiver :=
  let i := sizeOfInt (intOfUnsigned (dataPacket.seqNum - r.nextExpectedPacketSeqNum))
  match r.slideWindow[i]? with
  -- the code does not test the position against the size
  | none => .error .indexOutOfRange
  | some item =>
    if item.state = .notReceived then
      .ok { r with
        slideWindow := r.slideWindow.set i { item with state := .received }
        fileToWrite :=
          ⟨item.seqNum, writeOffset item.seqNum, dataPacket.data.take dataPacket.dataSize⟩ ::
            r.fileToWrite }
    else .ok r

/-- The loop that pops received items at the front. -/
def slideLoop (debug : Bool) : UInt32 → List SlideWindowReceiverItem →
    Except Fault (UInt32 × List SlideWindowReceiverItem)
  | nextExpectedPacketSeqNum, [] => .ok (nextExpectedPacketSeqNum, [])
  | nextExpectedPacketSeqNum, item :: items =>
    if item.state = .received then do
      ensureCorrectness debug nextExpectedPacketSeqNum item 0
      slideLoop debug (nextExpectedPacketSeqNum + 1) items
    else .ok (nextExpectedPacketSeqNum, item :: items)

/-- Slide the window past the received items. -/
def slide (debug : Bool) (r : SlideWindowReceiver) : Except Fault SlideWindowReceiver := do
  let (nextExpectedPacketSeqNum, items) ←
    slideLoop debug r.nextExpectedPacketSeqNum r.slideWindow
  return { r with
    nextExpectedPacketSeqNum := nextExpectedPacketSeqNum, slideWindow := items }

/-- `receiveDataPacket`. -/
def receiveDataPacket (debug : Bool) (dataPacket : DataPacket (List UInt8))
    (r : SlideWindowReceiver) : Except Fault (RetAckPacket × SlideWindowReceiver) :=
  if dataPacket.type = .regular ∨ dataPacket.type = .finish then
    -- the last number is recorded before the range test, so also when the packet is dropped
    let r := r.recordFinish dataPacket
    if r.outOfBuffer dataPacket.seqNum then
      .ok (⟨r.nextExpectedPacketSeqNum, r.nextExpectedPacketSeqNum⟩, r.fill)
    else do
      let r ← r.bufferData dataPacket
      let r ← r.slide debug
      return (⟨r.nextExpectedPacketSeqNum, dataPacket.seqNum⟩, r.fill)
  else .error .assertionFailed

end SlideWindowReceiver

end ReliablePacket
