/-
# The sender's sliding window

The class `SlideWindowSender`: a deque of items read from the file, the left
bound of the window, the congestion window that limits what may be in flight,
and the duplicate-acknowledgement counter of fast retransmission. Every public
member function holds the lock from its first statement to its last, so each is
one function from state to state here.

The functions take the two things that the compiler settles. `debug` is whether
`_DEBUG` is defined, which puts consistency checks into the loops. `shrink` is
the truncated product with `CONGESTION_THRESHOLD_SHRINK`, of which only that it
does not exceed its argument is used.
-/
import ReliablePacket.Math.ByteFile
import ReliablePacket.Protocol.Packet

set_option autoImplicit false

namespace ReliablePacket

/-! ## Data -/

/-- The `ITEM_STATE_*` values of the sender. -/
inductive ItemState
  | notSent
  | sent
  | timeout
  | resent
  | acked
  deriving DecidableEq, Repr

/-- `struct SlideWindowSenderItem`. Only the `dataSize` bytes that were read are
kept of the buffer. -/
structure SlideWindowSenderItem where
  seqNum : UInt32
  state : ItemState
  lastSentTime : Timeval
  dataSize : ℕ
  data : List UInt8
  deriving DecidableEq, Repr

/-- The pointer `item->data`, named by the sequence number the item was created
with. It can be followed as long as the item is in the window. -/
structure ItemData where
  seqNum : UInt32
  deriving DecidableEq, Repr

/-- The members of class `SlideWindowSender`. -/
structure SlideWindowSender where
  fileToSend : ByteFile
  bytesToSend : UInt64
  bytesSent : UInt64
  lastPacketSeqNum : UInt32
  lastPacketSize : ℤ
  fastRetransmission : Bool
  lastAck : UInt32
  lastAckAckedCount : Int32
  curCongestionWindowTimeouted : Bool
  newDataReady : Bool
  slideWindowLeftBoundSeqNum : UInt32
  slideWindow : List SlideWindowSenderItem
  curCongestionWindow : UInt32
  curCongestionThreshold : UInt32
  congestionLeftBoundSeqNum : UInt32

/-- An integer rounding of the product with `CONGESTION_THRESHOLD_SHRINK`. -/
structure CongestionShrink where
  apply : UInt32 → UInt32
  apply_le : ∀ window, apply window ≤ window

/-- The product with 0.62, truncated. -/
def CongestionShrink.truncated : CongestionShrink where
  apply window := .ofNat (window.toNat * 62 / 100)
  apply_le window := by
    have := window.toNat_lt
    rw [UInt32.le_iff_toNat_le, UInt32.toNat_ofNat_of_lt' (by simp only [UInt32.size]; omega)]
    omega

def fastRetransmissionThreshold : Int32 := 2

def congestionWindowMin : UInt32 := 10

def congestionThresholdMin : UInt32 := 20

namespace SlideWindowSenderItem

/-- The test both `prepareDataPacketsToSend` and the `newDataReady` traversals make. -/
def isSendable (item : SlideWindowSenderItem) : Bool :=
  item.state = .notSent || item.state = .timeout

/-- The item is waiting for an acknowledgement. -/
def isInFlight (item : SlideWindowSenderItem) : Bool :=
  item.state = .sent || item.state = .resent

/-- State change and time stamp of `prepareDataPacketsToSend`. -/
def markSent (now : Timeval) (item : SlideWindowSenderItem) : SlideWindowSenderItem :=
  { item with
    state := if item.state = .notSent then .sent else .resent
    lastSentTime := now }

/-- The condition of `checkTimeout` on one item. -/
def hasExpired (timeoutThresholdUs : UInt64) (now : Timeval) (item : SlideWindowSenderItem) :
    Bool :=
  item.isInFlight && timeoutThresholdUs < getElapsedUs item.lastSentTime now

end SlideWindowSenderItem

namespace SlideWindowSender

/-! ## Helpers -/

/-- The offset `readFile` seeks to: an `unsigned int` product. -/
def readOffset (seqNum : UInt32) : ℕ := (seqNum * .ofNat dataPacketDataSize).toNat

/-- `readFile`. The file is a regular one, so `read` does not fail. -/
def readFile (s : SlideWindowSender) (item : SlideWindowSenderItem) (seqNum : UInt32) (size : ℤ) :
    SlideWindowSenderItem :=
  let data := s.fileToSend.read (readOffset seqNum) (sizeOfInt size)
  { item with dataSize := data.length, data := data }

/-- `ensureCorrectness`, called under `_DEBUG` only. -/
def ensureCorrectness (debug : Bool) (s : SlideWindowSender) (item : SlideWindowSenderItem)
    (slideWindowPosition : UInt32) : Except Fault Unit :=
  if debug ∧ s.slideWindowLeftBoundSeqNum + slideWindowPosition ≠ item.seqNum then
    .error .assertionFailed
  else .ok ()

/-- An item as the fill loops create it. -/
def newItem (s : SlideWindowSender) (seqNum : UInt32) : SlideWindowSenderItem :=
  let item : SlideWindowSenderItem :=
    { seqNum := seqNum, state := .notSent, lastSentTime := ⟨0, 0⟩, dataSize := 0, data := [] }
  s.readFile item seqNum
    (if seqNum = s.lastPacketSeqNum then s.lastPacketSize else dataPacketDataSize)

/-- The loop that pushes items at the right end, for at most `n` more rounds. It
stops at the first number past the last packet. The constructor runs the same
loop on an empty window. -/
def fillLoop (s : SlideWindowSender) : ℕ → List SlideWindowSenderItem → List SlideWindowSenderItem
  | 0, items => items
  | n + 1, items =>
    -- `i` equals the size of the deque in every round
    let seqNum := s.slideWindowLeftBoundSeqNum + .ofNat items.length
    if s.lastPacketSeqNum < seqNum then items else s.fillLoop n (items ++ [s.newItem seqNum])

/-- Fill the deque up to the congestion window. -/
def fill (s : SlideWindowSender) : SlideWindowSender :=
  { s with
    slideWindow :=
      s.fillLoop (s.curCongestionWindow.toNat - s.slideWindow.length) s.slideWindow }

/-- The traversal that ends `ackArrived` and `checkTimeout`. -/
def updateNewDataReady (s : SlideWindowSender) : SlideWindowSender :=
  { s with
    newDataReady := s.newDataReady ||
      (s.slideWindow.take s.curCongestionWindow.toNat).any (·.isSendable) }

/-- Both places that change the congestion window move its left bound with it. -/
def setCongestionWindow (s : SlideWindowSender) (window : UInt32) : SlideWindowSender :=
  { s with
    curCongestionWindow := window
    congestionLeftBoundSeqNum := s.slideWindowLeftBoundSeqNum + window }

/-- The threshold after a penalty. -/
def shrunkThreshold (shrink : CongestionShrink) (s : SlideWindowSender) : UInt32 :=
  let threshold := shrink.apply s.curCongestionWindow
  if threshold < congestionThresholdMin then congestionThresholdMin else threshold

/-! ## Basic implementation -/

/-- `lastPacketSeqNum` as the constructor computes it: a 64-bit quotient cut to
32 bits. -/
def lastPacketSeqNumOf (bytesToSend : UInt64) : UInt32 :=
  if bytesToSend % .ofNat dataPacketDataSize = 0 then
    (bytesToSend / .ofNat dataPacketDataSize - 1).toUInt32
  else (bytesToSend / .ofNat dataPacketDataSize).toUInt32

/-- `lastPacketSize` as the constructor computes it: a 32-bit product subtracted
from a 64-bit value, cut to an `int`. -/
def lastPacketSizeOf (bytesToSend : UInt64) : ℤ :=
  if bytesToSend % .ofNat dataPacketDataSize = 0 then dataPacketDataSize
  else
    intOfUnsigned
      (bytesToSend - (lastPacketSeqNumOf bytesToSend * .ofNat dataPacketDataSize).toUInt64).toUInt32

/-- The members the constructor sets before it fills the deque. -/
def unfilled (fileToSend : ByteFile) (bytesToSend : UInt64) (fastRetransmission : Bool) :
    SlideWindowSender where
  fileToSend := fileToSend
  bytesToSend := bytesToSend
  bytesSent := 0
  lastPacketSeqNum := lastPacketSeqNumOf bytesToSend
  lastPacketSize := lastPacketSizeOf bytesToSend
  fastRetransmission := fastRetransmission
  lastAck := 0
  lastAckAckedCount := 0
  curCongestionWindowTimeouted := false
  newDataReady := true
  slideWindowLeftBoundSeqNum := 0
  slideWindow := []
  curCongestionWindow := congestionWindowMin
  curCongestionThreshold := .ofNat (2 ^ 32 - 1)
  congestionLeftBoundSeqNum := 0 + congestionWindowMin

/-- The constructor. -/
def new (fileToSend : ByteFile) (bytesToSend : UInt64) (fastRetransmission : Bool) :
    SlideWindowSender :=
  (unfilled fileToSend bytesToSend fastRetransmission).fill

/-- `finished`. -/
def finished (s : SlideWindowSender) : Bool := s.bytesSent = s.bytesToSend

/-- `hasDataToSend`. -/
def hasDataToSend (s : SlideWindowSender) : Bool := !s.finished && s.newDataReady

/-! ## `prepareDataPacketsToSend` -/

/-- The packet made of an item. Its `data` points into the item. -/
def toDataPacket (s : SlideWindowSender) (now : Timeval) (item : SlideWindowSenderItem) :
    DataPacket ItemData where
  type := if item.seqNum = s.lastPacketSeqNum then .finish else .regular
  seqNum := item.seqNum
  sentTime := now
  dataSize := item.dataSize
  data := ⟨item.seqNum⟩

/-- The loop over the first `curCongestionWindow` items, from position `i` on. -/
def prepareLoop (debug : Bool) (now : Timeval) (s : SlideWindowSender) :
    ℕ → List SlideWindowSenderItem →
      Except Fault (List (DataPacket ItemData) × List SlideWindowSenderItem)
  | _, [] => .ok ([], [])
  | i, item :: items =>
    if UInt32.ofNat i < s.curCongestionWindow then
      if item.isSendable then do
        -- items that are skipped are not checked
        s.ensureCorrectness debug item (.ofNat i)
        let (packets, items) ← s.prepareLoop debug now (i + 1) items
        return (s.toDataPacket now item :: packets, item.markSent now :: items)
      else do
        let (packets, items) ← s.prepareLoop debug now (i + 1) items
        return (packets, item :: items)
    else .ok ([], item :: items)

/-- `prepareDataPacketsToSend`, where `now` is the clock reading. -/
def prepareDataPacketsToSend (debug : Bool) (now : Timeval) (s : SlideWindowSender) :
    Except Fault (List (DataPacket ItemData) × SlideWindowSender) := do
  let (packets, items) ← s.prepareLoop debug now 0 s.slideWindow
  return (packets,
    { s with slideWindow := items, newDataReady := false, curCongestionWindowTimeouted := false })

/-- The bytes a prepared packet's `data` points to, when its item still exists. -/
def readItemData (s : SlideWindowSender) (data : ItemData) : Option (List UInt8) :=
  (s.slideWindow.find? fun item => item.seqNum = data.seqNum).map (·.data)

/-! ## `ackArrived` -/

/-- The selective field: mark the item it names, when that is in the window. -/
def selectiveAck (debug : Bool) (ackPacket : AckPacket) (s : SlideWindowSender) :
    Except Fault SlideWindowSender :=
  if ackPacket.cumulativeSeqNum ≠ ackPacket.selectiveSeqNum ∧
      s.slideWindowLeftBoundSeqNum ≤ ackPacket.selectiveSeqNum then
    let offset := ackPacket.selectiveSeqNum - s.slideWindowLeftBoundSeqNum
    -- `i` is an `int`; compared with `size()` it is unsigned again
    let i := sizeOfInt (intOfUnsigned offset)
    match s.slideWindow[i]? with
    | some item => do
      s.ensureCorrectness debug item offset
      return { s with
        slideWindow := s.slideWindow.modify i fun item => { item with state := .acked } }
    | none => .ok s
  else .ok s

/-- The penalty of fast retransmission, at most once between two sending rounds. -/
def punishDuplicateAck (shrink : CongestionShrink) (s : SlideWindowSender) : SlideWindowSender :=
  if s.curCongestionWindowTimeouted then s
  else
    { s.setCongestionWindow (s.shrunkThreshold shrink) with
      curCongestionThreshold := s.shrunkThreshold shrink
      curCongestionWindowTimeouted := true }

/-- Set the first item to be sent again. -/
def timeoutFirstItem (s : SlideWindowSender) : SlideWindowSender :=
  match s.slideWindow with
  | [] => s
  | item :: items =>
    if item.isInFlight then
      { s with slideWindow := { item with state := .timeout } :: items, newDataReady := true }
    else s

/-- Fast retransmission. -/
def fastRetransmit (shrink : CongestionShrink) (ackPacket : AckPacket) (s : SlideWindowSender) :
    SlideWindowSender :=
  if s.fastRetransmission then
    if s.lastAck = ackPacket.cumulativeSeqNum then
      let s := { s with lastAckAckedCount := s.lastAckAckedCount + 1 }
      -- an equality: the duplicates that follow resend nothing
      if s.lastAckAckedCount = fastRetransmissionThreshold then
        (s.punishDuplicateAck shrink).timeoutFirstItem
      else s
    else if s.lastAck < ackPacket.cumulativeSeqNum then
      { s with lastAck := ackPacket.cumulativeSeqNum, lastAckAckedCount := 0 }
    else s
  else s

/-- The loop that pops the items below the cumulative number and counts their
bytes. -/
def slideLoop (debug : Bool) (s : SlideWindowSender) (cumulativeSeqNum : UInt32) :
    UInt32 → UInt64 → List SlideWindowSenderItem →
      Except Fault (UInt64 × List SlideWindowSenderItem)
  -- the code would take `slideWindow[0]` of an empty deque
  | i, bytesSent, [] => if i < cumulativeSeqNum then .error .emptyDeque else .ok (bytesSent, [])
  | i, bytesSent, item :: items =>
    if i < cumulativeSeqNum then do
      s.ensureCorrectness debug item (i - s.slideWindowLeftBoundSeqNum)
      s.slideLoop debug cumulativeSeqNum (i + 1) (bytesSent + .ofNat item.dataSize) items
    else .ok (bytesSent, item :: items)

/-- The cumulative field: slide the window. -/
def slide (debug : Bool) (ackPacket : AckPacket) (s : SlideWindowSender) :
    Except Fault SlideWindowSender :=
  if s.slideWindowLeftBoundSeqNum < ackPacket.cumulativeSeqNum then
    if debug ∧ s.slideWindow.length <
        (ackPacket.cumulativeSeqNum - s.slideWindowLeftBoundSeqNum).toNat then
      .error .assertionFailed
    else do
      let (bytesSent, items) ← s.slideLoop debug ackPacket.cumulativeSeqNum
        s.slideWindowLeftBoundSeqNum s.bytesSent s.slideWindow
      return { s with
        bytesSent := bytesSent
        slideWindow := items
        slideWindowLeftBoundSeqNum := ackPacket.cumulativeSeqNum }
  else .ok s

/-- The congestion window grows once the left bound has passed its left bound. -/
def growCongestionWindow (s : SlideWindowSender) : SlideWindowSender :=
  if s.congestionLeftBoundSeqNum ≤ s.slideWindowLeftBoundSeqNum then
    if s.curCongestionWindow < s.curCongestionThreshold then
      -- slow start, up to the threshold
      let window := s.curCongestionWindow * 2
      s.setCongestionWindow
        (if s.curCongestionThreshold ≤ window then s.curCongestionThreshold else window)
    else s.setCongestionWindow (s.curCongestionWindow + congestionThresholdMin)
  else s

/-- `ackArrived`. -/
def ackArrived (shrink : CongestionShrink) (debug : Bool) (ackPacket : AckPacket)
    (s : SlideWindowSender) : Except Fault SlideWindowSender := do
  let s ← s.selectiveAck debug ackPacket
  let s ← (s.fastRetransmit shrink ackPacket).slide debug ackPacket
  return s.growCongestionWindow.fill.updateNewDataReady

/-! ## `checkTimeout` -/

/-- The sweep over the whole deque, from position `i` on. The flag says whether
some item timed out. -/
def timeoutLoop (debug : Bool) (timeoutThresholdUs : UInt64) (now : Timeval)
    (s : SlideWindowSender) :
    ℕ → List SlideWindowSenderItem → Except Fault (Bool × List SlideWindowSenderItem)
  | _, [] => .ok (false, [])
  | i, item :: items => do
    s.ensureCorrectness debug item (.ofNat i)
    let (somePacketTimeout, items) ← s.timeoutLoop debug timeoutThresholdUs now (i + 1) items
    if item.hasExpired timeoutThresholdUs now then
      return (true, { item with state := .timeout } :: items)
    else return (somePacketTimeout, item :: items)

/-- The penalty of a timeout, at most once between two sending rounds. -/
def punishTimeout (shrink : CongestionShrink) (somePacketTimeout : Bool) (s : SlideWindowSender) :
    SlideWindowSender :=
  if !s.curCongestionWindowTimeouted && somePacketTimeout then
    -- the threshold is made of the window before the penalty
    { s.setCongestionWindow congestionWindowMin with
      curCongestionThreshold := s.shrunkThreshold shrink
      curCongestionWindowTimeouted := true }
  else s

/-- `checkTimeout`, where `now` is the clock reading. -/
def checkTimeout (shrink : CongestionShrink) (debug : Bool) (timeoutThresholdUs : UInt64)
    (now : Timeval) (s : SlideWindowSender) : Except Fault SlideWindowSender := do
  let (somePacketTimeout, items) ← s.timeoutLoop debug timeoutThresholdUs now 0 s.slideWindow
  return ({ s with slideWindow := items }.punishTimeout shrink somePacketTimeout).updateNewDataReady

end SlideWindowSender

end ReliablePacket
