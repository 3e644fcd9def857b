import ReliablePacket.Semantics.Transition
import ReliablePacket.Semantics.SelectiveRepeat
import ReliablePacket.Math.ByteFile
import ReliablePacket.Math.NumberedQueue
import ReliablePacket.Protocol.Packet
import ReliablePacket.Protocol.SlideWindowSender
import ReliablePacket.Protocol.SlideWindowReceiver
import ReliablePacket.Protocol.Segmentation
import ReliablePacket.Protocol.SenderSpec
import ReliablePacket.Protocol.AckStages
import ReliablePacket.Protocol.AckArrived
import ReliablePacket.Protocol.SenderInvariant
import ReliablePacket.Protocol.ReceiverInvariant
import ReliablePacket.System.Basic
import ReliablePacket.System.Invariant
import ReliablePacket.System.Agreement
import ReliablePacket.System.Integrity
import ReliablePacket.System.DataOrder
import ReliablePacket.System.Progress
import ReliablePacket.Programs.Basic
import ReliablePacket.Programs.Steps
import ReliablePacket.Programs.Invariant
import ReliablePacket.Programs.Wakeup
import ReliablePacket.Programs.Borrow
import ReliablePacket.Programs.Delivery
import ReliablePacket.Programs.Shutdown
import ReliablePacket.Programs.Session
import ReliablePacket.Programs.Handshake
import ReliablePacket.Programs.EmptyTransfer
import ReliablePacket.Programs.Stamps
import ReliablePacket.Programs.Teardown
import ReliablePacket.Programs.SenderRounds
import ReliablePacket.Programs.Replies
import ReliablePacket.Programs.Completion
import ReliablePacket.Programs.Ending
import ReliablePacket.Programs.MissedWakeup
import ReliablePacket.Programs.HandshakeRuns
import ReliablePacket.System.AckOrder
import ReliablePacket.Protocol.SenderRuns
import ReliablePacket.Protocol.ReceiverRuns
import ReliablePacket.Protocol.CongestionControl
import ReliablePacket.System.Penalties
import ReliablePacket.Math.ByteBuffer
import ReliablePacket.Protocol.PacketBuffer
import ReliablePacket.Protocol.WireFormat
import ReliablePacket.Programs.Datagrams
import ReliablePacket.Programs.WireSystem
import ReliablePacket.Programs.AckDatagrams
import ReliablePacket.Protocol.Clock
import ReliablePacket.Protocol.Timeouts
import ReliablePacket.Protocol.FastRetransmission
import ReliablePacket.Protocol.Retransmissions
import ReliablePacket.Protocol.SlowStart
import ReliablePacket.Programs.UndisturbedRuns
import ReliablePacket.Math.TruncatedMean
import ReliablePacket.Protocol.RttEstimatorJacobson
import ReliablePacket.Protocol.RttEstimates
import ReliablePacket.Programs.RoundTrips
