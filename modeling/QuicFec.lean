import QuicFec.Lib.GoBytes
import QuicFec.Lib.GoMap
import QuicFec.Protocol
import QuicFec.Utils
import QuicFec.Frames
import QuicFec.FecFramesParser
import QuicFec.FrameParser
import QuicFec.Header
import QuicFec.HeaderRoundTrip
import QuicFec.Http3Body
import QuicFec.AckRoundTrip
import QuicFec.FrameRoundTrip
import QuicFec.FrameSplit
import QuicFec.FrameSorter
import QuicFec.FecPayload
import QuicFec.TransportParameters
import QuicFec.TransportParametersRoundTrip
import QuicFec.FecReceive
import QuicFec.Lib.LinkedList
import QuicFec.PacketNumber
import QuicFec.SentPacketHistory
import QuicFec.PacketNumberGenerator
import QuicFec.SentPacketHandler
import QuicFec.AckRanges
import QuicFec.HandlerFrame
import QuicFec.PacketNumberLength
import QuicFec.BytesInFlight
import QuicFec.FecBlock
import QuicFec.Lib.ByteXor
import QuicFec.FecSchemes
import QuicFec.RepairFrame
import QuicFec.FecReceiver
import QuicFec.Lib.IntervalList
import QuicFec.ReceivedPacketHistory
import QuicFec.StreamsMapIncoming
import QuicFec.FlowControl
import QuicFec.KeyUpdate
import QuicFec.FrameworkSender
import QuicFec.RepairQueue
import QuicFec.Lib.Emission
import QuicFec.PacketPacker
import QuicFec.Retransmission
import QuicFec.ComposePacket
import QuicFec.Lib.Framing
import QuicFec.CryptoStream
import QuicFec.CryptoStreamManager
import QuicFec.ReceivedPacketTracker
import QuicFec.SendStream
