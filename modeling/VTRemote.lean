import VTRemote.System.Channels
import VTRemote.Client.FailStop
import VTRemote.Client.SubmissionRuns
import VTRemote.Client.EncoderFuel
import VTRemote.Client.StreamRuns
import VTRemote.Client.FilledRows
import VTRemote.Client.DecoderRuns
import VTRemote.Client.DecoderOutput
import VTRemote.Client.MessageBoundary
import VTRemote.Client.Delivery
import VTRemote.Client.Socket
import VTRemote.Formats.Control
import VTRemote.Formats.Configure
import VTRemote.Server.Messages
import VTRemote.Formats.Frame
import VTRemote.Formats.Packet
import VTRemote.Server.StubCodecSession
import VTRemote.Server.TimestampRuns
import VTRemote.Server.TickConversions
import VTRemote.Server.AnnexB
import VTRemote.Server.SessionConfiguration
import VTRemote.Server.Conversation
import VTRemote.Server.HandlerRuns
import VTRemote.Server.AuthenticationGate
import VTRemote.Formats.Grammar
import VTRemote.Server.ByteBuffer
import VTRemote.Proto.Header
import VTRemote.Proto.Payload
import VTRemote.Proto.Buffer
import VTRemote.Formats.StubExchange
import VTRemote.Proto.Growth
import VTRemote.Client.Hello
import VTRemote.Formats.Hello
import VTRemote.Server.PosixIo
import VTRemote.Server.VTRWireConnection
import VTRemote.System.ServerFraming
import VTRemote.System.ClientFraming
import VTRemote.Library.RowCopy
import VTRemote.Server.EncoderSession
import VTRemote.Server.PlaneCopies
import VTRemote.Formats.FramePlanes
import VTRemote.Server.FrameTraps
import VTRemote.Server.CopyBounds
import VTRemote.Formats.SentFrame
import VTRemote.System.FramePixels
import VTRemote.System.ClosedCaptions
import VTRemote.Client.FillBounds
import VTRemote.Server.SessionSetup
import VTRemote.Server.ConfigurationTraps
import VTRemote.Library.Window
import VTRemote.Library.Markers
import VTRemote.Client.SocketAnswers
import VTRemote.Client.Offers
import VTRemote.Client.OfferedReads
import VTRemote.Client.SendableFrames
import VTRemote.Client.Sessions
import VTRemote.Client.EncoderImages
import VTRemote.System.ChannelServer
import VTRemote.System.ChannelClient
import VTRemote.System.InStep
import VTRemote.System.BlockingReads
import VTRemote.Library.Writes
import VTRemote.Server.LengthPrefixes
import VTRemote.Client.ConfigureOptions
import VTRemote.Server.SessionOptions
import VTRemote.System.EncoderOptions
import VTRemote.Library.PartialRuns
import VTRemote.Server.EncoderCallbacks
import VTRemote.Server.PacketOrder
import VTRemote.Server.WarmUp
import VTRemote.Client.WireEvents
import VTRemote.Client.OneFlush
import VTRemote.Client.FlushRuns
import VTRemote.Client.FlushConditions
import VTRemote.Client.OneFlushRuns
import VTRemote.Server.UnitLengths
import VTRemote.Library.CheckedAccess
import VTRemote.Client.HvccConversion
import VTRemote.Client.AvccConversion
import VTRemote.Server.LatencyTracker
import VTRemote.Server.LengthFields
import VTRemote.Client.Exchanges
import VTRemote.Client.QueueSteps
import VTRemote.Client.QueueRuns
import VTRemote.Client.FlowControl
import VTRemote.Client.PacketRing
import VTRemote.Server.ByteAccounting
import VTRemote.Library.Shortage
import VTRemote.Proto.Overreads
import VTRemote.Formats.FrameGrammar
import VTRemote.Formats.FrameParser
import VTRemote.Proto.WriteRuns
import VTRemote.Library.Ratchet
import VTRemote.Server.TimestampClimbs
import VTRemote.Library.Service
import VTRemote.Library.CallImages
import VTRemote.Client.DecoderImages
import VTRemote.Client.GrantedDecoder
import VTRemote.System.LocalSession
import VTRemote.System.DecoderLockstep
import VTRemote.System.DecodedPixels
import VTRemote.System.EncoderService
import VTRemote.Library.Feeding
import VTRemote.System.HandlerCausality
import VTRemote.System.StubHandler
import VTRemote.Library.Ledger
import VTRemote.Client.Connecting
import VTRemote.Client.SessionHandshake
import VTRemote.Client.HandshakeResources
import VTRemote.System.HandlerLink
import VTRemote.Client.ConfigureFits
import VTRemote.System.SessionOpening
import VTRemote.System.OpenedSessions
import VTRemote.Server.ParameterSets
import VTRemote.System.ParameterSetTrip
import VTRemote.System.SampleTrip
