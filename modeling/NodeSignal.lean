import NodeSignal.WireRoundTrip
import NodeSignal.SendBufFifo
import NodeSignal.Database
import NodeSignal.Server
import NodeSignal.Broadcast
import NodeSignal.Moves
import NodeSignal.Settled
import NodeSignal.ServerMoves
import NodeSignal.SlotTable
import NodeSignal.Identity
import NodeSignal.ChatLog
import NodeSignal.History
import NodeSignal.Sessions
import NodeSignal.ChatOrder
import NodeSignal.ChatSegments
import NodeSignal.Rejections
import NodeSignal.Violations
import NodeSignal.Segments
import NodeSignal.Framing
import NodeSignal.EventLoop
import NodeSignal.BrokenPipes
import NodeSignal.SlotFold
import NodeSignal.Newcomers
import NodeSignal.Client
import NodeSignal.DisplayLines
import NodeSignal.DatabaseCalls
import NodeSignal.UserIds
import NodeSignal.RecentMessages
import NodeSignal.SocketOwners
import NodeSignal.LateEvents
import NodeSignal.SocketCalls
import NodeSignal.PollPass
import NodeSignal.SenderIds
import NodeSignal.SentBytes
import NodeSignal.Notices
import NodeSignal.Departures
import NodeSignal.Silences
import NodeSignal.Answers
import NodeSignal.Scripts
import NodeSignal.Network
import NodeSignal.Registration
import NodeSignal.Statements
import NodeSignal.FailedReads
import NodeSignal.WhileLoops
import NodeSignal.SendBufBounds
import NodeSignal.EndOfStream
import NodeSignal.Encoders
import NodeSignal.BroadcastSlots
import NodeSignal.RejectedPackets
import NodeSignal.WholeTexts
import NodeSignal.ProperNames
import NodeSignal.ExecutableDir
import NodeSignal.Frames
import NodeSignal.FramedRecord
import NodeSignal.Transport
import NodeSignal.Lifecycles
import NodeSignal.Deliveries
import NodeSignal.Simulations
import NodeSignal.ClientStreams
import NodeSignal.ByteNetwork
import NodeSignal.ByteStreams
import NodeSignal.PacketRefinement
import NodeSignal.Attributions
import NodeSignal.Transcripts
import NodeSignal.Settling
import NodeSignal.Resting
import NodeSignal.Rooms
import NodeSignal.ChatRoom
import NodeSignal.Ledgers
import NodeSignal.Addresses
import NodeSignal.DatabaseHandles
import NodeSignal.ServerRun
import NodeSignal.Restarts
import NodeSignal.Convergence
