import CircleStdlib.Execution
import CircleStdlib.FamilyCount
import CircleStdlib.ThreadSync
import CircleStdlib.MutexHandover
import CircleStdlib.CondvarAccounting
import CircleStdlib.CondvarWakeup
import CircleStdlib.ExecuteOnce
import CircleStdlib.ThreadHandles
import CircleStdlib.ThreadIdentity
import CircleStdlib.ThreadStorage
import CircleStdlib.ThreadExit
import CircleStdlib.Durations
import CircleStdlib.SocketHandles
import CircleStdlib.AdaptedSocket
import CircleStdlib.HandleOwners
import CircleStdlib.AcceptedSlots
import CircleStdlib.CText
import CircleStdlib.NetSockets
import CircleStdlib.PortNumbers
import CircleStdlib.Certificates
import CircleStdlib.ServerVerification
import CircleStdlib.TlsSocket
import CircleStdlib.HttpClient
import CircleStdlib.HttpLines
import CircleStdlib.Numerals
import CircleStdlib.HttpStatusLine
import CircleStdlib.HttpHeaders
import CircleStdlib.HttpTokens
import CircleStdlib.HttpRequests
import CircleStdlib.HttpContract
import CircleStdlib.Checked
import CircleStdlib.ByteMemory
import CircleStdlib.MqttProtocol
import CircleStdlib.ReceivePacket
import CircleStdlib.SendPacket
import CircleStdlib.MqttClient
import CircleStdlib.MqttTask
import CircleStdlib.WireFormat
import CircleStdlib.PacketReading
import CircleStdlib.PacketWriting
import CircleStdlib.AppendedFields
import CircleStdlib.RemainingLength
import CircleStdlib.ClientSteps
import CircleStdlib.ReceiverSteps
import CircleStdlib.ConnectionInvariant
import CircleStdlib.ReceiverFraming
import CircleStdlib.ClientMoves
import CircleStdlib.PublishRoundTrip
import CircleStdlib.PacketCodec
import CircleStdlib.PacketResponse
import CircleStdlib.ReceiverRounds
import CircleStdlib.Feeding
import CircleStdlib.StreamReception
import CircleStdlib.Acknowledgements
import CircleStdlib.PacketIdentifiers
import CircleStdlib.StableInsertion
import CircleStdlib.RetransmissionQueue
import CircleStdlib.Retransmissions
import CircleStdlib.KeepAliveTimer
import CircleStdlib.ConnectionEvents
import CircleStdlib.GuardedAssertions
import CircleStdlib.ClientDeeds
import CircleStdlib.Transcript
import CircleStdlib.PingDeadline
import CircleStdlib.RetryBudget
import CircleStdlib.ConnectGrammar
import CircleStdlib.LifeCycle
import CircleStdlib.ReentrantCallbacks
import CircleStdlib.Backlog
import CircleStdlib.ReceiveBacklog
import CircleStdlib.HttpDecoding
import CircleStdlib.HttpAnswers
import CircleStdlib.HttpBody
import CircleStdlib.HttpGrammar
import CircleStdlib.HttpMessages
import CircleStdlib.HttpExchange
import CircleStdlib.TlsRequests
import CircleStdlib.HttpChunks
import CircleStdlib.Ledger
import CircleStdlib.ExactlyOnce
import CircleStdlib.PublishAcceptance
import CircleStdlib.BrokerPackets
import CircleStdlib.MalformedPackets
import CircleStdlib.ReceiverSafety
import CircleStdlib.Tickets
import CircleStdlib.Broker
import CircleStdlib.BrokerExchange
import CircleStdlib.Relay
import CircleStdlib.Delivery
