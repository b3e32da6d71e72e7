import DistributedNetwork.Decoding.PacketFormat
import DistributedNetwork.Decoding.Workers
import DistributedNetwork.Decoding.WrappedHeader
import DistributedNetwork.Routing.BellmanFord
import DistributedNetwork.Routing.Convergence
import DistributedNetwork.Session.SessionDestroyer
import DistributedNetwork.Sending.SendStream
import DistributedNetwork.Handshake.Nodes
import DistributedNetwork.Handshake.Refinement
import DistributedNetwork.Handshake.Agreement
import DistributedNetwork.Consensus.Storage
import DistributedNetwork.Session.SessionDispatcher
import DistributedNetwork.Consensus.PersistentState
import DistributedNetwork.Consensus.StateMachineLog
import DistributedNetwork.Routing.DistanceVectorService
import DistributedNetwork.Routing.Broadcast
import DistributedNetwork.Decoding.ByteStream
import DistributedNetwork.Decoding.BufferLimits
import DistributedNetwork.Receiving.Edges
import DistributedNetwork.Connecting.HostsConnector
import DistributedNetwork.Connecting.Retry
import DistributedNetwork.Routing.Calls
import DistributedNetwork.Routing.VisitingOrder
import DistributedNetwork.Routing.Probes
import DistributedNetwork.Sending.DrainLoop
import DistributedNetwork.Consensus.RocksDBStorage
import DistributedNetwork.Consensus.RaftMessages
import DistributedNetwork.Consensus.Raft
import DistributedNetwork.Consensus.Exchange
import DistributedNetwork.Buffer.Reading
import DistributedNetwork.Sending.Accepted
import DistributedNetwork.Decoding.HeaderCodec
import DistributedNetwork.Library.HashTable
import DistributedNetwork.Session.EndPoints
import DistributedNetwork.Session.Heartbeat
import DistributedNetwork.Consensus.ClusterConfiguration
import DistributedNetwork.Consensus.Voting
import DistributedNetwork.Library.Geodesic
import DistributedNetwork.Routing.Links
import DistributedNetwork.Routing.Settling
import DistributedNetwork.Delivery.Connection
import DistributedNetwork.Session.NodesFile
import DistributedNetwork.Session.AliveChecker
import DistributedNetwork.Handshake.Termination
import DistributedNetwork.Delivery.Dispatch
import DistributedNetwork.Library.TicketCounter
import DistributedNetwork.Accepting.Acceptor
import DistributedNetwork.Accepting.SessionIds
import DistributedNetwork.Consensus.Startup
import DistributedNetwork.Session.SendPath
