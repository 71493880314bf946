import DirectPlayLite.Lib.LittleEndian
import DirectPlayLite.Lib.SwapRemove
import DirectPlayLite.Lib.Monitor.Program
import DirectPlayLite.Lib.Monitor.Machine
import DirectPlayLite.Lib.Monitor.Contract
import DirectPlayLite.Lib.Monitor.Tokens
import DirectPlayLite.Lib.Monitor.Total
import DirectPlayLite.Packet.Serialiser
import DirectPlayLite.Packet.Deserialiser
import DirectPlayLite.Packet.Bounds
import DirectPlayLite.Packet.RoundTrip
import DirectPlayLite.Packet.Grammar
import DirectPlayLite.Packet.Iterations
import DirectPlayLite.Peer.SendQueue
import DirectPlayLite.Peer.Queueing
import DirectPlayLite.Peer.Codes
import DirectPlayLite.Peer.State
import DirectPlayLite.Peer.Commands
import DirectPlayLite.Peer.Procedures
import DirectPlayLite.Peer.Callbacks
import DirectPlayLite.Peer.Teardown
import DirectPlayLite.Peer.Sockets
import DirectPlayLite.Peer.Joining
import DirectPlayLite.Peer.Messages
import DirectPlayLite.Peer.Methods
import DirectPlayLite.Peer.Machine
import DirectPlayLite.Peer.Footprints
import DirectPlayLite.Peer.Behaviour
import DirectPlayLite.Peer.Contracts
import DirectPlayLite.Peer.Endings
import DirectPlayLite.Peer.States
import DirectPlayLite.Peer.Admission
import DirectPlayLite.Peer.Exceptions
import DirectPlayLite.Peer.Connecting
import DirectPlayLite.Peer.Outgoing
import DirectPlayLite.Peer.Players
import DirectPlayLite.Peer.Groups
import DirectPlayLite.Peer.Host
import DirectPlayLite.Peer.Closing
import DirectPlayLite.Peer.Welcome
import DirectPlayLite.Peer.Accounts
import DirectPlayLite.Peer.Settlement
import DirectPlayLite.Peer.Notices
import DirectPlayLite.Peer.Receiving
import DirectPlayLite.Address.Components
import DirectPlayLite.Address.Histories
import DirectPlayLite.Address.Values
import DirectPlayLite.Address.Space
import DirectPlayLite.Address.Copies
import DirectPlayLite.Pool.Handles
import DirectPlayLite.Pool.Workers
import DirectPlayLite.Peer.Tombstones
import DirectPlayLite.Peer.Wire
import DirectPlayLite.Peer.Senders
import DirectPlayLite.Peer.Limits
import DirectPlayLite.Peer.GroupLives
import DirectPlayLite.Peer.Requests
import DirectPlayLite.Peer.Terminating
import DirectPlayLite.Peer.Cancelling
import DirectPlayLite.Peer.CancelAll
import DirectPlayLite.Lib.Monitor.Partial
import DirectPlayLite.Peer.Failing
import DirectPlayLite.Peer.Completing
import DirectPlayLite.Peer.Placing
import DirectPlayLite.Peer.Destroying
import DirectPlayLite.Peer.Dropping
import DirectPlayLite.Pool.Throwing
import DirectPlayLite.Lib.Ticks
import DirectPlayLite.Enumerator.Requests
import DirectPlayLite.Lib.Scanning
import DirectPlayLite.Address.Hosts
import DirectPlayLite.Address.Buffers
import DirectPlayLite.Lib.Monitor.Traces
import DirectPlayLite.Peer.Passwords
import DirectPlayLite.Peer.Capacity
import DirectPlayLite.Peer.Naming
import DirectPlayLite.Lib.Monitor.Observers
import DirectPlayLite.Peer.AckIds
import DirectPlayLite.Peer.Allocation
import DirectPlayLite.Peer.Answers
import DirectPlayLite.Lib.TaggedCounters
import DirectPlayLite.Peer.AsyncHandles
import DirectPlayLite.Peer.Ports
import DirectPlayLite.Peer.Loopback
import DirectPlayLite.Lib.Stores
import DirectPlayLite.Peer.Descriptions
import DirectPlayLite.Lib.Framing
import DirectPlayLite.Lib.Monitor.Custody
import DirectPlayLite.Peer.Custodies
import DirectPlayLite.Peer.PeerIds
import DirectPlayLite.Peer.Reading
import DirectPlayLite.Peer.Writing
import DirectPlayLite.Peer.Delivery
import DirectPlayLite.Peer.Handling
import DirectPlayLite.Pool.Shutdown
import DirectPlayLite.Lib.Monitor.Prompts
import DirectPlayLite.Peer.Contents
import DirectPlayLite.Peer.Receipts
