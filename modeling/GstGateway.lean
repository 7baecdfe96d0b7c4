import GstGateway.Foundation.Counter
import GstGateway.Foundation.Fair
import GstGateway.Foundation.Loop
import GstGateway.Foundation.Numbered
import GstGateway.Foundation.Run
import GstGateway.Foundation.Serial
import GstGateway.Foundation.Simulation
import GstGateway.Foundation.Straight
import GstGateway.Foundation.Vec
import GstGateway.Conference.Allocation
import GstGateway.Conference.Held
import GstGateway.Conference.Ranges
import GstGateway.Conference.Sockets
import GstGateway.Gateway.Bound
import GstGateway.Gateway.Closing
import GstGateway.Gateway.Conferences
import GstGateway.Gateway.Refinement
import GstGateway.Gateway.Settled
import GstGateway.Pipeline.AudioNames
import GstGateway.Pipeline.Delivery
import GstGateway.Pipeline.Handoff
import GstGateway.Pipeline.LostQuit
import GstGateway.Pipeline.Messages
import GstGateway.Pipeline.Names
import GstGateway.Pipeline.References
import GstGateway.Pipeline.Release
import GstGateway.Pipeline.Shutdown
import GstGateway.Pipeline.Sources
import GstGateway.Pipeline.Unwinding
import GstGateway.Pipeline.Waiting
import GstGateway.Program.Alone
import GstGateway.Program.Consistency
import GstGateway.Program.Grants
import GstGateway.Program.Leaks
import GstGateway.Program.Model
import GstGateway.Program.Progress
import GstGateway.Receiver.Buffers
import GstGateway.Receiver.Ownership
import GstGateway.Registry.Order
import GstGateway.Registry.Orphans
import GstGateway.Registry.Positions
import GstGateway.Registry.Refinement
import GstGateway.Registry.Removal
import GstGateway.Registry.Serial
import GstGateway.Registry.Uninitialised
import GstGateway.Registry.World
import GstGateway.Rest.Atomicity
import GstGateway.Rest.Blocks
import GstGateway.Rest.Capacity
import GstGateway.Rest.Format
import GstGateway.Rest.History
import GstGateway.Rest.Ports
import GstGateway.Rest.Queue
import GstGateway.Rest.Replies
import GstGateway.Rest.Simulation
import GstGateway.Rest.Targets
