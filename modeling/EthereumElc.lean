import EthereumElc.General.Outcome
import EthereumElc.General.Protobuf
import EthereumElc.General.Reordering
import EthereumElc.General.Tracker
import EthereumElc.General.Transition
import EthereumElc.Host.Entries
import EthereumElc.Host.Exec
import EthereumElc.Host.Simulation
import EthereumElc.Model.Assumptions
import EthereumElc.Model.Operations
import EthereumElc.Properties.Abstraction
import EthereumElc.Properties.Batches
import EthereumElc.Properties.Chain
import EthereumElc.Properties.Commutation
import EthereumElc.Properties.Creation
import EthereumElc.Properties.Decoding
import EthereumElc.Properties.Expiry
import EthereumElc.Properties.Freezing
import EthereumElc.Properties.Isolation
import EthereumElc.Properties.Lineage
import EthereumElc.Properties.MessageFields
import EthereumElc.Properties.Messages
import EthereumElc.Properties.Punishment
import EthereumElc.Properties.Records
import EthereumElc.Properties.Refinement
import EthereumElc.Properties.Refusals
import EthereumElc.Properties.SameHeight
import EthereumElc.Properties.Stability
import EthereumElc.Properties.StateCodecs
import EthereumElc.Properties.StateIds
import EthereumElc.Properties.Stored
import EthereumElc.Properties.TimeContext
import EthereumElc.Properties.UntrustedHost
import EthereumElc.Reference.Externals
import EthereumElc.Reference.Formats
import EthereumElc.Reference.Relayer
