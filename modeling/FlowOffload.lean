import FlowOffload.Settings.Writer
import FlowOffload.Main
import FlowOffload.Flow.Enrollment
import FlowOffload.Proofs.Basics
import FlowOffload.Proofs.Bytes
import FlowOffload.Proofs.Ipv4
import FlowOffload.Proofs.Json.Pretty
import FlowOffload.Proofs.Settings
import FlowOffload.Proofs.Settings.Saving
import FlowOffload.Proofs.Settings.Verdict
import FlowOffload.Proofs.NatPool
import FlowOffload.Proofs.NatPool.Lending
import FlowOffload.Proofs.Nic
import FlowOffload.Proofs.Latency
import FlowOffload.Proofs.Rule
import FlowOffload.Proofs.Spreading
import FlowOffload.Proofs.Frame.Fields
import FlowOffload.Proofs.Frame.Readdressing
import FlowOffload.Proofs.Frame.Checksum
import FlowOffload.Proofs.Frame.TransportSum
import FlowOffload.Proofs.Frame.Resealing
import FlowOffload.Proofs.Translation
import FlowOffload.Proofs.FlowDevice
import FlowOffload.Proofs.FlowDevice.History
import FlowOffload.Proofs.Flow.Table
import FlowOffload.Proofs.Flow.Pairing
import FlowOffload.Proofs.Flow.Gathering
import FlowOffload.Proofs.Flow.Requests
import FlowOffload.Proofs.Dataplane.Interference
import FlowOffload.Proofs.Dataplane.Installing
import FlowOffload.Proofs.Dataplane.AllOrNothing
import FlowOffload.Proofs.Dataplane.Receiving
import FlowOffload.Proofs.Dataplane.Evicting
import FlowOffload.Proofs.Dataplane.Run
import FlowOffload.Proofs.Dataplane.WholePairs
import FlowOffload.Proofs.Dataplane.PortAccount
import FlowOffload.Proofs.Dataplane.Equipment
import FlowOffload.Proofs.Dataplane.Agreement
import FlowOffload.Proofs.Dataplane.Waiting
import FlowOffload.Proofs.Dataplane.EvictionOrder
import FlowOffload.Proofs.Dataplane.EvictionEffect
import FlowOffload.Proofs.Dataplane.LateContexts
import FlowOffload.Proofs.Dataplane.Counting
import FlowOffload.Proofs.Dataplane.FlowCounts
import FlowOffload.Proofs.Dataplane.Ledger
import FlowOffload.Proofs.Dataplane.ReceiveLoop
import FlowOffload.Proofs.Dataplane.Finality
import FlowOffload.Proofs.Dataplane.Requeueing
import FlowOffload.Proofs.Dataplane.EvictionThread
import FlowOffload.Proofs.Dataplane.Restarting
import FlowOffload.Proofs.Frame.InPlace
import FlowOffload.Proofs.Frame.Parsing
import FlowOffload.Proofs.Flow.Admission
import FlowOffload.Proofs.Dataplane.Threshold
import FlowOffload.Proofs.Dataplane.Alteration
import FlowOffload.Proofs.Dataplane.Backpressure
import FlowOffload.Proofs.Dataplane.EvictionRounds
import FlowOffload.Proofs.Hashing
import FlowOffload.Proofs.Frame.OnesComplement
