import Spilman.Lib.Outcome
import Spilman.Lib.Program
import Spilman.Lib.Interleaving
import Spilman.Lib.Greedy
import Spilman.Lib.SortedMap
import Spilman.Lib.Pairing
import Spilman.Lib.Table
import Spilman.Lib.Sorting
import Spilman.Lib.Machine
import Spilman.Lib.Numbering
import Spilman.Lib.Text
import Spilman.Lib.PrefixCode
import Spilman.Lib.OddEvenGroup
import Spilman.Json
import Spilman.Cashu
import Spilman.Amounts
import Spilman.Params
import Spilman.Derivation
import Spilman.Deterministic
import Spilman.DerivationInputs
import Spilman.Outputs
import Spilman.Sample
import Spilman.Pricing
import Spilman.Commitment
import Spilman.Channel
import Spilman.SwapCompletion
import Spilman.Restore
import Spilman.Recovery.Inspection
import Spilman.Host
import Spilman.MintOutcome
import Spilman.Storage.Interface
import Spilman.Storage.Memory
import Spilman.Storage.Sqlite
import Spilman.Storage.Lifecycle
import Spilman.Storage.Config
import Spilman.Storage.Conformance
import Spilman.Storage.Equivalence
import Spilman.Bridge.Payment
import Spilman.Bridge.Close
import Spilman.Bridge.Complete
import Spilman.Bridge.Verify
import Spilman.SampleChannel
import Spilman.ChannelId
import Spilman.Funding
import Spilman.Signing
import Spilman.Refund
import Spilman.BlindedKeys
import Spilman.Bridge.Policy
import Spilman.Bridge.Settlement
import Spilman.Bridge.Authenticity
import Spilman.Bridge.Payout
import Spilman.Bridge.OutputOrder
import Spilman.Bridge.Interchange
import Spilman.Client.Host
import Spilman.Client.Storage
import Spilman.Client.Lifecycle
import Spilman.Client.Interchange
import Spilman.Client.Payment
import Spilman.Client.Opening
import Spilman.Client.Keysets
import Spilman.Client.Acceptance
import Spilman.Client.Balance
import Spilman.Client.Recovery
import Spilman.Client.Calls
import Spilman.Client.Submission
import Spilman.ConfigurableHost
import Spilman.Kits.GoHost
import Spilman.Kits.Stores
import Spilman.Kits.GoStores
import Spilman.Kits.PythonStores
import Spilman.Kits.TypeScriptStores
import Spilman.KeysetRetry
import Spilman.Bridge.Calls
import Spilman.Bridge.Readings
import Spilman.Bridge.Runs
import Spilman.Bridge.Closing
import Spilman.Bridge.Deployment
import Spilman.Bridge.Resubmission
import Spilman.Bridge.Sequences
import Spilman.Bridge.Requests
import Spilman.Bridge.Interleaved
import Spilman.Bridge.Contention
