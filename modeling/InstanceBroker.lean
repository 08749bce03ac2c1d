import InstanceBroker.Main
import InstanceBroker.Message.Config
import InstanceBroker.Message.Note
import InstanceBroker.Session
import InstanceBroker.Proofs.Creation
import InstanceBroker.Proofs.Output
import InstanceBroker.Proofs.Shutdown
import InstanceBroker.Proofs.Custody
import InstanceBroker.Proofs.Causes
import InstanceBroker.Proofs.Consumption
import InstanceBroker.Proofs.Rivalry
import InstanceBroker.Proofs.Submission
import InstanceBroker.Proofs.Initiation
import InstanceBroker.Proofs.Expiry
import InstanceBroker.Proofs.Isolation
import InstanceBroker.Proofs.Termination
import InstanceBroker.Proofs.Family
import InstanceBroker.Proofs.Reply
import InstanceBroker.Proofs.Withdrawal
import InstanceBroker.Proofs.Catalogue
import InstanceBroker.Proofs.Crew
import InstanceBroker.Proofs.Inventory
import InstanceBroker.Proofs.Tally
import InstanceBroker.Proofs.Json.Grammar
import InstanceBroker.Proofs.Json.Numeral
import InstanceBroker.Proofs.Json.Words
import InstanceBroker.Proofs.Json.Kept
import InstanceBroker.Proofs.Correlation
import InstanceBroker.Proofs.Json.Written
import InstanceBroker.Proofs.Json.Yielded
import InstanceBroker.Proofs.Timestamp.Civil
import InstanceBroker.Proofs.Timestamp.Rfc3339
import InstanceBroker.Proofs.Wire
import InstanceBroker.Proofs.Naming
import InstanceBroker.Proofs.Desertion
import InstanceBroker.Proofs.Indifference
import InstanceBroker.Proofs.Reference
import InstanceBroker.Proofs.Conclusion
import InstanceBroker.Proofs.Atomicity
import InstanceBroker.Proofs.Abstention
import InstanceBroker.Proofs.Decimal.Rounding
import InstanceBroker.Proofs.Decimal.Shortest
import InstanceBroker.Proofs.Seconds
import InstanceBroker.Proofs.Yaml.Number
import InstanceBroker.Proofs.Yaml.Lines
import InstanceBroker.Proofs.Yaml.Entries
import InstanceBroker.Proofs.Configuration
