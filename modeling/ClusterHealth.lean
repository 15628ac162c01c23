import ClusterHealth.Main
import ClusterHealth.Lock.Interference
import ClusterHealth.Proofs.FileSystem
import ClusterHealth.Proofs.Lock.Processes
import ClusterHealth.Proofs.Lock.Exclusion
import ClusterHealth.Proofs.Action
import ClusterHealth.Proofs.Journal
import ClusterHealth.Proofs.Attempts
import ClusterHealth.Proofs.Check
import ClusterHealth.Proofs.Client
import ClusterHealth.Proofs.Verdict
import ClusterHealth.Proofs.Digits
import ClusterHealth.Proofs.Spelling
import ClusterHealth.Proofs.Address
import ClusterHealth.Proofs.Congruence
import ClusterHealth.Proofs.LostTrace
import ClusterHealth.Proofs.Database
import ClusterHealth.Proofs.Healing
import ClusterHealth.Proofs.Replication
import ClusterHealth.Proofs.Watch
import ClusterHealth.Proofs.Dropping
import ClusterHealth.Proofs.Convergence
import ClusterHealth.Proofs.Lock.Alone
import ClusterHealth.Proofs.Moves
import ClusterHealth.Proofs.UnderLock
import ClusterHealth.Proofs.Requests
import ClusterHealth.Proofs.Outage
import ClusterHealth.Proofs.Session
import ClusterHealth.Proofs.Naming
import ClusterHealth.Proofs.Identity
import ClusterHealth.Proofs.Lock.History
import ClusterHealth.Proofs.Raising
import ClusterHealth.Proofs.Ending
import ClusterHealth.Proofs.Recording
import ClusterHealth.Proofs.Reports
import ClusterHealth.Proofs.Escaping
import ClusterHealth.Proofs.Turns
import ClusterHealth.Proofs.Rivals
import ClusterHealth.Proofs.Precedence
import ClusterHealth.Proofs.Secrecy
import ClusterHealth.Proofs.Missing
import ClusterHealth.Proofs.Rearranging
import ClusterHealth.Proofs.Lock.Obstacles
import ClusterHealth.Proofs.Lock.Contention
import ClusterHealth.Proofs.Lock.GivingBack
import ClusterHealth.Proofs.Downgrade
import ClusterHealth.Proofs.Unusable
import ClusterHealth.Proofs.Lock.Refusal
import ClusterHealth.Proofs.Durations
import ClusterHealth.Proofs.Kinds
import ClusterHealth.Proofs.Summaries
