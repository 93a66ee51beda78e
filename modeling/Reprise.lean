import Reprise.Machine
import Reprise.Host.Map
import Reprise.Host.Table
import Reprise.Proofs.Absorption
import Reprise.Proofs.Exactness
import Reprise.Proofs.Commit
import Reprise.Proofs.Indistinguishable
import Reprise.Proofs.Lifecycle
import Reprise.Proofs.Contract
import Reprise.Proofs.Course
import Reprise.Proofs.CallStack
import Reprise.Proofs.Unfailing
import Reprise.Proofs.Confinement
import Reprise.Proofs.Finality
import Reprise.Proofs.Typing
import Reprise.Proofs.Capacity
import Reprise.Proofs.Refusal
import Reprise.Proofs.Defects
import Reprise.Proofs.Figures
import Reprise.Proofs.Expenditure
import Reprise.Proofs.Initialization
import Reprise.Proofs.Interruption
import Reprise.Proofs.Schedule
import Reprise.Proofs.Application
import Reprise.Proofs.EntryPoint
import Reprise.Proofs.Merging
import Reprise.Proofs.StorageForm
