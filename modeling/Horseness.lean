import Horseness.ServiceHistories
import Horseness.AdmissionAgreement
import Horseness.ReceiptAdoption
import Horseness.QuotaAuthority
import Horseness.LifecycleRecovery
import Horseness.RestoreRecovery
import Horseness.AdmissionAcceptance
import Horseness.CancelledAttempts
import Horseness.GrantHolders
import Horseness.CollectedArtifacts
import Horseness.PlanAvailability
import Horseness.ForkLineages
import Horseness.BootstrapRecovery
import Horseness.NativeHandoff
import Horseness.PlanGrammar
import Horseness.UnlaunchedRecovery
import Horseness.RetryClosure
import Horseness.CompensatedHomes
import Horseness.OutcomePropagation
import Horseness.ContextReconstruction
import Horseness.ReleaseAcceptance
import Horseness.CanonicalForms
import Horseness.ScopeIntersections
import Horseness.WorkerPhases
import Horseness.ConfinementGate
import Horseness.JournalAppends
import Horseness.SealOrders
import Horseness.Base32Bits
import Horseness.DispatchRuns
import Horseness.Pointers
import Horseness.Listings
import Horseness.CliRedaction
