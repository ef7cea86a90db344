import Horseness.InstallerVersions

/-!
What the installer's operations append to its journal.
-/

namespace Horseness.InstallerJournal

open InstallerVersions

inductive JournalOperation where
  | consentRecorded | migrationBegun | backupCreated | staged | activated | compensating
  | compensated | repairRequired | uninstallPending | uninstalled
  deriving DecidableEq, Repr

structure JournalEntry where
  generation : Nat
  operation : JournalOperation
  transactionId : String
  releaseVersion : String
  detailDigest : String
  deriving DecidableEq, Repr

/-- `validatePayload` of a payload that has the fields of one, its digest made by the installer. -/
def validPayload (entry : JournalEntry) : Prop :=
  isToken entry.transactionId = true ∧ isToken entry.releaseVersion = true

instance : DecidablePred validPayload := fun _ => inferInstanceAs (Decidable (_ ∧ _))

end Horseness.InstallerJournal
