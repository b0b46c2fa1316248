import Ibssa.Proofs.FailedComparison
import Ibssa.Proofs.PkeyRefs
import Ibssa.Proofs.Merges
import Ibssa.Proofs.Options
import Ibssa.Proofs.ExtractRoom
import Ibssa.Proofs.LftSnapshot
import Ibssa.Proofs.LftAge
import Ibssa.Proofs.Versions
import Ibssa.Proofs.CountedCopy
import Ibssa.Proofs.Create
import Ibssa.Proofs.LinkSymmetry
import Ibssa.Proofs.Definitions
import Ibssa.Proofs.UpToDate
import Ibssa.Proofs.HeapLife
import Ibssa.Proofs.FabricReplica
import Ibssa.Proofs.Delivery
