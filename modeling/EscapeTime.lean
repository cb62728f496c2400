import EscapeTime.Main
import EscapeTime.Session
import EscapeTime.Proofs.Admission
import EscapeTime.Proofs.AllOrNothing
import EscapeTime.Proofs.Allocation
import EscapeTime.Proofs.CellMap
import EscapeTime.Proofs.ChunkSizes
import EscapeTime.Proofs.EscapeTimes
import EscapeTime.Proofs.ExactPartition
import EscapeTime.Proofs.ExitCodes
import EscapeTime.Proofs.FailureKinds
import EscapeTime.Proofs.ImageFit
import EscapeTime.Proofs.LoggerInCharge
import EscapeTime.Proofs.PixelMap
import EscapeTime.Proofs.PoolProgress
import EscapeTime.Proofs.PoolSafety
import EscapeTime.Proofs.ReadFailures
import EscapeTime.Proofs.Rendering
import EscapeTime.Proofs.RoundTrip
import EscapeTime.Proofs.Schedules
import EscapeTime.Proofs.Shading
import EscapeTime.Proofs.Truncation
